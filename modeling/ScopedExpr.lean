import ScopedExpr.Pass.Leaves
import ScopedExpr.Pass.Rename
import ScopedExpr.Pass.Replace
import ScopedExpr.Pass.Substitute
import ScopedExpr.Scope.Hosted
import ScopedExpr.Scope.Pool
import ScopedExpr.Proofs.Scope.Record
import ScopedExpr.Proofs.Scope.Storage
import ScopedExpr.Proofs.Scope.Lookup
import ScopedExpr.Proofs.Scope.Run
import ScopedExpr.Proofs.Scope.Flat
import ScopedExpr.Proofs.Text.ByteOrder
import ScopedExpr.Proofs.Scope.Listing
import ScopedExpr.Proofs.Scope.Refinement
import ScopedExpr.Proofs.Forest.Made
import ScopedExpr.Proofs.Traversal.Calls
import ScopedExpr.Proofs.Traversal.WalkBlock
import ScopedExpr.Proofs.Expr.Nodes
import ScopedExpr.Proofs.Traversal.Reach
import ScopedExpr.Proofs.Traversal.Sharing
import ScopedExpr.Proofs.Forest.WellFormed
import ScopedExpr.Proofs.Traversal.WellFormed
import ScopedExpr.Proofs.Scope.Agreement
import ScopedExpr.Proofs.Traversal.Shapes
import ScopedExpr.Proofs.Scope.Transparency
import ScopedExpr.Proofs.Traversal.Recording
import ScopedExpr.Proofs.Expr.Positions
import ScopedExpr.Proofs.Traversal.Pointwise
import ScopedExpr.Proofs.Pass.Substitute
import ScopedExpr.Proofs.Forest.Owned
import ScopedExpr.Proofs.Pass.Rename
import ScopedExpr.Proofs.Scope.Locality
import ScopedExpr.Proofs.Scope.Commute
import ScopedExpr.Proofs.Scope.Handles
import ScopedExpr.Proofs.Scope.ScanOrder
import ScopedExpr.Proofs.Forest.Inventory
import ScopedExpr.Proofs.Traversal.Composition
import ScopedExpr.Proofs.Traversal.Conduct
import ScopedExpr.Proofs.Scope.Counts
import ScopedExpr.Proofs.Scope.Overwrite
import ScopedExpr.Proofs.Scope.Clearing
import ScopedExpr.Proofs.Forest.Contents
import ScopedExpr.Proofs.Forest.Refusals
import ScopedExpr.Proofs.Forest.Rebuild
import ScopedExpr.Proofs.Traversal.LastLeaf
import ScopedExpr.Proofs.Forest.Moves
import ScopedExpr.Proofs.Forest.Views
import ScopedExpr.Proofs.Scope.Guards
import ScopedExpr.Proofs.Scope.Declarations
import ScopedExpr.Proofs.Text.CaseConditions
import ScopedExpr.Proofs.Text.Lowercase
import ScopedExpr.Proofs.Scope.Casings
import ScopedExpr.Proofs.Text.Legible
import ScopedExpr.Proofs.Text.Quoted
import ScopedExpr.Proofs.Text.Literals
import ScopedExpr.Proofs.Expr.Text
import ScopedExpr.Proofs.Forest.Cursors
