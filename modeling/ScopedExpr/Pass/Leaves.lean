import ScopedExpr.Forest.Factory
import ScopedExpr.Traversal.Transformer

/-!
# Rules for leaves

Rules that exchange leaves and keep every declaration.
-/

namespace ScopedExpr

variable {σ : Type}

/-- A computation on a forest as part of a transformation. -/
def TransformM.build {α : Type} (x : Build α) : TransformM σ α := (liftM x : Rebuild α)

def Rules.keep : Rules σ := {}

/-- Multiply every integer constant, modulo the word size; each becomes a new node. -/
def Rules.scale (factor : Int64) : Rules σ where
  leaf
    | .constant ⟨_, .int n, _⟩ => TransformM.build (Build.constant (.int (n * factor)))
    | l => return .leaf l

/-- Number the constants, in the order in which they are met, from the count in the state on. -/
def Rules.number : Rules Nat where
  leaf
    | .constant _ => do
      let k ← get
      set (k + 1)
      TransformM.build (Build.constant (.int (Int64.ofNat k)))
    | l => return .leaf l

/-- Put an expression in the place of every placeholder. -/
def Rules.fill (e : Expr) : Rules σ where
  leaf
    | .placeholder _ => return e
    | l => return .leaf l

/-- Put a new placeholder in the place of every read. -/
def Rules.punch : Rules σ where
  leaf
    | .parameter p => TransformM.build (Build.placeholder p.ty)
    | l => return .leaf l

end ScopedExpr
