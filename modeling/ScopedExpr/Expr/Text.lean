import ScopedExpr.Expr.Basic

/-!
# Texts of expressions

The surface text in parentheses, the outline, and the listing of all nodes from the root down.
-/

namespace ScopedExpr

/-- The text that opens a block: its variables in brackets if it declares any. -/
def Block.head {α : Type} (b : Block α) : String :=
  if b.isScope then "(scope [" ++ " ".intercalate (b.declarations.map Param.displayName) ++ "]"
  else "(block"

def Expr.text : Expr → String :=
  Expr.fold Leaf.text fun b kids =>
    b.head ++ String.join (kids.expressions.map fun kid => " " ++ kid ()) ++ ")"

@[simp] theorem Expr.text_leaf (l : Leaf) : (Expr.leaf l).text = l.text := by simp [Expr.text]

theorem Expr.text_block (b : Block Expr) :
    (Expr.block b).text =
      b.head ++ String.join (b.expressions.map fun e => " " ++ e.text) ++ ")" := by
  simp [Expr.text, Function.comp_def]

def Expr.outline : Expr → Outline :=
  Expr.fold Leaf.outline fun b kids =>
    .ofFields "BlockExpr"
      [("shape", .atom b.shape.text), ("variables", .list (b.declarations.map Param.outline)),
       ("expressions", .list (kids.expressions.map fun kid => kid ()))]

/-- The nodes from an expression at a given depth down, in front of the nodes listed already. -/
def Expr.nodesFrom : Expr → Nat → List (Nat × Expr) → List (Nat × Expr) :=
  Expr.fold (fun l depth listed => (depth, .leaf l) :: listed) fun b kids depth listed =>
    (depth, .block b) ::
      kids.expressions.foldr (fun kid listed => kid () (depth + 1) listed) listed

/-- Every node with its depth, a block in front of its children. -/
def Expr.nodes (e : Expr) : List (Nat × Expr) := e.nodesFrom 0 []

end ScopedExpr
