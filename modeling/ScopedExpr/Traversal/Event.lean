import ScopedExpr.Expr.Text

/-!
# Events of a traversal

What a traversal meets on its way: leaves, declarations and blocks. `Expr.events` lists them from
the root down, and serves as the order that every traversal is held against.
-/

namespace ScopedExpr

/-- What a traversal meets. -/
inductive Event where
  /-- A leaf. -/
  | leaf (l : Leaf)
  /-- A variable in the declarations of a block. -/
  | declaration (p : Param)
  /-- A block, in front of what is in it. -/
  | block (b : Block Expr)
  /-- A node that is exchanged as a whole. -/
  | replaced (e : Expr)

def Event.isBlock : Event → Bool
  | .block _ => true
  | _ => false

/-- A block itself, then its declarations in order, then the events of its children in order. -/
def Expr.events : Expr → List Event :=
  Expr.fold (fun l => [.leaf l]) fun b kids =>
    .block b :: (b.declarations.map Event.declaration ++ kids.expressions.flatMap fun kid => kid ())

@[simp] theorem Expr.events_leaf (l : Leaf) : (Expr.leaf l).events = [.leaf l] := by
  simp [Expr.events]

@[simp] theorem Expr.events_block (b : Block Expr) :
    (Expr.block b).events =
      .block b :: (b.declarations.map Event.declaration ++ b.expressions.flatMap Expr.events) := by
  simp [Expr.events, List.flatMap_map]

/-- The line that a reader writes for an event. -/
def Event.readLine : Event → String
  | .leaf (.constant c) => "constant " ++ c.value.text ++ " " ++ c.ty.text
  | .leaf (.parameter p) => "parameter " ++ p.displayName
  | .leaf (.placeholder h) => "placeholder " ++ h.ty.text
  | .declaration p => "variable " ++ p.displayName
  | .block b => "block " ++ b.shape.text
  | .replaced _ => "replaced"

/-- The line that a transformer writes for an event. -/
def Event.transformLine : Event → String
  | .leaf l => "leaf " ++ l.text
  | e => e.readLine

end ScopedExpr
