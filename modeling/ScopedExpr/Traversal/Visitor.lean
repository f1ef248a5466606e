import ScopedExpr.Expr.Text

/-!
# Visitors

A visitor reads an expression and keeps a state. It has a hook for every kind of node; the hooks for
expressions and for blocks are handed the walk further down and decide whether to take it.
-/

namespace ScopedExpr

/-- What to do at each kind of node. By default leaves are passed by and every walk is taken. -/
structure Visitor (σ : Type) where
  /-- At any expression; the walk goes on to the hook of its kind. -/
  expr : Expr → StateM σ Unit → StateM σ Unit := fun _ walk => walk
  /-- At a constant. -/
  constant : Constant → StateM σ Unit := fun _ => pure ()
  /-- At a read of a parameter. -/
  parameter : Param → StateM σ Unit := fun _ => pure ()
  /-- At a placeholder. -/
  placeholder : Placeholder → StateM σ Unit := fun _ => pure ()
  /-- At a variable in the declarations of a block. -/
  declaration : Param → StateM σ Unit := fun _ => pure ()
  /-- At a block; the walk goes through its declarations and children. -/
  block : Block Expr → StateM σ Unit → StateM σ Unit := fun _ walk => walk

variable {σ : Type}

def Visitor.leaf (v : Visitor σ) : Leaf → StateM σ Unit
  | .constant c => v.constant c
  | .parameter p => v.parameter p
  | .placeholder h => v.placeholder h

/-- Go through the declarations of a block, then through its children in order. -/
def Visitor.walkBlock (v : Visitor σ) (b : Block Expr) (kids : List (Unit → StateM σ Unit)) :
    StateM σ Unit := do
  b.declarations.forM v.declaration
  kids.forM fun kid => kid ()

def Visitor.visit (v : Visitor σ) : Expr → StateM σ Unit :=
  Expr.fold (fun l => v.expr (.leaf l) (v.leaf l)) fun b kids =>
    v.expr (.block b) (v.block b (v.walkBlock b kids.expressions))

/-- Enter an expression at the hook of its kind, past the hook for expressions. -/
def Visitor.accept (v : Visitor σ) : Expr → StateM σ Unit
  | .leaf l => v.leaf l
  | .block b => v.block b (v.walkBlock b (b.expressions.map fun e _ => v.visit e))

/-- Visiting is the hook for expressions around the hook for the kind. -/
theorem Visitor.visit_eq (v : Visitor σ) (e : Expr) : v.visit e = v.expr e (v.accept e) := by
  cases e <;> simp [Visitor.visit, Visitor.accept]

end ScopedExpr
