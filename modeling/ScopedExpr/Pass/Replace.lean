import ScopedExpr.Traversal.Trace

/-!
# Replacing a node

A hook for expressions that exchanges one node as a whole and goes on elsewhere.
-/

namespace ScopedExpr

variable {σ : Type}

/-- Put `new` in the place of the node `old`, wherever it is met, and do not walk into it. -/
def Transformer.replacing (t : Transformer (Traced σ)) (old new : Expr) : Transformer (Traced σ) :=
  { t with
    expr := fun e walk =>
      if e.same old then do
        Traced.event (.replaced e)
        return new
      else t.expr e walk }

end ScopedExpr
