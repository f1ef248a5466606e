import ScopedExpr.Forest.Rebuild

/-!
# Transformers

A transformer gives for every node the node to use in its place. Its hooks keep a state and may
build new nodes. A block is rebuilt only if one of its declarations or children has become another
one.
-/

namespace ScopedExpr

/-- A computation with a state on a growing forest. -/
abbrev TransformM (σ : Type) := StateT σ Rebuild

/-- What to do at each kind of node. By default every node stays and every walk is taken. -/
structure Transformer (σ : Type) where
  /-- At any expression; the walk goes on to the hook of its kind. -/
  expr : Expr → TransformM σ Expr → TransformM σ Expr := fun _ walk => walk
  /-- At a leaf. -/
  leaf : Leaf → TransformM σ Expr := fun l => pure (.leaf l)
  /-- At a variable in the declarations of a block. -/
  declaration : Param → TransformM σ Param := pure
  /-- At a block; the walk goes through its declarations and children. -/
  block : Block Expr → TransformM σ Expr → TransformM σ Expr := fun _ walk => walk

variable {σ : Type}

/-- The block with other declarations and children: itself if all of them are the same ones. -/
def Block.exchange (b : Block Expr) (declarations : List Param) (args : List Expr) : Rebuild Expr :=
  if b.hasDeclarations declarations then
    if b.hasExpressions args then return .block b else b.rebuild none args
  else b.rebuild (some declarations) args

/-- Transform the declarations of a block, then its children in order. -/
def Transformer.walkBlock (t : Transformer σ) (b : Block Expr)
    (kids : List (Unit → TransformM σ Expr)) : TransformM σ Expr := do
  let declarations ← b.declarations.mapM t.declaration
  let args ← kids.mapM fun kid => kid ()
  b.exchange declarations args

def Transformer.transform (t : Transformer σ) : Expr → TransformM σ Expr :=
  Expr.fold (fun l => t.expr (.leaf l) (t.leaf l)) fun b kids =>
    t.expr (.block b) (t.block b (t.walkBlock b kids.expressions))

/-- Enter an expression at the hook of its kind, past the hook for expressions. -/
def Transformer.walk (t : Transformer σ) : Expr → TransformM σ Expr
  | .leaf l => t.leaf l
  | .block b => t.block b (t.walkBlock b (b.expressions.map fun e _ => t.transform e))

/-- Transforming is the hook for expressions around the hook for the kind. -/
theorem Transformer.transform_eq (t : Transformer σ) (e : Expr) :
    t.transform e = t.expr e (t.walk e) := by
  cases e <;> simp [Transformer.transform, Transformer.walk]

/-! ### Rules -/

/-- A transformer with hooks for leaves and declarations only, which goes through the whole tree. -/
structure Rules (σ : Type) where
  /-- At a leaf. -/
  leaf : Leaf → TransformM σ Expr := fun l => pure (.leaf l)
  /-- At a variable in the declarations of a block. -/
  declaration : Param → TransformM σ Param := pure

/-- The transformer with the given rules and the default walks. -/
def Rules.transformer (rules : Rules σ) : Transformer σ where
  leaf := rules.leaf
  declaration := rules.declaration

end ScopedExpr
