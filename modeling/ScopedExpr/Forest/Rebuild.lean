import ScopedExpr.Forest.Factory

/-!
# Rebuilding blocks

A rebuild puts other children into a block without looking at them and keeps the counts. An update
puts in any children and variables, and checks them unless nothing changes.
-/

namespace ScopedExpr

/-- A computation on a forest that may be misused. -/
abbrev Rebuild := ExceptT Misuse Build

/-- The layout for other children, with variables exactly if the block declares some. -/
def Layout.rebuilt {α : Type} (l : Layout α) (declarations? : Option (List Param)) (first : α)
    (rest : List α) : Layout α :=
  if l.shape.isScope then .ofScope (declarations?.getD l.declarations) first rest
  else .ofPlain first rest

/--
What is wrong with the counts of other children and variables; the children are counted first.
-/
def Block.misfit? (b : Block Expr) (declarations? : Option (List Param)) (args : List Expr) :
    Option Misuse :=
  if args.length ≠ b.count then some (.expressionCount args.length b.count)
  else match declarations? with
    | none => none
    | some declarations =>
      if declarations.length ≠ b.declarations.length then
        some (.variableCount declarations.length b.declarations.length)
      else none

/--
A new block with other children, and with other variables if some are given, as many as before.
-/
def Block.rebuild (b : Block Expr) (declarations? : Option (List Param)) (args : List Expr) :
    Rebuild Expr :=
  match b.misfit? declarations? args, args with
  | some misuse, _ => throw misuse
  | none, [] => throw .noExpression
  | none, first :: rest => Build.node (b.layout.rebuilt declarations? first rest)

def Block.hasDeclarations (b : Block Expr) (declarations : List Param) : Bool :=
  declarations.isEqv b.declarations Param.same

def Block.hasExpressions (b : Block Expr) (expressions : List Expr) : Bool :=
  expressions.isEqv b.expressions Expr.same

/-- The block itself if it has exactly these variables and children, else a new block of them. -/
def Block.update (b : Block Expr) (declarations : List Param) (expressions : List Expr) :
    Factory Expr :=
  if b.hasDeclarations declarations && b.hasExpressions expressions then return .block b
  else Build.scope declarations expressions

end ScopedExpr
