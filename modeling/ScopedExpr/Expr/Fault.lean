import ScopedExpr.Expr.Basic

/-!
# Faults

A factory refuses an invalid argument. Reading a place that is not there, or rebuilding a block with
other counts than it has, is a misuse.
-/

namespace ScopedExpr

/-- The argument of a factory that a fault names. -/
inductive Argument where
  /-- The children of a block of fixed size. -/
  | args
  /-- The children of a block without variables. -/
  | expressions
  /-- The children of a scope. -/
  | body
deriving DecidableEq, Repr

def Argument.text : Argument → String
  | .args => "args"
  | .expressions => "expressions"
  | .body => "body"

/-- Why a factory refuses its arguments. -/
inductive InvalidArgument where
  /-- A block needs at least one child. -/
  | emptySequence (argument : Argument)
  /-- A child has no value. -/
  | unreadable (argument : Argument) (index : Nat) (kind : Kind)
  /-- A declared variable is passed by reference. -/
  | byRefVariable (index : Nat) (name : String)
  /-- A variable is declared a second time. -/
  | duplicateVariable (index : Nat) (name : String)
deriving DecidableEq, Repr

def InvalidArgument.message : InvalidArgument → String
  | .emptySequence argument => "`" ++ argument.text ++ "` must contain at least one expression"
  | .unreadable argument index kind =>
    "expression at position " ++ toString index ++ " of `" ++ argument.text ++ "` is a " ++
      kind.text ++ " and cannot be read"
  | .byRefVariable index name =>
    "variable `" ++ name ++ "` at position " ++ toString index ++ " is a by-reference parameter"
  | .duplicateVariable index name =>
    "variable `" ++ name ++ "` at position " ++ toString index ++ " is declared more than once"

def InvalidArgument.outline : InvalidArgument → Outline
  | .emptySequence argument => .ofFields "EmptySequence" [("param", .atom (quoted argument.text))]
  | .unreadable argument index kind =>
    .ofFields "Unreadable"
      [("param", .atom (quoted argument.text)), ("index", .atom (toString index)),
       ("kind", .atom kind.inspect)]
  | .byRefVariable index name =>
    .ofFields "ByRefVariable" [("index", .atom (toString index)), ("name", .atom (quoted name))]
  | .duplicateVariable index name =>
    .ofFields "DuplicateVariable" [("index", .atom (toString index)), ("name", .atom (quoted name))]

/-- How a block can be misused. -/
inductive Misuse where
  /-- There is no child at this place. -/
  | expressionIndex (index : Nat) (shape : Shape) (count : Nat)
  /-- There is no variable at this place. -/
  | variableIndex (index count : Nat)
  /-- A rebuild was given another number of children than the block has. -/
  | expressionCount (given count : Nat)
  /-- A rebuild was given another number of variables than the block has. -/
  | variableCount (given count : Nat)
  /-- A rebuild was given no child at all. -/
  | noExpression
deriving DecidableEq, Repr

/-- The message for two counts that should agree. -/
def countMessage (what : String) (given count : Nat) : String :=
  "assertion `left == right` failed: rewrite must keep the " ++ what ++ " count of the block\n" ++
    "  left: " ++ toString given ++ "\n right: " ++ toString count

def Misuse.message : Misuse → String
  | .expressionIndex index shape count =>
    "expression index " ++ toString index ++ " out of range for a " ++ shape.text ++ " with " ++
      toString count ++ " expressions"
  | .variableIndex index count =>
    "index out of bounds: the len is " ++ toString count ++ " but the index is " ++ toString index
  | .expressionCount given count => countMessage "expression" given count
  | .variableCount given count => countMessage "variable" given count
  | .noExpression => "internal error: entered unreachable code: blocks hold at least one expression"

/-- The child at a place. -/
def Block.expression {α : Type} (b : Block α) (index : Nat) : Except Misuse α :=
  match b.get? index with
  | some e => .ok e
  | none => .error (.expressionIndex index b.shape b.count)

def Block.declaration {α : Type} (b : Block α) (index : Nat) : Except Misuse Param :=
  match b.declarations[index]? with
  | some p => .ok p
  | none => .error (.variableIndex index b.declarations.length)

end ScopedExpr
