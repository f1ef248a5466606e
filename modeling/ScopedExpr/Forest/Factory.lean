import ScopedExpr.Expr.Fault
import ScopedExpr.Forest.Basic

/-!
# Factories

How nodes and parameters come into a forest. The factories of blocks check their arguments first:
the variables, then the children, and last that there is a child at all.
-/

namespace ScopedExpr

/-- A computation on a forest that may refuse its arguments. -/
abbrev Factory := ExceptT InvalidArgument Build

/-! ### Parameters and leaves -/

def Build.param (name? : Option String) (ty : TypeId) (byRef : Bool) : Build Param := do
  let id ← Build.fresh
  return ⟨id, name?, ty, byRef⟩

def Build.localVariable (name : String) (ty : TypeId) : Build Param :=
  Build.param (some name) ty false

/-- A new local variable without a name. -/
def Build.anonymous (ty : TypeId) : Build Param := Build.param none ty false

def Build.byReference (name : String) (ty : TypeId) : Build Param := Build.param (some name) ty true

def Build.typedConstant (value : Value) (ty : TypeId) : Build Expr := do
  let id ← Build.fresh
  return .leaf (.constant ⟨id, value, ty⟩)

/-- A new constant of the type of its value. -/
def Build.constant (value : Value) : Build Expr := Build.typedConstant value value.ty

def Build.placeholder (ty : TypeId) : Build Expr := do
  let id ← Build.fresh
  return .leaf (.placeholder ⟨id, ty⟩)

/-- The node that reads a parameter. -/
def Param.read (p : Param) : Expr := .leaf (.parameter p)

/-! ### Blocks -/

/-- Refuse the first child without a value; `index` is the place of the first child given. -/
def checkReadable (argument : Argument) (index : Nat) : List Expr → Except InvalidArgument Unit
  | [] => .ok ()
  | e :: rest =>
    if e.canRead then checkReadable argument (index + 1) rest
    else .error (.unreadable argument index e.kind)

/-- Refuse the first variable that is passed by reference or has been seen before. -/
def checkVariables (seen : List Param) (index : Nat) : List Param → Except InvalidArgument Unit
  | [] => .ok ()
  | p :: rest =>
    if p.byRef then .error (.byRefVariable index p.displayName)
    else if seen.any (·.same p) then .error (.duplicateVariable index p.displayName)
    else checkVariables (p :: seen) (index + 1) rest

def Build.node (layout : Layout Expr) : Build Expr := do
  let id ← Build.fresh
  return .block ⟨id, layout⟩

/-- A new block whose layout is given with the list of its children. -/
def Build.fixed (layout : Layout Expr) : Factory Expr := do
  checkReadable .args 0 layout.expressions
  Build.node layout

def Build.block2 (a b : Expr) : Factory Expr := Build.fixed (.block2 a b)

def Build.block3 (a b c : Expr) : Factory Expr := Build.fixed (.block3 a b c)

def Build.block4 (a b c d : Expr) : Factory Expr := Build.fixed (.block4 a b c d)

def Build.block5 (a b c d e : Expr) : Factory Expr := Build.fixed (.block5 a b c d e)

/-- A block of any number of expressions but none. -/
def Build.block (expressions : List Expr) : Factory Expr := do
  checkReadable .expressions 0 expressions
  match expressions with
  | [] => throw (.emptySequence .expressions)
  | first :: rest => Build.node (.ofPlain first rest)

/-- A block that declares variables; without any it is a plain block. -/
def Build.scope (declarations : List Param) (body : List Expr) : Factory Expr := do
  if declarations.isEmpty then Build.block body
  else
    checkVariables [] 0 declarations
    checkReadable .body 0 body
    match body with
    | [] => throw (.emptySequence .body)
    | first :: rest => Build.node (.ofScope declarations first rest)

end ScopedExpr
