import ScopedExpr.Value

/-!
# Leaves

The nodes without children, and the parameters that a scope declares. Every node and every parameter
carries a number of its own: two of them are the same exactly if their numbers are, whatever their
contents.
-/

namespace ScopedExpr

/-! ### Parameters -/

/-- A parameter or local variable. -/
structure Param where
  /-- The number that tells this parameter from all others. -/
  id : Nat
  /-- The name; compiler temporaries have none. -/
  name? : Option String
  /-- The static type. -/
  ty : TypeId
  /-- Whether the parameter is passed by reference, which no scope may declare. -/
  byRef : Bool
deriving DecidableEq, Repr

def Param.same (p q : Param) : Bool := p.id == q.id

/-- The name, or an underscore for a parameter without one. -/
def Param.displayName (p : Param) : String := p.name?.getD "_"

def Param.outline (p : Param) : Outline :=
  .ofFields "ParameterExpr"
    [("name", .option (p.name?.map fun name => .atom (quoted name))),
     ("ty", .atom p.ty.inspect), ("by_ref", .atom (boolText p.byRef))]

/-! ### Constants and placeholders -/

/-- A literal value with its static type. -/
structure Constant where
  /-- The number of the node. -/
  id : Nat
  /-- The value. -/
  value : Value
  /-- The static type, which need not be the one of the value. -/
  ty : TypeId

/-- Whether two constants have equal values and one type, be they one node or two. -/
def Constant.equal (a b : Constant) : Bool := a.value == b.value && a.ty == b.ty

/-- An open position of a given type. -/
structure Placeholder where
  /-- The number of the node. -/
  id : Nat
  /-- The static type. -/
  ty : TypeId
deriving DecidableEq, Repr

/-- Whether two placeholders have one type, be they one node or two. -/
def Placeholder.equal (a b : Placeholder) : Bool := a.ty == b.ty

/-! ### Leaves -/

/-- A node without children. -/
inductive Leaf where
  /-- A literal. -/
  | constant (c : Constant)
  /-- A read of a parameter. -/
  | parameter (p : Param)
  /-- An open position. -/
  | placeholder (h : Placeholder)

def Leaf.ty : Leaf → TypeId
  | .constant c => c.ty
  | .parameter p => p.ty
  | .placeholder h => h.ty

def Leaf.canRead : Leaf → Bool
  | .placeholder _ => false
  | _ => true

def Leaf.text : Leaf → String
  | .constant c => "(const " ++ c.value.text ++ ")"
  | .parameter p => "(param " ++ p.displayName ++ ")"
  | .placeholder h => "(hole " ++ h.ty.text ++ ")"

def Leaf.outline : Leaf → Outline
  | .constant c => .ofFields "ConstantExpr" [("value", c.value.outline), ("ty", .atom c.ty.inspect)]
  | .parameter p => p.outline
  | .placeholder h => .ofFields "PlaceholderExpr" [("ty", .atom h.ty.inspect)]

end ScopedExpr
