/-!
# Type identifiers

The static type of an expression is a number. The numbers below 16 are reserved; six of them have
names.
-/

namespace ScopedExpr

/-- Identifier of a static type. -/
structure TypeId where
  /-- The number that stands for the type. -/
  raw : UInt32
deriving DecidableEq, Repr

/-- The type of untyped values, the null value among them. -/
def TypeId.object : TypeId := ⟨0⟩
/-- The type without values. -/
def TypeId.void : TypeId := ⟨1⟩
def TypeId.bool : TypeId := ⟨2⟩
def TypeId.int : TypeId := ⟨3⟩
def TypeId.float : TypeId := ⟨4⟩
def TypeId.str : TypeId := ⟨5⟩

instance : Inhabited TypeId := ⟨.object⟩

def TypeId.firstHost : UInt32 := 16

def TypeId.isPrimitive (t : TypeId) : Bool := t.raw < TypeId.firstHost

def TypeId.isVoid (t : TypeId) : Bool := t == TypeId.void

/-- The name of a named type, in lower case and in capitals. -/
def TypeId.name? (t : TypeId) : Option (String × String) :=
  if t = .object then some ("object", "OBJECT")
  else if t = .void then some ("void", "VOID")
  else if t = .bool then some ("bool", "BOOL")
  else if t = .int then some ("int", "INT")
  else if t = .float then some ("float", "FLOAT")
  else if t = .str then some ("str", "STR")
  else none

/-- The text of a type: its name, or its number behind `type#`. -/
def TypeId.text (t : TypeId) : String :=
  match t.name? with
  | some (lower, _) => lower
  | none => "type#" ++ toString t.raw.toNat

/-- The text of a type inside an outline. -/
def TypeId.inspect (t : TypeId) : String :=
  match t.name? with
  | some (_, capitals) => "TypeId::" ++ capitals
  | none => "TypeId(" ++ toString t.raw.toNat ++ ")"

end ScopedExpr
