import ScopedExpr.Text.Outline
import ScopedExpr.Text.Quoted

/-!
# Cells

A cell holds the value for one exact spelling of a name. It may hold none; that is not the same as
holding a null value.
-/

namespace ScopedExpr

/-- The value under one spelling of a name. -/
structure Cell (V : Type) where
  /-- The place of the cell in the order in which its record got its cells. -/
  slot : Nat
  /-- The spelling. -/
  name : String
  /-- The value, if one is set. -/
  value? : Option V := none
deriving DecidableEq, Repr

/-- A name was read that has no value. -/
structure NotFound where
  /-- The name. -/
  name : String
deriving DecidableEq, Repr

def NotFound.message (e : NotFound) : String := "variable `" ++ e.name ++ "` has no value"

def NotFound.outline (e : NotFound) : Outline :=
  .ofFields "NotFound" [("name", .atom (quoted e.name))]

variable {V : Type}

def Cell.hasValue (c : Cell V) : Bool := c.value?.isSome

/-- The value, or the failure that names the spelling. -/
def Cell.getValue (c : Cell V) : Except NotFound V :=
  match c.value? with
  | some v => .ok v
  | none => .error ⟨c.name⟩

/-- The cell with its value set or, given none, cleared. -/
def Cell.put (c : Cell V) (v? : Option V) : Cell V := { c with value? := v? }

/-- Clear the value; whether there was one. -/
def Cell.deleteValue (c : Cell V) : Bool × Cell V := (c.hasValue, c.put none)

def Cell.outline (value : V → Outline) (c : Cell V) : Outline :=
  .ofFields "ScopeVariable"
    [("name", .atom (quoted c.name)), ("value", .option (c.value?.map value))]

end ScopedExpr
