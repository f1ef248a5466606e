import ScopedExpr.Scope.Cell

/-!
# Records

A record holds a cell for every casing of one name. The first casing stands apart; the others are
filed under keys and scanned in an order that nobody relies on. The record as a whole is read and
cleared across all of its cells, and written in the one that holds a value.
-/

namespace ScopedExpr

/-- The casings of one name. -/
structure Record (V : Type) where
  /-- The place of the record in the order in which its storage got its records. -/
  number : Nat
  /-- The casing that the record was made with. -/
  first : Cell V
  /-- The other casings under their keys, in the order in which they are scanned. -/
  overflow : List (String × Cell V) := []
deriving DecidableEq, Repr

variable {V : Type}

/-- A record with one casing, which is unset. -/
def Record.new (number : Nat) (casing : String) : Record V :=
  { number, first := ⟨0, casing, none⟩ }

def Record.others (r : Record V) : List (Cell V) := r.overflow.map Prod.snd

/-- All cells, the first casing in front. -/
def Record.casings (r : Record V) : List (Cell V) := r.first :: r.others

def Record.casingCount (r : Record V) : Nat := r.overflow.length + 1

def Record.cell? (r : Record V) (slot : Nat) : Option (Cell V) :=
  r.casings.find? (·.slot == slot)

/-- The slot of a casing, which is filed under its own name if it is new. -/
def Record.casing (r : Record V) (name : String) : Nat × Record V :=
  if r.first.name == name then (r.first.slot, r)
  else
    match r.overflow.lookup name with
    | some c => (c.slot, r)
    | none =>
      let slot := r.casingCount
      (slot, { r with overflow := r.overflow ++ [(name, ⟨slot, name, none⟩)] })

def Record.mapCells (r : Record V) (f : Cell V → Cell V) : Record V :=
  { r with first := f r.first, overflow := r.overflow.map fun (key, c) => (key, f c) }

/-- The record with the value in one slot set or cleared. -/
def Record.put (r : Record V) (slot : Nat) (v? : Option V) : Record V :=
  r.mapCells fun c => if c.slot = slot then c.put v? else c

/-- Clear the cell in a slot; whether it held a value. -/
def Record.deleteCell (r : Record V) (slot : Nat) : Bool × Record V :=
  ((r.cell? slot).any (·.deleteValue.1),
    r.mapCells fun c => if c.slot = slot then c.deleteValue.2 else c)

/-! ### All casings together -/

/-- The first cell found that holds a value. -/
def Record.holding? (r : Record V) : Option (Cell V) := r.casings.find? Cell.hasValue

def Record.hasValue (r : Record V) : Bool := r.holding?.isSome

/-- The value of the first cell found that holds one. -/
def Record.value? (r : Record V) : Option V := r.casings.findSome? Cell.value?

/-- The value, or the failure that names the first casing. -/
def Record.getValue (r : Record V) : Except NotFound V :=
  match r.value? with
  | some v => .ok v
  | none => .error ⟨r.first.name⟩

/-- Set the value of the cell that holds one already, or of the first casing if none does. -/
def Record.setValue (r : Record V) (v : V) : Record V :=
  r.put (r.holding?.getD r.first).slot (some v)

/-- Clear cells one after another; whether one of them held a value, or `held` was true before. -/
def clearCells (held : Bool) : List (String × Cell V) → Bool × List (String × Cell V)
  | [] => (held, [])
  | (key, c) :: later =>
    let (had, c) := c.deleteValue
    let (held, later) := clearCells (held || had) later
    (held, (key, c) :: later)

/-- Clear every casing; whether any of them held a value. The casings stay. -/
def Record.deleteValue (r : Record V) : Bool × Record V :=
  let (held, first) := r.first.deleteValue
  let (held, overflow) := clearCells held r.overflow
  (held, { r with first, overflow })

/-- The casings that hold a value, with their values. -/
def Record.items (r : Record V) : List (String × V) :=
  r.casings.filterMap fun c => c.value?.map fun v => (c.name, v)

def Record.outline (value : V → Outline) (r : Record V) : Outline :=
  .list (r.casings.map (Cell.outline value))

end ScopedExpr
