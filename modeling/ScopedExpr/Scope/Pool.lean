import ScopedExpr.Scope.Storage

/-!
# Pools

A pool holds cells, records and storages that a host refers to from several places. A cell may
stand alone, in a record that stands alone, or in a record of a storage; whoever refers to the same
one sees what others write into it.
-/

namespace ScopedExpr

/-- Cells and records that stand alone, and storages. -/
structure Pool (V : Type) where
  /-- Cells that belong to no record. -/
  cells : Array (Cell V) := #[]
  /-- Records that belong to no storage. -/
  records : Array (Record V) := #[]
  /-- Storages. -/
  storages : Array (Storage V) := #[]

/-- Where a record is. -/
inductive RecordRef where
  /-- Alone, at a place in the pool. -/
  | alone (index : Nat)
  /-- In a storage, under its number. -/
  | stored (storage number : Nat)
deriving DecidableEq, Repr

/-- Where a cell is. -/
inductive CellRef where
  /-- Alone, at a place in the pool. -/
  | alone (index : Nat)
  /-- In a slot of a record. -/
  | casing (record : RecordRef) (slot : Nat)
deriving DecidableEq, Repr

variable {V : Type}

/-! ### Making things -/

def Pool.newCell (p : Pool V) (name : String) : CellRef × Pool V :=
  (.alone p.cells.size, { p with cells := p.cells.push ⟨0, name, none⟩ })

def Pool.newRecord (p : Pool V) (casing : String) : RecordRef × Pool V :=
  (.alone p.records.size, { p with records := p.records.push (.new 0 casing) })

def Pool.newStorage (p : Pool V) : Nat × Pool V :=
  (p.storages.size, { p with storages := p.storages.push {} })

/-! ### Reading and writing -/

def Pool.storage (p : Pool V) (storage : Nat) : Storage V := p.storages[storage]?.getD {}

def Pool.setStorage (p : Pool V) (storage : Nat) (s : Storage V) : Pool V :=
  { p with storages := p.storages.setIfInBounds storage s }

def Pool.record? (p : Pool V) : RecordRef → Option (Record V)
  | .alone index => p.records[index]?
  | .stored storage number => (p.storage storage).record? number

def Pool.modifyRecord (p : Pool V) (ref : RecordRef) (f : Record V → Record V) : Pool V :=
  match ref with
  | .alone index => { p with records := p.records.modify index f }
  | .stored storage number => p.setStorage storage ((p.storage storage).modify number f)

def Pool.cell? (p : Pool V) : CellRef → Option (Cell V)
  | .alone index => p.cells[index]?
  | .casing record slot => (p.record? record).bind (·.cell? slot)

def Pool.put (p : Pool V) (ref : CellRef) (v? : Option V) : Pool V :=
  match ref with
  | .alone index => { p with cells := p.cells.modify index (·.put v?) }
  | .casing record slot => p.modifyRecord record (·.put slot v?)

/-- Delete something in the record that a reference leads to; whether there was anything. -/
def Pool.deleteIn (p : Pool V) (ref : RecordRef) (delete : Record V → Bool × Record V) :
    Bool × Pool V :=
  ((p.record? ref).any fun r => (delete r).1, p.modifyRecord ref fun r => (delete r).2)

/-- Clear the cell that a reference leads to; whether it held a value. -/
def Pool.deleteCell (p : Pool V) : CellRef → Bool × Pool V
  | .alone index =>
    (p.cells[index]?.any (·.deleteValue.1),
      { p with cells := p.cells.modify index (·.deleteValue.2) })
  | .casing record slot => p.deleteIn record (·.deleteCell slot)

/-- The cell of a casing in a record, which is made if there is none yet. -/
def Pool.casing (p : Pool V) (ref : RecordRef) (name : String) : Option CellRef × Pool V :=
  match p.record? ref with
  | none => (none, p)
  | some r =>
    let (slot, r') := r.casing name
    (some (.casing ref slot), p.modifyRecord ref fun _ => r')

/-- What a handle of a storage leads to. -/
def Handle.target (storage : Nat) : Handle → CellRef ⊕ RecordRef
  | .exact record slot _ => .inl (.casing (.stored storage record) slot)
  | .ignoreCase record _ => .inr (.stored storage record)

end ScopedExpr
