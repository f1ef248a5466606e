import ScopedExpr.Scope.Record
import ScopedExpr.Text.Lowercase

/-!
# Storage

A storage keeps one record for every name in lower case. To look a name up is to make its record,
and in exact mode its casing, unless they are there. Nothing is ever removed: a cleared cell stays,
and so do the handles that lead to it.
-/

namespace ScopedExpr

/-- Whether a look-up means one spelling of a name or all of them. -/
inductive CaseMode where
  | exact | ignoreCase
deriving DecidableEq, Repr

/-- Records by the lower case of their name. -/
structure Storage (V : Type) where
  /-- The records under their keys, which are distinct. -/
  records : List (String × Record V) := []
deriving DecidableEq, Repr

variable {V : Type}

/-- Whether any spelling of the name has been looked up. -/
def Storage.hasVariable (s : Storage V) (name : String) : Bool :=
  (s.records.lookup (lowercase name)).isSome

def Storage.size (s : Storage V) : Nat := s.records.length

def Storage.isEmpty (s : Storage V) : Bool := s.records.isEmpty

def Storage.record? (s : Storage V) (number : Nat) : Option (Record V) :=
  (s.records.map Prod.snd).find? (·.number == number)

def Storage.modify (s : Storage V) (number : Nat) (f : Record V → Record V) : Storage V where
  records := s.records.map fun (key, r) => (key, if r.number = number then f r else r)

/-- The record of a name, which is made with this spelling if there is none yet. -/
def Storage.recordOf (s : Storage V) (name : String) : Record V × Storage V :=
  let key := lowercase name
  match s.records.lookup key with
  | some r => (r, s)
  | none =>
    let r := Record.new s.records.length name
    (r, ⟨s.records ++ [(key, r)]⟩)

/-! ### Handles -/

/-- A name that has been looked up: one casing, or a record with all of its casings. -/
inductive Handle where
  /-- The cell in a slot of a record, with its spelling. -/
  | exact (record slot : Nat) (name : String)
  /-- A record, with its first casing. -/
  | ignoreCase (record : Nat) (name : String)
deriving DecidableEq, Repr

/-- The spelling of the cell, or the first casing of the record. -/
def Handle.name : Handle → String
  | .exact _ _ name => name
  | .ignoreCase _ name => name

def Handle.isIgnoreCase : Handle → Bool
  | .exact .. => false
  | .ignoreCase .. => true

/-- Whether two handles of one storage lead to the same cell or to the same record. -/
def Handle.same : Handle → Handle → Bool
  | .exact r slot _, .exact r' slot' _ => r == r' && slot == slot'
  | .ignoreCase r _, .ignoreCase r' _ => r == r'
  | _, _ => false

def Handle.value? (h : Handle) (s : Storage V) : Option V :=
  match h with
  | .exact r slot _ => ((s.record? r).bind (·.cell? slot)).bind Cell.value?
  | .ignoreCase r _ => (s.record? r).bind Record.value?

def Handle.hasValue (h : Handle) (s : Storage V) : Bool :=
  match h with
  | .exact r slot _ => ((s.record? r).bind (·.cell? slot)).any Cell.hasValue
  | .ignoreCase r _ => (s.record? r).any Record.hasValue

/-- The value, or the failure that names the handle. -/
def Handle.getValue (h : Handle) (s : Storage V) : Except NotFound V :=
  match h.value? s with
  | some v => .ok v
  | none => .error ⟨h.name⟩

def Handle.setValue (h : Handle) (v : V) (s : Storage V) : Storage V :=
  match h with
  | .exact r slot _ => s.modify r (·.put slot (some v))
  | .ignoreCase r _ => s.modify r (·.setValue v)

/-- Delete something in the record with a number; whether there was anything. -/
def Storage.deleteIn (s : Storage V) (number : Nat) (delete : Record V → Bool × Record V) :
    Bool × Storage V :=
  ((s.record? number).any fun r => (delete r).1, s.modify number fun r => (delete r).2)

/-- Clear the value, in every casing of a record; whether there was one. -/
def Handle.deleteValue (h : Handle) (s : Storage V) : Bool × Storage V :=
  match h with
  | .exact r slot _ => s.deleteIn r (·.deleteCell slot)
  | .ignoreCase r _ => s.deleteIn r Record.deleteValue

def Handle.outline (value : V → Outline) (h : Handle) (s : Storage V) : Outline :=
  match h with
  | .exact r slot _ =>
    .applied "Exact" (((s.record? r).bind (·.cell? slot)).map (Cell.outline value)).toList
  | .ignoreCase r _ => .applied "IgnoreCase" ((s.record? r).map (Record.outline value)).toList

/-! ### Look-ups by name -/

def Storage.getVariable (s : Storage V) (name : String) (mode : CaseMode) : Handle × Storage V :=
  let (r, s) := s.recordOf name
  match mode with
  | .ignoreCase => (.ignoreCase r.number r.first.name, s)
  | .exact =>
    let (slot, r') := r.casing name
    (.exact r.number slot name, s.modify r.number fun _ => r')

def Storage.hasValue (s : Storage V) (name : String) (mode : CaseMode) : Bool × Storage V :=
  let (h, s) := s.getVariable name mode
  (h.hasValue s, s)

def Storage.value? (s : Storage V) (name : String) (mode : CaseMode) : Option V × Storage V :=
  let (h, s) := s.getVariable name mode
  (h.value? s, s)

/-- The value of the name, or the failure that names its casing. -/
def Storage.getValue (s : Storage V) (name : String) (mode : CaseMode) :
    Except NotFound V × Storage V :=
  let (h, s) := s.getVariable name mode
  (h.getValue s, s)

def Storage.setValue (s : Storage V) (name : String) (v : V) (mode : CaseMode) : Storage V :=
  let (h, s) := s.getVariable name mode
  h.setValue v s

/-- Clear the value of the name; whether there was one. -/
def Storage.deleteValue (s : Storage V) (name : String) (mode : CaseMode) : Bool × Storage V :=
  let (h, s) := s.getVariable name mode
  h.deleteValue s

/-! ### Listings -/

def Storage.cells (s : Storage V) : List (Cell V) := s.records.flatMap fun (_, r) => r.casings

/-- The casings that hold a value. -/
def Storage.memberNames (s : Storage V) : List String :=
  (s.cells.filter Cell.hasValue).map Cell.name

def Storage.items (s : Storage V) : List (String × V) := s.records.flatMap fun (_, r) => r.items

/-- Pairs in the order of their names. -/
def sortByName (items : List (String × V)) : List (String × V) :=
  items.mergeSort fun a b => a.1 ≤ b.1

/-- The outline of a storage, which tells the number of records only. -/
def Storage.outline (s : Storage V) : Outline :=
  .labelled "ScopeStorage" [("records", .atom (toString s.size))] true

end ScopedExpr
