import ScopedExpr.Proofs.Scope.Flat

/-!
# Locality

What is done with the variable of a name is done in one record. The answer depends on what is in
this record, and all other records stay as they are. The number of the record does not matter: it
shows only in handles.
-/

namespace ScopedExpr

variable {V : Type}

/-! ### One record -/

def Record.lookUp (r : Record V) (name : String) : CaseMode → Record V
  | .exact => (r.casing name).2
  | .ignoreCase => r

/-- What is done with the variable of a name, as far as its record goes. -/
def Record.act (r : Record V) (name : String) (mode : CaseMode) (a : Action V) :
    Answer V × Record V :=
  let looked := r.lookUp name mode
  match mode, a with
  | .exact, .hasValue => (.truth ((looked.cell? (r.casing name).1).any Cell.hasValue), looked)
  | .exact, .value? => (.value? ((looked.cell? (r.casing name).1).bind Cell.value?), looked)
  | .exact, .getValue =>
    (.result (valueOr name ((looked.cell? (r.casing name).1).bind Cell.value?)), looked)
  | .exact, .setValue v => (.done, looked.put (r.casing name).1 (some v))
  | .exact, .deleteValue =>
    (.truth (looked.deleteCell (r.casing name).1).1, (looked.deleteCell (r.casing name).1).2)
  | .ignoreCase, .hasValue => (.truth looked.hasValue, looked)
  | .ignoreCase, .value? => (.value? looked.value?, looked)
  | .ignoreCase, .getValue => (.result looked.getValue, looked)
  | .ignoreCase, .setValue v => (.done, looked.setValue v)
  | .ignoreCase, .deleteValue => (.truth looked.deleteValue.1, looked.deleteValue.2)

/-- All that is in a record, which is the record without its number. -/
def Record.contents (r : Record V) : Cell V × List (String × Cell V) := (r.first, r.overflow)

/-- The number of a record has no part in what is done with its variables. -/
lemma Record.act_congr {r r' : Record V} (same : r.contents = r'.contents) (name : String)
    (mode : CaseMode) (a : Action V) :
    (r.act name mode a).1 = (r'.act name mode a).1 ∧
      (r.act name mode a).2.contents = (r'.act name mode a).2.contents := by
  obtain ⟨number, first, overflow⟩ := r
  obtain ⟨number', first', overflow'⟩ := r'
  cases same
  cases mode with
  | ignoreCase => cases a <;> exact ⟨rfl, rfl⟩
  | exact =>
    simp only [act, lookUp, casing, casingCount]
    cases first.name == name
    · cases overflow.lookup name <;> cases a <;> exact ⟨rfl, rfl⟩
    · cases a <;> exact ⟨rfl, rfl⟩

/-! ### The record of a name -/

namespace Storage.WellFormed

variable {s : Storage V}

/-- A look-up changes the record of its name at most. -/
lemma recordAt?_getVariable (wf : s.WellFormed) (name : String) (mode : CaseMode) :
    (s.getVariable name mode).2.recordAt? = Function.update s.recordAt? (lowercase name)
      (some ((s.recordOf name).1.lookUp name mode)) := by
  cases mode with
  | ignoreCase => exact s.recordAt?_recordOf name
  | exact =>
    have modified := (wf.recordOf name).recordAt?_modify (s.recordAt?_recordOf_self name)
      fun _ => ((s.recordOf name).1.casing name).2
    rw [s.recordAt?_recordOf, Function.update_idem] at modified
    exact modified

lemma recordAt?_getVariable_self (wf : s.WellFormed) (name : String) (mode : CaseMode) :
    (s.getVariable name mode).2.recordAt? (lowercase name) =
      some ((s.recordOf name).1.lookUp name mode) := by
  rw [wf.recordAt?_getVariable, Function.update_self]

lemma number_lookUp (wf : s.WellFormed) (name : String) (mode : CaseMode) :
    ((s.recordOf name).1.lookUp name mode).number = (s.recordOf name).1.number := by
  cases mode with
  | ignoreCase => rfl
  | exact =>
    have wfr := (wf.recordOf name).recordAt? (s.recordAt?_recordOf_self name)
    exact (wfr.grows_casing name).number_eq

/-- The number in the handle leads to the record. -/
lemma record?_getVariable (wf : s.WellFormed) (name : String) (mode : CaseMode) :
    (s.getVariable name mode).2.record? (s.recordOf name).1.number =
      some ((s.recordOf name).1.lookUp name mode) := by
  rw [← wf.number_lookUp name mode]
  exact (wf.getVariable name mode).record?_number (wf.recordAt?_getVariable_self name mode)

lemma recordAt?_modify_getVariable (wf : s.WellFormed) (name : String) (mode : CaseMode)
    (f : Record V → Record V) :
    ((s.getVariable name mode).2.modify (s.recordOf name).1.number f).recordAt? =
      Function.update s.recordAt? (lowercase name)
        (some (f ((s.recordOf name).1.lookUp name mode))) := by
  rw [← wf.number_lookUp name mode, (wf.getVariable name mode).recordAt?_modify
    (wf.recordAt?_getVariable_self name mode), wf.recordAt?_getVariable, Function.update_idem]

/-- What is done with the variable of a name is done in its record. -/
lemma act_local (wf : s.WellFormed) (name : String) (mode : CaseMode) (a : Action V) :
    (s.act name mode a).1 = ((s.recordOf name).1.act name mode a).1 ∧
    (s.act name mode a).2.recordAt? = Function.update s.recordAt? (lowercase name)
      (some ((s.recordOf name).1.act name mode a).2) := by
  have looked := wf.recordAt?_getVariable name mode
  have record := wf.record?_getVariable name mode
  have modified := wf.recordAt?_modify_getVariable name mode
  rw [Storage.act_eq]
  cases mode with
  | exact =>
    let cell? := ((s.recordOf name).1.lookUp name .exact).cell? ((s.recordOf name).1.casing name).1
    have has : (s.getVariable name .exact).1.hasValue (s.getVariable name .exact).2 =
        cell?.any Cell.hasValue := by
      rw [Storage.getVariable_exact] at record ⊢
      simp only [Handle.hasValue, record, Option.bind_some, cell?]
    have value : (s.getVariable name .exact).1.value? (s.getVariable name .exact).2 =
        cell?.bind Cell.value? := by
      rw [Storage.getVariable_exact] at record ⊢
      simp only [Handle.value?, record, Option.bind_some, cell?]
    cases a with
    | hasValue => exact ⟨congrArg Answer.truth has, looked⟩
    | value? => exact ⟨congrArg Answer.value? value, looked⟩
    | getValue => exact ⟨congrArg (fun v? => Answer.result (valueOr name v?)) value, looked⟩
    | setValue v => exact ⟨rfl, modified _⟩
    | deleteValue =>
      rw [Handle.act, Handle.deleteValue_eq]
      exact ⟨congrArg Answer.truth has, modified _⟩
  | ignoreCase =>
    let r := (s.recordOf name).1
    have has : (s.getVariable name .ignoreCase).1.hasValue (s.getVariable name .ignoreCase).2 =
        r.hasValue := by
      rw [Storage.getVariable_ignoreCase] at record ⊢
      simp only [Handle.hasValue, record, Option.any_some, Record.lookUp, r]
    have value : (s.getVariable name .ignoreCase).1.value? (s.getVariable name .ignoreCase).2 =
        r.value? := by
      rw [Storage.getVariable_ignoreCase] at record ⊢
      simp only [Handle.value?, record, Option.bind_some, Record.lookUp, r]
    cases a with
    | hasValue => exact ⟨congrArg Answer.truth has, looked⟩
    | value? => exact ⟨congrArg Answer.value? value, looked⟩
    | getValue => exact ⟨congrArg (fun v? => Answer.result (valueOr r.first.name v?)) value, looked⟩
    | setValue v => exact ⟨rfl, modified _⟩
    | deleteValue =>
      rw [Handle.act, Handle.deleteValue_eq, Record.act, Record.deleteValue_eq]
      exact ⟨congrArg Answer.truth has, modified _⟩

end Storage.WellFormed

/-! ### Contents under a key -/

def Storage.contents? (s : Storage V) (key : String) : Option (Cell V × List (String × Cell V)) :=
  (s.recordAt? key).map Record.contents

/-- The record of a name is the one that is found, or has one casing, which is unset. -/
lemma Storage.contents_recordOf (s : Storage V) (name : String) :
    (s.recordOf name).1.contents =
      (s.contents? (lowercase name)).getD (⟨0, name, none⟩, []) := by
  rcases s.recordOf_cases name with ⟨r, found, eq⟩ | ⟨absent, eq⟩
  · simp [contents?, found, eq]
  · simp [contents?, absent, eq, Record.new, Record.contents]

/-- Storages with the same under a key find the same record of a name, or make the same. -/
lemma Storage.contents_recordOf_congr {s t : Storage V} {name : String}
    (same : s.contents? (lowercase name) = t.contents? (lowercase name)) :
    (s.recordOf name).1.contents = (t.recordOf name).1.contents := by
  rw [s.contents_recordOf, t.contents_recordOf, same]

namespace Storage.WellFormed

variable {s t : Storage V}

/-- What is done with a name changes what is under its key and nothing else. -/
lemma contents?_act (wf : s.WellFormed) (name : String) (mode : CaseMode) (a : Action V) :
    (s.act name mode a).2.contents? = Function.update s.contents? (lowercase name)
      (some ((s.recordOf name).1.act name mode a).2.contents) := by
  ext1 key
  rw [Storage.contents?, (wf.act_local name mode a).2]
  by_cases same : key = lowercase name
  · subst same
    simp
  · rw [Function.update_of_ne same, Function.update_of_ne same, Storage.contents?]

/-- From the same contents under the key of the name come the same answer and the same contents. -/
lemma act_eq_of_contents (wf : s.WellFormed) (wf' : t.WellFormed) (name : String)
    (mode : CaseMode) (a : Action V)
    (same : s.contents? (lowercase name) = t.contents? (lowercase name)) :
    (s.act name mode a).1 = (t.act name mode a).1 ∧
    (s.act name mode a).2.contents? (lowercase name) =
      (t.act name mode a).2.contents? (lowercase name) := by
  obtain ⟨answer_eq, contents_eq⟩ :=
    Record.act_congr (Storage.contents_recordOf_congr same) name mode a
  rw [(wf.act_local name mode a).1, (wf'.act_local name mode a).1, wf.contents?_act,
    wf'.contents?_act, Function.update_self, Function.update_self, contents_eq]
  exact ⟨answer_eq, rfl⟩

end Storage.WellFormed

/-! ### Requests on a name -/

/-- Whether the request is about the variable of the name. -/
inductive Request.On (name : String) : Request V → Prop where
  | getVariable (mode : CaseMode) : On name (.getVariable name mode)
  | act (mode : CaseMode) (a : Action V) : On name (.act name mode a)
  | hasVariable : On name (.hasVariable name)

namespace Request.On

variable {s t : Storage V} {key name : String} {q : Request V}

/-- A request on a name leaves alone what is under other keys. -/
lemma contents?_of_ne (on : q.On name) (wf : s.WellFormed) (other : key ≠ lowercase name) :
    (s.answer q).2.contents? key = s.contents? key := by
  cases on with
  | getVariable mode =>
    exact (congrFun (wf.contents?_act name mode .hasValue) key).trans
      (Function.update_of_ne other _ _)
  | act mode a =>
    exact (congrFun (wf.contents?_act name mode a) key).trans (Function.update_of_ne other _ _)
  | hasVariable => rfl

/-- What a request about a name leaves under its key depends on what is there before. -/
lemma contents?_eq (on : q.On name) (wf : s.WellFormed) (wf' : t.WellFormed)
    (same : s.contents? (lowercase name) = t.contents? (lowercase name)) :
    (s.answer q).2.contents? (lowercase name) = (t.answer q).2.contents? (lowercase name) := by
  cases on with
  | getVariable mode => exact (wf.act_eq_of_contents wf' name mode .hasValue same).2
  | act mode a => exact (wf.act_eq_of_contents wf' name mode a same).2
  | hasVariable => exact same

end Request.On

end ScopedExpr
