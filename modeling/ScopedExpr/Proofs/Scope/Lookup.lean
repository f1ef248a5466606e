import ScopedExpr.Proofs.Scope.Storage

/-!
# Looking names up

To look a name up makes its record and its casing unless they are there, so that the handle leads to
them. A handle that leads somewhere still does so after the storage has grown, and to look its name
up once more gives the same handle and changes nothing.
-/

namespace ScopedExpr

variable {V : Type}

/-- Where a handle leads: to the cell of a spelling, or to the record of a name in any spelling. -/
inductive Handle.LeadsTo (s : Storage V) : Handle → String → CaseMode → Prop where
  | exact {r : Record V} {c : Cell V} (found : s.recordAt? (lowercase c.name) = some r)
      (mem : c ∈ r.casings) : LeadsTo s (.exact r.number c.slot c.name) c.name .exact
  | ignoreCase {r : Record V} {name : String} (found : s.recordAt? (lowercase name) = some r) :
      LeadsTo s (.ignoreCase r.number r.first.name) name .ignoreCase

/-- An ignore-case handle leads to the record of every other spelling as well. -/
lemma Handle.LeadsTo.of_lowercase_eq {s : Storage V} {h : Handle} {name other : String}
    (leads : h.LeadsTo s name .ignoreCase) (same : lowercase other = lowercase name) :
    h.LeadsTo s other .ignoreCase := by
  cases leads with
  | ignoreCase found => exact .ignoreCase (same ▸ found)

/-- Handles survive growth. -/
lemma Handle.LeadsTo.mono {s t : Storage V} (grows : s.Grows t) {h : Handle} {name : String}
    {mode : CaseMode} (leads : h.LeadsTo s name mode) : h.LeadsTo t name mode := by
  cases leads with
  | @exact r c found mem =>
    obtain ⟨r', found', grown⟩ := grows _ r found
    obtain ⟨d, mem', slot, name_eq⟩ := grown.cell_kept c mem
    rw [← grown.number_eq, ← slot, ← name_eq]
    rw [← name_eq] at found'
    exact .exact found' mem'
  | @ignoreCase r _ found =>
    obtain ⟨r', found', grown⟩ := grows _ r found
    rw [← grown.number_eq, ← grown.first_eq]
    exact .ignoreCase found'

/-! ### What a look-up does -/

/-- In exact mode the record of the name is replaced by one that has the casing. -/
lemma Storage.getVariable_exact (s : Storage V) (name : String) :
    s.getVariable name .exact =
      let r := (s.recordOf name).1
      (.exact r.number (r.casing name).1 name,
        (s.recordOf name).2.modify r.number fun _ => (r.casing name).2) := rfl

lemma Storage.getVariable_ignoreCase (s : Storage V) (name : String) :
    s.getVariable name .ignoreCase =
      (.ignoreCase (s.recordOf name).1.number (s.recordOf name).1.first.name,
        (s.recordOf name).2) := rfl

lemma Storage.recordAt?_recordOf_self (s : Storage V) (name : String) :
    (s.recordOf name).2.recordAt? (lowercase name) = some (s.recordOf name).1 := by
  rw [s.recordAt?_recordOf, Function.update_self]

/-- To put the casing of a name into its record harms nothing. -/
lemma Storage.WellFormed.soundChange_casing {s : Storage V} (wf : s.WellFormed) (name key : String)
    (r : Record V) (found : (s.recordOf name).2.recordAt? key = some r)
    (number : r.number = (s.recordOf name).1.number) :
    Record.SoundChange (fun _ => ((s.recordOf name).1.casing name).2) key r := by
  have wf' := wf.recordOf name
  obtain rfl : key = lowercase name :=
    wf'.key_eq_of_number found (s.recordAt?_recordOf_self name) number
  obtain rfl : (s.recordOf name).1 = r :=
    Option.some.inj ((s.recordAt?_recordOf_self name).symm.trans found)
  have wfr := wf'.recordAt? found
  exact ⟨wfr.grows_casing name, fun _ => wfr.casing rfl⟩

namespace Storage.WellFormed

variable {s : Storage V}

lemma getVariable (wf : s.WellFormed) (name : String) (mode : CaseMode) :
    (s.getVariable name mode).2.WellFormed := by
  cases mode with
  | exact => exact (wf.recordOf name).modify (wf.soundChange_casing name)
  | ignoreCase => exact wf.recordOf name

lemma grows_getVariable (wf : s.WellFormed) (name : String) (mode : CaseMode) :
    s.Grows (s.getVariable name mode).2 := by
  cases mode with
  | exact =>
    exact (s.grows_recordOf name).trans (Storage.grows_modify (wf.soundChange_casing name))
  | ignoreCase => exact s.grows_recordOf name

/-- The handle of a look-up leads where it should. -/
lemma leadsTo_getVariable (wf : s.WellFormed) (name : String) (mode : CaseMode) :
    (s.getVariable name mode).1.LeadsTo (s.getVariable name mode).2 name mode := by
  cases mode with
  | ignoreCase => exact .ignoreCase (s.recordAt?_recordOf_self name)
  | exact =>
    have wf' := wf.recordOf name
    have found := s.recordAt?_recordOf_self name
    have wfr := wf'.recordAt? found
    have number := (wfr.grows_casing name).number_eq
    obtain ⟨c, mem, slot, name_eq⟩ := wfr.mem_casing name
    have leads : Handle.LeadsTo (s.getVariable name .exact).2
        (.exact ((s.recordOf name).1.casing name).2.number c.slot c.name) c.name .exact := by
      refine .exact ?_ mem
      rw [Storage.getVariable_exact, name_eq, wf'.recordAt?_modify found, Function.update_self]
    rwa [number, slot, name_eq] at leads

/-- To look up a name again changes nothing. -/
lemma getVariable_of_leadsTo (wf : s.WellFormed) {h : Handle} {name : String} {mode : CaseMode}
    (leads : h.LeadsTo s name mode) : s.getVariable name mode = (h, s) := by
  have again : ∀ {name : String} {r : Record V}, s.recordAt? (lowercase name) = some r →
      s.recordOf name = (r, s) := by
    intro name r found
    rcases s.recordOf_cases name with ⟨r', found', eq⟩ | ⟨absent, -⟩
    · rw [eq, Option.some.inj (found'.symm.trans found)]
    · cases absent.symm.trans found
  cases leads with
  | ignoreCase found => rw [Storage.getVariable_ignoreCase, again found]
  | @exact r c found mem =>
    have unchanged : (s.modify r.number fun _ => r) = s := wf.modify_eq_self found rfl
    rw [Storage.getVariable_exact, again found]
    dsimp only
    rw [(wf.recordAt? found).casing_of_mem mem, unchanged]

end Storage.WellFormed

end ScopedExpr
