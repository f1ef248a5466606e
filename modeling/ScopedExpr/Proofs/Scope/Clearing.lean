import ScopedExpr.Proofs.Scope.Listing
import ScopedExpr.Proofs.Scope.Locality
import ScopedExpr.Proofs.Scope.Overwrite
import ScopedExpr.Proofs.Scope.Refinement

/-!
# Clearing a name in all of its spellings

To delete a name in ignore-case mode clears all cells of its record. Nothing is taken away: the
cells and the handles that lead to them stay, and may be written again. No other record is touched.
-/

namespace ScopedExpr

variable {V : Type}

/-! ### A key without values -/

def Flat.Unset (m : Flat V) (key : String) : Prop :=
  ∀ name, lowercase name = key → m.members name = none

namespace Flat

variable {m m' : Flat V} {key name : String} {pick : String → Option String} {mode : CaseMode}
  {answer : Answer V}

lemma unset_clear (m : Flat V) (key : String) : (m.clear key).Unset key := by
  intro name same
  rw [clear]
  exact if_pos same

lemma Unset.not_holds (unset : m.Unset key) : ¬ m.Holds key := by
  rintro ⟨name, same, holds⟩
  exact holds (unset name same)

/-- Where no spelling has a value, none is chosen. -/
lemma Unset.pick_eq (unset : m.Unset key) (chooses : m.Chooses pick) : pick key = none := by
  cases picked : pick key with
  | none => rfl
  | some name =>
    obtain ⟨same, holds⟩ := chooses.picked_holds key name picked
    exact absurd (unset name same) holds

lemma Acts.hasValue_of_unset (acts : Flat.Acts pick m name mode .hasValue answer m')
    (unset : m.Unset (lowercase name)) : answer = .truth false := by
  cases acts with
  | hasExact => rw [unset name rfl]; rfl
  | @hasIgnoreCase b holds =>
    have none : ¬ b = true := mt holds.mp unset.not_holds
    rw [Bool.eq_false_of_not_eq_true none]

lemma Acts.value?_of_unset (acts : Flat.Acts pick m name mode .value? answer m')
    (unset : m.Unset (lowercase name)) (chooses : m.Chooses pick) : answer = .value? none := by
  cases acts with
  | valueExact => rw [unset name rfl]
  | valueIgnoreCase => rw [unset.pick_eq chooses]; rfl

end Flat

namespace Storage.WellFormed

variable {s : Storage V} {key name : String} {mode : CaseMode} {h : Handle}

/-- A key holds a value exactly if a cell of one of its spellings does. -/
lemma holds_iff_cells (wf : s.WellFormed) :
    s.flat.Holds key ↔ ∃ c ∈ s.cells, lowercase c.name = key ∧ c.hasValue = true := by
  have held (name : String) : s.flat.members name ≠ none ↔
      ∃ c ∈ s.cells, c.hasValue = true ∧ c.name = name := by
    rw [← wf.mem_memberNames, Storage.memberNames, List.mem_map]
    simp only [List.mem_filter, and_assoc]
  constructor
  · rintro ⟨name, same, holds⟩
    obtain ⟨c, hc, has, rfl⟩ := (held name).mp holds
    exact ⟨c, hc, same, has⟩
  · rintro ⟨c, hc, same, has⟩
    exact ⟨c.name, same, (held c.name).mpr ⟨c, hc, has, rfl⟩⟩

/-- A handle that leads to a key without values finds none. -/
lemma handle_unset (wf : s.WellFormed) (unset : s.flat.Unset (lowercase name))
    (leads : h.LeadsTo s name mode) : h.hasValue s = false ∧ h.value? s = none := by
  have has := (wf.acts leads .hasValue).hasValue_of_unset unset
  have value := (wf.acts leads .value?).value?_of_unset unset wf.chooses_pick
  exact ⟨Answer.truth.inj has, Answer.value?.inj value⟩

/-- What is written through a handle is what its name reads. -/
lemma value?_setValue (wf : s.WellFormed) (leads : h.LeadsTo s name mode) (v : V) :
    ((h.setValue v s).value? name mode).1 = some v := by
  have wf' : (h.setValue v s).WellFormed := (h.evolves_act s (.setValue v) wf).1
  have leads' : h.LeadsTo (h.setValue v s) name mode :=
    leads.mono (h.evolves_act s (.setValue v) wf).2
  rw [Storage.value?, wf'.getVariable_of_leadsTo leads']
  cases leads with
  | @exact r c found mem =>
    have written : ((Handle.exact r.number c.slot c.name).setValue v s).flat =
        s.flat.write c.name (some v) := wf.flat_put found mem rfl
    have read := wf'.acts leads' .value?
    simp only [Handle.act, written] at read ⊢
    generalize Handle.value? _ _ = value? at read ⊢
    cases read
    exact Function.update_self ..
  | @ignoreCase r name found =>
    have written : (s.modify r.number (·.setValue v)).recordAt? (lowercase name) =
        some (r.setValue v) := by
      rw [wf.recordAt?_modify found, Function.update_self]
    have read : (s.modify r.number (·.setValue v)).record? r.number = some (r.setValue v) :=
      wf'.record?_number written
    simp only [Handle.value?, Handle.setValue, read, Option.bind_some]
    exact Record.value?_setValue (wf.recordAt? found).slots_nodup v

/-! ### What a deletion does -/

/-- The model forgets the values of the key, and the answer tells whether there was one. -/
lemma flat_deleteValue (wf : s.WellFormed) (name : String) :
    ((s.deleteValue name .ignoreCase).1 = true ↔ s.flat.Holds (lowercase name)) ∧
      (s.deleteValue name .ignoreCase).2.flat = (s.flat.touch name).clear (lowercase name) := by
  have acts := wf.acts_act name .ignoreCase .deleteValue
  simp only [Storage.act] at acts
  generalize (s.deleteValue name .ignoreCase).1 = b,
    (s.deleteValue name .ignoreCase).2.flat = m at acts ⊢
  cases acts with
  | deleteIgnoreCase holds => exact ⟨holds, rfl⟩

/-- After an ignore-case deletion no spelling of the name has a value. -/
lemma unset_deleteValue (wf : s.WellFormed) (name : String) :
    (s.deleteValue name .ignoreCase).2.flat.Unset (lowercase name) := by
  rw [(wf.flat_deleteValue name).2]
  exact Flat.unset_clear _ _

/-- The record of the name is cleared, and the records of other keys stay as they are. -/
lemma recordAt?_deleteValue (wf : s.WellFormed) (name : String) :
    (s.deleteValue name .ignoreCase).2.recordAt? = Function.update s.recordAt? (lowercase name)
      (some (s.recordOf name).1.cleared) := by
  have changed := (wf.act_local name .ignoreCase .deleteValue).2
  rwa [Record.act, Record.deleteValue_eq] at changed

/-- A record that was there keeps its number and its cells. -/
lemma recordAt?_deleteValue_of_some (wf : s.WellFormed) (name : String) {r : Record V}
    (found : s.recordAt? key = some r) :
    ∃ r', (s.deleteValue name .ignoreCase).2.recordAt? key = some r' ∧ r'.number = r.number ∧
      r'.casings.map Cell.place = r.casings.map Cell.place ∧ r'.casingCount = r.casingCount := by
  rw [wf.recordAt?_deleteValue]
  by_cases own : key = lowercase name
  · subst own
    have same : (s.recordOf name).1 = r := by
      rcases s.recordOf_cases name with ⟨r', found', eq⟩ | ⟨absent, -⟩
      · rw [eq, Option.some.inj (found'.symm.trans found)]
      · cases absent.symm.trans found
    rw [Function.update_self, same]
    refine ⟨_, rfl, rfl, ?_, ?_⟩
    · simp [Record.cleared]
    · simp [Record.cleared, Record.mapCells, Record.casingCount]
  · rw [Function.update_of_ne own]
    exact ⟨r, found, rfl, rfl, rfl⟩

/-- Where nothing is left to delete, a deletion changes nothing. -/
lemma deleteValue_of_cleared (wf : s.WellFormed) {r : Record V}
    (found : s.recordAt? (lowercase name) = some r) (cleared : r.cleared = r)
    (unset : s.flat.Unset (lowercase name)) : s.deleteValue name .ignoreCase = (false, s) := by
  have leads := Handle.LeadsTo.ignoreCase found
  rw [Storage.deleteValue, wf.getVariable_of_leadsTo leads]
  dsimp only
  rw [Handle.deleteValue_eq]
  exact Prod.ext (wf.handle_unset unset leads).1 (wf.modify_eq_self found cleared)

/-- A second deletion, of whatever spelling, finds nothing and changes nothing. -/
lemma deleteValue_again (wf : s.WellFormed) {other : String}
    (same : lowercase other = lowercase name) :
    (s.deleteValue name .ignoreCase).2.deleteValue other .ignoreCase =
      (false, (s.deleteValue name .ignoreCase).2) := by
  have wf' := (s.evolves_act name .ignoreCase .deleteValue wf).1
  have found : (s.deleteValue name .ignoreCase).2.recordAt? (lowercase other) =
      some (s.recordOf name).1.cleared := by
    rw [same, wf.recordAt?_deleteValue, Function.update_self]
  have cleared : (s.recordOf name).1.cleared.cleared = (s.recordOf name).1.cleared := by
    simp [Record.cleared, Record.mapCells, Cell.put]
  exact wf'.deleteValue_of_cleared found cleared (same ▸ wf.unset_deleteValue name)

end Storage.WellFormed

/--
To delete a name in ignore-case mode tells whether some spelling of its key had a value. Afterwards
none has, neither by a new look-up nor through a handle that was taken before; what is under other
keys is as it was. All records and cells are still there: a handle is what a look-up still gives,
and what is written through it is read under its name. To delete any spelling of the key once more
finds nothing and changes nothing.
-/
theorem Storage.Reachable.deleteValue_clears {s : Storage V} (reachable : s.Reachable)
    (name : String) :
    let t := (s.deleteValue name .ignoreCase).2
    ((s.deleteValue name .ignoreCase).1 = true ↔
      ∃ c ∈ s.cells, lowercase c.name = lowercase name ∧ c.hasValue = true) ∧
    (∀ c ∈ t.cells, lowercase c.name = lowercase name → c.hasValue = false) ∧
    (∀ other mode, lowercase other = lowercase name →
      (t.hasValue other mode).1 = false ∧ (t.value? other mode).1 = none) ∧
    (∀ (s₀ s₁ : Storage V) other mode h, s₀.Reachable → s₀.getVariable other mode = (h, s₁) →
        s₁.Reaches s →
      (lowercase other = lowercase name → h.hasValue t = false ∧ h.value? t = none) ∧
      t.getVariable other mode = (h, t) ∧
      ∀ v, ((h.setValue v t).value? other mode).1 = some v) ∧
    (∀ key, key ≠ lowercase name → t.recordAt? key = s.recordAt? key) ∧
    (∀ key r, s.recordAt? key = some r → ∃ r', t.recordAt? key = some r' ∧ r'.number = r.number ∧
      r'.casings.map Cell.place = r.casings.map Cell.place ∧ r'.casingCount = r.casingCount) ∧
    ∀ other, lowercase other = lowercase name → t.deleteValue other .ignoreCase = (false, t) := by
  intro t
  have wf := reachable.wellFormed
  obtain ⟨wft, grows⟩ : t.WellFormed ∧ s.Grows t := s.evolves_act name .ignoreCase .deleteValue wf
  have unset : t.flat.Unset (lowercase name) := wf.unset_deleteValue name
  refine ⟨?_, ?_, ?_, ?_, ?_, fun key r => wf.recordAt?_deleteValue_of_some name,
    fun other => wf.deleteValue_again⟩
  · rw [← wf.holds_iff_cells]
    exact (wf.flat_deleteValue name).1
  · intro c hc same
    rw [← Bool.not_eq_true]
    intro has
    exact unset.not_holds (wft.holds_iff_cells.mpr ⟨c, hc, same, has⟩)
  · intro other mode same
    have unset' : (t.getVariable other mode).2.flat.Unset (lowercase other) := by
      rw [wft.flat_getVariable, same]
      exact unset
    exact (wft.getVariable other mode).handle_unset unset' (wft.leadsTo_getVariable other mode)
  · intro s₀ s₁ other mode h reachable₀ taken later
    have wf₀ := reachable₀.wellFormed
    have leads₁ := wf₀.leadsTo_getVariable other mode
    have wf₁ := wf₀.getVariable other mode
    rw [taken] at leads₁ wf₁
    have leads : h.LeadsTo t other mode := (leads₁.mono (later.evolves wf₁).2).mono grows
    refine ⟨fun same => ?_, wft.getVariable_of_leadsTo leads, wft.value?_setValue leads⟩
    rw [← same] at unset
    exact wft.handle_unset unset leads
  · intro key other
    rw [wf.recordAt?_deleteValue, Function.update_of_ne other]

/--
The only value is under a second spelling. The cell of the first one, taken at the start, is still
there after the deletion and can be written.
-/
theorem Storage.Reachable.deleteValue_clears_respelled :
    let box := ({} : Storage Nat).getVariable "Key" .exact
    let s := ((box.2.perform (.storage (.act "kEY" .exact (.setValue 1)))).2.perform
      (.storage (.act "other" .exact (.setValue 2)))).2
    let t := (s.deleteValue "KEY" .ignoreCase).2
    (s.deleteValue "KEY" .ignoreCase).1 = true ∧ (t.hasValue "kEY" .exact).1 = false ∧
      t.recordAt? "other" = s.recordAt? "other" ∧ t.getVariable "Key" .exact = (box.1, t) ∧
      ((box.1.setValue 3 t).value? "Key" .exact).1 = some 3 ∧
      t.deleteValue "key" .ignoreCase = (false, t) := by
  intro box s t
  have later : box.2.Reaches s := .perform (.perform .refl _) _
  have reachable : s.Reachable :=
    .perform (.perform (.perform .refl (.storage (.getVariable "Key" .exact))) _) _
  have key : lowercase "KEY" = "key" := by decide +kernel
  obtain ⟨found, -, unset, old, kept, -, again⟩ :=
    Storage.Reachable.deleteValue_clears reachable "KEY"
  obtain ⟨-, same, written⟩ := old {} box.2 "Key" .exact box.1 .refl rfl later
  refine ⟨found.mpr ⟨⟨1, "kEY", some 1⟩, by decide +kernel, by decide +kernel, rfl⟩,
    (unset _ _ (by decide +kernel)).1, kept "other" ?_, same, written 3,
    again _ (by decide +kernel)⟩
  rw [key]
  decide

end ScopedExpr
