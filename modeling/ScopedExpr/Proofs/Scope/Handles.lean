import ScopedExpr.Proofs.Scope.Run

/-!
# Handles that are the same

A look-up leads to the cell of a spelling or to the record of a name. No two spellings share a cell,
no two keys share a record, and none of them ever gets a second one. So two handles are the same
exactly if they have been taken for the same thing, whenever that was.
-/

namespace ScopedExpr

variable {V : Type}

lemma Handle.same_comm (h k : Handle) : h.same k = k.same h := by
  cases h <;> cases k <;> simp [Handle.same, BEq.comm]

namespace Storage.WellFormed

variable {s : Storage V} {r r' : Record V} {key key' : String}

/-- Records have one number exactly if they stand under one key. -/
lemma number_eq_iff (wf : s.WellFormed) (found : s.recordAt? key = some r)
    (found' : s.recordAt? key' = some r') : r.number = r'.number ↔ key = key' := by
  constructor
  · exact wf.key_eq_of_number found found'
  · rintro rfl
    rw [Option.some.inj (found.symm.trans found')]

/-- The cells of a storage are told apart by number and slot, and by their spellings as well. -/
lemma cell_eq_iff (wf : s.WellFormed) {c d : Cell V}
    (found : s.recordAt? (lowercase c.name) = some r)
    (found' : s.recordAt? (lowercase d.name) = some r') (hc : c ∈ r.casings) (hd : d ∈ r'.casings) :
    r.number = r'.number ∧ c.slot = d.slot ↔ c.name = d.name := by
  have same_record (key_eq : lowercase c.name = lowercase d.name) : r = r' :=
    Option.some.inj (found.symm.trans (key_eq ▸ found'))
  have wfr := wf.recordAt? found
  constructor
  · rintro ⟨number, slot⟩
    obtain rfl := same_record ((wf.number_eq_iff found found').mp number)
    rw [wfr.eq_of_slot hc hd slot]
  · intro name
    obtain rfl := same_record (congrArg lowercase name)
    rw [List.inj_on_of_nodup_map wfr.names_nodup hc hd name]
    exact ⟨rfl, rfl⟩

end Storage.WellFormed

/-- Handles that lead to the same cell, or to the same record, are the same. -/
lemma Handle.LeadsTo.same_iff {s : Storage V} (wf : s.WellFormed) {h k : Handle} {n m : String}
    {a b : CaseMode} (leads : h.LeadsTo s n a) (leads' : k.LeadsTo s m b) :
    h.same k = true ↔
      a = b ∧ (a = .exact ∧ n = m ∨ a = .ignoreCase ∧ lowercase n = lowercase m) := by
  cases leads with
  | exact found mem =>
    cases leads' with
    | exact found' mem' => simpa [Handle.same] using wf.cell_eq_iff found found' mem mem'
    | ignoreCase found' => simp [Handle.same]
  | ignoreCase found =>
    cases leads' with
    | exact found' mem' => simp [Handle.same]
    | ignoreCase found' => simpa [Handle.same] using wf.number_eq_iff found found'

/--
Two handles that are taken in the course of a run, whatever is done between, are the same exactly if
both are taken in exact mode for one spelling, or both in ignore-case mode for spellings of one key.
It does not matter which of the two is asked about the other.
-/
theorem Handle.same_iff_of_taken {s t u v : Storage V} {n m : String} {a b : CaseMode}
    {h k : Handle} (reachable : s.Reachable) (taken : s.getVariable n a = (h, t))
    (later : t.Reaches u) (taken' : u.getVariable m b = (k, v)) :
    (h.same k = true ↔
      a = b ∧ (a = .exact ∧ n = m ∨ a = .ignoreCase ∧ lowercase n = lowercase m)) ∧
    k.same h = h.same k := by
  refine ⟨?_, k.same_comm h⟩
  have wf := reachable.wellFormed
  have leads := wf.leadsTo_getVariable n a
  have wft := wf.getVariable n a
  rw [taken] at leads wft
  obtain ⟨wfu, grows⟩ := later.evolves wft
  have leads' := wfu.leadsTo_getVariable m b
  have wfv := wfu.getVariable m b
  have grows' := wfu.grows_getVariable m b
  rw [taken'] at leads' wfv grows'
  exact ((leads.mono grows).mono grows').same_iff wfv leads'

/--
The cell of a second spelling is set and cleared, and found again afterwards; the cell of the first
spelling is another one.
-/
theorem Handle.same_iff_of_taken_cleared :
    let whole := ({} : Storage Nat).getVariable "key" .ignoreCase
    let box := whole.2.getVariable "Key" .exact
    let u := ((box.2.perform (.handle box.1 (.setValue 1))).2.perform
      (.storage (.act "KEY" .ignoreCase .deleteValue))).2
    let first := u.getVariable "key" .exact
    box.1.same (u.getVariable "Key" .exact).1 = true ∧ box.1.same first.1 = false ∧
      whole.1.same (u.getVariable "kEY" .ignoreCase).1 = true := by
  intro whole box u first
  have reachable : whole.2.Reachable := .perform .refl (.storage (.getVariable "key" .ignoreCase))
  have taken : ({} : Storage Nat).getVariable "key" .ignoreCase = (whole.1, whole.2) := rfl
  have taken' : whole.2.getVariable "Key" .exact = (box.1, box.2) := rfl
  have later : box.2.Reaches u := .perform (.perform .refl _) _
  have later' : whole.2.Reaches u :=
    .perform (.perform (.perform .refl (.storage (.getVariable "Key" .exact))) _) _
  have same_key : lowercase "key" = lowercase "kEY" := by decide +kernel
  refine ⟨?_, ?_, ?_⟩
  · exact (Handle.same_iff_of_taken reachable taken' later rfl).1.mpr ⟨rfl, .inl ⟨rfl, rfl⟩⟩
  · have taken_first : u.getVariable "key" .exact = (first.1, first.2) := rfl
    rw [← Bool.not_eq_true, (Handle.same_iff_of_taken reachable taken' later taken_first).1]
    simp
  · exact (Handle.same_iff_of_taken .refl taken later' rfl).1.mpr ⟨rfl, .inr ⟨rfl, same_key⟩⟩

end ScopedExpr
