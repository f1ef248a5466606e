import ScopedExpr.Proofs.Scope.Handles
import ScopedExpr.Proofs.Text.Lowercase

/-!
# Casings of one name

An ignore-case look-up is meant to cover every casing of a name. It covers the names that have the
same lower case as a text. These are all of the same letters, except that a capital sigma at the end
of a word and a small one are kept apart.
-/

namespace ScopedExpr

variable {V : Type}

namespace Storage.WellFormed

variable {s : Storage V}

/-- Two ignore-case look-ups lead to one record if and only if the names have one lower case. -/
lemma same_getVariable_iff (wf : s.WellFormed) (n m : String) :
    (s.getVariable n .ignoreCase).1.same
        ((s.getVariable n .ignoreCase).2.getVariable m .ignoreCase).1 = true ↔
      lowercase n = lowercase m := by
  have wf' := wf.getVariable n .ignoreCase
  have leads := (wf.leadsTo_getVariable n .ignoreCase).mono (wf'.grows_getVariable m .ignoreCase)
  have leads' := wf'.leadsTo_getVariable m .ignoreCase
  simpa using leads.same_iff (wf'.getVariable m .ignoreCase) leads'

end Storage.WellFormed

/-! ### One value in a fresh storage -/

lemma Storage.setValue_empty (n : String) (v : V) :
    ({} : Storage V).setValue n v .exact = ⟨[(lowercase n, ⟨0, ⟨0, n, some v⟩, []⟩)]⟩ := by
  simp [Storage.setValue, Storage.getVariable, Storage.recordOf, Record.new, Record.casing,
    Storage.modify, Handle.setValue, Record.put, Record.mapCells, Cell.put]

/-- A storage with one record finds it for the names that have its key, and for no others. -/
lemma Storage.getValue_single (n m : String) (v : V) :
    (⟨[(lowercase n, ⟨0, ⟨0, n, some v⟩, []⟩)]⟩ : Storage V).getValue m .ignoreCase =
      if lowercase n = lowercase m then (.ok v, ⟨[(lowercase n, ⟨0, ⟨0, n, some v⟩, []⟩)]⟩)
      else (.error ⟨m⟩, ⟨[(lowercase n, ⟨0, ⟨0, n, some v⟩, []⟩), (lowercase m, .new 1 m)]⟩) := by
  split
  case isTrue same =>
    simp [Storage.getValue, Storage.getVariable, Storage.recordOf, same, Handle.getValue,
      Handle.value?, Storage.record?, Record.value?, Record.casings]
  case isFalse apart =>
    have apart' : (lowercase m == lowercase n) = false := by simpa using Ne.symm apart
    simp [Storage.getValue, Storage.getVariable, Storage.recordOf, List.lookup_cons, apart',
      Handle.getValue, Handle.value?, Storage.record?, Record.value?, Record.casings, Record.others,
      Record.new, Handle.name]

/-- A value is read under another casing if the lower case is the same, and else not found. -/
lemma Storage.getValue_setValue_empty (n m : String) (v : V) :
    let t := ({} : Storage V).setValue n v .exact
    let read := t.getValue m .ignoreCase
    (lowercase n = lowercase m → read = (.ok v, t) ∧ t.size = 1) ∧
    (lowercase n ≠ lowercase m → read.1 = .error ⟨m⟩ ∧ read.2.size = 2) := by
  dsimp only
  rw [Storage.setValue_empty, Storage.getValue_single]
  refine ⟨fun same => ?_, fun apart => ?_⟩
  · rw [if_pos same]
    exact ⟨rfl, rfl⟩
  · rw [if_neg apart]
    exact ⟨rfl, rfl⟩

/--
For two names of the same letters, ignore-case look-ups lead to one record if and only if the
capital sigmas that end a word stand at the same places in both. A value that is set under the one
is then read under the other, and there is one record for both; else it is not found, and there are
two. Names that have all their capital sigmas at the same places always have one record.
-/
theorem Storage.Reachable.same_record_iff {s : Storage V} (reachable : s.Reachable) {n m : String}
    (letters : SameLetters n m) :
    let h := s.getVariable n .ignoreCase
    let k := h.2.getVariable m .ignoreCase
    (h.1.same k.1 = true ↔ finalSigmas n = finalSigmas m) ∧
    (List.Forall₂ (fun c d => c = 'Σ' ↔ d = 'Σ') n.toList m.toList → h.1.same k.1 = true) ∧
    ∀ v : V,
      let t := ({} : Storage V).setValue n v .exact
      let read := t.getValue m .ignoreCase
      (finalSigmas n = finalSigmas m → read = (.ok v, t) ∧ t.size = 1) ∧
      (finalSigmas n ≠ finalSigmas m → read.1 = .error ⟨m⟩ ∧ read.2.size = 2) := by
  intro h k
  have one_record : h.1.same k.1 = true ↔ finalSigmas n = finalSigmas m :=
    (reachable.wellFormed.same_getVariable_iff n m).trans letters.lowercase_eq_iff
  refine ⟨one_record, fun sigmas => one_record.mpr (letters.finalSigmas_eq sigmas), ?_⟩
  intro v
  rw [ne_eq, ← letters.lowercase_eq_iff]
  exact Storage.getValue_setValue_empty n m v

/--
The sigmas of the two names are inside a word, so that the one may be a capital and the other a
small letter. The kelvin sign has the small letter k.
-/
theorem Storage.Reachable.same_record_iff_inside :
    let s := (({} : Storage Nat).perform (.storage (.getVariable "key" .exact))).2
    let h := s.getVariable "ΌΣΟ\u212A" .ignoreCase
    let t := ({} : Storage Nat).setValue "ΌΣΟ\u212A" 1 .exact
    SameLetters "ΌΣΟ\u212A" "όσοk" ∧ h.1.same (h.2.getVariable "όσοk" .ignoreCase).1 = true ∧
      t.getValue "όσοk" .ignoreCase = (.ok 1, t) ∧ t.size = 1 := by
  intro s h t
  have reachable : s.Reachable := .perform .refl _
  have letters : SameLetters "ΌΣΟ\u212A" "όσοk" := by decide +kernel
  have inside : finalSigmas "ΌΣΟ\u212A" = finalSigmas "όσοk" := by decide +kernel
  obtain ⟨one_record, -, found⟩ := Storage.Reachable.same_record_iff reachable letters
  exact ⟨letters, one_record.mpr inside, (found 1).1 inside⟩

/--
At the end of a word they are kept apart: a value that is set under the capitals is not found under
the other casing, though each of its characters has the same lower case.
-/
theorem Storage.final_sigma_not_covered :
    let t := ({} : Storage Nat).setValue "ΑΣ" 1 .exact
    let h := t.getVariable "ΑΣ" .ignoreCase
    let read := t.getValue "Ασ" .ignoreCase
    SameLetters "ΑΣ" "Ασ" ∧ h.1.same (h.2.getVariable "Ασ" .ignoreCase).1 = false ∧
      read.1 = .error ⟨"Ασ"⟩ ∧ read.2.size = 2 := by
  intro t h read
  have letters : SameLetters "ΑΣ" "Ασ" := by decide +kernel
  have differ : finalSigmas "ΑΣ" ≠ finalSigmas "Ασ" := by decide +kernel
  have apart : lowercase "ΑΣ" ≠ lowercase "Ασ" := mt letters.lowercase_eq_iff.mp differ
  have wf : t.WellFormed :=
    (Storage.evolves_act {} "ΑΣ" .exact (.setValue 1) Storage.wellFormed_empty).1
  refine ⟨letters, ?_, (Storage.getValue_setValue_empty _ _ 1).2 apart⟩
  rw [← Bool.not_eq_true, wf.same_getVariable_iff]
  exact apart

end ScopedExpr
