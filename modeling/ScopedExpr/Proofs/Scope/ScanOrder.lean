import ScopedExpr.Proofs.Scope.Agreement
import ScopedExpr.Proofs.Scope.Locality

/-!
# How far the order of scanning can show

Nobody says in which order the casings behind the first one are scanned. A record as a whole does
not show the order, unless its first casing is unset and the others disagree: then a read may give
any of their values, and a write may go to any casing that has one.
-/

namespace ScopedExpr

variable {V : Type}

/-! ### Searches in rearranged lists -/

section Perm

variable {α β : Type} {as bs : List α}

/-- If at most one element has the property, then every arrangement finds the same one. -/
lemma find?_eq_of_perm {p : α → Bool} (perm : as.Perm bs) (one : as.countP p ≤ 1) :
    bs.find? p = as.find? p := by
  rw [← List.head?_filter, ← List.head?_filter]
  rw [List.countP_eq_length_filter] at one
  have perm' := perm.filter p
  match as.filter p, one, perm' with
  | [], _, perm' => rw [List.nil_perm.mp perm']
  | [a], _, perm' => rw [List.singleton_perm.mp perm']

/-- If all results agree, then the first result is any of them. -/
lemma findSome?_eq_some_iff_of_agree {f : α → Option β}
    (agree : ∀ a ∈ as, ∀ b ∈ as, ∀ v w, f a = some v → f b = some w → v = w) {v : β} :
    as.findSome? f = some v ↔ ∃ a ∈ as, f a = some v := by
  constructor
  · exact List.exists_of_findSome?_eq_some
  · rintro ⟨a, ha, hv⟩
    cases found : as.findSome? f with
    | none => rw [List.findSome?_eq_none_iff.mp found a ha] at hv; cases hv
    | some w =>
      obtain ⟨b, hb, hw⟩ := List.exists_of_findSome?_eq_some found
      rw [agree a ha b hb v w hv hw]

/-- The order of a search does not matter if all that can be found is the same. -/
lemma findSome?_eq_of_perm {f : α → Option β} (perm : as.Perm bs)
    (agree : ∀ a ∈ as, ∀ b ∈ as, ∀ v w, f a = some v → f b = some w → v = w) :
    bs.findSome? f = as.findSome? f := by
  have agree' : ∀ a ∈ bs, ∀ b ∈ bs, ∀ v w, f a = some v → f b = some w → v = w :=
    fun a ha b hb => agree a (perm.mem_iff.mpr ha) b (perm.mem_iff.mpr hb)
  rw [Option.ext_iff]
  intro v
  rw [findSome?_eq_some_iff_of_agree agree, findSome?_eq_some_iff_of_agree agree']
  simp only [perm.mem_iff]

end Perm

/-! ### Where the order does not matter -/

/-- Whether the first casing has a value, or all others that have one have the same one. -/
def Record.Unanimous (r : Record V) : Prop :=
  r.first.hasValue = true ∨
  ∀ c ∈ r.others, ∀ d ∈ r.others, ∀ v w, c.value? = some v → d.value? = some w → v = w

/--
Whether the action on a record as a whole is the same in whatever order the casings are scanned.
-/
def Action.Decided (r : Record V) : Action V → Prop
  | .hasValue | .deleteValue => True
  | .value? | .getValue => r.Unanimous
  | .setValue _ => ¬ r.Ambiguous

/-- A record is not ambiguous if its first casing has a value, or one of the others at most. -/
lemma Record.not_ambiguous_iff {r : Record V} :
    ¬ r.Ambiguous ↔ r.first.hasValue = true ∨ r.others.countP Cell.hasValue ≤ 1 := by
  rw [Record.Ambiguous, not_and_or, Bool.not_eq_false, Nat.not_le, Nat.lt_succ_iff]

namespace Record.Reordered

variable {r r' : Record V}

lemma mapCells (h : r.Reordered r') (f : Cell V → Cell V) :
    (r.mapCells f).Reordered (r'.mapCells f) where
  number_eq := h.number_eq
  first_eq := congrArg f h.first_eq
  overflow_perm := h.overflow_perm.map _

lemma hasValue_eq (h : r.Reordered r') : r'.hasValue = r.hasValue := by
  rw [Record.hasValue_eq_any, Record.hasValue_eq_any, h.casings_perm.any_eq]

lemma items_perm (h : r.Reordered r') : r.items.Perm r'.items := h.casings_perm.filterMap _

/-- Where all casings agree, a read does not show the order. -/
lemma value?_eq (h : r.Reordered r') (unanimous : r.Unanimous) : r'.value? = r.value? := by
  rw [Record.value?, Record.value?, Record.casings, Record.casings, List.findSome?_cons,
    List.findSome?_cons, h.first_eq]
  cases first : r.first.value? with
  | some v => rfl
  | none =>
    have unset : ¬ r.first.hasValue = true := by simp [Cell.hasValue, first]
    exact findSome?_eq_of_perm h.others_perm (unanimous.resolve_left unset)

lemma getValue_eq (h : r.Reordered r') (unanimous : r.Unanimous) : r'.getValue = r.getValue := by
  rw [Record.getValue, Record.getValue, h.value?_eq unanimous, h.first_eq]

/-- Unless there is a choice, a write goes to the same casing. -/
lemma holding?_eq (h : r.Reordered r') (clear : ¬ r.Ambiguous) : r'.holding? = r.holding? := by
  rw [Record.holding?, Record.holding?, Record.casings, Record.casings, h.first_eq]
  cases first : r.first.hasValue with
  | true => rw [List.find?_cons_of_pos first, List.find?_cons_of_pos first]
  | false =>
    have unset : ¬ r.first.hasValue = true := by simp [first]
    rw [List.find?_cons_of_neg unset, List.find?_cons_of_neg unset]
    exact find?_eq_of_perm h.others_perm
      ((Record.not_ambiguous_iff.mp clear).resolve_left unset)

/-- A write goes to the same casing in every order, unless the record is ambiguous. -/
lemma setValue (h : r.Reordered r') (clear : ¬ r.Ambiguous) (v : V) :
    (r.setValue v).Reordered (r'.setValue v) := by
  rw [Record.setValue, Record.setValue, h.holding?_eq clear, h.first_eq]
  exact h.mapCells _

end Record.Reordered

/-- Every value of a later casing may be the one that is read, if the first casing is unset. -/
lemma Record.exists_reordered_value? {r : Record V} (first : r.first.value? = none) {c : Cell V}
    {v : V} (hc : c ∈ r.others) (hv : c.value? = some v) :
    ∃ r', r.Reordered r' ∧ r'.value? = some v := by
  obtain ⟨name, filed⟩ := Record.mem_others.mp hc
  obtain ⟨before, later, split⟩ := List.append_of_mem filed
  refine ⟨{ r with overflow := (name, c) :: (before ++ later) }, ⟨rfl, rfl, ?_⟩, ?_⟩
  · rw [split]
    exact List.perm_middle
  · simp [Record.value?, Record.casings, Record.others, first, hv]

/-- If no order shows in a read, then the casings agree. -/
lemma Record.unanimous_of_value?_eq {r : Record V}
    (unseen : ∀ r', r.Reordered r' → r'.value? = r.value?) : r.Unanimous := by
  cases first : r.first.value? with
  | some v => exact .inl (by simp [Cell.hasValue, first])
  | none =>
    refine .inr fun c hc d hd v w hv hw => ?_
    obtain ⟨r₁, reordered₁, reads₁⟩ := Record.exists_reordered_value? first hc hv
    obtain ⟨r₂, reordered₂, reads₂⟩ := Record.exists_reordered_value? first hd hw
    rw [unseen r₁ reordered₁] at reads₁
    rw [unseen r₂ reordered₂, reads₁] at reads₂
    exact Option.some.inj reads₂

/--
In two orders of scanning a record as a whole gives the same answers and is left with the same
casings and values, whatever is done with it: always, if it is asked for a value or cleared; if the
record is unanimous, in a read; if there is no choice between two casings, in a write. It lists the
same casings with their values, and if it has no value, then both orders miss the first casing. A
record that is not unanimous shows the order in a read.
-/
theorem Record.order_shows (r : Record V) (name : String) :
    (∀ r', r.Reordered r' →
      (∀ a : Action V, a.Decided r →
        (r'.act name .ignoreCase a).1 = (r.act name .ignoreCase a).1 ∧
        (r.act name .ignoreCase a).2.Reordered (r'.act name .ignoreCase a).2) ∧
      r.items.Perm r'.items ∧
      ((∀ c ∈ r.casings, c.value? = none) →
        r.getValue = .error ⟨r.first.name⟩ ∧ r'.getValue = .error ⟨r.first.name⟩)) ∧
    ((∀ r', r.Reordered r' → r'.value? = r.value?) → r.Unanimous) := by
  refine ⟨fun r' h => ⟨fun a decided => ?_, h.items_perm, fun unset => ?_⟩,
    Record.unanimous_of_value?_eq⟩
  · cases a with
    | hasValue => exact ⟨congrArg Answer.truth h.hasValue_eq, h⟩
    | value? => exact ⟨congrArg Answer.value? (h.value?_eq decided), h⟩
    | getValue => exact ⟨congrArg Answer.result (h.getValue_eq decided), h⟩
    | setValue v => exact ⟨rfl, h.setValue decided v⟩
    | deleteValue =>
      simp only [Record.act, Record.lookUp, Record.deleteValue_eq]
      exact ⟨congrArg Answer.truth h.hasValue_eq, h.mapCells (·.put none)⟩
  · have unanimous : r.Unanimous := by
      refine .inr fun c hc _ _ v _ hv _ => ?_
      rw [unset c (List.mem_cons_of_mem _ hc)] at hv
      cases hv
    have none : r.value? = none := List.findSome?_eq_none_iff.mpr unset
    rw [h.getValue_eq unanimous, Record.getValue, none]
    exact ⟨rfl, rfl⟩

/--
A value behind an unset first casing is read and overwritten in either order. If another casing gets
a different value, then the order shows.
-/
theorem Record.order_shows_reversed :
    let r : Record Nat := ⟨0, ⟨0, "Key", none⟩,
      [("kEY", ⟨1, "kEY", none⟩), ("KEY", ⟨2, "KEY", some 7⟩)]⟩
    let r' : Record Nat := { r with overflow := r.overflow.reverse }
    (r'.act "key" .ignoreCase .getValue).1 = .result (.ok 7) ∧
    (r.act "key" .ignoreCase (.setValue 8)).2.Reordered
      (r'.act "key" .ignoreCase (.setValue 8)).2 ∧
    ¬ ∀ r'', (r.put 1 (some 5)).Reordered r'' → r''.value? = (r.put 1 (some 5)).value? := by
  intro r r'
  have reordered : r.Reordered r' := ⟨rfl, rfl, r.overflow.reverse_perm.symm⟩
  have unanimous : Action.Decided r .getValue := by
    refine .inr ?_
    simp [r, Record.others]
  have clear : Action.Decided r (.setValue 8) := Record.not_ambiguous_iff.mpr (.inr (by decide))
  have split : ¬ (r.put 1 (some 5)).Unanimous := by
    simp [r, Record.Unanimous, Record.others, Record.put, Record.mapCells, Cell.put, Cell.hasValue]
  have decided := ((Record.order_shows r "key").1 r' reordered).1
  exact ⟨(decided .getValue unanimous).1, (decided (.setValue 8) clear).2,
    mt (Record.order_shows (r.put 1 (some 5)) "key").2 split⟩

end ScopedExpr
