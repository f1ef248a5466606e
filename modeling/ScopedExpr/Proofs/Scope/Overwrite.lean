import ScopedExpr.Proofs.Scope.Locality

/-!
# Writes to a record as a whole

A write to a record as a whole goes to one of its cells: to the one in which a read finds its value,
or to the first casing if there is no value to find. All other cells stay as they are, and the next
read finds what has been written. This goes for every record that a storage can have.
-/

namespace ScopedExpr

variable {V : Type}

/-- The slot and the spelling of a cell, which tell it from all others of its record. -/
def Cell.place (c : Cell V) : Nat × String := (c.slot, c.name)

@[simp] lemma Cell.place_put (c : Cell V) (v? : Option V) : (c.put v?).place = c.place := rfl

@[simp] lemma Cell.hasValue_put_some (c : Cell V) (v : V) : (c.put (some v)).hasValue = true := rfl

namespace Record

/-! ### Slots of a record -/

/--
Whether the record is new, or has been used since: asked for a casing, written or cleared in one
slot or as a whole, and scanned in another order.
-/
inductive Reachable : Record V → Prop where
  | new (number : Nat) (casing : String) : Reachable (.new number casing)
  | casing {r : Record V} (reachable : Reachable r) (name : String) : Reachable (r.casing name).2
  | put {r : Record V} (reachable : Reachable r) (slot : Nat) (v? : Option V) :
      Reachable (r.put slot v?)
  | setValue {r : Record V} (reachable : Reachable r) (v : V) : Reachable (r.setValue v)
  | deleteValue {r : Record V} (reachable : Reachable r) : Reachable r.deleteValue.2
  | reorder {r r' : Record V} (reachable : Reachable r) (reordered : r.Reordered r') : Reachable r'

/-- Whether the slots are the numbers below the number of casings. -/
def Numbered (r : Record V) : Prop := (r.casings.map Cell.slot).Perm (List.range r.casingCount)

namespace Numbered

variable {r r' : Record V}

lemma new (number : Nat) (casing : String) : (Record.new (V := V) number casing).Numbered :=
  .refl [0]

/-- A new casing gets the next number. -/
lemma casing (numbered : r.Numbered) (name : String) : (r.casing name).2.Numbered := by
  rcases r.casing_snd name with eq | eq
  · rwa [eq]
  · rw [eq, Numbered, casings_withCasing, casingCount_withCasing, List.map_append, List.range_succ]
    exact List.Perm.append_right _ numbered

lemma mapCells (numbered : r.Numbered) {f : Cell V → Cell V} (hf : Cell.KeepsPlace f) :
    (r.mapCells f).Numbered := by
  have slots : (r.mapCells f).casings.map Cell.slot = r.casings.map Cell.slot := by
    simp [Function.comp_def, (hf _).1]
  have count : (r.mapCells f).casingCount = r.casingCount := by
    simp [Record.mapCells, casingCount]
  rwa [Numbered, slots, count]

lemma reorder (numbered : r.Numbered) (reordered : r.Reordered r') : r'.Numbered := by
  rw [Numbered, casingCount, ← reordered.overflow_perm.length_eq]
  exact (reordered.casings_perm.map _).symm.trans numbered

lemma slots_nodup (numbered : r.Numbered) : (r.casings.map Cell.slot).Nodup :=
  numbered.nodup_iff.mpr List.nodup_range

end Numbered

/-- However a record has been used, its slots are numbered through. -/
lemma Reachable.numbered {r : Record V} (reachable : r.Reachable) : r.Numbered := by
  induction reachable with
  | new number casing => exact .new number casing
  | casing _ name ih => exact ih.casing name
  | put _ slot v? ih => exact ih.mapCells (Cell.keepsPlace_putIf slot v?)
  | setValue _ v ih => exact ih.mapCells (Cell.keepsPlace_putIf _ (some v))
  | deleteValue _ ih =>
    rw [deleteValue_eq]
    exact ih.mapCells (Cell.keepsPlace_put none)
  | reorder _ reordered ih => exact ih.reorder reordered

/-! ### One cell among the others -/

section Split

variable {r : Record V} {before later : List (Cell V)} {c : Cell V}

/-- To write into the slot of a cell is to write into this cell only. -/
lemma casings_put (nodup : (r.casings.map Cell.slot).Nodup)
    (split : r.casings = before ++ c :: later) (v? : Option V) :
    (r.put c.slot v?).casings = before ++ c.put v? :: later := by
  rw [split, List.map_append, List.map_cons, List.nodup_middle, List.nodup_cons] at nodup
  have others : ∀ cells : List (Cell V), (∀ d ∈ cells, d ∈ before ++ later) →
      cells.map (fun d => if d.slot = c.slot then d.put v? else d) = cells := by
    intro cells mem
    conv_rhs => rw [← List.map_id cells]
    apply List.map_congr_left
    intro d hd
    have ne : d.slot ≠ c.slot := by
      intro same
      apply nodup.1
      rw [← List.map_append, ← same]
      exact List.mem_map_of_mem (mem d hd)
    exact if_neg ne
  rw [put, casings_mapCells, split, List.map_append, List.map_cons, if_pos rfl,
    others before fun _ => List.mem_append_left _, others later fun _ => List.mem_append_right _]

/-- A read finds the value of a cell if there is none before it. -/
lemma value?_of_split (split : r.casings = before ++ c :: later)
    (unset : ∀ d ∈ before, d.hasValue = false) (holds : c.hasValue = true) :
    r.value? = c.value? := by
  have none : before.findSome? Cell.value? = none := by
    rw [List.findSome?_eq_none_iff]
    intro d hd
    simpa [Cell.hasValue] using unset d hd
  obtain ⟨v, value⟩ := Option.isSome_iff_exists.mp holds
  rw [value?, split, List.findSome?_append, none, List.findSome?_cons, value]
  rfl

/-- The cell that a write goes to is the one that a read finds, or the first one. -/
lemma exists_target_split (r : Record V) : ∃ before later,
    r.casings = before ++ r.holding?.getD r.first :: later ∧
    (∀ d ∈ before, d.hasValue = false) ∧
    ((∃ d ∈ r.casings, d.hasValue = true) → (r.holding?.getD r.first).hasValue = true) ∧
    ((∀ d ∈ r.casings, d.hasValue = false) → r.holding?.getD r.first = r.first ∧ before = []) := by
  cases found : r.holding? with
  | some c =>
    obtain ⟨holds, before, later, split, unset⟩ := List.find?_eq_some_iff_append.mp found
    refine ⟨before, later, split, by simpa using unset, fun _ => holds, fun none => ?_⟩
    rw [none c (mem_of_holding? found).1] at holds
    cases holds
  | none =>
    refine ⟨[], r.others, rfl, by simp, ?_, fun _ => ⟨rfl, rfl⟩⟩
    rintro ⟨d, hd, holds⟩
    simp [Cell.hasValue, value?_of_holding?_none found d hd] at holds

end Split

/-- Where slots are told apart, a read finds what has been written. -/
lemma value?_setValue {r : Record V} (nodup : (r.casings.map Cell.slot).Nodup) (v : V) :
    (r.setValue v).value? = some v := by
  obtain ⟨before, later, split, unset, -, -⟩ := r.exists_target_split
  exact value?_of_split (casings_put nodup split (some v)) unset rfl

/--
What is written to a record as a whole is read back. One cell has been written, all others are as
they were, and none is new. If some casing had a value, then the cell is the one in which a read
found its value, and the same casings have values as before; if none had, then it is the first
casing.
-/
theorem Reachable.setValue_written {r : Record V} (reachable : r.Reachable) (v : V) :
    (r.setValue v).value? = some v ∧ (r.setValue v).getValue = .ok v ∧
    ∃ before c later, r.casings = before ++ c :: later ∧
      (r.setValue v).casings = before ++ c.put (some v) :: later ∧
      ((∃ d ∈ r.casings, d.hasValue = true) →
        (∀ d ∈ before, d.hasValue = false) ∧ c.hasValue = true ∧ r.value? = c.value? ∧
        ((r.setValue v).casings.filter Cell.hasValue).map Cell.place =
          (r.casings.filter Cell.hasValue).map Cell.place) ∧
      ((∀ d ∈ r.casings, d.hasValue = false) → c = r.first ∧ before = []) := by
  have nodup := reachable.numbered.slots_nodup
  have read := value?_setValue nodup v
  refine ⟨read, by rw [getValue, read], ?_⟩
  obtain ⟨before, later, split, unset, holds, first⟩ := r.exists_target_split
  have written : (r.setValue v).casings = _ := casings_put nodup split (some v)
  refine ⟨before, _, later, split, written, fun held => ?_, first⟩
  refine ⟨unset, holds held, value?_of_split split unset (holds held), ?_⟩
  rw [written, split]
  simp [List.filter_append, List.filter_cons, holds held]

/--
The first casing has been cleared, and two others have values: the one that is scanned first is
overwritten.
-/
theorem Reachable.setValue_written_rescanned :
    let r : Record Nat := ⟨0, ⟨0, "key", none⟩,
      [("straße", ⟨2, "straße", some 5⟩), ("Key", ⟨1, "Key", some 3⟩)]⟩
    r.Reachable ∧ (r.setValue 7).getValue = .ok 7 ∧
      (r.setValue 7).casings = [⟨0, "key", none⟩, ⟨2, "straße", some 7⟩, ⟨1, "Key", some 3⟩] := by
  intro r
  have reachable : r.Reachable :=
    .reorder (.put (.put (.put (.casing (.put (.casing (.new 0 "key") "Key") 0 (some 1)) "straße")
      0 none) 1 (some 3)) 2 (some 5)) ⟨rfl, rfl, .swap _ _ _⟩
  exact ⟨reachable, (reachable.setValue_written 7).2.1, by decide⟩

end Record

/-! ### Records of a storage -/

namespace Storage

variable {s : Storage V} {key : String} {r : Record V}

lemma reachable_recordOf (reachable : ∀ key r, s.recordAt? key = some r → r.Reachable)
    (name : String) : (s.recordOf name).1.Reachable := by
  rcases s.recordOf_cases name with ⟨r, found, eq⟩ | ⟨-, eq⟩
  · rw [eq]
    exact reachable _ r found
  · rw [eq]
    exact .new s.size name

lemma reachable_modify (reachable : ∀ key r, s.recordAt? key = some r → r.Reachable)
    (number : Nat) {f : Record V → Record V}
    (kept : ∀ r : Record V, r.Reachable → (f r).Reachable) :
    ∀ key r, (s.modify number f).recordAt? key = some r → r.Reachable := by
  intro key r' found
  rw [recordAt?_modify, Option.map_eq_some_iff] at found
  obtain ⟨r, found, rfl⟩ := found
  split
  · exact kept r (reachable key r found)
  · exact reachable key r found

/-- Whatever is done with a storage, each of its records is used as it could be by itself. -/
lemma invariant_reachable : Invariant fun s : Storage V =>
    s.WellFormed ∧ ∀ key r, s.recordAt? key = some r → r.Reachable where
  getVariable s name mode := by
    rintro ⟨wf, reachable⟩
    refine ⟨wf.getVariable name mode, fun key r found => ?_⟩
    rw [wf.recordAt?_getVariable] at found
    by_cases same : key = lowercase name
    · subst same
      rw [Function.update_self, Option.some.injEq] at found
      subst found
      cases mode with
      | exact => exact (reachable_recordOf reachable name).casing name
      | ignoreCase => exact reachable_recordOf reachable name
    · rw [Function.update_of_ne same] at found
      exact reachable key r found
  handle s h a := by
    rintro ⟨wf, reachable⟩
    refine ⟨(h.evolves_act s a wf).1, ?_⟩
    cases a with
    | hasValue | value? | getValue => exact reachable
    | setValue v =>
      cases h with
      | exact number slot _ => exact reachable_modify reachable number fun _ kept => kept.put slot _
      | ignoreCase number _ => exact reachable_modify reachable number fun _ kept => kept.setValue v
    | deleteValue =>
      cases h with
      | exact number slot _ => exact reachable_modify reachable number fun _ kept => kept.put slot _
      | ignoreCase number _ =>
        exact reachable_modify reachable number fun _ kept => kept.deleteValue
  reorder s t reordered := by
    rintro ⟨wf, reachable⟩
    refine ⟨reordered.wellFormed wf, fun key r found => ?_⟩
    obtain ⟨scan, hscan, eq⟩ := reordered.recordAt?_eq wf
    rw [eq, Option.map_eq_some_iff] at found
    obtain ⟨r, found, rfl⟩ := found
    exact (reachable key r found).reorder (hscan r)

/-- What a record of a storage has come to, a record by itself can come to. -/
theorem Reachable.record_reachable (reachable : s.Reachable) (found : s.recordAt? key = some r) :
    r.Reachable := by
  have kept := invariant_reachable.reaches reachable ⟨wellFormed_empty, by simp [recordAt?]⟩
  exact kept.2 key r found

end Storage

end ScopedExpr
