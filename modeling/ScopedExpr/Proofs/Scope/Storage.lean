import ScopedExpr.Proofs.Scope.Record

/-!
# Storages as maps from keys to records

In a well-formed storage every key has one record and every number belongs to one record. Records
and cells are made by look-ups and are never taken away: whatever is done, the storage only grows.
-/

namespace ScopedExpr

variable {V : Type}

/-- A look-up in a list of pairs is a search by the first component. -/
lemma lookup_eq_find? {α β : Type} [BEq α] [LawfulBEq α] (l : List (α × β)) (a : α) :
    l.lookup a = (l.find? (·.1 == a)).map Prod.snd := by
  induction l with
  | nil => rfl
  | cons p l ih =>
    obtain ⟨b, x⟩ := p
    rw [List.lookup_cons, List.find?_cons, BEq.comm (a := a)]
    cases b == a with
    | true => rfl
    | false => simpa using ih

/-! ### Well-formed storages -/

def Storage.recordAt? (s : Storage V) (key : String) : Option (Record V) := s.records.lookup key

/--
Records have keys and numbers of their own and are well formed under their keys. The next number is
free.
-/
structure Storage.WellFormed (s : Storage V) : Prop where
  keys_nodup : (s.records.map Prod.fst).Nodup
  numbers_nodup : (s.records.map fun kr => kr.2.number).Nodup
  number_lt : ∀ kr ∈ s.records, kr.2.number < s.size
  record : ∀ kr ∈ s.records, kr.2.WellFormed kr.1

lemma Storage.wellFormed_empty : ({} : Storage V).WellFormed := ⟨by simp, by simp, by simp, by simp⟩

namespace Storage.WellFormed

variable {s : Storage V} {key : String} {r : Record V}

/-- The record under a key is the one that is listed with this key. -/
lemma recordAt?_eq (wf : s.WellFormed) : s.recordAt? key = some r ↔ (key, r) ∈ s.records := by
  rw [Storage.recordAt?, lookup_eq_find?, Option.map_eq_some_iff]
  constructor
  · rintro ⟨⟨key', r'⟩, found, rfl⟩
    obtain ⟨mem, rfl⟩ := (find?_key_eq_some_iff wf.keys_nodup).mp found
    exact mem
  · intro mem
    exact ⟨(key, r), (find?_key_eq_some_iff wf.keys_nodup).mpr ⟨mem, rfl⟩, rfl⟩

lemma recordAt? (wf : s.WellFormed) (h : s.recordAt? key = some r) : r.WellFormed key :=
  wf.record _ (wf.recordAt?_eq.mp h)

/-- A number leads back to the record that was found under a key. -/
lemma record?_number (wf : s.WellFormed) (h : s.recordAt? key = some r) :
    s.record? r.number = some r := by
  have nodup : ((s.records.map Prod.snd).map Record.number).Nodup := by
    rw [List.map_map]
    exact wf.numbers_nodup
  refine (find?_key_eq_some_iff nodup).mpr ⟨?_, rfl⟩
  exact List.mem_map_of_mem (f := Prod.snd) (wf.recordAt?_eq.mp h)

/-- One number under two keys means one key. -/
lemma key_eq_of_number (wf : s.WellFormed) {key' : String} {r' : Record V}
    (h : s.recordAt? key = some r) (h' : s.recordAt? key' = some r')
    (number : r.number = r'.number) : key = key' :=
  congrArg Prod.fst (List.inj_on_of_nodup_map wf.numbers_nodup (wf.recordAt?_eq.mp h)
    (wf.recordAt?_eq.mp h') number)

end Storage.WellFormed

/-! ### Growth -/

/-- Whether `t` has all the records of `s`, each as it was or grown. -/
def Storage.Grows (s t : Storage V) : Prop :=
  ∀ key r, s.recordAt? key = some r → ∃ r', t.recordAt? key = some r' ∧ r.Grows r'

lemma Storage.Grows.refl (s : Storage V) : s.Grows s := fun _ r h => ⟨r, h, .refl r⟩

lemma Storage.Grows.trans {s t u : Storage V} (st : s.Grows t) (tu : t.Grows u) : s.Grows u := by
  intro key r h
  obtain ⟨r', h', g⟩ := st key r h
  obtain ⟨r'', h'', g'⟩ := tu key r' h'
  exact ⟨r'', h'', g.trans g'⟩

/-! ### Changing one record -/

lemma Storage.recordAt?_modify (s : Storage V) (number : Nat) (f : Record V → Record V)
    (key : String) :
    (s.modify number f).recordAt? key =
      (s.recordAt? key).map fun r => if r.number = number then f r else r := by
  simp only [Storage.recordAt?, Storage.modify, lookup_eq_find?, List.find?_map, Option.map_map]
  rfl

/-- Whether `f` lets a record grow and leaves it well formed under its key. -/
structure Record.SoundChange (f : Record V → Record V) (key : String) (r : Record V) : Prop where
  grows : r.Grows (f r)
  wellFormed : r.WellFormed key → (f r).WellFormed key

def Handle.clear (h : Handle) (s : Storage V) : Storage V :=
  match h with
  | .exact number slot _ => s.modify number (·.put slot none)
  | .ignoreCase number _ => s.modify number Record.cleared

/-- A deletion tells whether the handle has a value, and clears what it leads to. -/
lemma Handle.deleteValue_eq (h : Handle) (s : Storage V) :
    h.deleteValue s = (h.hasValue s, h.clear s) := by
  cases h with
  | exact number slot _ =>
    simp only [Handle.deleteValue, Storage.deleteIn, Record.deleteCell_eq, Handle.hasValue]
    cases s.record? number <;> rfl
  | ignoreCase number _ =>
    simp only [Handle.deleteValue, Storage.deleteIn, Record.deleteValue_eq]
    rfl

lemma Storage.deleteValue_fst (s : Storage V) (name : String) (mode : CaseMode) :
    (s.deleteValue name mode).1 = (s.hasValue name mode).1 := by
  simp only [Storage.deleteValue, Handle.deleteValue_eq]
  rfl

/-- To change nothing but values is a sound change. -/
lemma Record.soundChange_mapCells {f : Cell V → Cell V} (hf : Cell.KeepsPlace f) (key : String)
    (r : Record V) : Record.SoundChange (·.mapCells f) key r :=
  ⟨.mapCells r hf, fun wf => wf.mapCells hf⟩

namespace Storage.WellFormed

variable {s : Storage V} {key : String} {r : Record V}

/-- To change the record of a key changes nothing under other keys. -/
lemma recordAt?_modify (wf : s.WellFormed) (h : s.recordAt? key = some r)
    (f : Record V → Record V) :
    (s.modify r.number f).recordAt? = Function.update s.recordAt? key (some (f r)) := by
  ext1 key'
  rw [Storage.recordAt?_modify]
  by_cases same : key' = key
  · subst same
    simp [h]
  · rw [Function.update_of_ne same]
    cases h' : s.recordAt? key' with
    | none => rfl
    | some r' =>
      have other : r'.number ≠ r.number := fun number => same (wf.key_eq_of_number h' h number)
      simp [other]

/-- A change that leaves the record of a key as it is changes nothing. -/
lemma modify_eq_self (wf : s.WellFormed) (h : s.recordAt? key = some r) {f : Record V → Record V}
    (kept : f r = r) : s.modify r.number f = s := by
  rw [Storage.modify]
  congr 1
  conv_rhs => rw [← List.map_id s.records]
  apply List.map_congr_left
  intro kr hkr
  by_cases number : kr.2.number = r.number
  · have same := List.inj_on_of_nodup_map wf.numbers_nodup hkr (wf.recordAt?_eq.mp h) number
    simp [same, kept]
  · simp [number]

/-- A storage stays well formed if the record that is changed does. -/
lemma modify (wf : s.WellFormed) {number : Nat} {f : Record V → Record V}
    (hf : ∀ key r, s.recordAt? key = some r → r.number = number → Record.SoundChange f key r) :
    (s.modify number f).WellFormed := by
  have sound : ∀ kr ∈ s.records, kr.2.number = number → Record.SoundChange f kr.1 kr.2 :=
    fun kr mem => hf kr.1 kr.2 (wf.recordAt?_eq.mpr mem)
  have number_eq : ∀ kr ∈ s.records,
      (if kr.2.number = number then f kr.2 else kr.2).number = kr.2.number := by
    intro kr mem
    split
    · exact (sound kr mem ‹_›).grows.number_eq
    · rfl
  refine ⟨?_, ?_, ?_, ?_⟩
  · simpa [Storage.modify, Function.comp_def] using wf.keys_nodup
  · have numbers : (s.modify number f).records.map (fun kr => kr.2.number) =
        s.records.map fun kr => kr.2.number := by
      rw [Storage.modify, List.map_map]
      exact List.map_congr_left number_eq
    rw [numbers]
    exact wf.numbers_nodup
  · intro kr mem
    obtain ⟨kr', mem', rfl⟩ := List.mem_map.mp mem
    rw [show (s.modify number f).size = s.size from List.length_map _]
    exact (number_eq kr' mem').symm ▸ wf.number_lt kr' mem'
  · intro kr mem
    obtain ⟨kr', mem', rfl⟩ := List.mem_map.mp mem
    dsimp only
    split
    · exact (sound kr' mem' ‹_›).wellFormed (wf.record kr' mem')
    · exact wf.record kr' mem'

end Storage.WellFormed

lemma Storage.grows_modify {s : Storage V} {number : Nat} {f : Record V → Record V}
    (hf : ∀ key r, s.recordAt? key = some r → r.number = number → Record.SoundChange f key r) :
    s.Grows (s.modify number f) := by
  intro key r h
  by_cases same : r.number = number
  · refine ⟨f r, ?_, (hf key r h same).grows⟩
    simp [Storage.recordAt?_modify, h, same]
  · refine ⟨r, ?_, .refl r⟩
    simp [Storage.recordAt?_modify, h, same]

/-! ### Making records -/

/-- To ask for the record of a name either finds it or puts a new one behind all others. -/
lemma Storage.recordOf_cases (s : Storage V) (name : String) :
    (∃ r, s.recordAt? (lowercase name) = some r ∧ s.recordOf name = (r, s)) ∨
    (s.recordAt? (lowercase name) = none ∧
      s.recordOf name =
        (.new s.size name, ⟨s.records ++ [(lowercase name, .new s.size name)]⟩)) := by
  cases found : s.recordAt? (lowercase name) with
  | some r =>
    rw [Storage.recordAt?] at found
    exact .inl ⟨r, rfl, by simp only [Storage.recordOf, found]⟩
  | none =>
    rw [Storage.recordAt?] at found
    exact .inr ⟨rfl, by simp only [Storage.recordOf, found]; rfl⟩

/-- The record of a name is the one under its key afterwards; other keys keep theirs. -/
lemma Storage.recordAt?_recordOf (s : Storage V) (name : String) :
    (s.recordOf name).2.recordAt? =
      Function.update s.recordAt? (lowercase name) (some (s.recordOf name).1) := by
  rcases s.recordOf_cases name with ⟨r, found, eq⟩ | ⟨absent, eq⟩
  · rw [eq, ← found, Function.update_eq_self]
  · rw [eq]
    ext1 key
    by_cases same : key = lowercase name
    · subst same
      rw [Function.update_self]
      rw [Storage.recordAt?] at absent ⊢
      simp [List.lookup_append, absent]
    · rw [Function.update_of_ne same]
      have other : (key == lowercase name) = false := by simpa using same
      simp [Storage.recordAt?, List.lookup_append, List.lookup_cons, other]

lemma Storage.grows_recordOf (s : Storage V) (name : String) : s.Grows (s.recordOf name).2 := by
  intro key r h
  refine ⟨r, ?_, .refl r⟩
  rcases s.recordOf_cases name with ⟨r', -, eq⟩ | ⟨-, eq⟩
  · rw [eq]
    exact h
  · rw [eq]
    rw [Storage.recordAt?] at h ⊢
    simp [List.lookup_append, h]

lemma Storage.WellFormed.recordOf {s : Storage V} (wf : s.WellFormed) (name : String) :
    (s.recordOf name).2.WellFormed := by
  rcases s.recordOf_cases name with ⟨r, -, eq⟩ | ⟨absent, eq⟩
  · rw [eq]
    exact wf
  · rw [eq]
    have new_key : ∀ kr ∈ s.records, kr.1 ≠ lowercase name := by
      rintro ⟨key, r⟩ mem rfl
      rw [wf.recordAt?_eq.mpr mem] at absent
      cases absent
    have new_number : ∀ kr ∈ s.records, kr.2.number ≠ s.size := fun kr mem =>
      Nat.ne_of_lt (wf.number_lt kr mem)
    refine ⟨?_, ?_, ?_, ?_⟩
    · exact nodup_map_snoc wf.keys_nodup new_key
    · exact nodup_map_snoc wf.numbers_nodup new_number
    · simp only [List.mem_append, List.mem_singleton, Storage.size, List.length_append,
        List.length_singleton]
      rintro kr (mem | rfl)
      · exact Nat.lt_succ_of_lt (wf.number_lt kr mem)
      · exact Nat.lt_succ_self _
    · simp only [List.mem_append, List.mem_singleton]
      rintro kr (mem | rfl)
      · exact wf.record kr mem
      · exact Record.wellFormed_new _ _

/-! ### Scan order -/

/-- Whether two storages differ at most in the order in which records and casings are scanned. -/
def Storage.Reordered (s t : Storage V) : Prop :=
  ∃ scan : Record V → Record V, (∀ r : Record V, r.Reordered (scan r)) ∧
    (s.records.map fun kr => (kr.1, scan kr.2)).Perm t.records

namespace Storage.Reordered

variable {s t : Storage V}

lemma wellFormed (h : s.Reordered t) (wf : s.WellFormed) : t.WellFormed := by
  obtain ⟨scan, hscan, perm⟩ := h
  have size_eq : t.size = s.size := by
    rw [Storage.size, ← perm.length_eq, List.length_map]
    rfl
  refine ⟨?_, ?_, ?_, ?_⟩
  · refine (perm.map _).nodup_iff.mp ?_
    simpa [Function.comp_def] using wf.keys_nodup
  · refine (perm.map _).nodup_iff.mp ?_
    simpa [Function.comp_def, (hscan _).number_eq] using wf.numbers_nodup
  · intro kr mem
    obtain ⟨kr', mem', rfl⟩ := List.mem_map.mp (perm.mem_iff.mpr mem)
    rw [size_eq, (hscan _).number_eq]
    exact wf.number_lt kr' mem'
  · intro kr mem
    obtain ⟨kr', mem', rfl⟩ := List.mem_map.mp (perm.mem_iff.mpr mem)
    exact (hscan _).wellFormed (wf.record kr' mem')

/-- Under every key there is the same record, scanned in another order. -/
lemma recordAt?_eq (h : s.Reordered t) (wf : s.WellFormed) : ∃ scan : Record V → Record V,
    (∀ r : Record V, r.Reordered (scan r)) ∧
      ∀ key, t.recordAt? key = (s.recordAt? key).map scan := by
  have wf' := h.wellFormed wf
  obtain ⟨scan, hscan, perm⟩ := h
  refine ⟨scan, hscan, fun key => ?_⟩
  rw [Option.ext_iff]
  intro r
  rw [wf'.recordAt?_eq, ← perm.mem_iff, List.mem_map, Option.map_eq_some_iff]
  constructor
  · rintro ⟨⟨key', r'⟩, mem, eq⟩
    cases eq
    exact ⟨r', wf.recordAt?_eq.mpr mem, rfl⟩
  · rintro ⟨r', found, rfl⟩
    exact ⟨(key, r'), wf.recordAt?_eq.mp found, rfl⟩

lemma grows (h : s.Reordered t) (wf : s.WellFormed) : s.Grows t := by
  obtain ⟨scan, hscan, eq⟩ := h.recordAt?_eq wf
  intro key r found
  exact ⟨scan r, by rw [eq, found]; rfl, (hscan r).grows⟩

end Storage.Reordered

end ScopedExpr
