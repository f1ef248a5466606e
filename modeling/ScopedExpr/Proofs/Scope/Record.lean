import Mathlib.Data.List.Nodup
import Mathlib.Logic.Function.Basic
import Mathlib.Tactic.Common
import ScopedExpr.Scope.Storage

/-!
# Records as maps from spellings to values

A record that is well formed has one cell for each of its spellings, filed under just this spelling,
and one slot for each of its cells. What it says of a spelling then does not depend on the order in
which its cells are scanned, and every operation on it is described by what it does to the map from
spellings to values.
-/

namespace ScopedExpr

variable {V : Type}

/-- In a list without two elements of one key, a search by key finds every element. -/
lemma find?_key_eq_some_iff {α κ : Type} [BEq κ] [LawfulBEq κ] {f : α → κ} {as : List α}
    (nodup : (as.map f).Nodup) {k : κ} {a : α} :
    as.find? (f · == k) = some a ↔ a ∈ as ∧ f a = k := by
  constructor
  · intro h
    exact ⟨List.mem_of_find?_eq_some h, by simpa using List.find?_some h⟩
  · rintro ⟨mem, rfl⟩
    cases found : as.find? (f · == f a) with
    | none =>
      rw [List.find?_eq_none] at found
      simpa using found a mem
    | some b =>
      have same : f b = f a := by simpa using List.find?_some found
      rw [List.inj_on_of_nodup_map nodup (List.mem_of_find?_eq_some found) mem same]

/-- An element with a key of its own may be put behind all others. -/
lemma nodup_map_snoc {α κ : Type} {f : α → κ} {as : List α} {b : α} (nodup : (as.map f).Nodup)
    (new : ∀ a ∈ as, f a ≠ f b) : ((as ++ [b]).map f).Nodup := by
  rw [List.map_append, List.map_singleton]
  refine List.Nodup.append nodup (List.nodup_singleton _) ?_
  simpa using new

/-! ### Well-formed records -/

/--
The spellings of a record share its key, and its cells have spellings and slots of their own. Each
cell behind the first is filed under its spelling. The next slot is free.
-/
structure Record.WellFormed (r : Record V) (key : String) : Prop where
  lowercase_name : ∀ c ∈ r.casings, lowercase c.name = key
  filed : ∀ name c, (name, c) ∈ r.overflow → c.name = name
  names_nodup : (r.casings.map Cell.name).Nodup
  slots_nodup : (r.casings.map Cell.slot).Nodup
  slot_lt : ∀ c ∈ r.casings, c.slot < r.casingCount

def Record.member? (r : Record V) (name : String) : Option V :=
  (r.casings.find? (·.name == name)).bind Cell.value?

@[simp] lemma Record.length_casings (r : Record V) : r.casings.length = r.casingCount := by
  simp [Record.casings, Record.others, Record.casingCount]

lemma Record.first_mem_casings (r : Record V) : r.first ∈ r.casings := List.mem_cons_self

lemma Record.mem_others {r : Record V} {c : Cell V} :
    c ∈ r.others ↔ ∃ name, (name, c) ∈ r.overflow := by
  simp [Record.others]

lemma Record.mem_casings_of_filed {r : Record V} {name : String} {c : Cell V}
    (filed : (name, c) ∈ r.overflow) : c ∈ r.casings :=
  List.mem_cons_of_mem _ (Record.mem_others.mpr ⟨name, filed⟩)

namespace Record.WellFormed

variable {r : Record V} {key : String}

/-- A search for a name finds the one cell of this name. -/
lemma find?_name (wf : r.WellFormed key) {name : String} {c : Cell V} :
    r.casings.find? (·.name == name) = some c ↔ c ∈ r.casings ∧ c.name = name :=
  find?_key_eq_some_iff wf.names_nodup

/-- The keys under which the other casings are filed are their spellings. -/
lemma keys_eq (wf : r.WellFormed key) : r.overflow.map Prod.fst = r.others.map Cell.name := by
  rw [Record.others, List.map_map]
  exact List.map_congr_left fun kc mem => (wf.filed kc.1 kc.2 mem).symm

lemma cell?_eq (wf : r.WellFormed key) {slot : Nat} {c : Cell V} :
    r.cell? slot = some c ↔ c ∈ r.casings ∧ c.slot = slot :=
  find?_key_eq_some_iff wf.slots_nodup

lemma eq_of_slot (wf : r.WellFormed key) {c d : Cell V} (hc : c ∈ r.casings)
    (hd : d ∈ r.casings) (h : c.slot = d.slot) : c = d :=
  List.inj_on_of_nodup_map wf.slots_nodup hc hd h

/-- A cell has the value that stands under its spelling. -/
lemma member?_name (wf : r.WellFormed key) {c : Cell V} (hc : c ∈ r.casings) :
    r.member? c.name = c.value? := by
  rw [Record.member?, wf.find?_name.mpr ⟨hc, rfl⟩]
  rfl

/-- A value under a spelling is the value of a cell. -/
lemma member?_eq_some (wf : r.WellFormed key) {name : String} {v : V} :
    r.member? name = some v ↔ ∃ c ∈ r.casings, c.name = name ∧ c.value? = some v := by
  constructor
  · intro h
    obtain ⟨c, found, hv⟩ := Option.bind_eq_some_iff.mp h
    obtain ⟨hc, hname⟩ := wf.find?_name.mp found
    exact ⟨c, hc, hname, hv⟩
  · rintro ⟨c, hc, rfl, hv⟩
    rw [wf.member?_name hc, hv]

end Record.WellFormed

/-! ### Making casings -/

@[simp] lemma Record.casings_new (number : Nat) (casing : String) :
    (Record.new (V := V) number casing).casings = [⟨0, casing, none⟩] := rfl

lemma Record.wellFormed_new (number : Nat) (casing : String) :
    (Record.new (V := V) number casing).WellFormed (lowercase casing) where
  lowercase_name := by simp
  filed := by simp [Record.new]
  names_nodup := by simp
  slots_nodup := by simp
  slot_lt := by simp [← Record.length_casings]

@[simp] lemma Record.member?_new (number : Nat) (casing name : String) :
    (Record.new (V := V) number casing).member? name = none := by
  simp only [Record.member?, Record.casings_new, List.find?_cons]
  split <;> rfl

def Record.withCasing (r : Record V) (name : String) : Record V :=
  { r with overflow := r.overflow ++ [(name, ⟨r.casingCount, name, none⟩)] }

/-- Whatever a record has been through, a look-up adds one casing at most. -/
lemma Record.casing_snd (r : Record V) (name : String) :
    (r.casing name).2 = r ∨ (r.casing name).2 = r.withCasing name := by
  unfold Record.casing
  split
  · exact .inl rfl
  · split
    · exact .inl rfl
    · exact .inr rfl

@[simp] lemma Record.casings_withCasing (r : Record V) (name : String) :
    (r.withCasing name).casings = r.casings ++ [⟨r.casingCount, name, none⟩] := by
  simp [Record.withCasing, Record.casings, Record.others]

@[simp] lemma Record.casingCount_withCasing (r : Record V) (name : String) :
    (r.withCasing name).casingCount = r.casingCount + 1 := by
  simp [Record.withCasing, Record.casingCount]

namespace Record.WellFormed

variable {r : Record V} {key : String}

/-- To ask for a casing either finds it or puts an unset cell behind all others. -/
lemma casing_cases (wf : r.WellFormed key) (name : String) :
    (∃ c ∈ r.casings, c.name = name ∧ r.casing name = (c.slot, r)) ∨
    ((∀ c ∈ r.casings, c.name ≠ name) ∧
      r.casing name = (r.casingCount, r.withCasing name)) := by
  by_cases first : (r.first.name == name) = true
  · exact .inl ⟨r.first, r.first_mem_casings, eq_of_beq first, if_pos first⟩
  · cases found : r.overflow.lookup name with
    | some c =>
      have searched : r.casing name = (c.slot, r) := by rw [Record.casing, if_neg first, found]
      obtain ⟨before, later, split, -⟩ := List.lookup_eq_some_iff.mp found
      have filed : (name, c) ∈ r.overflow := by
        rw [split]
        exact List.mem_append_right _ List.mem_cons_self
      exact .inl ⟨c, mem_casings_of_filed filed, wf.filed name c filed, searched⟩
    | none =>
      have searched : r.casing name = (r.casingCount, r.withCasing name) := by
        rw [Record.casing, if_neg first, found, Record.withCasing]
      refine .inr ⟨fun c mem same => ?_, searched⟩
      rcases List.mem_cons.mp mem with rfl | mem
      · exact first (beq_iff_eq.mpr same)
      · obtain ⟨name', filed⟩ := mem_others.mp mem
        have apart := List.lookup_eq_none_iff.mp found _ filed
        rw [wf.filed name' c filed] at same
        simp [same] at apart

/-- To ask for a casing that is there changes nothing. -/
lemma casing_of_mem (wf : r.WellFormed key) {c : Cell V} (hc : c ∈ r.casings) :
    r.casing c.name = (c.slot, r) := by
  rcases wf.casing_cases c.name with ⟨d, hd, same, eq⟩ | ⟨new, -⟩
  · rw [eq, List.inj_on_of_nodup_map wf.names_nodup hd hc same]
  · exact absurd rfl (new c hc)

/-- A record stays well formed if a spelling of its key is looked up. -/
lemma casing (wf : r.WellFormed key) {name : String} (h : lowercase name = key) :
    (r.casing name).2.WellFormed key := by
  rcases wf.casing_cases name with ⟨c, hc, -, eq⟩ | ⟨new, eq⟩
  · rw [eq]
    exact wf
  · rw [eq]
    have fresh : ∀ c ∈ r.casings, c.slot ≠ r.casingCount := fun c hc =>
      Nat.ne_of_lt (wf.slot_lt c hc)
    refine ⟨?_, ?_, ?_, ?_, ?_⟩
    · simp only [Record.casings_withCasing, List.mem_append, List.mem_singleton]
      rintro c (hc | rfl)
      · exact wf.lowercase_name c hc
      · exact h
    · simp only [Record.withCasing, List.mem_append, List.mem_singleton]
      rintro name' c (filed | same)
      · exact wf.filed name' c filed
      · cases same
        rfl
    · rw [Record.casings_withCasing]
      exact nodup_map_snoc wf.names_nodup new
    · rw [Record.casings_withCasing]
      exact nodup_map_snoc wf.slots_nodup fresh
    · simp only [Record.casings_withCasing, Record.casingCount_withCasing, List.mem_append,
        List.mem_singleton]
      rintro c (hc | rfl)
      · exact Nat.lt_succ_of_lt (wf.slot_lt c hc)
      · exact Nat.lt_succ_self _

/-- A look-up gives the slot of the cell that has the name. -/
lemma mem_casing (wf : r.WellFormed key) (name : String) :
    ∃ c ∈ (r.casing name).2.casings, c.slot = (r.casing name).1 ∧ c.name = name := by
  rcases wf.casing_cases name with ⟨c, hc, name_eq, eq⟩ | ⟨-, eq⟩
  · rw [eq]
    exact ⟨c, hc, rfl, name_eq⟩
  · rw [eq]
    refine ⟨⟨r.casingCount, name, none⟩, ?_, rfl, rfl⟩
    rw [Record.casings_withCasing]
    exact List.mem_append_right r.casings (List.mem_singleton_self _)

/-- A new casing holds no value. -/
lemma member?_casing (wf : r.WellFormed key) (name other : String) :
    (r.casing name).2.member? other = r.member? other := by
  rcases wf.casing_cases name with ⟨c, -, -, eq⟩ | ⟨-, eq⟩
  · rw [eq]
  · rw [eq]
    simp only [Record.member?, Record.casings_withCasing, List.find?_append]
    cases r.casings.find? (·.name == other) with
    | some c => rfl
    | none =>
      simp only [Option.none_or, List.find?_singleton]
      split <;> rfl

end Record.WellFormed

/-! ### Writing values -/

/-- A function on cells that may change their values only. -/
def Cell.KeepsPlace (f : Cell V → Cell V) : Prop := ∀ c, (f c).slot = c.slot ∧ (f c).name = c.name

lemma Cell.keepsPlace_put (v? : Option V) : Cell.KeepsPlace (·.put v?) := fun _ => ⟨rfl, rfl⟩

lemma Cell.keepsPlace_putIf (slot : Nat) (v? : Option V) :
    Cell.KeepsPlace fun c : Cell V => if c.slot = slot then c.put v? else c := by
  intro c
  dsimp only
  split <;> exact ⟨rfl, rfl⟩

@[simp] lemma Record.casings_mapCells (r : Record V) (f : Cell V → Cell V) :
    (r.mapCells f).casings = r.casings.map f := by
  simp [Record.mapCells, Record.casings, Record.others, Function.comp_def]

/-- A search by spelling passes through a function that keeps the spellings. -/
lemma Record.find?_name_mapCells (r : Record V) {f : Cell V → Cell V} (hf : Cell.KeepsPlace f)
    (name : String) :
    (r.mapCells f).casings.find? (·.name == name) =
      (r.casings.find? (·.name == name)).map f := by
  rw [Record.casings_mapCells, List.find?_map]
  congr 2
  ext c
  simp [(hf c).2]

namespace Record.WellFormed

variable {r : Record V} {key : String}

lemma mapCells (wf : r.WellFormed key) {f : Cell V → Cell V} (hf : Cell.KeepsPlace f) :
    (r.mapCells f).WellFormed key where
  lowercase_name := by
    simp only [Record.casings_mapCells, List.mem_map]
    rintro _ ⟨c, hc, rfl⟩
    rw [(hf c).2]
    exact wf.lowercase_name c hc
  filed := by
    intro name _ mapped
    obtain ⟨⟨_, c⟩, hc, same⟩ := List.mem_map.mp mapped
    cases same
    rw [(hf c).2]
    exact wf.filed name c hc
  names_nodup := by
    have names : (r.casings.map f).map Cell.name = r.casings.map Cell.name := by
      simp [(hf _).2]
    rw [Record.casings_mapCells, names]
    exact wf.names_nodup
  slots_nodup := by
    have slots : (r.casings.map f).map Cell.slot = r.casings.map Cell.slot := by
      simp [(hf _).1]
    rw [Record.casings_mapCells, slots]
    exact wf.slots_nodup
  slot_lt := by
    have count : (r.mapCells f).casingCount = r.casingCount := by simp [← Record.length_casings]
    rw [count]
    simp only [Record.casings_mapCells, List.mem_map]
    rintro _ ⟨c, hc, rfl⟩
    rw [(hf c).1]
    exact wf.slot_lt c hc

/-- To write into the slot of a cell is to write under its spelling. -/
lemma member?_put (wf : r.WellFormed key) {c : Cell V} (hc : c ∈ r.casings) (v? : Option V) :
    (r.put c.slot v?).member? = Function.update r.member? c.name v? := by
  ext1 name
  rw [Record.member?, Record.put, r.find?_name_mapCells (Cell.keepsPlace_putIf _ _)]
  by_cases same : name = c.name
  · subst same
    rw [wf.find?_name.mpr ⟨hc, rfl⟩]
    simp [Cell.put]
  · rw [Function.update_of_ne same, Record.member?]
    cases found : r.casings.find? (·.name == name) with
    | none => rfl
    | some d =>
      obtain ⟨hd, hname⟩ := wf.find?_name.mp found
      have other : d.slot ≠ c.slot := by
        intro h
        rw [wf.eq_of_slot hd hc h] at hname
        exact same hname.symm
      simp [other]

end Record.WellFormed

def Record.cleared (r : Record V) : Record V := r.mapCells (·.put none)

@[simp] lemma Record.member?_cleared (r : Record V) (name : String) :
    r.cleared.member? name = none := by
  rw [Record.member?, Record.cleared, r.find?_name_mapCells (Cell.keepsPlace_put none)]
  cases r.casings.find? (·.name == name) <;> rfl

/-! ### All casings together -/

/-- The value of a record is the value of the cell that is found to hold one. -/
lemma Record.value?_eq (r : Record V) : r.value? = r.holding?.bind Cell.value? := by
  rw [Record.value?, Record.holding?]
  induction r.casings with
  | nil => rfl
  | cons c cs ih =>
    cases hv : c.value? with
    | some v => simp [Cell.hasValue, hv]
    | none => simpa [Cell.hasValue, hv] using ih

lemma Record.mem_of_holding? {r : Record V} {c : Cell V} (h : r.holding? = some c) :
    c ∈ r.casings ∧ c.value? ≠ none := by
  refine ⟨List.mem_of_find?_eq_some h, ?_⟩
  have := List.find?_some h
  simpa [Cell.hasValue, Option.isSome_iff_ne_none] using this

lemma Record.hasValue_eq_any (r : Record V) : r.hasValue = r.casings.any Cell.hasValue := by
  rw [Record.hasValue, Record.holding?, List.isSome_find?]

/-- The first casing goes before all others. -/
lemma Record.holding?_of_first {r : Record V} (h : r.first.value? ≠ none) :
    r.holding? = some r.first := by
  have : r.first.hasValue = true := by simpa [Cell.hasValue, Option.isSome_iff_ne_none] using h
  rw [Record.holding?, Record.casings, List.find?_cons_of_pos this]

/-- If no cell is found to hold a value, then none does. -/
lemma Record.value?_of_holding?_none {r : Record V} (h : r.holding? = none) :
    ∀ c ∈ r.casings, c.value? = none := by
  intro c hc
  have := List.find?_eq_none.mp h c hc
  simpa [Cell.hasValue] using this

/-- A look-up does not change which cell is found first. -/
lemma Record.WellFormed.holding?_casing {r : Record V} {key : String} (wf : r.WellFormed key)
    (name : String) : (r.casing name).2.holding? = r.holding? := by
  rcases wf.casing_cases name with ⟨c, -, -, eq⟩ | ⟨-, eq⟩
  · rw [eq]
  · rw [eq]
    simp [Record.holding?, Cell.hasValue]

/-- The cell that a write to the whole record goes to. -/
lemma Record.target_mem (r : Record V) : r.holding?.getD r.first ∈ r.casings := by
  cases found : r.holding? with
  | none => exact r.first_mem_casings
  | some c => exact (Record.mem_of_holding? found).1

/-- The walk clears every cell, and tells whether there was a value in any of them. -/
lemma clearCells_eq (held : Bool) (cells : List (String × Cell V)) :
    clearCells held cells =
      (held || (cells.map Prod.snd).any Cell.hasValue,
        cells.map fun kc => (kc.1, kc.2.put none)) := by
  induction cells generalizing held with
  | nil => simp [clearCells]
  | cons kc later ih => simp [clearCells, ih, Cell.deleteValue, Bool.or_assoc]

/-- The walk over the cells clears all of them, even if it has already met a value. -/
lemma Record.deleteValue_eq (r : Record V) : r.deleteValue = (r.hasValue, r.cleared) := by
  simp only [Record.deleteValue, clearCells_eq, Record.hasValue_eq_any, Record.casings,
    List.any_cons]
  rfl

lemma Record.deleteCell_eq (r : Record V) (slot : Nat) :
    r.deleteCell slot = ((r.cell? slot).any Cell.hasValue, r.put slot none) := rfl

/-! ### Growth and scan order -/

/-- Whether `r'` has the number, the first casing and the cells of `r`, whatever their values. -/
structure Record.Grows (r r' : Record V) : Prop where
  number_eq : r'.number = r.number
  first_eq : r'.first.name = r.first.name
  cell_kept : ∀ c ∈ r.casings, ∃ d ∈ r'.casings, d.slot = c.slot ∧ d.name = c.name

namespace Record.Grows

lemma refl (r : Record V) : r.Grows r := ⟨rfl, rfl, fun c hc => ⟨c, hc, rfl, rfl⟩⟩

lemma trans {r r' r'' : Record V} (h : r.Grows r') (h' : r'.Grows r'') : r.Grows r'' where
  number_eq := h'.number_eq.trans h.number_eq
  first_eq := h'.first_eq.trans h.first_eq
  cell_kept c hc := by
    obtain ⟨d, hd, slot, name⟩ := h.cell_kept c hc
    obtain ⟨e, he, slot', name'⟩ := h'.cell_kept d hd
    exact ⟨e, he, slot'.trans slot, name'.trans name⟩

lemma mapCells (r : Record V) {f : Cell V → Cell V} (hf : Cell.KeepsPlace f) :
    r.Grows (r.mapCells f) where
  number_eq := rfl
  first_eq := (hf r.first).2
  cell_kept c hc := by
    refine ⟨f c, ?_, (hf c).1, (hf c).2⟩
    rw [Record.casings_mapCells]
    exact List.mem_map_of_mem hc

end Record.Grows

/-- A look-up keeps all casings. -/
lemma Record.WellFormed.grows_casing {r : Record V} {key : String} (wf : r.WellFormed key)
    (name : String) : r.Grows (r.casing name).2 := by
  rcases wf.casing_cases name with ⟨c, -, -, eq⟩ | ⟨-, eq⟩
  · rw [eq]
    exact .refl r
  · rw [eq]
    refine ⟨rfl, rfl, fun c hc => ⟨c, ?_, rfl, rfl⟩⟩
    rw [Record.casings_withCasing]
    exact List.mem_append_left _ hc

/--
Whether two records differ at most in the order in which the casings behind the first are scanned.
-/
structure Record.Reordered (r r' : Record V) : Prop where
  number_eq : r'.number = r.number
  first_eq : r'.first = r.first
  overflow_perm : r.overflow.Perm r'.overflow

namespace Record.Reordered

variable {r r' : Record V} {key : String}

lemma others_perm (h : r.Reordered r') : r.others.Perm r'.others := h.overflow_perm.map _

lemma casings_perm (h : r.Reordered r') : r.casings.Perm r'.casings := by
  rw [Record.casings, Record.casings, h.first_eq]
  exact h.others_perm.cons _

lemma wellFormed (h : r.Reordered r') (wf : r.WellFormed key) : r'.WellFormed key where
  lowercase_name c hc := wf.lowercase_name c (h.casings_perm.mem_iff.mpr hc)
  filed name c hc := wf.filed name c (h.overflow_perm.mem_iff.mpr hc)
  names_nodup := (h.casings_perm.map _).nodup_iff.mp wf.names_nodup
  slots_nodup := (h.casings_perm.map _).nodup_iff.mp wf.slots_nodup
  slot_lt c hc := by
    rw [Record.casingCount, ← h.overflow_perm.length_eq]
    exact wf.slot_lt c (h.casings_perm.mem_iff.mpr hc)

lemma grows (h : r.Reordered r') : r.Grows r' where
  number_eq := h.number_eq
  first_eq := congrArg Cell.name h.first_eq
  cell_kept c hc := ⟨c, h.casings_perm.mem_iff.mp hc, rfl, rfl⟩

/-- The order of the cells does not show in the values under the spellings. -/
lemma member?_eq (h : r.Reordered r') (wf : r.WellFormed key) : r'.member? = r.member? := by
  ext1 name
  rw [Option.ext_iff]
  intro v
  rw [(h.wellFormed wf).member?_eq_some, wf.member?_eq_some]
  simp only [h.casings_perm.mem_iff]

end Record.Reordered

end ScopedExpr
