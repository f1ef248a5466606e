import Mathlib.Data.Finset.Card
import ScopedExpr.Proofs.Scope.Locality
import ScopedExpr.Proofs.Scope.Refinement

/-!
# How many records and casings there are

Look-ups make records and casings, and nothing takes them away. Their numbers can therefore be read
off the names that have been looked up: every key among them has one record, with a casing for the
first of its names and for each of its names that has been looked up in exact mode.
-/

namespace ScopedExpr

variable {V : Type}

/-! ### Names that are looked up -/

/-- The name that a request looks up. To ask whether a name is known is not to look it up. -/
def Request.lookUp? : Request V → Option (String × CaseMode)
  | .getVariable name mode => some (name, mode)
  | .act name mode _ => some (name, mode)
  | .hasVariable _ | .size | .isEmpty | .memberNames | .items => none

def lookUps (trace : List (Request V × Answer V)) : List (String × CaseMode) :=
  trace.filterMap fun (q, _) => q.lookUp?

def keysOf (looked : List (String × CaseMode)) : Finset String :=
  (looked.map fun p => lowercase p.1).toFinset

/-- The first name of the key, and all names of the key that have been looked up in exact mode. -/
def spellingsOf (looked : List (String × CaseMode)) (key : String) : Finset String :=
  let own := looked.filter fun p => lowercase p.1 = key
  ((own.take 1 ++ own.filter fun p => p.2 = .exact).map Prod.fst).toFinset

/-- The spellings of a key after one of its names has been looked up once more. -/
def spelled (held : Finset String) (name : String) : CaseMode → Finset String
  | .exact => insert name held
  | .ignoreCase => if held = ∅ then {name} else held

section LookUps

variable {looked more : List (String × CaseMode)} {key name : String} {mode : CaseMode}

lemma mem_keysOf : key ∈ keysOf looked ↔ ∃ p ∈ looked, lowercase p.1 = key := by
  rw [keysOf, List.mem_toFinset, List.mem_map]

lemma keysOf_append : keysOf (looked ++ more) = keysOf looked ∪ keysOf more := by
  rw [keysOf, List.map_append, List.toFinset_append]
  rfl

/-- A key has spellings exactly if a name of it has been looked up. -/
lemma spellingsOf_eq_empty_iff : spellingsOf looked key = ∅ ↔ key ∉ keysOf looked := by
  rw [mem_keysOf, spellingsOf]
  cases own : looked.filter fun p => lowercase p.1 = key with
  | nil =>
    rw [List.filter_eq_nil_iff] at own
    simpa using own
  | cons p _ =>
    have mem : p ∈ looked.filter fun p => lowercase p.1 = key := own ▸ List.mem_cons_self
    rw [List.mem_filter, decide_eq_true_eq] at mem
    exact iff_of_false (by simp) (not_not.mpr ⟨p, mem⟩)

/-- Only the first name of a key is counted whatever the mode. -/
lemma spellingsOf_snoc : spellingsOf (looked ++ [(name, mode)]) =
    Function.update (spellingsOf looked) (lowercase name)
      (spelled (spellingsOf looked (lowercase name)) name mode) := by
  ext1 key
  by_cases same : key = lowercase name
  · subst same
    rw [Function.update_self, spellingsOf, spellingsOf, List.filter_append]
    generalize looked.filter (fun p => lowercase p.1 = lowercase name) = own
    by_cases none : own = []
    · subst none
      cases mode <;> simp [spelled]
    · have first : (own ++ [(name, mode)]).take 1 = own.take 1 :=
        List.take_append_of_le_length (List.length_pos_of_ne_nil none)
      cases mode with
      | exact =>
        ext other
        simp [first, spelled, ← or_assoc, or_comm]
      | ignoreCase => simp [first, spelled, none]
  · have other : ¬ lowercase name = key := Ne.symm same
    rw [Function.update_of_ne same, spellingsOf, spellingsOf, List.filter_append]
    simp [other]

/-- No spelling is lost by later look-ups. -/
lemma spellingsOf_subset_append : spellingsOf looked key ⊆ spellingsOf (looked ++ more) key := by
  induction more using List.reverseRecOn with
  | nil => rw [List.append_nil]
  | append_singleton more p ih =>
    obtain ⟨name, mode⟩ := p
    rw [← List.append_assoc, spellingsOf_snoc]
    refine ih.trans ?_
    by_cases same : key = lowercase name
    · subst same
      rw [Function.update_self]
      cases mode with
      | exact => exact Finset.subset_insert _ _
      | ignoreCase =>
        rw [spelled]
        split
        · simp [*]
        · exact Finset.Subset.refl _
    · rw [Function.update_of_ne same]

/-- A key that is known gets no spelling from look-ups in ignore-case mode. -/
lemma spellingsOf_append_of_ignoreCase (known : key ∈ keysOf looked)
    (ignored : ∀ p ∈ more, lowercase p.1 = key → p.2 = .ignoreCase) :
    spellingsOf (looked ++ more) key = spellingsOf looked key := by
  induction more using List.reverseRecOn with
  | nil => rw [List.append_nil]
  | append_singleton more p ih =>
    obtain ⟨name, mode⟩ := p
    have kept := ih fun p mem => ignored p (List.mem_append_left _ mem)
    rw [← List.append_assoc, spellingsOf_snoc, ← kept]
    by_cases same : key = lowercase name
    · subst same
      obtain rfl : mode = .ignoreCase :=
        ignored _ (List.mem_append_right _ (List.mem_singleton_self _)) rfl
      have filled : ¬ spellingsOf (looked ++ more) (lowercase name) = ∅ := by
        rw [kept, spellingsOf_eq_empty_iff]
        exact not_not.mpr known
      rw [Function.update_self, spelled, if_neg filled]
    · rw [Function.update_of_ne same]

end LookUps

/-! ### Spellings in a storage -/

def Record.spellings (r : Record V) : Finset String := (r.casings.map Cell.name).toFinset

def Storage.spellings (s : Storage V) (key : String) : Finset String :=
  ((s.recordAt? key).map Record.spellings).getD ∅

namespace Record

variable {r : Record V} {key : String}

lemma spellings_ne_empty (r : Record V) : r.spellings ≠ ∅ := by
  simp [spellings, casings]

lemma spellings_mapCells (r : Record V) {f : Cell V → Cell V} (hf : Cell.KeepsPlace f) :
    (r.mapCells f).spellings = r.spellings := by
  simp [spellings, Function.comp_def, (hf _).2]

/-- To look up a casing is to add it to the spellings. -/
lemma WellFormed.spellings_casing (wf : r.WellFormed key) (name : String) :
    (r.casing name).2.spellings = insert name r.spellings := by
  rcases wf.casing_cases name with ⟨c, hc, rfl, eq⟩ | ⟨-, eq⟩
  · rw [eq, Finset.insert_eq_of_mem]
    exact List.mem_toFinset.mpr (List.mem_map_of_mem hc)
  · ext other
    simp [eq, spellings]

/-- Beyond the look-up, nothing that is done with a variable makes a casing. -/
lemma spellings_act (r : Record V) (name : String) (mode : CaseMode) (a : Action V) :
    (r.act name mode a).2.spellings = (r.lookUp name mode).spellings := by
  have put (r : Record V) (slot : Nat) (v? : Option V) : (r.put slot v?).spellings = r.spellings :=
    r.spellings_mapCells (Cell.keepsPlace_putIf slot v?)
  cases a with
  | hasValue | value? | getValue => cases mode <;> rfl
  | setValue v => cases mode <;> exact put _ _ _
  | deleteValue =>
    cases mode with
    | exact => exact put _ _ _
    | ignoreCase =>
      simp only [act, deleteValue_eq]
      exact spellings_mapCells _ (Cell.keepsPlace_put none)

lemma WellFormed.card_spellings (wf : r.WellFormed key) : r.spellings.card = r.casingCount := by
  rw [spellings, List.toFinset_card_of_nodup wf.names_nodup, List.length_map, length_casings]

end Record

lemma Storage.spellings_eq {s : Storage V} {key : String} {r : Record V}
    (found : s.recordAt? key = some r) : s.spellings key = r.spellings := by
  rw [spellings, found]
  rfl

lemma Storage.spellings_eq_empty_iff {s : Storage V} {key : String} :
    s.spellings key = ∅ ↔ s.recordAt? key = none := by
  cases found : s.recordAt? key with
  | none => simp [spellings, found]
  | some r => simp [spellings_eq found, r.spellings_ne_empty]

lemma Storage.Reordered.spellings_eq {s t : Storage V} (h : s.Reordered t) (wf : s.WellFormed) :
    t.spellings = s.spellings := by
  obtain ⟨scan, hscan, eq⟩ := h.recordAt?_eq wf
  ext1 key
  rw [spellings, spellings, eq, Option.map_map]
  congr 2
  ext1 r
  exact (List.toFinset_eq_of_perm _ _ ((hscan r).casings_perm.map _)).symm

namespace Storage.WellFormed

variable {s : Storage V}

/-- A look-up makes the record of the name and, in exact mode, its casing. -/
lemma spellings_lookUp (wf : s.WellFormed) (name : String) (mode : CaseMode) :
    ((s.recordOf name).1.lookUp name mode).spellings =
      spelled (s.spellings (lowercase name)) name mode := by
  have wfr := (wf.recordOf name).recordAt? (s.recordAt?_recordOf_self name)
  rcases s.recordOf_cases name with ⟨r, found, eq⟩ | ⟨absent, eq⟩
  · rw [eq] at wfr ⊢
    rw [Storage.spellings_eq found]
    cases mode with
    | exact => exact wfr.spellings_casing name
    | ignoreCase => rw [spelled, if_neg r.spellings_ne_empty, Record.lookUp]
  · rw [eq] at wfr ⊢
    rw [Storage.spellings_eq_empty_iff.mpr absent]
    cases mode with
    | exact =>
      rw [Record.lookUp, wfr.spellings_casing]
      simp [Record.spellings, spelled]
    | ignoreCase => simp [Record.lookUp, Record.spellings, spelled]

/--
What is done with a name adds spellings under its own key only, and just those of the look-up.
-/
lemma spellings_act (wf : s.WellFormed) (name : String) (mode : CaseMode) (a : Action V) :
    (s.act name mode a).2.spellings = Function.update s.spellings (lowercase name)
      (spelled (s.spellings (lowercase name)) name mode) := by
  ext1 key
  rw [Storage.spellings, (wf.act_local name mode a).2]
  by_cases same : key = lowercase name
  · subst same
    rw [Function.update_self, Function.update_self, Option.map_some, Option.getD_some,
      Record.spellings_act, wf.spellings_lookUp]
  · rw [Function.update_of_ne same, Function.update_of_ne same, Storage.spellings]

end Storage.WellFormed

/-! ### What has been looked up and what is there -/

/-- Whether the storage has exactly the casings that these look-ups make. -/
structure Storage.MadeBy (s : Storage V) (looked : List (String × CaseMode)) : Prop where
  wellFormed : s.WellFormed
  spellings_eq : s.spellings = spellingsOf looked

namespace Storage.MadeBy

variable {s t : Storage V} {looked : List (String × CaseMode)} {key : String} {r : Record V}

lemma empty : ({} : Storage V).MadeBy [] where
  wellFormed := wellFormed_empty
  spellings_eq := rfl

lemma recordAt?_ne_none_iff (made : s.MadeBy looked) :
    s.recordAt? key ≠ none ↔ key ∈ keysOf looked := by
  rw [ne_eq, ← spellings_eq_empty_iff, made.spellings_eq, spellingsOf_eq_empty_iff, not_not]

/-- There are as many records as keys that have been looked up. -/
lemma size_eq (made : s.MadeBy looked) : s.size = (keysOf looked).card := by
  have keys : (s.records.map Prod.fst).toFinset = keysOf looked := by
    ext key
    rw [List.mem_toFinset, made.wellFormed.mem_keys, ← made.recordAt?_ne_none_iff]
    simp [flat]
  rw [← keys, List.toFinset_card_of_nodup made.wellFormed.keys_nodup, List.length_map]
  rfl

/-- A record has as many casings as spellings of its key have been looked up. -/
lemma casingCount_eq (made : s.MadeBy looked) (found : s.recordAt? key = some r) :
    r.casingCount = (spellingsOf looked key).card := by
  rw [← (made.wellFormed.recordAt? found).card_spellings, ← Storage.spellings_eq found,
    made.spellings_eq]

/-- One request adds its look-up to those that have been made. -/
lemma answer (made : s.MadeBy looked) (q : Request V) :
    (s.answer q).2.MadeBy (looked ++ q.lookUp?.toList) := by
  refine ⟨(s.evolves_answer q made.wellFormed).1, ?_⟩
  have act (name : String) (mode : CaseMode) (a : Action V) :
      (s.act name mode a).2.spellings = spellingsOf (looked ++ [(name, mode)]) := by
    rw [made.wellFormed.spellings_act, spellingsOf_snoc, made.spellings_eq]
  cases q with
  | getVariable name mode => exact act name mode .hasValue
  | act name mode a => exact act name mode a
  | hasVariable | size | isEmpty | memberNames | items =>
    exact made.spellings_eq.trans (congrArg spellingsOf (List.append_nil looked).symm)

lemma reorder (made : s.MadeBy looked) (reordered : s.Reordered t) : t.MadeBy looked where
  wellFormed := reordered.wellFormed made.wellFormed
  spellings_eq := (reordered.spellings_eq made.wellFormed).trans made.spellings_eq

/-- A whole run adds all of its look-ups. -/
lemma run {trace : List (Request V × Answer V)} (made : s.MadeBy looked) (run : s.Run trace t) :
    t.MadeBy (looked ++ lookUps trace) := by
  induction run generalizing looked with
  | nil => exact (List.append_nil looked).symm ▸ made
  | reorder reordered _ ih => exact ih (made.reorder reordered)
  | cons q _ ih =>
    have all := ih (made.answer q)
    rw [List.append_assoc] at all
    cases looks : q.lookUp? with
    | none => simpa [lookUps, looks] using all
    | some p => simpa [lookUps, looks] using all

end Storage.MadeBy

/--
After a run from the empty storage there are as many records as there are keys among the names that
have been looked up, and the record of a key has as many casings as there are names among the first
one of the key and those of the key that have been looked up in exact mode. While the run goes on,
neither number gets less; the number of records stays as it is if no new key is looked up, in
whatever spelling, and that of the casings of a record if its key is looked up in ignore-case mode
only.
-/
theorem Storage.Run.counts {s : Storage V} {trace : List (Request V × Answer V)}
    (run : Storage.Run {} trace s) :
    s.size = (keysOf (lookUps trace)).card ∧
    (∀ key, s.recordAt? key ≠ none ↔ key ∈ keysOf (lookUps trace)) ∧
    (∀ key r, s.recordAt? key = some r →
      r.casingCount = (spellingsOf (lookUps trace) key).card) ∧
    ∀ t more, Storage.Run s more t →
      s.size ≤ t.size ∧
      ((∀ p ∈ lookUps more, lowercase p.1 ∈ keysOf (lookUps trace)) → t.size = s.size) ∧
      ∀ key r, s.recordAt? key = some r → ∃ r', t.recordAt? key = some r' ∧
        r.casingCount ≤ r'.casingCount ∧
        ((∀ p ∈ lookUps more, lowercase p.1 = key → p.2 = .ignoreCase) →
          r'.casingCount = r.casingCount) := by
  have made := Storage.MadeBy.empty.run run
  rw [List.nil_append] at made
  refine ⟨made.size_eq, fun _ => made.recordAt?_ne_none_iff, fun _ _ => made.casingCount_eq, ?_⟩
  intro t more run'
  have made' := made.run run'
  refine ⟨?_, fun known => ?_, fun key r found => ?_⟩
  · rw [made.size_eq, made'.size_eq, keysOf_append]
    exact Finset.card_le_card Finset.subset_union_left
  · have nothing_new : keysOf (lookUps more) ⊆ keysOf (lookUps trace) := by
      intro key new
      obtain ⟨p, mem, rfl⟩ := mem_keysOf.mp new
      exact known p mem
    rw [made'.size_eq, keysOf_append, Finset.union_eq_left.mpr nothing_new, made.size_eq]
  · have known : key ∈ keysOf (lookUps trace) := made.recordAt?_ne_none_iff.mp (by simp [found])
    have there : t.recordAt? key ≠ none := by
      rw [made'.recordAt?_ne_none_iff, keysOf_append]
      exact Finset.mem_union_left _ known
    obtain ⟨r', found'⟩ := Option.ne_none_iff_exists'.mp there
    refine ⟨r', found', ?_, fun ignored => ?_⟩
    · rw [made.casingCount_eq found, made'.casingCount_eq found']
      exact Finset.card_le_card spellingsOf_subset_append
    · rw [made'.casingCount_eq found', spellingsOf_append_of_ignoreCase known ignored,
        made.casingCount_eq found]

/--
The first spelling comes from a read in ignore-case mode, the second one from a write in exact mode;
a third one in ignore-case mode, which deletes, counts for nothing.
-/
theorem Storage.Run.counts_deleted :
    let trace : List (Request Nat × Answer Nat) :=
      [(.hasVariable "other", .truth false),
       (.act "KEY" .ignoreCase .value?, .value? none),
       (.act "Key" .exact (.setValue 1), .done)]
    let more : List (Request Nat × Answer Nat) :=
      [(.act "kEY" .ignoreCase .deleteValue, .truth true)]
    ∃ s t r, Storage.Run {} trace s ∧ Storage.Run s more t ∧ s.recordAt? "key" = some r ∧
      s.size = 1 ∧ r.casingCount = 2 ∧ t.size = 1 ∧
      ∃ r', t.recordAt? "key" = some r' ∧ r'.casingCount = 2 := by
  intro trace more
  let holding (others : List (Cell Nat)) : Storage Nat :=
    ⟨[("key", ⟨0, ⟨0, "KEY", none⟩, others.map fun c => (c.name, c)⟩)]⟩
  have asked : ({} : Storage Nat).answer (.hasVariable "other") = (.truth false, {}) := by
    decide +kernel
  have read : ({} : Storage Nat).answer (.act "KEY" .ignoreCase .value?) =
      (.value? none, holding []) := by
    decide +kernel
  have written : (holding []).answer (.act "Key" .exact (.setValue 1)) =
      (.done, holding [⟨1, "Key", some 1⟩]) := by
    decide +kernel
  have deleted : (holding [⟨1, "Key", some 1⟩]).answer (.act "kEY" .ignoreCase .deleteValue) =
      (.truth true, holding [⟨1, "Key", none⟩]) := by
    decide +kernel
  have run : Storage.Run {} trace (holding [⟨1, "Key", some 1⟩]) :=
    .of_answer_eq asked <| .of_answer_eq read <| .of_answer_eq written <| .nil _
  have run' : Storage.Run (holding [⟨1, "Key", some 1⟩]) more (holding [⟨1, "Key", none⟩]) :=
    .of_answer_eq deleted <| .nil _
  have found : (holding [⟨1, "Key", some 1⟩]).recordAt? "key" =
      some ⟨0, ⟨0, "KEY", none⟩, [("Key", ⟨1, "Key", some 1⟩)]⟩ := by
    decide +kernel
  obtain ⟨size, -, casings, later⟩ := Storage.Run.counts run
  obtain ⟨-, size_kept, casings_kept⟩ := later _ more run'
  have size_eq : (holding [⟨1, "Key", some 1⟩]).size = 1 := size.trans (by decide +kernel)
  have count_eq := (casings _ _ found).trans (by decide +kernel : _ = 2)
  obtain ⟨r', found', -, count_kept⟩ := casings_kept _ _ found
  refine ⟨_, _, _, run, run', found, size_eq, count_eq, ?_, r', found', ?_⟩
  · exact (size_kept (by decide +kernel)).trans size_eq
  · exact (count_kept (by decide +kernel)).trans count_eq

end ScopedExpr
