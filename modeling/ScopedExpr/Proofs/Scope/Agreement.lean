import Mathlib.Data.List.Sort
import ScopedExpr.Proofs.Scope.Refinement

/-!
# Storages of one meaning

Two storages may differ in their slots, in the order of scanning and in casings without a value, and
still mean the same. They then give the same answers, except that an ignore-case read or write of a
name whose first spelling has no value may go to any spelling that has one.
-/

namespace ScopedExpr

variable {V : Type}

/-! ### Where there is nothing to choose -/

/-- Whether the first casing has no value while two or more of the others have one. -/
def Record.Ambiguous (r : Record V) : Prop :=
  r.first.hasValue = false ∧ 2 ≤ r.others.countP Cell.hasValue

/-- Whether the first spelling of a key has a value, or at most one of its spellings has. -/
def Flat.Settled (m : Flat V) (key : String) : Prop :=
  (∃ name, m.first key = some name ∧ m.members name ≠ none) ∨
  ∀ name name', lowercase name = key → lowercase name' = key →
    m.members name ≠ none → m.members name' ≠ none → name = name'

/-- Where a key is settled there is only one choice of its spelling. -/
lemma Flat.Settled.pick_eq {m : Flat V} {key : String} {pick pick' : String → Option String}
    (settled : m.Settled key) (chooses : m.Chooses pick) (chooses' : m.Chooses pick') :
    pick key = pick' key := by
  rcases settled with ⟨name, first, holds⟩ | unique
  · rw [chooses.first_picked key name first holds, chooses'.first_picked key name first holds]
  · cases picked : pick key with
    | none =>
      cases picked' : pick' key with
      | none => rfl
      | some name' =>
        exact absurd ⟨name', chooses'.picked_holds key name' picked'⟩
          (chooses.none_holds key picked)
    | some name =>
      obtain ⟨key_eq, holds⟩ := chooses.picked_holds key name picked
      cases picked' : pick' key with
      | none => exact absurd ⟨name, key_eq, holds⟩ (chooses'.none_holds key picked')
      | some name' =>
        obtain ⟨key_eq', holds'⟩ := chooses'.picked_holds key name' picked'
        rw [unique name name' key_eq key_eq' holds holds']

/-- If one item passes at most, then two items that pass are the same. -/
lemma eq_of_countP_le_one {α : Type} {p : α → Bool} {as : List α} {a b : α}
    (one : as.countP p ≤ 1) (ha : a ∈ as) (hb : b ∈ as) (pa : p a = true) (pb : p b = true) :
    a = b := by
  rw [List.countP_eq_length_filter] at one
  have ha' : a ∈ as.filter p := List.mem_filter.mpr ⟨ha, pa⟩
  have hb' : b ∈ as.filter p := List.mem_filter.mpr ⟨hb, pb⟩
  match as.filter p, one, ha', hb' with
  | [c], _, ha', hb' => rw [List.mem_singleton.mp ha', List.mem_singleton.mp hb']

/-- Whether an ignore-case operation on the name meets a record that leaves nothing to choose. -/
def Storage.Clear (s : Storage V) (name : String) : CaseMode → Prop
  | .exact => True
  | .ignoreCase => ∀ r, s.recordAt? (lowercase name) = some r → ¬ r.Ambiguous

/-- A record that leaves nothing to choose is settled in the flat model. -/
lemma Storage.WellFormed.settled {s : Storage V} (wf : s.WellFormed) {name : String}
    (clear : s.Clear name .ignoreCase) : s.flat.Settled (lowercase name) := by
  cases found : s.recordAt? (lowercase name) with
  | none =>
    refine .inr ?_
    intro other _ same _ holds
    simp [Storage.flat, same, found] at holds
  | some r =>
    have wfr := wf.recordAt? found
    have member : ∀ other, lowercase other = lowercase name →
        s.flat.members other = r.member? other := fun other same =>
      Storage.flat_members (same ▸ found)
    by_cases first : r.first.hasValue = true
    · refine .inl ⟨r.first.name, Storage.flat_first found, ?_⟩
      rw [member _ (wfr.lowercase_name _ r.first_mem_casings), wfr.member?_name r.first_mem_casings]
      exact Option.isSome_iff_ne_none.mp first
    · have one : r.others.countP Cell.hasValue ≤ 1 := by
        by_contra two
        exact clear r found ⟨by simpa using first, by omega⟩
      -- The first casing has no value, so that a casing with a value is one of the others.
      have later : ∀ other, lowercase other = lowercase name → s.flat.members other ≠ none →
          ∃ c ∈ r.others, c.name = other ∧ c.hasValue = true := by
        intro other same holds
        rw [member other same] at holds
        obtain ⟨v, held⟩ := Option.ne_none_iff_exists'.mp holds
        obtain ⟨c, hc, name_eq, value⟩ := wfr.member?_eq_some.mp held
        have has : c.hasValue = true := by simp [Cell.hasValue, value]
        rcases List.mem_cons.mp hc with rfl | hc
        · exact absurd has first
        · exact ⟨c, hc, name_eq, has⟩
      refine .inr ?_
      intro other other' same same' holds holds'
      obtain ⟨c, hc, rfl, has⟩ := later other same holds
      obtain ⟨d, hd, rfl, has'⟩ := later other' same' holds'
      rw [eq_of_countP_le_one one hc hd has has']

/-! ### What is done to a variable -/

/-- Whether the action, in ignore-case mode, goes to one of the spellings. -/
def Action.Picks : Action V → Prop
  | .hasValue | .deleteValue => False
  | .value? | .getValue | .setValue _ => True

namespace Flat.Acts

variable {m m' m'' : Flat V} {pick pick' : String → Option String} {name : String}
  {mode : CaseMode} {a : Action V} {answer answer' : Answer V}

/-- The choice of the spelling decides about everything else. -/
lemma unique (acts : Flat.Acts pick m name mode a answer m')
    (acts' : Flat.Acts pick' m name mode a answer' m'')
    (same : a.Picks → mode = .ignoreCase → pick (lowercase name) = pick' (lowercase name)) :
    answer = answer' ∧ m' = m'' := by
  cases acts with
  -- In exact mode there is nothing to choose.
  | hasExact | valueExact | getExact | setExact | deleteExact =>
    cases acts'
    exact ⟨rfl, rfl⟩
  | hasIgnoreCase holds =>
    cases acts' with
    | hasIgnoreCase holds' => exact ⟨by rw [Bool.eq_iff_iff.mpr (holds.trans holds'.symm)], rfl⟩
  | valueIgnoreCase =>
    cases acts'
    rw [same trivial rfl]
    exact ⟨rfl, rfl⟩
  | getIgnoreCase known =>
    cases acts' with
    | getIgnoreCase known' =>
      cases known.symm.trans known'
      rw [same trivial rfl]
      exact ⟨rfl, rfl⟩
  | setIgnoreCase known =>
    cases acts' with
    | setIgnoreCase known' =>
      cases known.symm.trans known'
      rw [same trivial rfl]
      exact ⟨rfl, rfl⟩
  | deleteIgnoreCase holds =>
    cases acts' with
    | deleteIgnoreCase holds' => exact ⟨by rw [Bool.eq_iff_iff.mpr (holds.trans holds'.symm)], rfl⟩

/-- A read, and a deletion that finds no value, leave the model alone. -/
lemma eq_self (acts : Flat.Acts pick m name mode a answer m') (read : ∀ v, a ≠ .setValue v)
    (gone : a = .deleteValue → answer = .truth false) : m' = m := by
  cases acts with
  | hasExact | valueExact | getExact | hasIgnoreCase | valueIgnoreCase | getIgnoreCase => rfl
  | setExact v | setIgnoreCase _ v => exact absurd rfl (read v)
  | deleteExact =>
    have unset : m.members name = none := by simpa using gone rfl
    rw [write, ← unset, Function.update_eq_self]
  | deleteIgnoreCase holds =>
    have none : ¬ m.Holds (lowercase name) := by
      rw [← holds]
      simpa using gone rfl
    ext1
    · rfl
    · ext1 other
      simp only [clear]
      split
      · by_contra held
        exact none ⟨other, ‹_›, fun unset => held unset.symm⟩
      · rfl

end Flat.Acts

lemma Flat.touch_of_known {m : Flat V} {name : String} (known : (m.first (lowercase name)).isSome) :
    m.touch name = m := by
  obtain ⟨first, known⟩ := Option.isSome_iff_exists.mp known
  rw [touch, known, Option.getD_some, ← known, Function.update_eq_self]

/-- Lists with the same items, in increasing order, are equal. -/
lemma eq_of_increasing {α : Type} {key : α → List UInt8} {as bs : List α}
    (increasing : as.Pairwise fun a b => key a < key b)
    (increasing' : bs.Pairwise fun a b => key a < key b) (mem : ∀ a, a ∈ as ↔ a ∈ bs) :
    as = bs := by
  have : Std.Asymm fun a b : α => key a < key b := ⟨fun _ _ => List.lt_asymm⟩
  exact increasing.eq_of_mem_iff increasing' mem

section Agreement

variable {s t : Storage V} (wf : s.WellFormed) (wf' : t.WellFormed) (same : s.flat = t.flat)

include same in
lemma Storage.hasVariable_eq_of_flat_eq (name : String) :
    s.hasVariable name = t.hasVariable name := by
  rw [Storage.hasVariable_eq, Storage.hasVariable_eq, same]

include wf wf' same

/-- Storages that mean the same act alike, unless there is a spelling to be chosen. -/
lemma Storage.act_eq_of_flat_eq {name : String} {mode : CaseMode} {a : Action V}
    (clear : a.Picks → s.Clear name mode) :
    (s.act name mode a).1 = (t.act name mode a).1 ∧
      (s.act name mode a).2.flat = (t.act name mode a).2.flat := by
  have acts := wf.acts_act name mode a
  have acts' := wf'.acts_act name mode a
  rw [← same] at acts'
  apply acts.unique acts'
  rintro picks rfl
  exact (wf.settled (clear picks)).pick_eq wf.chooses_pick (same ▸ wf'.chooses_pick)

/-! ### Listings -/

lemma Storage.size_eq_of_flat_eq : s.size = t.size := by
  have keys : (s.records.map Prod.fst).Perm (t.records.map Prod.fst) := by
    rw [List.perm_ext_iff_of_nodup wf.keys_nodup wf'.keys_nodup]
    intro key
    rw [wf.mem_keys, wf'.mem_keys, same]
  have length := keys.length_eq
  rwa [List.length_map, List.length_map] at length

lemma Hosted.memberNames_eq_of_flat_eq : Hosted.memberNames s = Hosted.memberNames t := by
  apply eq_of_increasing wf.pairwise_memberNames wf'.pairwise_memberNames
  intro name
  rw [Hosted.memberNames, Hosted.memberNames, List.mem_mergeSort, List.mem_mergeSort,
    wf.mem_memberNames, wf'.mem_memberNames, same]

omit same in
/-- Which keys have been looked up does not matter for the items. -/
lemma Hosted.items_eq_of_members_eq (members : s.flat.members = t.flat.members) :
    Hosted.items s = Hosted.items t := by
  apply eq_of_increasing wf.pairwise_items wf'.pairwise_items
  rintro ⟨name, v⟩
  rw [Hosted.items, Hosted.items, sortByName, sortByName, List.mem_mergeSort, List.mem_mergeSort,
    wf.mem_items, wf'.mem_items, members]

lemma Hosted.items_eq_of_flat_eq : Hosted.items s = Hosted.items t :=
  items_eq_of_members_eq wf wf' (congrArg Flat.members same)

end Agreement

/-! ### Declarations -/

/-- The handles lead to the cells of the names, one by one, and the names have been looked up. -/
lemma Storage.WellFormed.getExactVariables {s : Storage V} (wf : s.WellFormed)
    (names : List String) :
    List.Forall₂ (fun h name => h.LeadsTo (s.getExactVariables names).2 name .exact)
      (s.getExactVariables names).1 names ∧
    (s.getExactVariables names).2.flat = names.foldl Flat.touch s.flat := by
  induction names generalizing s with
  | nil => exact ⟨.nil, rfl⟩
  | cons name names ih =>
    have wf' := wf.getVariable name .exact
    obtain ⟨leads, flat_eq⟩ := ih wf'
    obtain ⟨-, grows⟩ := (s.getVariable name .exact).2.evolves_getExactVariables names wf'
    refine ⟨.cons ((wf.leadsTo_getVariable name .exact).mono grows) leads, ?_⟩
    rw [List.foldl_cons, ← wf.flat_getVariable name .exact]
    exact flat_eq

end ScopedExpr
