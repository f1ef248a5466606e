import Mathlib.Data.String.Basic
import ScopedExpr.Proofs.Scope.Flat
import ScopedExpr.Proofs.Text.ByteOrder

/-!
# Listings

The cells of a well-formed storage have spellings of their own. A listing therefore names no member
twice, and it lists what reads in exact mode give.
-/

namespace ScopedExpr

variable {V : Type}

/-! ### Spellings -/

namespace Storage.WellFormed

variable {s : Storage V}

/-- No two cells of a storage have one spelling. -/
lemma cell_names_nodup (wf : s.WellFormed) : (s.cells.map Cell.name).Nodup := by
  rw [Storage.cells, List.map_flatMap, List.nodup_flatMap]
  constructor
  · intro kr mem
    exact (wf.record kr mem).names_nodup
  · have distinct : s.records.Pairwise fun kr kr' => kr.1 ≠ kr'.1 :=
      List.pairwise_map.mp wf.keys_nodup
    refine distinct.imp_of_mem ?_
    intro kr kr' mem mem' other name hname hname'
    obtain ⟨c, hc, rfl⟩ := List.mem_map.mp hname
    obtain ⟨d, hd, same⟩ := List.mem_map.mp hname'
    have key := (wf.record kr mem).lowercase_name c hc
    have key' := (wf.record kr' mem').lowercase_name d hd
    rw [same] at key'
    exact other (key.symm.trans key')

/-- No name is listed twice. -/
lemma memberNames_nodup (wf : s.WellFormed) : s.memberNames.Nodup :=
  wf.cell_names_nodup.sublist (List.filter_sublist.map _)

/-- A pair is listed if and only if the value stands under the spelling. -/
lemma mem_items (wf : s.WellFormed) {name : String} {v : V} :
    (name, v) ∈ s.items ↔ s.flat.members name = some v := by
  rw [Storage.items, List.mem_flatMap]
  constructor
  · rintro ⟨kr, mem, listed⟩
    obtain ⟨c, hc, held⟩ := List.mem_filterMap.mp listed
    obtain ⟨v', hv, pair⟩ := Option.map_eq_some_iff.mp held
    cases pair
    have wfr := wf.record kr mem
    have found : s.recordAt? (lowercase c.name) = some kr.2 := by
      rw [wfr.lowercase_name c hc]
      exact wf.recordAt?_eq.mpr mem
    rw [Storage.flat_members found, wfr.member?_name hc, hv]
  · intro member
    obtain ⟨r, found, held⟩ := Option.bind_eq_some_iff.mp member
    obtain ⟨c, hc, rfl, hv⟩ := (wf.recordAt? found).member?_eq_some.mp held
    refine ⟨_, wf.recordAt?_eq.mp found, List.mem_filterMap.mpr ⟨c, hc, ?_⟩⟩
    simp [hv]

end Storage.WellFormed

/-- The two listings name the same members in the same order. -/
lemma Storage.items_map_fst (s : Storage V) : s.items.map Prod.fst = s.memberNames := by
  have of_casings : ∀ cs : List (Cell V),
      (cs.filterMap fun c => c.value?.map fun v => (c.name, v)).map Prod.fst =
        (cs.filter Cell.hasValue).map Cell.name := by
    intro cs
    induction cs with
    | nil => rfl
    | cons c cs ih =>
      cases hv : c.value? with
      | none => simpa [Cell.hasValue, hv] using ih
      | some v => simpa [Cell.hasValue, hv] using ih
  rw [Storage.items, Storage.memberNames, Storage.cells, List.map_flatMap, List.filter_flatMap,
    List.map_flatMap]
  congr 1
  ext1 kr
  exact of_casings kr.2.casings

/-- The listed names are those that have a value. -/
lemma Storage.WellFormed.mem_memberNames {s : Storage V} (wf : s.WellFormed) {name : String} :
    name ∈ s.memberNames ↔ s.flat.members name ≠ none := by
  rw [← s.items_map_fst, List.mem_map, Option.ne_none_iff_exists']
  constructor
  · rintro ⟨⟨name, v⟩, listed, rfl⟩
    exact ⟨v, wf.mem_items.mp listed⟩
  · rintro ⟨v, member⟩
    exact ⟨(name, v), wf.mem_items.mpr member, rfl⟩

/-! ### Sorted listings -/

/-- Items and names are sorted on their own, but into the same order. -/
lemma Hosted.items_map_fst (s : Storage V) :
    (Hosted.items s).map Prod.fst = Hosted.memberNames s := by
  rw [Hosted.items, Hosted.memberNames, sortByName, ← s.items_map_fst]
  exact List.map_mergeSort fun _ _ _ _ => rfl

/-- Sorted and without repetition is strictly increasing, byte by byte. -/
lemma Storage.WellFormed.pairwise_memberNames {s : Storage V} (wf : s.WellFormed) :
    (Hosted.memberNames s).Pairwise fun a b => bytes a < bytes b := by
  have sorted : (Hosted.memberNames s).Pairwise fun a b => a ≤ b := by
    refine (List.pairwise_mergeSort ?_ ?_ s.memberNames).imp ?_
    · intro a b c hab hbc
      simp only [decide_eq_true_eq] at hab hbc ⊢
      exact le_trans hab hbc
    · intro a b
      simp only [Bool.or_eq_true, decide_eq_true_eq]
      exact le_total a b
    · intro a b hab
      simpa only [decide_eq_true_eq] using hab
  have nodup : (Hosted.memberNames s).Nodup := List.nodup_mergeSort.mpr wf.memberNames_nodup
  refine (sorted.and nodup).imp ?_
  rintro a b ⟨le, ne⟩
  exact bytes_lt_of_lt (lt_of_le_of_ne le ne)

/-- Items are listed in the order of the bytes of their names, no name twice. -/
lemma Storage.WellFormed.pairwise_items {s : Storage V} (wf : s.WellFormed) :
    (Hosted.items s).Pairwise fun a b => bytes a.1 < bytes b.1 := by
  have names := wf.pairwise_memberNames
  rwa [← Hosted.items_map_fst, List.pairwise_map] at names

/-- To read a name in exact mode gives what stands under its spelling. -/
lemma Storage.WellFormed.getValue_exact {s : Storage V} (wf : s.WellFormed) (name : String) :
    (s.getValue name .exact).1 = valueOr name (s.flat.members name) := by
  have acts : Flat.Acts (s.getVariable name .exact).2.pick (s.getVariable name .exact).2.flat name
      .exact .getValue (.result (s.getValue name .exact).1) (s.getVariable name .exact).2.flat :=
    (wf.getVariable name .exact).acts (wf.leadsTo_getVariable name .exact) .getValue
  rw [wf.flat_getVariable] at acts
  generalize (s.getValue name .exact).1 = result at acts ⊢
  cases acts
  rfl

/--
In a reachable storage records are filed under distinct keys, and in a record all casings but the
first under distinct spellings. Every casing is one of the key of its record, is filed under its own
spelling and found there again, and shares it with no other cell. The names of the members are
therefore strictly increasing in the order of their bytes, the items have just these names, and they
are what reads in exact mode give.
-/
theorem Storage.Reachable.listing_exact {s : Storage V} (reachable : s.Reachable) :
    (s.records.map Prod.fst).Nodup ∧
    (∀ key r, (key, r) ∈ s.records →
      (∀ c ∈ r.casings, lowercase c.name = key) ∧
      (r.overflow.map Prod.fst).Nodup ∧
      ∀ name c, (name, c) ∈ r.overflow →
        c.name = name ∧ name ≠ r.first.name ∧ r.casing name = (c.slot, r)) ∧
    (s.cells.map Cell.name).Nodup ∧
    (Hosted.memberNames s).Pairwise (fun a b => bytes a < bytes b) ∧
    (Hosted.items s).map Prod.fst = Hosted.memberNames s ∧
    ∀ name v, (name, v) ∈ Hosted.items s ↔ (Hosted.getMemberStrict s name .exact).1 = .ok v := by
  have wf := reachable.wellFormed
  refine ⟨wf.keys_nodup, ?_, wf.cell_names_nodup, wf.pairwise_memberNames, Hosted.items_map_fst s,
    ?_⟩
  · intro key r mem
    have wfr := wf.record _ mem
    have nodup := wfr.names_nodup
    rw [Record.casings, List.map_cons, ← wfr.keys_eq, List.nodup_cons] at nodup
    refine ⟨wfr.lowercase_name, nodup.2, fun name c filed => ?_⟩
    obtain rfl := wfr.filed name c filed
    refine ⟨rfl, fun same => nodup.1 ?_, wfr.casing_of_mem (Record.mem_casings_of_filed filed)⟩
    rw [← same]
    exact List.mem_map_of_mem (f := Prod.fst) filed
  · intro name v
    rw [Hosted.items, sortByName, List.mem_mergeSort, wf.mem_items, Hosted.getMemberStrict,
      wf.getValue_exact]
    cases s.flat.members name with
    | none => simp [valueOr]
    | some w => simp [valueOr]

/-- The second spelling of a key is filed under itself, and is listed on its own. -/
theorem Storage.Reachable.listing_exact_respelled :
    let c : Cell Nat := ⟨1, "KEY", some 2⟩
    let r : Record Nat := ⟨0, ⟨0, "key", some 1⟩, [("KEY", c)]⟩
    ∃ s : Storage Nat, s.Reachable ∧ ("key", r) ∈ s.records ∧ r.casing "KEY" = (c.slot, r) ∧
      (Hosted.memberNames s).Pairwise (fun a b => bytes a < bytes b) ∧
      ("KEY", 2) ∈ Hosted.items s := by
  intro c r
  let s := ((({} : Storage Nat).perform (.storage (.act "key" .exact (.setValue 1)))).2.perform
    (.storage (.act "KEY" .exact (.setValue 2)))).2
  have reachable : s.Reachable := .perform (.perform .refl _) _
  have stored : ("key", r) ∈ s.records := by decide +kernel
  obtain ⟨-, filed, -, sorted, -, mem⟩ := Storage.Reachable.listing_exact reachable
  obtain ⟨-, -, found⟩ := filed "key" r stored
  exact ⟨s, reachable, stored, (found "KEY" c List.mem_cons_self).2.2, sorted,
    (mem "KEY" 2).mpr (by decide +kernel)⟩

end ScopedExpr
