import ScopedExpr.Proofs.Scope.Agreement
import ScopedExpr.Proofs.Scope.Locality

/-!
# Unrelated names

Requests on names of different keys may change places. Which record was made first shows in its
number and in the order of listings, and in nothing else. This stays so whatever is asked later.
-/

namespace ScopedExpr

variable {V : Type}

/-! ### Answers that are alike -/

/--
Whether two answers are the same up to the order of listings and up to what has been made since
`base`: handles have one name and lead to the variable of one name, each in its storage, and they
are the old one if that variable was there before.
-/
def Answer.Alike (base s t : Storage V) : Answer V → Answer V → Prop
  | .handles hs, .handles hs' => List.Forall₂
      (fun h h' => h.name = h'.name ∧ ∃ name mode, h.LeadsTo s name mode ∧ h'.LeadsTo t name mode ∧
        ∀ old : Handle, old.LeadsTo base name mode → h = old ∧ h' = old) hs hs'
  | .names listed, .names listed' => listed.Perm listed'
  | .items listed, .items listed' => listed.Perm listed'
  | answer, answer' => answer = answer'

section Requests

variable {base s s' t t' : Storage V} {answer answer' : Answer V} {name : String} {q : Request V}

lemma Answer.Alike.mono (alike : Answer.Alike base s t answer answer') (grows : s.Grows s')
    (grows' : t.Grows t') : Answer.Alike base s' t' answer answer' := by
  unfold Answer.Alike at alike ⊢
  split at alike
  · apply alike.imp
    rintro h h' ⟨name_eq, name, mode, leads, leads', old⟩
    exact ⟨name_eq, name, mode, leads.mono grows, leads'.mono grows', old⟩
  · exact alike
  · exact alike
  · exact alike

lemma Storage.hasVariable_eq_isSome (s : Storage V) (name : String) :
    s.hasVariable name = (s.contents? (lowercase name)).isSome := by
  simp [hasVariable, contents?, recordAt?]

/-- The first casing under a key, which names the record, is the same if the contents are. -/
lemma Storage.name_getVariable_eq
    (same : s.contents? (lowercase name) = t.contents? (lowercase name)) (mode : CaseMode) :
    (s.getVariable name mode).1.name = (t.getVariable name mode).1.name := by
  cases mode with
  | exact => rfl
  | ignoreCase => exact congrArg (fun c => c.1.name) (contents_recordOf_congr same)

/-- Where the contents under the key of the name are the same, a request on it is answered alike. -/
lemma Request.On.alike (on : q.On name) (wf : s.WellFormed) (wf' : t.WellFormed)
    (grows : base.Grows s) (grows' : base.Grows t)
    (same : s.contents? (lowercase name) = t.contents? (lowercase name)) :
    Answer.Alike base (s.answer q).2 (t.answer q).2 (s.answer q).1 (t.answer q).1 := by
  cases on with
  | getVariable mode =>
    refine .cons ⟨Storage.name_getVariable_eq same mode, name, mode,
      wf.leadsTo_getVariable name mode, wf'.leadsTo_getVariable name mode, ?_⟩ .nil
    intro old leads
    rw [wf.getVariable_of_leadsTo (leads.mono grows),
      wf'.getVariable_of_leadsTo (leads.mono grows')]
    exact ⟨rfl, rfl⟩
  | act mode a =>
    have answer_eq := (wf.act_eq_of_contents wf' name mode a same).1
    cases a <;> exact answer_eq
  | hasVariable =>
    refine congrArg Answer.truth ?_
    rw [s.hasVariable_eq_isSome, t.hasVariable_eq_isSome, same]

end Requests

/-! ### Storages of the same contents -/

/-- Whether both storages are well formed, grew out of `base` and have the same contents. -/
structure Storage.Twins (base s t : Storage V) : Prop where
  wellFormed : s.WellFormed
  wellFormed' : t.WellFormed
  grows : base.Grows s
  grows' : base.Grows t
  contents_eq : s.contents? = t.contents?

namespace Storage.Twins

variable {base s t : Storage V}

lemma flat_eq (twins : Twins base s t) : s.flat = t.flat := by
  have first (s : Storage V) (key : String) :
      s.flat.first key = (s.contents? key).map fun c => c.1.name := by
    simp [flat, contents?, Record.contents, Function.comp_def]
  have members (s : Storage V) (name : String) : s.flat.members name =
      (s.contents? (lowercase name)).bind fun c =>
        ((c.1 :: c.2.map Prod.snd).find? (·.name == name)).bind Cell.value? := by
    simp only [flat, contents?, Option.bind_map]
    rfl
  ext1
  · ext1 key
    rw [first, first, twins.contents_eq]
  · ext1 name
    rw [members, members, twins.contents_eq]

lemma isEmpty_eq (twins : Twins base s t) : s.isEmpty = t.isEmpty := by
  rw [Bool.eq_iff_iff, twins.wellFormed.isEmpty_iff, twins.wellFormed'.isEmpty_iff, twins.flat_eq]

lemma memberNames_perm (twins : Twins base s t) : s.memberNames.Perm t.memberNames := by
  rw [List.perm_ext_iff_of_nodup twins.wellFormed.memberNames_nodup
    twins.wellFormed'.memberNames_nodup]
  intro name
  rw [twins.wellFormed.mem_memberNames, twins.wellFormed'.mem_memberNames, twins.flat_eq]

lemma items_perm (twins : Twins base s t) : s.items.Perm t.items := by
  have nodup {s : Storage V} (wf : s.WellFormed) : s.items.Nodup :=
    .of_map Prod.fst (s.items_map_fst ▸ wf.memberNames_nodup)
  rw [List.perm_ext_iff_of_nodup (nodup twins.wellFormed) (nodup twins.wellFormed')]
  rintro ⟨name, v⟩
  rw [twins.wellFormed.mem_items, twins.wellFormed'.mem_items, twins.flat_eq]

/-- Any request is answered alike. -/
lemma answer_alike (twins : Twins base s t) (q : Request V) :
    Answer.Alike base (s.answer q).2 (t.answer q).2 (s.answer q).1 (t.answer q).1 := by
  have on {name : String} (on : q.On name) :=
    on.alike twins.wellFormed twins.wellFormed' twins.grows twins.grows'
      (congrFun twins.contents_eq _)
  cases q with
  | getVariable name mode => exact on (.getVariable mode)
  | act name mode a => exact on (.act mode a)
  | hasVariable name => exact on .hasVariable
  | size =>
    exact congrArg Answer.count
      (size_eq_of_flat_eq twins.wellFormed twins.wellFormed' twins.flat_eq)
  | isEmpty => exact congrArg Answer.truth twins.isEmpty_eq
  | memberNames => exact twins.memberNames_perm
  | items => exact twins.items_perm

/-- A request leaves the same contents behind in twins. -/
lemma contents_answer (twins : Twins base s t) (q : Request V) :
    (s.answer q).2.contents? = (t.answer q).2.contents? := by
  have on {name : String} (on : q.On name) :
      (s.answer q).2.contents? = (t.answer q).2.contents? := by
    ext1 key
    by_cases own : key = lowercase name
    · subst own
      exact on.contents?_eq twins.wellFormed twins.wellFormed' (congrFun twins.contents_eq _)
    · rw [on.contents?_of_ne twins.wellFormed own, on.contents?_of_ne twins.wellFormed' own,
        twins.contents_eq]
  cases q with
  | getVariable name mode => exact on (.getVariable mode)
  | act name mode a => exact on (.act mode a)
  | hasVariable name => exact on .hasVariable
  | size | isEmpty | memberNames | items => exact twins.contents_eq

/-- Any request leaves twins. -/
lemma answer (twins : Twins base s t) (q : Request V) :
    Twins base (s.answer q).2 (t.answer q).2 := by
  obtain ⟨wf, grows⟩ := s.evolves_answer q twins.wellFormed
  obtain ⟨wf', grows'⟩ := t.evolves_answer q twins.wellFormed'
  exact ⟨wf, wf', twins.grows.trans grows, twins.grows'.trans grows', twins.contents_answer q⟩

end Storage.Twins

/-! ### Runs with given orders of scanning -/

/-- An order of scanning, which depends on the cells only. -/
structure Scan (V : Type) where
  order : List (String × Cell V) → List (String × Cell V)
  perm : ∀ cells : List (String × Cell V), cells.Perm (order cells)

def Record.rescan (r : Record V) (scan : Scan V) : Record V :=
  { r with overflow := scan.order r.overflow }

def Storage.rescan (s : Storage V) (scan : Scan V) : Storage V where
  records := s.records.map fun kr => (kr.1, kr.2.rescan scan)

/-- Answer requests in a row; before each of them the order of scanning becomes the given one. -/
def Storage.serve (s : Storage V) : List (Scan V × Request V) → List (Answer V) × Storage V
  | [] => ([], s)
  | (scan, q) :: later =>
    let (answer, s) := (s.rescan scan).answer q
    let (answers, s) := s.serve later
    (answer :: answers, s)

namespace Storage

lemma reordered_rescan (s : Storage V) (scan : Scan V) : s.Reordered (s.rescan scan) :=
  ⟨fun r => r.rescan scan, fun r => ⟨rfl, rfl, scan.perm r.overflow⟩, .refl _⟩

/-- To scan a record in another order is to list its cells in this order. -/
lemma contents?_rescan (s : Storage V) (scan : Scan V) (key : String) :
    (s.rescan scan).contents? key = (s.contents? key).map fun c => (c.1, scan.order c.2) := by
  simp only [contents?, recordAt?, rescan, lookup_eq_find?, List.find?_map, Option.map_map]
  rfl

lemma evolves_serve (s : Storage V) (later : List (Scan V × Request V)) :
    s.Evolves (s.serve later).2 := by
  induction later generalizing s with
  | nil => exact .refl s
  | cons step later ih =>
    obtain ⟨scan, q⟩ := step
    exact ((s.reordered_rescan scan).evolves.trans (evolves_answer _ q)).trans (ih _)

variable {base s t : Storage V}

/-- Twins stay twins if both are scanned in the same new order. -/
lemma Twins.rescan (twins : Twins base s t) (scan : Scan V) :
    Twins base (s.rescan scan) (t.rescan scan) := by
  obtain ⟨wf, grows⟩ := (s.reordered_rescan scan).evolves twins.wellFormed
  obtain ⟨wf', grows'⟩ := (t.reordered_rescan scan).evolves twins.wellFormed'
  refine ⟨wf, wf', twins.grows.trans grows, twins.grows'.trans grows', ?_⟩
  ext1 key
  rw [s.contents?_rescan, t.contents?_rescan, twins.contents_eq]

/-- Twins answer all that is asked later alike. -/
lemma Twins.serve_alike (twins : Twins base s t) (later : List (Scan V × Request V)) :
    List.Forall₂ (Answer.Alike base (s.serve later).2 (t.serve later).2) (s.serve later).1
      (t.serve later).1 := by
  induction later generalizing s t with
  | nil => exact .nil
  | cons step later ih =>
    obtain ⟨scan, q⟩ := step
    have answered := (twins.rescan scan).answer q
    obtain ⟨-, grows⟩ := evolves_serve _ later answered.wellFormed
    obtain ⟨-, grows'⟩ := evolves_serve _ later answered.wellFormed'
    exact .cons (((twins.rescan scan).answer_alike q).mono grows grows') (ih answered)

end Storage

/--
Two requests on names of different keys may be made in either order. Each of them is answered alike,
and so is whatever is asked later, in whatever orders the records are scanned then.
-/
theorem Storage.Reachable.commute_of_unrelated {s : Storage V} (reachable : s.Reachable)
    {n m : String} (unrelated : lowercase n ≠ lowercase m) {a b : Request V} (ha : a.On n)
    (hb : b.On m) :
    let ab := (s.answer a).2.answer b
    let ba := (s.answer b).2.answer a
    Answer.Alike s ab.2 ba.2 (s.answer a).1 ba.1 ∧ Answer.Alike s ab.2 ba.2 ab.1 (s.answer b).1 ∧
      ∀ later, List.Forall₂ (Answer.Alike s (ab.2.serve later).2 (ba.2.serve later).2)
        (ab.2.serve later).1 (ba.2.serve later).1 := by
  intro ab ba
  have wf := reachable.wellFormed
  obtain ⟨wfa, grows_a⟩ := s.evolves_answer a wf
  obtain ⟨wfb, grows_b⟩ := s.evolves_answer b wf
  obtain ⟨wf_ab, grows_ab⟩ := (s.answer a).2.evolves_answer b wfa
  obtain ⟨wf_ba, grows_ba⟩ := (s.answer b).2.evolves_answer a wfb
  -- Each request finds under its own key what it would have found without the other one.
  have found_a := hb.contents?_of_ne wf unrelated
  have found_b := ha.contents?_of_ne wf unrelated.symm
  have same : ab.2.contents? = ba.2.contents? := by
    ext1 key
    by_cases own_a : key = lowercase n
    · subst own_a
      exact (hb.contents?_of_ne wfa unrelated).trans (ha.contents?_eq wf wfb found_a.symm)
    · by_cases own_b : key = lowercase m
      · subst own_b
        exact (hb.contents?_eq wfa wf found_b).trans (ha.contents?_of_ne wfb own_a).symm
      · exact ((hb.contents?_of_ne wfa own_b).trans (ha.contents?_of_ne wf own_a)).trans
          ((ha.contents?_of_ne wfb own_a).trans (hb.contents?_of_ne wf own_b)).symm
  have twins : Twins s ab.2 ba.2 :=
    ⟨wf_ab, wf_ba, grows_a.trans grows_ab, grows_b.trans grows_ba, same⟩
  refine ⟨?_, ?_, twins.serve_alike⟩
  · exact (ha.alike wf wfb (.refl s) grows_b found_a.symm).mono grows_ab (.refl _)
  · exact (hb.alike wfa wf grows_a (.refl s) found_b).mono (.refl _) grows_ba

/-- In the two orders the records get different numbers, and the members are listed differently. -/
theorem Storage.Reachable.commute_of_unrelated_numbers :
    let a : Request Nat := .act "Key" .exact (.setValue 1)
    let b : Request Nat := .act "other" .ignoreCase (.setValue 2)
    let scan : Scan Nat := ⟨List.reverse, fun cells => cells.reverse_perm.symm⟩
    let later : List (Scan Nat × Request Nat) :=
      [(scan, .getVariable "KEY" .ignoreCase), (scan, .memberNames)]
    let ab := ((({} : Storage Nat).answer a).2.answer b).2
    let ba := ((({} : Storage Nat).answer b).2.answer a).2
    (ab.serve later).1 = [.handles [.ignoreCase 0 "Key"], .names ["Key", "other"]] ∧
    (ba.serve later).1 = [.handles [.ignoreCase 1 "Key"], .names ["other", "Key"]] ∧
    List.Forall₂ (Answer.Alike {} (ab.serve later).2 (ba.serve later).2) (ab.serve later).1
      (ba.serve later).1 := by
  intro a b scan later ab ba
  have unrelated : lowercase "Key" ≠ lowercase "other" := by decide +kernel
  obtain ⟨-, -, alike⟩ := commute_of_unrelated (V := Nat) .refl unrelated
    (.act .exact (.setValue 1)) (.act .ignoreCase (.setValue 2))
  exact ⟨by decide +kernel, by decide +kernel, alike later⟩

end ScopedExpr
