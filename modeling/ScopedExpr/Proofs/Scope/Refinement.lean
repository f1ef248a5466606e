import ScopedExpr.Proofs.Scope.Listing

/-!
# Storages refine the flat model

Every answer of a storage is one that the flat model gives. The order of scanning may change at any
time; it shows only in the spelling that ignore-case reads and writes go to when the first spelling
of a key has no value, and in the order of listings.
-/

namespace ScopedExpr

variable {V : Type}

/-! ### Steps of the flat model -/

/-- What the flat model answers to a request, and how it changes. -/
inductive Flat.Step (pick : String → Option String) (m : Flat V) :
    Request V → Answer V → Flat V → Prop where
  | getExact {name : String} {h : Handle} (exact : h.isIgnoreCase = false)
      (spelled : h.name = name) :
      Step pick m (.getVariable name .exact) (.handles [h]) (m.touch name)
  | getIgnoreCase {name : String} {h : Handle} (ignoreCase : h.isIgnoreCase = true)
      (spelled : (m.touch name).first (lowercase name) = some h.name) :
      Step pick m (.getVariable name .ignoreCase) (.handles [h]) (m.touch name)
  | act {name : String} {mode : CaseMode} {a : Action V} {answer : Answer V} {m' : Flat V}
      (acts : Flat.Acts pick (m.touch name) name mode a answer m') :
      Step pick m (.act name mode a) answer m'
  | hasVariable (name : String) :
      Step pick m (.hasVariable name) (.truth (m.first (lowercase name)).isSome) m
  | size {keys : List String} (nodup : keys.Nodup) (mem : ∀ key, key ∈ keys ↔ m.first key ≠ none) :
      Step pick m .size (.count keys.length) m
  | isEmpty {b : Bool} (none : b = true ↔ ∀ key, m.first key = none) :
      Step pick m .isEmpty (.truth b) m
  | memberNames {names : List String} (nodup : names.Nodup)
      (mem : ∀ name, name ∈ names ↔ m.members name ≠ none) :
      Step pick m .memberNames (.names names) m
  | items {items : List (String × V)} (nodup : (items.map Prod.fst).Nodup)
      (mem : ∀ name v, (name, v) ∈ items ↔ m.members name = some v) :
      Step pick m .items (.items items) m

/-- A name is known exactly if its key has a first spelling. -/
lemma Storage.hasVariable_eq (s : Storage V) (name : String) :
    s.hasVariable name = (s.flat.first (lowercase name)).isSome := by
  simp [hasVariable, flat, recordAt?]

namespace Storage.WellFormed

variable {s : Storage V}

/-- There are records under just those keys that have a first spelling. -/
lemma mem_keys (wf : s.WellFormed) {key : String} :
    key ∈ s.records.map Prod.fst ↔ s.flat.first key ≠ none := by
  rw [List.mem_map, Option.ne_none_iff_exists']
  constructor
  · rintro ⟨⟨key, r⟩, mem, rfl⟩
    exact ⟨_, Storage.flat_first (wf.recordAt?_eq.mpr mem)⟩
  · rintro ⟨first, known⟩
    obtain ⟨r, found, -⟩ := Option.map_eq_some_iff.mp known
    exact ⟨(key, r), wf.recordAt?_eq.mp found, rfl⟩

lemma isEmpty_iff (wf : s.WellFormed) : s.isEmpty = true ↔ ∀ key, s.flat.first key = none := by
  rw [Storage.isEmpty, List.isEmpty_iff]
  constructor
  · intro empty key
    simp [Storage.flat, Storage.recordAt?, empty]
  · intro unknown
    rw [List.eq_nil_iff_forall_not_mem]
    intro kr mem
    exact wf.mem_keys.mp (List.mem_map_of_mem mem) (unknown kr.1)

/-- What is done with the variable of a name is done in the flat model after the look-up. -/
lemma acts_act (wf : s.WellFormed) (name : String) (mode : CaseMode) (a : Action V) :
    Flat.Acts s.pick (s.flat.touch name) name mode a (s.act name mode a).1
      (s.act name mode a).2.flat := by
  have acts := (wf.getVariable name mode).acts (wf.leadsTo_getVariable name mode) a
  rw [wf.pick_getVariable, wf.flat_getVariable] at acts
  rwa [Storage.act_eq]

/--
One request: with one choice of spellings for all requests, the flat model makes the same step.
-/
lemma step (wf : s.WellFormed) (q : Request V) :
    Flat.Step s.pick s.flat q (s.answer q).1 (s.answer q).2.flat := by
  cases q with
  | getVariable name mode =>
    have leads := wf.leadsTo_getVariable name mode
    rw [Storage.answer, wf.flat_getVariable]
    cases mode with
    | exact => exact .getExact rfl rfl
    | ignoreCase =>
      refine .getIgnoreCase rfl ?_
      rw [← wf.flat_getVariable name .ignoreCase]
      exact Storage.flat_first (s.recordAt?_recordOf_self name)
  | act name mode a => exact .act (wf.acts_act name mode a)
  | hasVariable name =>
    rw [Storage.answer, hasVariable_eq]
    exact .hasVariable name
  | size =>
    rw [Storage.answer, Storage.size, ← List.length_map (f := Prod.fst)]
    exact .size wf.keys_nodup fun _ => wf.mem_keys
  | isEmpty => exact .isEmpty wf.isEmpty_iff
  | memberNames => exact .memberNames wf.memberNames_nodup fun _ => wf.mem_memberNames
  | items =>
    refine .items ?_ fun _ _ => wf.mem_items
    rw [s.items_map_fst]
    exact wf.memberNames_nodup

end Storage.WellFormed

/-! ### Runs -/

/-- Requests and their answers on the way of a storage, where the order of scanning may change. -/
inductive Storage.Run : Storage V → List (Request V × Answer V) → Storage V → Prop where
  | nil (s : Storage V) : Run s [] s
  | reorder {s t u : Storage V} {trace : List (Request V × Answer V)} (reordered : s.Reordered t)
      (run : Run t trace u) : Run s trace u
  | cons {s t : Storage V} {trace : List (Request V × Answer V)} (q : Request V)
      (run : Run (s.answer q).2 trace t) : Run s ((q, (s.answer q).1) :: trace) t

lemma Storage.Run.of_answer_eq {s s' t : Storage V} {q : Request V} {answer : Answer V}
    {trace : List (Request V × Answer V)} (answered : s.answer q = (answer, s'))
    (run : Run s' trace t) : Run s ((q, answer) :: trace) t := by
  have run' : Run (s.answer q).2 trace t := by rwa [answered]
  have answer_eq : (s.answer q).1 = answer := by rw [answered]
  rw [← answer_eq]
  exact .cons q run'

/-- Requests and their answers on the way of a flat model, with a new choice at every step. -/
inductive Flat.Run : Flat V → List (Request V × Answer V) → Flat V → Prop where
  | nil (m : Flat V) : Run m [] m
  | cons {m m' m'' : Flat V} {q : Request V} {answer : Answer V}
      {trace : List (Request V × Answer V)} {pick : String → Option String}
      (chooses : m.Chooses pick) (step : Flat.Step pick m q answer m') (run : Run m' trace m'') :
      Run m ((q, answer) :: trace) m''

/-- Every run of a storage is a run of the flat model on what the storage means. -/
lemma Storage.Run.flat {s t : Storage V} {trace : List (Request V × Answer V)}
    (run : Storage.Run s trace t) (wf : s.WellFormed) :
    t.WellFormed ∧ Flat.Run s.flat trace t.flat := by
  induction run with
  | nil s => exact ⟨wf, .nil _⟩
  | reorder reordered _ ih =>
    -- The flat model does not move: only the next choice of spellings may be another one.
    rw [← reordered.flat_eq wf]
    exact ih (reordered.wellFormed wf)
  | @cons s t trace q _ ih =>
    obtain ⟨wft, run'⟩ := ih (s.evolves_answer q wf).1
    exact ⟨wft, .cons wf.chooses_pick (wf.step q) run'⟩

/--
Every run of a storage from the empty one is a run of the flat model, with the same answers. In the
storage that is reached, one choice of a spelling for each key serves all requests that may come
next, so that an ignore-case write goes where an ignore-case read would.
-/
theorem Storage.Run.refines_flat {s : Storage V} {trace : List (Request V × Answer V)}
    (run : Storage.Run {} trace s) :
    Flat.Run {} trace s.flat ∧
    ∃ pick, s.flat.Chooses pick ∧
      ∀ q, Flat.Step pick s.flat q (s.answer q).1 (s.answer q).2.flat := by
  obtain ⟨wf, run'⟩ := run.flat Storage.wellFormed_empty
  exact ⟨run', s.pick, wf.chooses_pick, wf.step⟩

/--
A read fixes the first spelling, and two other spellings get a value. They are scanned in the other
order before the last read.
-/
theorem Storage.Run.refines_flat_rescanned :
    let trace : List (Request Nat × Answer Nat) :=
      [(.act "KEY" .ignoreCase .hasValue, .truth false),
       (.act "Key" .exact (.setValue 1), .done),
       (.act "key" .exact (.setValue 2), .done),
       (.act "kEY" .ignoreCase .value?, .value? (some 2))]
    ∃ s, Storage.Run {} trace s ∧ Flat.Run {} trace s.flat := by
  intro trace
  let holding (others : List (Cell Nat)) : Storage Nat :=
    ⟨[("key", ⟨0, ⟨0, "KEY", none⟩, others.map fun c => (c.name, c)⟩)]⟩
  have asked : ({} : Storage Nat).answer (.act "KEY" .ignoreCase .hasValue) =
      (.truth false, holding []) := by
    decide +kernel
  have once : (holding []).answer (.act "Key" .exact (.setValue 1)) =
      (.done, holding [⟨1, "Key", some 1⟩]) := by
    decide +kernel
  have twice : (holding [⟨1, "Key", some 1⟩]).answer (.act "key" .exact (.setValue 2)) =
      (.done, holding [⟨1, "Key", some 1⟩, ⟨2, "key", some 2⟩]) := by
    decide +kernel
  have rescanned : (holding [⟨1, "Key", some 1⟩, ⟨2, "key", some 2⟩]).Reordered
      (holding [⟨2, "key", some 2⟩, ⟨1, "Key", some 1⟩]) :=
    ⟨fun r => { r with overflow := r.overflow.reverse },
      fun r => ⟨rfl, rfl, r.overflow.reverse_perm.symm⟩, .refl _⟩
  have read : (holding [⟨2, "key", some 2⟩, ⟨1, "Key", some 1⟩]).answer
      (.act "kEY" .ignoreCase .value?) =
        (.value? (some 2), holding [⟨2, "key", some 2⟩, ⟨1, "Key", some 1⟩]) := by
    decide +kernel
  have run : Storage.Run {} trace (holding [⟨2, "key", some 2⟩, ⟨1, "Key", some 1⟩]) :=
    .of_answer_eq asked <| .of_answer_eq once <| .of_answer_eq twice <|
      .reorder rescanned <| .of_answer_eq read <| .nil _
  exact ⟨_, run, run.refines_flat.1⟩

end ScopedExpr
