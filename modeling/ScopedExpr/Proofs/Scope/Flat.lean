import ScopedExpr.Proofs.Scope.Run

/-!
# The flat model

What a storage means, with records and cells left out: the first spelling under which each key was
looked up, and a map from spellings to values. Look-ups add first spellings only; what is done
through a handle is done to the map.
-/

namespace ScopedExpr

variable {V : Type}

/-- First spellings by key, and values by spelling. -/
@[ext] structure Flat (V : Type) where
  first : String → Option String := fun _ => none
  members : String → Option V := fun _ => none

/-- Look a name up: its spelling is the first of its key if there is none yet. -/
def Flat.touch (m : Flat V) (name : String) : Flat V where
  first := Function.update m.first (lowercase name) (some ((m.first (lowercase name)).getD name))
  members := m.members

def Flat.write (m : Flat V) (name : String) (v? : Option V) : Flat V :=
  { m with members := Function.update m.members name v? }

def Flat.clear (m : Flat V) (key : String) : Flat V :=
  { m with members := fun name => if lowercase name = key then none else m.members name }

def Flat.Holds (m : Flat V) (key : String) : Prop :=
  ∃ name, lowercase name = key ∧ m.members name ≠ none

/-! ### The meaning of a storage -/

/-- What a storage means. -/
def Storage.flat (s : Storage V) : Flat V where
  first key := (s.recordAt? key).map (·.first.name)
  members name := (s.recordAt? (lowercase name)).bind (·.member? name)

lemma Storage.flat_members {s : Storage V} {name : String} {r : Record V}
    (found : s.recordAt? (lowercase name) = some r) : s.flat.members name = r.member? name := by
  simp only [Storage.flat, found, Option.bind_some]

lemma Storage.flat_first {s : Storage V} {key : String} {r : Record V}
    (found : s.recordAt? key = some r) : s.flat.first key = some r.first.name := by
  simp only [Storage.flat, found, Option.map_some]

/-- The order of scanning has no meaning. -/
lemma Storage.Reordered.flat_eq {s t : Storage V} (h : s.Reordered t) (wf : s.WellFormed) :
    t.flat = s.flat := by
  obtain ⟨scan, hscan, eq⟩ := h.recordAt?_eq wf
  ext1
  · ext1 key
    simp [Storage.flat, eq, Function.comp_def, (hscan _).first_eq]
  · ext1 name
    simp only [Storage.flat, eq]
    cases found : s.recordAt? (lowercase name) with
    | none => rfl
    | some r => exact congrFun ((hscan r).member?_eq (wf.recordAt? found)) name

namespace Storage.WellFormed

variable {s : Storage V} {key : String} {r : Record V}

/-- To find the record of a name, or to make it, is to touch the name. -/
lemma flat_recordOf (name : String) : (s.recordOf name).2.flat = s.flat.touch name := by
  ext1
  · ext1 key
    simp only [Storage.flat, Flat.touch, s.recordAt?_recordOf]
    by_cases same : key = lowercase name
    · subst same
      simp only [Function.update_self, Option.map_some]
      rcases s.recordOf_cases name with ⟨r, found, eq⟩ | ⟨absent, eq⟩
      · rw [eq, found]
        rfl
      · rw [eq, absent]
        rfl
    · simp only [Function.update_of_ne same]
  · ext1 other
    simp only [Storage.flat, Flat.touch, s.recordAt?_recordOf]
    by_cases same : lowercase other = lowercase name
    · rw [same, Function.update_self]
      rcases s.recordOf_cases name with ⟨r, found, eq⟩ | ⟨absent, eq⟩
      · rw [eq, found]
      · rw [eq, absent]
        exact Record.member?_new _ _ _
    · rw [Function.update_of_ne same]

/-- To change one record changes the values of the spellings of its key. -/
lemma flat_modify (wf : s.WellFormed) (found : s.recordAt? key = some r)
    {f : Record V → Record V} (hf : (f r).first.name = r.first.name) :
    (s.modify r.number f).flat =
      { s.flat with members := fun name =>
          if lowercase name = key then (f r).member? name else s.flat.members name } := by
  ext1
  · ext1 key'
    simp only [Storage.flat, wf.recordAt?_modify found]
    by_cases same : key' = key
    · subst same
      simp [found, hf]
    · rw [Function.update_of_ne same]
  · ext1 name
    simp only [Storage.flat, wf.recordAt?_modify found]
    by_cases same : lowercase name = key
    · simp [same]
    · rw [Function.update_of_ne same, if_neg same]

/-- A change of a record that does not show in its values does not show at all. -/
lemma flat_modify_eq (wf : s.WellFormed) (found : s.recordAt? key = some r)
    {f : Record V → Record V} (hf : (f r).first.name = r.first.name)
    (member : (f r).member? = r.member?) : (s.modify r.number f).flat = s.flat := by
  rw [wf.flat_modify found hf]
  ext1
  · rfl
  · ext1 name
    dsimp only
    split
    · subst key
      rw [member, Storage.flat_members found]
    · rfl

/-- A look-up touches the name, in either mode, and changes nothing else of the meaning. -/
lemma flat_getVariable (wf : s.WellFormed) (name : String) (mode : CaseMode) :
    (s.getVariable name mode).2.flat = s.flat.touch name := by
  cases mode with
  | ignoreCase => exact flat_recordOf name
  | exact =>
    have wf' := wf.recordOf name
    have found := s.recordAt?_recordOf_self name
    have wfr := wf'.recordAt? found
    rw [Storage.getVariable_exact, ← flat_recordOf]
    refine wf'.flat_modify_eq found (wfr.grows_casing name).first_eq ?_
    exact funext fun other => wfr.member?_casing name other

end Storage.WellFormed

/-! ### The casing that an ignore-case operation goes to -/

/--
Whether `pick` gives for each key a spelling that has a value, if any has: the first spelling if it
has one.
-/
structure Flat.Chooses (m : Flat V) (pick : String → Option String) : Prop where
  first_picked : ∀ key name, m.first key = some name → m.members name ≠ none → pick key = some name
  picked_holds : ∀ key name, pick key = some name → lowercase name = key ∧ m.members name ≠ none
  none_holds : ∀ key, pick key = none → ¬ m.Holds key

/-- The spelling of the cell that is found first when a record is scanned for a value. -/
def Storage.pick (s : Storage V) (key : String) : Option String :=
  (s.recordAt? key).bind fun r => r.holding?.map Cell.name

namespace Storage.WellFormed

variable {s : Storage V} {key : String} {r : Record V}

/-- A key holds a value exactly if one of the casings of its record does. -/
lemma holds_iff (wf : s.WellFormed) (found : s.recordAt? key = some r) :
    s.flat.Holds key ↔ ∃ c ∈ r.casings, c.value? ≠ none := by
  have wfr := wf.recordAt? found
  constructor
  · rintro ⟨name, rfl, holds⟩
    rw [Storage.flat_members found] at holds
    obtain ⟨v, hv⟩ := Option.ne_none_iff_exists'.mp holds
    obtain ⟨c, hc, -, hcv⟩ := wfr.member?_eq_some.mp hv
    exact ⟨c, hc, by simp [hcv]⟩
  · rintro ⟨c, hc, holds⟩
    have key_eq := wfr.lowercase_name c hc
    refine ⟨c.name, key_eq, ?_⟩
    rw [← key_eq] at found
    rwa [Storage.flat_members found, wfr.member?_name hc]

/-- The cell that is found first is a choice that the flat model allows. -/
lemma chooses_pick (wf : s.WellFormed) : s.flat.Chooses s.pick where
  first_picked key name first holds := by
    simp only [Storage.flat, Option.map_eq_some_iff] at first
    obtain ⟨r, found, rfl⟩ := first
    have wfr := wf.recordAt? found
    have key_eq := wfr.lowercase_name _ r.first_mem_casings
    have found' := found
    rw [← key_eq] at found'
    rw [Storage.flat_members found', wfr.member?_name r.first_mem_casings] at holds
    rw [Storage.pick, found, Option.bind_some, Record.holding?_of_first holds]
    rfl
  picked_holds key name picked := by
    rw [Storage.pick, Option.bind_eq_some_iff] at picked
    obtain ⟨r, found, picked⟩ := picked
    obtain ⟨c, holding, rfl⟩ := Option.map_eq_some_iff.mp picked
    obtain ⟨hc, holds⟩ := Record.mem_of_holding? holding
    have wfr := wf.recordAt? found
    have key_eq := wfr.lowercase_name c hc
    refine ⟨key_eq, ?_⟩
    rw [← key_eq] at found
    rwa [Storage.flat_members found, wfr.member?_name hc]
  none_holds key none := by
    cases found : s.recordAt? key with
    | none =>
      rintro ⟨name, rfl, holds⟩
      simp [Storage.flat, found] at holds
    | some r =>
      rw [Storage.pick, found, Option.bind_some, Option.map_eq_none_iff] at none
      rw [wf.holds_iff found]
      rintro ⟨c, hc, holds⟩
      exact holds (Record.value?_of_holding?_none none c hc)

/-- A look-up makes no cell that holds a value. -/
lemma pick_getVariable (wf : s.WellFormed) (name : String) (mode : CaseMode) :
    (s.getVariable name mode).2.pick = s.pick := by
  have recordOf : (s.recordOf name).2.pick = s.pick := by
    ext1 key
    simp only [Storage.pick, s.recordAt?_recordOf]
    by_cases same : key = lowercase name
    · subst same
      rw [Function.update_self]
      rcases s.recordOf_cases name with ⟨r, found, eq⟩ | ⟨absent, eq⟩
      · rw [eq, found]
      · rw [eq, absent]
        rfl
    · rw [Function.update_of_ne same]
  cases mode with
  | ignoreCase => exact recordOf
  | exact =>
    have wf' := wf.recordOf name
    have found := s.recordAt?_recordOf_self name
    rw [← recordOf, Storage.getVariable_exact]
    ext1 key
    simp only [Storage.pick, wf'.recordAt?_modify found]
    by_cases same : key = lowercase name
    · subst same
      rw [Function.update_self, found, Option.bind_some, Option.bind_some,
        (wf'.recordAt? found).holding?_casing]
    · rw [Function.update_of_ne same]

end Storage.WellFormed

/-! ### What is done to a variable -/

def valueOr (name : String) : Option V → Except NotFound V
  | some v => .ok v
  | none => .error ⟨name⟩

/--
What the flat model answers, and how it changes, when something is done with the variable of a name
that has been looked up. In exact mode only the value of the name itself is read and written. In
ignore-case mode a read and a write go to the spelling that `pick` gives.
-/
inductive Flat.Acts (pick : String → Option String) (m : Flat V) (name : String) :
    CaseMode → Action V → Answer V → Flat V → Prop where
  | hasExact : Acts pick m name .exact .hasValue (.truth (m.members name).isSome) m
  | valueExact : Acts pick m name .exact .value? (.value? (m.members name)) m
  | getExact : Acts pick m name .exact .getValue (.result (valueOr name (m.members name))) m
  | setExact (v : V) : Acts pick m name .exact (.setValue v) .done (m.write name (some v))
  | deleteExact :
      Acts pick m name .exact .deleteValue (.truth (m.members name).isSome) (m.write name none)
  | hasIgnoreCase {b : Bool} (holds : b = true ↔ m.Holds (lowercase name)) :
      Acts pick m name .ignoreCase .hasValue (.truth b) m
  | valueIgnoreCase :
      Acts pick m name .ignoreCase .value? (.value? ((pick (lowercase name)).bind m.members)) m
  | getIgnoreCase {first : String} (known : m.first (lowercase name) = some first) :
      Acts pick m name .ignoreCase .getValue
        (.result (valueOr first ((pick (lowercase name)).bind m.members))) m
  | setIgnoreCase {first : String} (known : m.first (lowercase name) = some first) (v : V) :
      Acts pick m name .ignoreCase (.setValue v) .done
        (m.write ((pick (lowercase name)).getD first) (some v))
  | deleteIgnoreCase {b : Bool} (holds : b = true ↔ m.Holds (lowercase name)) :
      Acts pick m name .ignoreCase .deleteValue (.truth b) (m.clear (lowercase name))

namespace Storage.WellFormed

variable {s : Storage V} {key : String} {r : Record V}

/-- To write into a cell is to write the value of its spelling. -/
lemma flat_put (wf : s.WellFormed) (found : s.recordAt? key = some r) {c : Cell V}
    (hc : c ∈ r.casings) {f : Record V → Record V} {v? : Option V} (hf : f r = r.put c.slot v?) :
    (s.modify r.number f).flat = s.flat.write c.name v? := by
  have wfr := wf.recordAt? found
  have first_eq : (f r).first.name = r.first.name := by
    rw [hf]
    exact (Cell.keepsPlace_putIf c.slot v? r.first).2
  rw [wf.flat_modify found first_eq, hf, wfr.member?_put hc]
  ext1
  · rfl
  · ext1 name
    simp only [Flat.write]
    split
    · subst key
      by_cases same : name = c.name
      · rw [same, Function.update_self, Function.update_self]
      · rw [Function.update_of_ne same, Function.update_of_ne same, Storage.flat_members found]
    · have other : name ≠ c.name := by
        rintro rfl
        exact absurd (wfr.lowercase_name c hc) ‹_›
      rw [Function.update_of_ne other]

/-- To clear a record is to clear the values of the spellings of its key. -/
lemma flat_cleared (wf : s.WellFormed) (found : s.recordAt? key = some r) :
    (s.modify r.number Record.cleared).flat = s.flat.clear key := by
  rw [wf.flat_modify found rfl]
  simp only [Record.member?_cleared]
  rfl

/-- The value of a record is the value of the spelling that is picked for its key. -/
lemma value?_eq (wf : s.WellFormed) (found : s.recordAt? key = some r) :
    r.value? = (s.pick key).bind s.flat.members := by
  rw [r.value?_eq, Storage.pick, found, Option.bind_some]
  cases holding : r.holding? with
  | none => rfl
  | some c =>
    have wfr := wf.recordAt? found
    have hc := (Record.mem_of_holding? holding).1
    have key_eq := wfr.lowercase_name c hc
    rw [← key_eq] at found
    simp [Storage.flat_members found, wfr.member?_name hc]

lemma hasValue_iff (wf : s.WellFormed) (found : s.recordAt? key = some r) :
    r.hasValue = true ↔ s.flat.Holds key := by
  rw [wf.holds_iff found, Record.hasValue, Record.holding?, List.find?_isSome]
  simp [Cell.hasValue, Option.isSome_iff_ne_none]

/-- What is done through a handle is done to the flat model. -/
lemma acts (wf : s.WellFormed) {h : Handle} {name : String} {mode : CaseMode}
    (leads : h.LeadsTo s name mode) (a : Action V) :
    Flat.Acts s.pick s.flat name mode a (h.act s a).1 (h.act s a).2.flat := by
  cases leads with
  | @exact r c found hc =>
    have wfr := wf.recordAt? found
    have cell : (s.record? r.number).bind (·.cell? c.slot) = some c := by
      rw [wf.record?_number found, Option.bind_some]
      exact wfr.cell?_eq.mpr ⟨hc, rfl⟩
    have value : s.flat.members c.name = c.value? := by
      rw [Storage.flat_members found, wfr.member?_name hc]
    have has : (Handle.exact r.number c.slot c.name).hasValue s =
        (s.flat.members c.name).isSome := by
      rw [Handle.hasValue, cell, value]
      rfl
    have read : (Handle.exact r.number c.slot c.name).value? s = s.flat.members c.name := by
      rw [Handle.value?, cell, value]
      rfl
    cases a with
    | hasValue =>
      simp only [Handle.act, has]
      exact .hasExact
    | value? =>
      simp only [Handle.act, read]
      exact .valueExact
    | getValue =>
      simp only [Handle.act, Handle.getValue, read]
      exact .getExact
    | setValue v =>
      simp only [Handle.act, Handle.setValue]
      rw [wf.flat_put found hc rfl]
      exact .setExact v
    | deleteValue =>
      simp only [Handle.act, Handle.deleteValue_eq, Handle.clear, has]
      rw [wf.flat_put found hc rfl]
      exact .deleteExact
  | @ignoreCase r name found =>
    have record := wf.record?_number found
    have known := Storage.flat_first found
    have has : (Handle.ignoreCase r.number r.first.name).hasValue s = true ↔
        s.flat.Holds (lowercase name) := by
      rw [Handle.hasValue, record, ← wf.hasValue_iff found]
      rfl
    have read : (Handle.ignoreCase r.number r.first.name).value? s =
        (s.pick (lowercase name)).bind s.flat.members := by
      rw [Handle.value?, record, Option.bind_some, wf.value?_eq found]
    cases a with
    | hasValue => exact .hasIgnoreCase has
    | value? =>
      simp only [Handle.act, read]
      exact .valueIgnoreCase
    | getValue =>
      simp only [Handle.act, Handle.getValue, read]
      exact .getIgnoreCase known
    | setValue v =>
      simp only [Handle.act, Handle.setValue]
      have target :
          (r.holding?.getD r.first).name = (s.pick (lowercase name)).getD r.first.name := by
        rw [Storage.pick, found, Option.bind_some]
        cases r.holding? <;> rfl
      rw [wf.flat_put found r.target_mem rfl, target]
      exact .setIgnoreCase known v
    | deleteValue =>
      simp only [Handle.act, Handle.deleteValue_eq, Handle.clear]
      rw [wf.flat_cleared found]
      exact .deleteIgnoreCase has

end Storage.WellFormed

end ScopedExpr
