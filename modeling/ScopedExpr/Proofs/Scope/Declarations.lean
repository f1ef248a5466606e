import Mathlib.Data.Finset.Card
import ScopedExpr.Proofs.Scope.Agreement
import ScopedExpr.Proofs.Scope.Handles

/-!
# Declarations

To declare the variables of a block is to look up their names, one after another. This makes the
cells that are missing, without values, and gives a handle for each name. The cells are there for
good, so that the same names lead to the same cells whenever they are declared again.
-/

namespace ScopedExpr

variable {V : Type}

/-! ### Look-ups in the flat model -/

namespace Flat

variable {m : Flat V} {key : String}

lemma first_touch_ne_none {name : String} :
    (m.touch name).first key ≠ none ↔ m.first key ≠ none ∨ lowercase name = key := by
  by_cases same : key = lowercase name
  · subst same
    simp [touch]
  · simp [touch, Function.update_of_ne same, Ne.symm same]

/-- A key is known after look-ups if it was before, or if one of the names has this key. -/
lemma first_foldl_touch_ne_none (names : List String) :
    (names.foldl touch m).first key ≠ none ↔
      m.first key ≠ none ∨ key ∈ names.map lowercase := by
  induction names generalizing m with
  | nil => simp
  | cons name names ih =>
    rw [List.foldl_cons, ih, first_touch_ne_none, List.map_cons, List.mem_cons, or_assoc,
      eq_comm (a := key)]

lemma members_foldl_touch (names : List String) : (names.foldl touch m).members = m.members := by
  induction names generalizing m with
  | nil => rfl
  | cons name names ih => exact ih

end Flat

namespace Storage.WellFormed

variable {s t : Storage V}

/-- The value that is read depends on the choice of spellings and on the values under them. -/
lemma value?_eq_of_pick_eq (wf : s.WellFormed) (wf' : t.WellFormed) (pick_eq : t.pick = s.pick)
    (members_eq : t.flat.members = s.flat.members) (name : String) (mode : CaseMode) :
    (t.value? name mode).1 = (s.value? name mode).1 := by
  have read := wf.acts_act name mode .value?
  have read' := wf'.acts_act name mode .value?
  simp only [Storage.act] at read read'
  generalize (s.value? name mode).1 = v?, (s.value? name mode).2.flat = m at read ⊢
  generalize (t.value? name mode).1 = v?', (t.value? name mode).2.flat = m' at read' ⊢
  cases mode with
  | exact =>
    cases read
    cases read'
    rw [Flat.touch, Flat.touch, members_eq]
  | ignoreCase =>
    cases read
    cases read'
    rw [Flat.touch, Flat.touch, members_eq, pick_eq]

/-- Look-ups do not change which cell is found first. -/
lemma pick_getExactVariables (wf : s.WellFormed) (names : List String) :
    (s.getExactVariables names).2.pick = s.pick := by
  induction names generalizing s with
  | nil => rfl
  | cons name names ih =>
    rw [← wf.pick_getVariable name .exact]
    exact ih (wf.getVariable name .exact)

lemma members_getExactVariables (wf : s.WellFormed) (names : List String) :
    (s.getExactVariables names).2.flat.members = s.flat.members := by
  rw [(wf.getExactVariables names).2, Flat.members_foldl_touch]

/-- Names that have cells already are looked up without a change. -/
lemma getExactVariables_of_leadsTo (wf : s.WellFormed) {hs : List Handle} {names : List String}
    (leads : List.Forall₂ (fun h name => h.LeadsTo s name .exact) hs names) :
    s.getExactVariables names = (hs, s) := by
  induction leads with
  | nil => rfl
  | cons head _ ih =>
    rw [Storage.getExactVariables, wf.getVariable_of_leadsTo head]
    dsimp only
    rw [ih]

/-! ### How many records are made -/

lemma size_eq_card (wf : s.WellFormed) : s.size = (s.records.map Prod.fst).toFinset.card := by
  rw [List.toFinset_card_of_nodup wf.keys_nodup, List.length_map]
  rfl

/-- There is one new record for each key that had none. -/
lemma size_getExactVariables (wf : s.WellFormed) (names : List String) :
    (s.getExactVariables names).2.size =
      s.size + ((names.filter fun name => !s.hasVariable name).map lowercase).toFinset.card := by
  have wf' := (s.evolves_getExactVariables names wf).1
  have flat_eq := (wf.getExactVariables names).2
  set t := (s.getExactVariables names).2
  set fresh := (names.filter fun name => !s.hasVariable name).map lowercase
  have mem_fresh (key : String) :
      key ∈ fresh ↔ s.flat.first key = none ∧ key ∈ names.map lowercase := by
    simp only [fresh, List.mem_map, List.mem_filter, Storage.hasVariable_eq, Bool.not_eq_true',
      Option.isSome_eq_false_iff, Option.isNone_iff_eq_none]
    constructor
    · rintro ⟨name, ⟨mem, absent⟩, rfl⟩
      exact ⟨absent, name, mem, rfl⟩
    · rintro ⟨absent, name, mem, rfl⟩
      exact ⟨name, ⟨mem, absent⟩, rfl⟩
  have keys : (t.records.map Prod.fst).toFinset =
      (s.records.map Prod.fst).toFinset ∪ fresh.toFinset := by
    ext key
    rw [Finset.mem_union, List.mem_toFinset, List.mem_toFinset, List.mem_toFinset, wf.mem_keys,
      wf'.mem_keys, mem_fresh, flat_eq, Flat.first_foldl_touch_ne_none]
    tauto
  have disjoint : Disjoint (s.records.map Prod.fst).toFinset fresh.toFinset := by
    rw [Finset.disjoint_left]
    intro key mem mem'
    rw [List.mem_toFinset, wf.mem_keys] at mem
    rw [List.mem_toFinset, mem_fresh] at mem'
    exact mem mem'.1
  rw [wf'.size_eq_card, keys, Finset.card_union_of_disjoint disjoint, wf.size_eq_card]

end Storage.WellFormed

/-! ### The handles of a declaration -/

/-- The names that a block declares, in order. Parameters without a name are left out. -/
def Block.names {α : Type} (b : Block α) : List String := b.declarations.filterMap Param.name?

def Handle.record : Handle → Nat
  | .exact number .. => number
  | .ignoreCase number _ => number

/--
Whether `t` is `s` with the cells of the names in it, and `hs` are the handles of these cells, in
order.
-/
structure Storage.Declares (s : Storage V) (names : List String) (hs : List Handle)
    (t : Storage V) : Prop where
  names_eq : hs.map Handle.name = names
  exact_mode : ∀ h ∈ hs, h.isIgnoreCase = false ∧ t.getVariable h.name .exact = (h, t)
  same_iff : ∀ h ∈ hs, ∀ k ∈ hs, h.same k = true ↔ h.name = k.name
  record_eq_iff : ∀ h ∈ hs, ∀ k ∈ hs, h.record = k.record ↔ lowercase h.name = lowercase k.name
  memberNames_eq : Hosted.memberNames t = Hosted.memberNames s
  items_eq : Hosted.items t = Hosted.items s
  value?_eq : ∀ name mode, (t.value? name mode).1 = (s.value? name mode).1
  size_eq : t.size =
    s.size + ((names.filter fun name => !s.hasVariable name).map lowercase).toFinset.card

lemma Handle.LeadsTo.name_eq {s : Storage V} {h : Handle} {name : String}
    (leads : h.LeadsTo s name .exact) : h.name = name ∧ h.isIgnoreCase = false := by
  cases leads
  exact ⟨rfl, rfl⟩

/-- Two exact handles lead into one record exactly if their names have one key. -/
lemma Handle.LeadsTo.record_eq_iff {s : Storage V} (wf : s.WellFormed) {h k : Handle}
    {n m : String} (leads : h.LeadsTo s n .exact) (leads' : k.LeadsTo s m .exact) :
    h.record = k.record ↔ lowercase n = lowercase m := by
  cases leads with
  | exact found _ =>
    cases leads' with
    | exact found' _ => exact wf.number_eq_iff found found'

/-- Handles that lead to the cells of the names, one by one, bear these names. -/
lemma Handle.leadsTo_of_forall₂ {s : Storage V} {hs : List Handle} {names : List String}
    (leads : List.Forall₂ (fun h name => h.LeadsTo s name .exact) hs names) :
    hs.map Handle.name = names ∧ ∀ h ∈ hs, h.LeadsTo s h.name .exact := by
  induction leads with
  | nil => exact ⟨rfl, by simp⟩
  | @cons h name _ _ head _ ih =>
    obtain rfl := head.name_eq.1
    refine ⟨by rw [List.map_cons, ih.1], ?_⟩
    rintro k (_ | ⟨_, mem⟩)
    · exact head
    · exact ih.2 k mem

namespace Storage.WellFormed

variable {s t u : Storage V}

/-- To look names up in exact mode, one after another, is to declare them. -/
lemma declares (wf : s.WellFormed) (names : List String) :
    s.Declares names (s.getExactVariables names).1 (s.getExactVariables names).2 := by
  have wf' := (s.evolves_getExactVariables names wf).1
  have members_eq := wf.members_getExactVariables names
  obtain ⟨names_eq, leads⟩ := Handle.leadsTo_of_forall₂ (wf.getExactVariables names).1
  have items_eq := Hosted.items_eq_of_members_eq wf' wf members_eq
  exact {
    names_eq
    exact_mode := fun h mem => ⟨(leads h mem).name_eq.2, wf'.getVariable_of_leadsTo (leads h mem)⟩
    same_iff := fun h mem k mem' => by simpa using (leads h mem).same_iff wf' (leads k mem')
    record_eq_iff := fun h mem k mem' => (leads h mem).record_eq_iff wf' (leads k mem')
    memberNames_eq := by rw [← Hosted.items_map_fst, items_eq, Hosted.items_map_fst]
    items_eq
    value?_eq := wf.value?_eq_of_pick_eq wf' (wf.pick_getExactVariables names) members_eq
    size_eq := wf.size_getExactVariables names }

/-- Names that all have cells are looked up without a change. -/
lemma getExactVariables_of_known (wf : s.WellFormed) {names : List String}
    (known : ∀ name ∈ names, ∃ h : Handle, h.LeadsTo s name .exact) :
    (s.getExactVariables names).2 = s := by
  induction names with
  | nil => rfl
  | cons name names ih =>
    obtain ⟨h, leads⟩ := known name List.mem_cons_self
    rw [Storage.getExactVariables, wf.getVariable_of_leadsTo leads]
    exact ih fun other mem => known other (List.mem_cons_of_mem name mem)

/-- Later on the names have their cells, and any other look-up of them leads there. -/
lemma declares_again (wf : s.WellFormed) (names : List String)
    (later : (s.getExactVariables names).2.Reaches u) (names' : List String) :
    (∀ h ∈ (s.getExactVariables names).1, ∀ k ∈ (u.getExactVariables names').1,
      h.same k = true ↔ h.name = k.name) ∧
    (names' ⊆ names → (u.getExactVariables names').2 = u) ∧
    u.getExactVariables names = ((s.getExactVariables names).1, u) := by
  have wf' := (s.evolves_getExactVariables names wf).1
  obtain ⟨wfu, grows⟩ := later.evolves wf'
  obtain ⟨wfv, grows'⟩ := u.evolves_getExactVariables names' wfu
  have leads := (wf.getExactVariables names).1.imp fun _ _ leads => leads.mono grows
  obtain ⟨names_eq, taken⟩ := Handle.leadsTo_of_forall₂ leads
  obtain ⟨-, taken'⟩ := Handle.leadsTo_of_forall₂ (wfu.getExactVariables names').1
  refine ⟨fun h mem k mem' => ?_, fun known => ?_, wfu.getExactVariables_of_leadsTo leads⟩
  · simpa using ((taken h mem).mono grows').same_iff wfv (taken' k mem')
  · refine wfu.getExactVariables_of_known fun name mem => ?_
    have mem' := known mem
    rw [← names_eq, List.mem_map] at mem'
    obtain ⟨h, mem', rfl⟩ := mem'
    exact ⟨h, taken h mem'⟩

end Storage.WellFormed

/--
A declaration gives the handles of the named variables, in order, and leaves every value as it was.
Whatever is done afterwards, a declaration of the same names, by this block or by another one, gives
the same handles and leaves the storage as it is.
-/
theorem Hosted.declareVariables_declares {s : Storage V} (reachable : s.Reachable) {α : Type}
    (b : Block α) :
    let hs := (Hosted.declareVariables s b).1
    let t := (Hosted.declareVariables s b).2
    s.Declares b.names hs t ∧
    ∀ (u : Storage V) {β : Type} (b' : Block β), t.Reaches u →
      (∀ h ∈ hs, ∀ k ∈ (Hosted.declareVariables u b').1, h.same k = true ↔ h.name = k.name) ∧
      (b'.names ⊆ b.names → (Hosted.declareVariables u b').2 = u) ∧
      (b'.names = b.names → Hosted.declareVariables u b' = (hs, u)) := by
  have wf := reachable.wellFormed
  refine ⟨wf.declares b.names, fun u β b' later => ?_⟩
  obtain ⟨same_iff, unchanged, again⟩ := wf.declares_again b.names later b'.names
  refine ⟨same_iff, unchanged, fun names_eq => ?_⟩
  rw [Hosted.declareVariables, ← Block.names, names_eq]
  exact again

/--
A value stands under another spelling of the first variable. One name is declared twice, and once
more in another spelling; one variable has no name. A deletion does not undo the declaration.
-/
theorem Hosted.declareVariables_declares_respelled :
    let s := (({} : Storage Nat).perform (.hosted (.setMember "Key" 1 .exact))).2
    let x (id : Nat) (name? : Option String) : Param := ⟨id, name?, .int, false⟩
    let one : Expr := .leaf (.constant ⟨9, .int 1, .int⟩)
    let xs := [x 1 (some "KEY"), x 2 (some "b"), x 3 none, x 4 (some "key"), x 5 (some "KEY")]
    let b : Block Expr := ⟨0, .scope1 xs one⟩
    let b' : Block Expr := ⟨6, .scope1 [x 7 (some "b"), x 8 (some "KEY")] one⟩
    let hs := [.exact 0 1 "KEY", .exact 1 0 "b", .exact 0 2 "key", .exact 0 1 "KEY"]
    let t := (Hosted.declareVariables s b).2
    let u := (t.perform (.hosted (.deleteMember "kEY" .ignoreCase))).2
    (Hosted.declareVariables s b).1 = hs ∧ Hosted.items t = Hosted.items s ∧
      t.size = s.size + 1 ∧ Hosted.declareVariables u b = (hs, u) ∧
      (Hosted.declareVariables u b').2 = u := by
  intro s x one xs b b' hs t u
  have reachable : s.Reachable := .perform .refl _
  have later : t.Reaches u := .perform .refl _
  have handles : (Hosted.declareVariables s b).1 = hs := by decide +kernel
  have fresh : (b.names.filter fun name => !s.hasVariable name).map lowercase = ["b"] := by
    decide +kernel
  obtain ⟨declares, again⟩ := Hosted.declareVariables_declares reachable b
  refine ⟨handles, declares.items_eq, ?_, ?_, (again u b' later).2.1 (by decide)⟩
  · rw [declares.size_eq, fresh]
    rfl
  · rw [(again u b later).2.2 rfl, handles]

end ScopedExpr
