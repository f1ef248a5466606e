import ScopedExpr.Proofs.Scope.Lookup
import ScopedExpr.Scope.Hosted

/-!
# Runs of a storage

What can be asked of a storage, of a handle and of a hosted scope, and which storages can come of
it. A storage that is reached from the empty one is well formed, and grows as the run goes on;
therefore a handle does at any later time what a new look-up of its name would do.
-/

namespace ScopedExpr

variable {V : Type}

/-! ### Requests -/

/-- What is done with a variable. -/
inductive Action (V : Type) where
  | hasValue
  | value?
  | getValue
  | setValue (v : V)
  | deleteValue
deriving DecidableEq

/-- What is answered. -/
inductive Answer (V : Type) where
  | done
  | truth (b : Bool)
  | count (n : Nat)
  | value? (v? : Option V)
  | value (v : V)
  | result (result : Except NotFound V)
  | handles (hs : List Handle)
  | names (names : List String)
  | items (items : List (String × V))
deriving DecidableEq

def Handle.act (h : Handle) (s : Storage V) : Action V → Answer V × Storage V
  | .hasValue => (.truth (h.hasValue s), s)
  | .value? => (.value? (h.value? s), s)
  | .getValue => (.result (h.getValue s), s)
  | .setValue v => (.done, h.setValue v s)
  | .deleteValue => (.truth (h.deleteValue s).1, (h.deleteValue s).2)

def Storage.act (s : Storage V) (name : String) (mode : CaseMode) : Action V → Answer V × Storage V
  | .hasValue => (.truth (s.hasValue name mode).1, (s.hasValue name mode).2)
  | .value? => (.value? (s.value? name mode).1, (s.value? name mode).2)
  | .getValue => (.result (s.getValue name mode).1, (s.getValue name mode).2)
  | .setValue v => (.done, s.setValue name v mode)
  | .deleteValue => (.truth (s.deleteValue name mode).1, (s.deleteValue name mode).2)

/-- What is asked of a storage. -/
inductive Request (V : Type) where
  | getVariable (name : String) (mode : CaseMode)
  | act (name : String) (mode : CaseMode) (a : Action V)
  | hasVariable (name : String)
  | size
  | isEmpty
  | memberNames
  | items

def Storage.answer (s : Storage V) : Request V → Answer V × Storage V
  | .getVariable name mode => (.handles [(s.getVariable name mode).1], (s.getVariable name mode).2)
  | .act name mode a => s.act name mode a
  | .hasVariable name => (.truth (s.hasVariable name), s)
  | .size => (.count s.size, s)
  | .isEmpty => (.truth s.isEmpty, s)
  | .memberNames => (.names s.memberNames, s)
  | .items => (.items s.items, s)

/-- What is asked of a hosted scope. -/
inductive HostedRequest (V : Type) where
  | getMember (name : String) (mode : CaseMode) (fallback : V)
  | getMemberStrict (name : String) (mode : CaseMode)
  | setMember (name : String) (v : V) (mode : CaseMode)
  | deleteMember (name : String) (mode : CaseMode)
  | isDefined (name : String) (mode : CaseMode)
  | memberNames
  | items
  | declareVariables (b : Block Expr)

def Hosted.answer (s : Storage V) : HostedRequest V → Answer V × Storage V
  | .getMember name mode fallback =>
    (.value (Hosted.getMember (m := Id) name mode fallback s).1,
      (Hosted.getMember (m := Id) name mode fallback s).2)
  | .getMemberStrict name mode =>
    (.result (Hosted.getMemberStrict s name mode).1, (Hosted.getMemberStrict s name mode).2)
  | .setMember name v mode => (.done, Hosted.setMember s name v mode)
  | .deleteMember name mode =>
    (.truth (Hosted.deleteMember s name mode).1, (Hosted.deleteMember s name mode).2)
  | .isDefined name mode =>
    (.truth (Hosted.isDefined s name mode).1, (Hosted.isDefined s name mode).2)
  | .memberNames => (.names (Hosted.memberNames s), s)
  | .items => (.items (Hosted.items s), s)
  | .declareVariables b =>
    (.handles (Hosted.declareVariables s b).1, (Hosted.declareVariables s b).2)

/-- A request to a storage, to one of its handles, or to a scope that hosts it. -/
inductive Operation (V : Type) where
  | storage (q : Request V)
  | handle (h : Handle) (a : Action V)
  | hosted (q : HostedRequest V)

def Storage.perform (s : Storage V) : Operation V → Answer V × Storage V
  | .storage q => s.answer q
  | .handle h a => h.act s a
  | .hosted q => Hosted.answer s q

/-- A name is looked up first; the rest is up to the handle. -/
lemma Storage.act_eq (s : Storage V) (name : String) (mode : CaseMode) (a : Action V) :
    s.act name mode a = (s.getVariable name mode).1.act (s.getVariable name mode).2 a := by
  cases a <;> rfl

/-! ### Reachable storages -/

/--
Whether a run leads from `s` to `t`: one operation after another, through any handles at all, where
at any time the order of scanning may become another one.
-/
inductive Storage.Reaches (s : Storage V) : Storage V → Prop where
  | refl : Reaches s s
  | reorder {t u : Storage V} (run : Reaches s t) (reordered : t.Reordered u) : Reaches s u
  | perform {t : Storage V} (run : Reaches s t) (op : Operation V) : Reaches s (t.perform op).2

def Storage.Reachable (s : Storage V) : Prop := Storage.Reaches {} s

/-! ### What all operations keep -/

lemma Hosted.getMember_eq (s : Storage V) (name : String) (mode : CaseMode) (fallback : V) :
    Hosted.getMember (m := Id) name mode fallback s =
      if s.hasVariable name then
        ((s.value? name mode).1.getD fallback, (s.value? name mode).2)
      else (fallback, s) := by
  change (Hosted.getMember (m := Id) name mode fallback).run s = _
  rw [Hosted.getMember, StateT.run_bind, StateT.run_get]
  by_cases known : s.hasVariable name
  · cases found : (s.value? name mode).1 with
    | some v =>
      simp [known, found]
      rfl
    | none =>
      simp [known, found]
      rfl
  · simp [known]
    rfl

/-- Whether look-ups, actions through handles and other orders of scanning leave it true. -/
structure Storage.Invariant (P : Storage V → Prop) : Prop where
  getVariable (s : Storage V) (name : String) (mode : CaseMode) :
    P s → P (s.getVariable name mode).2
  handle (s : Storage V) (h : Handle) (a : Action V) : P s → P (h.act s a).2
  reorder (s t : Storage V) : s.Reordered t → P s → P t

namespace Storage.Invariant

variable {P : Storage V → Prop} {s t : Storage V}

lemma act (inv : Invariant P) (holds : P s) (name : String) (mode : CaseMode) (a : Action V) :
    P (s.act name mode a).2 := by
  rw [Storage.act_eq]
  exact inv.handle _ _ a (inv.getVariable s name mode holds)

lemma answer (inv : Invariant P) (holds : P s) (q : Request V) : P (s.answer q).2 := by
  cases q with
  | getVariable name mode => exact inv.getVariable s name mode holds
  | act name mode a => exact inv.act holds name mode a
  | hasVariable | size | isEmpty | memberNames | items => exact holds

lemma getExactVariables (inv : Invariant P) (holds : P s) (names : List String) :
    P (s.getExactVariables names).2 := by
  induction names generalizing s with
  | nil => exact holds
  | cons name names ih => exact ih (inv.getVariable s name .exact holds)

lemma hosted (inv : Invariant P) (holds : P s) (q : HostedRequest V) :
    P (Hosted.answer s q).2 := by
  cases q with
  | getMember name mode fallback =>
    rw [Hosted.answer, Hosted.getMember_eq]
    split
    · exact inv.act holds name mode .value?
    · exact holds
  | getMemberStrict name mode => exact inv.act holds name mode .getValue
  | setMember name v mode => exact inv.act holds name mode (.setValue v)
  | deleteMember name mode =>
    rw [Hosted.answer, Hosted.deleteMember]
    split
    · exact inv.act holds name mode .deleteValue
    · exact holds
  | isDefined name mode =>
    rw [Hosted.answer, Hosted.isDefined]
    split
    · exact inv.act holds name mode .hasValue
    · exact holds
  | memberNames | items => exact holds
  | declareVariables b => exact inv.getExactVariables holds _

lemma perform (inv : Invariant P) (holds : P s) (op : Operation V) : P (s.perform op).2 := by
  cases op with
  | storage q => exact inv.answer holds q
  | handle h a => exact inv.handle s h a holds
  | hosted q => exact inv.hosted holds q

/-- An invariant stays true on every run. -/
lemma reaches (inv : Invariant P) (run : s.Reaches t) (holds : P s) : P t := by
  induction run with
  | refl => exact holds
  | reorder _ reordered ih => exact inv.reorder _ _ reordered ih
  | perform _ op ih => exact inv.perform ih op

end Storage.Invariant

/-! ### Evolution -/

/-- Whether all that is well formed in `s` stays so on the way to `t`, and `t` grew out of `s`. -/
def Storage.Evolves (s t : Storage V) : Prop := s.WellFormed → t.WellFormed ∧ s.Grows t

lemma Storage.Evolves.refl (s : Storage V) : s.Evolves s := fun wf => ⟨wf, .refl s⟩

lemma Storage.Evolves.trans {s t u : Storage V} (st : s.Evolves t) (tu : t.Evolves u) :
    s.Evolves u := by
  intro wf
  obtain ⟨wf', grows⟩ := st wf
  obtain ⟨wf'', grows'⟩ := tu wf'
  exact ⟨wf'', grows.trans grows'⟩

lemma Storage.Reordered.evolves {s t : Storage V} (reordered : s.Reordered t) : s.Evolves t :=
  fun wf => ⟨reordered.wellFormed wf, reordered.grows wf⟩

/-- A sound change of one record lets the storage evolve. -/
lemma Storage.evolves_modify (s : Storage V) (number : Nat) {f : Record V → Record V}
    (hf : ∀ key r, Record.SoundChange f key r) : s.Evolves (s.modify number f) := fun wf =>
  ⟨wf.modify fun key r _ _ => hf key r, Storage.grows_modify fun key r _ _ => hf key r⟩

lemma Storage.evolves_getVariable (s : Storage V) (name : String) (mode : CaseMode) :
    s.Evolves (s.getVariable name mode).2 := fun wf =>
  ⟨wf.getVariable name mode, wf.grows_getVariable name mode⟩

/-- Through a handle only values are changed, whatever handle it is. -/
lemma Handle.evolves_act (h : Handle) (s : Storage V) (a : Action V) :
    s.Evolves (h.act s a).2 := by
  have put : ∀ slot v? key r, Record.SoundChange (V := V) (·.put slot v?) key r :=
    fun slot v? => Record.soundChange_mapCells (Cell.keepsPlace_putIf slot v?)
  cases a with
  | hasValue => exact .refl s
  | value? => exact .refl s
  | getValue => exact .refl s
  | setValue v =>
    cases h with
    | exact number slot _ => exact s.evolves_modify number (put slot (some v))
    | ignoreCase number _ =>
      have set : ∀ key r, Record.SoundChange (V := V) (·.setValue v) key r := fun key r =>
        ⟨(put _ _ key r).grows, (put _ _ key r).wellFormed⟩
      exact s.evolves_modify number set
  | deleteValue =>
    rw [Handle.act, Handle.deleteValue_eq]
    cases h with
    | exact number slot _ => exact s.evolves_modify number (put slot none)
    | ignoreCase number _ =>
      exact s.evolves_modify number (Record.soundChange_mapCells (Cell.keepsPlace_put none))

/-- Whatever is done, a storage only grows. -/
lemma Storage.invariant_evolves (s : Storage V) : Storage.Invariant s.Evolves where
  getVariable t name mode evolves := evolves.trans (t.evolves_getVariable name mode)
  handle t h a evolves := evolves.trans (h.evolves_act t a)
  reorder _ _ reordered evolves := evolves.trans reordered.evolves

lemma Storage.evolves_act (s : Storage V) (name : String) (mode : CaseMode) (a : Action V) :
    s.Evolves (s.act name mode a).2 :=
  s.invariant_evolves.act (.refl s) name mode a

lemma Storage.evolves_answer (s : Storage V) (q : Request V) : s.Evolves (s.answer q).2 :=
  s.invariant_evolves.answer (.refl s) q

lemma Storage.evolves_getExactVariables (s : Storage V) (names : List String) :
    s.Evolves (s.getExactVariables names).2 :=
  s.invariant_evolves.getExactVariables (.refl s) names

lemma Storage.evolves_perform (s : Storage V) (op : Operation V) : s.Evolves (s.perform op).2 :=
  s.invariant_evolves.perform (.refl s) op

/-- On every run the storage grows, and all that is well formed stays so. -/
lemma Storage.Reaches.evolves {s t : Storage V} (run : s.Reaches t) : s.Evolves t :=
  s.invariant_evolves.reaches run (.refl s)

/-- Every storage that is reached is well formed. -/
lemma Storage.Reachable.wellFormed {s : Storage V} (reachable : s.Reachable) : s.WellFormed :=
  (reachable.evolves Storage.wellFormed_empty).1

/-! ### Handles never go stale -/

/--
A handle that was taken at any time does at any later time what the storage does for its name: it
gives the same answer and leaves the same storage. In ignore-case mode this goes for the name in any
spelling.
-/
theorem Handle.act_eq_of_taken {s t u : Storage V} {name other : String} {mode : CaseMode}
    {h : Handle} (reachable : s.Reachable) (taken : s.getVariable name mode = (h, t))
    (later : t.Reaches u)
    (same : other = name ∨ mode = .ignoreCase ∧ lowercase other = lowercase name)
    (a : Action V) : h.act u a = u.act other mode a := by
  have wf := reachable.wellFormed
  have leads : h.LeadsTo t name mode := by
    have := wf.leadsTo_getVariable name mode
    rwa [taken] at this
  have wft : t.WellFormed := by
    have := wf.getVariable name mode
    rwa [taken] at this
  obtain ⟨wfu, grows⟩ := later.evolves wft
  have leads' : h.LeadsTo u other mode := by
    rcases same with rfl | ⟨rfl, same⟩
    · exact leads.mono grows
    · exact (leads.mono grows).of_lowercase_eq same
  rw [Storage.act_eq, wfu.getVariable_of_leadsTo leads']

/-- The handle was taken before there was any value, and is read after another spelling was set. -/
theorem Handle.act_eq_of_taken_before_set :
    let taken := ({} : Storage Nat).getVariable "Key" .ignoreCase
    let u := (taken.2.perform (.storage (.act "kEY" .exact (.setValue 1)))).2
    taken.1.act u .value? = u.act "KEY" .ignoreCase .value? ∧
      (taken.1.act u .value?).1 = .value? (some 1) := by
  intro taken u
  have same : lowercase "KEY" = lowercase "Key" := by decide +kernel
  exact ⟨Handle.act_eq_of_taken .refl rfl (.perform .refl _) (.inr ⟨rfl, same⟩) _,
    by decide +kernel⟩

end ScopedExpr
