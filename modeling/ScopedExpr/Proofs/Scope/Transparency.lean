import ScopedExpr.Proofs.Scope.Agreement

/-!
# Look-ups by a host

A host may ask for a member that is not there, and nobody will notice. A look-up by a host can make
casings without a value in records that are there, but no record, so that what the storage means
stays the same; and from storages that mean the same the host gets the same answers.
-/

namespace ScopedExpr

variable {V : Type}

/-! ### Calls of a host -/

/-- What a host asks: its scope, or the storage which names it knows and how many. -/
inductive HostCall (V : Type) where
  | scope (q : HostedRequest V)
  | hasVariable (name : String)
  | size

def HostCall.operation : HostCall V → Operation V
  | .scope q => .hosted q
  | .hasVariable name => .storage (.hasVariable name)
  | .size => .storage .size

def Storage.host (s : Storage V) (call : HostCall V) : Answer V × Storage V :=
  s.perform call.operation

/-- Whether the call reads or writes no record that leaves a choice of the spelling. -/
def HostCall.Clear (s : Storage V) : HostCall V → Prop
  | .scope (.getMember name mode _) => s.Clear name mode
  | .scope (.getMemberStrict name mode) => s.Clear name mode
  | .scope (.setMember name _ mode) => s.Clear name mode
  | _ => True

/-- Whether the call only looks for a member: it reads one, or it deletes one that is not there. -/
inductive HostCall.LooksUp : HostCall V → Answer V → Prop where
  | getMember (name : String) (mode : CaseMode) (fallback : V) (answer : Answer V) :
      LooksUp (.scope (.getMember name mode fallback)) answer
  | isDefined (name : String) (mode : CaseMode) (answer : Answer V) :
      LooksUp (.scope (.isDefined name mode)) answer
  | deleteMember (name : String) (mode : CaseMode) :
      LooksUp (.scope (.deleteMember name mode)) (.truth false)

/--
Whether two answers are the same. Handles of two storages are the same if each leads to the variable
of the same name in its own storage.
-/
def Answer.Agree (s t : Storage V) : Answer V → Answer V → Prop
  | .handles hs, .handles hs' => List.Forall₂
      (fun h h' => ∃ name mode, h.LeadsTo s name mode ∧ h'.LeadsTo t name mode) hs hs'
  | answer, answer' => answer = answer'

lemma Answer.Agree.mono {s s' t t' : Storage V} {answer answer' : Answer V}
    (agree : Answer.Agree s t answer answer') (grows : s.Grows s') (grows' : t.Grows t') :
    Answer.Agree s' t' answer answer' := by
  unfold Answer.Agree at agree ⊢
  split at agree
  · apply agree.imp
    rintro h h' ⟨name, mode, leads, leads'⟩
    exact ⟨name, mode, leads.mono grows, leads'.mono grows'⟩
  · exact agree

/-- Handles of the same names, in exact mode, agree one by one. -/
lemma Answer.agree_handles {s t : Storage V} {hs hs' : List Handle} {names : List String}
    (leads : List.Forall₂ (fun h name => h.LeadsTo s name .exact) hs names)
    (leads' : List.Forall₂ (fun h name => h.LeadsTo t name .exact) hs' names) :
    Answer.Agree s t (.handles hs) (.handles hs') := by
  induction leads generalizing hs' with
  | nil =>
    cases leads'
    exact .nil
  | cons head _ ih =>
    cases leads' with
    | cons head' tail' => exact .cons ⟨_, _, head, head'⟩ (ih tail')

/-! ### One call -/

/-- The storage is asked only for names that it knows. -/
lemma Hosted.answer_getMember (s : Storage V) (name : String) (mode : CaseMode) (fallback : V) :
    Hosted.answer s (.getMember name mode fallback) =
      if s.hasVariable name then
        (.value ((s.value? name mode).1.getD fallback), (s.act name mode .value?).2)
      else (.value fallback, s) := by
  rw [Hosted.answer, Hosted.getMember_eq]
  split <;> rfl

lemma Hosted.answer_deleteMember (s : Storage V) (name : String) (mode : CaseMode) :
    Hosted.answer s (.deleteMember name mode) =
      if s.hasVariable name then s.act name mode .deleteValue else (.truth false, s) := by
  rw [Hosted.answer, Hosted.deleteMember]
  split <;> rfl

lemma Hosted.answer_isDefined (s : Storage V) (name : String) (mode : CaseMode) :
    Hosted.answer s (.isDefined name mode) =
      if s.hasVariable name then s.act name mode .hasValue else (.truth false, s) := by
  rw [Hosted.answer, Hosted.isDefined]
  split <;> rfl

/--
From storages that mean the same, a clear call gets the same answer and leads to such storages.
-/
lemma Storage.host_agree {s t : Storage V} (wf : s.WellFormed) (wf' : t.WellFormed)
    (same : s.flat = t.flat) {call : HostCall V} (clear : call.Clear s) :
    Answer.Agree (s.host call).2 (t.host call).2 (s.host call).1 (t.host call).1 ∧
      (s.host call).2.flat = (t.host call).2.flat := by
  cases call with
  | hasVariable name =>
    exact ⟨congrArg Answer.truth (hasVariable_eq_of_flat_eq same name), same⟩
  | size => exact ⟨congrArg Answer.count (size_eq_of_flat_eq wf wf' same), same⟩
  | scope q =>
    simp only [host, HostCall.operation, perform]
    cases q with
    | getMember name mode fallback =>
      rw [Hosted.answer_getMember, Hosted.answer_getMember, hasVariable_eq_of_flat_eq same name]
      split
      · obtain ⟨answer_eq, flat_eq⟩ := act_eq_of_flat_eq wf wf' same (a := .value?) fun _ => clear
        have value_eq : (s.value? name mode).1 = (t.value? name mode).1 :=
          Answer.value?.inj answer_eq
        exact ⟨by rw [value_eq]; rfl, flat_eq⟩
      · exact ⟨rfl, same⟩
    | getMemberStrict name mode =>
      exact act_eq_of_flat_eq wf wf' same (a := .getValue) fun _ => clear
    | setMember name v mode =>
      exact act_eq_of_flat_eq wf wf' same (a := .setValue v) fun _ => clear
    | deleteMember name mode =>
      rw [Hosted.answer_deleteMember, Hosted.answer_deleteMember,
        hasVariable_eq_of_flat_eq same name]
      split
      · exact act_eq_of_flat_eq wf wf' same False.elim
      · exact ⟨rfl, same⟩
    | isDefined name mode =>
      rw [Hosted.answer_isDefined, Hosted.answer_isDefined, hasVariable_eq_of_flat_eq same name]
      split
      · exact act_eq_of_flat_eq wf wf' same False.elim
      · exact ⟨rfl, same⟩
    | memberNames =>
      exact ⟨congrArg Answer.names (Hosted.memberNames_eq_of_flat_eq wf wf' same), same⟩
    | items => exact ⟨congrArg Answer.items (Hosted.items_eq_of_flat_eq wf wf' same), same⟩
    | declareVariables b =>
      obtain ⟨leads, flat_eq⟩ := wf.getExactVariables (b.declarations.filterMap Param.name?)
      obtain ⟨leads', flat_eq'⟩ := wf'.getExactVariables (b.declarations.filterMap Param.name?)
      exact ⟨Answer.agree_handles leads leads', flat_eq.trans (same ▸ flat_eq'.symm)⟩

lemma Storage.WellFormed.flat_act_of_known {s : Storage V} (wf : s.WellFormed) {name : String}
    {mode : CaseMode} {a : Action V} (known : s.hasVariable name = true)
    (read : ∀ v, a ≠ .setValue v) (gone : a = .deleteValue → (s.act name mode a).1 = .truth false) :
    (s.act name mode a).2.flat = s.flat := by
  have acts := wf.acts_act name mode a
  rw [Flat.touch_of_known (by rwa [← Storage.hasVariable_eq])] at acts
  exact acts.eq_self read gone

/-- A call that only looks for a member leaves the meaning as it is. -/
lemma Storage.WellFormed.flat_host_of_looksUp {s : Storage V} (wf : s.WellFormed)
    {call : HostCall V} {answer : Answer V} (answered : (s.host call).1 = answer)
    (looksUp : call.LooksUp answer) : (s.host call).2.flat = s.flat := by
  simp only [Storage.host] at answered ⊢
  cases looksUp with
  | getMember name mode fallback =>
    simp only [HostCall.operation, Storage.perform, Hosted.answer_getMember]
    split
    · exact wf.flat_act_of_known ‹_› (by simp) (by simp)
    · rfl
  | isDefined name mode =>
    simp only [HostCall.operation, Storage.perform, Hosted.answer_isDefined]
    split
    · exact wf.flat_act_of_known ‹_› (by simp) (by simp)
    · rfl
  | deleteMember name mode =>
    simp only [HostCall.operation, Storage.perform, Hosted.answer_deleteMember] at answered ⊢
    split at answered
    · rw [if_pos ‹_›]
      exact wf.flat_act_of_known ‹_› (by simp) fun _ => answered
    · rw [if_neg ‹_›]

/-! ### Runs -/

/-- A call on the storage as it was at the time, and the answer to it. -/
structure HostStep (V : Type) where
  storage : Storage V
  call : HostCall V
  answer : Answer V

/-- The steps of a host on the way of a storage, where the order of scanning may change. -/
inductive Storage.Hosts : Storage V → List (HostStep V) → Storage V → Prop where
  | nil (s : Storage V) : Hosts s [] s
  | reorder {s t u : Storage V} {steps : List (HostStep V)} (reordered : s.Reordered t)
      (run : Hosts t steps u) : Hosts s steps u
  | cons {s t : Storage V} {steps : List (HostStep V)} (call : HostCall V)
      (run : Hosts (s.host call).2 steps t) : Hosts s (⟨s, call, (s.host call).1⟩ :: steps) t

namespace Storage.Hosts

variable {s s' t t' : Storage V} {step : HostStep V} {steps steps' : List (HostStep V)}

lemma evolves (run : s.Hosts steps t) : s.Evolves t := by
  induction run with
  | nil s => exact .refl s
  | reorder reordered _ ih => exact reordered.evolves.trans ih
  | cons call _ ih => exact (Storage.evolves_perform _ _).trans ih

/-- Before and after the first step, the order of scanning is all that may have changed. -/
lemma nil_inv (run : s.Hosts [] t) (wf : s.WellFormed) : t.flat = s.flat := by
  generalize eq : ([] : List (HostStep V)) = steps at run
  induction run with
  | nil => rfl
  | reorder reordered _ ih => rw [ih (reordered.wellFormed wf) eq, reordered.flat_eq wf]
  | cons => cases eq

/-- The first step of a host starts from what the storage means. -/
lemma cons_inv (run : s.Hosts (step :: steps) t) (wf : s.WellFormed) :
    step.storage.WellFormed ∧ step.storage.flat = s.flat ∧
      (step.storage.host step.call).1 = step.answer ∧
      (step.storage.host step.call).2.Hosts steps t := by
  generalize eq : step :: steps = all at run
  induction run with
  | nil => cases eq
  | reorder reordered _ ih =>
    rw [← reordered.flat_eq wf]
    exact ih (reordered.wellFormed wf) eq
  | cons call run =>
    cases eq
    exact ⟨wf, rfl, rfl, run⟩

/-- The steps of a host may be cut anywhere. -/
lemma append_inv {before after : List (HostStep V)} (run : s.Hosts (before ++ after) t) :
    ∃ u, s.Hosts before u ∧ u.Hosts after t := by
  generalize eq : before ++ after = all at run
  induction run generalizing before with
  | nil s =>
    obtain ⟨rfl, rfl⟩ := List.append_eq_nil_iff.mp eq
    exact ⟨s, .nil s, .nil s⟩
  | reorder reordered _ ih =>
    obtain ⟨u, run, run'⟩ := ih eq
    exact ⟨u, .reorder reordered run, run'⟩
  | @cons s t steps call run ih =>
    cases before with
    | nil =>
      cases eq
      exact ⟨s, .nil s, .cons call run⟩
    | cons step before =>
      cases eq
      obtain ⟨u, run, run'⟩ := ih rfl
      exact ⟨u, .cons call run, run'⟩

lemma agree (run : s.Hosts steps t) (run' : s'.Hosts steps' t') (wf : s.WellFormed)
    (wf' : s'.WellFormed) (same : s.flat = s'.flat)
    (clear : ∀ step ∈ steps, step.call.Clear step.storage)
    (calls : steps.map HostStep.call = steps'.map HostStep.call) :
    List.Forall₂ (fun step step' => Answer.Agree t t' step.answer step'.answer) steps steps' ∧
      t.flat = t'.flat := by
  -- The induction is on the calls; it carries that the two storages mean the same.
  induction steps generalizing s s' steps' with
  | nil =>
    obtain rfl := List.map_eq_nil_iff.mp calls.symm
    rw [run.nil_inv wf, run'.nil_inv wf']
    exact ⟨.nil, same⟩
  | cons step steps ih =>
    obtain ⟨step', steps', rfl⟩ : ∃ step' rest', steps' = step' :: rest' := by
      cases steps' with
      | nil => cases calls
      | cons step' rest' => exact ⟨step', rest', rfl⟩
    obtain ⟨call_eq, calls⟩ := List.cons_eq_cons.mp calls
    obtain ⟨clear_step, clear⟩ := List.forall_mem_cons.mp clear
    obtain ⟨wf₁, flat_eq, answered, rest⟩ := run.cons_inv wf
    obtain ⟨wf₁', flat_eq', answered', rest'⟩ := run'.cons_inv wf'
    rw [← call_eq] at answered' rest'
    obtain ⟨head, same⟩ := host_agree wf₁ wf₁' (by rw [flat_eq, flat_eq', same]) clear_step
    obtain ⟨wf₂, -⟩ := step.storage.evolves_perform step.call.operation wf₁
    obtain ⟨wf₂', -⟩ := step'.storage.evolves_perform step.call.operation wf₁'
    obtain ⟨tail, final⟩ := ih rest rest' wf₂ wf₂' same clear calls
    rw [answered, answered'] at head
    exact ⟨.cons (head.mono (rest.evolves wf₂).2 (rest'.evolves wf₂').2) tail, final⟩

/--
A host that looks for a member at some point of a run changes the answer to no other call, and the
storage means the same in the end, provided that no other call of the run reads or writes, in
ignore-case mode, a record that leaves a choice of the spelling. The order of scanning may change in
each of the two runs.
-/
theorem lookUp_transparent {before before' after after' : List (HostStep V)}
    {inserted : HostStep V} (reachable : s.Reachable) (run : s.Hosts (before ++ after) t)
    (clear : ∀ step ∈ before ++ after, step.call.Clear step.storage)
    (run' : s.Hosts (before' ++ inserted :: after') t')
    (looksUp : inserted.call.LooksUp inserted.answer)
    (calls : before.map HostStep.call = before'.map HostStep.call)
    (calls' : after.map HostStep.call = after'.map HostStep.call) :
    List.Forall₂ (fun step step' => Answer.Agree t t' step.answer step'.answer)
      (before ++ after) (before' ++ after') ∧ t.flat = t'.flat := by
  have wf := reachable.wellFormed
  obtain ⟨clear_before, clear_after⟩ := List.forall_mem_append.mp clear
  obtain ⟨u, run_before, run_after⟩ := run.append_inv
  obtain ⟨u', run_before', rest⟩ := run'.append_inv
  obtain ⟨wfu, -⟩ := run_before.evolves wf
  obtain ⟨wfu', -⟩ := run_before'.evolves wf
  obtain ⟨wfv, flat_eq, answered, run_after'⟩ := rest.cons_inv wfu'
  obtain ⟨wfv', -⟩ := inserted.storage.evolves_perform inserted.call.operation wfv
  obtain ⟨agree_before, same⟩ := run_before.agree run_before' wf wf rfl clear_before calls
  -- What the look-up leaves behind means what it has found, so the runs agree once more after it.
  have unchanged := wfv.flat_host_of_looksUp answered looksUp
  rw [flat_eq, ← same] at unchanged
  obtain ⟨agree_after, final⟩ :=
    run_after.agree run_after' wfu wfv' unchanged.symm clear_after calls'
  refine ⟨List.rel_append ?_ agree_after, final⟩
  apply agree_before.imp
  intro step step' agree
  exact agree.mono (run_after.evolves wfu).2 (rest.evolves wfu').2

/-- The look-up makes a casing, so that the declared variable comes to stand in a later slot. -/
theorem lookUp_transparent_slots :
    let x : Param := ⟨1, some "kEY", .int, false⟩
    let b : Block Expr := ⟨0, .scope1 [x] (.leaf (.parameter x))⟩
    let key : HostCall Nat := .scope (.setMember "Key" 1 .exact)
    let lookUp : HostCall Nat := .scope (.getMember "KEY" .exact 0)
    let declare : HostCall Nat := .scope (.declareVariables b)
    let put : HostCall Nat := .scope (.setMember "KEY" 2 .ignoreCase)
    let step (s : Storage Nat) (call : HostCall Nat) : HostStep Nat := ⟨s, call, (s.host call).1⟩
    let s := (({} : Storage Nat).host key).2
    let s' := (s.host lookUp).2
    let after (s : Storage Nat) := [step s declare, step (s.host declare).2 put]
    let last (s : Storage Nat) := ((s.host declare).2.host put).2
    (∀ x ∈ [step {} key] ++ after s, x.call.Clear x.storage) ∧
    (s.host declare).1 = .handles [.exact 0 1 "kEY"] ∧
    (s'.host declare).1 = .handles [.exact 0 2 "kEY"] ∧
    Answer.Agree (last s) (last s') (s.host declare).1 (s'.host declare).1 := by
  intro x b key lookUp declare put step s s' after last
  have run : Storage.Hosts {} ([step {} key] ++ after s) (last s) :=
    .cons key (.cons declare (.cons put (.nil _)))
  have run' : Storage.Hosts {} ([step {} key] ++ step s lookUp :: after s') (last s') :=
    .cons key (.cons lookUp (.cons declare (.cons put (.nil _))))
  have clear : ∀ x ∈ [step {} key] ++ after s, x.call.Clear x.storage := by
    have found : (s.host declare).2.recordAt? (lowercase "KEY") =
        some ⟨0, ⟨0, "Key", some 1⟩, [("kEY", ⟨1, "kEY", none⟩)]⟩ := by decide +kernel
    simp only [after, List.cons_append, List.nil_append, List.forall_mem_cons]
    refine ⟨trivial, trivial, ?_, by simp⟩
    intro r found' ambiguous
    cases found.symm.trans found'
    cases ambiguous.1
  obtain ⟨agree, -⟩ := lookUp_transparent .refl run clear run' (.getMember "KEY" .exact 0 _) rfl rfl
  refine ⟨clear, by decide +kernel, by decide +kernel, ?_⟩
  cases agree with
  | cons _ agree =>
    cases agree with
    | cons agree _ => exact agree

end Storage.Hosts

end ScopedExpr
