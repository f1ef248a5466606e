import Mathlib.Data.Nat.Find
import ScopedExpr.Proofs.Forest.Contents
import ScopedExpr.Proofs.Forest.WellFormed

/-!
# Refusals

A factory of blocks goes through its arguments and stops at the first fault: at a variable that no
scope may declare, else at a child without a value, else for want of a child. So it refuses just the
lists that have a fault, for the first one in this order, and makes a block of all others.
-/

namespace ScopedExpr

variable {α : Type}

/-! ### First faults -/

/-- Whether the refusal is for the least place at which there is something bad. -/
def First (bad : Nat → InvalidArgument → Prop) (refusal : InvalidArgument) : Prop :=
  ∃ i, bad i refusal ∧ ∀ j < i, ∀ refusal', ¬ bad j refusal'

/-- Whether the variable at the place may not stand behind those in front of it, and why. -/
inductive BadVariable (ps : List Param) (i : Nat) : InvalidArgument → Prop where
  | byRef {p : Param} (here : ps[i]? = some p) (byRef : p.byRef = true) :
      BadVariable ps i (.byRefVariable i p.displayName)
  | duplicate {p q : Param} {j : Nat} (here : ps[i]? = some p) (byValue : p.byRef = false)
      (before : j < i) (there : ps[j]? = some q) (same : q.same p = true) :
      BadVariable ps i (.duplicateVariable i p.displayName)

inductive BadChild (argument : Argument) (es : List Expr) (i : Nat) : InvalidArgument → Prop where
  | placeholder {h : Placeholder} (here : es[i]? = some (.leaf (.placeholder h))) :
      BadChild argument es i (.unreadable argument i .placeholder)

/--
Whether the refusal is for the first fault: variables come first, then children, then their lack.
-/
inductive FirstFault (argument : Argument) (ps : List Param) (es : List Expr) :
    InvalidArgument → Prop where
  | variable {refusal : InvalidArgument} (first : First (BadVariable ps) refusal) :
      FirstFault argument ps es refusal
  | child {refusal : InvalidArgument} (declarable : ∀ i refusal', ¬ BadVariable ps i refusal')
      (first : First (BadChild argument es) refusal) : FirstFault argument ps es refusal
  | empty (declarable : ∀ i refusal', ¬ BadVariable ps i refusal') (empty : es = []) :
      FirstFault argument ps es (.emptySequence argument)

/-- If there is anything bad, there is a first place of it. -/
lemma exists_first {bad : Nat → InvalidArgument → Prop} {i : Nat} {refusal : InvalidArgument}
    (found : bad i refusal) : ∃ refusal', First bad refusal' := by
  classical
  have some_bad : ∃ i refusal, bad i refusal := ⟨i, refusal, found⟩
  obtain ⟨refusal', first⟩ := Nat.find_spec some_bad
  refine ⟨refusal', Nat.find some_bad, first, fun j lt refusal'' bad_j => ?_⟩
  exact Nat.find_min some_bad lt ⟨refusal'', bad_j⟩

/-! ### Checks -/

/--
A check that goes through a list refuses the first bad item, if at each item it either goes on, as
the item is not bad, or stops with what is bad about it.
-/
lemma error_iff_first (check : List α → List α → Except InvalidArgument Unit)
    (bad : List α → Nat → InvalidArgument → Prop) (done : ∀ before, check before [] = .ok ())
    (within : ∀ as i refusal, bad as i refusal → i < as.length)
    (step : ∀ before a after,
      (check before (a :: after) = check (before ++ [a]) after ∧
        ∀ refusal, ¬ bad (before ++ a :: after) before.length refusal) ∨
      ∃ refusal, check before (a :: after) = .error refusal ∧
        ∀ refusal', bad (before ++ a :: after) before.length refusal' ↔ refusal' = refusal)
    (before after : List α) (refusal : InvalidArgument)
    (clean : ∀ j < before.length, ∀ refusal', ¬ bad (before ++ after) j refusal') :
    check before after = .error refusal ↔ First (bad (before ++ after)) refusal := by
  induction after generalizing before with
  | nil =>
    rw [done]
    refine iff_of_false (by simp) ?_
    rintro ⟨i, bad_i, -⟩
    have lt := within _ _ _ bad_i
    rw [List.append_nil] at lt bad_i
    exact clean i lt refusal (by rwa [List.append_nil])
  | cons a after ih =>
    rcases step before a after with ⟨goes_on, good⟩ | ⟨refusal', stops, bad_iff⟩
    · -- The item is clean as well, so it joins those that have been passed.
      rw [goes_on, ih, List.append_assoc, List.singleton_append]
      intro j lt refusal'
      rw [List.append_assoc, List.singleton_append]
      rw [List.length_append, List.length_singleton] at lt
      rcases Nat.lt_succ_iff_lt_or_eq.mp lt with lt | rfl
      · exact clean j lt refusal'
      · exact good refusal'
    · rw [stops, Except.error.injEq]
      constructor
      · rintro rfl
        exact ⟨before.length, (bad_iff _).mpr rfl, clean⟩
      · rintro ⟨i, bad_i, least⟩
        have not_lt : ¬ i < before.length := fun lt => clean i lt refusal bad_i
        have not_gt : ¬ before.length < i := fun gt => least _ gt refusal' ((bad_iff _).mpr rfl)
        obtain rfl : i = before.length := by omega
        exact ((bad_iff refusal).mp bad_i).symm

/-- A check that refuses the first bad item lets pass the lists without any. -/
lemma ok_iff_of_error_iff (check : Except InvalidArgument Unit)
    {bad : Nat → InvalidArgument → Prop}
    (error_iff : ∀ refusal, check = .error refusal ↔ First bad refusal) :
    check = .ok () ↔ ∀ i refusal, ¬ bad i refusal := by
  rcases ended : check with refusal | ⟨⟨⟩⟩
  · obtain ⟨i, bad_i, -⟩ := (error_iff refusal).mp ended
    exact iff_of_false (by simp) fun none => none i refusal bad_i
  · refine iff_of_true rfl fun i refusal bad_i => ?_
    obtain ⟨refusal', first⟩ := exists_first bad_i
    cases ended.symm.trans ((error_iff refusal').mpr first)

section Children

variable {argument : Argument} {es : List Expr} {refusal : InvalidArgument}

/-- Only placeholders are without a value. -/
lemma Expr.canRead_eq_false_iff {e : Expr} :
    e.canRead = false ↔ ∃ h, e = .leaf (.placeholder h) := by
  rcases e with (_ | _ | h) | _ <;> simp [canRead, Leaf.canRead]

/-- Whether a child behind others is bad does not depend on those others. -/
lemma badChild_iff {before after : List Expr} {e : Expr} :
    BadChild argument (before ++ e :: after) before.length refusal ↔
      e.canRead = false ∧ refusal = .unreadable argument before.length .placeholder := by
  rw [Expr.canRead_eq_false_iff]
  constructor
  · rintro ⟨here⟩
    exact ⟨⟨_, by simpa using here⟩, rfl⟩
  · rintro ⟨⟨h, rfl⟩, rfl⟩
    exact .placeholder (h := h) (by simp)

/-- The children are refused for the first placeholder among them. -/
lemma checkReadable_eq_error :
    checkReadable argument 0 es = .error refusal ↔ First (BadChild argument es) refusal := by
  refine error_iff_first (fun before after => checkReadable argument before.length after)
    (BadChild argument) (fun _ => rfl) ?_ ?_ [] es refusal (by simp)
  · rintro as i _ ⟨here⟩
    exact (List.getElem?_eq_some_iff.mp here).1
  · intro before e after
    cases read : e.canRead with
    | true =>
      refine .inl ⟨by simp [checkReadable, read], fun refusal => ?_⟩
      simp [badChild_iff, read]
    | false =>
      obtain ⟨h, rfl⟩ := Expr.canRead_eq_false_iff.mp read
      refine .inr ⟨.unreadable argument before.length .placeholder, ?_, fun refusal => ?_⟩
      · simp [checkReadable, read, Expr.kind, Expr.identity]
      · simp [badChild_iff, read]

end Children

section Variables

variable {ps : List Param} {refusal : InvalidArgument}

/-- A variable behind others is bad by itself or because it is one of those others. -/
lemma badVariable_iff {before after : List Param} {p : Param} :
    BadVariable (before ++ p :: after) before.length refusal ↔
      p.byRef = true ∧ refusal = .byRefVariable before.length p.displayName ∨
      p.byRef = false ∧ before.any (·.same p) = true ∧
        refusal = .duplicateVariable before.length p.displayName := by
  constructor
  · rintro (⟨here, byRef⟩ | ⟨here, byValue, lt, there, same⟩)
    · obtain rfl : p = _ := by simpa using here
      exact .inl ⟨byRef, rfl⟩
    · obtain rfl : p = _ := by simpa using here
      rw [List.getElem?_append_left lt] at there
      exact .inr ⟨byValue, List.any_eq_true.mpr ⟨_, List.mem_of_getElem? there, same⟩, rfl⟩
  · rintro (⟨byRef, rfl⟩ | ⟨byValue, known, rfl⟩)
    · exact .byRef (by simp) byRef
    · obtain ⟨q, mem, same⟩ := List.any_eq_true.mp known
      obtain ⟨j, there⟩ := List.mem_iff_getElem?.mp mem
      have lt := (List.getElem?_eq_some_iff.mp there).1
      exact .duplicate (by simp) byValue lt (by rwa [List.getElem?_append_left lt]) same

/-- The variables are refused for the first one by reference or declared before. -/
lemma checkVariables_eq_error :
    checkVariables [] 0 ps = .error refusal ↔ First (BadVariable ps) refusal := by
  -- What has been seen is what stands in front, the last one first.
  refine error_iff_first (fun before after => checkVariables before.reverse before.length after)
    BadVariable (fun _ => rfl) ?_ ?_ [] ps refusal (by simp)
  · rintro as i _ (⟨here, -⟩ | ⟨here, -⟩) <;> exact (List.getElem?_eq_some_iff.mp here).1
  · intro before p after
    cases byRef : p.byRef with
    | true =>
      refine .inr ⟨.byRefVariable before.length p.displayName, ?_, fun refusal => ?_⟩
      · simp [checkVariables, byRef]
      · simp [badVariable_iff, byRef]
    | false =>
      cases known : before.any (·.same p) with
      | true =>
        refine .inr ⟨.duplicateVariable before.length p.displayName, ?_, fun refusal => ?_⟩
        · simp only [checkVariables, byRef, List.any_reverse, known]
          simp
        · simp [badVariable_iff, byRef, known]
      | false =>
        refine .inl ⟨?_, fun refusal => ?_⟩
        · simp only [checkVariables, byRef, List.any_reverse, known]
          simp
        · simp only [badVariable_iff, byRef, known]
          simp

end Variables

/-! ### Factories -/

/--
Whether the factory refuses these variables and children exactly for their first fault, leaving the
forest alone, and gives a block of them exactly if they have none.
-/
structure Checks (x : Factory Expr) (argument : Argument) (ps : List Param) (es : List Expr) :
    Prop where
  refuses : ∀ f refusal,
    x.run.run f = (.error refusal, f) ↔ FirstFault argument ps es refusal
  accepts : ∀ f, (∃ e g, x.run.run f = (.ok e, g)) ↔ ∀ refusal, ¬ FirstFault argument ps es refusal
  makes : ∀ f e g, x.run.run f = (.ok e, g) → ∃ b, e = .block b ∧ b.id = f.next ∧ b.Shows ps es

/--
Whether the factory checks these children, and does as the factory for any number of them does: on
whatever forests they run, they make blocks of one layout, or refuse a child at the same place and
of the same kind.
-/
structure ChecksAsBlock (x : Factory Expr) (es : List Expr) : Prop where
  checks : Checks x .args [] es
  agrees : ∀ f g,
    (∃ layout f' g', x.run.run f = (.ok (.block ⟨f.next, layout⟩), f') ∧
      (Build.block es).run.run g = (.ok (.block ⟨g.next, layout⟩), g')) ∨
    ∃ i kind, x.run.run f = (.error (.unreadable .args i kind), f) ∧
      (Build.block es).run.run g = (.error (.unreadable .expressions i kind), g)

section Factories

variable {argument argument' : Argument} {ps : List Param} {es : List Expr} {layout : Layout Expr}
  {refusal : InvalidArgument} {x : Factory Expr}

def checkParts (argument : Argument) (ps : List Param) (es : List Expr) :
    Except InvalidArgument Unit := do
  checkVariables [] 0 ps
  checkReadable argument 0 es
  if es.isEmpty then throw (.emptySequence argument)

/-- The checks end in an error for the first fault, and only then. -/
lemma checkParts_eq_error :
    checkParts argument ps es = .error refusal ↔ FirstFault argument ps es refusal := by
  have declarable_iff := ok_iff_of_error_iff (checkVariables [] 0 ps)
    fun _ => checkVariables_eq_error
  have readable_iff := ok_iff_of_error_iff (checkReadable argument 0 es)
    fun _ => checkReadable_eq_error
  rw [checkParts]
  rcases declared : checkVariables [] 0 ps with refusal' | ⟨⟨⟩⟩
  · change Except.error refusal' = _ ↔ _
    obtain ⟨i, bad, -⟩ := checkVariables_eq_error.mp declared
    rw [← declared, checkVariables_eq_error]
    refine ⟨.variable, ?_⟩
    rintro (first | ⟨declarable, -⟩ | ⟨declarable, -⟩)
    · exact first
    · exact absurd bad (declarable i _)
    · exact absurd bad (declarable i _)
  · have declarable := declarable_iff.mp declared
    rcases read : checkReadable argument 0 es with refusal' | ⟨⟨⟩⟩
    · change Except.error refusal' = _ ↔ _
      obtain ⟨i, bad, -⟩ := checkReadable_eq_error.mp read
      rw [← read, checkReadable_eq_error]
      refine ⟨.child declarable, ?_⟩
      rintro (⟨i, bad, -⟩ | ⟨-, first⟩ | ⟨-, rfl⟩)
      · exact absurd bad (declarable i _)
      · exact first
      · cases read
    · have readable := readable_iff.mp read
      cases es with
      | nil =>
        refine ⟨fun ended => ?_, ?_⟩
        · cases ended
          exact .empty declarable rfl
        · rintro (⟨i, bad, -⟩ | ⟨-, i, bad, -⟩ | -)
          · exact absurd bad (declarable i _)
          · exact absurd bad (readable i _)
          · rfl
      | cons e es =>
        refine iff_of_false (fun ended => by cases ended) ?_
        rintro (⟨i, bad, -⟩ | ⟨-, i, bad, -⟩ | ⟨-, ⟨⟩⟩)
        · exact declarable i _ bad
        · exact readable i _ bad

/-- Of the answers of a factory nothing is left to show but when it refuses. -/
lemma checks_of_refuses (next : GivesNext x)
    (given : ∀ e, Gives x e → ∃ b, e = .block b ∧ b.BuiltWith ps es)
    (refuses : ∀ f refusal, x.run.run f = (.error refusal, f) ↔
      checkParts argument ps es = .error refusal) : Checks x argument ps es where
  refuses f refusal := (refuses f refusal).trans checkParts_eq_error
  accepts f := by
    simp only [← checkParts_eq_error, ← refuses f]
    rcases next f with ⟨refusal, ends⟩ | ⟨layout, ends⟩ <;> simp [ends]
  makes f e g ends := by
    obtain ⟨b, rfl, built⟩ := given e ⟨f, congrArg Prod.fst ends⟩
    refine ⟨b, rfl, ?_, built.shows⟩
    rcases next f with ⟨refusal, ends'⟩ | ⟨layout, ends'⟩ <;> cases ends.symm.trans ends'
    rfl

lemma stops_iff {refusal' : InvalidArgument} {f : Forest} :
    ((Except.error refusal' : Except InvalidArgument Expr), f) = (.error refusal, f) ↔
      (Except.error refusal' : Except InvalidArgument Unit) = .error refusal := by
  simp

lemma passes_iff {e : Expr} {f g : Forest} :
    ((Except.ok e : Except InvalidArgument Expr), g) = (.error refusal, f) ↔
      (Except.ok () : Except InvalidArgument Unit) = .error refusal := by
  simp

/-- The factory of scopes goes through the variables, and then through the children. -/
lemma checks_scope (declared : ps ≠ []) : Checks (Build.scope ps es) .body ps es := by
  refine checks_of_refuses (.scope ps es) (fun _ => scope_gives) fun f refusal => ?_
  unfold Build.scope checkParts
  rw [if_neg (by simpa using declared)]
  rcases checkVariables [] 0 ps with _ | ⟨⟨⟩⟩
  · exact stops_iff
  · rcases checkReadable .body 0 es with _ | ⟨⟨⟩⟩
    · exact stops_iff
    · cases es with
      | nil => exact stops_iff
      | cons e es => exact passes_iff

/-- The factory of blocks goes through the children only. -/
lemma checks_block (es : List Expr) : Checks (Build.block es) .expressions [] es := by
  refine checks_of_refuses (.block es) (fun _ => block_gives) fun f refusal => ?_
  unfold Build.block checkParts
  rcases checkReadable .expressions 0 es with _ | ⟨⟨⟩⟩
  · exact stops_iff
  · cases es with
    | nil => exact stops_iff
    | cons e es => exact passes_iff

/-- The name of the argument has no part in what is bad. -/
lemma First.renamed (argument' : Argument) (first : First (BadChild argument es) refusal) :
    ∃ i kind, refusal = .unreadable argument i kind ∧
      First (BadChild argument' es) (.unreadable argument' i kind) := by
  obtain ⟨i, ⟨here⟩, least⟩ := first
  refine ⟨i, .placeholder, rfl, i, ⟨here⟩, ?_⟩
  rintro j lt _ ⟨here'⟩
  exact least j lt _ ⟨here'⟩

/-- A factory of fixed size does as the factory for any number of children does. -/
lemma checksAsBlock_fixed (first : Expr) (rest : List Expr) :
    ChecksAsBlock (Build.fixed (.ofPlain first rest)) (first :: rest) where
  checks := by
    refine checks_of_refuses (.fixed _) (fun _ given => ?_) fun f refusal => ?_
    · have built := fixed_gives given (Layout.fits_ofPlain first rest)
        (Layout.declarations_ofPlain first rest)
      rwa [Layout.expressions_ofPlain] at built
    · unfold Build.fixed checkParts
      rw [Layout.expressions_ofPlain]
      rcases checkReadable .args 0 (first :: rest) with _ | ⟨⟨⟩⟩
      · exact stops_iff
      · exact passes_iff
  agrees f g := by
    unfold Build.fixed Build.block
    rw [Layout.expressions_ofPlain]
    rcases read : checkReadable .args 0 (first :: rest) with refusal | ⟨⟨⟩⟩
    · obtain ⟨i, kind, rfl, first⟩ := (checkReadable_eq_error.mp read).renamed .expressions
      rw [checkReadable_eq_error.mpr first]
      exact .inr ⟨i, kind, rfl, rfl⟩
    · rw [checkReadable_eq_ok] at read
      rw [checkReadable_eq_ok.mpr read]
      exact .inl ⟨_, _, _, rfl, rfl⟩

end Factories

/--
The factory of scopes refuses variables and children for their first fault and gives a block of all
others. Without variables it is the factory of blocks, which goes through the children in the same
way but gives the argument another name. So do the factories of fixed sizes, which make the same
blocks.
-/
theorem Build.refuses_first_fault :
    (∀ ps es, ps ≠ [] → Checks (Build.scope ps es) .body ps es) ∧
    (∀ es, Build.scope [] es = Build.block es ∧ Checks (Build.block es) .expressions [] es) ∧
    (∀ x y, ChecksAsBlock (Build.block2 x y) [x, y]) ∧
    (∀ x y z, ChecksAsBlock (Build.block3 x y z) [x, y, z]) ∧
    (∀ x y z v, ChecksAsBlock (Build.block4 x y z v) [x, y, z, v]) ∧
    (∀ x y z v w, ChecksAsBlock (Build.block5 x y z v w) [x, y, z, v, w]) := by
  refine ⟨fun ps es declared => checks_scope declared, fun es => ⟨rfl, checks_block es⟩, ?_⟩
  refine ⟨?_, ?_, ?_, ?_⟩
  · exact fun x y => checksAsBlock_fixed x [y]
  · exact fun x y z => checksAsBlock_fixed x [y, z]
  · exact fun x y z v => checksAsBlock_fixed x [y, z, v]
  · exact fun x y z v w => checksAsBlock_fixed x [y, z, v, w]

/--
The second variable has the name of the first one but is another; the third is the first one again.
It is refused before the variable by reference and the placeholder.
-/
theorem Build.refuses_first_fault_again :
    let x : Param := ⟨0, some "x", .int, false⟩
    let x' : Param := ⟨1, some "x", .int, false⟩
    let r : Param := ⟨2, some "r", .int, true⟩
    let hole : Expr := .leaf (.placeholder ⟨3, .int⟩)
    let refusal : InvalidArgument := .duplicateVariable 2 "x"
    [x, x', x, r] ≠ [] ∧ FirstFault .body [x, x', x, r] [hole] refusal ∧
      ∀ f, (Build.scope [x, x', x, r] [hole]).run.run f = (.error refusal, f) := by
  intro x x' r hole refusal
  have declared : [x, x', x, r] ≠ [] := List.cons_ne_nil _ _
  have checks := Build.refuses_first_fault.1 [x, x', x, r] [hole] declared
  have fault : FirstFault .body [x, x', x, r] [hole] refusal := by
    exact (checks.refuses {} refusal).mp rfl
  exact ⟨declared, fault, fun f => (checks.refuses f refusal).mpr fault⟩

end ScopedExpr
