import Mathlib.Data.List.Forall2
import Mathlib.Tactic.Common
import ScopedExpr.Traversal.Transformer

/-!
# Calls of hooks

A transformer calls a hook on one item after another; each call starts where the one before has
ended. The calls either all give a result, or they stop at the first misuse.
-/

namespace ScopedExpr

variable {σ α β : Type}

/-! ### Outcomes -/

/-- The result and the state, or the misuse, and the forest at the end of a computation. -/
def TransformM.outcome (x : TransformM σ α) (st : σ) (f : Forest) :
    Except Misuse (α × σ) × Forest :=
  (x.run st).run.run f

namespace TransformM

variable {x : TransformM σ α} {next : α → TransformM σ β} {a : α} {st st' : σ} {f g : Forest}
  {misuse : Misuse}

lemma outcome_bind_of_ok (ends : x.outcome st f = (.ok (a, st'), g)) :
    (x >>= next : TransformM σ β).outcome st f = (next a).outcome st' g := by
  simp only [outcome, StateT.run_bind, ExceptT.run_bind, Build.run_bind] at ends ⊢
  rw [ends]

lemma outcome_bind_of_error (ends : x.outcome st f = (.error misuse, g)) :
    (x >>= next : TransformM σ β).outcome st f = (.error misuse, g) := by
  simp only [outcome, StateT.run_bind, ExceptT.run_bind, Build.run_bind] at ends ⊢
  rw [ends]
  rfl

lemma outcome_lift_of_ok {y : Rebuild α} (ends : y.run.run f = (.ok a, g)) :
    (liftM y : TransformM σ α).outcome st f = (.ok (a, st), g) := by
  have bound : (liftM y : TransformM σ α).outcome st f =
      (ExceptT.run (y >>= fun a => pure (a, st))).run f := rfl
  rw [bound, ExceptT.run_bind, Build.run_bind, ends]
  rfl

lemma outcome_lift_of_error {y : Rebuild α} (ends : y.run.run f = (.error misuse, g)) :
    (liftM y : TransformM σ α).outcome st f = (.error misuse, g) := by
  have bound : (liftM y : TransformM σ α).outcome st f =
      (ExceptT.run (y >>= fun a => pure (a, st))).run f := rfl
  rw [bound, ExceptT.run_bind, Build.run_bind, ends]
  rfl

lemma grows_outcome (x : TransformM σ α) (st : σ) (f : Forest) : f.Grows (x.outcome st f).2 :=
  (x.run st).run.grows f

/-- However a computation ends, the forest has grown. -/
lemma grows_of_outcome {result : Except Misuse (α × σ)} (ends : x.outcome st f = (result, g)) :
    f.Grows g := by
  have grows := x.grows_outcome st f
  rwa [ends] at grows

/-- Whether the computation never ends in a misuse. -/
def Quiet (x : TransformM σ α) : Prop := ∀ st f, ∃ a st' g, x.outcome st f = (.ok (a, st'), g)

end TransformM

/-! ### Calls -/

/-- Whether the hook, called on the items in order, gives the items of the second list. -/
inductive Calls (hook : α → TransformM σ β) :
    List α → σ → Forest → List β → σ → Forest → Prop where
  | nil (st : σ) (f : Forest) : Calls hook [] st f [] st f
  | cons {a : α} {b : β} {as : List α} {bs : List β} {st st' st'' : σ} {f f' f'' : Forest}
      (call : (hook a).outcome st f = (.ok (b, st'), f'))
      (calls : Calls hook as st' f' bs st'' f'') : Calls hook (a :: as) st f (b :: bs) st'' f''

/-- Whether the hook, called on the items in order, gives results at first and then a misuse. -/
inductive CallsFail (hook : α → TransformM σ β) :
    List α → σ → Forest → Misuse → Forest → Prop where
  | head {a : α} {as : List α} {st : σ} {f f' : Forest} {misuse : Misuse}
      (call : (hook a).outcome st f = (.error misuse, f')) : CallsFail hook (a :: as) st f misuse f'
  | tail {a : α} {b : β} {as : List α} {st st' : σ} {f f' f'' : Forest} {misuse : Misuse}
      (call : (hook a).outcome st f = (.ok (b, st'), f'))
      (fail : CallsFail hook as st' f' misuse f'') : CallsFail hook (a :: as) st f misuse f''

/-- Whether the hook, called on the items in order, comes to be called on `a` in this state. -/
inductive CalledOn (hook : α → TransformM σ β) :
    List α → σ → Forest → α → σ → Forest → Prop where
  | head (a : α) (as : List α) (st : σ) (f : Forest) : CalledOn hook (a :: as) st f a st f
  | tail {a c : α} {b : β} {as : List α} {st st' st'' : σ} {f f' f'' : Forest}
      (call : (hook a).outcome st f = (.ok (b, st'), f'))
      (called : CalledOn hook as st' f' c st'' f'') : CalledOn hook (a :: as) st f c st'' f''

variable {hook : α → TransformM σ β} {a : α} {as : List α} {bs : List β} {st st' : σ}
  {f f' g : Forest} {misuse : Misuse}

/-- The calls either all give a result or stop at a misuse. -/
lemma calls_or_fail (hook : α → TransformM σ β) (as : List α) (st : σ) (f : Forest) :
    (∃ bs st' g, Calls hook as st f bs st' g) ∨ ∃ misuse g, CallsFail hook as st f misuse g := by
  induction as generalizing st f with
  | nil => exact .inl ⟨_, _, _, .nil st f⟩
  | cons a as ih =>
    rcases call : (hook a).outcome st f with ⟨misuse | ⟨b, st'⟩, f'⟩
    · exact .inr ⟨_, _, .head call⟩
    · rcases ih st' f' with ⟨bs, st'', g, calls⟩ | ⟨misuse, g, fail⟩
      · exact .inl ⟨_, _, _, .cons call calls⟩
      · exact .inr ⟨_, _, .tail call fail⟩

namespace Calls

lemma length_eq (calls : Calls hook as st f bs st' g) : bs.length = as.length := by
  induction calls with
  | nil => rfl
  | cons _ _ ih => rw [List.length_cons, List.length_cons, ih]

/-- To map a list is to make the calls in order. -/
lemma outcome_mapM (calls : Calls hook as st f bs st' g) :
    (as.mapM hook : TransformM σ (List β)).outcome st f = (.ok (bs, st'), g) := by
  induction calls with
  | nil st f => rfl
  | cons call _ ih =>
    rw [List.mapM_cons, TransformM.outcome_bind_of_ok call, TransformM.outcome_bind_of_ok ih]
    rfl

lemma grows (calls : Calls hook as st f bs st' g) : f.Grows g :=
  TransformM.grows_of_outcome calls.outcome_mapM

/-- The items, the state and the forest at the start decide about everything else. -/
lemma unique {cs : List β} {st'' : σ} {h : Forest} (calls : Calls hook as st f bs st' g)
    (calls' : Calls hook as st f cs st'' h) : bs = cs ∧ st' = st'' ∧ g = h := by
  have same := calls.outcome_mapM.symm.trans calls'.outcome_mapM
  simp only [Prod.mk.injEq, Except.ok.injEq] at same
  exact ⟨same.1.1, same.1.2, same.2⟩

/-- Each of the calls gives a result. -/
lemma outcome_of_calledOn (calls : Calls hook as st f bs st' g) {st₁ : σ} {f₁ : Forest}
    (called : CalledOn hook as st f a st₁ f₁) :
    ∃ b st₂ f₂, (hook a).outcome st₁ f₁ = (.ok (b, st₂), f₂) := by
  induction calls with
  | nil => cases called
  | cons call _ ih =>
    cases called with
    | head => exact ⟨_, _, _, call⟩
    | tail call' called =>
      cases call.symm.trans call'
      exact ih called

/-- Each of the results is given by a call, from which the calls go on. -/
lemma exists_of_mem {b : β} (calls : Calls hook as st f bs st' g) (mem : b ∈ bs) :
    ∃ a st₁ f₁ st₂ f₂, CalledOn hook as st f a st₁ f₁ ∧
      (hook a).outcome st₁ f₁ = (.ok (b, st₂), f₂) ∧ f₂.Grows g := by
  induction calls with
  | nil => cases mem
  | cons call calls ih =>
    rcases List.mem_cons.mp mem with rfl | mem
    · exact ⟨_, _, _, _, _, .head _ _ _ _, call, calls.grows⟩
    · obtain ⟨a, st₁, f₁, st₂, f₂, called, gives, grows⟩ := ih mem
      exact ⟨a, st₁, f₁, st₂, f₂, .tail call called, gives, grows⟩

/-- The items are related to the results one by one if each call relates them. -/
lemma forall₂_iff {R : α → β → Prop} (calls : Calls hook as st f bs st' g) :
    List.Forall₂ R as bs ↔ ∀ a st₁ f₁ b st₂ f₂, CalledOn hook as st f a st₁ f₁ →
      (hook a).outcome st₁ f₁ = (.ok (b, st₂), f₂) → R a b := by
  induction calls with
  | nil =>
    refine iff_of_true .nil ?_
    intro a st₁ f₁ b st₂ f₂ called
    cases called
  | cons call _ ih =>
    rw [List.forall₂_cons, ih]
    constructor
    · rintro ⟨head, tail⟩ a st₁ f₁ b st₂ f₂ called gives
      cases called with
      | head =>
        cases call.symm.trans gives
        exact head
      | tail call' called =>
        cases call.symm.trans call'
        exact tail _ _ _ _ _ _ called gives
    · intro each
      refine ⟨each _ _ _ _ _ _ (.head _ _ _ _) call, ?_⟩
      intro a st₁ f₁ b st₂ f₂ called gives
      exact each _ _ _ _ _ _ (.tail call called) gives

end Calls

namespace CalledOn

variable {st₁ : σ} {f₁ : Forest}

lemma mem (called : CalledOn hook as st f a st₁ f₁) : a ∈ as := by
  induction called with
  | head => exact List.mem_cons_self
  | tail _ _ ih => exact List.mem_cons_of_mem _ ih

lemma grows (called : CalledOn hook as st f a st₁ f₁) : f.Grows f₁ := by
  induction called with
  | head => exact .refl _
  | tail call _ ih => exact (TransformM.grows_of_outcome call).trans ih

end CalledOn

/-- Calls that fail do so at the call on one of the items. -/
lemma CallsFail.exists_calledOn (fail : CallsFail hook as st f misuse g) :
    ∃ a st₁ f₁, CalledOn hook as st f a st₁ f₁ ∧
      (hook a).outcome st₁ f₁ = (.error misuse, g) := by
  induction fail with
  | head call => exact ⟨_, _, _, .head _ _ _ _, call⟩
  | tail call _ ih =>
    obtain ⟨a, st₁, f₁, called, fails⟩ := ih
    exact ⟨a, st₁, f₁, .tail call called, fails⟩

/-- The misuse of one call is that of the whole list. -/
lemma CallsFail.outcome_mapM (fail : CallsFail hook as st f misuse g) :
    (as.mapM hook : TransformM σ (List β)).outcome st f = (.error misuse, g) := by
  induction fail with
  | head call => rw [List.mapM_cons, TransformM.outcome_bind_of_error call]
  | tail call _ ih =>
    rw [List.mapM_cons, TransformM.outcome_bind_of_ok call, TransformM.outcome_bind_of_error ih]

/-- Calls of a hook that never ends in a misuse give their results. -/
lemma calls_of_quiet (quiet : ∀ a ∈ as, (hook a).Quiet) (st : σ) (f : Forest) :
    ∃ bs st' g, Calls hook as st f bs st' g := by
  induction as generalizing st f with
  | nil => exact ⟨_, _, _, .nil st f⟩
  | cons a as ih =>
    obtain ⟨quiet_a, quiet_as⟩ := List.forall_mem_cons.mp quiet
    obtain ⟨b, st', f', call⟩ := quiet_a st f
    obtain ⟨bs, st'', g, calls⟩ := ih quiet_as st' f'
    exact ⟨_, _, _, .cons call calls⟩

end ScopedExpr
