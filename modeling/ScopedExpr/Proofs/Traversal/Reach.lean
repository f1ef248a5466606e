import ScopedExpr.Proofs.Forest.Held
import ScopedExpr.Proofs.Traversal.WalkBlock

/-!
# Positions that a transformation reaches

A transformation by rules goes through the whole tree and calls nothing but the rule for leaves and
the rule for declarations. Here it is said to which positions it comes, in which state, and which
calls it makes at a position or below.
-/

namespace ScopedExpr

variable {σ : Type}

abbrev Rules.transform (rules : Rules σ) : Expr → TransformM σ Expr := rules.transformer.transform

namespace Rules

/-! ### Positions -/

/-- Whether the transformation of an expression comes to a node of it, in this state and forest. -/
inductive Reaches (rules : Rules σ) : Expr → σ → Forest → Expr → σ → Forest → Prop where
  | here (e : Expr) (st : σ) (f : Forest) : Reaches rules e st f e st f
  | child {b : Block Expr} {e x : Expr} {ps : List Param} {st st₁ st₂ st₃ : σ}
      {f f₁ f₂ f₃ : Forest} (declarations : Calls rules.declaration b.declarations st f ps st₁ f₁)
      (called : CalledOn rules.transform b.expressions st₁ f₁ e st₂ f₂)
      (reaches : Reaches rules e st₂ f₂ x st₃ f₃) : Reaches rules (.block b) st f x st₃ f₃

variable {rules : Rules σ} {e e' x : Expr} {b : Block Expr} {l : Leaf} {p q : Param}
  {ps : List Param} {args : List Expr} {st st' st₁ st₂ : σ} {f f₁ f₂ g : Forest} {misuse : Misuse}

namespace Reaches

lemma has (reaches : rules.Reaches e st f x st₁ f₁) : e.Has x := by
  induction reaches with
  | here e => exact e.has_self
  | child _ called _ ih => exact Expr.has_of_child called.mem ih

lemma grows (reaches : rules.Reaches e st f x st₁ f₁) : f.Grows f₁ := by
  induction reaches with
  | here => exact .refl _
  | child declarations called _ ih => exact (declarations.grows.trans called.grows).trans ih

lemma held (reaches : rules.Reaches e st f x st₁ f₁) (held : f.Holds e) : f₁.Holds x := by
  induction reaches with
  | here => exact held
  | child declarations called _ ih =>
    exact ih ((held.child called.mem).mono (declarations.grows.trans called.grows))

end Reaches

/-! ### One step of a transformation -/

lemma transform_leaf (rules : Rules σ) (l : Leaf) : rules.transform (.leaf l) = rules.leaf l :=
  rules.transformer.transform_eq (.leaf l)

lemma transform_block (rules : Rules σ) (b : Block Expr) :
    rules.transform (.block b) =
      rules.transformer.walkBlock b (b.expressions.map fun e _ => rules.transform e) :=
  rules.transformer.transform_eq (.block b)

/-- A block that is transformed has had all its declarations and children transformed. -/
lemma transform_block_ok (given : (rules.transform (.block b)).outcome st f = (.ok (e', st'), g)) :
    ∃ ps args st₁ f₁ f₂ b', Calls rules.declaration b.declarations st f ps st₁ f₁ ∧
      Calls rules.transform b.expressions st₁ f₁ args st' f₂ ∧ e' = .block b' ∧
      b.Becomes ps args f₂ b' g := by
  rw [transform_block] at given
  obtain ⟨ps, args, f₂, b', ⟨declarations, expressions⟩, eq, becomes⟩ :=
    Transformer.walkBlock_ok given
  exact ⟨ps, args, _, _, f₂, b', declarations, expressions, eq, becomes⟩

/-! ### Calls -/

/-- Whether the rule for leaves is called on `l` at the expression or below, and gives `answer`. -/
inductive LeafCall (rules : Rules σ) (e : Expr) (st : σ) (f : Forest) (l : Leaf) (answer : Expr) :
    Prop where
  | intro {st₁ st₂ : σ} {f₁ f₂ : Forest} (reaches : rules.Reaches e st f (.leaf l) st₁ f₁)
      (call : (rules.leaf l).outcome st₁ f₁ = (.ok (answer, st₂), f₂))

/-- Whether the rule for declarations is called on `p` at the expression or below, and gives `q`. -/
inductive DeclarationCall (rules : Rules σ) (e : Expr) (st : σ) (f : Forest) (p q : Param) :
    Prop where
  | intro {b : Block Expr} {st₁ st₂ st₃ : σ} {f₁ f₂ f₃ : Forest}
      (reaches : rules.Reaches e st f (.block b) st₁ f₁)
      (called : CalledOn rules.declaration b.declarations st₁ f₁ p st₂ f₂)
      (call : (rules.declaration p).outcome st₂ f₂ = (.ok (q, st₃), f₃))

/-- Whether a call at the expression or below ends in a misuse. -/
inductive CallFails (rules : Rules σ) (e : Expr) (st : σ) (f : Forest) (misuse : Misuse)
    (g : Forest) : Prop where
  | leaf {l : Leaf} {st₁ : σ} {f₁ : Forest} (reaches : rules.Reaches e st f (.leaf l) st₁ f₁)
      (call : (rules.leaf l).outcome st₁ f₁ = (.error misuse, g))
  | declaration {b : Block Expr} {st₁ : σ} {f₁ : Forest}
      (reaches : rules.Reaches e st f (.block b) st₁ f₁)
      (fail : CallsFail rules.declaration b.declarations st₁ f₁ misuse g)

section Below

variable (declarations : Calls rules.declaration b.declarations st f ps st₁ f₁)
  (called : CalledOn rules.transform b.expressions st₁ f₁ e st₂ f₂)

include declarations called

/-- A call at a child, or below it, is one below the block. -/
lemma LeafCall.of_child {answer : Expr} (call : rules.LeafCall e st₂ f₂ l answer) :
    rules.LeafCall (.block b) st f l answer := by
  obtain ⟨reaches, call⟩ := call
  exact ⟨.child declarations called reaches, call⟩

lemma DeclarationCall.of_child (call : rules.DeclarationCall e st₂ f₂ p q) :
    rules.DeclarationCall (.block b) st f p q := by
  obtain ⟨reaches, on, call⟩ := call
  exact ⟨.child declarations called reaches, on, call⟩

lemma CallFails.of_child (fails : rules.CallFails e st₂ f₂ misuse g) :
    rules.CallFails (.block b) st f misuse g := by
  cases fails with
  | leaf reaches call => exact .leaf (.child declarations called reaches) call
  | declaration reaches fail => exact .declaration (.child declarations called reaches) fail

end Below

/-- A transformation ends in a misuse only where a call does. -/
lemma callFails_of_error (ends : (rules.transform e).outcome st f = (.error misuse, g)) :
    rules.CallFails e st f misuse g := by
  induction e using Expr.inductionOn generalizing st f with
  | leaf l =>
    rw [transform_leaf] at ends
    exact .leaf (.here _ _ _) ends
  | block b ih =>
    rw [transform_block] at ends
    rcases rules.transformer.hooks_fail_or_give rules.transform b st f with
      ⟨misuse', g', fail⟩ | ⟨ps, args, st', f', give⟩
    · cases ends.symm.trans fail.outcome_walkBlock
      cases fail with
      | declaration fail => exact .declaration (.here _ _ _) fail
      | expression declarations fail =>
        obtain ⟨e, st₂, f₂, called, fails⟩ := fail.exists_calledOn
        exact (ih e called.mem fails).of_child declarations called
    · -- With an answer for every item, the walk has a result.
      obtain ⟨b', g', outcome_eq, -⟩ := give.outcome_walkBlock
      cases ends.symm.trans outcome_eq

/-- Unless a call ends in a misuse, there is a result. -/
lemma outcome_of_calls (calls : ∀ misuse g, ¬ rules.CallFails e st f misuse g) :
    ∃ e' st' g, (rules.transform e).outcome st f = (.ok (e', st'), g) := by
  rcases ends : (rules.transform e).outcome st f with ⟨misuse | ⟨e', st'⟩, g⟩
  · exact absurd (callFails_of_error ends) (calls misuse g)
  · exact ⟨e', st', g, rfl⟩

end Rules

end ScopedExpr
