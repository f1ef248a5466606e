import ScopedExpr.Pass.Leaves
import ScopedExpr.Proofs.Traversal.Reach

/-!
# Sharing

A transformation by rules keeps a node exactly if every call at the node or below has given the very
item that it was called on. A block that is not kept gives way to a new one, which is no node of the
tree that is transformed. What counts is which node it is, not what is in it: an equal constant that
is made anew changes all blocks on the way up to the root, and none besides.
-/

namespace ScopedExpr

variable {σ : Type}

namespace Block

variable {b : Block Expr} {declarations : List Param} {args : List Expr}

lemma hasDeclarations_iff : b.hasDeclarations declarations = true ↔
    List.Forall₂ (fun p q => q.same p = true) b.declarations declarations := by
  rw [hasDeclarations, isEqv_iff_forall₂]
  exact ⟨.flip, .flip⟩

lemma hasExpressions_iff : b.hasExpressions args = true ↔
    List.Forall₂ (fun e arg => arg.same e = true) b.expressions args := by
  rw [hasExpressions, isEqv_iff_forall₂]
  exact ⟨.flip, .flip⟩

end Block

namespace Rules

/-- Whether all calls at the expression or below give the very items that they are made on. -/
structure Unchanged (rules : Rules σ) (e : Expr) (st : σ) (f : Forest) : Prop where
  leaf : ∀ l answer, rules.LeafCall e st f l answer → answer.same (.leaf l) = true
  declaration : ∀ p q, rules.DeclarationCall e st f p q → q.same p = true

variable {rules : Rules σ} {e e' : Expr} {b : Block Expr} {l : Leaf} {ps : List Param}
  {st st' st₁ : σ} {f f₁ g : Forest}

/-! ### What is unchanged -/

/-- At a leaf all is unchanged exactly if the leaf itself comes out. -/
lemma unchanged_leaf_iff (given : (rules.transform (.leaf l)).outcome st f = (.ok (e', st'), g)) :
    rules.Unchanged (.leaf l) st f ↔ e'.same (.leaf l) = true := by
  rw [transform_leaf] at given
  constructor
  · intro unchanged
    exact unchanged.leaf l e' ⟨.here _ _ _, given⟩
  · intro same
    constructor
    · rintro l' answer ⟨reaches, call⟩
      cases reaches
      cases given.symm.trans call
      exact same
    · rintro p q ⟨reaches, -, -⟩
      cases reaches

/-- At a block there are the calls on its declarations, and below it those at its children. -/
lemma unchanged_block_iff (declarations : Calls rules.declaration b.declarations st f ps st₁ f₁) :
    rules.Unchanged (.block b) st f ↔
      List.Forall₂ (fun p q => q.same p = true) b.declarations ps ∧
      ∀ e st₂ f₂, CalledOn rules.transform b.expressions st₁ f₁ e st₂ f₂ →
        rules.Unchanged e st₂ f₂ := by
  rw [declarations.forall₂_iff]
  constructor
  · intro unchanged
    constructor
    · intro p st₂ f₂ q st₃ f₃ called call
      exact unchanged.declaration p q ⟨.here _ _ _, called, call⟩
    · intro e st₂ f₂ called
      constructor
      · intro l answer call
        exact unchanged.leaf l answer (call.of_child declarations called)
      · intro p q call
        exact unchanged.declaration p q (call.of_child declarations called)
  · rintro ⟨here, below⟩
    constructor
    · rintro l answer ⟨reaches, call⟩
      cases reaches with
      | child declarations' called reaches =>
        obtain ⟨-, rfl, rfl⟩ := declarations.unique declarations'
        exact (below _ _ _ called).leaf l answer ⟨reaches, call⟩
    · rintro p q ⟨reaches, on, call⟩
      cases reaches with
      | here => exact here _ _ _ _ _ _ on call
      | child declarations' called reaches =>
        obtain ⟨-, rfl, rfl⟩ := declarations.unique declarations'
        exact (below _ _ _ called).declaration p q ⟨reaches, on, call⟩

/-! ### What is kept -/

/-- The children are the same ones if this goes for each of them where it is called on. -/
lemma hasExpressions_iff_unchanged {args : List Expr} {f₂ : Forest}
    (expressions : Calls rules.transform b.expressions st₁ f₁ args st' f₂)
    (kids : ∀ e st₂ f₂ e' st₃ f₃, CalledOn rules.transform b.expressions st₁ f₁ e st₂ f₂ →
      (rules.transform e).outcome st₂ f₂ = (.ok (e', st₃), f₃) →
      (e'.same e = true ↔ rules.Unchanged e st₂ f₂)) :
    b.hasExpressions args = true ↔
      ∀ e st₂ f₂, CalledOn rules.transform b.expressions st₁ f₁ e st₂ f₂ →
        rules.Unchanged e st₂ f₂ := by
  rw [Block.hasExpressions_iff, expressions.forall₂_iff]
  constructor
  · intro same e st₂ f₂ called
    obtain ⟨e', st₃, f₃, call⟩ := expressions.outcome_of_calledOn called
    exact (kids _ _ _ _ _ _ called call).mp (same _ _ _ _ _ _ called call)
  · intro unchanged e st₂ f₂ e' st₃ f₃ called call
    exact (kids _ _ _ _ _ _ called call).mpr (unchanged e st₂ f₂ called)

/-- A block stays if nothing in it has changed, and gives way to a new block otherwise. -/
lemma block_kept_or_new
    (kids : ∀ e ∈ b.expressions, ∀ {e' st st' f g}, f.Holds e →
      (rules.transform e).outcome st f = (.ok (e', st'), g) →
      (e'.same e = true ↔ rules.Unchanged e st f))
    (held : f.Holds (.block b))
    (given : (rules.transform (.block b)).outcome st f = (.ok (e', st'), g)) :
    rules.Unchanged (.block b) st f ∧ e' = .block b ∨
    ¬ rules.Unchanged (.block b) st f ∧
      ∃ b', e' = .block b' ∧ f.next ≤ b'.id ∧ b'.id < g.next := by
  obtain ⟨ps, args, st₁, f₁, f₂, b', declarations, expressions, rfl, becomes⟩ :=
    transform_block_ok given
  have unchanged_iff : rules.Unchanged (.block b) st f ↔
      b.hasDeclarations ps = true ∧ b.hasExpressions args = true := by
    rw [unchanged_block_iff declarations, Block.hasDeclarations_iff,
      hasExpressions_iff_unchanged expressions]
    intro e st₂ f₂ e' st₃ f₃ called call
    have grows := declarations.grows.trans called.grows
    exact kids e called.mem ((held.child called.mem).mono grows) call
  cases becomes with
  | kept declared expressed => exact .inl ⟨unchanged_iff.mpr ⟨declared, expressed⟩, rfl⟩
  | rebuilt changed _ _ id_eq =>
    -- The number of the new block is given out after all calls.
    refine .inr ⟨fun unchanged => changed (unchanged_iff.mp unchanged), b', rfl, ?_, ?_⟩
    · rw [id_eq]
      exact (declarations.grows.trans expressions.grows).next_le
    · rw [id_eq]
      exact Nat.lt_succ_self _

/-- The same node comes out exactly if nothing at it or below it has changed. -/
lemma same_iff_unchanged (held : f.Holds e)
    (given : (rules.transform e).outcome st f = (.ok (e', st'), g)) :
    e'.same e = true ↔ rules.Unchanged e st f := by
  induction e using Expr.inductionOn generalizing e' st st' f g with
  | leaf l => exact (unchanged_leaf_iff given).symm
  | block b ih =>
    rcases block_kept_or_new ih held given with
      ⟨unchanged, rfl⟩ | ⟨changed, b', rfl, made, -⟩
    · exact iff_of_true (Expr.same_refl _) unchanged
    · rw [held.not_same made (Expr.has_self _)]
      exact iff_of_false Bool.false_ne_true changed

/--
At every position that a transformation by rules reaches in a tree that the forest holds, and gives
a node for, this is the same node as before exactly if all calls at the position or below give the
very items that they are made on. Where this is not so at a block, a new block comes out, which is
no node of the tree that is transformed. If none of the calls ends in a misuse and none changes
anything, the root comes out.
-/
theorem transform_same_iff (rules : Rules σ) {e : Expr} {f : Forest} (held : f.Holds e) (st : σ) :
    (∀ {x x' st₁ f₁ st₂ f₂}, rules.Reaches e st f x st₁ f₁ →
      (rules.transform x).outcome st₁ f₁ = (.ok (x', st₂), f₂) →
      (x'.same x = true ↔ rules.Unchanged x st₁ f₁) ∧
      ∀ b, x = .block b → ¬ rules.Unchanged x st₁ f₁ →
        (∃ b', x' = .block b' ∧ f₁.next ≤ b'.id ∧ b'.id < f₂.next) ∧
        ∀ n, e.Has n → x'.same n = false) ∧
    ((∀ misuse g, ¬ rules.CallFails e st f misuse g) → rules.Unchanged e st f →
      ∃ e' st' g, (rules.transform e).outcome st f = (.ok (e', st'), g) ∧ e'.same e = true) := by
  constructor
  · intro x x' st₁ f₁ st₂ f₂ reaches given
    have held' := reaches.held held
    refine ⟨same_iff_unchanged held' given, ?_⟩
    rintro b rfl changed
    rcases block_kept_or_new (fun _ _ => same_iff_unchanged) held' given with
      ⟨unchanged, -⟩ | ⟨-, b', rfl, made⟩
    · exact absurd unchanged changed
    · refine ⟨⟨b', rfl, made⟩, ?_⟩
      intro n has
      exact (held.mono reaches.grows).not_same made.1 has
  · intro calls unchanged
    obtain ⟨e', st', g, given⟩ := outcome_of_calls calls
    exact ⟨e', st', g, given, (same_iff_unchanged held given).mpr unchanged⟩

/-- A constant deep in the tree is made anew, with the value that it has: the root is a new node. -/
theorem transform_same_iff_renumbered :
    let x : Param := ⟨0, some "x", .int, false⟩
    let zero : Expr := .leaf (.constant ⟨1, .int 0, .int⟩)
    let e : Expr := .block ⟨3, .block2 (.block ⟨2, .scope1 [x] zero⟩) x.read⟩
    let f : Forest := { next := 4 }
    f.Holds e ∧ ¬ Rules.number.Unchanged e 0 f ∧
      ∃ e' st' g, (Rules.number.transform e).outcome 0 f = (.ok (e', st'), g) ∧
        ∀ n, e.Has n → e'.same n = false := by
  intro x zero e f
  have read : Forest.Built { next := 1 } x.read :=
    .read (show (Build.localVariable "x" .int).run {} = (x, { next := 1 }) from rfl)
  have constant : Forest.Built { next := 2 } zero :=
    .constant (show (Build.constant (.int 0)).run { next := 1 } = (zero, { next := 2 }) from rfl)
  let inner : Expr := .block ⟨2, .scope1 [x] zero⟩
  have scope : Forest.Built { next := 3 } inner :=
    .scope (List.forall_mem_singleton.mpr constant)
      (show (Build.scope [x] [zero]).run.run { next := 2 } = (.ok inner, { next := 3 }) from rfl)
  have read' : Forest.Built { next := 3 } x.read := read.grown ⟨by decide, fun _ _ kept => kept⟩
  have parts : ∀ part ∈ (Layout.block2 inner x.read).expressions,
      Forest.Built { next := 3 } part :=
    List.forall_mem_cons.mpr ⟨scope, List.forall_mem_singleton.mpr read'⟩
  have built : f.Built e :=
    .fixed parts
      (show (Build.block2 inner x.read).run.run { next := 3 } = (.ok e, f) from rfl)
  have held := built.holds
  obtain ⟨e', st', g, given, other⟩ : ∃ e' st' g,
      (Rules.number.transform e).outcome 0 f = (.ok (e', st'), g) ∧ e'.same e = false :=
    ⟨_, _, _, rfl, rfl⟩
  obtain ⟨same_iff, new⟩ := (transform_same_iff Rules.number held 0).1 (.here e 0 f) given
  have changed : ¬ Rules.number.Unchanged e 0 f := by
    rw [← same_iff, other]
    exact Bool.false_ne_true
  exact ⟨held, changed, e', st', g, given, (new _ rfl changed).2⟩

end Rules

end ScopedExpr
