import ScopedExpr.Proofs.Forest.Made
import ScopedExpr.Proofs.Traversal.Calls

/-!
# Walks through a block

A walk calls the hook for declarations on the declarations of a block and the hook for expressions
on its children. Whatever the hooks answer, the walk itself is never a misuse, and it ends in a
block of the same shape that has just the answers for declarations and children.
-/

namespace ScopedExpr

variable {σ α : Type}

/-! ### Exchanged blocks -/

/--
Whether `b'` was made like `b`, but with the given declarations and children. They are the same
nodes in order, and are equal to the given ones if none of these passes for another one in `b`.
-/
structure Block.Exchanged (b : Block Expr) (declarations : List Param) (args : List Expr)
    (b' : Block Expr) : Prop where
  made : b'.Made
  shape_eq : b'.shape = b.shape
  count_eq : b'.count = b.count
  length_eq : b'.declarations.length = b.declarations.length
  declarations_same : List.Forall₂ (fun p q => p.same q = true) declarations b'.declarations
  expressions_same : List.Forall₂ (fun e e' => e.same e' = true) args b'.expressions
  declarations_eq : (∀ p ∈ declarations, ∀ q ∈ b.declarations, p.same q = true → p = q) →
    declarations = b'.declarations
  expressions_eq : (∀ e ∈ args, ∀ e' ∈ b.expressions, e.same e' = true → e = e') →
    args = b'.expressions

/--
How an exchange ends: with the block itself if nothing has changed, else with a new block that has
the given children. The old declarations stay in it where only children have changed.
-/
inductive Block.Becomes (b : Block Expr) (declarations : List Param) (args : List Expr)
    (f : Forest) : Block Expr → Forest → Prop where
  | kept (declared : b.hasDeclarations declarations = true)
      (expressed : b.hasExpressions args = true) : b.Becomes declarations args f b f
  | rebuilt {b' : Block Expr} {declarations? : Option (List Param)}
      (changed : ¬ (b.hasDeclarations declarations = true ∧ b.hasExpressions args = true))
      (chosen : declarations? = some declarations ∨
        declarations? = none ∧ b.hasDeclarations declarations = true)
      (given : Gives (b.rebuild declarations? args) (.block b')) (id_eq : b'.id = f.next)
      (declarations_eq : b'.declarations = declarations?.getD b.declarations)
      (expressions_eq : b'.expressions = args) :
      b.Becomes declarations args f b' { f with next := f.next + 1 }

namespace Block

variable {b b' : Block Expr} {declarations : List Param} {args : List Expr} {f g : Forest}

/-- A block whose parts are the same ones is its own exchange. -/
lemma exchanged_self (made : b.Made) (declared : b.hasDeclarations declarations = true)
    (expressed : b.hasExpressions args = true) : b.Exchanged declarations args b where
  made := made
  shape_eq := rfl
  count_eq := rfl
  length_eq := rfl
  declarations_same := isEqv_iff_forall₂.mp declared
  expressions_same := isEqv_iff_forall₂.mp expressed
  declarations_eq := eq_of_forall₂ (isEqv_iff_forall₂.mp declared)
  expressions_eq := eq_of_forall₂ (isEqv_iff_forall₂.mp expressed)

lemma exchange_rebuild {declarations? : Option (List Param)}
    (changed : ¬ (b.hasDeclarations declarations = true ∧ b.hasExpressions args = true))
    (chosen : declarations? = some declarations ∨
      declarations? = none ∧ b.hasDeclarations declarations = true)
    (declared : (declarations?.getD b.declarations).length = b.declarations.length)
    (expressed : args.length = b.count) (f : Forest) :
    ∃ b' g, (b.rebuild declarations? args).run.run f = (.ok (.block b'), g) ∧
      b.Becomes declarations args f b' g := by
  obtain ⟨first, rest, rfl, run_eq⟩ := rebuild_run (misfit?_eq_none.mpr ⟨expressed, declared⟩) f
  exact ⟨_, _, run_eq, .rebuilt changed chosen ⟨f, congrArg Prod.fst run_eq⟩ rfl
    (Layout.declarations_rebuilt declared first rest) (b.layout.expressions_rebuilt _ first rest)⟩

/-- With as many declarations and children as before, an exchange is no misuse. -/
lemma exchange_becomes (declared : declarations.length = b.declarations.length)
    (expressed : args.length = b.count) (f : Forest) :
    ∃ b' g, (b.exchange declarations args).run.run f = (.ok (.block b'), g) ∧
      b.Becomes declarations args f b' g := by
  unfold exchange
  split
  · rename_i same
    split
    · rename_i same'
      exact ⟨b, f, rfl, .kept same same'⟩
    · rename_i changed
      exact exchange_rebuild (fun both => changed both.2) (.inr ⟨rfl, same⟩) rfl expressed f
  · rename_i changed
    exact exchange_rebuild (fun both => changed both.1) (.inl rfl) declared expressed f

lemma Becomes.declarations_eq (becomes : b.Becomes declarations args f b' g) :
    b'.declarations = b.declarations ∨ b'.declarations = declarations := by
  cases becomes with
  | kept => exact .inl rfl
  | rebuilt _ chosen _ _ declarations_eq =>
    rcases chosen with rfl | ⟨rfl, -⟩
    · exact .inr declarations_eq
    · exact .inl declarations_eq

lemma Becomes.expressions_eq (becomes : b.Becomes declarations args f b' g) :
    b'.expressions = b.expressions ∨ b'.expressions = args := by
  cases becomes with
  | kept => exact .inl rfl
  | rebuilt _ _ _ _ _ expressions_eq => exact .inr expressions_eq

/-- An exchange ends in a block that is made like the old one, but of the new parts. -/
lemma Becomes.exchanged (becomes : b.Becomes declarations args f b' g) (made : b.Made) :
    b.Exchanged declarations args b' := by
  cases becomes with
  | kept declared expressed => exact exchanged_self made declared expressed
  | @rebuilt _ declarations? _ chosen given _ declarations_eq expressions_eq =>
    obtain ⟨counted, declared⟩ := misfit?_eq_none.mp (rebuild_gives given).1
    have made' := made.rebuild given
    have length_eq : b'.declarations.length = b.declarations.length := by
      rw [declarations_eq, declared]
    have count_eq : b'.count = b.count := by
      rw [← b'.length_expressions, expressions_eq, counted]
    have same : List.Forall₂ (fun p q => p.same q = true) declarations b'.declarations := by
      rw [declarations_eq]
      rcases chosen with rfl | ⟨rfl, same⟩
      · exact List.forall₂_same.mpr fun p _ => p.same_refl
      · exact isEqv_iff_forall₂.mp same
    refine ⟨made', made.fits.shape_eq made'.fits length_eq count_eq, count_eq, length_eq, same, ?_,
      ?_, fun _ => expressions_eq.symm⟩
    · rw [expressions_eq]
      exact List.forall₂_same.mpr fun e _ => e.same_refl
    · intro apart
      rw [declarations_eq]
      rcases chosen with rfl | ⟨rfl, same⟩
      · rfl
      · exact eq_of_forall₂ (isEqv_iff_forall₂.mp same) apart

end Block

/-! ### Walks -/

/-- Whether the hooks never end in a misuse unless a walk that they take does. -/
structure Transformer.Quiet (t : Transformer σ) : Prop where
  expr : ∀ e walk, walk.Quiet → (t.expr e walk).Quiet
  leaf : ∀ l, (t.leaf l).Quiet
  declaration : ∀ p, (t.declaration p).Quiet
  block : ∀ b walk, walk.Quiet → (t.block b walk).Quiet

/-- The default walks are no misuse. -/
lemma Rules.quiet {rules : Rules σ} (leaf : ∀ l, (rules.leaf l).Quiet)
    (declaration : ∀ p, (rules.declaration p).Quiet) : rules.transformer.Quiet where
  expr _ _ quiet := quiet
  leaf := leaf
  declaration := declaration
  block _ _ quiet := quiet

/--
Whether a call ends in a misuse, first for the declarations of a block in order, then with `hook`
for its children.
-/
inductive Transformer.HooksFail (t : Transformer σ) (hook : Expr → TransformM σ Expr)
    (b : Block Expr) (st : σ) (f : Forest) (misuse : Misuse) (g : Forest) : Prop where
  | declaration (fail : CallsFail t.declaration b.declarations st f misuse g)
  | expression {ps : List Param} {st' : σ} {f' : Forest}
      (calls : Calls t.declaration b.declarations st f ps st' f')
      (fail : CallsFail hook b.expressions st' f' misuse g)

/-- Whether the calls give `ps` for the declarations of a block, then `args` for its children. -/
inductive Transformer.HooksGive (t : Transformer σ) (hook : Expr → TransformM σ Expr)
    (b : Block Expr) (st : σ) (f : Forest) (ps : List Param) (args : List Expr) (st'' : σ)
    (g : Forest) : Prop where
  | intro {st' : σ} {f' : Forest} (declarations : Calls t.declaration b.declarations st f ps st' f')
      (expressions : Calls hook b.expressions st' f' args st'' g)

/--
Whether the calls give declarations and children, and the walk through the block ends in a block
that has just these, in the state that the calls have left.
-/
def Transformer.WalkExchanges (t : Transformer σ) (hook : Expr → TransformM σ Expr)
    (b : Block Expr) (st : σ) (f : Forest) : Prop :=
  ∃ ps args st' g b' g', t.HooksGive hook b st f ps args st' g ∧
    (t.walkBlock b (b.expressions.map fun e _ => hook e)).outcome st f =
      (.ok (.block b', st'), g') ∧
    b.Exchanged ps args b'

namespace Transformer

variable {t : Transformer σ} {hook : Expr → TransformM σ Expr} {b : Block Expr} {st st' : σ}
  {f g : Forest} {ps : List Param} {args : List Expr} {misuse : Misuse}

/-- One of the calls ends in a misuse, or all of them give something. -/
lemma hooks_fail_or_give (t : Transformer σ) (hook : Expr → TransformM σ Expr) (b : Block Expr)
    (st : σ) (f : Forest) :
    (∃ misuse g, t.HooksFail hook b st f misuse g) ∨
      ∃ ps args st' g, t.HooksGive hook b st f ps args st' g := by
  rcases calls_or_fail t.declaration b.declarations st f with ⟨ps, st', f', calls⟩ | ⟨m, g, fail⟩
  · rcases calls_or_fail hook b.expressions st' f' with ⟨args, st'', g, calls'⟩ | ⟨m, g, fail⟩
    · exact .inr ⟨ps, args, st'', g, calls, calls'⟩
    · exact .inl ⟨m, g, .expression calls fail⟩
  · exact .inl ⟨m, g, .declaration fail⟩

/-- The misuse of a hook is that of the walk. -/
lemma HooksFail.outcome_walkBlock (fail : t.HooksFail hook b st f misuse g) :
    (t.walkBlock b (b.expressions.map fun e _ => hook e)).outcome st f = (.error misuse, g) := by
  unfold walkBlock
  rw [List.mapM_map]
  cases fail with
  | declaration fail => exact TransformM.outcome_bind_of_error fail.outcome_mapM
  | expression calls fail =>
    rw [TransformM.outcome_bind_of_ok calls.outcome_mapM]
    exact TransformM.outcome_bind_of_error fail.outcome_mapM

/-- After the calls only the exchange is left. -/
lemma HooksGive.outcome_of_exchange {e' : Expr} {g' : Forest}
    (give : t.HooksGive hook b st f ps args st' g)
    (exchanged : (b.exchange ps args).run.run g = (.ok e', g')) :
    (t.walkBlock b (b.expressions.map fun e _ => hook e)).outcome st f = (.ok (e', st'), g') := by
  obtain ⟨declarations, expressions⟩ := give
  unfold walkBlock
  rw [List.mapM_map, TransformM.outcome_bind_of_ok declarations.outcome_mapM]
  refine (TransformM.outcome_bind_of_ok expressions.outcome_mapM).trans ?_
  exact TransformM.outcome_lift_of_ok exchanged

lemma HooksGive.exchange_becomes (give : t.HooksGive hook b st f ps args st' g) :
    ∃ b' g', (b.exchange ps args).run.run g = (.ok (.block b'), g') ∧
      b.Becomes ps args g b' g' := by
  obtain ⟨declarations, expressions⟩ := give
  exact Block.exchange_becomes declarations.length_eq
    (expressions.length_eq.trans b.length_expressions) g

/-- If no hook ends in a misuse, then the walk ends in an exchange. -/
lemma HooksGive.outcome_walkBlock (give : t.HooksGive hook b st f ps args st' g) :
    ∃ b' g', (t.walkBlock b (b.expressions.map fun e _ => hook e)).outcome st f =
        (.ok (.block b', st'), g') ∧
      b.Becomes ps args g b' g' := by
  obtain ⟨b', g', exchanged, becomes⟩ := give.exchange_becomes
  exact ⟨b', g', give.outcome_of_exchange exchanged, becomes⟩

/-- A walk that gives a result has got all its answers, and gives a block that is made of them. -/
lemma walkBlock_ok {e' : Expr}
    (given : (t.walkBlock b (b.expressions.map fun e _ => hook e)).outcome st f =
      (.ok (e', st'), g)) :
    ∃ ps args f' b', t.HooksGive hook b st f ps args st' f' ∧ e' = .block b' ∧
      b.Becomes ps args f' b' g := by
  rcases t.hooks_fail_or_give hook b st f with ⟨misuse, g', fail⟩ | ⟨ps, args, st'', f', give⟩
  · cases given.symm.trans fail.outcome_walkBlock
  · obtain ⟨b', g', outcome_eq, becomes⟩ := give.outcome_walkBlock
    cases given.symm.trans outcome_eq
    exact ⟨ps, args, f', b', give, rfl, becomes⟩

lemma hooksGive_of_quiet (quiet : t.Quiet) (quiet' : ∀ e ∈ b.expressions, (hook e).Quiet) (st : σ)
    (f : Forest) : ∃ ps args st' g, t.HooksGive hook b st f ps args st' g := by
  obtain ⟨ps, st', f', declarations⟩ :=
    calls_of_quiet (fun p (_ : p ∈ b.declarations) => quiet.declaration p) st f
  obtain ⟨args, st'', g, expressions⟩ := calls_of_quiet quiet' st' f'
  exact ⟨ps, args, st'', g, declarations, expressions⟩

/-- If no hook ends in a misuse, then no walk does. -/
lemma Quiet.walkBlock (quiet : t.Quiet) (quiet' : ∀ e ∈ b.expressions, (hook e).Quiet) :
    (t.walkBlock b (b.expressions.map fun e _ => hook e)).Quiet := by
  intro st f
  obtain ⟨ps, args, st', g, give⟩ := hooksGive_of_quiet quiet quiet' st f
  obtain ⟨b', g', outcome_eq, -⟩ := give.outcome_walkBlock
  exact ⟨_, _, _, outcome_eq⟩

/-- With such hooks nothing ends in a misuse, however deep the tree is. -/
lemma Quiet.transform (quiet : t.Quiet) (e : Expr) : (t.transform e).Quiet := by
  induction e using Expr.inductionOn with
  | leaf l =>
    rw [transform_eq]
    exact quiet.expr _ _ (quiet.leaf l)
  | block b ih =>
    rw [transform_eq]
    exact quiet.expr _ _ (quiet.block b _ (quiet.walkBlock ih))

lemma HooksGive.walkExchanges (give : t.HooksGive hook b st f ps args st' g) (made : b.Made) :
    t.WalkExchanges hook b st f := by
  obtain ⟨b', g', outcome_eq, becomes⟩ := give.outcome_walkBlock
  exact ⟨ps, args, st', g, b', g', give, outcome_eq, becomes.exchanged made⟩

/--
A walk through a block ends in a misuse only where a hook does, whatever the hooks are and whatever
`hook` does with the children. In all other cases it ends in a block of the same shape, with as many
declarations and children, which are the ones that the hooks gave, in order. If the hooks of a
transformer end in no misuse of their own, then this is how each of its walks ends.
-/
theorem walkBlock_exchanges (t : Transformer σ) (made : b.Made) (st : σ) (f : Forest) :
    (∀ hook : Expr → TransformM σ Expr,
      (∃ misuse g, t.HooksFail hook b st f misuse g ∧
        (t.walkBlock b (b.expressions.map fun e _ => hook e)).outcome st f = (.error misuse, g)) ∨
      t.WalkExchanges hook b st f) ∧
    (t.Quiet → t.WalkExchanges t.transform b st f) := by
  constructor
  · intro hook
    rcases t.hooks_fail_or_give hook b st f with ⟨misuse, g, fail⟩ | ⟨ps, args, st', g, give⟩
    · exact .inl ⟨misuse, g, fail, fail.outcome_walkBlock⟩
    · exact .inr (give.walkExchanges made)
  · intro quiet
    obtain ⟨ps, args, st', g, give⟩ := hooksGive_of_quiet quiet (fun e _ => quiet.transform e) st f
    exact give.walkExchanges made

/-- A declaration gives way to a parameter by reference, and its read to a placeholder. -/
theorem walkBlock_exchanges_unreadable :
    let x : Param := ⟨0, some "x", .int, false⟩
    let rules : Rules Unit :=
      { leaf := fun l => do return ← Build.placeholder l.ty
        declaration := fun p => do return ← Build.byReference "y" p.ty }
    rules.transformer.WalkExchanges rules.transformer.transform ⟨1, .scope1 [x] x.read⟩ ()
      { next := 2 } := by
  intro x rules
  have quiet : rules.transformer.Quiet :=
    Rules.quiet (fun l st f => ⟨_, _, _, rfl⟩) fun p st f => ⟨_, _, _, rfl⟩
  have given : Gives (Build.scope [x] [x.read]) (.block ⟨1, .scope1 [x] x.read⟩) :=
    ⟨{ next := 1 }, rfl⟩
  exact (walkBlock_exchanges _ (.scope given) () _).2 quiet

end Transformer

end ScopedExpr
