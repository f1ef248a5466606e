import ScopedExpr.Proofs.Expr.Nodes
import ScopedExpr.Proofs.Forest.Made

/-!
# Held expressions

A forest holds an expression if it has given out the numbers of all of its nodes; whatever is made
later is then none of these nodes. All that is made in a forest, of parts that it holds, is held by
it.
-/

namespace ScopedExpr

/-- Whether the numbers of all nodes of the expression have been given out. -/
def Forest.Holds (f : Forest) (e : Expr) : Prop := ∀ n, e.Has n → n.identity.number < f.next

namespace Forest.Holds

variable {f g : Forest} {e n : Expr} {b : Block Expr}

lemma mono (held : f.Holds e) (grows : f.Grows g) : g.Holds e := fun n has =>
  Nat.lt_of_lt_of_le (held n has) grows.next_le

lemma child (held : f.Holds (.block b)) (child : e ∈ b.expressions) : f.Holds e := fun n has =>
  held n (Expr.has_of_child child has)

lemma id_lt (held : f.Holds (.block b)) : b.id < f.next := held _ (Expr.has_self _)

/-- A block that is made later is no node of the expression. -/
lemma not_same (held : f.Holds e) (made : f.next ≤ b.id) (has : e.Has n) :
    (Expr.block b).same n = false := by
  rw [Expr.same, beq_eq_false_iff_ne]
  intro same
  have number : b.id = n.identity.number := congrArg Identity.number same
  have lt := held n has
  omega

end Forest.Holds

@[simp] lemma Forest.holds_leaf (f : Forest) (l : Leaf) :
    f.Holds (.leaf l) ↔ (Expr.leaf l).identity.number < f.next := by
  simp [Forest.Holds]

/-- A block is held if its number has been given out and its children are held. -/
@[simp] lemma Forest.holds_block (f : Forest) (b : Block Expr) :
    f.Holds (.block b) ↔ b.id < f.next ∧ ∀ e ∈ b.expressions, f.Holds e := by
  constructor
  · intro held
    exact ⟨held.id_lt, fun e child => held.child child⟩
  · rintro ⟨here, below⟩ n has
    rcases (Expr.has_block b).mp has with rfl | ⟨e, child, has⟩
    · exact here
    · exact below e child n has

/-! ### What is made is held -/

variable {ε α : Type} {f g : Forest} {p : Param} {e : Expr}

lemma Forest.holds_param {name? : Option String} {ty : TypeId} {byRef : Bool}
    (made : (Build.param name? ty byRef).run f = (p, g)) : g.Holds p.read := by
  cases made
  simp [Param.read, Expr.identity, Build.fresh]

lemma Forest.holds_typedConstant {value : Value} {ty : TypeId}
    (made : (Build.typedConstant value ty).run f = (e, g)) : g.Holds e := by
  cases made
  simp [Expr.identity, Build.fresh]

lemma Forest.holds_placeholder {ty : TypeId} (made : (Build.placeholder ty).run f = (e, g)) :
    g.Holds e := by
  cases made
  simp [Expr.identity, Build.fresh]

/-- Whether the computation gives an expression that is held, if all of the parts have been held. -/
def MakesHeld (x : ExceptT ε Build Expr) (parts : List Expr) : Prop :=
  ∀ f e g, (∀ part ∈ parts, f.Holds part) → x.run.run f = (.ok e, g) → g.Holds e

namespace MakesHeld

variable {parts : List Expr}

lemma pure (mem : e ∈ parts) : MakesHeld (pure e : ExceptT ε Build Expr) parts := by
  intro f e' g held made
  cases made
  exact held e mem

lemma throw (error : ε) : MakesHeld (throw error : ExceptT ε Build Expr) parts := by
  intro f e g held made
  cases made

/-- What comes first does not matter if all that may follow gives what is held. -/
lemma bind {x : ExceptT ε Build α} {next : α → ExceptT ε Build Expr}
    (each : ∀ a, MakesHeld (next a) parts) : MakesHeld (x >>= next) parts := by
  intro f e g held made
  obtain ⟨a, f', ran, made⟩ := run_bind_eq_ok made
  have grows : f.Grows f' := by
    have grows := x.run.grows f
    rwa [ran] at grows
  exact each a f' e g (fun part mem => (held part mem).mono grows) made

lemma node (layout : Layout Expr) :
    MakesHeld (liftM (Build.node layout) : ExceptT ε Build Expr) layout.expressions := by
  intro f e g held made
  cases made
  refine (Forest.holds_block _ _).mpr ⟨Nat.lt_succ_self f.next, ?_⟩
  intro e mem
  exact (held e mem).mono (Build.fresh.grows f)

lemma fixed (layout : Layout Expr) : MakesHeld (Build.fixed layout) layout.expressions :=
  bind fun _ => node layout

lemma block (args : List Expr) : MakesHeld (Build.block args) args := by
  apply bind
  intro _
  cases args with
  | nil => exact throw _
  | cons first rest =>
    have made := node (ε := InvalidArgument) (.ofPlain first rest)
    rwa [Layout.expressions_ofPlain] at made

lemma scope (declarations : List Param) (args : List Expr) :
    MakesHeld (Build.scope declarations args) args := by
  unfold Build.scope
  split
  · exact block args
  · apply bind
    intro _
    apply bind
    intro _
    cases args with
    | nil => exact throw _
    | cons first rest =>
      have made := node (ε := InvalidArgument) (.ofScope declarations first rest)
      rwa [Layout.expressions_ofScope] at made

lemma rebuild (b : Block Expr) (declarations? : Option (List Param)) (args : List Expr) :
    MakesHeld (b.rebuild declarations? args) args := by
  unfold Block.rebuild
  split
  · exact throw _
  · exact throw _
  · have made := node (ε := Misuse) (b.layout.rebuilt declarations? ‹_› ‹_›)
    rwa [Layout.expressions_rebuilt] at made

/-- An update gives the block itself, which has been held, or a new one of held children. -/
lemma update (b : Block Expr) (declarations : List Param) (args : List Expr) :
    MakesHeld (b.update declarations args) (.block b :: args) := by
  unfold Block.update
  split
  · exact pure List.mem_cons_self
  · intro f e g held made
    exact scope declarations args f e g (List.forall_mem_cons.mp held).2 made

end MakesHeld

/--
Whether the expression has been made in the forest: a leaf that is new, or a block that comes from a
factory, an update or a rebuild with parts that had been made.
-/
inductive Forest.Built : Forest → Expr → Prop where
  | read {f g : Forest} {name? : Option String} {ty : TypeId} {byRef : Bool} {p : Param}
      (made : (Build.param name? ty byRef).run f = (p, g)) : Built g p.read
  | constant {f g : Forest} {value : Value} {ty : TypeId} {e : Expr}
      (made : (Build.typedConstant value ty).run f = (e, g)) : Built g e
  | placeholder {f g : Forest} {ty : TypeId} {e : Expr}
      (made : (Build.placeholder ty).run f = (e, g)) : Built g e
  | fixed {f g : Forest} {layout : Layout Expr} {e : Expr}
      (parts : ∀ part ∈ layout.expressions, Built f part)
      (made : (Build.fixed layout).run.run f = (.ok e, g)) : Built g e
  | block {f g : Forest} {args : List Expr} {e : Expr} (parts : ∀ part ∈ args, Built f part)
      (made : (Build.block args).run.run f = (.ok e, g)) : Built g e
  | scope {f g : Forest} {declarations : List Param} {args : List Expr} {e : Expr}
      (parts : ∀ part ∈ args, Built f part)
      (made : (Build.scope declarations args).run.run f = (.ok e, g)) : Built g e
  | update {f g : Forest} {b : Block Expr} {declarations : List Param} {args : List Expr}
      {e : Expr} (old : Built f (.block b)) (parts : ∀ part ∈ args, Built f part)
      (made : (b.update declarations args).run.run f = (.ok e, g)) : Built g e
  | rebuild {f g : Forest} {b : Block Expr} {declarations? : Option (List Param)}
      {args : List Expr} {e : Expr} (parts : ∀ part ∈ args, Built f part)
      (made : (b.rebuild declarations? args).run.run f = (.ok e, g)) : Built g e
  | grown {f g : Forest} {e : Expr} (built : Built f e) (grows : f.Grows g) : Built g e

/-- A forest holds every expression that has been made in it. -/
theorem Forest.Built.holds (built : f.Built e) : f.Holds e := by
  induction built with
  | read made => exact holds_param made
  | constant made => exact holds_typedConstant made
  | placeholder made => exact holds_placeholder made
  | fixed _ made ih => exact MakesHeld.fixed _ _ _ _ ih made
  | block _ made ih => exact MakesHeld.block _ _ _ _ ih made
  | scope _ made ih => exact MakesHeld.scope _ _ _ _ _ ih made
  | update _ _ made ih ih' =>
    exact MakesHeld.update _ _ _ _ _ _ (List.forall_mem_cons.mpr ⟨ih, ih'⟩) made
  | rebuild _ made ih => exact MakesHeld.rebuild _ _ _ _ _ _ ih made
  | grown _ grows ih => exact ih.mono grows

end ScopedExpr
