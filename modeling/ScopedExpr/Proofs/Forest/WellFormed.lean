import ScopedExpr.Proofs.Expr.Nodes
import ScopedExpr.Proofs.Forest.Made

/-!
# Well-formed trees

A block is well formed if all of its children have a value and its declarations are distinct
variables passed by value. This is exactly what the factories ask for, so that they build
well-formed trees of well-formed parts.
-/

namespace ScopedExpr

/-! ### What the factories ask for -/

/-- Whether a scope may declare these variables. -/
structure Declarable (ps : List Param) : Prop where
  byValue : ∀ p ∈ ps, p.byRef = false
  distinct : ps.Pairwise fun p q => p.same q = false

lemma declarable_nil : Declarable [] := ⟨by simp, .nil⟩

/-- What the factories ask for in a block. -/
structure Block.WellFormed (b : Block Expr) : Prop where
  readable : ∀ e ∈ b.expressions, e.canRead = true
  declarable : Declarable b.declarations

def Expr.WellFormed : Expr → Prop := Expr.EachBlock Block.WellFormed

@[simp] lemma Expr.wellFormed_leaf (l : Leaf) : (Expr.leaf l).WellFormed := eachBlock_leaf l

@[simp] lemma Expr.wellFormed_block (b : Block Expr) :
    (Expr.block b).WellFormed ↔ b.WellFormed ∧ ∀ e ∈ b.expressions, e.WellFormed :=
  eachBlock_block b

/-- Children pass the check exactly if all of them have values. -/
lemma checkReadable_eq_ok {argument : Argument} {index : Nat} {es : List Expr} :
    checkReadable argument index es = .ok () ↔ ∀ e ∈ es, e.canRead = true := by
  induction es generalizing index with
  | nil => simp [checkReadable]
  | cons e es ih =>
    rw [checkReadable, List.forall_mem_cons]
    split
    · rw [ih]
      simp [*]
    · simp [*]

/-- Besides being declarable, the variables must differ from those that have been seen. -/
lemma checkVariables_eq_ok {seen : List Param} {index : Nat} {ps : List Param} :
    checkVariables seen index ps = .ok () ↔
      Declarable ps ∧ ∀ p ∈ ps, ∀ q ∈ seen, q.same p = false := by
  induction ps generalizing seen index with
  | nil => simp [checkVariables, declarable_nil]
  | cons p ps ih =>
    rw [checkVariables]
    by_cases byRef : p.byRef = true
    · rw [if_pos byRef]
      refine iff_of_false (by simp) ?_
      rintro ⟨declarable, -⟩
      simp [declarable.byValue p List.mem_cons_self] at byRef
    · rw [if_neg byRef]
      by_cases known : seen.any (·.same p) = true
      · rw [if_pos known]
        refine iff_of_false (by simp) ?_
        rintro ⟨-, new⟩
        obtain ⟨q, mem, same⟩ := List.any_eq_true.mp known
        simp [new p List.mem_cons_self q mem] at same
      · rw [if_neg known, ih]
        constructor
        · rintro ⟨⟨byValue, distinct⟩, new⟩
          refine ⟨⟨?_, ?_⟩, ?_⟩
          · simpa [byRef] using byValue
          · exact .cons (fun q mem => new q mem p List.mem_cons_self) distinct
          · rintro q mem r seen
            rcases List.mem_cons.mp mem with rfl | mem
            · simpa using fun same => known (List.any_eq_true.mpr ⟨r, seen, same⟩)
            · exact new q mem r (List.mem_cons_of_mem _ seen)
        · rintro ⟨⟨byValue, distinct⟩, new⟩
          obtain ⟨head, tail⟩ := List.pairwise_cons.mp distinct
          refine ⟨⟨fun q mem => byValue q (List.mem_cons_of_mem _ mem), tail⟩, ?_⟩
          rintro q mem r seen
          rcases List.mem_cons.mp seen with rfl | seen
          · exact head q mem
          · exact new q (List.mem_cons_of_mem _ mem) r seen

/-! ### What the factories give -/

section Factories

variable {b : Block Expr} {declarations : List Param} {args : List Expr}

/-- What passes the checks of a factory is well formed. -/
lemma Block.BuiltWith.wellFormed (built : b.BuiltWith declarations args) : b.WellFormed := by
  obtain ⟨-, rfl, rfl, declarations_checked, argument, expressions_checked⟩ := built
  exact ⟨checkReadable_eq_ok.mp expressions_checked,
    (checkVariables_eq_ok.mp declarations_checked).1⟩

/-- A block that is built of well-formed children is well formed. -/
lemma Block.BuiltWith.wellFormed_block (built : b.BuiltWith declarations args)
    (parts : ∀ arg ∈ args, arg.WellFormed) : (Expr.block b).WellFormed := by
  rw [Expr.wellFormed_block, built.expressions_eq]
  exact ⟨built.wellFormed, parts⟩

/-- A scope is built of declarable variables and of children with a value, one at least. -/
lemma scope_run (declarable : Declarable declarations) (readable : ∀ e ∈ args, e.canRead = true)
    (filled : args ≠ []) (f : Forest) :
    ∃ e g, (Build.scope declarations args).run.run f = (.ok e, g) := by
  obtain ⟨first, rest, rfl⟩ := List.exists_cons_of_ne_nil filled
  unfold Build.scope
  split
  · unfold Build.block
    rw [checkReadable_eq_ok.mpr readable]
    exact ⟨_, _, rfl⟩
  · rw [checkReadable_eq_ok.mpr readable, checkVariables_eq_ok.mpr ⟨declarable, by simp⟩]
    exact ⟨_, _, rfl⟩

/-- Whether the factory of scopes takes the declarations and children of the block. -/
def Block.Accepted (b : Block Expr) : Prop :=
  ∀ f, ∃ e g, (Build.scope b.declarations b.expressions).run.run f = (.ok e, g)

/-- The factory of scopes takes the parts of just those blocks that are well formed. -/
lemma Block.accepted_iff : b.Accepted ↔ b.WellFormed := by
  constructor
  · intro accepted
    obtain ⟨e, g, ends⟩ := accepted {}
    obtain ⟨b', -, built⟩ := scope_gives ⟨{}, congrArg Prod.fst ends⟩
    obtain ⟨readable, declarable⟩ := built.wellFormed
    exact ⟨built.expressions_eq ▸ readable, built.declarations_eq ▸ declarable⟩
  · rintro ⟨readable, declarable⟩ f
    exact scope_run declarable readable b.layout.expressions_ne_nil f

lemma Expr.wellFormed_iff {e : Expr} : e.WellFormed ↔ e.EachBlock Block.Accepted := by
  constructor
  · intro wellFormed b has
    exact Block.accepted_iff.mpr (wellFormed b has)
  · intro accepted b has
    exact Block.accepted_iff.mp (accepted b has)

end Factories

/-! ### Trees that are built -/

/-- Whether the expression is one of the parts or is built of such expressions by the factories. -/
inductive Expr.BuiltOf (Part : Expr → Prop) : Expr → Prop where
  | part {e : Expr} (part : Part e) : BuiltOf Part e
  | block2 {x y e : Expr} (hx : BuiltOf Part x) (hy : BuiltOf Part y)
      (given : Gives (Build.block2 x y) e) : BuiltOf Part e
  | block3 {x y z e : Expr} (hx : BuiltOf Part x) (hy : BuiltOf Part y) (hz : BuiltOf Part z)
      (given : Gives (Build.block3 x y z) e) : BuiltOf Part e
  | block4 {x y z v e : Expr} (hx : BuiltOf Part x) (hy : BuiltOf Part y) (hz : BuiltOf Part z)
      (hv : BuiltOf Part v) (given : Gives (Build.block4 x y z v) e) : BuiltOf Part e
  | block5 {x y z v w e : Expr} (hx : BuiltOf Part x) (hy : BuiltOf Part y) (hz : BuiltOf Part z)
      (hv : BuiltOf Part v) (hw : BuiltOf Part w) (given : Gives (Build.block5 x y z v w) e) :
      BuiltOf Part e
  | block {args : List Expr} {e : Expr} (parts : ∀ arg ∈ args, BuiltOf Part arg)
      (given : Gives (Build.block args) e) : BuiltOf Part e
  | scope {declarations : List Param} {args : List Expr} {e : Expr}
      (parts : ∀ arg ∈ args, BuiltOf Part arg) (given : Gives (Build.scope declarations args) e) :
      BuiltOf Part e

/-- The factories build well-formed trees of well-formed parts. -/
theorem Expr.BuiltOf.wellFormed {e : Expr} (built : e.BuiltOf Expr.WellFormed) : e.WellFormed := by
  induction built with
  | part wellFormed => exact wellFormed
  | block2 _ _ given | block3 _ _ _ given | block4 _ _ _ _ given | block5 _ _ _ _ _ given =>
    obtain ⟨b, rfl, built⟩ := fixed_gives given rfl rfl
    apply built.wellFormed_block
    simp [Layout.expressions, *]
  | block _ given ih =>
    obtain ⟨b, rfl, built⟩ := block_gives given
    exact built.wellFormed_block ih
  | scope _ given ih =>
    obtain ⟨b, rfl, built⟩ := scope_gives given
    exact built.wellFormed_block ih

end ScopedExpr
