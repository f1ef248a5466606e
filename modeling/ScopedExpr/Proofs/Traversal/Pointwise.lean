import ScopedExpr.Proofs.Expr.Positions
import ScopedExpr.Proofs.Traversal.Reach

/-!
# Transformations position by position

If each call of a rule puts a leaf in the place of a leaf, then the transformed tree has the same
positions as the old one, with nodes of the same shapes and counts. What the calls have in common is
said by a contract: an invariant of state and forest, which each call hands on to the next one, and
an assumption about the state that is left in the end, which goes back to all states before.
-/

namespace ScopedExpr

variable {σ α β : Type}

/-! ### Contracts -/

/-- An invariant, which does not depend on what else is made, and an assumption about the end. -/
structure Contract (σ : Type) where
  inv : σ → Forest → Prop
  inv_mono : ∀ st f g, inv st f → f.Grows g → inv st g
  final : σ → Prop

/--
Whether the computation keeps the invariant, and each result has the property if the assumption is
true of the state behind it; then it is also true of the state before.
-/
def TransformM.Meets (c : Contract σ) (x : TransformM σ α) (P : α → Prop) : Prop :=
  ∀ st f a st' g, c.inv st f → x.outcome st f = (.ok (a, st'), g) →
    c.inv st' g ∧ (c.final st' → c.final st ∧ P a)

variable {c : Contract σ}

namespace TransformM.Meets

variable {x : TransformM σ α} {P Q : α → Prop}

lemma imp (meets : x.Meets c P) (imp : ∀ a, P a → Q a) : x.Meets c Q := by
  intro st f a st' g inv given
  obtain ⟨inv', back⟩ := meets st f a st' g inv given
  refine ⟨inv', fun final => ?_⟩
  obtain ⟨final', property⟩ := back final
  exact ⟨final', imp a property⟩

lemma map {h : α → β} (meets : x.Meets c P) :
    (x >>= fun a => pure (h a)).Meets c fun b => ∃ a, b = h a ∧ P a := by
  intro st f b st' g inv given
  rcases ends : x.outcome st f with ⟨misuse | ⟨a, st₁⟩, f₁⟩
  · rw [outcome_bind_of_error ends] at given
    cases given
  · rw [outcome_bind_of_ok ends] at given
    cases given
    obtain ⟨inv', back⟩ := meets st f a st' g inv ends
    refine ⟨inv', fun final => ?_⟩
    obtain ⟨final', property⟩ := back final
    exact ⟨final', a, rfl, property⟩

lemma pure {a : α} (property : P a) : Meets c (pure a) P := by
  intro st f a' st' g inv given
  cases given
  exact ⟨inv, fun final => ⟨final, property⟩⟩

end TransformM.Meets

/-- Calls that meet the contract one by one meet it together. -/
lemma Calls.meets {hook : α → TransformM σ β} {R : α → β → Prop} {as : List α} {bs : List β}
    {st st' : σ} {f g : Forest} (each : ∀ a ∈ as, (hook a).Meets c (R a))
    (calls : Calls hook as st f bs st' g) (inv : c.inv st f) :
    c.inv st' g ∧ (c.final st' → c.final st ∧ List.Forall₂ R as bs) := by
  induction calls with
  | nil => exact ⟨inv, fun final => ⟨final, .nil⟩⟩
  | cons call _ ih =>
    obtain ⟨head, tail⟩ := List.forall_mem_cons.mp each
    obtain ⟨inv', back⟩ := head _ _ _ _ _ inv call
    obtain ⟨inv'', back'⟩ := ih tail inv'
    refine ⟨inv'', fun final => ?_⟩
    obtain ⟨final', related⟩ := back' final
    obtain ⟨final, first⟩ := back final'
    exact ⟨final, .cons first related⟩

/-! ### Nodes that stay -/

/-- With its own declarations and children a block is not rebuilt. -/
lemma Block.Becomes.eq_self {b b' : Block Expr} {f g : Forest}
    (becomes : b.Becomes b.declarations b.expressions f b' g) : b' = b ∧ g = f := by
  cases becomes with
  | kept => exact ⟨rfl, rfl⟩
  | rebuilt changed =>
    refine absurd ⟨?_, ?_⟩ changed
    · exact isEqv_iff_forall₂.mpr (List.forall₂_same.mpr fun p _ => p.same_refl)
    · exact isEqv_iff_forall₂.mpr (List.forall₂_same.mpr fun e _ => e.same_refl)

lemma Block.Becomes.grows {b b' : Block Expr} {ps : List Param} {args : List Expr} {f g : Forest}
    (becomes : b.Becomes ps args f b' g) : f.Grows g := by
  cases becomes with
  | kept => exact .refl f
  | rebuilt => exact Build.fresh.grows f

/-- Lists of the same items are equal if at each place only equal items are the same. -/
lemma eq_of_same_places {same : α → α → Bool} {as bs : List α}
    (places : List.Forall₂ (fun a b => same b a = true → b = a) as bs)
    (equiv : bs.isEqv as same = true) : bs = as := by
  have equal := List.Forall₂.mp (fun _ _ eq_of_same same => eq_of_same same) places
    (isEqv_iff_forall₂.mp equiv).flip
  exact eq_of_forall₂ equal.flip fun _ _ _ _ eq => eq

/-- A block gets just the children it is given, if at each place only equal nodes are the same. -/
lemma Block.Becomes.expressions_eq_given {b b' : Block Expr} {ps : List Param} {args : List Expr}
    {f g : Forest} (becomes : b.Becomes ps args f b' g)
    (expressed : List.Forall₂ (fun e e' => e'.same e = true → e' = e) b.expressions args) :
    b'.expressions = args := by
  cases becomes with
  | kept _ same => exact (eq_of_same_places expressed same).symm
  | rebuilt _ _ _ _ _ expressions_eq => exact expressions_eq

/-- A block gets just what it is given, if at each place only equal items are the same. -/
lemma Block.Becomes.eq_given {b b' : Block Expr} {ps : List Param} {args : List Expr} {f g : Forest}
    (becomes : b.Becomes ps args f b' g)
    (declared : List.Forall₂ (fun p q => q.same p = true → q = p) b.declarations ps)
    (expressed : List.Forall₂ (fun e e' => e'.same e = true → e' = e) b.expressions args) :
    b'.declarations = ps ∧ b'.expressions = args := by
  refine ⟨?_, becomes.expressions_eq_given expressed⟩
  cases becomes with
  | kept same => exact (eq_of_same_places declared same).symm
  | rebuilt _ chosen _ _ declarations_eq =>
    rcases chosen with rfl | ⟨rfl, same⟩
    · exact declarations_eq
    · exact declarations_eq.trans (eq_of_same_places declared same).symm

namespace Rules

variable {rules : Rules σ} {e : Expr}

/-- If every rule gives back what it is called on, then the tree stays. -/
lemma meets_transform_self
    (leaf : ∀ l, e.Has (.leaf l) → (rules.leaf l).Meets c (· = .leaf l))
    (declaration : ∀ p, e.Declares p → (rules.declaration p).Meets c (· = p)) :
    (rules.transform e).Meets c (· = e) := by
  induction e using Expr.inductionOn with
  | leaf l =>
    rw [transform_leaf]
    exact leaf l (Expr.has_self _)
  | block b ih =>
    intro st f e' st' g inv given
    obtain ⟨ps, args, st₁, f₁, f₂, b', declarations, expressions, rfl, becomes⟩ :=
      transform_block_ok given
    have declared : ∀ p ∈ b.declarations, (rules.declaration p).Meets c (· = p) :=
      fun p mem => declaration p ⟨b, Expr.has_self _, mem⟩
    have kids : ∀ e ∈ b.expressions, (rules.transform e).Meets c (· = e) := by
      intro e child
      apply ih e child
      · exact fun l has => leaf l (Expr.has_of_child child has)
      · exact fun p ⟨b', has, mem⟩ => declaration p ⟨b', Expr.has_of_child child has, mem⟩
    obtain ⟨inv₁, back⟩ := declarations.meets declared inv
    obtain ⟨inv₂, back'⟩ := expressions.meets kids inv₁
    refine ⟨c.inv_mono _ _ _ inv₂ becomes.grows, fun final => ?_⟩
    obtain ⟨final₁, args_eq⟩ := back' final
    obtain ⟨final, ps_eq⟩ := back final₁
    obtain rfl := eq_of_forall₂ args_eq fun _ _ _ _ eq => eq.symm
    obtain rfl := eq_of_forall₂ ps_eq fun _ _ _ _ eq => eq.symm
    exact ⟨final, congrArg Expr.block becomes.eq_self.1⟩

end Rules

/-! ### Leaves for leaves -/

/--
Whether a leaf is compared with a leaf that is related to it, or a block with a block of the same
shape and count and with related variables.
-/
inductive Expr.Matches (L : Leaf → Leaf → Prop) (D : Param → Param → Prop) :
    Expr → Expr → Prop where
  | leaf {l l' : Leaf} (related : L l l') : Matches L D (.leaf l) (.leaf l')
  | block {b b' : Block Expr} (shape_eq : b'.shape = b.shape) (count_eq : b'.count = b.count)
      (declarations : List.Forall₂ D b.declarations b'.declarations) :
      Matches L D (.block b) (.block b')

lemma Expr.Matches.mono {L L' : Leaf → Leaf → Prop} {D D' : Param → Param → Prop} {x x' : Expr}
    (matched : x.Matches L D x') (leaf : ∀ l l', L l l' → L' l l')
    (declaration : ∀ p q, D p q → D' p q) : x.Matches L' D' x' := by
  cases matched with
  | leaf related => exact .leaf (leaf _ _ related)
  | block shape_eq count_eq declarations =>
    exact .block shape_eq count_eq (declarations.imp declaration)

/-- Whether each leaf and each declared variable of the expression is related to itself alone. -/
structure Expr.Fixed (L : Leaf → Leaf → Prop) (D : Param → Param → Prop) (e : Expr) : Prop where
  leaf : ∀ l, e.Has (.leaf l) → ∀ l', L l l' → l' = l
  declaration : ∀ p, e.Declares p → ∀ q, D p q → q = p

namespace Rules

variable {rules : Rules σ} {L : Leaf → Leaf → Prop} {D : Param → Param → Prop} {b : Block Expr}
  {e : Expr}

/--
Whether the rules put leaves in the place of leaves and variables in the place of variables, each
one related to the old one, and equal to it if it is the same.
-/
structure Relates (rules : Rules σ) (c : Contract σ) (L : Leaf → Leaf → Prop)
    (D : Param → Param → Prop) (e : Expr) : Prop where
  leaf : ∀ l, e.Has (.leaf l) → (rules.leaf l).Meets c fun e' =>
    ∃ l', e' = .leaf l' ∧ L l l' ∧ (e'.same (.leaf l) = true → l' = l)
  declaration : ∀ p, e.Declares p → (rules.declaration p).Meets c fun q =>
    D p q ∧ (q.same p = true → q = p)

lemma Relates.child (relates : rules.Relates c L D (.block b)) (child : e ∈ b.expressions) :
    rules.Relates c L D e where
  leaf l has := relates.leaf l (Expr.has_of_child child has)
  declaration := fun p ⟨b', has, mem⟩ =>
    relates.declaration p ⟨b', Expr.has_of_child child has, mem⟩

/-- If every leaf and variable is related to itself alone, then nothing changes. -/
lemma Relates.meets_self (relates : rules.Relates c L D e) (fixed : e.Fixed L D) :
    (rules.transform e).Meets c (· = e) := by
  apply meets_transform_self
  · intro l has
    apply (relates.leaf l has).imp
    rintro _ ⟨l', rfl, related, -⟩
    exact congrArg Expr.leaf (fixed.leaf l has l' related)
  · intro p declares
    apply (relates.declaration p declares).imp
    rintro q ⟨related, -⟩
    exact fixed.declaration p declares q related

/--
A transformation by rules that put related leaves and variables in the place of the old ones gives a
tree with the same positions and with related nodes at each of them, and it keeps what is fixed.
-/
theorem Relates.meets_transform (relates : rules.Relates c L D e) (made : e.EachBlock Block.Made)
    (held : ∀ st f, c.inv st f → f.Holds e) :
    (rules.transform e).Meets c fun e' =>
      e.Along (fun x x' => x.Matches L D x' ∧ (x.Fixed L D → x' = x)) e' ∧
      (e'.same e = true → e' = e) := by
  induction e using Expr.inductionOn with
  | leaf l =>
    rw [transform_leaf]
    apply (relates.leaf l (Expr.has_self _)).imp
    rintro _ ⟨l', rfl, related, same⟩
    constructor
    · apply Expr.along_leaf
      exact ⟨.leaf related, fun fixed =>
        congrArg Expr.leaf (fixed.leaf l (Expr.has_self _) l' related)⟩
    · exact fun eq => congrArg Expr.leaf (same eq)
  | block b ih =>
    intro st f e' st' g inv given
    have kept := fun fixed => relates.meets_self fixed st f e' st' g inv given
    obtain ⟨ps, args, st₁, f₁, f₂, b', declarations, expressions, rfl, becomes⟩ :=
      transform_block_ok given
    obtain ⟨made_here, made_kids⟩ := (Expr.eachBlock_block b).mp made
    have declared : ∀ p ∈ b.declarations, (rules.declaration p).Meets c fun q =>
        D p q ∧ (q.same p = true → q = p) :=
      fun p mem => relates.declaration p ⟨b, Expr.has_self _, mem⟩
    obtain ⟨inv₁, back⟩ := declarations.meets declared inv
    obtain ⟨inv₂, back'⟩ := expressions.meets (fun e child =>
      ih e child (relates.child child) (made_kids e child)
        fun st f inv => (held st f inv).child child) inv₁
    refine ⟨c.inv_mono _ _ _ inv₂ becomes.grows, fun final => ?_⟩
    obtain ⟨final₁, along⟩ := back' final
    obtain ⟨final₀, related⟩ := back final₁
    obtain ⟨declarations_eq, expressions_eq⟩ := becomes.eq_given
      (related.imp fun _ _ both => both.2) (along.imp fun _ _ both => both.2)
    obtain ⟨-, shape_eq, count_eq, -⟩ := becomes.exchanged made_here
    refine ⟨final₀, Expr.along_block_iff.mpr ⟨⟨.block shape_eq count_eq ?_, ?_⟩, ?_⟩, ?_⟩
    · rw [declarations_eq]
      exact related.imp fun _ _ both => both.1
    · exact fun fixed => ((kept fixed).2 final).2
    · rw [expressions_eq]
      exact along.imp fun _ _ both => both.1
    · intro same
      cases becomes with
      | kept => rfl
      | rebuilt _ _ _ id_eq =>
        -- The number of a new block has been given out to no block of the tree.
        have new : f₂.next ≤ b'.id := Nat.le_of_eq id_eq.symm
        rw [(held _ _ inv₂).not_same new (Expr.has_self _)] at same
        cases same

end Rules

end ScopedExpr
