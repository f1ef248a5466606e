import ScopedExpr.Pass.Leaves
import ScopedExpr.Proofs.Expr.Nodes
import ScopedExpr.Proofs.Traversal.WalkBlock

/-!
# Shapes of blocks

A block comes from a factory, an update or a rebuild, or from a walk through a block by some
transformer. However it has come about, its shape is decided by the numbers of its variables and
children.
-/

namespace ScopedExpr

variable {σ α β : Type}

/-! ### Counts that a shape asks for -/

/-- The numbers of variables and children of the blocks of a shape. -/
def Shape.Asks : Shape → Nat → Nat → Prop
  | .block2, declared, children => declared = 0 ∧ children = 2
  | .block3, declared, children => declared = 0 ∧ children = 3
  | .block4, declared, children => declared = 0 ∧ children = 4
  | .block5, declared, children => declared = 0 ∧ children = 5
  | .blockN, declared, children => declared = 0 ∧ (children = 1 ∨ 6 ≤ children)
  | .scope1, declared, children => 1 ≤ declared ∧ children = 1
  | .scopeN, declared, children => 1 ≤ declared ∧ 2 ≤ children

/-- The shape for two counts is the one that asks for them. -/
lemma Shape.ofCounts_eq_iff {declared children : Nat} (filled : 1 ≤ children) (s : Shape) :
    Shape.ofCounts declared children = s ↔ s.Asks declared children := by
  rcases declared with _ | declared <;> rcases children with _ | _ | _ | _ | _ | _ | children
  case zero.zero | succ.zero => exact absurd filled (by decide)
  all_goals cases s <;> simp [ofCounts, Asks]

/-! ### Blocks that are obtained -/

/-- Whether the block is made, or is an update, a rebuild or a walk of a block that is obtained. -/
inductive Block.Obtained : Block Expr → Prop where
  | made {b : Block Expr} (made : b.Made) : Obtained b
  | update {declarations : List Param} {args : List Expr} {b b' : Block Expr}
      (obtained : Obtained b) (given : Gives (b.update declarations args) (.block b')) : Obtained b'
  | rebuild {declarations? : Option (List Param)} {args : List Expr} {b b' : Block Expr}
      (obtained : Obtained b) (given : Gives (b.rebuild declarations? args) (.block b')) :
      Obtained b'
  | walk {σ : Type} {t : Transformer σ} {hook : Expr → TransformM σ Expr} {b b' : Block Expr}
      {st st' : σ} {f g : Forest} (obtained : Obtained b)
      (given : (t.walkBlock b (b.expressions.map fun e _ => hook e)).outcome st f =
        (.ok (.block b', st'), g)) : Obtained b'

/-- A walk keeps or rebuilds, so it leads to no other blocks. -/
lemma Block.Obtained.to_made {b : Block Expr} (obtained : b.Obtained) : b.Made := by
  induction obtained with
  | made made => exact made
  | update _ given ih => exact ih.update given
  | rebuild _ given ih => exact ih.rebuild given
  | walk _ given ih =>
    obtain ⟨ps, args, f', b', -, eq, becomes⟩ := Transformer.walkBlock_ok given
    cases eq
    exact (becomes.exchanged ih).made

/-- A block that is obtained has the shape that asks for its counts. -/
lemma Block.Obtained.shape_eq_iff {b : Block Expr} (obtained : b.Obtained) (s : Shape) :
    b.shape = s ↔ s.Asks b.declarations.length b.count := by
  rw [show b.shape = _ from obtained.to_made.fits]
  exact Shape.ofCounts_eq_iff b.layout.count_pos s

/-! ### Trees of such blocks -/

/-- Whether every result of the computation has the property. -/
def TransformM.Yields (P : α → Prop) (x : TransformM σ α) : Prop :=
  ∀ st f a st' g, x.outcome st f = (.ok (a, st'), g) → P a

/-- Whether the hooks give expressions with the property if the walks that they take do. -/
structure Transformer.Yields (P : Expr → Prop) (t : Transformer σ) : Prop where
  expr : ∀ e walk, walk.Yields P → (t.expr e walk).Yields P
  leaf : ∀ l, (t.leaf l).Yields P
  block : ∀ b walk, walk.Yields P → (t.block b walk).Yields P

variable {t : Transformer σ} {hook : Expr → TransformM σ Expr} {b : Block Expr} {e : Expr}

lemma Transformer.yields_walkBlock (obtained : (Expr.block b).EachBlock Block.Obtained)
    (kids : ∀ e ∈ b.expressions, (hook e).Yields (Expr.EachBlock Block.Obtained)) :
    (t.walkBlock b (b.expressions.map fun e _ => hook e)).Yields
      (Expr.EachBlock Block.Obtained) := by
  intro st f e' st' g given
  obtain ⟨here, below⟩ := (Expr.eachBlock_block b).mp obtained
  obtain ⟨ps, args, f', b', ⟨-, expressions⟩, rfl, becomes⟩ := walkBlock_ok given
  rw [Expr.eachBlock_block]
  refine ⟨here.walk given, ?_⟩
  rcases becomes.expressions_eq with eq | eq
  · exact eq ▸ below
  · intro arg mem
    obtain ⟨kid, _, _, _, _, called, call, -⟩ := expressions.exists_of_mem (eq ▸ mem)
    exact kids kid called.mem _ _ _ _ _ call

/-- If the hooks give nothing but obtained blocks, neither does the transformation. -/
lemma Transformer.Yields.transform (yields : t.Yields (Expr.EachBlock Block.Obtained))
    (obtained : e.EachBlock Block.Obtained) :
    (t.transform e).Yields (Expr.EachBlock Block.Obtained) := by
  induction e using Expr.inductionOn with
  | leaf l =>
    rw [transform_eq]
    exact yields.expr _ _ (yields.leaf l)
  | block b ih =>
    rw [transform_eq]
    apply yields.expr
    apply yields.block
    apply yields_walkBlock obtained
    intro e mem
    exact ih e mem (((Expr.eachBlock_block b).mp obtained).2 e mem)

lemma Rules.yields {rules : Rules σ} {P : Expr → Prop} (leaf : ∀ l, (rules.leaf l).Yields P) :
    rules.transformer.Yields P where
  expr _ _ yields := yields
  leaf := leaf
  block _ _ yields := yields

/--
A block that is obtained has a child, has each shape exactly if its counts are those that the shape
asks for, and is a scope exactly if it declares a variable; so equal counts make equal shapes. If
all blocks of a tree are obtained, and the hooks of a transformer give only trees of such blocks
when their walks do, then all blocks of the transformed tree are obtained as well.
-/
theorem Block.shape_obtained :
    (∀ b : Block Expr, b.Obtained →
      1 ≤ b.count ∧ (∀ s, b.shape = s ↔ s.Asks b.declarations.length b.count) ∧
      (b.isScope = true ↔ 1 ≤ b.declarations.length)) ∧
    (∀ b b' : Block Expr, b.Obtained → b'.Obtained →
      b'.declarations.length = b.declarations.length → b'.count = b.count →
      b'.shape = b.shape) ∧
    (∀ {σ : Type} (t : Transformer σ), t.Yields (Expr.EachBlock Block.Obtained) →
      ∀ e : Expr, e.EachBlock Block.Obtained →
        (t.transform e).Yields (Expr.EachBlock Block.Obtained)) := by
  refine ⟨?_, ?_, ?_⟩
  · intro b obtained
    refine ⟨b.layout.count_pos, obtained.shape_eq_iff, ?_⟩
    rw [Nat.one_le_iff_ne_zero, ne_eq, List.length_eq_zero_iff]
    exact obtained.to_made.fits.isScope_iff
  · intro b b' obtained obtained' declared children
    exact obtained.to_made.fits.shape_eq obtained'.to_made.fits declared children
  · intro σ t yields e obtained
    exact yields.transform obtained

/-- A scope loses its variable in an update; then both of its reads give way to placeholders. -/
theorem Block.shape_obtained_punched :
    let x : Param := ⟨0, some "x", .int, false⟩
    let b : Block Expr := ⟨2, .block2 x.read x.read⟩
    (Expr.block b).EachBlock Block.Obtained ∧
    (Rules.punch (σ := Unit)).transformer.Yields (Expr.EachBlock Block.Obtained) ∧
      ∃ b' g, (Rules.punch.transformer.transform (.block b)).outcome () { next := 3 } =
          (.ok (.block b', ()), g) ∧
        b'.Obtained ∧ b'.id ≠ b.id ∧ b'.shape = .block2 := by
  intro x b
  let scope : Block Expr := ⟨1, .scopeN [x] x.read [x.read]⟩
  have made : Gives (Build.scope [x] [x.read, x.read]) (.block scope) := ⟨{ next := 1 }, rfl⟩
  have updated : Gives (scope.update [] [x.read, x.read]) (.block b) := ⟨{ next := 2 }, rfl⟩
  have obtained : b.Obtained := .update (.made (.scope made)) updated
  have tree : (Expr.block b).EachBlock Block.Obtained := by
    rw [Expr.eachBlock_block]
    refine ⟨obtained, ?_⟩
    simp [b, Block.expressions, Layout.expressions, Param.read]
  have yields : (Rules.punch (σ := Unit)).transformer.Yields (Expr.EachBlock Block.Obtained) := by
    apply Rules.yields
    rintro (_ | _ | _) st f e st' g given <;> cases given <;> exact Expr.eachBlock_leaf _
  obtain ⟨shapes, same_shape, transformed⟩ := Block.shape_obtained
  obtain ⟨b', g, given⟩ : ∃ b' g, (Rules.punch.transformer.transform (.block b)).outcome ()
      { next := 3 } = (.ok (.block b', ()), g) := ⟨_, _, rfl⟩
  have obtained' : b'.Obtained :=
    transformed _ yields (.block b) tree _ _ _ _ _ given b' (Expr.has_self _)
  refine ⟨tree, yields, b', g, given, obtained', ?_, ?_⟩
  · cases given
    decide
  · rw [(shapes b' obtained').2.1]
    cases given
    exact ⟨rfl, rfl⟩

end ScopedExpr
