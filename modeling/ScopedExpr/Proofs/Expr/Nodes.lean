import Mathlib.Tactic.Common
import ScopedExpr.Expr.Text

/-!
# Nodes of an expression

Which nodes an expression is made of, and what is said of each of its blocks.
-/

namespace ScopedExpr

/-- Whether the node is the expression itself or stands below it. -/
def Expr.Has (e n : Expr) : Prop := ∃ depth, (depth, n) ∈ e.nodes

namespace Expr

variable {e n : Expr} {b : Block Expr}

lemma nodesFrom_leaf (l : Leaf) (depth : Nat) (listed : List (Nat × Expr)) :
    (Expr.leaf l).nodesFrom depth listed = (depth, .leaf l) :: listed := by
  simp [nodesFrom]

/-- The nodes below a block are listed behind it, one step deeper. -/
lemma nodesFrom_block (b : Block Expr) (depth : Nat) (listed : List (Nat × Expr)) :
    (Expr.block b).nodesFrom depth listed =
      (depth, .block b) :: b.expressions.foldr (fun e => e.nodesFrom (depth + 1)) listed := by
  simp [nodesFrom, List.foldr_map]

/-- What is listed for a list of expressions, if each of them lists what it has. -/
lemma mem_foldr_nodesFrom {es : List Expr} (depth : Nat) (listed : List (Nat × Expr))
    (each : ∀ e ∈ es, ∀ listed,
      (∃ k, (k, n) ∈ e.nodesFrom depth listed) ↔ e.Has n ∨ ∃ k, (k, n) ∈ listed) :
    (∃ k, (k, n) ∈ es.foldr (fun e => e.nodesFrom depth) listed) ↔
      (∃ e ∈ es, e.Has n) ∨ ∃ k, (k, n) ∈ listed := by
  induction es with
  | nil => simp
  | cons e es ih =>
    obtain ⟨head, tail⟩ := List.forall_mem_cons.mp each
    rw [List.foldr_cons, head, ih tail]
    simp [or_assoc]

/-- The depth and what is listed behind do not matter. -/
lemma mem_nodesFrom (e n : Expr) (depth : Nat) (listed : List (Nat × Expr)) :
    (∃ k, (k, n) ∈ e.nodesFrom depth listed) ↔ e.Has n ∨ ∃ k, (k, n) ∈ listed := by
  induction e using Expr.inductionOn generalizing depth listed with
  | leaf l =>
    rw [Has, nodes, nodesFrom_leaf, nodesFrom_leaf]
    simp [exists_or]
  | block b ih =>
    rw [Has, nodes, nodesFrom_block, nodesFrom_block]
    simp [exists_or, or_assoc, mem_foldr_nodesFrom _ _ fun e mem => ih e mem _]

@[simp] lemma has_leaf (l : Leaf) : (Expr.leaf l).Has n ↔ n = .leaf l := by
  rw [Has, nodes, nodesFrom_leaf]
  simp

/-- The nodes of a block are the block itself and those of its children. -/
@[simp] lemma has_block (b : Block Expr) :
    (Expr.block b).Has n ↔ n = .block b ∨ ∃ e ∈ b.expressions, e.Has n := by
  rw [Has, nodes, nodesFrom_block]
  simp [exists_or, mem_foldr_nodesFrom 1 [] fun e _ => mem_nodesFrom e n 1]

lemma has_self (e : Expr) : e.Has e := by
  cases e <;> simp

lemma has_of_child (child : e ∈ b.expressions) (has : e.Has n) : (Expr.block b).Has n :=
  (has_block b).mpr (.inr ⟨e, child, has⟩)

/-! ### Something said of every block -/

/-- Whether every block in the expression has the property. -/
def EachBlock (P : Block Expr → Prop) (e : Expr) : Prop := ∀ b, e.Has (.block b) → P b

variable {P : Block Expr → Prop}

@[simp] lemma eachBlock_leaf (l : Leaf) : (Expr.leaf l).EachBlock P := by
  intro b has
  simp at has

/-- All blocks of a block are the block itself and those in its children. -/
@[simp] lemma eachBlock_block (b : Block Expr) :
    (Expr.block b).EachBlock P ↔ P b ∧ ∀ e ∈ b.expressions, e.EachBlock P := by
  constructor
  · intro each
    exact ⟨each b (has_self _), fun e child b' has => each b' (has_of_child child has)⟩
  · rintro ⟨here, below⟩ b' has
    rcases (has_block b).mp has with same | ⟨e, child, has⟩
    · cases same
      exact here
    · exact below e child b' has

end Expr

end ScopedExpr
