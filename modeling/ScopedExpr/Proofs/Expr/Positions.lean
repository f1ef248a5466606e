import Mathlib.Data.List.Forall2
import Mathlib.Data.Option.Basic
import Mathlib.Logic.Relation
import ScopedExpr.Forest.Factory
import ScopedExpr.Proofs.Expr.Nodes

/-!
# Positions in an expression

A position says for each step down from the root which child is taken. Two expressions are compared
position by position: they have the same positions, and the nodes at each of them are related.
-/

namespace ScopedExpr

/-- Lists are related one by one if they are place by place. -/
lemma forall₂_iff_getElem? {α β : Type} {R : α → β → Prop} {as : List α} {bs : List β} :
    List.Forall₂ R as bs ↔ ∀ i : Nat, Option.Rel R as[i]? bs[i]? := by
  constructor
  · intro related
    induction related with
    | nil =>
      intro i
      simp
    | cons head _ ih =>
      rintro (_ | i)
      · simpa using head
      · simpa using ih i
  · intro places
    induction as generalizing bs with
    | nil =>
      cases bs with
      | nil => exact .nil
      | cons b bs => simpa using places 0
    | cons a as ih =>
      cases bs with
      | nil => simpa using places 0
      | cons b bs =>
        refine .cons (by simpa using places 0) (ih fun i => ?_)
        simpa using places (i + 1)

/-- Lists that are related item by item have related last items, if they have any. -/
lemma forall₂_getLast? {α β : Type} {R : α → β → Prop} {as : List α} {bs : List β}
    (related : List.Forall₂ R as bs) : Option.Rel R as.getLast? bs.getLast? := by
  rw [List.getLast?_eq_getElem?, List.getLast?_eq_getElem?, ← related.length_eq]
  exact forall₂_iff_getElem?.mp related _

lemma Block.getLast?_expressions {α : Type} (b : Block α) :
    b.expressions.getLast? = some b.result := b.layout.getLast?_expressions

namespace Expr

variable {R S : Expr → Expr → Prop} {e e' n x : Expr} {b b' : Block Expr} {l l' : Leaf}

def at? : Expr → List Nat → Option Expr
  | e, [] => some e
  | .leaf _, _ :: _ => none
  | .block b, i :: path => (b.get? i).bind fun e => e.at? path

@[simp] lemma at?_nil (e : Expr) : e.at? [] = some e := by cases e <;> rfl

@[simp] lemma at?_leaf_cons (l : Leaf) (i : Nat) (path : List Nat) :
    (Expr.leaf l).at? (i :: path) = none := rfl

@[simp] lemma at?_block_cons (b : Block Expr) (i : Nat) (path : List Nat) :
    (Expr.block b).at? (i :: path) = b.expressions[i]?.bind fun e => e.at? path := by
  rw [at?, b.get?_eq]

/-- Where one position leads from the node at another one. -/
lemma at?_append (e : Expr) (path path' : List Nat) :
    e.at? (path ++ path') = (e.at? path).bind fun x => x.at? path' := by
  induction path generalizing e with
  | nil => simp
  | cons i path ih =>
    cases e with
    | leaf l => simp
    | block b => simp [ih, Option.bind_assoc]

/-- The nodes of an expression are what stands at its positions. -/
lemma has_iff_at? : e.Has n ↔ ∃ path, e.at? path = some n := by
  constructor
  · intro has
    induction e using Expr.inductionOn with
    | leaf l =>
      rw [has_leaf] at has
      exact ⟨[], by simp [has]⟩
    | block b ih =>
      rcases (has_block b).mp has with rfl | ⟨e, child, has⟩
      · exact ⟨[], by simp⟩
      · obtain ⟨path, found⟩ := ih e child has
        obtain ⟨i, place⟩ := List.mem_iff_getElem?.mp child
        exact ⟨i :: path, by simp [place, found]⟩
  · rintro ⟨path, found⟩
    induction path generalizing e with
    | nil =>
      rw [at?_nil, Option.some.injEq] at found
      exact found ▸ e.has_self
    | cons i path ih =>
      cases e with
      | leaf l => simp at found
      | block b =>
        rw [at?_block_cons, Option.bind_eq_some_iff] at found
        obtain ⟨e, place, found⟩ := found
        exact has_of_child (List.mem_of_getElem? place) (ih found)

/-! ### Relations at every position -/

/-- Whether two expressions have the same positions and related nodes at each of them. -/
def Along (R : Expr → Expr → Prop) (e e' : Expr) : Prop :=
  ∀ path, Option.Rel R (e.at? path) (e'.at? path)

lemma Along.here (along : e.Along R e') : R e e' := by
  have root := along []
  rw [at?_nil, at?_nil] at root
  cases root
  assumption

/-- What stands at a position is compared with what stands there in the other expression. -/
lemma Along.at (along : e.Along R e') {path : List Nat} (found : e.at? path = some x) :
    ∃ x', e'.at? path = some x' ∧ x.Along R x' := by
  have related := along path
  rw [found] at related
  generalize found' : e'.at? path = found? at related
  cases related with
  | @some _ x' _ =>
    refine ⟨x', rfl, ?_⟩
    intro rest
    simpa [at?_append, found, found'] using along (path ++ rest)

/--
A relation that follows at each pair of nodes from what is below them holds along the expressions.
-/
lemma Along.imp (along : e.Along R e') (imp : ∀ x x', x.Along R x' → S x x') : e.Along S e' := by
  intro path
  cases found : e.at? path with
  | none =>
    have related := along path
    rw [found] at related
    cases h : e'.at? path <;> rw [h] at related <;> cases related
    exact .none
  | some x =>
    obtain ⟨x', found', related⟩ := along.at found
    rw [found']
    exact .some (imp x x' related)

/-- The expressions may be exchanged if the relation is turned round. -/
lemma Along.flip (along : e.Along R e') : e'.Along (fun x x' => R x' x) e := by
  intro path
  have related := along path
  generalize e.at? path = found?, e'.at? path = found'? at related ⊢
  cases related with
  | some related => exact .some related
  | none => exact .none

/-- Along two pairs with a common expression the relations are composed. -/
lemma Along.comp {e'' : Expr} (along : e.Along R e') (along' : e'.Along S e'') :
    e.Along (Relation.Comp R S) e'' := by
  intro path
  have related := along path
  have related' := along' path
  generalize e.at? path = found?, e'.at? path = found'?, e''.at? path = found''?
    at related related' ⊢
  cases related with
  | none =>
    cases related'
    exact .none
  | some related =>
    cases related' with
    | some related' => exact .some ⟨_, related, related'⟩

lemma along_leaf (related : R (.leaf l) (.leaf l')) : (Expr.leaf l).Along R (.leaf l') := by
  rintro (_ | ⟨i, path⟩)
  · exact .some related
  · exact .none

/--
Blocks are related along each other if they are related, and so are their children one by one.
-/
lemma along_block_iff : (Expr.block b).Along R (.block b') ↔
    R (.block b) (.block b') ∧ List.Forall₂ (Along R) b.expressions b'.expressions := by
  have child (b : Block Expr) (i : Nat) : (Expr.block b).at? [i] = b.expressions[i]? := by simp
  rw [forall₂_iff_getElem?]
  constructor
  · intro along
    refine ⟨along.here, fun i => ?_⟩
    rw [← child, ← child]
    cases found : (Expr.block b).at? [i] with
    | none =>
      have related := along [i]
      rw [found] at related
      cases h : (Expr.block b').at? [i] <;> rw [h] at related <;> cases related
      exact .none
    | some x =>
      obtain ⟨x', found', related⟩ := along.at found
      rw [found']
      exact .some related
  · rintro ⟨here, kids⟩ (_ | ⟨i, path⟩)
    · simpa using here
    · rw [at?_block_cons, at?_block_cons]
      have related := kids i
      cases h : b.expressions[i]? <;> cases h' : b'.expressions[i]? <;> rw [h, h'] at related <;>
        cases related
      · exact .none
      · exact ‹Along R _ _› path

lemma Along.kids (along : (Expr.block b).Along R (.block b')) :
    List.Forall₂ (Along R) b.expressions b'.expressions := (along_block_iff.mp along).2

/-- Every node of the second expression has a node of the first at its position. -/
lemma Along.exists_of_has (along : e.Along R e') (has : e'.Has n) : ∃ x, e.Has x ∧ R x n := by
  obtain ⟨path, found⟩ := has_iff_at?.mp has
  have related := along path
  rw [found] at related
  generalize h : e.at? path = found? at related
  cases related with
  | @some x _ related => exact ⟨x, has_iff_at?.mpr ⟨path, h⟩, related⟩

/-- If related leaves have one type, and blocks are related to blocks, then all types are kept. -/
lemma Along.ty_eq (along : e.Along R e') (leaf : ∀ l x', R (.leaf l) x' → x'.ty = l.ty)
    (block : ∀ b x', R (.block b) x' → ∃ b', x' = .block b') : e'.ty = e.ty := by
  induction e using Expr.inductionOn generalizing e' with
  | leaf l => rw [leaf l e' along.here, ty_leaf]
  | block b ih =>
    obtain ⟨b', rfl⟩ := block b e' along.here
    have last := forall₂_getLast? along.kids
    rw [b.getLast?_expressions, b'.getLast?_expressions] at last
    cases last with
    | some related => rw [ty_block, ty_block, ih b.result b.result_mem related]

/-! ### Parameters -/

/-- Whether some scope in the expression declares the parameter. -/
def Declares (e : Expr) (p : Param) : Prop := ∃ b, e.Has (.block b) ∧ p ∈ b.declarations

/-- Whether the parameter is read or declared somewhere in the expression. -/
def Mentions (e : Expr) (p : Param) : Prop := e.Has p.read ∨ e.Declares p

variable {p : Param}

@[simp] lemma not_declares_leaf (l : Leaf) : ¬ (Expr.leaf l).Declares p := by
  rintro ⟨b, has, -⟩
  simp at has

/-- What is declared in a block is declared by the block itself or in one of its children. -/
@[simp] lemma declares_block (b : Block Expr) : (Expr.block b).Declares p ↔
    p ∈ b.declarations ∨ ∃ e ∈ b.expressions, e.Declares p := by
  constructor
  · rintro ⟨b', has, mem⟩
    rcases (has_block b).mp has with same | ⟨e, child, has⟩
    · cases same
      exact .inl mem
    · exact .inr ⟨e, child, b', has, mem⟩
  · rintro (mem | ⟨e, child, b', has, mem⟩)
    · exact ⟨b, has_self _, mem⟩
    · exact ⟨b', has_of_child child has, mem⟩

@[simp] lemma mentions_leaf (l : Leaf) : (Expr.leaf l).Mentions p ↔ l = .parameter p := by
  simp [Mentions, Param.read, eq_comm]

/-- A block mentions what it declares and what its children mention. -/
@[simp] lemma mentions_block (b : Block Expr) : (Expr.block b).Mentions p ↔
    p ∈ b.declarations ∨ ∃ e ∈ b.expressions, e.Mentions p := by
  simp only [Mentions, has_block, declares_block]
  simp only [Param.read, reduceCtorEq, false_or, and_or_left, exists_or]
  exact or_left_comm

end Expr

/--
A place where a parameter may occur: the node at a position, or one of the declarations of the block
at a position.
-/
structure Place where
  position : List Nat
  declared? : Option Nat

namespace Expr

variable {e : Expr} {p : Param}

/-- The parameter that is read or declared at a place. -/
def param? (e : Expr) (place : Place) : Option Param :=
  match e.at? place.position, place.declared? with
  | some (.leaf (.parameter p)), none => some p
  | some (.block b), some i => b.declarations[i]?
  | _, _ => none

/-- A parameter is mentioned exactly if it is found at some place. -/
lemma mentions_iff_param? : e.Mentions p ↔ ∃ place, e.param? place = some p := by
  constructor
  · rintro (has | ⟨b, has, mem⟩)
    · obtain ⟨path, found⟩ := has_iff_at?.mp has
      exact ⟨⟨path, none⟩, by simp [param?, found, Param.read]⟩
    · obtain ⟨path, found⟩ := has_iff_at?.mp has
      obtain ⟨i, place⟩ := List.mem_iff_getElem?.mp mem
      exact ⟨⟨path, some i⟩, by simp [param?, found, place]⟩
  · rintro ⟨⟨path, declared?⟩, found⟩
    unfold param? at found
    split at found
    · rename_i there _
      cases found
      exact .inl (has_iff_at?.mpr ⟨path, there⟩)
    · rename_i there _
      exact .inr ⟨_, has_iff_at?.mpr ⟨path, there⟩, List.mem_of_getElem? found⟩
    · cases found

end Expr

end ScopedExpr
