import Mathlib.Data.Set.Card
import ScopedExpr.Proofs.Forest.Views

/-!
# Cursors

A cursor goes over the children of a block and then stays behind the last of them. What it reports
as still to come is at every place what comes. A cursor without a block stays behind the first child
and reports the others, which do not come.
-/

namespace ScopedExpr

/-- The cursor after so many calls for the next child. -/
def Cursor.after (c : Cursor) : Nat → Cursor
  | 0 => c
  | k + 1 => (c.after k).next.2

lemma Cursor.after_add (c : Cursor) (j k : Nat) : c.after (j + k) = (c.after j).after k := by
  induction k with
  | zero => rfl
  | succ k ih => rw [← Nat.add_assoc, after, after, ih]

/-- The two bounds always agree. -/
lemma Cursor.length?_eq (c : Cursor) : c.length? = some c.remaining := if_pos rfl

/--
What a cursor over the children of the block tells after `k` calls if it gets at `n` of them. It has
read no more children than there are, so that their numbers can be subtracted, and counts those that
it has not read as still to come.
-/
structure Cursor.Tells (c : Cursor) (b : Block Expr) (n k : Nat) : Prop where
  index_le : c.index ≤ c.length
  sizeHint_eq : c.sizeHint = (b.count - min k n, some (b.count - min k n))
  length?_eq : c.length? = some (b.count - min k n)
  next_of_lt : k < n → ∃ e, b.expression k = .ok e ∧ c.next.1 = some e
  next_of_le : n ≤ k → c.next.1 = none
  coming : {j | (c.after j).next.1.isSome = true}.encard = (n - min k n : Nat)

namespace ListView.Views

variable {v : ListView} {b : Block Expr}

/-- A step leads to the next place, but for the last one, where nothing more can be read. -/
lemma next_min (views : v.Views b) (k : Nat) : (v.cursorAt (min k v.reach)).next =
    ((b.expressions.take v.reach)[k]?, v.cursorAt (min (k + 1) v.reach)) := by
  have length_eq : (b.expressions.take v.reach).length = v.reach :=
    List.length_take_of_le views.reach_le
  rw [views.next_eq]
  rcases Nat.lt_or_ge k v.reach with lt | le
  · rw [Nat.min_eq_left lt.le, Nat.min_eq_left lt]
    rw [← length_eq] at lt
    rw [List.getElem?_eq_getElem lt]
  · rw [Nat.min_eq_right le, Nat.min_eq_right (le.trans k.le_succ),
      List.getElem?_eq_none length_eq.le, List.getElem?_eq_none (length_eq.le.trans le)]

/--
After a run of calls the cursor stands behind as many children, or behind the last it gets at.
-/
lemma after_cursor (views : v.Views b) (k : Nat) :
    v.cursor.after k = v.cursorAt (min k v.reach) := by
  induction k with
  | zero => rw [Nat.zero_min]; rfl
  | succ k ih => rw [Cursor.after, ih, views.next_min]

/-- A cursor takes for still to come what it has not read. -/
lemma remaining_after (views : v.Views b) (k : Nat) :
    (v.cursor.after k).remaining = b.count - min k v.reach := by
  rw [views.after_cursor, ← views.length_eq]
  rfl

/-- After `k` calls the cursor gives the child at the place `k`, as far as the view gets. -/
lemma next_after (views : v.Views b) (k : Nat) :
    (v.cursor.after k).next.1 = (b.expressions.take v.reach)[k]? := by
  rw [views.after_cursor, views.next_min]

lemma tells (views : v.Views b) (k : Nat) : (v.cursor.after k).Tells b v.reach k where
  index_le := by
    have reach_le := views.reach_le
    rw [b.length_expressions, ← views.length_eq] at reach_le
    rw [views.after_cursor]
    exact (Nat.min_le_right k v.reach).trans reach_le
  sizeHint_eq := by rw [Cursor.sizeHint, views.remaining_after]
  length?_eq := by rw [Cursor.length?_eq, views.remaining_after]
  next_of_lt lt := by
    have lt' := Nat.lt_of_lt_of_le lt views.reach_le
    refine ⟨_, Block.expression_of_lt lt', (views.next_after k).trans ?_⟩
    rw [List.getElem?_take_of_lt lt, List.getElem?_eq_getElem lt']
  next_of_le le := by rw [views.next_after, List.getElem?_take_eq_none le]
  coming := by
    have comes (j : Nat) : ((v.cursor.after k).after j).next.1.isSome = true ↔
        j < v.reach - min k v.reach := by
      rw [← Cursor.after_add, views.next_after, isSome_getElem?,
        List.length_take_of_le views.reach_le]
      omega
    simp only [comes]
    exact Set.Nat.encard_range _

end ListView.Views

namespace Inventory

variable {w : Inventory} {b : Block Expr}

/--
A cursor that starts in front of the children of a block gives them one after another, and from then
on nothing for ever. Before each call it reports how many children are still to come, both as the
least and as the greatest number. This needs the block to be where it was when it got the view, as
it is unless it was moved; a cursor that has lost its block gives the first child, and from then on
nothing, but reports the others.
-/
theorem cursor_tells (attainable : w.Attainable) (mem : .block b ∈ w.nodes) :
    ∃ v, ((Command.view b).reply.run w.forest).1 = .view v ∧
      (w.Reachable ∨ w.forest.hasView b = false → v.owner? = some b) ∧
      (v.owner? ≠ none → ∀ k, (v.cursor.after k).Tells b b.count k) ∧
      (v.owner? = none → ∀ k, (v.cursor.after k).Tells b 1 k) := by
  have views := attainable.views mem
  refine ⟨_, rfl, attainable.owner_eq mem, fun owned k => ?_, fun lost k => ?_⟩
  · exact views.reach_of_owner owned ▸ views.tells k
  · exact views.reach_of_none lost ▸ views.tells k

/--
The scope has been asked for its second child before the view is made. A cursor that has given both
children is called three times more. When the scope is moved with its view, the cursor of this view
stays in front of the second child, which is reported and does not come.
-/
theorem cursor_tells_ended :
    let x : Param := ⟨0, some "x", .int, false⟩
    let one : Expr := .leaf (.constant ⟨1, .int 1, .int⟩)
    let b : Block Expr := ⟨2, .scopeN [x] x.read [one]⟩
    let moved : Block Expr := ⟨4, b.layout⟩
    ∃ (w : Inventory) (v v' : ListView), w.Reachable ∧ .block b ∈ w.nodes ∧
      ((Command.view b).reply.run w.forest).1 = .view v ∧
      v.cursor.sizeHint = (2, some 2) ∧ v.cursor.next.1 = some x.read ∧
      (v.cursor.after 1).length? = some 1 ∧ (v.cursor.after 1).next.1 = some one ∧
      (v.cursor.after 2).length? = some 0 ∧ (v.cursor.after 2).next.1 = none ∧
      (v.cursor.after 5).index ≤ (v.cursor.after 5).length ∧
      (v.cursor.after 5).sizeHint = (0, some 0) ∧ (v.cursor.after 5).next.1 = none ∧
      .block moved ∈ ((w.perform (.view b)).move b).nodes ∧
        ((Command.view moved).reply.run ((w.perform (.view b)).move b).forest).1 = .view v' ∧
        v'.cursor.next.1 = some x.read ∧ (v'.cursor.after 5).next.1 = none ∧
        (v'.cursor.after 5).length? = some 1 := by
  intro x one b moved
  let cs : List Command := [.param (some "x") .int false, .constant (.int 1) .int, .read x,
    .scope [x] [x.read, one], .ask (.child b 1)]
  let w : Inventory := cs.foldl Inventory.perform {}
  have reachable : w.Reachable := by
    refine ⟨cs, .cons ⟨List.nil_subset _, List.nil_subset _⟩ ?_⟩
    refine .cons ⟨List.nil_subset _, List.nil_subset _⟩ ?_
    refine .cons ⟨List.Subset.refl _, List.nil_subset _⟩ ?_
    refine .cons ⟨List.Subset.refl _, List.Subset.refl _⟩ ?_
    exact .cons ⟨List.nil_subset _, List.nil_subset _⟩ (.nil _)
  have mem : .block b ∈ w.nodes := .head _
  obtain ⟨v, reply, owned, tells, -⟩ := cursor_tells reachable.attainable mem
  have owner_eq := owned (.inl reachable)
  have tells := tells (by rw [owner_eq]; exact Option.some_ne_none b)
  obtain ⟨e, here, first⟩ := (tells 0).next_of_lt (by decide)
  cases here
  obtain ⟨e, here, second⟩ := (tells 1).next_of_lt (by decide)
  cases here
  let wm : Inventory := (w.perform (.view b)).move b
  have legal : (Command.view b).Legal w :=
    ⟨List.nil_subset _, List.cons_subset.mpr ⟨mem, List.nil_subset _⟩⟩
  have attained : wm.Attainable := reachable.attainable.course (.command legal (.move mem (.nil _)))
  have mem' : .block moved ∈ wm.nodes := .head _
  obtain ⟨v', reply', -, -, tells'⟩ := cursor_tells attained mem'
  have owner_eq' : v'.owner? = none := by
    cases reply'
    rfl
  have tells' := tells' owner_eq'
  obtain ⟨e, here, first'⟩ := (tells' 0).next_of_lt Nat.one_pos
  cases here
  exact ⟨w, v, v', reachable, mem, reply, (tells 0).sizeHint_eq, first, (tells 1).length?_eq,
    second, (tells 2).length?_eq, (tells 2).next_of_le (by decide), (tells 5).index_le,
    (tells 5).sizeHint_eq, (tells 5).next_of_le (by decide), mem', reply', first',
    (tells' 5).next_of_le (by decide), (tells' 5).length?_eq⟩

end Inventory

end ScopedExpr
