import ScopedExpr.Proofs.Forest.Contents
import ScopedExpr.Proofs.Forest.Moves

/-!
# Views

A view has the first child and the number of children for itself and asks its block for the rest. As
a block never changes, all that the view tells is what the indexer of the block tells; and as a
block gets one view at most, this goes for every request that comes later. Only where the block has
been moved away from its view is nothing told but the first child and the number.
-/

namespace ScopedExpr

/-! ### A view and its block -/

/-- Whether the view has been made for the block, which it need not find any more. -/
structure ListView.Views (v : ListView) (b : Block Expr) : Prop where
  first_eq : v.first = b.layout.first
  owner_eq : ∀ o, v.owner? = some o → o = b
  length_eq : v.length = b.count

/-- The number of children that the view gets at: all of them, or the one that it has for itself. -/
def ListView.reach (v : ListView) : Nat := if v.owner?.isSome then v.length else 1

/-- Whether the place is the first one where the block has a child of the kind. -/
def Block.FirstAt (b : Block Expr) (P : Expr → Prop) (i : Nat) : Prop :=
  (∃ e, b.expression i = .ok e ∧ P e) ∧ ∀ j < i, ∀ e, b.expression j = .ok e → ¬ P e

/--
Whether all that the view tells of children is what the indexer of the block tells of the first `n`
children. The length is that of the block in any case.
-/
structure ListView.Presents (v : ListView) (b : Block Expr) (n : Nat) : Prop where
  length_eq : v.length = b.count
  isEmpty_eq : v.isEmpty = false
  first_eq : b.expression 0 = .ok v.first
  get?_of_lt : ∀ i < n, ∃ e, b.expression i = .ok e ∧ v.get? i = some e
  get?_of_le : ∀ i, n ≤ i → v.get? i = none
  toList_eq : v.toList.map .ok = (List.range n).map b.expression
  indexOf?_eq_some : ∀ x i,
    v.indexOf? x = some i ↔ i < n ∧ b.FirstAt (fun e => e.same x = true) i
  indexOf?_eq_none : ∀ x,
    v.indexOf? x = none ↔ ∀ i < n, ∀ e, b.expression i = .ok e → e.same x = false
  contains_iff : ∀ x, v.contains x = true ↔ ∃ i, v.indexOf? x = some i

lemma Block.expression_eq_ok {b : Block Expr} {i : Nat} {e : Expr} :
    b.expression i = .ok e ↔ b.expressions[i]? = some e := by
  rw [Block.expression, Block.get?_eq]
  cases b.expressions[i]? <;> simp

namespace ListView.Views

variable {v : ListView} {b : Block Expr}

/-- A view that finds its block gets at all children, and any other one at the first. -/
lemma owner_cases (views : v.Views b) :
    v.owner? = some b ∧ v.reach = b.count ∨ v.owner? = none ∧ v.reach = 1 := by
  rw [reach]
  cases owner : v.owner? with
  | none => exact .inr ⟨rfl, rfl⟩
  | some o =>
    rw [views.owner_eq o owner]
    exact .inl ⟨rfl, views.length_eq⟩

lemma reach_of_owner (views : v.Views b) (owned : v.owner? ≠ none) : v.reach = b.count :=
  (views.owner_cases.resolve_right fun lost => owned lost.1).2

lemma reach_of_none (views : v.Views b) (lost : v.owner? = none) : v.reach = 1 :=
  (views.owner_cases.resolve_left fun owned => by cases lost.symm.trans owned.1).2

lemma reach_pos (views : v.Views b) : 0 < v.reach := by
  rcases views.owner_cases with ⟨-, eq⟩ | ⟨-, eq⟩ <;> rw [eq]
  · exact b.layout.count_pos
  · exact Nat.one_pos

lemma reach_le (views : v.Views b) : v.reach ≤ b.expressions.length := by
  rw [b.length_expressions]
  rcases views.owner_cases with ⟨-, all⟩ | ⟨-, one⟩
  · exact Nat.le_of_eq all
  · exact one ▸ b.layout.count_pos

lemma getElem?_zero (views : v.Views b) : b.expressions[0]? = some v.first := by
  rw [views.first_eq, ← List.head?_eq_getElem?, Block.expressions, Layout.head?_expressions]

/-- Place by place, what the view tells is what stands in the block, as far as it gets. -/
lemma get?_eq (views : v.Views b) (i : Nat) : v.get? i = (b.expressions.take v.reach)[i]? := by
  rw [ListView.get?, views.length_eq]
  cases i with
  | zero => rw [if_pos rfl, List.getElem?_take_of_lt views.reach_pos, views.getElem?_zero]
  | succ i =>
    rw [if_neg (Nat.succ_ne_zero i)]
    rcases views.owner_cases with ⟨owner, reach_eq⟩ | ⟨owner, reach_eq⟩
    · rw [owner, reach_eq, List.take_of_length_le (Nat.le_of_eq b.length_expressions),
        Option.bind_some, Block.get?_eq]
      split
      · rw [List.getElem?_eq_none]
        rwa [b.length_expressions]
      · rfl
    · rw [owner, reach_eq, Option.bind_none, ite_self, List.getElem?_take_eq_none (by omega)]

end ListView.Views

/-! ### Cursors -/

/-- The cursor of a view that has read so many children. -/
def ListView.cursorAt (v : ListView) (i : Nat) : Cursor := { v.cursor with index := i }

namespace ListView.Views

variable {v : ListView} {b : Block Expr}

/-- A step of a cursor reads the place at which it stands, and stays there if nothing is read. -/
lemma next_eq (views : v.Views b) (i : Nat) :
    (v.cursorAt i).next = match (b.expressions.take v.reach)[i]? with
      | some e => (some e, v.cursorAt (i + 1))
      | none => (none, v.cursorAt i) := by
  have read := views.get?_eq i
  rw [ListView.get?] at read
  rw [Cursor.next]
  by_cases ended : v.length ≤ i
  · have reach_le := views.reach_le
    rw [b.length_expressions, ← views.length_eq] at reach_le
    rw [if_pos (show (v.cursorAt i).length ≤ (v.cursorAt i).index from ended),
      List.getElem?_eq_none (Nat.le_trans (List.length_take_le _ _) (Nat.le_trans reach_le ended))]
  · rw [if_neg ended] at read
    rw [if_neg (show ¬ (v.cursorAt i).length ≤ (v.cursorAt i).index from ended), ← read]
    rfl

/-- From any place on, a cursor gives the children in order, as far as the view gets. -/
lemma take_eq (views : v.Views b) (n i : Nat) :
    (v.cursorAt i).take n = ((b.expressions.take v.reach).drop i).take n := by
  induction n generalizing i with
  | zero => rfl
  | succ n ih =>
    rw [Cursor.take, views.next_eq]
    cases here : (b.expressions.take v.reach)[i]? with
    | none => rw [List.drop_eq_nil_of_le (List.getElem?_eq_none_iff.mp here), List.take_nil]
    | some e =>
      obtain ⟨lt, rfl⟩ := List.getElem?_eq_some_iff.mp here
      rw [List.drop_eq_getElem_cons lt, List.take_succ_cons, ← ih]

lemma toList_eq (views : v.Views b) : v.toList = b.expressions.take v.reach := by
  have reach_le := views.reach_le
  rw [b.length_expressions, ← views.length_eq] at reach_le
  have all := views.take_eq v.length 0
  rwa [List.drop_zero, List.take_take, Nat.min_eq_right reach_le] at all

/-! ### Searches -/

/--
The first child is compared on its own and all others one by one; together this is one search.
-/
lemma indexOf?_eq (views : v.Views b) (x : Expr) :
    v.indexOf? x = (List.range v.reach).find? fun i => b.expressions[i]?.any (·.same x) := by
  obtain ⟨n, reach_eq⟩ := Nat.exists_eq_succ_of_ne_zero (Nat.ne_of_gt views.reach_pos)
  rw [ListView.indexOf?, reach_eq, List.range_eq_range', List.range'_succ, List.find?_cons,
    views.getElem?_zero, Option.any_some]
  cases v.first.same x with
  | true => rfl
  | false =>
    rcases views.owner_cases with ⟨owner, all⟩ | ⟨owner, one⟩
    · have length_eq : v.length - 1 = n := by rw [views.length_eq, ← all, reach_eq]; rfl
      rw [owner, length_eq]
      simp only [Block.get?_eq]
      rfl
    · obtain rfl : n = 0 := Nat.succ.inj (reach_eq.symm.trans one)
      rw [owner]
      rfl

/-- What is not found at a place is not there. -/
lemma not_any_same {e? : Option Expr} {x : Expr} :
    (!e?.any (·.same x)) = true ↔ ∀ e, e? = some e → e.same x = false := by
  cases e? <;> simp

/-- As far as a view gets, it tells what the indexer of its block tells. -/
lemma presents (views : v.Views b) : v.Presents b v.reach where
  length_eq := views.length_eq
  isEmpty_eq := by
    rw [ListView.isEmpty, views.length_eq, beq_eq_false_iff_ne]
    exact Nat.ne_of_gt b.layout.count_pos
  first_eq := Block.expression_eq_ok.mpr views.getElem?_zero
  get?_of_lt i lt := by
    have lt' := Nat.lt_of_lt_of_le lt views.reach_le
    refine ⟨_, Block.expression_of_lt lt', (views.get?_eq i).trans ?_⟩
    rw [List.getElem?_take_of_lt lt, List.getElem?_eq_getElem lt']
  get?_of_le i le := by rw [views.get?_eq, List.getElem?_take_eq_none le]
  toList_eq := by
    rw [views.toList_eq, List.map_take, ← b.map_expression, ← List.map_take, List.take_range,
      ← b.length_expressions, Nat.min_eq_left views.reach_le]
  indexOf?_eq_some x i := by
    rw [views.indexOf?_eq, List.find?_range_eq_some]
    simp only [Block.FirstAt, Block.expression_eq_ok, Option.any_eq_true, not_any_same,
      Bool.not_eq_true, List.mem_range]
    exact and_left_comm
  indexOf?_eq_none x := by
    rw [views.indexOf?_eq, List.find?_range_eq_none]
    simp only [Block.expression_eq_ok, not_any_same]
  contains_iff x := by rw [ListView.contains, Option.isSome_iff_exists]

/-- A view that finds its block searches all children. -/
lemma indexOf?_eq_some_iff (views : v.Views b) (owned : v.owner? ≠ none) (x : Expr) (i : Nat) :
    v.indexOf? x = some i ↔ b.FirstAt (fun e => e.same x = true) i := by
  rw [views.presents.indexOf?_eq_some, views.reach_of_owner owned, and_iff_right_iff_imp]
  rintro ⟨⟨e, here, -⟩, -⟩
  rw [← b.length_expressions]
  exact (List.getElem?_eq_some_iff.mp (Block.expression_eq_ok.mp here)).1

end ListView.Views

/-! ### The views of a forest -/

/-- A request finds the view of the block or makes it; a view that is new finds its block. -/
lemma Build.viewOf_cases (b : Block Expr) (f : Forest) :
    (∃ v, f.view? b.id = some v ∧ (Build.viewOf b).run f = (v, f)) ∨
    ∃ v g, f.view? b.id = none ∧ (Build.viewOf b).run f = (v, g) ∧ v.Views b ∧
      v.owner? = some b ∧ g.views = (b.id, v) :: f.views := by
  cases found : f.view? b.id with
  | some v => exact .inl ⟨v, rfl, by simp only [Build.viewOf, found]⟩
  | none =>
    let v : ListView := ⟨f.next, b.layout.first, some b, b.count⟩
    have views : v.Views b := ⟨rfl, fun o owner => (Option.some.inj owner).symm, rfl⟩
    refine .inr ⟨v, ⟨f.next + 1, (b.id, v) :: f.views⟩, rfl, ?_, views, rfl, rfl⟩
    simp only [Build.viewOf, found, v]

lemma Command.run_view (b : Block Expr) (f : Forest) : (Command.view b).reply.run f =
    (.view ((Build.viewOf b).run f).1, ((Build.viewOf b).run f).2) := rfl

/-- After a request the block has the view that was replied. -/
lemma Build.view?_viewOf_self (b : Block Expr) (f : Forest) :
    ((Build.viewOf b).run f).2.view? b.id = some ((Build.viewOf b).run f).1 := by
  rcases Build.viewOf_cases b f with ⟨v, found, ran⟩ | ⟨v, g, -, ran, -, -, views_eq⟩
  · rw [ran, found]
  · rw [ran, Forest.view?, views_eq, List.lookup_cons_self]

/-- A view that is there after a command was there before, or has been made for its block. -/
lemma Command.view?_reply_cases {c : Command} {f : Forest} {number : Nat} {v : ListView}
    (found : (c.reply.run f).2.view? number = some v) :
    f.view? number = some v ∨
      ∃ b, c = .view b ∧ b.id = number ∧ v.Views b ∧ v.owner? = some b := by
  by_cases view : ∃ b, c = .view b
  · obtain ⟨b, rfl⟩ := view
    rw [run_view] at found
    rcases Build.viewOf_cases b f with ⟨_, -, ran⟩ | ⟨v', g, -, ran, views, owner, views_eq⟩
    · rw [ran] at found
      exact .inl found
    · rw [ran, Forest.view?, views_eq, List.lookup_cons] at found
      split at found
      · cases found
        exact .inr ⟨b, rfl, (eq_of_beq ‹_›).symm, views, owner⟩
      · exact .inl found
  · rw [Forest.view?, c.views_reply view] at found
    exact .inl found

namespace Inventory

variable {w w' : Inventory} {b : Block Expr} {v : ListView} {c : Command} {cs : List Command}

/-- Whether each view has been made for the block that has its number. -/
def Viewed (w : Inventory) : Prop :=
  ∀ number v, w.forest.view? number = some v → ∃ b, .block b ∈ w.nodes ∧ b.id = number ∧ v.Views b

namespace Viewed

lemma perform (viewed : w.Viewed) (legal : c.Legal w) : (w.perform c).Viewed := by
  intro number v found
  rw [Inventory.perform, forest_add] at found
  rcases c.view?_reply_cases found with old | ⟨b, rfl, id_eq, views, -⟩
  · obtain ⟨b, mem, id_eq, views⟩ := viewed number v old
    exact ⟨b, w.nodes_subset_perform c mem, id_eq, views⟩
  · have mem : .block b ∈ w.nodes := legal.nodes List.mem_cons_self
    exact ⟨b, w.nodes_subset_perform _ mem, id_eq, views⟩

/-- The view that goes along with a block is still the view of its layout. -/
lemma move (viewed : w.Viewed) (stocked : w.Stocked) (mem : .block b ∈ w.nodes) :
    (w.move b).Viewed := by
  intro number v found
  rcases Build.view?_move found with kept | ⟨rfl, v₀, kept, rfl⟩
  · obtain ⟨b', mem', id_eq, views⟩ := viewed number v kept
    exact ⟨b', .tail _ mem', id_eq, views⟩
  · obtain ⟨b', mem', id_eq, views⟩ := viewed b.id v₀ kept
    obtain rfl := stocked.block_eq_of_id mem' mem id_eq
    exact ⟨_, .head _, rfl, views.first_eq, by simp, views.length_eq⟩

end Viewed

/-- Whatever is made and moved, each view is that of the block with its number. -/
lemma Attainable.viewed (attainable : w.Attainable) : w.Viewed := by
  have both : w.Sound ∧ w.Viewed := by
    refine attainable.keeps (P := fun w => w.Sound ∧ w.Viewed) ?_ ?_ ⟨Sound.empty, ?_⟩
    · exact fun w c kept legal => ⟨kept.1.perform legal, kept.2.perform legal⟩
    · exact fun w b kept mem => ⟨kept.1.move mem, kept.2.move kept.1.stocked mem⟩
    · intro number v found
      cases found
  exact both.2

/-- The view that is replied has been made for the very block, whenever that was. -/
lemma Attainable.views (attainable : w.Attainable) (mem : .block b ∈ w.nodes) :
    ((Build.viewOf b).run w.forest).1.Views b := by
  rcases Build.viewOf_cases b w.forest with ⟨v, found, ran⟩ | ⟨v, g, -, ran, views, -⟩
  · obtain ⟨b', mem', id_eq, views⟩ := attainable.viewed _ _ found
    obtain rfl := attainable.sound.stocked.block_eq_of_id mem' mem id_eq
    rwa [ran]
  · rwa [ran]

/-- Where nothing is moved, every view finds its block. -/
lemma Run.owner_ne_none (run : w.Run cs w')
    (kept : ∀ number v, w.forest.view? number = some v → v.owner? ≠ none) :
    ∀ number v, w'.forest.view? number = some v → v.owner? ≠ none := by
  induction run with
  | nil => exact kept
  | cons _ _ ih =>
    apply ih
    intro number v found
    rw [perform, forest_add] at found
    rcases Command.view?_reply_cases found with old | ⟨b, -, -, -, owner⟩
    · exact kept number v old
    · simp [owner]

/-- A view finds its block if nothing has been moved, or if it is made by this very request. -/
lemma Attainable.owner_eq (attainable : w.Attainable) (mem : .block b ∈ w.nodes)
    (kept : w.Reachable ∨ w.forest.hasView b = false) :
    ((Build.viewOf b).run w.forest).1.owner? = some b := by
  have views := attainable.views mem
  rcases Build.viewOf_cases b w.forest with ⟨v, found, ran⟩ | ⟨v, g, -, ran, -, owner, -⟩
  · rw [ran] at views ⊢
    obtain ⟨cs, run⟩ : w.Reachable :=
      kept.resolve_right fun absent => by simp [Forest.hasView, found] at absent
    have owned := run.owner_ne_none (fun _ _ none => by cases none) _ _ found
    rcases views.owner_cases with ⟨owner, -⟩ | ⟨none, -⟩
    · exact owner
    · exact absurd none owned
  · rwa [ran]

/-- A view that has been made is replied to every later request, which changes nothing. -/
lemma Course.run_view (course : w.Course w') (found : w.forest.view? b.id = some v) :
    (Command.view b).reply.run w'.forest = (.view v, w'.forest) := by
  have kept := course.grows.view_kept _ _ found
  rw [Command.run_view]
  rcases Build.viewOf_cases b w'.forest with ⟨v', found', ran⟩ | ⟨_, _, absent, -⟩
  · cases kept.symm.trans found'
    rw [ran]
  · cases kept.symm.trans absent

/-- Among the nodes that have been made, the same node is the very node. -/
lemma Stocked.firstAt_iff (stocked : w.Stocked) (mem : .block b ∈ w.nodes) {x : Expr}
    (known : x ∈ w.nodes) (i : Nat) :
    b.FirstAt (fun e => e.same x = true) i ↔ b.FirstAt (· = x) i := by
  have same_iff : ∀ j e, b.expression j = .ok e → (e.same x = true ↔ e = x) := by
    intro j e here
    have child : e ∈ b.expressions := List.mem_of_getElem? (Block.expression_eq_ok.mp here)
    have mem' : e ∈ w.nodes := stocked.mem_of_has mem (Expr.has_of_child child e.has_self)
    exact ⟨stocked.eq_of_same mem' known, fun eq => eq ▸ e.same_refl⟩
  constructor
  · rintro ⟨⟨e, here, same⟩, first⟩
    refine ⟨⟨e, here, (same_iff i e here).mp same⟩, fun j lt e' there eq => ?_⟩
    exact first j lt e' there ((same_iff j e' there).mpr eq)
  · rintro ⟨⟨e, here, eq⟩, first⟩
    refine ⟨⟨e, here, (same_iff i e here).mpr eq⟩, fun j lt e' there same => ?_⟩
    exact first j lt e' there ((same_iff j e' there).mp same)

/--
The view of a block, however the block was made, tells what the indexer of the block tells: the
number of children, each of them, all in order, and the first place of a node. A node is found only
if it is a child itself, a read of a parameter if a child reads this parameter. Every later request
gives this very view. This needs the block to be where it was when it got the view, as it is unless
it was moved; a view that has lost its block still tells the number and the first child.
-/
theorem view_presents (attainable : w.Attainable) (mem : .block b ∈ w.nodes) :
    ∃ v, ((Command.view b).reply.run w.forest).1 = .view v ∧
      (w.Reachable ∨ w.forest.hasView b = false → v.owner? = some b) ∧
      (v.owner? ≠ none → v.Presents b b.count) ∧
      (v.owner? = none → v.Presents b 1) ∧
      ∀ w', (w.perform (.view b)).Course w' →
        (Command.view b).reply.run w'.forest = (.view v, w'.forest) ∧
        (v.owner? ≠ none →
          (∀ x ∈ w'.nodes, ∀ i, v.indexOf? x = some i ↔ b.FirstAt (· = x) i) ∧
          ∀ p ∈ w'.params, ∀ i, v.indexOf? p.read = some i ↔ b.FirstAt (· = p.read) i) := by
  have views := attainable.views mem
  refine ⟨_, rfl, attainable.owner_eq mem, ?_, ?_, fun w' course => ?_⟩
  · exact fun owned => views.reach_of_owner owned ▸ views.presents
  · exact fun lost => views.reach_of_none lost ▸ views.presents
  have legal : (Command.view b).Legal w :=
    ⟨List.nil_subset _, List.cons_subset.mpr ⟨mem, List.nil_subset _⟩⟩
  have requested : w.Course w' := .command legal course
  have attainable' : w'.Attainable := attainable.course requested
  have mem' : .block b ∈ w'.nodes := requested.nodes_subset mem
  refine ⟨?_, fun owned => ⟨fun x known i => ?_, fun p known i => ?_⟩⟩
  · apply course.run_view
    rw [Inventory.perform, forest_add, Command.run_view]
    exact Build.view?_viewOf_self b w.forest
  · rw [views.indexOf?_eq_some_iff owned, attainable'.sound.stocked.firstAt_iff mem' known]
  · -- A read that has not been made yet can be made at any time.
    have readable : (Command.read p).Legal w' :=
      ⟨List.cons_subset.mpr ⟨known, List.nil_subset _⟩, List.nil_subset _⟩
    have read : w'.Course (w'.perform (.read p)) := (Run.single readable).course
    rw [views.indexOf?_eq_some_iff owned, (attainable'.course read).sound.stocked.firstAt_iff
      (read.nodes_subset mem') List.mem_cons_self]

/--
The first child occurs once more; a constant that looks like it is not found, neither by the first
view nor after the block has been rebuilt. When the block is moved, its view has three children
still, but gives the first one only.
-/
theorem view_presents_repeated :
    let x : Param := ⟨0, some "x", .int, false⟩
    let one : Expr := .leaf (.constant ⟨1, .int 1, .int⟩)
    let twin : Expr := .leaf (.constant ⟨2, .int 1, .int⟩)
    let b : Block Expr := ⟨3, .block3 one x.read one⟩
    let moved : Block Expr := ⟨5, b.layout⟩
    ∃ (w w' : Inventory) (v v' : ListView), w.Reachable ∧ .block b ∈ w.nodes ∧ twin ∈ w.nodes ∧
      ((Command.view b).reply.run w.forest).1 = .view v ∧
      v.toList.map .ok = (List.range 3).map b.expression ∧
      v.get? 2 = some one ∧ v.get? 3 = none ∧ v.indexOf? one = some 0 ∧
      v.indexOf? x.read = some 1 ∧ v.indexOf? twin = none ∧
      (w.perform (.view b)).Run [.rebuild b none [twin, twin, twin]] w' ∧
        (Command.view b).reply.run w'.forest = (.view v, w'.forest) ∧
      .block moved ∈ ((w.perform (.view b)).move b).nodes ∧
        ((Command.view moved).reply.run ((w.perform (.view b)).move b).forest).1 = .view v' ∧
        v'.length = 3 ∧ v'.first = one ∧ v'.get? 1 = none ∧ v'.indexOf? x.read = none := by
  intro x one twin b moved
  let cs : List Command := [.param (some "x") .int false, .constant (.int 1) .int,
    .constant (.int 1) .int, .read x, .block3 one x.read one]
  let w : Inventory := cs.foldl Inventory.perform {}
  have reachable : w.Reachable := by
    refine ⟨cs, .cons ⟨List.nil_subset _, List.nil_subset _⟩ ?_⟩
    refine .cons ⟨List.nil_subset _, List.nil_subset _⟩ ?_
    refine .cons ⟨List.nil_subset _, List.nil_subset _⟩ ?_
    refine .cons ⟨List.Subset.refl _, List.nil_subset _⟩ ?_
    refine .cons ⟨List.nil_subset _, ?_⟩ (.nil _)
    have read : x.read ∈ [x.read, twin, one] := .head _
    have constant : one ∈ [x.read, twin, one] := .tail _ (.tail _ (.head _))
    exact List.cons_subset.mpr ⟨constant, List.cons_subset.mpr ⟨read, List.cons_subset.mpr
      ⟨constant, List.nil_subset _⟩⟩⟩
  have attainable : w.Attainable := reachable.attainable
  have mem : .block b ∈ w.nodes := .head _
  have known : twin ∈ w.nodes := .tail _ (.tail _ (.head _))
  obtain ⟨v, reply, owned, presents, -, later⟩ := view_presents attainable mem
  have owner_eq := owned (.inl reachable)
  have presents := presents (by rw [owner_eq]; exact Option.some_ne_none b)
  have rebuilt : (w.perform (.view b)).Run [.rebuild b none [twin, twin, twin]]
      ((w.perform (.view b)).perform (.rebuild b none [twin, twin, twin])) := by
    refine .single ⟨List.nil_subset _, List.cons_subset.mpr ⟨mem, ?_⟩⟩
    exact List.cons_subset.mpr ⟨known, List.cons_subset.mpr ⟨known, List.cons_subset.mpr
      ⟨known, List.nil_subset _⟩⟩⟩
  obtain ⟨again, -⟩ := later _ rebuilt.course
  obtain ⟨e, here, got⟩ := presents.get?_of_lt 2 (by decide)
  cases here
  have found : v.indexOf? x.read = some 1 := by
    refine (presents.indexOf?_eq_some x.read 1).mpr ⟨by decide, ⟨x.read, rfl, by decide⟩, ?_⟩
    rintro j lt e here
    obtain rfl : j = 0 := by omega
    cases here
    decide
  have absent : v.indexOf? twin = none := by
    rw [presents.indexOf?_eq_none]
    intro i lt e here
    rcases i with _ | _ | _ | i <;> cases here <;> decide
  -- The block in its new place: the view has come along, and the old place is empty.
  let wm : Inventory := (w.perform (.view b)).move b
  have legal : (Command.view b).Legal w :=
    ⟨List.nil_subset _, List.cons_subset.mpr ⟨mem, List.nil_subset _⟩⟩
  have attained : wm.Attainable := attainable.course (.command legal (.move mem (.nil _)))
  have mem' : .block moved ∈ wm.nodes := .head _
  obtain ⟨v', reply', -, -, lost, -⟩ := view_presents attained mem'
  have owner_eq' : v'.owner? = none := by
    cases reply'
    rfl
  have presents' := lost owner_eq'
  refine ⟨w, _, v, v', reachable, mem, known, reply, presents.toList_eq, got, ?_, ?_, found, absent,
    rebuilt, again, mem', reply', presents'.length_eq, ?_, ?_, ?_⟩
  · exact presents.get?_of_le 3 (Nat.le_refl 3)
  · exact (presents.indexOf?_eq_some one 0).mpr ⟨by decide, ⟨one, rfl, by decide⟩, by simp⟩
  · exact (Except.ok.inj presents'.first_eq).symm
  · exact presents'.get?_of_le 1 (Nat.le_refl 1)
  · rw [presents'.indexOf?_eq_none]
    intro i lt e here
    obtain rfl : i = 0 := by omega
    cases here
    decide

end Inventory

end ScopedExpr
