import ScopedExpr.Proofs.Forest.Inventory

/-!
# Moves

Who alone holds a block may take it out of its place and put it into a new one, where it is another
node. A view that has been made goes along with its block, but looks for it in the old place. Moves
are no commands: this module adds them to the runs of an inventory.
-/

namespace ScopedExpr

/--
The block in a new place. Nothing is asked of the old one: it can still be there in an inventory,
which forgets nothing, but nobody holds it.
-/
def Build.move (b : Block Expr) : Build (Block Expr) where
  run f :=
    (⟨f.next, b.layout⟩, ⟨f.next + 1, f.views ++ match f.view? b.id with
      | some v => [(f.next, { v with owner? := none })]
      | none => []⟩)
  grows f := by
    refine ⟨Nat.le_succ _, fun id v found => ?_⟩
    rw [Forest.view?, List.lookup_append, ← Forest.view?, found, Option.some_or]

/-- The view of a block that has been moved is the one that it had, without the block. -/
lemma Build.view?_move {b : Block Expr} {f : Forest} {number : Nat} {v : ListView}
    (found : ((Build.move b).run f).2.view? number = some v) :
    f.view? number = some v ∨
      number = f.next ∧ ∃ v₀, f.view? b.id = some v₀ ∧ v = { v₀ with owner? := none } := by
  simp only [Build.move, Forest.view?, List.lookup_append, Option.or_eq_some_iff] at found
  rcases found with found | ⟨-, found⟩
  · exact .inl found
  · cases moved : f.views.lookup b.id with
    | none => simp [moved] at found
    | some v₀ =>
      simp only [moved, List.lookup_cons, List.lookup_nil] at found
      split at found
      · exact .inr ⟨eq_of_beq ‹_›, v₀, moved, (Option.some.inj found).symm⟩
      · cases found

/-- But for its number, a block in a new place is one that a rebuild with its own children makes. -/
lemma Block.Made.moved {b : Block Expr} (made : b.Made) (id : Nat) :
    Block.Made ⟨id, b.layout⟩ := by
  have fit : b.misfit? none b.expressions = none :=
    Block.misfit?_eq_none.mpr ⟨b.length_expressions, rfl⟩
  obtain ⟨first, rest, args_eq, ran⟩ := Block.rebuild_run fit { next := id }
  have same : b.layout.rebuilt none first rest = b.layout := by
    refine (made.fits.rebuilt rfl first rest).ext made.fits ?_ ?_
    · exact Layout.declarations_rebuilt rfl first rest
    · rw [Layout.expressions_rebuilt, ← args_eq, Block.expressions]
  rw [same] at ran
  have given : Gives (b.rebuild none b.expressions) (.block ⟨id, b.layout⟩) :=
    ⟨{ next := id }, congrArg Prod.fst ran⟩
  exact made.rebuild given

namespace Inventory

variable {w w' w'' : Inventory} {b : Block Expr} {c : Command} {cs : List Command}

def move (w : Inventory) (b : Block Expr) : Inventory where
  forest := ((Build.move b).run w.forest).2
  params := w.params
  nodes := .block ((Build.move b).run w.forest).1 :: w.nodes

/-- Whether legal commands and moves of blocks lead from one inventory to the other. -/
inductive Course : Inventory → Inventory → Prop where
  | nil (w : Inventory) : Course w w
  | command {w w' : Inventory} {c : Command} (legal : c.Legal w)
      (later : Course (w.perform c) w') : Course w w'
  | move {w w' : Inventory} {b : Block Expr} (mem : .block b ∈ w.nodes)
      (later : Course (w.move b) w') : Course w w'

/-- Whether some course leads from the empty inventory to this one. -/
def Attainable (w : Inventory) : Prop := Course {} w

namespace Course

lemma trans (course : w.Course w') (later : w'.Course w'') : w.Course w'' := by
  induction course with
  | nil => exact later
  | command legal _ ih => exact .command legal (ih later)
  | move mem _ ih => exact .move mem (ih later)

/-- What every command and every move keeps, a course keeps. -/
lemma keeps {P : Inventory → Prop} (command : ∀ w c, P w → c.Legal w → P (w.perform c))
    (move : ∀ w b, P w → .block b ∈ w.nodes → P (w.move b)) (course : w.Course w') (holds : P w) :
    P w' := by
  induction course with
  | nil => exact holds
  | command legal _ ih => exact ih (command _ _ holds legal)
  | move mem _ ih => exact ih (move _ _ holds mem)

/-- A block that is moved stays listed in its old place. -/
lemma nodes_subset (course : w.Course w') : w.nodes ⊆ w'.nodes := by
  refine course.keeps (P := fun w' => w.nodes ⊆ w'.nodes) ?_ ?_ (List.Subset.refl _)
  · exact fun w' c kept _ => List.Subset.trans kept (nodes_subset_perform w' c)
  · exact fun w' b kept _ => List.Subset.trans kept (List.subset_cons_self _ _)

/-- No view is lost, and none is replaced. -/
lemma grows (course : w.Course w') : w.forest.Grows w'.forest := by
  refine course.keeps (P := fun w' => w.forest.Grows w'.forest) ?_ ?_ (.refl _)
  · intro w' c grown _
    rw [perform, forest_add]
    exact grown.trans (c.reply.grows w'.forest)
  · exact fun w' b grown _ => grown.trans ((Build.move b).grows w'.forest)

end Course

lemma Run.course (run : w.Run cs w') : w.Course w' := by
  induction run with
  | nil => exact .nil _
  | cons legal _ ih => exact .command legal ih

lemma Reachable.attainable (reachable : w.Reachable) : w.Attainable := by
  obtain ⟨cs, run⟩ := reachable
  exact run.course

lemma Attainable.course (attainable : w.Attainable) (course : w.Course w') : w'.Attainable :=
  Course.trans attainable course

/-- A block in its new place may be listed, since its parts are. -/
lemma Stocked.move (stocked : w.Stocked) (mem : .block b ∈ w.nodes) : (w.move b).Stocked := by
  have made := ((stocked.owns mem).made b (Expr.has_self _)).moved w.forest.next
  have declared : b.declarations ⊆ w.params := fun p declares =>
    stocked.mem_of_mentions mem ((Expr.mentions_block b).mpr (.inl declares))
  have parts : b.expressions ⊆ w.nodes := fun e child =>
    stocked.mem_of_has mem (Expr.has_of_child child (Expr.has_self e))
  have grows : Forest.Grows { w.forest with next := w.forest.next + 1 } (w.move b).forest :=
    ⟨Nat.le_refl _, ((Build.move b).grows w.forest).view_kept⟩
  exact (stocked.block made rfl declared parts).grown grows

/-- A view that goes along with a block is the view of a listed block again. -/
lemma Sound.move (sound : w.Sound) (mem : .block b ∈ w.nodes) : (w.move b).Sound where
  stocked := sound.stocked.move mem
  viewed := by
    intro number viewed
    obtain ⟨v, found⟩ := Option.isSome_iff_exists.mp viewed
    rcases Build.view?_move found with found | ⟨rfl, -⟩
    · obtain ⟨b', mem', id_eq⟩ := sound.viewed number (by rw [found]; rfl)
      exact ⟨b', .tail _ mem', id_eq⟩
    · exact ⟨_, .head _, rfl⟩

lemma Attainable.sound (attainable : w.Attainable) : w.Sound :=
  attainable.keeps (fun _ _ sound legal => sound.perform legal) (fun _ _ sound => sound.move)
    Sound.empty

end Inventory

end ScopedExpr
