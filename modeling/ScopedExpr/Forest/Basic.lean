import ScopedExpr.Forest.ListView

/-!
# Forests

A forest gives out the numbers that tell nodes and parameters apart, and keeps the views that have
been made, one at most for a block. Every computation on a forest only lets it grow: a number is
never given out twice, and a view that has been made stays the view of its block.
-/

namespace ScopedExpr

/-- The supply of numbers and the views made so far. -/
structure Forest where
  /-- The least number that has not been given out. -/
  next : Nat := 0
  /-- The views, each under the number of its block. -/
  views : List (Nat × ListView) := []

/-- The view of the block with a given number, if it has been made. -/
def Forest.view? (f : Forest) (id : Nat) : Option ListView := f.views.lookup id

/-- Whether `g` is `f` or grew out of it. -/
structure Forest.Grows (f g : Forest) : Prop where
  /-- No number is taken back. -/
  next_le : f.next ≤ g.next
  /-- No view is lost or replaced. -/
  view_kept : ∀ id v, f.view? id = some v → g.view? id = some v

theorem Forest.Grows.refl (f : Forest) : f.Grows f := ⟨Nat.le_refl _, fun _ _ h => h⟩

theorem Forest.Grows.trans {f g h : Forest} (fg : f.Grows g) (gh : g.Grows h) : f.Grows h :=
  ⟨Nat.le_trans fg.next_le gh.next_le, fun id v hv => gh.view_kept id v (fg.view_kept id v hv)⟩

/-! ### Computations -/

/-- A computation on a forest, which only grows. -/
structure Build (α : Type) where
  /-- The result and the forest afterwards. -/
  run : Forest → α × Forest
  /-- The forest afterwards grew out of the one before. -/
  grows : ∀ f : Forest, f.Grows (run f).2

protected def Build.pure {α : Type} (a : α) : Build α := ⟨fun f => (a, f), Forest.Grows.refl⟩

protected def Build.bind {α β : Type} (x : Build α) (next : α → Build β) : Build β where
  run f := (next (x.run f).1).run (x.run f).2
  grows f := (x.grows f).trans ((next (x.run f).1).grows (x.run f).2)

instance : Monad Build where
  pure := Build.pure
  bind := Build.bind

@[simp] theorem Build.run_pure {α : Type} (a : α) (f : Forest) :
    (Pure.pure a : Build α).run f = (a, f) := rfl

/-- The second computation starts from the forest that the first one has left. -/
@[simp] theorem Build.run_bind {α β : Type} (x : Build α) (next : α → Build β) (f : Forest) :
    (x >>= next).run f = (next (x.run f).1).run (x.run f).2 := rfl

instance : LawfulMonad Build := LawfulMonad.mk' Build
  (fun _ => rfl) (fun _ _ => rfl) (fun _ _ _ => rfl)

/-! ### Numbers and views -/

/-- A number that has not been given out before. -/
def Build.fresh : Build Nat where
  run f := (f.next, { f with next := f.next + 1 })
  grows _ := ⟨Nat.le_succ _, fun _ _ h => h⟩

/-- The view of a block, made at the first request and the same one ever after. -/
def Build.viewOf (b : Block Expr) : Build ListView where
  run f :=
    match f.view? b.id with
    | some v => (v, f)
    | none =>
      let v : ListView := ⟨f.next, b.layout.first, some b, b.count⟩
      (v, ⟨f.next + 1, (b.id, v) :: f.views⟩)
  grows f := by
    cases h : f.view? b.id with
    | some v => exact Forest.Grows.refl f
    | none =>
      refine ⟨Nat.le_succ _, fun id v hv => ?_⟩
      have other : (id == b.id) = false := by
        cases same : id == b.id with
        | false => rfl
        | true => rw [eq_of_beq same, h] at hv; cases hv
      simpa [Forest.view?, List.lookup_cons, other] using hv

def Forest.hasView (f : Forest) (b : Block Expr) : Bool := (f.view? b.id).isSome

end ScopedExpr
