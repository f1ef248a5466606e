import ScopedExpr.Proofs.Traversal.Conduct
import ScopedExpr.Proofs.Traversal.Pointwise

/-!
# Transformations one after another

Rules that apply a function to each leaf and another one to each declaration. To transform a tree
with two pairs of functions, one pair after the other, is to transform it once with their
compositions: at every position stand the same leaf and the same declarations, although the walks
need not rebuild the same blocks.
-/

namespace ScopedExpr

variable {σ : Type}

/-- Apply one function to every leaf and another one to every declaration. -/
def Rules.map (f : Leaf → Leaf) (g : Param → Param) : Rules σ where
  leaf l := pure (.leaf (f l))
  declaration p := pure (g p)

variable {f f₁ f₂ : Leaf → Leaf} {g g₁ g₂ : Param → Param}

/-! ### Trees that are images -/

lemma forall₂_comp {α : Type} {R S : α → α → Prop} {as bs cs : List α}
    (related : List.Forall₂ R as bs) (related' : List.Forall₂ S bs cs) :
    List.Forall₂ (Relation.Comp R S) as cs := by
  induction related generalizing cs with
  | nil =>
    cases related'
    exact .nil
  | cons head _ ih =>
    cases related' with
    | cons head' tail' => exact .cons ⟨_, head, head'⟩ (ih tail')

lemma eq_map_of_forall₂ {α β : Type} {h : α → β} {as : List α} {bs : List β}
    (related : List.Forall₂ (fun a b => b = h a) as bs) : bs = as.map h := by
  have equal : List.Forall₂ Eq bs (as.map h) := List.forall₂_map_right_iff.mpr related.flip
  rwa [List.forall₂_eq_eq_eq] at equal

/--
Whether the second tree is the image of the first one, position by position. The numbers of its
blocks may be any.
-/
def Expr.Image (f : Leaf → Leaf) (g : Param → Param) : Expr → Expr → Prop :=
  Expr.Along (Expr.Matches (fun l l' => l' = f l) fun p q => q = g p)

namespace Expr

variable {L L' : Leaf → Leaf → Prop} {D D' : Param → Param → Prop} {e e' e'' x x' x'' : Expr}

lemma Matches.flip (matched : x.Matches L D x') :
    x'.Matches (fun l l' => L l' l) (fun p q => D q p) x := by
  cases matched with
  | leaf related => exact .leaf related
  | block shape_eq count_eq declarations =>
    exact .block shape_eq.symm count_eq.symm declarations.flip

/-- Trees that match a common tree match each other by the composed relations. -/
lemma Matches.comp (matched : x.Matches L D x') (matched' : x'.Matches L' D' x'') :
    x.Matches (Relation.Comp L L') (Relation.Comp D D') x'' := by
  cases matched with
  | leaf related =>
    cases matched' with
    | leaf related' => exact .leaf ⟨_, related, related'⟩
  | block shape_eq count_eq declarations =>
    cases matched' with
    | block shape_eq' count_eq' declarations' =>
      refine .block (shape_eq'.trans shape_eq) (count_eq'.trans count_eq) ?_
      exact forall₂_comp declarations declarations'

/-- The image of an image is the image by the composed functions. -/
lemma Image.comp (image : e.Image f₁ g₁ e') (image' : e'.Image f₂ g₂ e'') :
    e.Image (f₂ ∘ f₁) (g₂ ∘ g₁) e'' := by
  refine (Along.comp image image').imp fun x x'' along => ?_
  obtain ⟨x', matched, matched'⟩ := along.here
  apply (matched.comp matched').mono
  · rintro l _ ⟨_, rfl, rfl⟩
    rfl
  · rintro p _ ⟨_, rfl, rfl⟩
    rfl

/-- Two images of one tree differ in the numbers of their blocks only. -/
lemma Image.along_eq (image : e.Image f g e') (image' : e.Image f g e'') :
    e'.Along (Matches Eq Eq) e'' := by
  refine (Along.comp (Along.flip image) image').imp fun x x'' along => ?_
  obtain ⟨x', matched, matched'⟩ := along.here
  apply (matched.flip.comp matched').mono
  · rintro l l'' ⟨l', rfl, rfl⟩
    rfl
  · rintro p p'' ⟨p', rfl, rfl⟩
    rfl

end Expr

/-! ### Images that can be made -/

/-- Whether all that the functions put into the tree has been made. -/
structure Inventory.HasImage (w : Inventory) (f : Leaf → Leaf) (g : Param → Param) (e : Expr) :
    Prop where
  leaf : ∀ l, e.Has (.leaf l) → .leaf (f l) ∈ w.nodes
  param : ∀ p, e.Declares p → g p ∈ w.params

variable {w v : Inventory} {cs : List Command} {e e' : Expr}

lemma Inventory.HasImage.of_run (there : w.HasImage f g e) (run : w.Run cs v) :
    v.HasImage f g e where
  leaf l has := run.nodes_subset (there.leaf l has)
  param p declares := run.params_subset (there.param p declares)

/-- The leaves and declarations of an image are images. -/
lemma Inventory.HasImage.after (there : w.HasImage (f₂ ∘ f₁) (g₂ ∘ g₁) e)
    (image : e.Image f₁ g₁ e') : w.HasImage f₂ g₂ e' where
  leaf l' has := by
    obtain ⟨x, has_x, matched⟩ := image.exists_of_has has
    cases matched with
    | @leaf l _ related =>
      rw [related]
      exact there.leaf l has_x
  param := by
    rintro q ⟨b', has, mem⟩
    obtain ⟨x, has_x, matched⟩ := image.exists_of_has has
    cases matched with
    | @block b _ _ _ declarations =>
      rw [eq_map_of_forall₂ declarations] at mem
      obtain ⟨p, declared, rfl⟩ := List.mem_map.mp mem
      exact there.param p ⟨b, has_x, declared⟩

namespace Rules

/-- A node that is put in the place of another one is that node if it is the same. -/
lemma relates_map (sound : w.Sound) (mem : e ∈ w.nodes) (there : w.HasImage f g e)
    (c : Contract σ) :
    (map f g).Relates c (fun l l' => l' = f l) (fun p q => q = g p) e where
  leaf l has := by
    refine .pure ⟨f l, rfl, rfl, fun same => ?_⟩
    have mem_l := sound.stocked.mem_of_has mem has
    exact Expr.leaf.inj (sound.stocked.eq_of_same (there.leaf l has) mem_l same)
  declaration p declares := by
    have mem_p := sound.stocked.mem_of_mentions mem (.inr declares)
    exact .pure ⟨rfl, sound.stocked.param_eq_of_same (there.param p declares) mem_p⟩

/-- To map a tree is a run that requests no view. -/
lemma performs_map (reachable : w.Reachable) (mem : e ∈ w.nodes) (there : w.HasImage f g e)
    (st : σ) : (map f g).transformer.Performs
      ⟨fun st' v => st' = st ∧ ∃ cs, w.Run cs v, fun _ => False⟩ e := by
  apply Rules.performs
  · rintro _ v ⟨-, cs, run⟩
    exact ⟨run.reachable reachable, run.nodes_subset mem⟩
  · rintro _ _ _ _ ⟨rfl, _, run⟩ run'
    exact ⟨rfl, _, run.append run'⟩
  · rintro l has
    refine .pure ?_
    rintro _ v ⟨-, cs, run⟩
    exact run.nodes_subset (there.leaf l has)
  · rintro p declares
    refine .pure ?_
    rintro _ v ⟨-, cs, run⟩
    exact run.params_subset (there.param p declares)

lemma quiet_map (f : Leaf → Leaf) (g : Param → Param) :
    (map f g : Rules σ).transformer.Quiet :=
  Rules.quiet (fun _ _ _ => ⟨_, _, _, rfl⟩) fun _ _ _ => ⟨_, _, _, rfl⟩

/-- The transformation is a run that ends in an image of the tree. -/
lemma exists_image (reachable : w.Reachable) (mem : e ∈ w.nodes) (there : w.HasImage f g e)
    (st : σ) :
    ∃ e' cs v, w.Run cs v ∧
      ((map f g).transform e).outcome st w.forest = (.ok (e', st), v.forest) ∧
      e' ∈ v.nodes ∧ e.Image f g e' := by
  obtain ⟨e', st', h, ends⟩ := (quiet_map f g).transform e st w.forest
  obtain ⟨cs, v, run, rfl, -, given⟩ := (performs_map reachable mem there st).transform st w _ h
    ⟨rfl, [], .nil w⟩ ends
  obtain ⟨⟨rfl, -⟩, mem'⟩ := given e' st' rfl
  have owns := reachable.sound.stocked.owns mem
  let c : Contract σ := ⟨fun _ f => w.forest.Grows f, fun _ _ _ => .trans, fun _ => True⟩
  have meets := (relates_map reachable.sound mem there c).meets_transform owns.made
    fun _ _ grows => owns.held.mono grows
  have along := ((meets _ _ _ _ _ (.refl _) ends).2 trivial).2.1
  exact ⟨e', cs, v, run, ends, mem', along.imp fun _ _ along => along.here.1⟩

/--
To transform a tree by one pair of functions, and then the result by another pair, is to transform
it once by their compositions, whatever is made between. If what the functions give has been made by
then, all of these transformations end in a tree; the two ways end in trees with the same positions,
which have at each of them the same leaf, or blocks of the same shape, count and declarations.
-/
theorem map_comp (reachable : w.Reachable) (mem : e ∈ w.nodes) (there : w.HasImage f₁ g₁ e)
    (f₂ : Leaf → Leaf) (g₂ : Param → Param) (st : σ) :
    ∃ e₁ cs₁ w₁, w.Run cs₁ w₁ ∧
      ((map f₁ g₁).transform e).outcome st w.forest = (.ok (e₁, st), w₁.forest) ∧
      ∀ w₂ w₃ cs₂ cs₃, w₁.Run cs₂ w₂ → w.Run cs₃ w₃ →
        w₂.HasImage (f₂ ∘ f₁) (g₂ ∘ g₁) e → w₃.HasImage (f₂ ∘ f₁) (g₂ ∘ g₁) e →
        ∃ e₂ h₂ e₃ h₃,
          ((map f₂ g₂).transform e₁).outcome st w₂.forest = (.ok (e₂, st), h₂) ∧
          ((map (f₂ ∘ f₁) (g₂ ∘ g₁)).transform e).outcome st w₃.forest = (.ok (e₃, st), h₃) ∧
          e₂.Along (Expr.Matches Eq Eq) e₃ := by
  obtain ⟨e₁, cs₁, w₁, run₁, ends₁, mem₁, image₁⟩ := exists_image reachable mem there st
  refine ⟨e₁, cs₁, w₁, run₁, ends₁, fun w₂ w₃ cs₂ cs₃ run₂ run₃ there₂ there₃ => ?_⟩
  obtain ⟨e₂, -, v₂, -, ends₂, -, image₂⟩ := exists_image
    (run₂.reachable (run₁.reachable reachable)) (run₂.nodes_subset mem₁) (there₂.after image₁) st
  obtain ⟨e₃, -, v₃, -, ends₃, -, image₃⟩ := exists_image (run₃.reachable reachable)
    (run₃.nodes_subset mem) there₃ st
  exact ⟨e₂, v₂.forest, e₃, v₃.forest, ends₂, ends₃, (image₁.comp image₂).along_eq image₃⟩

/-- Two variables change places twice: the scope is rebuilt twice, but kept by the composition. -/
theorem map_comp_swapped :
    let x : Param := ⟨0, some "x", .int, false⟩
    let y : Param := ⟨1, some "y", .int, false⟩
    let g : Param → Param := fun p => if p = x then y else if p = y then x else p
    let f : Leaf → Leaf := fun l => match l with
      | .parameter p => .parameter (g p)
      | l => l
    let e : Expr := .block ⟨2, .scope1 [x] x.read⟩
    ∃ e₁ h₁ e₂ h₂ e₃ h₃,
      ((map f g).transform e).outcome () { next := 3 } = (.ok (e₁, ()), h₁) ∧
      ((map f g).transform e₁).outcome () h₁ = (.ok (e₂, ()), h₂) ∧
      ((map (f ∘ f) (g ∘ g)).transform e).outcome () { next := 3 } = (.ok (e₃, ()), h₃) ∧
      e₂.same e = false ∧ e₃.same e = true ∧ e₂.Along (Expr.Matches Eq Eq) e₃ := by
  intro x y g f e
  let w : Inventory := ⟨{ next := 3 }, [y, x], [e, y.read, x.read]⟩
  have run : Inventory.Run {} [.param (some "x") .int false, .param (some "y") .int false, .read x,
      .read y, .scope [x] [x.read]] w := by
    refine .cons ⟨List.nil_subset _, List.nil_subset _⟩ ?_
    refine .cons ⟨List.nil_subset _, List.nil_subset _⟩ ?_
    refine .cons ⟨List.cons_subset.mpr ⟨.tail _ (.head _), List.nil_subset _⟩, List.nil_subset _⟩ ?_
    refine .cons ⟨List.cons_subset.mpr ⟨.head _, List.nil_subset _⟩, List.nil_subset _⟩ ?_
    refine .cons ⟨List.cons_subset.mpr ⟨.tail _ (.head _), List.nil_subset _⟩,
      List.cons_subset.mpr ⟨.tail _ (.head _), List.nil_subset _⟩⟩ ?_
    exact .nil _
  have leaf : ∀ l, e.Has (.leaf l) → l = .parameter x := by
    simp [e, Block.expressions, Layout.expressions, Param.read]
  have declaration : ∀ p, e.Declares p → p = x := by
    simp [e, Block.expressions, Layout.expressions, Block.declarations, Layout.declarations,
      Param.read]
  have there : w.HasImage f g e := by
    refine ⟨fun l has => ?_, fun p declares => ?_⟩
    · rw [leaf l has]
      exact .tail _ (.head _)
    · rw [declaration p declares]
      exact .head _
  have there' : w.HasImage (f ∘ f) (g ∘ g) e := by
    refine ⟨fun l has => ?_, fun p declares => ?_⟩
    · rw [leaf l has]
      exact .tail _ (.tail _ (.head _))
    · rw [declaration p declares]
      exact .tail _ (.head _)
  obtain ⟨e₁, cs₁, w₁, run₁, ends₁, next⟩ := map_comp ⟨_, run⟩ (.head _) there f g ()
  obtain ⟨e₂, h₂, e₃, h₃, ends₂, ends₃, along⟩ :=
    next w₁ w [] [] (.nil _) (.nil _) (there'.of_run run₁) there'
  refine ⟨e₁, w₁.forest, e₂, h₂, e₃, h₃, ends₁, ends₂, ends₃, ?_, ?_, along⟩
  · have forest_eq : { next := 4 } = w₁.forest := congrArg Prod.snd ends₁
    cases congrArg Prod.fst ends₁
    rw [← forest_eq] at ends₂
    cases congrArg Prod.fst ends₂
    rfl
  · cases congrArg Prod.fst ends₃
    rfl

end Rules

end ScopedExpr
