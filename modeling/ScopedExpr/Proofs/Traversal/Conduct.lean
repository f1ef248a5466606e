import ScopedExpr.Pass.Leaves
import ScopedExpr.Proofs.Forest.Inventory
import ScopedExpr.Proofs.Traversal.WalkBlock
import ScopedExpr.Traversal.Visitor

/-!
# Walks as runs of commands

What the hooks of a traversal do with the forest may be any run of commands. A walk adds nothing but
rebuilds to it, so it is a run as well, and requests no view that a hook does not request.
-/

namespace ScopedExpr

variable {σ α β : Type}

/-! ### Conduct -/

/-- What a computation is held to. -/
structure Conduct (σ : Type) where
  /-- What is true of the state and of the inventory, before and after. -/
  inv : σ → Inventory → Prop
  /-- The blocks whose views may be requested. -/
  asks : Block Expr → Prop

/-- Whether no other views are requested. -/
def Conduct.Allows (c : Conduct σ) (cs : List Command) : Prop := ∀ b, Command.view b ∈ cs → c.asks b

/-- Whether a run that is allowed leads to this forest and to an inventory with the property. -/
def Conduct.Leads (c : Conduct σ) (w : Inventory) (g : Forest) (P : Inventory → Prop) : Prop :=
  ∃ cs w', w.Run cs w' ∧ w'.forest = g ∧ c.Allows cs ∧ P w'

/--
Whether the computation does with the forest what a run that is allowed does, and then, if it does
not end in a misuse, gives something that is listed and keeps the invariant.
-/
def TransformM.Performs (c : Conduct σ) (x : TransformM σ α) (listed : Inventory → List α) : Prop :=
  ∀ st w result g, c.inv st w → x.outcome st w.forest = (result, g) →
    c.Leads w g fun w' => ∀ a st', result = .ok (a, st') → c.inv st' w' ∧ a ∈ listed w'

variable {c : Conduct σ} {w w' : Inventory} {f g h : Forest} {P Q : Inventory → Prop}
  {b : Block Expr} {e : Expr}

lemma Conduct.Allows.nil : c.Allows [] := by simp [Allows]

lemma Conduct.Allows.append {cs cs' : List Command} (allowed : c.Allows cs)
    (allowed' : c.Allows cs') : c.Allows (cs ++ cs') := fun b asked =>
  (List.mem_append.mp asked).elim (allowed b) (allowed' b)

namespace Conduct.Leads

lemma stay (property : P w) : c.Leads w w.forest P :=
  ⟨[], w, .nil w, rfl, .nil, property⟩

/-- Where one allowed run ends, another one may go on. -/
lemma trans (leads : c.Leads w g P)
    (next : ∀ cs w', w.Run cs w' → w'.forest = g → P w' → c.Leads w' h Q) : c.Leads w h Q := by
  obtain ⟨cs, w', run, rfl, allowed, property⟩ := leads
  obtain ⟨cs', w'', run', rfl, allowed', property'⟩ := next cs w' run rfl property
  exact ⟨cs ++ cs', w'', run.append run', rfl, allowed.append allowed', property'⟩

lemma imp (leads : c.Leads w g P) (imp : ∀ w', P w' → Q w') : c.Leads w g Q := by
  obtain ⟨cs, w', run, forest_eq, allowed, property⟩ := leads
  exact ⟨cs, w', run, forest_eq, allowed, imp w' property⟩

end Conduct.Leads

lemma TransformM.Performs.pure {listed : Inventory → List α} {a : α}
    (found : ∀ st w, c.inv st w → a ∈ listed w) :
    (Pure.pure a : TransformM σ α).Performs c listed := by
  rintro st w _ _ inv ⟨⟩
  refine .stay ?_
  rintro _ _ ⟨⟩
  exact ⟨inv, found st w inv⟩

/-! ### Hooks called in order -/

section Calls

variable {hook : α → TransformM σ β} {listed : Inventory → List β} {as : List α} {bs : List β}
  {st st' : σ} {misuse : Misuse}

/-- Calls that are runs one by one are a run together. -/
lemma Calls.leads (grows : ∀ w cs w', w.Run cs w' → listed w ⊆ listed w')
    (each : ∀ a ∈ as, (hook a).Performs c listed) (calls : Calls hook as st f bs st' g)
    (inv : c.inv st w) (forest_eq : w.forest = f) :
    c.Leads w g fun w' => c.inv st' w' ∧ bs ⊆ listed w' := by
  induction calls generalizing w with
  | nil =>
    subst forest_eq
    exact .stay ⟨inv, List.nil_subset _⟩
  | cons call _ ih =>
    subst forest_eq
    obtain ⟨head, tail⟩ := List.forall_mem_cons.mp each
    refine (head _ w _ _ inv call).trans fun _ w' _ forest_eq given => ?_
    obtain ⟨inv', mem⟩ := given _ _ rfl
    obtain ⟨cs, w'', run, forest_eq, allowed, inv'', subset⟩ := ih tail inv' forest_eq
    exact ⟨cs, w'', run, forest_eq, allowed, inv'',
      List.cons_subset.mpr ⟨grows _ _ _ run mem, subset⟩⟩

/-- An allowed run leads to each call on an item of a list. -/
lemma CalledOn.leads {a : α} (each : ∀ a ∈ as, (hook a).Performs c listed)
    (called : CalledOn hook as st f a st' g) (inv : c.inv st w) (forest_eq : w.forest = f) :
    c.Leads w g fun w' => c.inv st' w' := by
  induction called generalizing w with
  | head =>
    subst forest_eq
    exact .stay inv
  | tail call _ ih =>
    subst forest_eq
    obtain ⟨head, tail⟩ := List.forall_mem_cons.mp each
    refine (head _ w _ _ inv call).trans fun _ w' _ forest_eq given => ?_
    exact ih tail (given _ _ rfl).1 forest_eq

lemma CallsFail.leads (each : ∀ a ∈ as, (hook a).Performs c listed)
    (fail : CallsFail hook as st f misuse g) (inv : c.inv st w) (forest_eq : w.forest = f) :
    c.Leads w g fun _ => True := by
  induction fail generalizing w with
  | head call =>
    subst forest_eq
    exact (each _ List.mem_cons_self _ w _ _ inv call).imp fun _ _ => trivial
  | tail call _ ih =>
    subst forest_eq
    obtain ⟨head, tail⟩ := List.forall_mem_cons.mp each
    refine (head _ w _ _ inv call).trans fun _ w' _ forest_eq given => ?_
    exact ih tail (given _ _ rfl).1 forest_eq

end Calls

/-! ### Walks of transformers -/

/-- An exchange is a rebuild or nothing. -/
lemma Block.Becomes.leads {b' : Block Expr} {ps : List Param} {args : List Expr}
    (becomes : b.Becomes ps args f b' g) (forest_eq : w.forest = f) (mem : .block b ∈ w.nodes)
    (declared : ps ⊆ w.params) (parts : args ⊆ w.nodes) :
    c.Leads w g fun w' => .block b' ∈ w'.nodes := by
  subst forest_eq
  cases becomes with
  | kept => exact .stay mem
  | @rebuilt _ declarations? _ chosen given id_eq _ _ =>
    -- The layout of a rebuilt block does not depend on the forest, only its number does.
    obtain ⟨fit, first, rest, rfl, layout_eq⟩ := Block.rebuild_gives given
    obtain ⟨_, _, args_eq, run_eq⟩ := Block.rebuild_run fit w.forest
    cases args_eq
    have legal : (Command.rebuild b declarations? (first :: rest)).Legal w := by
      refine ⟨?_, List.cons_subset.mpr ⟨mem, parts⟩⟩
      rcases chosen with rfl | ⟨rfl, -⟩
      · exact declared
      · exact List.nil_subset _
    have perform_eq : w.perform (.rebuild b declarations? (first :: rest)) =
        ⟨{ w.forest with next := w.forest.next + 1 }, w.params, .block b' :: w.nodes⟩ := by
      change w.add ((b.rebuild declarations? (first :: rest)).run.run w.forest).2
        (.ofRebuild ((b.rebuild declarations? (first :: rest)).run.run w.forest).1) = _
      rw [run_eq, ← id_eq, ← layout_eq]
      rfl
    refine ⟨_, _, .single legal, ?_, by simp [Conduct.Allows], ?_⟩
    · rw [perform_eq]
    · rw [perform_eq]
      exact List.mem_cons_self

/--
Whether the hooks, called on what is in the expression, perform what the conduct allows if the walks
that they take do.
-/
structure Transformer.Performs (t : Transformer σ) (c : Conduct σ) (e : Expr) : Prop where
  present : ∀ st w, c.inv st w → w.Reachable ∧ e ∈ w.nodes
  outlasts : ∀ st w cs w', c.inv st w → w.Run cs w' → c.inv st w'
  expr : ∀ x walk, e.Has x → walk.Performs c Inventory.nodes →
    (t.expr x walk).Performs c Inventory.nodes
  leaf : ∀ l, e.Has (.leaf l) → (t.leaf l).Performs c Inventory.nodes
  declaration : ∀ p, e.Declares p → (t.declaration p).Performs c Inventory.params
  block : ∀ b walk, e.Has (.block b) → walk.Performs c Inventory.nodes →
    (t.block b walk).Performs c Inventory.nodes

/-- The default walks perform what the conduct allows. -/
lemma Rules.performs {rules : Rules σ} (present : ∀ st w, c.inv st w → w.Reachable ∧ e ∈ w.nodes)
    (outlasts : ∀ st w cs w', c.inv st w → w.Run cs w' → c.inv st w')
    (leaf : ∀ l, e.Has (.leaf l) → (rules.leaf l).Performs c Inventory.nodes)
    (declaration : ∀ p, e.Declares p → (rules.declaration p).Performs c Inventory.params) :
    rules.transformer.Performs c e where
  present := present
  outlasts := outlasts
  expr _ _ _ performs := performs
  leaf := leaf
  declaration := declaration
  block _ _ _ performs := performs

section Keep

variable (present : ∀ st w, c.inv st w → w.Reachable ∧ e ∈ w.nodes)

include present

/-- To keep a node needs no run at all. -/
lemma TransformM.Performs.keep {n : Expr} (has : e.Has n) :
    (Pure.pure n : TransformM σ Expr).Performs c Inventory.nodes := by
  refine .pure fun st w inv => ?_
  obtain ⟨reachable, mem⟩ := present st w inv
  exact reachable.sound.stocked.mem_of_has mem has

lemma TransformM.Performs.keepParam {p : Param} (mentions : e.Mentions p) :
    (Pure.pure p : TransformM σ Param).Performs c Inventory.params := by
  refine .pure fun st w inv => ?_
  obtain ⟨reachable, mem⟩ := present st w inv
  exact reachable.sound.stocked.mem_of_mentions mem mentions

end Keep

/-- A rule that makes constants requests no view. -/
lemma Rules.performs_number {c : Conduct Nat}
    (present : ∀ st w, c.inv st w → w.Reachable ∧ e ∈ w.nodes)
    (outlasts : ∀ st w cs w', c.inv st w → w.Run cs w' → ∀ st', c.inv st' w') :
    Rules.number.transformer.Performs c e := by
  apply Rules.performs present fun st w cs w' inv run => outlasts st w cs w' inv run st
  · rintro (_ | _ | _) has
    · rintro st w _ _ inv ⟨⟩
      have legal : (Command.constant (.int (Int64.ofNat st)) .int).Legal w :=
        ⟨List.nil_subset _, List.nil_subset _⟩
      refine ⟨_, _, .single legal, rfl, by simp [Conduct.Allows], ?_⟩
      rintro _ st' ⟨⟩
      exact ⟨outlasts _ _ _ _ inv (.single legal) _, List.mem_cons_self⟩
    · exact .keep present has
    · exact .keep present has
  · exact fun p declares => .keepParam present (.inr declares)

/-- A rule that puts a node that has been made in the place of others requests no view. -/
lemma Rules.performs_fill {n : Expr} (present : ∀ st w, c.inv st w → w.Reachable ∧ e ∈ w.nodes)
    (outlasts : ∀ st w cs w', c.inv st w → w.Run cs w' → c.inv st w')
    (there : ∀ st w, c.inv st w → n ∈ w.nodes) :
    (Rules.fill n).transformer.Performs c e := by
  apply Rules.performs present outlasts
  · rintro (_ | _ | _) has
    · exact .keep present has
    · exact .keep present has
    · exact .pure there
  · exact fun p declares => .keepParam present (.inr declares)

namespace Transformer.Performs

variable {t : Transformer σ} {hook : Expr → TransformM σ Expr}

lemma child (performs : t.Performs c (.block b)) (child : e ∈ b.expressions) : t.Performs c e where
  present st w inv := by
    obtain ⟨reachable, mem⟩ := performs.present st w inv
    exact ⟨reachable, reachable.sound.stocked.mem_of_has mem (Expr.has_of_child child e.has_self)⟩
  outlasts := performs.outlasts
  expr x walk has := performs.expr x walk (Expr.has_of_child child has)
  leaf l has := performs.leaf l (Expr.has_of_child child has)
  declaration := fun p ⟨b', has, mem⟩ =>
    performs.declaration p ⟨b', Expr.has_of_child child has, mem⟩
  block b walk has := performs.block b walk (Expr.has_of_child child has)

lemma walkBlock (performs : t.Performs c (.block b))
    (kids : ∀ e ∈ b.expressions, (hook e).Performs c Inventory.nodes) :
    (t.walkBlock b (b.expressions.map fun e _ => hook e)).Performs c Inventory.nodes := by
  intro st w result g inv ends
  have declared : ∀ p ∈ b.declarations, (t.declaration p).Performs c Inventory.params :=
    fun p mem => performs.declaration p ⟨b, Expr.has_self _, mem⟩
  rcases t.hooks_fail_or_give hook b st w.forest with ⟨misuse, g', fail⟩ | ⟨ps, args, st', f', give⟩
  · cases ends.symm.trans fail.outcome_walkBlock
    have leads : c.Leads w g fun _ => True := by
      cases fail with
      | declaration fail => exact fail.leads declared inv rfl
      | expression calls fail =>
        refine (calls.leads (fun _ _ _ run => run.params_subset) declared inv rfl).trans ?_
        intro _ w' _ forest_eq kept
        exact fail.leads kids kept.1 forest_eq
    exact leads.imp fun _ _ _ _ eq => by cases eq
  · obtain ⟨b', g', outcome_eq, becomes⟩ := give.outcome_walkBlock
    cases ends.symm.trans outcome_eq
    obtain ⟨calls, calls'⟩ := give
    -- Declarations first, then children; what the hooks have given is there for the exchange.
    refine (calls.leads (fun _ _ _ run => run.params_subset) declared inv rfl).trans ?_
    intro _ w₁ _ forest_eq₁ given₁
    refine (calls'.leads (fun _ _ _ run => run.nodes_subset) kids given₁.1 forest_eq₁).trans ?_
    intro _ w₂ run₂ forest_eq₂ given₂
    refine (becomes.leads forest_eq₂ (performs.present _ w₂ given₂.1).2
      (List.Subset.trans given₁.2 run₂.params_subset) given₂.2).trans ?_
    intro _ w₃ run₃ forest_eq₃ mem
    obtain rfl := forest_eq₃
    refine .stay ?_
    rintro _ _ ⟨⟩
    exact ⟨performs.outlasts _ _ _ _ given₂.1 run₃, mem⟩

/-- A walk through a whole tree is held to what its hooks are held to. -/
lemma transform (performs : t.Performs c e) : (t.transform e).Performs c Inventory.nodes := by
  induction e using Expr.inductionOn with
  | leaf l =>
    rw [transform_eq]
    exact performs.expr _ _ (Expr.has_self _) (performs.leaf l (Expr.has_self _))
  | block b ih =>
    rw [transform_eq]
    apply performs.expr _ _ (Expr.has_self _)
    apply performs.block _ _ (Expr.has_self _)
    exact performs.walkBlock fun e child => ih e child (performs.child child)

lemma walk (performs : t.Performs c e) : (t.walk e).Performs c Inventory.nodes := by
  cases e with
  | leaf l => exact performs.leaf l (Expr.has_self _)
  | block b =>
    apply performs.block _ _ (Expr.has_self _)
    exact performs.walkBlock fun e child => (performs.child child).transform

end Transformer.Performs

/-! ### Walks of visitors -/

/--
Whether the visit does what a run that is allowed does, where the invariant says of which inventory
the state tells.
-/
def Conduct.Follows (c : Conduct σ) (x : StateM σ Unit) : Prop :=
  ∀ st w, c.inv st w → ∃ cs w', w.Run cs w' ∧ c.Allows cs ∧ c.inv (x.run st).2 w'

/-- Whether the hooks, called on what is in the expression, do what the conduct allows. -/
structure Visitor.Performs (v : Visitor σ) (c : Conduct σ) (e : Expr) : Prop where
  expr : ∀ x walk, e.Has x → c.Follows walk → c.Follows (v.expr x walk)
  leaf : ∀ l, e.Has (.leaf l) → c.Follows (v.leaf l)
  declaration : ∀ p, e.Declares p → c.Follows (v.declaration p)
  block : ∀ b walk, e.Has (.block b) → c.Follows walk → c.Follows (v.block b walk)

namespace Conduct.Follows

lemma seq {x y : StateM σ Unit} (hx : c.Follows x) (hy : c.Follows y) : c.Follows (do x; y) := by
  intro st w inv
  obtain ⟨cs, w', run, allowed, inv'⟩ := hx st w inv
  obtain ⟨cs', w'', run', allowed', inv''⟩ := hy _ w' inv'
  exact ⟨cs ++ cs', w'', run.append run', allowed.append allowed', inv''⟩

/-- Visits in a row follow the conduct if each of them does. -/
lemma forM {hook : α → StateM σ Unit} {as : List α} (each : ∀ a ∈ as, c.Follows (hook a)) :
    c.Follows (as.forM hook) := by
  induction as with
  | nil => exact fun st w inv => ⟨[], w, .nil w, .nil, inv⟩
  | cons a as ih =>
    obtain ⟨head, tail⟩ := List.forall_mem_cons.mp each
    exact head.seq (ih tail)

end Conduct.Follows

namespace Visitor.Performs

variable {v : Visitor σ}

lemma child (performs : v.Performs c (.block b)) (child : e ∈ b.expressions) : v.Performs c e where
  expr x walk has := performs.expr x walk (Expr.has_of_child child has)
  leaf l has := performs.leaf l (Expr.has_of_child child has)
  declaration := fun p ⟨b', has, mem⟩ =>
    performs.declaration p ⟨b', Expr.has_of_child child has, mem⟩
  block b walk has := performs.block b walk (Expr.has_of_child child has)

lemma walkBlock (performs : v.Performs c (.block b))
    (kids : ∀ e ∈ b.expressions, c.Follows (v.visit e)) :
    c.Follows (v.walkBlock b (b.expressions.map fun e _ => v.visit e)) := by
  have declared : c.Follows (b.declarations.forM v.declaration) :=
    .forM fun p mem => performs.declaration p ⟨b, Expr.has_self _, mem⟩
  apply declared.seq
  simpa [List.forM_eq_forM, List.forM_map] using Conduct.Follows.forM kids

/-- A visit follows the conduct if the hooks do. -/
lemma visit (performs : v.Performs c e) : c.Follows (v.visit e) := by
  induction e using Expr.inductionOn with
  | leaf l =>
    rw [visit_eq]
    exact performs.expr _ _ (Expr.has_self _) (performs.leaf l (Expr.has_self _))
  | block b ih =>
    rw [visit_eq]
    apply performs.expr _ _ (Expr.has_self _)
    apply performs.block _ _ (Expr.has_self _)
    exact performs.walkBlock fun e child => ih e child (performs.child child)

lemma accept (performs : v.Performs c e) : c.Follows (v.accept e) := by
  cases e with
  | leaf l => exact performs.leaf l (Expr.has_self _)
  | block b =>
    apply performs.block _ _ (Expr.has_self _)
    exact performs.walkBlock fun e child => (performs.child child).visit

end Visitor.Performs

/-! ### What stays -/

/--
In a run from an inventory that is reached, every parameter and every node stays: whatever has its
identity at the end is equal to it, in kind, type, shape, declarations and children. A block has a
view at the end if it was there and had one, or if its view has been requested; so it has none when
it is made. This is what the block tells if it is asked, and asking changes nothing. Walks of
transformers and visitors are such runs, and the requests for views in them are those of their
hooks.
-/
theorem Inventory.nodes_stay :
    (∀ (w w' : Inventory) (cs : List Command), w.Reachable → w.Run cs w' →
      (∀ p ∈ w.params, p ∈ w'.params ∧ ∀ q ∈ w'.params, q.same p = true → q = p) ∧
      (∀ n ∈ w.nodes, n ∈ w'.nodes ∧ ∀ n' ∈ w'.nodes, n'.same n = true → n' = n) ∧
      (∀ b, .block b ∈ w'.nodes → (w'.forest.hasView b = true ↔
        .block b ∈ w.nodes ∧ w.forest.hasView b = true ∨ Command.view b ∈ cs)) ∧
      (∀ b, (Command.ask (.hasView b)).reply.run w'.forest =
        (.truth (w'.forest.hasView b), w'.forest))) ∧
    (∀ {σ : Type} (t : Transformer σ) (c : Conduct σ) (e : Expr), t.Performs c e →
      (t.transform e).Performs c Inventory.nodes ∧ (t.walk e).Performs c Inventory.nodes) ∧
    (∀ {σ : Type} (v : Visitor σ) (c : Conduct σ) (e : Expr), v.Performs c e →
      c.Follows (v.visit e) ∧ c.Follows (v.accept e)) := by
  refine ⟨fun w w' cs reachable run => ⟨?_, ?_, ?_, fun b => rfl⟩, ?_, ?_⟩
  · intro p mem
    have stocked := (reachable.sound.run run).stocked
    exact ⟨run.params_subset mem, fun q mem' =>
      stocked.param_eq_of_same mem' (run.params_subset mem)⟩
  · intro n mem
    have stocked := (reachable.sound.run run).stocked
    exact ⟨run.nodes_subset mem, fun n' mem' => stocked.eq_of_same mem' (run.nodes_subset mem)⟩
  · exact fun b mem => run.hasView_iff reachable.sound mem
  · exact fun t c e performs => ⟨performs.transform, performs.walk⟩
  · exact fun v c e performs => ⟨performs.visit, performs.accept⟩

/--
A block has a view; a rebuild with its very children has none, nor has the block that comes of a
walk through it.
-/
theorem Inventory.nodes_stay_promoted :
    let x : Param := ⟨0, some "x", .int, false⟩
    let args : List Expr := [x.read, .leaf (.constant ⟨1, .int 1, .int⟩)]
    let b : Block Expr := ⟨2, .ofPlain x.read (args.drop 1)⟩
    let b' : Block Expr := ⟨4, b.layout⟩
    ∃ cs w, Inventory.Run {} cs w ∧ .block b' ∈ w.nodes ∧ w.forest.hasView b = true ∧
      w.forest.hasView b' = false ∧
      (Command.ask (.hasView b')).reply.run w.forest = (.truth false, w.forest) ∧
      ∃ b'' g, (Rules.number.transformer.transform (.block b)).outcome 7 w.forest =
          (.ok (.block b'', 8), g) ∧
        b''.id ≠ b.id ∧ g.hasView b = true ∧ g.hasView b'' = false := by
  intro x args b b'
  let cs : List Command := [.param (some "x") .int false, .constant (.int 1) .int, .read x,
    .block args, .view b, .rebuild b none args]
  let w : Inventory := cs.foldl Inventory.perform {}
  have run : Inventory.Run {} cs w := by
    refine .cons ⟨List.nil_subset _, List.nil_subset _⟩ ?_
    refine .cons ⟨List.nil_subset _, List.nil_subset _⟩ ?_
    refine .cons ⟨List.Subset.refl _, List.nil_subset _⟩ ?_
    refine .cons ⟨List.nil_subset _, List.Subset.refl _⟩ ?_
    refine .cons ⟨List.nil_subset _, List.cons_subset.mpr ⟨.head _, List.nil_subset _⟩⟩ ?_
    refine .cons ⟨List.nil_subset _, List.Subset.refl _⟩ ?_
    exact .nil _
  have mem : .block b ∈ w.nodes := .tail _ (.head _)
  let c : Conduct Nat := ⟨fun _ v => ∃ later, w.Run later v, fun _ => False⟩
  have performs : Rules.number.transformer.Performs c (.block b) := by
    apply Rules.performs_number
    · rintro _ _ ⟨_, run'⟩
      exact ⟨run'.reachable ⟨cs, run⟩, run'.nodes_subset mem⟩
    · rintro _ _ _ _ ⟨_, run'⟩ run'' _
      exact ⟨_, run'.append run''⟩
  obtain ⟨b'', g, ends, new⟩ : ∃ b'' g, (Rules.number.transformer.transform (.block b)).outcome 7
      w.forest = (.ok (.block b'', 8), g) ∧ b''.id ≠ 2 := ⟨_, _, rfl, by decide⟩
  obtain ⟨stays, walks, -⟩ := Inventory.nodes_stay
  obtain ⟨cs', v, run', rfl, allowed, given⟩ := (walks _ c _ performs).1 7 w _ g ⟨[], .nil w⟩ ends
  obtain ⟨-, -, before, replied⟩ := stays {} w cs ⟨[], .nil _⟩ run
  obtain ⟨-, -, after, -⟩ := stays {} v (cs ++ cs') ⟨[], .nil _⟩ (run.append run')
  have none : w.forest.hasView b' = false := by
    rw [← Bool.not_eq_true, before b' (.head _)]
    simp [cs, b, b']
  refine ⟨cs, w, run, .head _, ?_, none, ?_, b'', v.forest, ends, new, ?_, ?_⟩
  · exact (before b mem).mpr (.inr (by simp [cs]))
  · rw [replied, none]
  · exact (after b (run'.nodes_subset mem)).mpr (.inr (by simp [cs]))
  · rw [← Bool.not_eq_true, after b'' (given _ _ rfl).2]
    rintro (⟨mem, -⟩ | asked)
    · cases mem
    · rcases List.mem_append.mp asked with asked | asked
      · simp only [cs, List.mem_cons, reduceCtorEq, Command.view.injEq, false_or,
          List.not_mem_nil, or_false] at asked
        exact new (congrArg Block.id asked)
      · exact allowed b'' asked

end ScopedExpr
