import ScopedExpr.Proofs.Forest.Owned

/-!
# Inventories

All that is done with a forest is done by commands, one after another. An inventory lists what they
have made: the parameters and the nodes, each under a number of its own. A command makes one thing
at most, and only a request for a view makes a view; so what stands in the inventory stays as it is,
and a block gets its view at the first request for just this view.
-/

namespace ScopedExpr

/-! ### Commands -/

/-- What is asked about things that have been made. -/
inductive Question where
  | kind (e : Expr)
  | ty (e : Expr)
  | text (e : Expr)
  | outline (e : Expr)
  | child (b : Block Expr) (index : Nat)
  | declared (b : Block Expr) (index : Nat)
  | element (v : ListView) (index : Nat)
  | hasView (b : Block Expr)

/-- What is done with a forest. -/
inductive Command where
  | param (name? : Option String) (ty : TypeId) (byRef : Bool)
  | read (p : Param)
  | constant (value : Value) (ty : TypeId)
  | placeholder (ty : TypeId)
  | block2 (x y : Expr)
  | block3 (x y z : Expr)
  | block4 (x y z v : Expr)
  | block5 (x y z v w : Expr)
  | block (args : List Expr)
  | scope (declarations : List Param) (args : List Expr)
  | rebuild (b : Block Expr) (declarations? : Option (List Param)) (args : List Expr)
  | update (b : Block Expr) (declarations : List Param) (args : List Expr)
  | view (b : Block Expr)
  | ask (q : Question)

inductive Reply where
  | param (p : Param)
  | expr (e : Expr)
  | invalid (refusal : InvalidArgument)
  | misused (misuse : Misuse)
  | view (v : ListView)
  | kind (kind : Kind)
  | ty (ty : TypeId)
  | text (text : String)
  | outline (outline : Outline)
  | child (e : Except Misuse Expr)
  | declared (p : Except Misuse Param)
  | element (e? : Option Expr)
  | truth (b : Bool)

def Reply.ofFactory : Except InvalidArgument Expr → Reply
  | .ok e => .expr e
  | .error refusal => .invalid refusal

def Reply.ofRebuild : Except Misuse Expr → Reply
  | .ok e => .expr e
  | .error misuse => .misused misuse

def Forest.answer (f : Forest) : Question → Reply
  | .kind e => .kind e.kind
  | .ty e => .ty e.ty
  | .text e => .text e.text
  | .outline e => .outline e.outline
  | .child b index => .child (b.expression index)
  | .declared b index => .declared (b.declaration index)
  | .element v index => .element (v.get? index)
  | .hasView b => .truth (f.hasView b)

/-- Carry out a command. -/
def Command.reply : Command → Build Reply
  | .param name? ty byRef => do return .param (← Build.param name? ty byRef)
  | .read p => return .expr p.read
  | .constant value ty => do return .expr (← Build.typedConstant value ty)
  | .placeholder ty => do return .expr (← Build.placeholder ty)
  | .block2 x y => do return .ofFactory (← (Build.block2 x y).run)
  | .block3 x y z => do return .ofFactory (← (Build.block3 x y z).run)
  | .block4 x y z v => do return .ofFactory (← (Build.block4 x y z v).run)
  | .block5 x y z v w => do return .ofFactory (← (Build.block5 x y z v w).run)
  | .block args => do return .ofFactory (← (Build.block args).run)
  | .scope declarations args => do return .ofFactory (← (Build.scope declarations args).run)
  | .rebuild b declarations? args => do return .ofRebuild (← (b.rebuild declarations? args).run)
  | .update b declarations args => do return .ofFactory (← (b.update declarations args).run)
  | .view b => do return .view (← Build.viewOf b)
  | .ask q => ⟨fun f => (f.answer q, f), Forest.Grows.refl⟩

def Command.params : Command → List Param
  | .read p => [p]
  | .scope declarations _ => declarations
  | .rebuild _ declarations? _ => declarations?.getD []
  | .update _ declarations _ => declarations
  | _ => []

def Command.nodes : Command → List Expr
  | .block2 x y => [x, y]
  | .block3 x y z => [x, y, z]
  | .block4 x y z v => [x, y, z, v]
  | .block5 x y z v w => [x, y, z, v, w]
  | .block args => args
  | .scope _ args => args
  | .rebuild b _ args => .block b :: args
  | .update b _ args => .block b :: args
  | .view b => [.block b]
  | _ => []

/-! ### Runs -/

/-- A forest, with the parameters and the nodes that have been made in it. -/
structure Inventory where
  forest : Forest := {}
  params : List Param := []
  nodes : List Expr := []

/-- The inventory with the forest that a command has left, and with what it has replied. -/
def Inventory.add (w : Inventory) (g : Forest) : Reply → Inventory
  | .param p => ⟨g, p :: w.params, w.nodes⟩
  | .expr e => ⟨g, w.params, e :: w.nodes⟩
  | _ => ⟨g, w.params, w.nodes⟩

/-- Carry out a command and list what it replies. -/
def Inventory.perform (w : Inventory) (c : Command) : Inventory :=
  w.add (c.reply.run w.forest).2 (c.reply.run w.forest).1

/-- Whether a command is given only what has been made. -/
structure Command.Legal (c : Command) (w : Inventory) : Prop where
  params : c.params ⊆ w.params
  nodes : c.nodes ⊆ w.nodes

/-- Whether the commands are legal, each in its turn, and lead from one inventory to the other. -/
inductive Inventory.Run : Inventory → List Command → Inventory → Prop where
  | nil (w : Inventory) : Run w [] w
  | cons {w w' : Inventory} {c : Command} {cs : List Command} (legal : c.Legal w)
      (run : Run (w.perform c) cs w') : Run w (c :: cs) w'

/-- Whether some run leads from the empty inventory to this one. -/
def Inventory.Reachable (w : Inventory) : Prop := ∃ cs, Inventory.Run {} cs w

namespace Inventory.Run

variable {w w' w'' : Inventory} {c : Command} {cs cs' : List Command}

lemma single (legal : c.Legal w) : w.Run [c] (w.perform c) := .cons legal (.nil _)

lemma append (run : w.Run cs w') (run' : w'.Run cs' w'') : w.Run (cs ++ cs') w'' := by
  induction run with
  | nil => exact run'
  | cons legal _ ih => exact .cons legal (ih run')

lemma reachable (run : w.Run cs w') (reachable : w.Reachable) : w'.Reachable := by
  obtain ⟨before, run'⟩ := reachable
  exact ⟨_, run'.append run⟩

end Inventory.Run

/-! ### New blocks -/

/--
Whether the computation leaves the forest alone if it fails, and else ends in a block that has the
next number.
-/
def GivesNext {ε : Type} (x : ExceptT ε Build Expr) : Prop :=
  ∀ f, (∃ error, x.run.run f = (.error error, f)) ∨
    ∃ layout, x.run.run f = (.ok (.block ⟨f.next, layout⟩), { f with next := f.next + 1 })

namespace GivesNext

variable {ε α : Type}

lemma throw (error : ε) : GivesNext (throw error : ExceptT ε Build Expr) :=
  fun _ => .inl ⟨error, rfl⟩

lemma node (layout : Layout Expr) : GivesNext (liftM (Build.node layout) : ExceptT ε Build Expr) :=
  fun _ => .inr ⟨layout, rfl⟩

lemma check (check : Except ε α) {next : α → ExceptT ε Build Expr}
    (gives : ∀ a, GivesNext (next a)) : GivesNext (liftM check >>= next) := by
  intro f
  cases check with
  | error error => exact .inl ⟨error, rfl⟩
  | ok a => exact gives a f

lemma fixed (layout : Layout Expr) : GivesNext (Build.fixed layout) := check _ fun _ => node layout

lemma block (args : List Expr) : GivesNext (Build.block args) := by
  apply check
  intro _
  cases args with
  | nil => exact throw _
  | cons first rest => exact node _

lemma scope (declarations : List Param) (args : List Expr) :
    GivesNext (Build.scope declarations args) := by
  unfold Build.scope
  split
  · exact block args
  · apply check
    intro _
    apply check
    intro _
    cases args with
    | nil => exact throw _
    | cons first rest => exact node _

lemma rebuild (b : Block Expr) (declarations? : Option (List Param)) (args : List Expr) :
    GivesNext (b.rebuild declarations? args) := by
  unfold Block.rebuild
  split
  · exact throw _
  · exact throw _
  · exact node _

/-- To make a block is to make no view. -/
lemma views_eq {x : ExceptT ε Build Expr} (gives : GivesNext x) (f : Forest) :
    (x.run.run f).2.views = f.views := by
  rcases gives f with ⟨error, ends⟩ | ⟨layout, ends⟩ <;> rw [ends]

end GivesNext

/-! ### Views that are made -/

/-- A request makes the view of its own block and no other. -/
lemma Build.view?_viewOf (b : Block Expr) (f : Forest) (number : Nat) :
    (((Build.viewOf b).run f).2.view? number).isSome = true ↔
      (f.view? number).isSome = true ∨ b.id = number := by
  simp only [Build.viewOf]
  cases found : f.view? b.id with
  | some v =>
    refine ⟨.inl, fun h => h.elim id ?_⟩
    rintro rfl
    simp [found]
  | none =>
    by_cases same : b.id = number
    · simp [Forest.view?, same]
    · have other : (number == b.id) = false := beq_false_of_ne (Ne.symm same)
      simp [Forest.view?, List.lookup_cons, other, same]

/-- Only a request for a view changes the views. -/
lemma Command.views_reply {c : Command} (other : ¬ ∃ b, c = .view b) (f : Forest) :
    (c.reply.run f).2.views = f.views := by
  cases c with
  | param | read | constant | placeholder | ask => rfl
  | block2 | block3 | block4 | block5 => exact (GivesNext.fixed _).views_eq f
  | block args => exact (GivesNext.block args).views_eq f
  | scope declarations args => exact (GivesNext.scope declarations args).views_eq f
  | rebuild b declarations? args => exact (GivesNext.rebuild b declarations? args).views_eq f
  | update b declarations args =>
    change ((b.update declarations args).run.run f).2.views = f.views
    unfold Block.update
    split
    · rfl
    · exact (GivesNext.scope declarations args).views_eq f
  | view b => exact absurd ⟨b, rfl⟩ other

/-- A request makes the view of the block that it names, and nothing else makes a view. -/
lemma Command.view?_reply (c : Command) (f : Forest) (number : Nat) :
    ((c.reply.run f).2.view? number).isSome = true ↔
      (f.view? number).isSome = true ∨ ∃ b, c = .view b ∧ b.id = number := by
  by_cases view : ∃ b, c = .view b
  · obtain ⟨b, rfl⟩ := view
    have run_eq : ((Command.view b).reply.run f).2 = ((Build.viewOf b).run f).2 := rfl
    rw [run_eq, Build.view?_viewOf]
    simp
  · rw [Forest.view?, c.views_reply view f]
    exact ⟨.inl, fun h => h.resolve_right fun ⟨b, eq, _⟩ => view ⟨b, eq⟩⟩

namespace Inventory

variable {w w' : Inventory} {c : Command} {cs : List Command}

@[simp] lemma forest_add (w : Inventory) (g : Forest) (reply : Reply) :
    (w.add g reply).forest = g := by
  cases reply <;> rfl

lemma params_subset_perform (w : Inventory) (c : Command) : w.params ⊆ (w.perform c).params := by
  rw [perform]
  cases (c.reply.run w.forest).1 with
  | param p => exact List.subset_cons_self p w.params
  | _ => exact List.Subset.refl _

/-- No command takes a node off the list. -/
lemma nodes_subset_perform (w : Inventory) (c : Command) : w.nodes ⊆ (w.perform c).nodes := by
  rw [perform]
  cases (c.reply.run w.forest).1 with
  | expr e => exact List.subset_cons_self e w.nodes
  | _ => exact List.Subset.refl _

namespace Run

lemma params_subset (run : w.Run cs w') : w.params ⊆ w'.params := by
  induction run with
  | nil => exact List.Subset.refl _
  | cons _ _ ih => exact List.Subset.trans (params_subset_perform _ _) ih

lemma nodes_subset (run : w.Run cs w') : w.nodes ⊆ w'.nodes := by
  induction run with
  | nil => exact List.Subset.refl _
  | cons _ _ ih => exact List.Subset.trans (nodes_subset_perform _ _) ih

/-- The views that are there after a run are the old ones and those that have been requested. -/
lemma view?_iff (run : w.Run cs w') (number : Nat) :
    (w'.forest.view? number).isSome = true ↔
      (w.forest.view? number).isSome = true ∨ ∃ b, Command.view b ∈ cs ∧ b.id = number := by
  induction run with
  | nil => simp
  | @cons w _ c _ _ _ ih =>
    rw [ih, perform, forest_add, c.view?_reply, or_assoc]
    simp only [List.mem_cons, or_and_right, exists_or, eq_comm]

end Run

/-! ### What is in an inventory -/

lemma mem_cons_congr {α : Type} {as bs : List α} (same : ∀ x, x ∈ as ↔ x ∈ bs) (a x : α) :
    x ∈ a :: as ↔ x ∈ a :: bs := by
  rw [List.mem_cons, List.mem_cons, same]

/-- Whether the inventory lists exactly what can be made while the forest grows. -/
def Stocked (w : Inventory) : Prop :=
  ∃ ps es, w.forest.Stock ps es ∧ (∀ p, p ∈ w.params ↔ p ∈ ps) ∧ ∀ e, e ∈ w.nodes ↔ e ∈ es

namespace Stocked

variable {f g : Forest} {ps : List Param} {es : List Expr}

/-- With a node all nodes below it are listed. -/
lemma mem_of_has (stocked : w.Stocked) {e n : Expr} (mem : e ∈ w.nodes) (has : e.Has n) :
    n ∈ w.nodes := by
  obtain ⟨ps, es, stock, -, nodes⟩ := stocked
  exact (nodes n).mpr (stock.mem_of_has e ((nodes e).mp mem) n has)

/-- With a node all parameters that it mentions are listed. -/
lemma mem_of_mentions (stocked : w.Stocked) {e : Expr} (mem : e ∈ w.nodes) {p : Param}
    (mentions : e.Mentions p) : p ∈ w.params := by
  obtain ⟨ps, es, stock, params, nodes⟩ := stocked
  exact (params p).mpr (stock.mem_of_mentions e ((nodes e).mp mem) p mentions)

lemma owns (stocked : w.Stocked) {e : Expr} (mem : e ∈ w.nodes) : w.forest.Owns e := by
  obtain ⟨ps, es, stock, -, nodes⟩ := stocked
  exact stock.owns ((nodes e).mp mem)

/-- Two listed nodes of one identity are equal. -/
lemma eq_of_same (stocked : w.Stocked) {e e' : Expr} (mem : e ∈ w.nodes) (mem' : e' ∈ w.nodes)
    (same : e.same e' = true) : e = e' := by
  obtain ⟨ps, es, stock, -, nodes⟩ := stocked
  exact stock.eq_of_same e ((nodes e).mp mem) e' ((nodes e').mp mem') same

lemma block_eq_of_id (stocked : w.Stocked) {b b' : Block Expr} (mem : .block b ∈ w.nodes)
    (mem' : .block b' ∈ w.nodes) (id_eq : b.id = b'.id) : b = b' := by
  have same : (Expr.block b).same (.block b') = true := by simp [Expr.same, Expr.identity, id_eq]
  exact Expr.block.inj (stocked.eq_of_same mem mem' same)

/-- Two listed parameters of one number are equal. -/
lemma param_eq_of_same (stocked : w.Stocked) {p q : Param} (mem : p ∈ w.params)
    (mem' : q ∈ w.params) (same : p.same q = true) : p = q := by
  obtain ⟨ps, es, stock, params, -⟩ := stocked
  exact stock.apart ((params p).mp mem) ((params q).mp mem') (eq_of_beq same)

lemma grown (stocked : w.Stocked) (grows : w.forest.Grows g) :
    Stocked { w with forest := g } := by
  obtain ⟨ps, es, stock, params, nodes⟩ := stocked
  exact ⟨ps, es, stock.grown grows, params, nodes⟩

/-- A node that is listed may be listed once more. -/
lemma known (stocked : w.Stocked) {e : Expr} (mem : e ∈ w.nodes) :
    Stocked { w with nodes := e :: w.nodes } := by
  obtain ⟨ps, es, stock, params, nodes⟩ := stocked
  refine ⟨ps, es, stock, params, fun n => ?_⟩
  rw [List.mem_cons, nodes]
  exact or_iff_right_of_imp fun eq => eq ▸ (nodes e).mp mem

/-- A block of listed parts may be listed when it gets the next number. -/
lemma block (stocked : w.Stocked) {b : Block Expr} (made : b.Made) (id_eq : b.id = w.forest.next)
    (declared : b.declarations ⊆ w.params) (parts : b.expressions ⊆ w.nodes) :
    Stocked ⟨{ w.forest with next := w.forest.next + 1 }, w.params, .block b :: w.nodes⟩ := by
  obtain ⟨ps, es, stock, params, nodes⟩ := stocked
  refine ⟨ps, .block b :: es, stock.block made id_eq ?_ ?_, params, fun n => ?_⟩
  · exact fun p mem => (params p).mp (declared mem)
  · exact fun e mem => (nodes e).mp (parts mem)
  · rw [List.mem_cons, List.mem_cons, nodes]

/-- A factory adds a block if its parts have been made, or else nothing. -/
lemma add_factory (stocked : w.Stocked) {x : Factory Expr} (next : GivesNext x)
    {declarations : List Param} {args : List Expr}
    (given : ∀ b, Gives x (.block b) → b.Made ∧ b.BuiltWith declarations args)
    (declared : declarations ⊆ w.params) (parts : args ⊆ w.nodes) :
    (w.add (x.run.run w.forest).2 (.ofFactory (x.run.run w.forest).1)).Stocked := by
  rcases next w.forest with ⟨error, ends⟩ | ⟨layout, ends⟩ <;> rw [ends]
  · exact stocked
  · obtain ⟨made, built⟩ := given _ ⟨w.forest, congrArg Prod.fst ends⟩
    exact stocked.block made rfl (built.declarations_eq ▸ declared) (built.expressions_eq ▸ parts)

lemma add_fixed (stocked : w.Stocked) (layout : Layout Expr) (fits : layout.Fits)
    (plain : layout.declarations = [])
    (made : ∀ b, Gives (Build.fixed layout) (.block b) → b.Made)
    (parts : layout.expressions ⊆ w.nodes) :
    (w.add ((Build.fixed layout).run.run w.forest).2
      (.ofFactory ((Build.fixed layout).run.run w.forest).1)).Stocked := by
  refine stocked.add_factory (.fixed layout) (fun b given => ?_) (List.nil_subset _) parts
  obtain ⟨_, ⟨⟩, built⟩ := fixed_gives given fits plain
  exact ⟨made b given, built⟩

/-- What the factory of scopes replies may be listed, be it a block or a refusal. -/
lemma add_scope (stocked : w.Stocked) {declarations : List Param} {args : List Expr}
    (declared : declarations ⊆ w.params) (parts : args ⊆ w.nodes) :
    (w.add ((Build.scope declarations args).run.run w.forest).2
      (.ofFactory ((Build.scope declarations args).run.run w.forest).1)).Stocked := by
  refine stocked.add_factory (.scope declarations args) (fun b given => ?_) declared parts
  obtain ⟨_, ⟨⟩, built⟩ := scope_gives given
  exact ⟨.scope given, built⟩

lemma add_rebuild (stocked : w.Stocked) {b : Block Expr} {declarations? : Option (List Param)}
    {args : List Expr} (mem : .block b ∈ w.nodes) (declared : declarations?.getD [] ⊆ w.params)
    (parts : args ⊆ w.nodes) :
    (w.add ((b.rebuild declarations? args).run.run w.forest).2
      (.ofRebuild ((b.rebuild declarations? args).run.run w.forest).1)).Stocked := by
  rcases GivesNext.rebuild b declarations? args w.forest with ⟨error, ends⟩ | ⟨layout, ends⟩
  · rw [ends]
    exact stocked
  · have given : Gives (b.rebuild declarations? args) (.block ⟨w.forest.next, layout⟩) :=
      ⟨w.forest, congrArg Prod.fst ends⟩
    obtain ⟨fit, first, rest, rfl, rfl⟩ := Block.rebuild_gives given
    have made : b.Made := (stocked.owns mem).made b (Expr.has_self _)
    rw [ends]
    refine stocked.block (made.rebuild given) rfl ?_ ?_
    · intro p declares
      rw [Block.declarations, Layout.declarations_rebuilt (Block.misfit?_eq_none.mp fit).2]
        at declares
      cases declarations? with
      | none => exact stocked.mem_of_mentions mem ((Expr.mentions_block b).mpr (.inl declares))
      | some declarations => exact declared declares
    · rwa [Block.expressions, Layout.expressions_rebuilt]

/-- One step keeps the numbers of the nodes and of the parameters apart. -/
lemma perform (stocked : w.Stocked) (legal : c.Legal w) : (w.perform c).Stocked := by
  obtain ⟨declared, parts⟩ := legal
  cases c with
  | param name? ty byRef =>
    obtain ⟨ps, es, stock, params, nodes⟩ := stocked
    exact ⟨_, es, stock.param rfl, mem_cons_congr params _, nodes⟩
  | read p =>
    obtain ⟨ps, es, stock, params, nodes⟩ := stocked
    have known : p ∈ ps := (params p).mp (declared List.mem_cons_self)
    exact ⟨ps, _, stock.read known, params, mem_cons_congr nodes _⟩
  | constant value ty =>
    obtain ⟨ps, es, stock, params, nodes⟩ := stocked
    exact ⟨ps, _, stock.constant rfl, params, mem_cons_congr nodes _⟩
  | placeholder ty =>
    obtain ⟨ps, es, stock, params, nodes⟩ := stocked
    exact ⟨ps, _, stock.placeholder rfl, params, mem_cons_congr nodes _⟩
  | block2 x y => exact stocked.add_fixed (.block2 x y) rfl rfl (fun _ => .block2) parts
  | block3 x y z => exact stocked.add_fixed (.block3 x y z) rfl rfl (fun _ => .block3) parts
  | block4 x y z v => exact stocked.add_fixed (.block4 x y z v) rfl rfl (fun _ => .block4) parts
  | block5 x y z v w => exact stocked.add_fixed (.block5 x y z v w) rfl rfl (fun _ => .block5) parts
  | block args =>
    refine stocked.add_factory (.block args) (fun b given => ?_) declared parts
    obtain ⟨_, ⟨⟩, built⟩ := block_gives given
    exact ⟨.block given, built⟩
  | scope declarations args => exact stocked.add_scope declared parts
  | rebuild b declarations? args =>
    obtain ⟨mem, parts⟩ := List.cons_subset.mp parts
    exact stocked.add_rebuild mem declared parts
  | update b declarations args =>
    obtain ⟨mem, parts⟩ := List.cons_subset.mp parts
    change (w.add ((b.update declarations args).run.run w.forest).2
      (.ofFactory ((b.update declarations args).run.run w.forest).1)).Stocked
    unfold Block.update
    split
    · exact stocked.known mem
    · exact stocked.add_scope declared parts
  | view b => exact stocked.grown ((Build.viewOf b).grows w.forest)
  | ask q => cases q <;> exact stocked

end Stocked

/-- In every inventory that is reached the numbers are apart, and each view is that of a block. -/
structure Sound (w : Inventory) : Prop where
  stocked : w.Stocked
  viewed : ∀ number, (w.forest.view? number).isSome = true →
    ∃ b, .block b ∈ w.nodes ∧ b.id = number

namespace Sound

lemma empty : Sound {} where
  stocked := ⟨[], [], .empty, by simp, by simp⟩
  viewed := by simp [Forest.view?]

lemma perform (sound : w.Sound) (legal : c.Legal w) : (w.perform c).Sound where
  stocked := sound.stocked.perform legal
  viewed := by
    intro number viewed
    rw [Inventory.perform, forest_add, c.view?_reply] at viewed
    rcases viewed with viewed | ⟨b, rfl, id_eq⟩
    · obtain ⟨b, mem, id_eq⟩ := sound.viewed number viewed
      exact ⟨b, w.nodes_subset_perform c mem, id_eq⟩
    · exact ⟨b, w.nodes_subset_perform _ (legal.nodes List.mem_cons_self), id_eq⟩

lemma run (sound : w.Sound) (run : w.Run cs w') : w'.Sound := by
  induction run with
  | nil => exact sound
  | cons legal _ ih => exact ih (sound.perform legal)

end Sound

lemma Reachable.sound (reachable : w.Reachable) : w.Sound := by
  obtain ⟨cs, run⟩ := reachable
  exact Sound.empty.run run

/-! ### The view of one block -/

namespace Run

variable {b : Block Expr}

/-- A view can be requested only of a block that is listed. -/
lemma mem_of_view (run : w.Run cs w') (asked : Command.view b ∈ cs) : .block b ∈ w'.nodes := by
  induction run with
  | nil => cases asked
  | cons legal run ih =>
    rcases List.mem_cons.mp asked with rfl | asked
    · exact run.nodes_subset (nodes_subset_perform _ _ (legal.nodes List.mem_cons_self))
    · exact ih asked

/-- The node that has a view is the one under whose number it is. -/
lemma hasView_of_number (run : w.Run cs w') (sound : w.Sound) (mem : .block b ∈ w'.nodes)
    (viewed : w.forest.hasView b = true) : .block b ∈ w.nodes := by
  obtain ⟨b', mem', id_eq⟩ := sound.viewed b.id viewed
  rwa [← (sound.run run).stocked.block_eq_of_id (run.nodes_subset mem') mem id_eq]

/-- A block has a view after a run if it had one before or if its view has been requested. -/
lemma hasView_iff (run : w.Run cs w') (sound : w.Sound) (mem : .block b ∈ w'.nodes) :
    w'.forest.hasView b = true ↔
      .block b ∈ w.nodes ∧ w.forest.hasView b = true ∨ Command.view b ∈ cs := by
  rw [Forest.hasView, run.view?_iff]
  constructor
  · rintro (viewed | ⟨b', asked, id_eq⟩)
    · exact .inl ⟨run.hasView_of_number sound mem viewed, viewed⟩
    · obtain rfl := (sound.run run).stocked.block_eq_of_id (run.mem_of_view asked) mem id_eq
      exact .inr asked
  · rintro (⟨-, viewed⟩ | asked)
    · exact .inl viewed
    · exact .inr ⟨b, asked, rfl⟩

end Run

end Inventory

end ScopedExpr
