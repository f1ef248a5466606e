import ScopedExpr.Proofs.Forest.Refusals

/-!
# Rebuilds and updates

The factory of scopes looks at all of its arguments. A rebuild looks at their numbers only, and an
update looks at nothing if nothing changes. Yet what they make is what the factory makes: a rebuild
keeps the shape because it keeps the numbers, and a block that an update keeps would pass the
checks.
-/

namespace ScopedExpr

/-! ### Layouts of given lists -/

variable {w : Inventory} {b : Block Expr} {e : Expr} {declarations : List Param} {args : List Expr}
  {declarations? : Option (List Param)}

/-- The factory of scopes makes the layout of these lists that fits. -/
lemma scope_gives_layout (fits : b.layout.Fits) (declared : b.declarations = declarations)
    (expressed : b.expressions = args) (given : Gives (Build.scope declarations args) e) :
    ∃ b', e = .block b' ∧ b'.layout = b.layout := by
  obtain ⟨b', rfl, built⟩ := scope_gives given
  exact ⟨b', rfl, built.fits.ext fits (built.declarations_eq.trans declared.symm)
    (built.expressions_eq.trans expressed.symm)⟩

/-- A block with a new number is none of those that are in the inventory. -/
lemma Inventory.Stocked.not_same (stocked : w.Stocked) (new : b.id = w.forest.next) {n : Expr}
    (mem : n ∈ w.nodes) : (Expr.block b).same n = false :=
  (stocked.owns mem).held.not_same (Nat.le_of_eq new.symm) n.has_self

/-! ### Rebuilds -/

/--
Whether `b'` is a new block of the shape and the counts of `b`, made of these variables and
children, and the factory of scopes, where it takes them, gives it the same layout.
-/
structure Inventory.Renews (w : Inventory) (b : Block Expr) (declarations : List Param)
    (args : List Expr) (b' : Block Expr) : Prop where
  new : ∀ n ∈ w.nodes, (Expr.block b').same n = false
  shape_eq : b'.shape = b.shape
  count_eq : b'.count = b.count
  length_eq : b'.declarations.length = b.declarations.length
  shows : b'.Shows declarations args
  as_scope : ∀ e, Gives (Build.scope declarations args) e → ∃ b'', e = .block b'' ∧
    b''.layout = b'.layout

/-- A rebuild with numbers that fit keeps them, and the shape with them. -/
lemma Inventory.Stocked.renews (stocked : w.Stocked) (mem : .block b ∈ w.nodes)
    (count_eq : args.length = b.count)
    (length_eq : (declarations?.getD b.declarations).length = b.declarations.length) :
    ∃ b' g, (b.rebuild declarations? args).run.run w.forest = (.ok (.block b'), g) ∧
      w.Renews b (declarations?.getD b.declarations) args b' := by
  obtain ⟨first, rest, rfl, ran⟩ :=
    Block.rebuild_run (Block.misfit?_eq_none.mpr ⟨count_eq, length_eq⟩) w.forest
  have fits := ((stocked.owns mem).made b (Expr.has_self _)).fits
  have fits' := fits.rebuilt length_eq first rest
  have declared := Layout.declarations_rebuilt length_eq first rest
  have expressed := Layout.expressions_rebuilt b.layout declarations? first rest
  have shows : Block.Shows (declarations?.getD b.declarations) (first :: rest)
      ⟨w.forest.next, b.layout.rebuilt declarations? first rest⟩ :=
    Block.shows fits' declared expressed
  have count_eq' := shows.count_eq.trans count_eq
  have length_eq' := (congrArg List.length shows.declarations_eq).trans length_eq
  refine ⟨_, _, ran, fun n => stocked.not_same rfl, ?_, count_eq', length_eq', shows, ?_⟩
  · exact fits.shape_eq fits' length_eq' count_eq'
  · exact fun e given => scope_gives_layout fits' declared expressed given

/--
A rebuild is a misuse exactly if another number of children is given, which is then what is
reported, or another number of variables. In all other cases, whatever the children and variables
are, it makes a new block of them in the shape of the old one, which the factory of scopes would
make as well if it takes them.
-/
theorem Inventory.rebuild_renews (reachable : w.Reachable) (mem : .block b ∈ w.nodes)
    (declarations? : Option (List Param)) (args : List Expr) :
    (args.length ≠ b.count → (b.rebuild declarations? args).run.run w.forest =
      (.error (.expressionCount args.length b.count), w.forest)) ∧
    (∀ declarations, args.length = b.count → declarations? = some declarations →
      declarations.length ≠ b.declarations.length →
      (b.rebuild declarations? args).run.run w.forest =
        (.error (.variableCount declarations.length b.declarations.length), w.forest)) ∧
    (args.length = b.count →
      (∀ declarations, declarations? = some declarations →
        declarations.length = b.declarations.length) →
      ∃ b' g, (b.rebuild declarations? args).run.run w.forest = (.ok (.block b'), g) ∧
        w.Renews b (declarations?.getD b.declarations) args b') := by
  refine ⟨?_, ?_, ?_⟩
  · intro differ
    unfold Block.rebuild Block.misfit?
    rw [if_pos differ]
    rfl
  · rintro declarations count_eq rfl differ
    unfold Block.rebuild Block.misfit?
    rw [if_neg (not_not_intro count_eq)]
    simp only [if_pos differ]
    rfl
  · intro count_eq given
    refine reachable.sound.stocked.renews mem count_eq ?_
    cases declarations? with
    | none => rfl
    | some declarations => exact given declarations rfl

/-- A scope is rebuilt with a variable by reference and two placeholders, but not with fewer. -/
theorem Inventory.rebuild_renews_unreadable :
    let x : Param := ⟨0, some "x", .int, false⟩
    let r : Param := ⟨1, some "r", .int, true⟩
    let hole : Expr := .leaf (.placeholder ⟨2, .int⟩)
    let b : Block Expr := ⟨3, .scopeN [x] x.read [x.read]⟩
    ∃ w : Inventory, w.Reachable ∧ .block b ∈ w.nodes ∧
      (b.rebuild (some []) [hole]).run.run w.forest = (.error (.expressionCount 1 2), w.forest) ∧
      (b.rebuild (some []) [hole, hole]).run.run w.forest =
        (.error (.variableCount 0 1), w.forest) ∧
      ∃ b' g, (b.rebuild (some [r]) [hole, hole]).run.run w.forest = (.ok (.block b'), g) ∧
        w.Renews b [r] [hole, hole] b' := by
  intro x r hole b
  let w : Inventory := ⟨{ next := 4 }, [r, x], [.block b, x.read, hole]⟩
  have run : Inventory.Run {} [.param (some "x") .int false, .param (some "r") .int true,
      .placeholder .int, .read x, .scope [x] [x.read, x.read]] w := by
    refine .cons ⟨List.nil_subset _, List.nil_subset _⟩ ?_
    refine .cons ⟨List.nil_subset _, List.nil_subset _⟩ ?_
    refine .cons ⟨List.nil_subset _, List.nil_subset _⟩ ?_
    refine .cons ⟨List.cons_subset.mpr ⟨.tail _ (.head _), List.nil_subset _⟩, List.nil_subset _⟩ ?_
    refine .cons ⟨List.cons_subset.mpr ⟨.tail _ (.head _), List.nil_subset _⟩,
      List.cons_subset.mpr ⟨.head _, List.cons_subset.mpr ⟨.head _, List.nil_subset _⟩⟩⟩ ?_
    exact .nil _
  have reachable : w.Reachable := ⟨_, run⟩
  have mem : .block b ∈ w.nodes := .head _
  refine ⟨w, reachable, mem, ?_, ?_, ?_⟩
  · exact (rebuild_renews reachable mem (some []) [hole]).1 (by decide)
  · exact (rebuild_renews reachable mem (some []) [hole, hole]).2.1 [] rfl rfl (by decide)
  · refine (rebuild_renews reachable mem (some [r]) [hole, hole]).2.2 rfl ?_
    rintro _ ⟨⟩
    rfl

/-! ### Updates -/

/-- Whether the variables and the children are, one by one, the very ones of the block. -/
def Block.Consists (b : Block Expr) (declarations : List Param) (args : List Expr) : Prop :=
  List.Forall₂ (fun p q => p.same q = true) declarations b.declarations ∧
    List.Forall₂ (fun e e' => e.same e' = true) args b.expressions

lemma Block.consists_iff : b.Consists declarations args ↔
    (b.hasDeclarations declarations && b.hasExpressions args) = true := by
  rw [Bool.and_eq_true, hasDeclarations, hasExpressions, isEqv_iff_forall₂, isEqv_iff_forall₂,
    Consists]

/-- The factory of scopes goes through its arguments in the same way on all forests. -/
lemma exists_checks_scope (declarations : List Param) (args : List Expr) :
    ∃ argument, Checks (Build.scope declarations args) argument declarations args := by
  cases declarations with
  | nil => exact ⟨_, checks_block args⟩
  | cons p declarations => exact ⟨_, checks_scope (List.cons_ne_nil p declarations)⟩

/--
Whether the update refuses the lists as the factory of scopes does, or ends in a block that has the
layout of the factory's, and is `b` itself exactly if the lists are its own.
-/
def Inventory.UpdatesAsScope (w : Inventory) (b : Block Expr) (declarations : List Param)
    (args : List Expr) : Prop :=
  (∃ refusal, (b.update declarations args).run.run w.forest = (.error refusal, w.forest) ∧
    ∀ f, (Build.scope declarations args).run.run f = (.error refusal, f)) ∨
  ∃ b' g, (b.update declarations args).run.run w.forest = (.ok (.block b'), g) ∧
    (∀ f, ∃ b'' g', (Build.scope declarations args).run.run f = (.ok (.block b''), g') ∧
      b''.layout = b'.layout) ∧
    ((Expr.block b').same (.block b) = true ↔ b.Consists declarations args)

/--
An update of a block that would pass the checks refuses what the factory of scopes refuses, and
gives in all other cases what the factory gives, though the block itself if nothing has changed.
-/
theorem Inventory.update_as_scope (reachable : w.Reachable)
    (legal : (Command.update b declarations args).Legal w) (wellFormed : b.WellFormed) :
    w.UpdatesAsScope b declarations args := by
  obtain ⟨declared, known⟩ := legal
  obtain ⟨mem, parts⟩ := List.cons_subset.mp known
  have stocked := reachable.sound.stocked
  have made : b.Made := (stocked.owns mem).made b (Expr.has_self _)
  unfold UpdatesAsScope
  rw [Block.consists_iff, Block.update]
  split
  · -- The lists are those of the block, which the factory takes.
    rename_i unchanged
    obtain ⟨rfl, rfl⟩ := stocked.eq_of_unchanged mem declared parts unchanged
    refine .inr ⟨b, w.forest, rfl, fun f => ?_, by simp [unchanged, Expr.same_refl]⟩
    obtain ⟨e, g, ran⟩ := Block.accepted_iff.mpr wellFormed f
    obtain ⟨b'', rfl, layout_eq⟩ := scope_gives_layout made.fits rfl rfl ⟨f, congrArg Prod.fst ran⟩
    exact ⟨b'', g, ran, layout_eq⟩
  · rename_i changed
    obtain ⟨argument, checks⟩ := exists_checks_scope declarations args
    by_cases fault : ∃ refusal, FirstFault argument declarations args refusal
    · obtain ⟨refusal, fault⟩ := fault
      exact .inl ⟨refusal, (checks.refuses _ _).mpr fault, fun f => (checks.refuses f _).mpr fault⟩
    · have accepts := fun f => (checks.accepts f).mpr (not_exists.mp fault)
      obtain ⟨e, g, ran⟩ := accepts w.forest
      obtain ⟨b', rfl, built⟩ := scope_gives ⟨w.forest, congrArg Prod.fst ran⟩
      obtain ⟨_, ⟨⟩, id_eq, -⟩ := checks.makes _ _ _ ran
      refine .inr ⟨b', g, ran, fun f => ?_, ?_⟩
      · obtain ⟨e, g', ran'⟩ := accepts f
        obtain ⟨b'', rfl, layout_eq⟩ := scope_gives_layout built.fits built.declarations_eq
          built.expressions_eq ⟨f, congrArg Prod.fst ran'⟩
        exact ⟨b'', g', ran', layout_eq⟩
      · rw [stocked.not_same id_eq mem]
        simp [changed]

/-- A block is updated with its own parts, with its first child only, and with a variable twice. -/
theorem Inventory.update_as_scope_cut :
    let x : Param := ⟨0, some "x", .int, false⟩
    let one : Expr := .leaf (.constant ⟨1, .int 1, .int⟩)
    let b : Block Expr := ⟨2, .block2 x.read one⟩
    ∃ w : Inventory, w.Reachable ∧ b.WellFormed ∧
      (w.UpdatesAsScope b [] [x.read, one] ∧
        (b.update [] [x.read, one]).run.run w.forest = (.ok (.block b), w.forest)) ∧
      (w.UpdatesAsScope b [] [x.read] ∧
        ((b.update [] [x.read]).run.run w.forest).1 = .ok (.block ⟨3, .blockN x.read []⟩)) ∧
      (w.UpdatesAsScope b [x, x] [x.read, one] ∧
        (b.update [x, x] [x.read, one]).run.run w.forest =
          (.error (.duplicateVariable 1 "x"), w.forest)) := by
  intro x one b
  let w : Inventory := ⟨{ next := 3 }, [x], [.block b, x.read, one]⟩
  have run : Inventory.Run {} [.param (some "x") .int false, .constant (.int 1) .int, .read x,
      .block [x.read, one]] w := by
    refine .cons ⟨List.nil_subset _, List.nil_subset _⟩ ?_
    refine .cons ⟨List.nil_subset _, List.nil_subset _⟩ ?_
    refine .cons ⟨List.Subset.refl _, List.nil_subset _⟩ ?_
    refine .cons ⟨List.nil_subset _, List.Subset.refl _⟩ ?_
    exact .nil _
  have reachable : w.Reachable := ⟨_, run⟩
  have accepted : b.Accepted := fun f => ⟨_, _, rfl⟩
  have wellFormed : b.WellFormed := Block.accepted_iff.mp accepted
  have all : [.block b, x.read, one] ⊆ w.nodes := List.Subset.refl _
  have twice : [x, x] ⊆ w.params := List.cons_subset.mpr ⟨.head _, List.Subset.refl _⟩
  have cut : [.block b, x.read] ⊆ w.nodes :=
    List.cons_subset.mpr ⟨.head _, List.cons_subset.mpr ⟨.tail _ (.head _), List.nil_subset _⟩⟩
  refine ⟨w, reachable, wellFormed, ⟨?_, rfl⟩, ⟨?_, rfl⟩, ⟨?_, rfl⟩⟩
  · exact update_as_scope reachable ⟨List.nil_subset _, all⟩ wellFormed
  · exact update_as_scope reachable ⟨List.nil_subset _, cut⟩ wellFormed
  · exact update_as_scope reachable ⟨twice, all⟩ wellFormed

end ScopedExpr
