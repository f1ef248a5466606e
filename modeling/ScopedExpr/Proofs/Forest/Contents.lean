import ScopedExpr.Proofs.Forest.Inventory

/-!
# What is in a block

A block is made of a list of variables and a list of children. In whatever way it is made, and in
whatever layout the lists are stored, the block tells nothing but these lists: place by place, in
order, their lengths, and the last child with its type.
-/

namespace ScopedExpr

/-! ### What a block tells -/

/-- Whether all that the block tells of its variables and children is read off these lists. -/
structure Block.Shows (declarations : List Param) (args : List Expr) (b : Block Expr) : Prop where
  count_eq : b.count = args.length
  expression_eq : ∀ i (_ : i < args.length), b.expression i = .ok args[i]
  expression_misused : ∀ i, args.length ≤ i →
    b.expression i = .error (.expressionIndex i b.shape args.length)
  expressions_eq : b.expressions = args
  iterated : (List.range b.count).map b.expression = args.map .ok
  result_eq : args.getLast? = some b.result
  ty_eq : args.getLast?.map Expr.ty = some (Expr.block b).ty
  declarations_eq : b.declarations = declarations
  declaration_eq : ∀ i (_ : i < declarations.length), b.declaration i = .ok declarations[i]
  declaration_misused : ∀ i, declarations.length ≤ i →
    b.declaration i = .error (.variableIndex i declarations.length)
  shape_eq : b.shape = .ofCounts declarations.length args.length

namespace Block

variable {b : Block Expr} {declarations : List Param} {args : List Expr}

lemma expression_of_lt {i : Nat} (lt : i < b.expressions.length) :
    b.expression i = .ok b.expressions[i] := by
  rw [expression, get?_eq, List.getElem?_eq_getElem lt]

/-- Read at all its places in order, a block gives its children. -/
lemma map_expression (b : Block Expr) :
    (List.range b.count).map b.expression = b.expressions.map .ok := by
  apply List.ext_getElem
  · simp
  · intro i _ lt
    rw [List.length_map] at lt
    rw [List.getElem_map, List.getElem_range, expression_of_lt lt, List.getElem_map]

/-- Every layout stores the lists that it fits without loss. -/
lemma shows (fits : b.layout.Fits) (declared : b.declarations = declarations)
    (expressed : b.expressions = args) : b.Shows declarations args := by
  subst declared expressed
  have last : b.expressions.getLast? = some b.result := b.layout.getLast?_expressions
  exact
    { count_eq := b.length_expressions.symm
      expression_eq := fun i lt => expression_of_lt lt
      expression_misused := fun i le => by
        rw [expression, get?_eq, List.getElem?_eq_none le, length_expressions]
      expressions_eq := rfl
      iterated := b.map_expression
      result_eq := last
      ty_eq := by rw [last, Option.map_some, Expr.ty_block]
      declarations_eq := rfl
      declaration_eq := fun i lt => by rw [declaration, List.getElem?_eq_getElem lt]
      declaration_misused := fun i le => by rw [declaration, List.getElem?_eq_none le]
      shape_eq := by rw [length_expressions]; exact fits }

/-- A block that is built of parts shows these parts. -/
lemma BuiltWith.shows (built : b.BuiltWith declarations args) : b.Shows declarations args :=
  Block.shows built.fits built.declarations_eq built.expressions_eq

end Block

/-! ### What a command makes -/

/-- The variables and the children that a command puts into a block, if it makes blocks. -/
def Command.parts? : Command → Option (List Param × List Expr)
  | .block2 x y => some ([], [x, y])
  | .block3 x y z => some ([], [x, y, z])
  | .block4 x y z v => some ([], [x, y, z, v])
  | .block5 x y z v w => some ([], [x, y, z, v, w])
  | .block args => some ([], args)
  | .scope declarations args => some (declarations, args)
  | .update _ declarations args => some (declarations, args)
  | .rebuild b declarations? args => some (declarations?.getD b.declarations, args)
  | .param .. | .read .. | .constant .. | .placeholder .. | .view .. | .ask .. => none

section Replies

variable {f : Forest} {e : Expr}

lemma Gives.of_factory {x : Factory Expr} (reply : Reply.ofFactory (x.run.run f).1 = .expr e) :
    Gives x e := by
  refine ⟨f, ?_⟩
  cases ended : (x.run.run f).1 with
  | error refusal => rw [ended] at reply; cases reply
  | ok e' => rw [ended] at reply; cases reply; rfl

lemma Gives.of_rebuild {x : Rebuild Expr} (reply : Reply.ofRebuild (x.run.run f).1 = .expr e) :
    Gives x e := by
  refine ⟨f, ?_⟩
  cases ended : (x.run.run f).1 with
  | error misuse => rw [ended] at reply; cases reply
  | ok e' => rw [ended] at reply; cases reply; rfl

lemma GivesNext.eq_block {ε : Type} {x : ExceptT ε Build Expr} (next : GivesNext x)
    (given : Gives x e) : ∃ b, e = .block b := by
  obtain ⟨f, ends⟩ := given
  rcases next f with ⟨error, ran⟩ | ⟨layout, ran⟩ <;> rw [ran] at ends <;> cases ends
  exact ⟨_, rfl⟩

end Replies

namespace Inventory.Stocked

variable {w : Inventory} {b : Block Expr} {e : Expr} {declarations : List Param} {args : List Expr}

/-- Lists that are found unchanged in an update are the lists of the block. -/
lemma eq_of_unchanged (stocked : w.Stocked) (mem : .block b ∈ w.nodes)
    (declared : declarations ⊆ w.params) (parts : args ⊆ w.nodes)
    (unchanged : (b.hasDeclarations declarations && b.hasExpressions args) = true) :
    b.declarations = declarations ∧ b.expressions = args := by
  obtain ⟨same, same'⟩ := Bool.and_eq_true_iff.mp unchanged
  constructor
  · refine (eq_of_forall₂ (isEqv_iff_forall₂.mp same) fun p hp q hq => ?_).symm
    exact stocked.param_eq_of_same (declared hp)
      (stocked.mem_of_mentions mem ((Expr.mentions_block b).mpr (.inl hq)))
  · refine (eq_of_forall₂ (isEqv_iff_forall₂.mp same') fun n hn m hm => ?_).symm
    exact stocked.eq_of_same (parts hn)
      (stocked.mem_of_has mem (Expr.has_of_child hm (Expr.has_self m)))

/-- An update ends in a block that shows the given parts, be it the old block or a new one. -/
lemma shows_update (stocked : w.Stocked) (mem : .block b ∈ w.nodes)
    (declared : declarations ⊆ w.params) (parts : args ⊆ w.nodes)
    (given : Gives (b.update declarations args) e) :
    ∃ b', e = .block b' ∧ b'.Shows declarations args := by
  unfold Block.update at given
  split at given
  · rw [gives_pure] at given
    subst given
    obtain ⟨declared, expressed⟩ := stocked.eq_of_unchanged mem declared parts ‹_›
    have made : b.Made := (stocked.owns mem).made b (Expr.has_self _)
    exact ⟨b, rfl, Block.shows made.fits declared expressed⟩
  · obtain ⟨b', rfl, built⟩ := scope_gives given
    exact ⟨b', rfl, built.shows⟩

/-- A rebuild shows the given children, and the old variables if no others are given. -/
lemma shows_rebuild (stocked : w.Stocked) (mem : .block b ∈ w.nodes)
    {declarations? : Option (List Param)} (given : Gives (b.rebuild declarations? args) e) :
    ∃ b', e = .block b' ∧ b'.Shows (declarations?.getD b.declarations) args := by
  obtain ⟨b', rfl⟩ := (GivesNext.rebuild b declarations? args).eq_block given
  obtain ⟨fit, first, rest, rfl, layout_eq⟩ := Block.rebuild_gives given
  have fits : b.layout.Fits := ((stocked.owns mem).made b (Expr.has_self _)).fits
  have length_eq := (Block.misfit?_eq_none.mp fit).2
  refine ⟨b', rfl, Block.shows ?_ ?_ ?_⟩
  · rw [layout_eq]
    exact fits.rebuilt length_eq first rest
  · rw [Block.declarations, layout_eq]
    exact Layout.declarations_rebuilt length_eq first rest
  · rw [Block.expressions, layout_eq]
    exact Layout.expressions_rebuilt ..

end Inventory.Stocked

/-! ### Every block that is made -/

variable {w : Inventory} {c : Command} {e : Expr} {declarations : List Param} {args : List Expr}

/-- Whichever command makes a block, the block shows the parts that the command puts in. -/
lemma Command.shows_reply (stocked : w.Stocked) (legal : c.Legal w)
    (parts : c.parts? = some (declarations, args))
    (reply : (c.reply.run w.forest).1 = .expr e) :
    ∃ b, e = .block b ∧ b.Shows declarations args := by
  obtain ⟨declared, known⟩ := legal
  cases c with
  | param | read | constant | placeholder | view | ask => cases parts
  | block2 | block3 | block4 | block5 =>
    cases parts
    obtain ⟨b, rfl, built⟩ := fixed_gives (Gives.of_factory reply) rfl rfl
    exact ⟨b, rfl, built.shows⟩
  | block args =>
    cases parts
    obtain ⟨b, rfl, built⟩ := block_gives (Gives.of_factory reply)
    exact ⟨b, rfl, built.shows⟩
  | scope declarations args =>
    cases parts
    obtain ⟨b, rfl, built⟩ := scope_gives (Gives.of_factory reply)
    exact ⟨b, rfl, built.shows⟩
  | update b declarations args =>
    cases parts
    obtain ⟨mem, known⟩ := List.cons_subset.mp known
    exact stocked.shows_update mem declared known (Gives.of_factory reply)
  | rebuild b declarations? args =>
    cases parts
    exact stocked.shows_rebuild (known List.mem_cons_self) (Gives.of_rebuild reply)

/-- A rebuild makes a block with counts that fit, and only then. -/
lemma Block.replies_rebuild (b : Block Expr) (declarations? : Option (List Param))
    (args : List Expr) (f : Forest) :
    (∃ e, ((Command.rebuild b declarations? args).reply.run f).1 = .expr e) ↔
      args.length = b.count ∧
        (declarations?.getD b.declarations).length = b.declarations.length := by
  rw [← Block.misfit?_eq_none]
  constructor
  · rintro ⟨e, reply⟩
    have given : Gives (b.rebuild declarations? args) e := Gives.of_rebuild reply
    obtain ⟨b', rfl⟩ := (GivesNext.rebuild b declarations? args).eq_block given
    exact (Block.rebuild_gives given).1
  · intro fit
    obtain ⟨first, rest, rfl, ran⟩ := Block.rebuild_run fit f
    refine ⟨.block ⟨f.next, b.layout.rebuilt declarations? first rest⟩, ?_⟩
    change Reply.ofRebuild ((b.rebuild declarations? (first :: rest)).run.run f).1 = _
    rw [ran]
    rfl

/--
In whatever way a block is made of variables and children, it shows just these, the very parameters
and nodes. A rebuild makes a block if they are as many as in the block that is rebuilt, and only
then.
-/
theorem Inventory.made_shows (reachable : w.Reachable) :
    (∀ (c : Command) declarations args, c.Legal w → c.parts? = some (declarations, args) →
      ∀ e, (c.reply.run w.forest).1 = .expr e →
        ∃ b, e = .block b ∧ b.Shows declarations args) ∧
    ∀ (b : Block Expr) declarations? args,
      (∃ e, ((Command.rebuild b declarations? args).reply.run w.forest).1 = .expr e) ↔
        args.length = b.count ∧
          (declarations?.getD b.declarations).length = b.declarations.length := by
  refine ⟨fun c declarations args legal parts e reply => ?_, fun b declarations? args => ?_⟩
  · exact c.shows_reply reachable.sound.stocked legal parts reply
  · exact b.replies_rebuild declarations? args w.forest

/-- A scope, its update with its own parts, and its rebuild with two children or with one. -/
theorem Inventory.made_shows_rebuilt :
    let x : Param := ⟨0, some "x", .int, false⟩
    let one : Expr := .leaf (.constant ⟨1, .int 1, .int⟩)
    let b : Block Expr := ⟨2, .scopeN [x] x.read [one]⟩
    ∃ w : Inventory, w.Reachable ∧ .block b ∈ w.nodes ∧
      ((Command.update b [x] [x.read, one]).reply.run w.forest).1 = .expr (.block b) ∧
      b.Shows [x] [x.read, one] ∧
      (∃ b', ((Command.rebuild b none [one, x.read]).reply.run w.forest).1 = .expr (.block b') ∧
        b'.Shows [x] [one, x.read]) ∧
      ¬ ∃ e, ((Command.rebuild b none [one]).reply.run w.forest).1 = .expr e := by
  intro x one b
  let cs : List Command := [.param (some "x") .int false, .constant (.int 1) .int, .read x,
    .scope [x] [x.read, one]]
  let w : Inventory := cs.foldl Inventory.perform {}
  have reachable : w.Reachable := by
    refine ⟨cs, .cons ⟨List.nil_subset _, List.nil_subset _⟩ ?_⟩
    refine .cons ⟨List.nil_subset _, List.nil_subset _⟩ ?_
    refine .cons ⟨List.Subset.refl _, List.nil_subset _⟩ ?_
    refine .cons ⟨List.Subset.refl _, List.Subset.refl _⟩ ?_
    exact .nil _
  have mem : .block b ∈ w.nodes := .head _
  have parts : [x.read, one] ⊆ w.nodes := List.subset_cons_self _ _
  have swapped : [one, x.read] ⊆ w.nodes :=
    List.Subset.trans (List.Perm.swap ..).subset parts
  obtain ⟨shows, rebuilds⟩ := Inventory.made_shows reachable
  refine ⟨w, reachable, mem, rfl, ?_, ?_, ?_⟩
  · have legal : (Command.update b [x] [x.read, one]).Legal w :=
      ⟨List.Subset.refl _, List.cons_subset.mpr ⟨mem, parts⟩⟩
    obtain ⟨_, ⟨⟩, shown⟩ := shows _ _ _ legal rfl _ rfl
    exact shown
  · have legal : (Command.rebuild b none [one, x.read]).Legal w :=
      ⟨List.nil_subset _, List.cons_subset.mpr ⟨mem, swapped⟩⟩
    obtain ⟨e, reply⟩ := (rebuilds b none [one, x.read]).mpr ⟨rfl, rfl⟩
    obtain ⟨b', rfl, shown⟩ := shows _ _ _ legal rfl _ reply
    exact ⟨b', reply, shown⟩
  · rw [rebuilds]
    rintro ⟨few, -⟩
    cases few

end ScopedExpr
