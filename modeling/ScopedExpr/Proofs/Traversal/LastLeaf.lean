import ScopedExpr.Proofs.Expr.Positions
import ScopedExpr.Proofs.Traversal.Conduct
import ScopedExpr.Proofs.Traversal.Pointwise
import ScopedExpr.Traversal.Trace

/-!
# The last leaf of a traversal

A block has the type of its last child. A traversal, which goes through everything in order, comes
to the last leaf below that child at its very end; so the type of a tree is that of the last leaf
that a visitor is handed, and the type of a transformed tree that of the last answer of the rule for
leaves.
-/

namespace ScopedExpr

variable {σ α : Type}

/-! ### What a visitor is handed -/

def Event.leaf? : Event → Option Leaf
  | .leaf l => some l
  | _ => none

def Expr.leaves (e : Expr) : List Leaf := e.events.filterMap Event.leaf?

@[simp] lemma Expr.leaves_leaf (l : Leaf) : (Expr.leaf l).leaves = [l] := by
  simp [leaves, Event.leaf?]

@[simp] lemma Expr.leaves_block (b : Block Expr) :
    (Expr.block b).leaves = b.expressions.flatMap Expr.leaves := by
  have declared : (b.declarations.map Event.declaration).filterMap Event.leaf? = [] := by
    simp [List.filterMap_map, Event.leaf?, Function.comp_def]
  rw [leaves, events_block, List.filterMap_cons_none rfl, List.filterMap_append, declared,
    List.nil_append, List.filterMap_flatMap]
  rfl

/-- Nothing comes behind the last leaf, which has the type of the expression. -/
lemma Expr.exists_last_leaf (e : Expr) :
    ∃ events l, e.events = events ++ [.leaf l] ∧ l.ty = e.ty := by
  induction e using Expr.inductionOn with
  | leaf l => exact ⟨[], l, by simp, by simp⟩
  | block b ih =>
    obtain ⟨events, l, events_eq, ty_eq⟩ := ih b.result b.result_mem
    obtain ⟨before, split⟩ := List.getLast?_eq_some_iff.mp b.getLast?_expressions
    refine ⟨.block b :: (b.declarations.map .declaration ++ before.flatMap Expr.events ++ events),
      l, ?_, ?_⟩
    · rw [events_block, split, List.flatMap_append, List.flatMap_singleton, events_eq]
      simp
    · rw [ty_eq, ty_block]

/--
Whether the visitor takes every walk, and does nothing in front of one but `enter`, where it goes
through a block.
-/
structure Visitor.Walks (v : Visitor σ) (enter : Block Expr → StateM σ Unit) : Prop where
  expr : ∀ e walk, v.expr e walk = walk
  block : ∀ b walk, v.block b walk = (do enter b; walk)

/-- What such a visitor does at an event. -/
def Visitor.meet (v : Visitor σ) (enter : Block Expr → StateM σ Unit) : Event → StateM σ Unit
  | .leaf l => v.leaf l
  | .declaration p => v.declaration p
  | .block b => enter b
  | .replaced _ => pure ()

namespace Visitor.Walks

variable {v : Visitor σ} {enter : Block Expr → StateM σ Unit}

lemma forM_flatMap {hook : α → StateM σ Unit} {listing : α → List Event}
    {meet : Event → StateM σ Unit} {as : List α} (each : ∀ a ∈ as, hook a = (listing a).forM meet) :
    (as.flatMap listing).forM meet = as.forM hook := by
  induction as with
  | nil => rfl
  | cons a as ih =>
    obtain ⟨head, tail⟩ := List.forall_mem_cons.mp each
    have rest := ih tail
    simp only [List.forM_eq_forM] at head rest ⊢
    rw [List.flatMap_cons, List.forM_append, List.forM_cons, rest, head]

/-- The hooks are called at the events of the expression, in order. -/
lemma visit_eq (walks : v.Walks enter) (e : Expr) : v.visit e = e.events.forM (v.meet enter) := by
  induction e using Expr.inductionOn with
  | leaf l =>
    rw [Visitor.visit_eq, walks.expr, Expr.events_leaf]
    simp [accept, meet]
  | block b ih =>
    have kids := forM_flatMap ih
    simp only [List.forM_eq_forM] at kids
    rw [Visitor.visit_eq, walks.expr, Expr.events_block, accept, walks.block, walkBlock]
    simp [List.forM_map, kids, meet]

end Visitor.Walks

/-! ### Answers that are noted -/

/-- A state with the leaves that a rule has been called on so far, each with the answer. -/
structure Noted (σ : Type) where
  state : σ
  answers : List (Leaf × Expr) := []

/-- Work on the state, then note the answers that the result stands for. -/
def Noted.lift (x : TransformM σ α) (note : α → List (Leaf × Expr)) : TransformM (Noted σ) α :=
  fun noted => do
    let (a, state) ← x.run noted.state
    return (a, ⟨state, noted.answers ++ note a⟩)

/-- The rules, which note every answer to a leaf. -/
def Rules.noted (rules : Rules σ) : Rules (Noted σ) where
  leaf l := Noted.lift (rules.leaf l) fun answer => [(l, answer)]
  declaration p := Noted.lift (rules.declaration p) fun _ => []

lemma Noted.outcome_lift {x : TransformM σ α} {a : α} {st st' : σ} {f g : Forest}
    (ends : x.outcome st f = (.ok (a, st'), g)) (note : α → List (Leaf × Expr))
    (before : List (Leaf × Expr)) :
    (Noted.lift x note).outcome ⟨st, before⟩ f = (.ok (a, ⟨st', before ++ note a⟩), g) := by
  have run_eq : (Noted.lift x note).outcome ⟨st, before⟩ f =
      (ExceptT.run do let a ← x.run st; return (a.1, ⟨a.2, before ++ note a.1⟩)).run f := rfl
  rw [TransformM.outcome] at ends
  rw [run_eq, ExceptT.run_bind, Build.run_bind, ends]
  rfl

namespace Rules

/-- Whether the rule for leaves gives the leaf itself wherever it gives a node that is the same. -/
def Genuine (rules : Rules σ) (e : Expr) (st : σ) (f : Forest) : Prop :=
  ∀ l answer, rules.LeafCall e st f l answer → answer.same (.leaf l) = true → answer = .leaf l

variable {rules : Rules σ} {e e' : Expr} {b : Block Expr} {es args : List Expr} {ps : List Param}
  {st st' st₁ : σ} {f g f₁ : Forest}

/-- The calls for declarations are not noted. -/
lemma calls_noted {ps' : List Param} (calls : Calls rules.declaration ps st f ps' st' g)
    (before : List (Leaf × Expr)) :
    Calls rules.noted.declaration ps ⟨st, before⟩ f ps' ⟨st', before⟩ g := by
  induction calls with
  | nil st f => exact .nil _ _
  | cons call _ ih =>
    have noted := Noted.outcome_lift call (fun _ => []) before
    rw [List.append_nil] at noted
    exact .cons noted ih

lemma held_and_genuine {st₂ : σ} {f₂ : Forest} (held : f.Holds (.block b))
    (genuine : rules.Genuine (.block b) st f)
    (declarations : Calls rules.declaration b.declarations st f ps st₁ f₁)
    (called : CalledOn rules.transform b.expressions st₁ f₁ e st₂ f₂) :
    f₂.Holds e ∧ rules.Genuine e st₂ f₂ := by
  constructor
  · exact (held.child called.mem).mono (declarations.grows.trans called.grows)
  · intro l answer call
    exact genuine l answer (call.of_child declarations called)

/-- A node that comes out for another one and is the same is that node. -/
lemma eq_of_same (held : f.Holds e) (genuine : rules.Genuine e st f)
    (given : (rules.transform e).outcome st f = (.ok (e', st'), g)) (same : e'.same e = true) :
    e' = e := by
  cases e with
  | leaf l =>
    rw [transform_leaf] at given
    exact genuine l e' ⟨.here _ _ _, given⟩ same
  | block b =>
    obtain ⟨ps, args, st₁, f₁, f₂, b', declarations, expressions, rfl, becomes⟩ :=
      transform_block_ok given
    cases becomes with
    | kept => rfl
    | rebuilt _ _ _ id_eq =>
      have grows := declarations.grows.trans expressions.grows
      rw [(held.mono grows).not_same (Nat.le_of_eq id_eq.symm) (Expr.has_self _)] at same
      cases same

/--
Whether each transformation of the expression, if it is noted, ends in the same way with a note for
each leaf in order, where the last answer has the type of what comes out.
-/
def Notes (rules : Rules σ) (e : Expr) : Prop :=
  ∀ st f e' st' g, (rules.transform e).outcome st f = (.ok (e', st'), g) →
    ∃ answers : List (Leaf × Expr),
      (∀ before, (rules.noted.transform e).outcome ⟨st, before⟩ f =
        (.ok (e', ⟨st', before ++ answers⟩), g)) ∧
      answers.map Prod.fst = e.leaves ∧
      (f.Holds e → rules.Genuine e st f → answers.getLast?.map (fun note => note.2.ty) = some e'.ty)

/-- Notes of the children, one after another, are the notes of the list. -/
lemma notes_calls (notes : ∀ e ∈ es, rules.Notes e)
    (calls : Calls rules.transform es st f args st' g) :
    ∃ answers : List (Leaf × Expr),
      (∀ before, Calls rules.noted.transform es ⟨st, before⟩ f args ⟨st', before ++ answers⟩ g) ∧
      answers.map Prod.fst = es.flatMap Expr.leaves ∧
      ((∀ e st₁ f₁, CalledOn rules.transform es st f e st₁ f₁ →
        f₁.Holds e ∧ rules.Genuine e st₁ f₁) →
        answers.getLast?.map (fun note => note.2.ty) = args.getLast?.map Expr.ty) := by
  induction calls with
  | nil st f =>
    refine ⟨[], fun before => ?_, rfl, fun _ => rfl⟩
    rw [List.append_nil]
    exact .nil _ _
  | @cons e e' es args st st₁ st' f f₁ g call calls ih =>
    obtain ⟨head, tail⟩ := List.forall_mem_cons.mp notes
    obtain ⟨answers, noted, leaves_eq, ty_eq⟩ := head _ _ _ _ _ call
    obtain ⟨answers', noted', leaves_eq', ty_eq'⟩ := ih tail
    refine ⟨answers ++ answers', fun before => ?_, ?_, fun each => ?_⟩
    · rw [← List.append_assoc]
      exact .cons (noted before) (noted' _)
    · rw [List.map_append, leaves_eq, leaves_eq', List.flatMap_cons]
    · obtain ⟨held, genuine⟩ := each _ _ _ (.head _ _ _ _)
      have here := ty_eq held genuine
      have later := ty_eq' fun e st₂ f₂ called => each e st₂ f₂ (.tail call called)
      rw [List.getLast?_append, Option.map_or, here, later, List.getLast?_cons, Option.map_some]
      cases args.getLast? <;> rfl

/-- Every transformation can be noted. -/
lemma notes (rules : Rules σ) (e : Expr) : rules.Notes e := by
  induction e using Expr.inductionOn with
  | leaf l =>
    intro st f e' st' g given
    rw [transform_leaf] at given
    refine ⟨[(l, e')], fun before => ?_, by simp, fun _ _ => rfl⟩
    rw [transform_leaf]
    exact Noted.outcome_lift given (fun answer => [(l, answer)]) before
  | block b ih =>
    intro st f e' st' g given
    rw [transform_block] at given
    rcases rules.transformer.hooks_fail_or_give rules.transform b st f with
      ⟨misuse, g', fail⟩ | ⟨ps, args, st'', f', give⟩
    · cases given.symm.trans fail.outcome_walkBlock
    · obtain ⟨b', g', exchanged, becomes⟩ := give.exchange_becomes
      cases given.symm.trans (give.outcome_of_exchange exchanged)
      obtain @⟨st₁, f₁, declarations, expressions⟩ := give
      obtain ⟨answers, noted, leaves_eq, ty_eq⟩ := notes_calls ih expressions
      refine ⟨answers, fun before => ?_, by rw [leaves_eq, Expr.leaves_block], ?_⟩
      · -- The exchange sees neither state nor notes, so it ends in the same way.
        rw [transform_block]
        have give' : rules.noted.transformer.HooksGive rules.noted.transform b ⟨st, before⟩ f
            ps args ⟨st', before ++ answers⟩ f' := ⟨calls_noted declarations before, noted before⟩
        exact give'.outcome_of_exchange exchanged
      · -- A kept block has the types of the answers only if no answer passes for another node.
        intro held genuine
        have below := fun e st₂ f₂ called => held_and_genuine held genuine declarations
          (called : CalledOn rules.transform b.expressions st₁ f₁ e st₂ f₂)
        have kids : List.Forall₂ (fun e e' => e'.same e = true → e' = e) b.expressions args := by
          refine expressions.forall₂_iff.mpr fun e st₂ f₂ e' st₃ f₃ called call => ?_
          obtain ⟨held, genuine⟩ := below e st₂ f₂ called
          exact eq_of_same held genuine call
        rw [ty_eq below, ← becomes.expressions_eq_given kids, b'.getLast?_expressions,
          Option.map_some, Expr.ty_block]

end Rules

/-! ### Answers that have been made -/

namespace Rules

variable {rules : Rules σ} {c : Conduct σ} {w : Inventory} {e x : Expr} {st st₁ : σ} {f f₁ : Forest}

/-- What is done with the forest up to some position is a run as well. -/
lemma Reaches.leads (reaches : rules.Reaches e st f x st₁ f₁)
    (performs : rules.transformer.Performs c e) (inv : c.inv st w) (forest_eq : w.forest = f) :
    c.Leads w f₁ fun w' => c.inv st₁ w' := by
  induction reaches generalizing w with
  | here =>
    subst forest_eq
    exact .stay inv
  | @child b e _ _ _ _ _ _ _ _ _ _ declarations called _ ih =>
    have declared : ∀ p ∈ b.declarations, (rules.declaration p).Performs c Inventory.params :=
      fun p mem => performs.declaration p ⟨b, Expr.has_self _, mem⟩
    have kids : ∀ e ∈ b.expressions, (rules.transform e).Performs c Inventory.nodes :=
      fun e child => (performs.child child).transform
    refine (declarations.leads (fun _ _ _ run => run.params_subset) declared inv forest_eq).trans ?_
    intro _ w₁ _ forest_eq₁ given
    refine (called.leads kids given.1 forest_eq₁).trans ?_
    intro _ w₂ _ forest_eq₂ inv₂
    exact ih (performs.child called.mem) inv₂ forest_eq₂

/-- No answer that a run of commands has made passes for a leaf without being the leaf. -/
lemma genuine_of_performs (performs : rules.transformer.Performs c e) (inv : c.inv st w) :
    rules.Genuine e st w.forest := by
  rintro l answer ⟨reaches, call⟩ same
  obtain ⟨_, w₁, _, rfl, -, inv₁⟩ := reaches.leads performs inv rfl
  obtain ⟨_, w₂, _, -, -, given⟩ := performs.leaf l reaches.has _ w₁ _ _ inv₁ call
  obtain ⟨inv₂, mem⟩ := given _ _ rfl
  obtain ⟨reachable, there⟩ := performs.present _ w₂ inv₂
  have stocked := reachable.sound.stocked
  exact stocked.eq_of_same mem (stocked.mem_of_has there reaches.has) same

end Rules

/-! ### Types at every position -/

/-- Whether at each position of the expression the other one has a node of the same type. -/
def Expr.KeepsTypes (e e' : Expr) : Prop :=
  ∀ path x, e.at? path = some x → ∃ x', e'.at? path = some x' ∧ x'.ty = x.ty

namespace Expr.KeepsTypes

variable {e e' : Expr} {b b' : Block Expr}

lemma refl (e : Expr) : e.KeepsTypes e := fun _ x found => ⟨x, found, rfl⟩

lemma ty_eq (keeps : e.KeepsTypes e') : e'.ty = e.ty := by
  obtain ⟨x', found, ty_eq⟩ := keeps [] e (at?_nil e)
  rw [at?_nil, Option.some.injEq] at found
  rw [found, ty_eq]

lemma leaf {l : Leaf} (ty_eq : e.ty = l.ty) : (Expr.leaf l).KeepsTypes e := by
  rintro (_ | ⟨i, path⟩) x found
  · rw [at?_nil, Option.some.injEq] at found
    exact ⟨e, at?_nil e, by rw [← found, ty_eq, ty_leaf]⟩
  · cases found

/-- Blocks with children that keep their types keep their own. -/
lemma block (kids : List.Forall₂ KeepsTypes b.expressions b'.expressions) :
    (Expr.block b).KeepsTypes (.block b') := by
  rintro (_ | ⟨i, path⟩) x found
  · have last := forall₂_getLast? kids
    rw [b.getLast?_expressions, b'.getLast?_expressions] at last
    cases last with
    | some keeps =>
      rw [at?_nil, Option.some.injEq] at found
      exact ⟨.block b', at?_nil _, by rw [← found, ty_block, ty_block, keeps.ty_eq]⟩
  · rw [at?_block_cons, Option.bind_eq_some_iff] at found
    obtain ⟨kid, place, found⟩ := found
    have related := forall₂_iff_getElem?.mp kids i
    rw [place] at related
    generalize place' : b'.expressions[i]? = kid? at related
    cases related with
    | some keeps =>
      obtain ⟨x', found', ty_eq⟩ := keeps path x found
      exact ⟨x', by rw [at?_block_cons, place', Option.bind_some, found'], ty_eq⟩

end Expr.KeepsTypes

namespace Rules

/-- If each answer to a leaf has the type of the leaf, then every node keeps its type. -/
lemma keepsTypes_transform {rules : Rules σ} {e e' : Expr} {st st' : σ} {f g : Forest}
    (given : (rules.transform e).outcome st f = (.ok (e', st'), g))
    (typed : ∀ l answer, rules.LeafCall e st f l answer → answer.ty = l.ty) : e.KeepsTypes e' := by
  induction e using Expr.inductionOn generalizing e' st st' f g with
  | leaf l =>
    rw [transform_leaf] at given
    exact .leaf (typed l e' ⟨.here _ _ _, given⟩)
  | block b ih =>
    obtain ⟨ps, args, st₁, f₁, f₂, b', declarations, expressions, rfl, becomes⟩ :=
      transform_block_ok given
    rcases becomes.expressions_eq with expressions_eq | expressions_eq
    · apply Expr.KeepsTypes.block
      rw [expressions_eq]
      exact List.forall₂_same.mpr fun e _ => .refl e
    · apply Expr.KeepsTypes.block
      rw [expressions_eq, expressions.forall₂_iff]
      intro e st₂ f₂ e' st₃ f₃ called call
      exact ih e called.mem call fun l answer call =>
        typed l answer (call.of_child declarations called)

/--
The type of an expression is that of the last leaf, behind which nothing comes: a visitor that takes
every walk is handed this leaf at the very end. A transformation by rules either ends in a misuse,
where a call does, or has called the rule for leaves on all leaves in order; then the type of the
result is that of the last answer. For this no answer may pass for the leaf without being the leaf,
which none does where all that is given has been made by commands. If all answers have the types of
their leaves, then at every position there is a node of the type that was there before.
-/
theorem ty_eq_last_answer :
    (∀ e : Expr, ∃ events l, e.events = events ++ [.leaf l] ∧ l.ty = e.ty ∧
      ∀ {σ : Type} (v : Visitor σ) (enter : Block Expr → StateM σ Unit), v.Walks enter →
        v.visit e = (do events.forM (v.meet enter); v.leaf l) ∧ v.accept e = v.visit e) ∧
    (∀ {σ : Type} (rules : Rules σ) (e : Expr) (st : σ) (f : Forest),
      f.Holds e → rules.Genuine e st f →
      (∃ misuse g, rules.CallFails e st f misuse g ∧
        (rules.transform e).outcome st f = (.error misuse, g)) ∨
      ∃ e' st' g answers l answer,
        (rules.transform e).outcome st f = (.ok (e', st'), g) ∧
        (rules.noted.transform e).outcome ⟨st, []⟩ f =
          (.ok (e', ⟨st', answers ++ [(l, answer)]⟩), g) ∧
        (answers ++ [(l, answer)]).map Prod.fst = e.leaves ∧ e'.ty = answer.ty) ∧
    (∀ {σ : Type} (rules : Rules σ) (c : Conduct σ) (e : Expr) (st : σ) (w : Inventory),
      rules.transformer.Performs c e → c.inv st w →
      w.forest.Holds e ∧ rules.Genuine e st w.forest) ∧
    (∀ {σ : Type} (rules : Rules σ) (e e' : Expr) (st st' : σ) (f g : Forest),
      (rules.transform e).outcome st f = (.ok (e', st'), g) →
      (∀ l answer, rules.LeafCall e st f l answer → answer.ty = l.ty) → e.KeepsTypes e') := by
  refine ⟨fun e => ?_, ?_, ?_, ?_⟩
  · obtain ⟨events, l, events_eq, ty_eq⟩ := e.exists_last_leaf
    refine ⟨events, l, events_eq, ty_eq, fun v enter walks => ⟨?_, ?_⟩⟩
    · rw [walks.visit_eq, events_eq, List.forM_eq_forM, List.forM_append]
      simp [Visitor.meet]
    · rw [v.visit_eq, walks.expr]
  · intro σ rules e st f held genuine
    rcases ends : (rules.transform e).outcome st f with ⟨misuse | ⟨e', st'⟩, g⟩
    · exact .inl ⟨misuse, g, callFails_of_error ends, rfl⟩
    · obtain ⟨answers, noted, leaves_eq, last_ty⟩ := rules.notes e st f e' st' g ends
      obtain ⟨⟨l, answer⟩, last, ty_eq⟩ := Option.map_eq_some_iff.mp (last_ty held genuine)
      obtain ⟨before, rfl⟩ := List.getLast?_eq_some_iff.mp last
      exact .inr ⟨e', st', g, before, l, answer, rfl, noted [], leaves_eq, ty_eq.symm⟩
  · intro σ rules c e st w performs inv
    obtain ⟨reachable, mem⟩ := performs.present st w inv
    exact ⟨(reachable.sound.stocked.owns mem).held, genuine_of_performs performs inv⟩
  · exact fun rules e e' st st' f g given => keepsTypes_transform given

/--
The last leaf is a placeholder for an integer. Filled with a block of another type it gives this
type to the root. Numbering the constants keeps the type of every node.
-/
theorem ty_eq_last_answer_filled :
    let one : Expr := .leaf (.constant ⟨0, .int 1, .int⟩)
    let name : Expr := .leaf (.constant ⟨1, .str "one", .str⟩)
    let hole : Leaf := .placeholder ⟨2, .int⟩
    let new : Expr := .block ⟨3, .block2 one name⟩
    let b : Block Expr := ⟨5, .block2 one (.leaf hole)⟩
    let e : Expr := .block b
    ∃ cs w, Inventory.Run {} cs w ∧ new ∈ w.nodes ∧ e ∈ w.nodes ∧ e.ty = .int ∧
      (∃ events, e.events = events ++ [.leaf hole] ∧
        Visitor.recorder.visit e =
          (do events.forM (Visitor.recorder.meet (recordEvent <| .block ·))
              Visitor.recorder.leaf hole)) ∧
      (∃ e' g answers, ((fill new).noted.transform e).outcome ⟨(), []⟩ w.forest =
          (.ok (e', ⟨(), answers ++ [(hole, new)]⟩), g) ∧ e'.ty = .str) ∧
      ∃ e' g, (number.transform e).outcome 7 w.forest = (.ok (e', 8), g) ∧
        e'.same e = false ∧ e.KeepsTypes e' := by
  intro one name hole new b e
  let cs : List Command := [.constant (.int 1) .int, .constant (.str "one") .str, .placeholder .int,
    .block2 one name, .block2 one one, .rebuild ⟨4, .block2 one one⟩ none [one, .leaf hole]]
  let w : Inventory := cs.foldl Inventory.perform {}
  have run : Inventory.Run {} cs w := by
    refine .cons ⟨List.nil_subset _, List.nil_subset _⟩ ?_
    refine .cons ⟨List.nil_subset _, List.nil_subset _⟩ ?_
    refine .cons ⟨List.nil_subset _, List.nil_subset _⟩ ?_
    refine .cons ⟨List.nil_subset _, List.cons_subset.mpr ⟨.tail _ (.tail _ (.head _)),
      List.cons_subset.mpr ⟨.tail _ (.head _), List.nil_subset _⟩⟩⟩ ?_
    refine .cons ⟨List.nil_subset _, List.cons_subset.mpr ⟨.tail _ (.tail _ (.tail _ (.head _))),
      List.cons_subset.mpr ⟨.tail _ (.tail _ (.tail _ (.head _))), List.nil_subset _⟩⟩⟩ ?_
    refine .cons ⟨List.nil_subset _, List.cons_subset.mpr ⟨.head _,
      List.cons_subset.mpr ⟨.tail _ (.tail _ (.tail _ (.tail _ (.head _)))),
        List.cons_subset.mpr ⟨.tail _ (.tail _ (.head _)), List.nil_subset _⟩⟩⟩⟩ ?_
    exact .nil _
  have mem : e ∈ w.nodes := .head _
  have mem_new : new ∈ w.nodes := .tail _ (.tail _ (.head _))
  let c : Conduct Unit := ⟨fun _ v => ∃ later, w.Run later v, fun _ => False⟩
  have performs : (fill new).transformer.Performs c e := by
    apply performs_fill
    · rintro _ v ⟨_, run'⟩
      exact ⟨run'.reachable ⟨cs, run⟩, run'.nodes_subset mem⟩
    · rintro _ v _ v' ⟨_, run'⟩ run''
      exact ⟨_, run'.append run''⟩
    · rintro _ v ⟨_, run'⟩
      exact run'.nodes_subset mem_new
  obtain ⟨visits, answers, sound, keeps⟩ := ty_eq_last_answer
  refine ⟨cs, w, run, mem_new, mem, ?_, ?_, ?_, ?_⟩
  · simp [e, b, hole, Block.result, Layout.last, Leaf.ty]
  · obtain ⟨events, l, events_eq, -, visit_eq⟩ := visits e
    have listed : e.events = [.block b, .leaf (.constant ⟨0, .int 1, .int⟩)] ++ [.leaf hole] := by
      simp [e, b, one, Block.expressions, Layout.expressions, Block.declarations,
        Layout.declarations]
    cases (List.append_inj' (events_eq.symm.trans listed) rfl).2
    exact ⟨events, events_eq, (visit_eq Visitor.recorder _ ⟨fun _ _ => rfl, fun _ _ => rfl⟩).1⟩
  · obtain ⟨held, genuine⟩ := sound (fill new) c e () w performs ⟨[], .nil w⟩
    obtain ⟨e', g, ends⟩ : ∃ e' g, ((fill new).noted.transform e).outcome ⟨(), []⟩ w.forest =
        (.ok (e', ⟨(), [(.constant ⟨0, .int 1, .int⟩, one)] ++ [(hole, new)]⟩), g) :=
      ⟨_, _, rfl⟩
    rcases answers (fill new) e () w.forest held genuine with ⟨_, _, -, fails⟩ |
      ⟨_, _, _, _, _, _, -, noted, -, ty_eq⟩
    · cases fails
    · have given := ends.symm.trans noted
      simp only [Prod.mk.injEq, Except.ok.injEq, Noted.mk.injEq] at given
      obtain ⟨⟨rfl, -, answers_eq⟩, -⟩ := given
      cases (List.append_inj' answers_eq rfl).2
      refine ⟨e', g, _, ends, ty_eq.trans ?_⟩
      simp [new, name, Block.result, Layout.last, Leaf.ty]
  · obtain ⟨e', g, ends, other⟩ : ∃ e' g,
        (number.transform e).outcome 7 w.forest = (.ok (e', 8), g) ∧ e'.same e = false :=
      ⟨_, _, rfl, rfl⟩
    refine ⟨e', g, ends, other, keeps number e e' 7 8 w.forest g ends ?_⟩
    rintro l answer ⟨reaches, call⟩
    have leaf : l = .constant ⟨0, .int 1, .int⟩ ∨ l = hole := by
      simpa [e, b, one, Block.expressions, Layout.expressions] using reaches.has
    rcases leaf with rfl | rfl <;> cases call <;> rfl

end Rules

end ScopedExpr
