import ScopedExpr.Proofs.Traversal.Reach
import ScopedExpr.Traversal.Trace

/-!
# What traversals meet

A visitor and a transformer that write down what they meet, and walk on, write down the same: the
events of the tree in preorder. The transformer looks at the old tree only, so that whatever its
rules put in the place of leaves and declarations does not show in what it meets.
-/

namespace ScopedExpr

variable {σ α β : Type}

/-! ### Visitors -/

/-- Whether the computation writes down these events behind those that are there. -/
def Records (x : StateM (Array Event) Unit) (events : List Event) : Prop :=
  ∀ log, x.run log = ((), log ++ events.toArray)

namespace Records

variable {x y : StateM (Array Event) Unit} {events events' : List Event}

lemma recordEvent (event : Event) : Records (recordEvent event) [event] := by
  intro log
  simp [ScopedExpr.recordEvent]
  rfl

lemma seq (hx : Records x events) (hy : Records y events') :
    Records (do x; y) (events ++ events') := by
  intro log
  rw [StateT.run_bind, hx]
  change y.run (log ++ events.toArray) = _
  rw [hy]
  simp

lemma forM {hook : α → StateM (Array Event) Unit} {listing : α → List Event} {as : List α}
    (each : ∀ a ∈ as, Records (hook a) (listing a)) :
    Records (as.forM hook) (as.flatMap listing) := by
  induction as with
  | nil =>
    intro log
    simp
    rfl
  | cons a as ih =>
    obtain ⟨head, tail⟩ := List.forall_mem_cons.mp each
    rw [List.flatMap_cons]
    exact head.seq (ih tail)

end Records

namespace Visitor

lemma records_walkBlock {b : Block Expr}
    (kids : ∀ e ∈ b.expressions, Records (recorder.visit e) e.events) :
    Records (recorder.walkBlock b (b.expressions.map fun e _ => recorder.visit e))
      (b.declarations.map Event.declaration ++ b.expressions.flatMap Expr.events) := by
  have declared : Records (b.declarations.forM recorder.declaration)
      (b.declarations.flatMap fun p => [.declaration p]) :=
    Records.forM fun p _ => Records.recordEvent (.declaration p)
  rw [← List.map_eq_flatMap] at declared
  apply declared.seq
  simpa [List.forM_eq_forM, List.forM_map] using Records.forM kids

/-- A recorder writes down the events of the expression, in order. -/
lemma records_visit (e : Expr) : Records (recorder.visit e) e.events := by
  induction e using Expr.inductionOn with
  | leaf l =>
    rw [visit_eq, Expr.events_leaf]
    cases l with
    | constant | parameter | placeholder => exact Records.recordEvent _
  | block b ih =>
    rw [visit_eq, Expr.events_block]
    exact (Records.recordEvent (.block b)).seq (records_walkBlock ih)

end Visitor

/-! ### Transformers -/

/-- An outcome with events that have been met, behind those that were there before. -/
def Traced.outcome (log : Array Event) (events : List Event) :
    Except Misuse (α × σ) × Forest → Except Misuse (α × Traced σ) × Forest
  | (.ok (a, st), g) => (.ok (a, ⟨st, log ++ events.toArray⟩), g)
  | (.error misuse, g) => (.error misuse, g)

lemma Traced.outcome_append (log : Array Event) (events events' : List Event)
    (ends : Except Misuse (α × σ) × Forest) :
    Traced.outcome (log ++ events.toArray) events' ends =
      Traced.outcome log (events ++ events') ends := by
  rcases ends with ⟨_ | _, _⟩ <;> simp [Traced.outcome]

/-- Whether `y` does what `x` does, and writes down these events. -/
def TransformM.Traces (y : TransformM (Traced σ) α) (events : List Event) (x : TransformM σ α) :
    Prop :=
  ∀ st log f, y.outcome ⟨st, log⟩ f = Traced.outcome log events (x.outcome st f)

namespace TransformM.Traces

variable {y : TransformM (Traced σ) α} {x : TransformM σ α} {events events' : List Event}

lemma pure (a : α) : Traces (pure a : TransformM (Traced σ) α) [] (pure a : TransformM σ α) := by
  intro st log f
  change (Except.ok (a, ({ state := st, events := log } : Traced σ)), f) =
    Traced.outcome log [] (.ok (a, st), f)
  simp [Traced.outcome]

lemma lift (x : TransformM σ α) : Traces (Traced.lift x) [] x := by
  intro st log f
  have run_eq : (Traced.lift x).outcome ⟨st, log⟩ f =
      (ExceptT.run do let a ← x.run st; return (a.1, ⟨a.2, log⟩)).run f := rfl
  rcases ends : x.outcome st f with ⟨misuse | ⟨a, st'⟩, g⟩
  all_goals
    rw [outcome] at ends
    rw [run_eq, ExceptT.run_bind, Build.run_bind, ends]
  · rfl
  · simp [Traced.outcome]

lemma liftM (x : Rebuild α) :
    Traces (liftM x : TransformM (Traced σ) α) [] (liftM x : TransformM σ α) := by
  intro st log f
  rcases ends : x.run.run f with ⟨misuse | a, g⟩
  · rw [outcome_lift_of_error ends, outcome_lift_of_error ends]
    rfl
  · rw [outcome_lift_of_ok ends, outcome_lift_of_ok ends]
    simp [Traced.outcome]

/-- Events of a sequence are those of its parts, one after another. -/
lemma bind {next' : α → TransformM (Traced σ) β} {next : α → TransformM σ β}
    (traces : y.Traces events x) (each : ∀ a, (next' a).Traces events' (next a)) :
    Traces (y >>= next') (events ++ events') (x >>= next) := by
  intro st log f
  have traced := traces st log f
  rcases ends : x.outcome st f with ⟨misuse | ⟨a, st'⟩, g⟩
  · rw [ends] at traced
    rw [outcome_bind_of_error ends, outcome_bind_of_error traced]
    rfl
  · rw [ends] at traced
    rw [outcome_bind_of_ok ends, outcome_bind_of_ok traced, each, Traced.outcome_append]

/-- To write down an event in front is all that is added to a computation. -/
lemma event (event : Event) (traces : y.Traces events x) :
    Traces (do Traced.event event; y) (event :: events) x := by
  intro st log f
  have written : (Traced.event event : TransformM (Traced σ) Unit).outcome ⟨st, log⟩ f =
      (.ok ((), ⟨st, log ++ [event].toArray⟩), f) := by
    simp
    rfl
  rw [outcome_bind_of_ok written, traces, Traced.outcome_append]
  rfl

lemma mapM {hook' : β → TransformM (Traced σ) α} {hook : β → TransformM σ α}
    {listing : β → List Event} {bs : List β}
    (each : ∀ b ∈ bs, (hook' b).Traces (listing b) (hook b)) :
    Traces (bs.mapM hook') (bs.flatMap listing) (bs.mapM hook) := by
  induction bs with
  | nil => exact .pure []
  | cons b bs ih =>
    obtain ⟨head, tail⟩ := List.forall_mem_cons.mp each
    rw [List.mapM_cons, List.mapM_cons, List.flatMap_cons]
    apply head.bind
    intro a
    rw [← List.append_nil (bs.flatMap listing)]
    exact (ih tail).bind fun as => .pure (a :: as)

end TransformM.Traces

namespace Rules

variable {rules : Rules σ} {b : Block Expr}

lemma traces_walkBlock
    (kids : ∀ e ∈ b.expressions, (rules.traced.transform e).Traces e.events (rules.transform e)) :
    (rules.traced.walkBlock b (b.expressions.map fun e _ => rules.traced.transform e)).Traces
      (b.declarations.map Event.declaration ++ b.expressions.flatMap Expr.events)
      (rules.transformer.walkBlock b (b.expressions.map fun e _ => rules.transform e)) := by
  have declared : TransformM.Traces (b.declarations.mapM rules.traced.declaration)
      (b.declarations.flatMap fun p => [.declaration p])
      (b.declarations.mapM rules.transformer.declaration) :=
    .mapM fun p _ => (TransformM.Traces.lift _).event (.declaration p)
  rw [← List.map_eq_flatMap] at declared
  unfold Transformer.walkBlock
  apply declared.bind
  intro ps
  rw [List.mapM_map, List.mapM_map, ← List.append_nil (b.expressions.flatMap Expr.events)]
  exact (TransformM.Traces.mapM kids).bind fun args => .liftM (b.exchange ps args)

/-- A traced transformation ends as the plain one does and writes down the events, in order. -/
lemma traces_transform (rules : Rules σ) (e : Expr) :
    (rules.traced.transform e).Traces e.events (rules.transform e) := by
  induction e using Expr.inductionOn with
  | leaf l =>
    rw [transform_leaf, Transformer.transform_eq, Expr.events_leaf]
    exact (TransformM.Traces.lift _).event (.leaf l)
  | block b ih =>
    rw [transform_block, Transformer.transform_eq, Expr.events_block]
    exact (traces_walkBlock ih).event (.block b)

/--
A visitor that writes down what it meets writes down the events of the tree in preorder, whether it
visits the root or enters it at the hook of its kind. A transformer that does so writes down the
same, whatever its rules give, and for the rest does what it does without. So it ends in a misuse
only where a rule does; in all other cases all of the events have been met.
-/
theorem traced_meets_events (rules : Rules σ) (e : Expr) :
    (∀ log, (Visitor.recorder.visit e).run log = ((), log ++ e.events.toArray) ∧
      (Visitor.recorder.accept e).run log = ((), log ++ e.events.toArray)) ∧
    (∀ st log f, (rules.traced.transform e).outcome ⟨st, log⟩ f =
      Traced.outcome log e.events ((rules.transform e).outcome st f)) ∧
    ((∀ l, (rules.leaf l).Quiet) → (∀ p, (rules.declaration p).Quiet) →
      ∀ st log f, ∃ e' st' g, (rules.traced.transform e).outcome ⟨st, log⟩ f =
        (.ok (e', ⟨st', log ++ e.events.toArray⟩), g)) := by
  refine ⟨?_, rules.traces_transform e, ?_⟩
  · intro log
    have visited := Visitor.records_visit e log
    have entered := visited
    rw [Visitor.visit_eq] at entered
    exact ⟨visited, entered⟩
  · intro leaf declaration st log f
    obtain ⟨e', st', g, ends⟩ := (Rules.quiet leaf declaration).transform e st f
    have traced := rules.traces_transform e st log f
    rw [ends] at traced
    exact ⟨e', st', g, traced⟩

/--
A scope stands twice in the tree; its read becomes a placeholder, its variable one by reference.
-/
theorem traced_meets_events_shared :
    let x : Param := ⟨0, some "x", .int, false⟩
    let scope : Block Expr := ⟨1, .scope1 [x] x.read⟩
    let e : Expr := .block ⟨2, .block2 (.block scope) (.block scope)⟩
    let rules : Rules Unit :=
      { leaf := fun l => do return ← Build.placeholder l.ty
        declaration := fun p => do return ← Build.byReference "y" p.ty }
    let once : List Event := [.block scope, .declaration x, .leaf (.parameter x)]
    e.events = .block ⟨2, .block2 (.block scope) (.block scope)⟩ :: (once ++ once) ∧
      ∃ e' g, (rules.traced.transform e).outcome ⟨(), #[]⟩ { next := 3 } =
        (.ok (e', ⟨(), e.events.toArray⟩), g) := by
  intro x scope e rules once
  refine ⟨by simp [e, once, scope, Block.declarations, Block.expressions, Layout.declarations,
    Layout.expressions, Param.read], ?_⟩
  obtain ⟨e', _, g, ends⟩ := (traced_meets_events rules e).2.2 (fun _ _ _ => ⟨_, _, _, rfl⟩)
    (fun _ _ _ => ⟨_, _, _, rfl⟩) () #[] { next := 3 }
  exact ⟨e', g, by simpa using ends⟩

end Rules

end ScopedExpr
