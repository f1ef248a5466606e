import ScopedExpr.Traversal.Event
import ScopedExpr.Traversal.Transformer
import ScopedExpr.Traversal.Visitor

/-!
# Recorded traversals

Visitors that write down what they meet, and transformers that do so beside their work.
-/

namespace ScopedExpr

variable {σ α : Type}

/-! ### Reading -/

def recordEvent (event : Event) : StateM (Array Event) Unit := modify (·.push event)

/-- Writes down leaves, declarations and blocks on the way through the whole tree. -/
def Visitor.recorder : Visitor (Array Event) where
  constant c := recordEvent (.leaf (.constant c))
  parameter p := recordEvent (.leaf (.parameter p))
  placeholder h := recordEvent (.leaf (.placeholder h))
  declaration p := recordEvent (.declaration p)
  block b walk := do recordEvent (.block b); walk

/-- Writes down what it meets but does not walk into blocks. -/
def Visitor.shallowRecorder : Visitor (Array Event) :=
  { Visitor.recorder with block := fun b _ => recordEvent (.block b) }

/-- Writes down the kind of every expression it is led to. -/
def Visitor.kinds : Visitor (Array Kind) where
  expr e walk := do modify (·.push e.kind); walk

structure Tally where
  /-- Constants. -/
  constants : Nat := 0
  /-- Reads of parameters. -/
  parameters : Nat := 0
  /-- Placeholders. -/
  placeholders : Nat := 0
  /-- Declared variables. -/
  declarations : Nat := 0
  /-- Blocks. -/
  blocks : Nat := 0

def Visitor.counter : Visitor Tally where
  constant _ := modify fun t => { t with constants := t.constants + 1 }
  parameter _ := modify fun t => { t with parameters := t.parameters + 1 }
  placeholder _ := modify fun t => { t with placeholders := t.placeholders + 1 }
  declaration _ := modify fun t => { t with declarations := t.declarations + 1 }
  block _ walk := do modify (fun t => { t with blocks := t.blocks + 1 }); walk

/-! ### Transforming -/

/-- A state with the events so far. -/
structure Traced (σ : Type) where
  /-- The state of the transformer. -/
  state : σ
  /-- What has been met. -/
  events : Array Event := #[]

def Traced.event (event : Event) : TransformM (Traced σ) Unit :=
  modify fun traced => { traced with events := traced.events.push event }

/-- Work on the state and leave the events alone. -/
def Traced.lift (x : TransformM σ α) : TransformM (Traced σ) α := fun traced => do
  let (a, state) ← x.run traced.state
  return (a, { traced with state })

/-- The transformer of the rules, which writes down what it meets before it acts. -/
def Rules.traced (rules : Rules σ) : Transformer (Traced σ) where
  leaf l := do Traced.event (.leaf l); Traced.lift (rules.leaf l)
  declaration p := do Traced.event (.declaration p); Traced.lift (rules.declaration p)
  block b walk := do Traced.event (.block b); walk

/-- Blocks inside the first block that is entered stay as they are. -/
def Transformer.shallow (t : Transformer (Traced σ)) : Transformer (Traced σ) :=
  { t with
    block := fun b walk => t.block b do
      let traced ← get
      if traced.events.countP Event.isBlock ≤ 1 then walk else return .block b }

end ScopedExpr
