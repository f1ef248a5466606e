import ScopedExpr.Expr.Layout

/-!
# Expressions

An expression is a leaf or a block of expressions. All functions over whole expressions are made by
`Expr.fold`, which hands each block to its caller together with the results for the children, and
computes such a result only when it is asked for.
-/

namespace ScopedExpr

universe u v

/-- A block: a node with a layout of children. -/
structure Block (α : Type u) where
  /-- The number of the node. -/
  id : Nat
  /-- The children and the declared variables. -/
  layout : Layout α

/-- An expression node. -/
inductive Expr where
  /-- A node without children. -/
  | leaf (l : Leaf)
  /-- A node with children. -/
  | block (b : Block Expr)

/-! ### Blocks -/

variable {α : Type u} {β : Type v}

def Block.shape (b : Block α) : Shape := b.layout.shape
def Block.isScope (b : Block α) : Bool := b.shape.isScope
def Block.declarations (b : Block α) : List Param := b.layout.declarations
def Block.expressions (b : Block α) : List α := b.layout.expressions
def Block.count (b : Block α) : Nat := b.layout.count
def Block.get? (b : Block α) (i : Nat) : Option α := b.layout.get? i
/-- The last child, whose value is the value of the block. -/
def Block.result (b : Block α) : α := b.layout.last
def Block.map (f : α → β) (b : Block α) : Block β := ⟨b.id, b.layout.map f⟩

theorem Block.get?_eq (b : Block α) (i : Nat) : b.get? i = b.expressions[i]? := b.layout.get?_eq i

@[simp] theorem Block.length_expressions (b : Block α) : b.expressions.length = b.count :=
  b.layout.length_expressions

/-- The value of a block is that of one of its children. -/
theorem Block.result_mem (b : Block α) : b.result ∈ b.expressions := b.layout.last_mem

@[simp] theorem Block.expressions_map (f : α → β) (b : Block α) :
    (b.map f).expressions = b.expressions.map f := b.layout.expressions_map f

@[simp] theorem Block.result_map (f : α → β) (b : Block α) : (b.map f).result = f b.result :=
  b.layout.last_map f

/-! ### Recursion and induction -/

section Fold

variable (leaf : Leaf → β) (block : Block Expr → Block (Unit → β) → β)

mutual

/--
Compute along an expression: a leaf by `leaf`, a block by `block` from the block itself and from the
delayed results of its children.
-/
def Expr.fold : Expr → β
  | .leaf l => leaf l
  | .block b => block b (Expr.foldBlock b)

def Expr.foldBlock : Block Expr → Block (Unit → β)
  | ⟨id, layout⟩ => ⟨id, Expr.foldLayout layout⟩

def Expr.foldLayout : Layout Expr → Layout (Unit → β)
  | .block2 a b => .block2 (fun _ => a.fold) (fun _ => b.fold)
  | .block3 a b c => .block3 (fun _ => a.fold) (fun _ => b.fold) (fun _ => c.fold)
  | .block4 a b c d =>
    .block4 (fun _ => a.fold) (fun _ => b.fold) (fun _ => c.fold) (fun _ => d.fold)
  | .block5 a b c d e =>
    .block5 (fun _ => a.fold) (fun _ => b.fold) (fun _ => c.fold) (fun _ => d.fold)
      (fun _ => e.fold)
  | .blockN first rest => .blockN (fun _ => first.fold) (Expr.foldList rest)
  | .scope1 declarations body => .scope1 declarations (fun _ => body.fold)
  | .scopeN declarations first rest =>
    .scopeN declarations (fun _ => first.fold) (Expr.foldList rest)

def Expr.foldList : List Expr → List (Unit → β)
  | [] => []
  | e :: rest => (fun _ => e.fold) :: Expr.foldList rest

end

theorem Expr.foldList_eq (es : List Expr) :
    Expr.foldList leaf block es = es.map fun e _ => e.fold leaf block := by
  induction es with
  | nil => simp [Expr.foldList]
  | cons e rest ih => simp [Expr.foldList, ih]

/-- In the place of each child stands its delayed fold. -/
theorem Expr.foldBlock_eq (b : Block Expr) :
    Expr.foldBlock leaf block b = b.map fun e _ => e.fold leaf block := by
  obtain ⟨id, layout⟩ := b
  cases layout <;> simp [Expr.foldBlock, Expr.foldLayout, Block.map, Layout.map, Expr.foldList_eq]

@[simp] theorem Expr.fold_leaf (l : Leaf) : (Expr.leaf l).fold leaf block = leaf l := by
  simp [Expr.fold]

/-- A block is handed over with the results of its children. -/
@[simp] theorem Expr.fold_block (b : Block Expr) :
    (Expr.block b).fold leaf block = block b (b.map fun e _ => e.fold leaf block) := by
  simp [Expr.fold, Expr.foldBlock_eq]

end Fold

/--
What holds of every leaf, and of a block when it holds of its children, holds of every expression.
-/
theorem Expr.inductionOn {motive : Expr → Prop} (e : Expr) (leaf : ∀ l, motive (.leaf l))
    (block : ∀ b : Block Expr, (∀ e ∈ b.expressions, motive e) → motive (.block b)) : motive e := by
  refine Expr.rec (motive_1 := motive) (motive_2 := fun b => ∀ e ∈ b.expressions, motive e)
    (motive_3 := fun l => ∀ e ∈ l.expressions, motive e)
    (motive_4 := fun es => ∀ e ∈ es, motive e) leaf block ?_ ?_ ?_ ?_ ?_ ?_ ?_ ?_ ?_ ?_ e
  all_goals simp_all [Block.expressions, Layout.expressions]

/-! ### Kinds and identity -/

/-- The four kinds of nodes. -/
inductive Kind where
  | constant | parameter | placeholder | block
deriving DecidableEq, Repr

def Kind.text : Kind → String
  | .constant => "constant"
  | .parameter => "parameter"
  | .placeholder => "placeholder"
  | .block => "block"

/-- The text of a kind inside an outline. -/
def Kind.inspect : Kind → String
  | .constant => "Constant"
  | .parameter => "Parameter"
  | .placeholder => "Placeholder"
  | .block => "Block"

/--
What tells a node from all others: its kind and its number. A read of a parameter has the number of
the parameter.
-/
structure Identity where
  /-- The kind of the node. -/
  kind : Kind
  /-- The number among the nodes of that kind. -/
  number : Nat
deriving DecidableEq, Repr

def Expr.identity : Expr → Identity
  | .leaf (.constant c) => ⟨.constant, c.id⟩
  | .leaf (.parameter p) => ⟨.parameter, p.id⟩
  | .leaf (.placeholder h) => ⟨.placeholder, h.id⟩
  | .block b => ⟨.block, b.id⟩

def Expr.kind (e : Expr) : Kind := e.identity.kind

/-- Whether two expressions are the same node. -/
def Expr.same (a b : Expr) : Bool := a.identity == b.identity

/-- Whether the node has a value when it is evaluated; all but placeholders have. -/
def Expr.canRead : Expr → Bool
  | .leaf l => l.canRead
  | .block _ => true

/-- The static type: a leaf has its own, a block that of its last child. -/
def Expr.ty : Expr → TypeId :=
  Expr.fold Leaf.ty fun _ kids => kids.result ()

@[simp] theorem Expr.ty_leaf (l : Leaf) : (Expr.leaf l).ty = l.ty := by simp [Expr.ty]

@[simp] theorem Expr.ty_block (b : Block Expr) : (Expr.block b).ty = b.result.ty := by
  simp [Expr.ty]

end ScopedExpr
