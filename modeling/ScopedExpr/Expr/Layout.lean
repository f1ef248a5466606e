import ScopedExpr.Expr.Leaf

/-!
# Layouts of blocks

A block runs its children in order. Most blocks are small, so a layout is picked by the number of
children and declared variables: two to five children without variables have a field each, all
others keep the first child apart from the list of the rest. Each layout answers the same questions;
the lemmas tie every answer to the list of children and the list of variables.
-/

namespace ScopedExpr

universe u v

/-- The name of a layout. -/
inductive Shape where
  | block2 | block3 | block4 | block5 | blockN | scope1 | scopeN
deriving DecidableEq, Repr

def Shape.isScope : Shape → Bool
  | .scope1 | .scopeN => true
  | _ => false

def Shape.text : Shape → String
  | .block2 => "Block2"
  | .block3 => "Block3"
  | .block4 => "Block4"
  | .block5 => "Block5"
  | .blockN => "BlockN"
  | .scope1 => "Scope1"
  | .scopeN => "ScopeN"

/-- The children of a block and its declared variables. -/
inductive Layout (α : Type u) where
  | block2 (a b : α)
  | block3 (a b c : α)
  | block4 (a b c d : α)
  | block5 (a b c d e : α)
  | blockN (first : α) (rest : List α)
  | scope1 (declarations : List Param) (body : α)
  | scopeN (declarations : List Param) (first : α) (rest : List α)

variable {α : Type u} {β : Type v}

/-! ### Picking a layout -/

/-- The layout without variables that fits the number of children. -/
def Layout.ofPlain (first : α) : List α → Layout α
  | [b] => .block2 first b
  | [b, c] => .block3 first b c
  | [b, c, d] => .block4 first b c d
  | [b, c, d, e] => .block5 first b c d e
  | rest => .blockN first rest

/-- The layout with variables that fits the number of children. -/
def Layout.ofScope (declarations : List Param) (first : α) : List α → Layout α
  | [] => .scope1 declarations first
  | rest => .scopeN declarations first rest

/-! ### Questions to a layout -/

def Layout.shape : Layout α → Shape
  | .block2 .. => .block2
  | .block3 .. => .block3
  | .block4 .. => .block4
  | .block5 .. => .block5
  | .blockN .. => .blockN
  | .scope1 .. => .scope1
  | .scopeN .. => .scopeN

def Layout.declarations : Layout α → List Param
  | .scope1 declarations _ => declarations
  | .scopeN declarations _ _ => declarations
  | _ => []

def Layout.expressions : Layout α → List α
  | .block2 a b => [a, b]
  | .block3 a b c => [a, b, c]
  | .block4 a b c d => [a, b, c, d]
  | .block5 a b c d e => [a, b, c, d, e]
  | .blockN first rest => first :: rest
  | .scope1 _ body => [body]
  | .scopeN _ first rest => first :: rest

def Layout.count : Layout α → Nat
  | .block2 .. => 2
  | .block3 .. => 3
  | .block4 .. => 4
  | .block5 .. => 5
  | .blockN _ rest => rest.length + 1
  | .scope1 .. => 1
  | .scopeN _ _ rest => rest.length + 1

def Layout.first : Layout α → α
  | .block2 a _ => a
  | .block3 a _ _ => a
  | .block4 a _ _ _ => a
  | .block5 a _ _ _ _ => a
  | .blockN first _ => first
  | .scope1 _ body => body
  | .scopeN _ first _ => first

/-- The child at a place behind the first, read from its field. -/
def Layout.later? : Layout α → Nat → Option α
  | .block2 _ b, 1 => some b
  | .block3 _ b _, 1 => some b
  | .block3 _ _ c, 2 => some c
  | .block4 _ b _ _, 1 => some b
  | .block4 _ _ c _, 2 => some c
  | .block4 _ _ _ d, 3 => some d
  | .block5 _ b _ _ _, 1 => some b
  | .block5 _ _ c _ _, 2 => some c
  | .block5 _ _ _ d _, 3 => some d
  | .block5 _ _ _ _ e, 4 => some e
  | .blockN _ rest, i + 1 => rest[i]?
  | .scopeN _ _ rest, i + 1 => rest[i]?
  | _, _ => none

def Layout.get? (l : Layout α) (i : Nat) : Option α :=
  if i = 0 then some l.first else l.later? i

/-- The last child, whose value is the value of the block. -/
def Layout.last : Layout α → α
  | .block2 _ b => b
  | .block3 _ _ c => c
  | .block4 _ _ _ d => d
  | .block5 _ _ _ _ e => e
  | .blockN first rest => rest.getLastD first
  | .scope1 _ body => body
  | .scopeN _ first rest => rest.getLastD first

def Layout.map (f : α → β) : Layout α → Layout β
  | .block2 a b => .block2 (f a) (f b)
  | .block3 a b c => .block3 (f a) (f b) (f c)
  | .block4 a b c d => .block4 (f a) (f b) (f c) (f d)
  | .block5 a b c d e => .block5 (f a) (f b) (f c) (f d) (f e)
  | .blockN first rest => .blockN (f first) (rest.map f)
  | .scope1 declarations body => .scope1 declarations (f body)
  | .scopeN declarations first rest => .scopeN declarations (f first) (rest.map f)

/-! ### What the answers have in common -/

@[simp] theorem Layout.length_expressions (l : Layout α) : l.expressions.length = l.count := by
  cases l <;> rfl

theorem Layout.count_pos (l : Layout α) : 0 < l.count := by
  cases l <;> simp [Layout.count]

theorem Layout.expressions_ne_nil (l : Layout α) : l.expressions ≠ [] := by
  cases l <;> simp [Layout.expressions]

/-- Reading a place gives what stands there in the list of children. -/
theorem Layout.get?_eq (l : Layout α) (i : Nat) : l.get? i = l.expressions[i]? := by
  cases l <;> rcases i with _ | _ | _ | _ | _ | i <;>
    simp [Layout.get?, Layout.later?, Layout.first, Layout.expressions]

theorem Layout.head?_expressions (l : Layout α) : l.expressions.head? = some l.first := by
  cases l <;> rfl

/-- The last child stands at the end of the list, even if it is the first one. -/
theorem Layout.getLast?_expressions (l : Layout α) : l.expressions.getLast? = some l.last := by
  cases l <;> simp [Layout.expressions, Layout.last, List.getLast?_cons]

theorem Layout.last_mem (l : Layout α) : l.last ∈ l.expressions :=
  List.mem_of_getLast? l.getLast?_expressions

@[simp] theorem Layout.expressions_map (f : α → β) (l : Layout α) :
    (l.map f).expressions = l.expressions.map f := by
  cases l <;> simp [Layout.map, Layout.expressions]

/-- The last of the images, or the image of the default, is the image of the last or the default. -/
theorem getLastD_map_apply (f : α → β) (a : α) (as : List α) :
    (as.map f).getLastD (f a) = f (as.getLastD a) := by
  rw [List.getLastD_eq_getLast?, List.getLastD_eq_getLast?, List.getLast?_map]
  cases as.getLast? <;> rfl

@[simp] theorem Layout.last_map (f : α → β) (l : Layout α) : (l.map f).last = f l.last := by
  cases l <;> simp only [Layout.map, Layout.last, getLastD_map_apply]

/-- Whichever layout fits, it has the children that are given. -/
@[simp] theorem Layout.expressions_ofPlain (first : α) (rest : List α) :
    (Layout.ofPlain first rest).expressions = first :: rest := by
  unfold Layout.ofPlain; split <;> rfl

@[simp] theorem Layout.declarations_ofPlain (first : α) (rest : List α) :
    (Layout.ofPlain first rest).declarations = [] := by
  unfold Layout.ofPlain; split <;> rfl

@[simp] theorem Layout.expressions_ofScope (declarations : List Param) (first : α)
    (rest : List α) :
    (Layout.ofScope declarations first rest).expressions = first :: rest := by
  unfold Layout.ofScope; split <;> rfl

/-- Whichever layout fits, it has the variables that are given. -/
@[simp] theorem Layout.declarations_ofScope (declarations : List Param) (first : α)
    (rest : List α) :
    (Layout.ofScope declarations first rest).declarations = declarations := by
  unfold Layout.ofScope; split <;> rfl

end ScopedExpr
