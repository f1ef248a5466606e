import ScopedExpr.Expr.Text

/-!
# List views

A view presents the children of a block as a list. It holds the first child itself and reads all
others through the block, which it does not keep: if the block is gone, the others cannot be read. A
cursor goes over a view once, from the front to the end.
-/

namespace ScopedExpr

/-- A view of the children of a block. -/
structure ListView where
  /-- The number of the view. -/
  id : Nat
  /-- The first child. -/
  first : Expr
  /-- The block whose children are viewed, unless it is gone. -/
  owner? : Option (Block Expr)
  /-- The number of children. -/
  length : Nat

def ListView.isEmpty (v : ListView) : Bool := v.length == 0

/-- The child at a place: the first from the view, all others from the block. -/
def ListView.get? (v : ListView) (i : Nat) : Option Expr :=
  if i = 0 then some v.first
  else if v.length ≤ i then none
  else v.owner?.bind (·.get? i)

/-- The first place where the same node stands. -/
def ListView.indexOf? (v : ListView) (e : Expr) : Option Nat :=
  if v.first.same e then some 0
  else
    match v.owner? with
    | none => none
    | some b => (List.range' 1 (v.length - 1)).find? fun i => (b.get? i).any (·.same e)

def ListView.contains (v : ListView) (e : Expr) : Bool := (v.indexOf? e).isSome

/-! ### Cursors -/

/-- A position in a view. -/
structure Cursor where
  /-- The first child. -/
  first : Expr
  /-- The block, if it was there when the cursor was made; the cursor keeps it. -/
  owner? : Option (Block Expr)
  /-- The number of children that have been read. -/
  index : Nat
  /-- The number of children. -/
  length : Nat

def ListView.cursor (v : ListView) : Cursor := ⟨v.first, v.owner?, 0, v.length⟩

def Cursor.remaining (c : Cursor) : Nat := c.length - c.index

/-- The least number of children still to come, and the greatest one if there is any. -/
def Cursor.sizeHint (c : Cursor) : Nat × Option Nat := (c.remaining, some c.remaining)

/-- The number of children still to come, if the two bounds of it agree. -/
def Cursor.length? (c : Cursor) : Option Nat :=
  let (least, greatest?) := c.sizeHint
  if greatest? = some least then some least else none

/-- The next child, and the cursor behind it; where nothing can be read the cursor stays. -/
def Cursor.next (c : Cursor) : Option Expr × Cursor :=
  if c.length ≤ c.index then (none, c)
  else
    match if c.index = 0 then some c.first else c.owner?.bind (·.get? c.index) with
    | some e => (some e, { c with index := c.index + 1 })
    | none => (none, c)

/-- The next children, `n` at most. -/
def Cursor.take : Nat → Cursor → List Expr
  | 0, _ => []
  | n + 1, c =>
    match c.next with
    | (some e, rest) => e :: Cursor.take n rest
    | (none, _) => []

/-- The children of a view, read off by a cursor. -/
def ListView.toList (v : ListView) : List Expr := v.cursor.take v.length

def ListView.outline (v : ListView) : Outline := .list (v.toList.map Expr.outline)

end ScopedExpr
