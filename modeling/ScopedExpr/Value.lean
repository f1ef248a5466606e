import ScopedExpr.Decimal.FloatText
import ScopedExpr.Text.Outline
import ScopedExpr.Text.Quoted
import ScopedExpr.TypeId

/-!
# Values

The constants that an expression may hold. Null is a value like any other: a variable that holds it
is set.
-/

namespace ScopedExpr

/-- A constant value. -/
inductive Value where
  | null
  | bool (b : Bool)
  | int (n : Int64)
  | float (x : Float)
  | str (s : String)

instance : Inhabited Value := ⟨.null⟩

def Value.isNull : Value → Bool
  | .null => true
  | _ => false

/-- The static type of a constant for which no type is given. -/
def Value.ty : Value → TypeId
  | .null => .object
  | .bool _ => .bool
  | .int _ => .int
  | .float _ => .float
  | .str _ => .str

/-- Equality of values: of one kind and of one content, where not-a-number differs from itself. -/
def Value.equal : Value → Value → Bool
  | .null, .null => true
  | .bool a, .bool b => a == b
  | .int a, .int b => a == b
  | .float a, .float b => a == b
  | .str a, .str b => a == b
  | _, _ => false

instance : BEq Value := ⟨Value.equal⟩

def boolText (b : Bool) : String := if b then "true" else "false"

def intText (n : Int64) : String := toString n.toInt

def Value.text : Value → String
  | .null => "null"
  | .bool b => boolText b
  | .int n => intText n
  | .float x => DecimalStyle.plain.float x
  | .str s => quoted s

/-- The outline of a value: its kind around its text. -/
def Value.outline : Value → Outline
  | .null => .atom "Null"
  | .bool b => .applied "Bool" [.atom (boolText b)]
  | .int n => .applied "Int" [.atom (intText n)]
  | .float x => .applied "Float" [.atom (DecimalStyle.plain.float x)]
  | .str s => .applied "Str" [.atom (quoted s)]

end ScopedExpr
