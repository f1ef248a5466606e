/-!
# Outlines

The structural text of a thing: its parts by name and place, written on one line or with a line for
each part.
-/

namespace ScopedExpr

/-- What a thing consists of. -/
inductive Outline where
  /-- A text of its own. -/
  | atom (text : String)
  /-- Labelled parts, of which some may be left out (`more`). -/
  | labelled (name : String) (fields : List (String × Outline)) (more : Bool)
  /-- Parts by place behind a name. -/
  | applied (name : String) (parts : List Outline)
  /-- Parts by place. -/
  | list (parts : List Outline)

/-- A thing with labelled parts, none left out. -/
def Outline.ofFields (name : String) (fields : List (String × Outline)) : Outline :=
  .labelled name fields false

def Outline.option : Option Outline → Outline
  | none => .atom "None"
  | some part => .applied "Some" [part]

/-! ### On one line -/

mutual

def Outline.flat : Outline → String
  | .atom text => text
  | .labelled name fields more =>
    let parts := Outline.flatFields fields ++ (if more then [".."] else [])
    name ++ " \x7b " ++ ", ".intercalate parts ++ " \x7d"
  | .applied name parts => name ++ "(" ++ ", ".intercalate (Outline.flatParts parts) ++ ")"
  | .list parts => "[" ++ ", ".intercalate (Outline.flatParts parts) ++ "]"

def Outline.flatFields : List (String × Outline) → List String
  | [] => []
  | (label, part) :: rest => (label ++ ": " ++ part.flat) :: Outline.flatFields rest

def Outline.flatParts : List Outline → List String
  | [] => []
  | part :: rest => part.flat :: Outline.flatParts rest

end

/-! ### A line for each part -/

mutual

/-- The outline with a line for each part, four blanks further in; the first line has no margin. -/
def Outline.indented (margin : String) : Outline → String
  | .atom text => text
  | .labelled name fields more =>
    let rest := if more then margin ++ "    ..\n" ++ margin ++ "\x7d" else margin ++ "\x7d"
    name ++ " \x7b\n" ++ String.join (Outline.indentedFields (margin ++ "    ") fields) ++ rest
  | .applied name parts =>
    name ++ "(\n" ++ String.join (Outline.indentedParts (margin ++ "    ") parts) ++ margin ++ ")"
  | .list [] => "[]"
  | .list (part :: parts) =>
    "[\n" ++ String.join (Outline.indentedParts (margin ++ "    ") (part :: parts)) ++ margin ++ "]"

def Outline.indentedFields (margin : String) : List (String × Outline) → List String
  | [] => []
  | (label, part) :: rest =>
    (margin ++ label ++ ": " ++ part.indented margin ++ ",\n") ::
      Outline.indentedFields margin rest

def Outline.indentedParts (margin : String) : List Outline → List String
  | [] => []
  | part :: rest =>
    (margin ++ part.indented margin ++ ",\n") :: Outline.indentedParts margin rest

end

/-- The text of an outline, on one line or with a line for each part. -/
def Outline.render (pretty : Bool) (o : Outline) : String :=
  if pretty then o.indented "" else o.flat

end ScopedExpr
