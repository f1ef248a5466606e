import ScopedExpr.Text.JoiningMarks
import ScopedExpr.Text.Unprintable

/-!
# Quoted texts

A text in double quotes, on one line and printable throughout.
-/

namespace ScopedExpr

/--
Whether a character is written by its number: it joins the one in front of it, or cannot be seen.
-/
def needsNumber (c : Char) : Bool :=
  joiningMarkRanges.contains c || unprintableRanges.contains c

/-- A character by its number, in lower-case hexadecimal digits without leading zeros. -/
def numbered (c : Char) : List Char :=
  '\\' :: 'u' :: '\x7b' :: Nat.toDigits 16 c.toNat ++ ['\x7d']

/-- The written form of one character. -/
def escape (c : Char) : List Char :=
  if c = '"' then ['\\', '"']
  else if c = '\\' then ['\\', '\\']
  else if c = '\n' then ['\\', 'n']
  else if c = '\r' then ['\\', 'r']
  else if c = '\t' then ['\\', 't']
  else if c = '\x00' then ['\\', '0']
  else if ' ' ≤ c ∧ c ≤ '~' then [c]
  else if needsNumber c then numbered c
  else [c]

/-- A text between double quotes, every character in its written form. -/
def quoted (s : String) : String :=
  String.ofList ('"' :: s.toList.flatMap escape ++ ['"'])

end ScopedExpr
