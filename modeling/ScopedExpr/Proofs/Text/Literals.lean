import Mathlib
import ScopedExpr.Proofs.Text.Quoted
import ScopedExpr.Value

/-!
# Reading types and values

No two types have the same text, nor do two values, decimals apart. Where a parenthesis follows it
can be told where a value ends, even if it is a text that has parentheses itself.
-/

namespace ScopedExpr

/-! ### Integers -/

lemma isDigit_of_mem_repr {n : Nat} {c : Char} (mem : c ∈ n.repr.toList) : c.isDigit = true := by
  rw [Nat.toList_repr] at mem
  exact Nat.isDigit_of_mem_toDigits (by decide) (by decide) mem

/-- An integer is written with a sign and digits only. -/
lemma mem_intText {n : Int64} {c : Char} (mem : c ∈ (intText n).toList) :
    c = '-' ∨ c.isDigit = true := by
  rw [intText, Int.toString_eq_repr, Int.repr_eq_if] at mem
  split at mem
  · exact .inr (isDigit_of_mem_repr mem)
  · rw [String.toList_append, List.mem_append] at mem
    rcases mem with mem | mem
    · exact .inl (List.mem_singleton.mp mem)
    · exact .inr (isDigit_of_mem_repr mem)

/-! ### Types -/

namespace TypeId

variable {t u : TypeId}

/-- The types that have a name, each behind its name. -/
def named : List (String × TypeId) :=
  [("object", .object), ("void", .void), ("bool", .bool), ("int", .int), ("float", .float),
    ("str", .str)]

lemma mem_named {lower capitals : String} (name : t.name? = some (lower, capitals)) :
    (lower, t) ∈ named := by
  unfold name? at name
  split_ifs at name <;> cases name <;> subst t <;> decide

/-- The text of a type is its name or shows its number. -/
lemma text_cases (t : TypeId) : (t.text, t) ∈ named ∨ t.text = "type#" ++ t.raw.toNat.repr := by
  unfold text
  cases name : t.name? with
  | some names => exact .inl (mem_named name)
  | none => exact .inr rfl

lemma text_injective (eq : t.text = u.text) : t = u := by
  have apart : ∀ p ∈ named, ∀ q ∈ named, p.1 = q.1 → p.2 = q.2 := by decide
  have sharp : ∀ p ∈ named, '#' ∉ p.1.toList := by decide
  rcases t.text_cases with name | number <;> rcases u.text_cases with name' | number'
  · exact apart (t.text, t) name (u.text, u) name' eq
  · refine absurd ?_ (sharp (t.text, t) name)
    simp [eq, number']
  · refine absurd ?_ (sharp (u.text, u) name')
    simp [← eq, number]
  · rw [number, number', String.append_right_inj, Nat.repr_inj, UInt32.toNat_inj] at eq
    exact congrArg TypeId.mk eq

lemma parenthesis_notMem_text (t : TypeId) : ')' ∉ t.text.toList := by
  have absent : ∀ p ∈ named, ')' ∉ p.1.toList := by decide
  rcases t.text_cases with name | number
  · exact absent (t.text, t) name
  · rw [number, String.toList_append, List.mem_append, not_or]
    refine ⟨by decide, fun mem => ?_⟩
    have digit := isDigit_of_mem_repr mem
    cases digit

end TypeId

/-! ### Values -/

namespace Value

variable {v v' : Value}

/-- Whether the value is null, a truth value or an integer. -/
inductive Bare : Value → Prop where
  | null : Bare .null
  | bool (b : Bool) : Bare (.bool b)
  | int (n : Int64) : Bare (.int n)

/-- A value that is no decimal is bare or a text. -/
lemma bare_or_str (v : Value) (noFloat : ∀ x, v ≠ .float x) : v.Bare ∨ ∃ s, v = .str s := by
  cases v with
  | null => exact .inl .null
  | bool b => exact .inl (.bool b)
  | int n => exact .inl (.int n)
  | float x => exact absurd rfl (noFloat x)
  | str s => exact .inr ⟨s, rfl⟩

/-- The bare value with the given text. -/
def ofText? (s : String) : Option Value :=
  if s = "null" then some .null
  else if s = "true" then some (.bool true)
  else if s = "false" then some (.bool false)
  else s.toInt?.map fun n => .int (Int64.ofInt n)

namespace Bare

/-- A bare value can be told from its text. -/
lemma ofText?_text (bare : v.Bare) : ofText? v.text = some v := by
  cases bare with
  | null => rfl
  | bool b => cases b <;> rfl
  | int n =>
    have letter (word : String) (c : Char) (mem : c ∈ word.toList) (sign : c ≠ '-')
        (digit : c.isDigit = false) : intText n ≠ word := by
      rintro rfl
      rcases mem_intText mem with rfl | digit'
      · exact sign rfl
      · exact absurd (digit.symm.trans digit') (by decide)
    rw [text, ofText?, if_neg (letter "null" 'n' (by decide) (by decide) (by decide)),
      if_neg (letter "true" 't' (by decide) (by decide) (by decide)),
      if_neg (letter "false" 'f' (by decide) (by decide) (by decide)), intText,
      Int.toString_eq_repr, Int.toInt?_repr, Option.map_some, Int64.ofInt_toInt]

lemma text_injective (bare : v.Bare) (bare' : v'.Bare) (eq : v.text = v'.text) : v = v' := by
  have read := bare.ofText?_text
  rw [eq, bare'.ofText?_text] at read
  exact (Option.some.inj read).symm

lemma notMem_text (bare : v.Bare) : ')' ∉ v.text.toList ∧ '"' ∉ v.text.toList := by
  cases bare with
  | null => decide
  | bool b => cases b <;> decide
  | int n =>
    constructor <;> intro mem <;> rcases mem_intText mem with eq | digit <;> contradiction

/-- What is written without quotes is not taken for a quoted text. -/
lemma text_append_ne (bare : v.Bare) (s : String) (r r' : List Char) :
    v.text.toList ++ [')'] ++ r ≠ (quoted s).toList ++ [')'] ++ r' := by
  obtain ⟨cs, opens⟩ := quoted_eq_cons s
  have absent := bare.notMem_text.2
  rw [opens]
  intro eq
  cases written : v.text.toList with
  | nil =>
    rw [written] at eq
    exact absurd (List.head_eq_of_cons_eq eq) (by decide)
  | cons c cs =>
    rw [written] at eq absent
    exact absent (List.head_eq_of_cons_eq eq ▸ List.mem_cons_self)

end Bare

/-- A value that is no decimal is read off its text where a parenthesis follows. -/
lemma legible_text (noFloat : ∀ x, v ≠ .float x) (noFloat' : ∀ x, v' ≠ .float x) :
    Legible (fun v => v.text.toList ++ [')']) Eq v v' := by
  rcases bare_or_str v noFloat with bare | ⟨s, rfl⟩ <;>
    rcases bare_or_str v' noFloat' with bare' | ⟨s', rfl⟩
  · apply legible_stop
    · exact fun eq => bare.text_injective bare' (String.toList_inj.mp eq)
    · exact bare.notMem_text.1
    · exact bare'.notMem_text.1
  · exact fun r r' eq => absurd eq (bare.text_append_ne s' r r')
  · exact fun r r' eq => absurd eq.symm (bare'.text_append_ne s r' r)
  · intro r r' eq
    rw [List.append_assoc, List.append_assoc] at eq
    obtain ⟨rfl, rest_eq⟩ := legible_quoted s s' _ _ eq
    exact ⟨rfl, List.tail_eq_of_cons_eq rest_eq⟩

end Value

end ScopedExpr
