import ScopedExpr.Proofs.Text.Legible
import ScopedExpr.Text.Quoted

/-!
# Reading quoted texts

The written form of a character says where it ends, and which character it is for; so a quoted text
ends at the first quote that is not part of such a form.
-/

namespace ScopedExpr

/-! ### Hexadecimal numbers -/

def hexValue (c : Char) : Nat :=
  if c.isDigit then c.toNat - '0'.toNat else c.toNat - 'a'.toNat + 10

def ofHexDigits (ds : List Char) : Nat := ds.foldl (fun n d => 16 * n + hexValue d) 0

lemma hexValue_digitChar : ∀ d < 16, hexValue (Nat.digitChar d) = d := by decide

/-- A number can be told from its hexadecimal digits. -/
lemma ofHexDigits_toDigits (n : Nat) : ofHexDigits (Nat.toDigits 16 n) = n := by
  induction n using Nat.strongRecOn with
  | ind n ih =>
    rw [Nat.toDigits_eq_if (by decide)]
    split
    · rename_i small
      exact (Nat.zero_add _).trans (hexValue_digitChar n small)
    · rename_i large
      have shorter : ofHexDigits (Nat.toDigits 16 (n / 16)) = n / 16 := ih _ (by omega)
      have last : hexValue (Nat.digitChar (n % 16)) = n % 16 := hexValue_digitChar _ (by omega)
      rw [ofHexDigits, List.foldl_append, ← ofHexDigits, shorter, List.foldl_cons, last]
      exact Nat.div_add_mod n 16

lemma brace_notMem_toDigits (n : Nat) : '\x7d' ∉ Nat.toDigits 16 n := by
  have digit : ∀ d < 16, '\x7d' ≠ Nat.digitChar d := by decide
  induction n using Nat.strongRecOn with
  | ind n ih =>
    rw [Nat.toDigits_eq_if (by decide)]
    split
    · rename_i small
      rw [List.mem_singleton]
      exact digit n small
    · rename_i large
      rw [List.mem_append, List.mem_singleton, not_or]
      exact ⟨ih (n / 16) (by omega), digit (n % 16) (by omega)⟩

/-! ### Reading a character -/

/-- What stands behind a backslash for a character that is not written by its number. -/
def marks : List (Char × Char) :=
  [('"', '"'), ('\\', '\\'), ('n', '\n'), ('r', '\r'), ('t', '\t'), ('0', '\x00')]

/-- Read the number of a character up to the closing brace. -/
def unescapeNumber (text : List Char) : Char × List Char :=
  (Char.ofNat (ofHexDigits (text.takeWhile (· != '\x7d'))), (text.dropWhile (· != '\x7d')).tail)

/-- Read a character that is not a quote, from its written form at the beginning of a text. -/
def unescape : List Char → Option (Char × List Char)
  | '\\' :: 'u' :: '\x7b' :: rest => some (unescapeNumber rest)
  | '\\' :: mark :: rest => (marks.lookup mark).map fun c => (c, rest)
  | '"' :: _ => none
  | c :: rest => some (c, rest)
  | [] => none

lemma unescape_plain {c : Char} (quote : c ≠ '"') (backslash : c ≠ '\\') (rest : List Char) :
    unescape (c :: rest) = some (c, rest) := by
  unfold unescape
  split <;> simp_all

/-- A character can be told from its number. -/
lemma unescape_numbered (c : Char) (rest : List Char) :
    unescape (numbered c ++ rest) = some (c, rest) := by
  have digits : ∀ d ∈ Nat.toDigits 16 c.toNat, (d != '\x7d') = true := by
    intro d mem
    rw [bne_iff_ne]
    rintro rfl
    exact brace_notMem_toDigits _ mem
  have takes : (Nat.toDigits 16 c.toNat ++ '\x7d' :: rest).takeWhile (· != '\x7d') =
      Nat.toDigits 16 c.toNat := by
    rw [List.takeWhile_append_of_pos digits]
    simp
  have drops : (Nat.toDigits 16 c.toNat ++ '\x7d' :: rest).dropWhile (· != '\x7d') =
      '\x7d' :: rest := by
    rw [List.dropWhile_append_of_pos digits]
    simp
  have text : numbered c ++ rest =
      '\\' :: 'u' :: '\x7b' :: (Nat.toDigits 16 c.toNat ++ '\x7d' :: rest) := by
    simp [numbered]
  rw [text, unescape, unescapeNumber, takes, drops, ofHexDigits_toDigits, Char.ofNat_toNat,
    List.tail_cons]

/-- Every character is read back from its written form. -/
lemma unescape_escape (c : Char) (rest : List Char) :
    unescape (escape c ++ rest) = some (c, rest) := by
  unfold escape
  split_ifs with quote backslash
  all_goals try (subst c; rfl)
  · exact unescape_plain quote backslash rest
  · exact unescape_numbered c rest
  · exact unescape_plain quote backslash rest

/-- A character can be told from its written form, whatever is behind it. -/
lemma legible_escape (c d : Char) : Legible escape Eq c d := by
  intro r s eq
  have read := unescape_escape c r
  rw [eq, unescape_escape] at read
  cases read
  exact ⟨rfl, rfl⟩

/-- No written form begins with a quote. -/
lemma escape_append_ne (c : Char) (r s : List Char) : escape c ++ r ≠ '"' :: s := by
  intro eq
  have read := unescape_escape c r
  rw [eq] at read
  cases read

/-! ### Quoted texts -/

/-- A text can be told from its quoted form, whatever is behind it. -/
lemma legible_quoted (s t : String) : Legible (fun s => (quoted s).toList) Eq s t := by
  have content : Legible _ (List.Forall₂ Eq) s.toList t.toList :=
    legible_flatMap (fun c _ d _ => legible_escape c d) escape_append_ne
  intro r r' eq
  simp only [quoted, String.toList_ofList] at eq
  obtain ⟨chars_eq, eq⟩ := content.behind ['"'] r r' eq
  rw [List.forall₂_eq_eq_eq, String.toList_inj] at chars_eq
  exact ⟨chars_eq, eq⟩

lemma quoted_eq_cons (s : String) : ∃ cs, (quoted s).toList = '"' :: cs :=
  ⟨_, String.toList_ofList⟩

end ScopedExpr
