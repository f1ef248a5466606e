import Mathlib.Data.List.Forall2
import ScopedExpr.Text.Lowercase

/-!
# What case conditions see

Whether a sigma ends a word depends on which characters around it are cased, and on which ones are
looked past. Two characters of the same lower case are alike in this: a capital and its small letter
are both cased, and neither is looked past. So the words of a text end where they end in any other
text of the same letters.
-/

namespace ScopedExpr

/-! ### Classes as numbers -/

/-- The number whose binary digits at the places of the members are one. -/
def CodeRanges.digits (ranges : CodeRanges) : Nat :=
  ranges.foldr (fun r n => (1 <<< (r.2 + 1 - r.1) - 1) <<< r.1 ||| n) 0

/-- A character is a member exactly if the digit at its place is one. -/
lemma CodeRanges.testBit_digits (ranges : CodeRanges) (c : Char) :
    ranges.digits.testBit c.toNat = ranges.contains c := by
  induction ranges with
  | nil => exact Nat.zero_testBit _
  | cons r ranges ih =>
    have first : ((1 <<< (r.2 + 1 - r.1) - 1) <<< r.1).testBit c.toNat =
        (decide (r.1 ≤ c.toNat) && decide (c.toNat ≤ r.2)) := by
      rw [Nat.testBit_shiftLeft, Nat.one_shiftLeft, Nat.testBit_two_pow_sub_one, Bool.eq_iff_iff]
      simp only [Bool.and_eq_true, decide_eq_true_eq]
      omega
    rw [CodeRanges.digits, List.foldr_cons, Nat.testBit_or, first, ← CodeRanges.digits, ih]
    rfl

/-! ### Letters -/

/-- Whether a character is cased and is not looked past. -/
def IsLetter (c : Char) : Prop :=
  casedRanges.contains c = true ∧ caseIgnorableRanges.contains c = false

def isLetterCode (code : Nat) : Bool :=
  casedRanges.digits.testBit code && !caseIgnorableRanges.digits.testBit code

lemma isLetterCode_iff {c : Char} : isLetterCode c.toNat = true ↔ IsLetter c := by
  rw [isLetterCode, CodeRanges.testBit_digits, CodeRanges.testBit_digits, IsLetter,
    Bool.and_eq_true, Bool.not_eq_true']

/-- Whether all capitals of a run and their small letters are letters. -/
def CaseRun.areLetters (r : CaseRun) : Bool :=
  (List.range ((r.last - r.first) / r.step + 1)).all fun i =>
    isLetterCode (r.first + r.step * i) && isLetterCode (r.image + r.step * i) &&
      decide (r.image + r.step * i).isValidChar

/-- All characters in the table of capitals are letters. -/
lemma CaseRun.areLetters_of_mem : ∀ r ∈ capitalRuns, r.areLetters = true := by
  rw [← List.all_eq_true]
  decide +kernel

/-- A capital in a run, and its small letter, are equally many steps behind the first ones. -/
lemma CaseRun.exists_of_small? {r : CaseRun} {code small : Nat}
    (found : r.small? code = some small) :
    ∃ i < (r.last - r.first) / r.step + 1,
      code = r.first + r.step * i ∧ small = r.image + r.step * i := by
  rw [CaseRun.small?] at found
  split at found
  case isTrue inside =>
    obtain ⟨first_le, le_last, divides⟩ := inside
    have multiple := Nat.mul_div_cancel' (Nat.dvd_of_mod_eq_zero divides)
    have le : (code - r.first) / r.step ≤ (r.last - r.first) / r.step :=
      Nat.div_le_div_right (by omega)
    refine ⟨(code - r.first) / r.step, by omega, by omega, ?_⟩
    rw [multiple, ← Option.some.inj found]
  case isFalse => cases found

/-! ### Characters that are alike -/

/-- Whether case conditions see no difference between two characters. -/
def Alike (c d : Char) : Prop :=
  caseIgnorableRanges.contains c = caseIgnorableRanges.contains d ∧
    casedRanges.contains c = casedRanges.contains d

lemma Alike.symm {c d : Char} (alike : Alike c d) : Alike d c := ⟨alike.1.symm, alike.2.symm⟩

lemma Alike.trans {c d e : Char} (alike : Alike c d) (alike' : Alike d e) : Alike c e :=
  ⟨alike.1.trans alike'.1, alike.2.trans alike'.2⟩

/-- To case conditions one letter is like another. -/
lemma IsLetter.alike {c d : Char} (letter : IsLetter c) (letter' : IsLetter d) : Alike c d :=
  ⟨letter.2.trans letter'.2.symm, letter.1.trans letter'.1.symm⟩

/-- The capital I with a dot is the only character whose lower case is not one character. -/
lemma length_smallLetters (c : Char) : (smallLetters c).length = 1 ↔ c ≠ 'İ' := by
  rw [smallLetters]
  split
  case isTrue dotted => simp [dotted]
  case isFalse other => simp [other]

/-- Any other character is its own lower case, or both are letters. -/
lemma exists_smallLetters_alike {c : Char} (other : c ≠ 'İ') :
    ∃ d, smallLetters c = [d] ∧ Alike c d := by
  rw [smallLetters, if_neg other]
  cases found : capitalRuns.findSome? (·.small? c.toNat) with
  | none => exact ⟨c, rfl, rfl, rfl⟩
  | some small =>
    obtain ⟨r, mem, found⟩ := List.exists_of_findSome?_eq_some found
    obtain ⟨i, lt, code_eq, small_eq⟩ := CaseRun.exists_of_small? found
    have letters := CaseRun.areLetters_of_mem r mem
    rw [CaseRun.areLetters, List.all_eq_true] at letters
    have letter := letters i (List.mem_range.mpr lt)
    rw [← code_eq, ← small_eq, Bool.and_eq_true, Bool.and_eq_true, decide_eq_true_eq] at letter
    obtain ⟨⟨capital, image⟩, valid⟩ := letter
    have small_toNat : (Char.ofNat small).toNat = small := by
      rw [Char.ofNat, dif_pos valid]
      rfl
    rw [← small_toNat] at image
    exact ⟨Char.ofNat small, rfl, (isLetterCode_iff.mp capital).alike (isLetterCode_iff.mp image)⟩

lemma alike_of_smallLetters_eq {c d : Char} (same : smallLetters c = smallLetters d) :
    Alike c d := by
  have dotted_iff : c ≠ 'İ' ↔ d ≠ 'İ' := by
    rw [← length_smallLetters, same, length_smallLetters]
  by_cases dotted : c = 'İ'
  · have dotted' : d = 'İ' := by
      by_contra other
      exact dotted_iff.mpr other dotted
    rw [dotted, dotted']
    exact ⟨rfl, rfl⟩
  · obtain ⟨x, image, alike⟩ := exists_smallLetters_alike dotted
    obtain ⟨y, image', alike'⟩ := exists_smallLetters_alike (dotted_iff.mp dotted)
    obtain rfl : x = y := by simpa [image, image'] using same
    exact alike.trans alike'.symm

/-- What is looked past, and what decides, is at the same places in texts that are alike. -/
lemma startsCased_eq {cs ds : List Char} (alike : List.Forall₂ Alike cs ds) :
    startsCased cs = startsCased ds := by
  induction alike with
  | nil => rfl
  | @cons c d cs ds head _ ih =>
    rw [startsCased, startsCased, List.dropWhile_cons, List.dropWhile_cons, ← head.1]
    cases caseIgnorableRanges.contains c with
    | true => exact ih
    | false => exact head.2

/-- Whether a sigma ends a word does not change if characters around it give way to like ones. -/
lemma endsWord_eq {before before' after after' : List Char}
    (alike : List.Forall₂ Alike before before') (alike' : List.Forall₂ Alike after after') :
    endsWord before after = endsWord before' after' := by
  rw [endsWord, endsWord, startsCased_eq alike, startsCased_eq alike']

end ScopedExpr
