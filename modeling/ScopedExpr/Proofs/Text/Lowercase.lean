import ScopedExpr.Proofs.Text.CaseConditions

/-!
# Lower case, letter by letter

The lower case of a text is put together from the lower cases of its characters, but for the capital
sigmas that end a word. So two texts that agree letter by letter, and differ in case only, have the
same lower case if and only if these sigmas stand at the same places.
-/

namespace ScopedExpr

/-- Whether two texts have as many characters, and these have the same lower cases by themselves. -/
def SameLetters (n m : String) : Prop :=
  List.Forall₂ (fun c d => smallLetters c = smallLetters d) n.toList m.toList

instance (n m : String) : Decidable (SameLetters n m) :=
  inferInstanceAs (Decidable (List.Forall₂ _ _ _))

/-! ### Sigmas at the end of a word -/

/--
Whether a character between `before`, last one first, and `after` is a sigma that ends a word.
-/
def finalSigma (before : List Char) (c : Char) (after : List Char) : Bool :=
  c = 'Σ' && endsWord before after

/-- Whether each of the characters behind `before` is a capital sigma that ends a word. -/
def finalSigmasAfter (before : List Char) : List Char → List Bool
  | [] => []
  | c :: after => finalSigma before c after :: finalSigmasAfter (c :: before) after

def finalSigmas (s : String) : List Bool := finalSigmasAfter [] s.toList

/-- No other character than a capital sigma is taken for one that ends a word. -/
lemma eq_sigma_of_finalSigma (before : List Char) (c : Char) (after : List Char)
    (final : finalSigma before c after = true) : c = 'Σ' := by
  rw [finalSigma, Bool.and_eq_true, decide_eq_true_eq] at final
  exact final.1

/-- A word ends at the same places in texts that are alike. -/
lemma finalSigmasAfter_eq {before before' cs ds : List Char}
    (behind : List.Forall₂ Alike before before') (ahead : List.Forall₂ Alike cs ds)
    (sigmas : List.Forall₂ (fun c d => c = 'Σ' ↔ d = 'Σ') cs ds) :
    finalSigmasAfter before cs = finalSigmasAfter before' ds := by
  induction ahead generalizing before before' with
  | nil => rfl
  | cons alike ahead ih =>
    cases sigmas with
    | cons sigma sigmas =>
      rw [finalSigmasAfter, finalSigmasAfter, finalSigma, finalSigma, endsWord_eq behind ahead,
        decide_eq_decide.mpr sigma, ih (.cons alike behind) sigmas]

/-! ### Letter by letter -/

/-- The lower case of a character by itself, or of a sigma that ends a word. -/
def smallLettersIn (c : Char) (final : Bool) : List Char :=
  if final then ['ς'] else smallLetters c

lemma smallLetters_sigma : smallLetters 'Σ' = ['σ'] := by decide +kernel

lemma lowercaseAfter_cons (before after : List Char) (c : Char) :
    lowercaseAfter before (c :: after) =
      smallLettersIn c (finalSigma before c after) ++ lowercaseAfter (c :: before) after := by
  rw [lowercaseAfter, smallLettersIn, finalSigma]
  congr 1
  by_cases sigma : c = 'Σ'
  · subst sigma
    cases endsWord before after <;> simp [smallLetters_sigma]
  · simp [sigma]

/-- At the end of a word a character has as many small letters as elsewhere. -/
lemma length_smallLettersIn {c : Char} {final : Bool} (sigma : final = true → c = 'Σ') :
    (smallLettersIn c final).length = (smallLetters c).length := by
  cases final with
  | false => rfl
  | true =>
    rw [sigma rfl, smallLetters_sigma]
    rfl

/-- The lower case of the capital sigma at the end of a word is unlike the one elsewhere. -/
lemma smallLettersIn_eq_iff {c d : Char} (same : smallLetters c = smallLetters d) {x y : Bool}
    (sigma : x = true → c = 'Σ') (sigma' : y = true → d = 'Σ') :
    smallLettersIn c x = smallLettersIn d y ↔ x = y := by
  have apart : smallLetters 'Σ' ≠ ['ς'] := by
    rw [smallLetters_sigma]
    decide
  cases x with
  | false =>
    cases y with
    | false => simp [smallLettersIn, same]
    | true => simpa [smallLettersIn, same, sigma' rfl] using apart
  | true =>
    cases y with
    | false => simpa [smallLettersIn, ← same, sigma rfl] using apart.symm
    | true => simp [smallLettersIn]

/-- What is before the texts decides about their sigmas only. -/
lemma lowercaseAfter_eq_iff {cs ds : List Char}
    (same : List.Forall₂ (fun c d => smallLetters c = smallLetters d) cs ds)
    (before before' : List Char) :
    lowercaseAfter before cs = lowercaseAfter before' ds ↔
      finalSigmasAfter before cs = finalSigmasAfter before' ds := by
  induction same generalizing before before' with
  | nil => exact iff_of_true rfl rfl
  | @cons c d cs ds same _ ih =>
    have length_eq : (smallLettersIn c (finalSigma before c cs)).length =
        (smallLettersIn d (finalSigma before' d ds)).length := by
      rw [length_smallLettersIn (eq_sigma_of_finalSigma before c cs),
        length_smallLettersIn (eq_sigma_of_finalSigma before' d ds), same]
    have first := smallLettersIn_eq_iff same (eq_sigma_of_finalSigma before c cs)
      (eq_sigma_of_finalSigma before' d ds)
    have rest := ih (c :: before) (d :: before')
    rw [lowercaseAfter_cons, lowercaseAfter_cons, finalSigmasAfter, finalSigmasAfter,
      List.cons.injEq, ← first, ← rest]
    constructor
    · intro eq
      exact List.append_inj eq length_eq
    · rintro ⟨first_eq, rest_eq⟩
      rw [first_eq, rest_eq]

/--
Two texts of the same letters have the same lower case if and only if the capital sigmas that end a
word stand at the same places in both.
-/
lemma SameLetters.lowercase_eq_iff {n m : String} (same : SameLetters n m) :
    lowercase n = lowercase m ↔ finalSigmas n = finalSigmas m := by
  rw [lowercase, lowercase, String.ofList_inj]
  exact lowercaseAfter_eq_iff same [] []

/-- This is so if all capital sigmas stand at the same places, whatever other letters there are. -/
lemma SameLetters.finalSigmas_eq {n m : String} (same : SameLetters n m)
    (sigmas : List.Forall₂ (fun c d => c = 'Σ' ↔ d = 'Σ') n.toList m.toList) :
    finalSigmas n = finalSigmas m :=
  finalSigmasAfter_eq .nil (same.imp fun _ _ => alike_of_smallLetters_eq) sigmas

end ScopedExpr
