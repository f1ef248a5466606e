import Mathlib.Data.List.Forall2
import Mathlib.Tactic.Common

/-!
# Legible texts

What a text stands for can be read off it, whatever is written behind, if the texts of different
things differ at a place that both of them have. So it is with a text and an end mark that does not
occur in it, and with a list of such texts and an end mark with which none of them begins.
-/

namespace ScopedExpr

variable {α : Type} {text : α → List Char} {R : α → α → Prop} {a b : α} {stop : Char}

/--
Whether two things are related if their texts agree as far as they go; then what is written behind
the one must be what is written behind the other.
-/
def Legible (text : α → List Char) (R : α → α → Prop) (a b : α) : Prop :=
  ∀ r s, text a ++ r = text b ++ s → R a b ∧ r = s

namespace Legible

lemma related (legible : Legible text R a b) (eq : text a = text b) : R a b :=
  (legible [] [] (by rw [eq])).1

/-- The same text in front makes no difference. -/
lemma behind (front : List Char) (legible : Legible text R a b) :
    Legible (fun a => front ++ text a) R a b := by
  intro r s eq
  rw [List.append_assoc, List.append_assoc] at eq
  exact legible r s (List.append_cancel_left eq)

end Legible

/-- Up to the first end mark two texts are the same if they go on in the same way. -/
lemma append_stop_inj {xs ys r s : List Char} (absent : stop ∉ xs) (absent' : stop ∉ ys)
    (eq : xs ++ stop :: r = ys ++ stop :: s) : xs = ys ∧ r = s := by
  induction xs generalizing ys with
  | nil =>
    cases ys with
    | nil => exact ⟨rfl, List.tail_eq_of_cons_eq eq⟩
    | cons y ys => exact absurd (List.head_eq_of_cons_eq eq ▸ List.mem_cons_self) absent'
  | cons x xs ih =>
    cases ys with
    | nil => exact absurd (List.head_eq_of_cons_eq eq ▸ List.mem_cons_self) absent
    | cons y ys =>
      obtain ⟨rfl, tail_eq⟩ := List.cons_eq_cons.mp eq
      obtain ⟨rfl, rest_eq⟩ := ih (List.not_mem_of_not_mem_cons absent)
        (List.not_mem_of_not_mem_cons absent') tail_eq
      exact ⟨rfl, rest_eq⟩

/-- A text is legible with an end mark that does not occur in it. -/
lemma legible_stop (apart : text a = text b → R a b) (absent : stop ∉ text a)
    (absent' : stop ∉ text b) : Legible (fun a => text a ++ [stop]) R a b := by
  intro r s eq
  rw [List.append_assoc, List.append_assoc] at eq
  exact (append_stop_inj absent absent' eq).imp_left apart

/-- A list of legible texts is legible with an end mark with which none of them begins. -/
lemma legible_flatMap {as bs : List α} (each : ∀ a ∈ as, ∀ b ∈ bs, Legible text R a b)
    (begins : ∀ a r s, text a ++ r ≠ stop :: s) :
    Legible (fun as => as.flatMap text ++ [stop]) (List.Forall₂ R) as bs := by
  intro r s eq
  induction as generalizing bs with
  | nil =>
    cases bs with
    | nil => exact ⟨.nil, List.tail_eq_of_cons_eq eq⟩
    | cons b bs =>
      simp only [List.flatMap_cons, List.append_assoc] at eq
      exact absurd eq.symm (begins b _ _)
  | cons a as ih =>
    cases bs with
    | nil =>
      simp only [List.flatMap_cons, List.append_assoc] at eq
      exact absurd eq (begins a _ _)
    | cons b bs =>
      simp only [List.flatMap_cons, List.append_assoc] at eq
      obtain ⟨related, eq⟩ := each a List.mem_cons_self b List.mem_cons_self _ _ eq
      obtain ⟨related', eq⟩ := ih (fun a mem b mem' => each a (.tail _ mem) b (.tail _ mem'))
        (by simpa only [List.append_assoc] using eq)
      exact ⟨.cons related related', eq⟩

end ScopedExpr
