import Mathlib.Tactic.Common

/-!
# The last match in a list

What a loop is left with that goes through a list and keeps each element that it looks for.
-/

namespace LastMatch

variable {α : Type} {p : α → Prop} [DecidablePred p] {l : List α} {a : α}

def lastMatch (p : α → Prop) [DecidablePred p] (l : List α) : Option α :=
  (l.filter fun a => decide (p a)).getLast?

theorem lastMatch_cons :
    lastMatch p (a :: l) = (lastMatch p l).or (if p a then some a else none) := by
  unfold lastMatch
  by_cases ha : p a
  · rw [List.filter_cons, if_pos (decide_eq_true ha), List.getLast?_cons, if_pos ha]
    cases (l.filter fun a => decide (p a)).getLast? <;> rfl
  · rw [List.filter_cons, if_neg (by simpa using ha), if_neg ha, Option.or_none]

theorem lastMatch_some (h : lastMatch p l = some a) : a ∈ l ∧ p a := by
  have hmem := List.mem_of_getLast? h
  rw [List.mem_filter, decide_eq_true_eq] at hmem
  exact hmem

theorem lastMatch_eq_none_iff : lastMatch p l = none ↔ ∀ a ∈ l, ¬ p a := by
  unfold lastMatch
  simp

theorem exists_lastMatch_iff : (∃ a, lastMatch p l = some a) ↔ ∃ a ∈ l, p a := by
  rw [← Option.ne_none_iff_exists', ne_eq, lastMatch_eq_none_iff]
  simp

end LastMatch
