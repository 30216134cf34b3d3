import Mathlib.Data.List.Basic

/-!
# A queue of items that are judged one by one

Items come in behind the others. The first of them is judged by the test that is set at that time, and
is passed on or dropped. When an item is judged is left open.
-/

structure Sieve (α : Type) where
  wants : α → Bool
  waiting : List α
  passed : List α

inductive SieveStep (α : Type)
  | arrive (items : List α)
  | set (wants : α → Bool)
  | judge

variable {α : Type}

/-- What comes from outside. -/
def SieveStep.isInput : SieveStep α → Bool
  | .arrive _ => true
  | .set _ => true
  | .judge => false

def SieveStep.items : SieveStep α → List α
  | .arrive items => items
  | .set _ => []
  | .judge => []

namespace Sieve

def step (s : Sieve α) : SieveStep α → Sieve α
  | .arrive items => { s with waiting := s.waiting ++ items }
  | .set wants => { s with wants := wants }
  | .judge =>
    match s.waiting with
    | [] => s
    | a :: rest =>
      { s with waiting := rest, passed := if s.wants a then s.passed ++ [a] else s.passed }

theorem judge_cons (s : Sieve α) {a : α} {rest : List α} (h : s.waiting = a :: rest) :
    s.step .judge =
      { s with waiting := rest, passed := if s.wants a then s.passed ++ [a] else s.passed } := by
  unfold step
  rw [h]

/-- What has been passed on, and what waits and meets the test. -/
def kept (test : α → Bool) (s : Sieve α) : List α := s.passed ++ s.waiting.filter test

/-- The steps set only tests between these two, and so does the state. -/
structure Between (low high : α → Bool) (s : Sieve α) (steps : List (SieveStep α)) : Prop where
  low_le : ∀ a, low a = true → s.wants a = true
  le_high : ∀ a, s.wants a = true → high a = true
  low_le_set : ∀ wants, SieveStep.set wants ∈ steps → ∀ a, low a = true → wants a = true
  set_le_high : ∀ wants, SieveStep.set wants ∈ steps → ∀ a, wants a = true → high a = true

variable {low high test : α → Bool} {s : Sieve α} {e : SieveStep α} {steps : List (SieveStep α)}

/-- There is one test all the time. -/
theorem between_fixed (h : ∀ wants, SieveStep.set wants ∈ steps → wants = s.wants) :
    Between s.wants s.wants s steps :=
  ⟨fun _ ha => ha, fun _ ha => ha, fun wants hmem a ha => by rw [h wants hmem]; exact ha,
    fun wants hmem a ha => by rw [← h wants hmem]; exact ha⟩

/-- Only the inputs count for it. -/
theorem Between.of_inputs (h : Between low high s (steps.filter SieveStep.isInput)) :
    Between low high s steps :=
  ⟨h.low_le, h.le_high, fun wants hmem => h.low_le_set wants (List.mem_filter.mpr ⟨hmem, rfl⟩),
    fun wants hmem => h.set_le_high wants (List.mem_filter.mpr ⟨hmem, rfl⟩)⟩

theorem items_inputs (steps : List (SieveStep α)) :
    (steps.filter SieveStep.isInput).flatMap SieveStep.items = steps.flatMap SieveStep.items := by
  induction steps with
  | nil => rfl
  | cons e steps ih =>
    rw [List.flatMap_cons, ← ih]
    cases e <;> rfl

theorem kept_arrive (items : List α) :
    (s.step (.arrive items)).kept test = s.kept test ++ items.filter test := by
  unfold kept step
  dsimp only
  rw [List.filter_append, List.append_assoc]

theorem Between.step (h : Between low high s (e :: steps)) : Between low high (s.step e) steps := by
  have hlow := fun wants hmem => h.low_le_set wants (List.mem_cons_of_mem e hmem)
  have hhigh := fun wants hmem => h.set_le_high wants (List.mem_cons_of_mem e hmem)
  cases e with
  | arrive items => exact ⟨h.low_le, h.le_high, hlow, hhigh⟩
  | set wants =>
    exact ⟨h.low_le_set wants List.mem_cons_self, h.set_le_high wants List.mem_cons_self, hlow, hhigh⟩
  | judge =>
    unfold Sieve.step
    dsimp only
    split <;> exact ⟨h.low_le, h.le_high, hlow, hhigh⟩

/-- What every test wants stays, as it has been passed on or is still to come. -/
theorem Between.low_step (h : Between low high s (e :: steps)) :
    (s.kept low ++ e.items.filter low).Sublist ((s.step e).kept low) := by
  cases e with
  | arrive items => rw [kept_arrive, SieveStep.items]
  | set wants => rw [SieveStep.items, List.filter_nil, List.append_nil]; rfl
  | judge =>
    rw [SieveStep.items, List.filter_nil, List.append_nil]
    cases hwaiting : s.waiting with
    | nil => simp [Sieve.step, hwaiting]
    | cons a rest =>
      rw [s.judge_cons hwaiting]
      unfold kept
      dsimp only
      rw [hwaiting]
      by_cases hlow : low a = true
      · rw [List.filter_cons_of_pos hlow, if_pos (h.low_le a hlow), List.append_assoc]
        rfl
      · rw [List.filter_cons_of_neg hlow]
        refine List.Sublist.append ?_ (List.Sublist.refl _)
        split
        · exact List.sublist_append_left _ _
        · exact List.Sublist.refl _

/-- Nothing is passed on that no test wants. -/
theorem Between.high_step (h : Between low high s (e :: steps)) :
    ((s.step e).kept high).Sublist (s.kept high ++ e.items.filter high) := by
  cases e with
  | arrive items => rw [kept_arrive, SieveStep.items]
  | set wants => rw [SieveStep.items, List.filter_nil, List.append_nil]; rfl
  | judge =>
    rw [SieveStep.items, List.filter_nil, List.append_nil]
    cases hwaiting : s.waiting with
    | nil => simp [Sieve.step, hwaiting]
    | cons a rest =>
      rw [s.judge_cons hwaiting]
      unfold kept
      dsimp only
      rw [hwaiting]
      split
      next hwants =>
        rw [List.filter_cons_of_pos (h.le_high a hwants), List.append_assoc]
        rfl
      next => exact (List.Sublist.refl _).append ((List.sublist_cons_self a rest).filter _)

theorem Between.run (h : Between low high s steps) :
    (s.kept low ++ (steps.flatMap SieveStep.items).filter low).Sublist
        ((steps.foldl Sieve.step s).kept low) ∧
      ((steps.foldl Sieve.step s).kept high).Sublist
        (s.kept high ++ (steps.flatMap SieveStep.items).filter high) := by
  induction steps generalizing s with
  | nil => simp
  | cons e steps ih =>
    obtain ⟨hlow, hhigh⟩ := ih h.step
    have hfirst := h.low_step.append (List.Sublist.refl ((steps.flatMap SieveStep.items).filter low))
    have hlast := h.high_step.append (List.Sublist.refl ((steps.flatMap SieveStep.items).filter high))
    rw [List.append_assoc, ← List.filter_append, ← List.flatMap_cons] at hfirst hlast
    exact ⟨hfirst.trans hlow, hhigh.trans hlast⟩

end Sieve
