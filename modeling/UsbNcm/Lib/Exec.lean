import Mathlib.Algebra.Group.Nat.Defs
import Mathlib.Tactic.Common

/-!
# Runs that may stop, and `while` loops

A run of a modelled program either returns a value or stops first. A loop is a body and a number
of passes. `Returns` is the same loop with no bound on the passes.
-/

namespace Exec

/-- Why a run ended before the program returned. -/
inductive Stop
  | assertion
  | access
  | fuel
  deriving DecidableEq, Repr

/-- The end of one pass through a loop body: go round again, or leave the loop. -/
inductive Pass (σ ρ : Type)
  | again (s : σ)
  | leave (r : ρ)

theorem bind_eq_ok {α β : Type} {x : Except Stop α} {f : α → Except Stop β} {b : β} :
    (x >>= f) = .ok b ↔ ∃ a, x = .ok a ∧ f a = .ok b := by
  cases x with
  | error e => simp [bind, Except.bind]
  | ok a => simp [bind, Except.bind]

theorem map_eq_ok {α β : Type} {x : Except Stop α} {f : α → β} {b : β} :
    x.map f = .ok b ↔ ∃ a, x = .ok a ∧ f a = b := by
  cases x with
  | error e => simp [Except.map]
  | ok a => simp [Except.map]

@[simp]
theorem ok_bind {α β : Type} (a : α) (f : α → Except Stop β) : (Except.ok a >>= f) = f a := rfl

@[simp]
theorem error_bind {α β : Type} (e : Stop) (f : α → Except Stop β) :
    ((Except.error e : Except Stop α) >>= f) = .error e := rfl

theorem bind_congr_ok {α β : Type} {x : Except Stop α} {f g : α → Except Stop β}
    (h : ∀ a, x = .ok a → f a = g a) : (x >>= f) = (x >>= g) := by
  cases x with
  | error e => rfl
  | ok a => exact h a rfl

/-! ## A run that does no less -/

/-- `y` succeeds wherever `x` does, and then with the same result. -/
def Below {α : Type} (x y : Except Stop α) : Prop := ∀ a, x = .ok a → y = .ok a

theorem Below.refl {α : Type} (x : Except Stop α) : Below x x := fun _ h => h

theorem Below.bind {α β : Type} {x y : Except Stop α} {f g : α → Except Stop β} (h : Below x y)
    (hnext : ∀ a, Below (f a) (g a)) : Below (x >>= f) (y >>= g) := by
  intro b hb
  obtain ⟨a, ha, hb⟩ := bind_eq_ok.mp hb
  exact bind_eq_ok.mpr ⟨a, h a ha, hnext a b hb⟩

theorem Below.ite {α : Type} {c : Prop} [Decidable c] {x x' y y' : Except Stop α} (h : Below x y)
    (h' : Below x' y') : Below (if c then x else x') (if c then y else y') := by
  split
  · exact h
  · exact h'

/-! ## Loops -/

variable {σ ρ : Type} {body : σ → Except Stop (Pass σ ρ)}

/-- A `while (true)` loop that makes at most `fuel` passes. -/
def loop (body : σ → Except Stop (Pass σ ρ)) : Nat → σ → Except Stop ρ
  | 0, _ => .error .fuel
  | fuel + 1, s =>
    match body s with
    | .error e => .error e
    | .ok (.leave r) => .ok r
    | .ok (.again s') => loop body fuel s'

/-- The loop leaves with `r`, after some number of passes. -/
inductive Returns (body : σ → Except Stop (Pass σ ρ)) : σ → ρ → Prop
  | leave {s : σ} {r : ρ} : body s = .ok (.leave r) → Returns body s r
  | again {s s' : σ} {r : ρ} : body s = .ok (.again s') → Returns body s' r → Returns body s r

inductive Reaches (body : σ → Except Stop (Pass σ ρ)) (s : σ) : σ → Prop
  | start : Reaches body s s
  | again {s' s'' : σ} : Reaches body s s' → body s' = .ok (.again s'') → Reaches body s s''

theorem loop_again {s s' : σ} (h : body s = .ok (.again s')) (fuel : Nat) :
    loop body (fuel + 1) s = loop body fuel s' := by
  rw [loop, h]

theorem loop_leave {s : σ} {r : ρ} (h : body s = .ok (.leave r)) (fuel : Nat) :
    loop body (fuel + 1) s = .ok r := by
  rw [loop, h]

theorem loop_error {s : σ} {e : Stop} (h : body s = .error e) (fuel : Nat) :
    loop body (fuel + 1) s = .error e := by
  rw [loop, h]

/-- A loop that returned within `fuel` passes returns the same with more of them. -/
theorem loop_mono {fuel more : Nat} {s : σ} {r : ρ} (h : loop body fuel s = .ok r)
    (hle : fuel ≤ more) : loop body more s = .ok r := by
  induction fuel generalizing more s with
  | zero => cases h
  | succ fuel ih =>
    obtain ⟨m, rfl⟩ : ∃ m, more = m + 1 := ⟨more - 1, by omega⟩
    unfold loop at h ⊢
    split at h
    · cases h
    · exact h
    · exact ih h (by omega)

theorem returns_of_loop {fuel : Nat} {s : σ} {r : ρ} (h : loop body fuel s = .ok r) :
    Returns body s r := by
  induction fuel generalizing s with
  | zero => cases h
  | succ fuel ih =>
    unfold loop at h
    split at h
    · cases h
    · next hb => cases h; exact .leave hb
    · next hb => exact .again hb (ih h)

theorem loop_of_returns {s : σ} {r : ρ} (h : Returns body s r) :
    ∃ fuel, loop body fuel s = .ok r := by
  induction h with
  | leave hb => exact ⟨1, loop_leave hb 0⟩
  | again hb _ ih =>
    obtain ⟨fuel, hf⟩ := ih
    exact ⟨fuel + 1, by rw [loop_again hb, hf]⟩

theorem returns_again_iff {s s' : σ} {r : ρ} (h : body s = .ok (.again s')) :
    Returns body s r ↔ Returns body s' r := by
  constructor
  · intro hreturns
    cases hreturns with
    | leave hbody => rw [h] at hbody; cases hbody
    | again hbody hrest => rw [h] at hbody; cases hbody; exact hrest
  · exact .again h

theorem returns_leave_iff {s : σ} {r r' : ρ} (h : body s = .ok (.leave r)) :
    Returns body s r' ↔ r' = r := by
  constructor
  · intro hreturns
    cases hreturns with
    | leave hbody => rw [h] at hbody; cases hbody; rfl
    | again hbody _ => rw [h] at hbody; cases hbody
  · rintro rfl
    exact .leave h

theorem Returns.unique {s : σ} {r r' : ρ} (h : Returns body s r) (h' : Returns body s r') :
    r = r' := by
  induction h with
  | leave hb => exact ((returns_leave_iff hb).mp h').symm
  | again hb _ ih => exact ih ((returns_again_iff hb).mp h')

/-- Total correctness: the invariant holds at every pass and the measure falls, so the loop leaves,
and what it leaves with is as promised. -/
theorem loop_total (I : σ → Prop) (μ : σ → Nat) (Q : ρ → Prop)
    (step : ∀ s, I s → (∃ r, body s = .ok (.leave r) ∧ Q r) ∨
      ∃ s', body s = .ok (.again s') ∧ I s' ∧ μ s' < μ s)
    {s : σ} (hs : I s) {fuel : Nat} (hf : μ s < fuel) :
    ∃ r, loop body fuel s = .ok r ∧ Q r := by
  induction fuel generalizing s with
  | zero => omega
  | succ fuel ih =>
    rcases step s hs with ⟨r, hb, hq⟩ | ⟨s', hb, hi, hlt⟩
    · exact ⟨r, loop_leave hb fuel, hq⟩
    · rw [loop_again hb]
      exact ih hi (by omega)

/-- A loop whose body goes round again from every state of `I` never leaves. -/
theorem not_returns_of_again (I : σ → Prop)
    (step : ∀ s, I s → ∃ s', body s = .ok (.again s') ∧ I s') {s : σ} {r : ρ} (hs : I s) :
    ¬ Returns body s r := by
  intro h
  induction h with
  | leave hb =>
    obtain ⟨s', hb', -⟩ := step _ hs
    rw [hb] at hb'; cases hb'
  | again hb _ ih =>
    obtain ⟨s', hb', hi⟩ := step _ hs
    rw [hb] at hb'; cases hb'
    exact ih hi

end Exec
