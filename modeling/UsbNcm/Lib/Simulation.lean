import UsbNcm.Lib.Exec

/-!
# Simulation

Two programs that stop together, or go on together to related values. A relation that one step of a
machine keeps is kept by its runs.
-/

namespace Exec

variable {α α' β β' σ τ ε : Type}

/-- Both stop in the same way, or both go on and lead to related values. -/
inductive Agree (R : α → β → Prop) : Except Stop α → Except Stop β → Prop
  | stop (e : Stop) : Agree R (.error e) (.error e)
  | ok {a : α} {b : β} (h : R a b) : Agree R (.ok a) (.ok b)

theorem Agree.bind {R : α → β → Prop} {R' : α' → β' → Prop} {x : Except Stop α} {y : Except Stop β}
    {f : α → Except Stop α'} {g : β → Except Stop β'} (h : Agree R x y)
    (hnext : ∀ a b, R a b → Agree R' (f a) (g b)) : Agree R' (x >>= f) (y >>= g) := by
  cases h with
  | stop e => exact .stop e
  | ok hab => exact hnext _ _ hab

theorem Agree.ite {R : α → β → Prop} {c c' : Prop} [Decidable c] [Decidable c']
    {x x' : Except Stop α} {y y' : Except Stop β} (hc : c ↔ c') (h : c → Agree R x y)
    (h' : ¬ c → Agree R x' y') : Agree R (if c then x else x') (if c' then y else y') := by
  by_cases hcond : c
  · rw [if_pos hcond, if_pos (hc.mp hcond)]
    exact h hcond
  · rw [if_neg hcond, if_neg fun hc' => hcond (hc.mpr hc')]
    exact h' hcond

theorem Agree.ok_left {R : α → β → Prop} {x : Except Stop α} {y : Except Stop β} {a : α}
    (h : Agree R x y) (hx : x = .ok a) : ∃ b, y = .ok b ∧ R a b := by
  cases h with
  | stop e => cases hx
  | ok hab =>
    cases hx
    exact ⟨_, rfl, hab⟩

theorem Agree.ok_right {R : α → β → Prop} {x : Except Stop α} {y : Except Stop β} {b : β}
    (h : Agree R x y) (hy : y = .ok b) : ∃ a, x = .ok a ∧ R a b := by
  cases h with
  | stop e => cases hy
  | ok hab =>
    cases hy
    exact ⟨_, rfl, hab⟩

theorem Agree.error_left {R : α → β → Prop} {x : Except Stop α} {y : Except Stop β} {e : Stop}
    (h : Agree R x y) (hx : x = .error e) : y = .error e := by
  cases h with
  | stop e' =>
    cases hx
    rfl
  | ok hab => cases hx

/-- Two programs that a third one simulates. -/
theorem Agree.join {γ : Type} {R : α → γ → Prop} {R' : β → γ → Prop} {Q : α → β → Prop}
    {x : Except Stop α} {y : Except Stop β} {z : Except Stop γ} (h : Agree R x z) (h' : Agree R' y z)
    (hjoin : ∀ a b c, R a c → R' b c → Q a b) : Agree Q x y := by
  cases h with
  | stop e =>
    cases h'
    exact .stop e
  | ok hac =>
    cases h' with
    | ok hbc => exact .ok (hjoin _ _ _ hac hbc)

/-- A simulation of the steps is one of the runs. -/
theorem Agree.run {R : σ → τ → Prop} {step : σ → ε → Except Stop σ} {step' : τ → ε → Except Stop τ}
    (hstep : ∀ s t e, R s t → Agree R (step s e) (step' t e)) {s : σ} {t : τ} (h : R s t)
    (es : List ε) : Agree R (es.foldlM step s) (es.foldlM step' t) := by
  induction es generalizing s t with
  | nil => exact .ok h
  | cons e es ih =>
    rw [List.foldlM_cons, List.foldlM_cons]
    exact (hstep s t e h).bind fun _ _ hnext => ih hnext

end Exec
