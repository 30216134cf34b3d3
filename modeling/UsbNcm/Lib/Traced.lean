import UsbNcm.Lib.Exec

/-!
# Runs that leave events

A run with the events it left, in order, up to where it ended. Taking the events away gives back the
plain run.
-/

namespace Exec

structure Traced (ε α : Type) where
  events : List ε
  result : Except Stop α

namespace Traced

variable {ε α β : Type}

instance : Monad (Traced ε) where
  pure a := ⟨[], .ok a⟩
  bind x f :=
    match x.result with
    | .error e => ⟨x.events, .error e⟩
    | .ok a => ⟨x.events ++ (f a).events, (f a).result⟩

def emit (e : ε) : Traced ε Unit := ⟨[e], .ok ()⟩

/-- A plain run, as one without events. -/
def quiet (x : Except Stop α) : Traced ε α := ⟨[], x⟩

/-! ## Without the events -/

@[simp]
theorem pure_result (a : α) : (pure a : Traced ε α).result = .ok a := rfl

@[simp]
theorem emit_result (e : ε) : (emit e).result = .ok () := rfl

@[simp]
theorem quiet_result (x : Except Stop α) : (quiet x : Traced ε α).result = x := rfl

@[simp]
theorem bind_result (x : Traced ε α) (f : α → Traced ε β) :
    (x >>= f).result = x.result >>= fun a => (f a).result := by
  obtain ⟨events, result⟩ := x
  cases result with
  | error e => rfl
  | ok a => rfl

@[simp]
theorem ite_result {c : Prop} [Decidable c] (x y : Traced ε α) :
    (if c then x else y).result = if c then x.result else y.result := by
  split <;> rfl

/-- Steps that only leave events besides make the same run. -/
theorem foldlM_result {σ ι : Type} {step : σ → ι → Except Stop σ} {traced : σ → ι → Traced ε σ}
    (h : ∀ s i, (traced s i).result = step s i) (s : σ) (is : List ι) :
    (is.foldlM traced s).result = is.foldlM step s := by
  induction is generalizing s with
  | nil => rfl
  | cons i is ih =>
    rw [List.foldlM_cons, List.foldlM_cons, bind_result, h]
    exact bind_congr_ok fun s' _ => ih s'

/-! ## What holds of every event -/

/-- Every event the run leaves satisfies `P`. -/
def All (P : ε → Prop) (x : Traced ε α) : Prop := ∀ e ∈ x.events, P e

variable {P : ε → Prop}

@[simp]
theorem all_pure (a : α) : All P (pure a : Traced ε α) := by
  intro e he
  cases he

@[simp]
theorem all_quiet (x : Except Stop α) : All P (quiet x : Traced ε α) := by
  intro e he
  cases he

@[simp]
theorem all_emit (e : ε) : All P (emit e) ↔ P e := by simp [All, emit]

/-- The events of two runs in a row are those of the first, and those of the second where the first
returns. -/
theorem all_bind (x : Traced ε α) (f : α → Traced ε β) :
    All P (x >>= f) ↔ All P x ∧ ∀ a, x.result = .ok a → All P (f a) := by
  obtain ⟨events, result⟩ := x
  cases result with
  | error e => simp [All, bind]
  | ok a => simp [All, bind, or_imp, forall_and]

theorem all_bind_left {x : Traced ε α} {f : α → Traced ε β} (hf : ∀ a, All P (f a)) :
    All P (x >>= f) ↔ All P x := by
  rw [all_bind]
  exact and_iff_left fun a _ => hf a

@[simp]
theorem all_emit_bind (e : ε) (f : Unit → Traced ε β) :
    All P (emit e >>= f) ↔ P e ∧ All P (f ()) := by
  rw [all_bind, all_emit]
  exact and_congr_right fun _ => ⟨fun h => h () rfl, fun h _ _ => h⟩

@[simp]
theorem all_quiet_bind (x : Except Stop α) (f : α → Traced ε β) :
    All P (quiet x >>= f) ↔ ∀ a, x = .ok a → All P (f a) := by
  simp [all_bind]

theorem all_ite {c : Prop} [Decidable c] {x y : Traced ε α} :
    All P (if c then x else y) ↔ (c → All P x) ∧ (¬ c → All P y) := by
  split <;> simp [*]

/-- Where the invariant makes every event of a step satisfy `P`, it makes those of a run. -/
theorem all_foldlM {σ ι : Type} {traced : σ → ι → Traced ε σ} {I : σ → Prop}
    (hstep : ∀ s i, I s → All P (traced s i))
    (hkeep : ∀ s i s', I s → (traced s i).result = .ok s' → I s') {s : σ} (hs : I s) (is : List ι) :
    All P (is.foldlM traced s) := by
  induction is generalizing s with
  | nil => exact all_pure s
  | cons i is ih =>
    rw [List.foldlM_cons, all_bind]
    exact ⟨hstep s i hs, fun s' hs' => ih (hkeep s i s' hs hs')⟩

end Traced

end Exec
