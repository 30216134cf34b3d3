import UsbNcm.Lib.Exec

/-!
# Runs of a machine

A machine has a step function that may stop. A run is a list of events. What holds of every step is
said either about the state and the event before it, or about the step with the state it leads to.
-/

namespace Exec

variable {σ ε : Type} {step : σ → ε → Except Stop σ}

/-- Every event comes in a state in which it meets `P`, as far as the run goes. -/
def AllSteps (step : σ → ε → Except Stop σ) (P : σ → ε → Prop) : σ → List ε → Prop
  | _, [] => True
  | s, e :: es => P s e ∧ ∀ s', step s e = .ok s' → AllSteps step P s' es

/-- The run does not stop, and every step of it is one of `T`. -/
def Throughout (step : σ → ε → Except Stop σ) (T : σ → ε → σ → Prop) : σ → List ε → Prop
  | _, [] => True
  | s, e :: es => ∃ s', step s e = .ok s' ∧ T s e s' ∧ Throughout step T s' es

/-- The state, and every state that the run reaches from it, is one of `I`. -/
def Always (step : σ → ε → Except Stop σ) (I : σ → Prop) : σ → List ε → Prop
  | s, [] => I s
  | s, e :: es => I s ∧ ∀ s', step s e = .ok s' → Always step I s' es

theorem AllSteps.cons {P : σ → ε → Prop} {s s' : σ} {e : ε} {es : List ε} (hp : P s e)
    (hs : step s e = .ok s') (h : AllSteps step P s' es) : AllSteps step P s (e :: es) := by
  refine ⟨hp, fun s'' hs'' => ?_⟩
  rw [hs] at hs''
  cases hs''
  exact h

theorem AllSteps.single {P : σ → ε → Prop} {s : σ} {e : ε} (hp : P s e) : AllSteps step P s [e] :=
  ⟨hp, fun _ _ => trivial⟩

theorem allSteps_of_forall {P : σ → ε → Prop} (h : ∀ s e, P s e) (s : σ) (es : List ε) :
    AllSteps step P s es := by
  induction es generalizing s with
  | nil => trivial
  | cons e es ih => exact ⟨h s e, fun s' _ => ih s'⟩

theorem Throughout.runs {T : σ → ε → σ → Prop} {s : σ} {es : List ε} (h : Throughout step T s es) :
    ∃ s', es.foldlM step s = .ok s' := by
  induction es generalizing s with
  | nil => exact ⟨s, rfl⟩
  | cons e es ih =>
    obtain ⟨s', hs', -, hrest⟩ := h
    rw [List.foldlM_cons, hs', ok_bind]
    exact ih hrest

/-- Where the invariant makes `P` the condition for a step of `T`, it is so for runs. -/
theorem throughout_iff (I : σ → Prop) (A P : σ → ε → Prop) (T : σ → ε → σ → Prop)
    (hstep : ∀ s e, I s → A s e → (P s e ↔ ∃ s', step s e = .ok s' ∧ T s e s'))
    (hkeep : ∀ s e s', I s → A s e → step s e = .ok s' → T s e s' → I s') {s : σ} {es : List ε}
    (hs : I s) (hall : AllSteps step A s es) :
    Throughout step T s es ↔ AllSteps step P s es := by
  induction es generalizing s with
  | nil => exact Iff.rfl
  | cons e es ih =>
    obtain ⟨ha, hrest⟩ := hall
    have hnext : ∀ s', step s e = .ok s' → T s e s' →
        (Throughout step T s' es ↔ AllSteps step P s' es) := fun s' hs' ht =>
      ih (hkeep s e s' hs ha hs' ht) (hrest s' hs')
    constructor
    · rintro ⟨s', hs', ht, hthrough⟩
      refine ⟨(hstep s e hs ha).mpr ⟨s', hs', ht⟩, fun s'' hs'' => ?_⟩
      rw [hs'] at hs''
      cases hs''
      exact (hnext s' hs' ht).mp hthrough
    · rintro ⟨hp, hsteps⟩
      obtain ⟨s', hs', ht⟩ := (hstep s e hs ha).mp hp
      exact ⟨s', hs', ht, (hnext s' hs' ht).mpr (hsteps s' hs')⟩

/-! ## Runs that may stop -/

theorem AllSteps.invariant {A : σ → ε → Prop} {I : σ → Prop}
    (hkeep : ∀ s e s', I s → A s e → step s e = .ok s' → I s') {s s' : σ} {es : List ε}
    (hall : AllSteps step A s es) (hs : I s) (hrun : es.foldlM step s = .ok s') : I s' := by
  induction es generalizing s with
  | nil =>
    cases hrun
    exact hs
  | cons e es ih =>
    rw [List.foldlM_cons] at hrun
    obtain ⟨s1, hs1, hrest⟩ := bind_eq_ok.mp hrun
    exact ih (hall.2 s1 hs1) (hkeep s e s1 hs hall.1 hs1) hrest

/-- Where every step from a state of the invariant leads to one, no run stops. -/
theorem run_invariant {I : σ → Prop} (hstep : ∀ s e, I s → ∃ s', step s e = .ok s' ∧ I s') {s : σ}
    (hs : I s) (es : List ε) : ∃ s', es.foldlM step s = .ok s' ∧ I s' := by
  induction es generalizing s with
  | nil => exact ⟨s, rfl, hs⟩
  | cons e es ih =>
    obtain ⟨s1, hs1, h1⟩ := hstep s e hs
    rw [List.foldlM_cons, hs1, ok_bind]
    exact ih h1

/-- The same where a step needs fuel: there is enough of it for the whole run. -/
theorem run_enough {step : Nat → σ → ε → Except Stop σ} {I : σ → Prop} {A : ε → Prop}
    (hstep : ∀ s e, I s → A e →
      ∃ enough s', I s' ∧ ∀ fuel, enough ≤ fuel → step fuel s e = .ok s') {s : σ} (hs : I s)
    {es : List ε} (hall : ∀ e ∈ es, A e) :
    ∃ enough s', I s' ∧ ∀ fuel, enough ≤ fuel → es.foldlM (step fuel) s = .ok s' := by
  induction es generalizing s with
  | nil => exact ⟨0, s, hs, fun _ _ => rfl⟩
  | cons e es ih =>
    obtain ⟨hfirst, hlater⟩ := List.forall_mem_cons.mp hall
    obtain ⟨enough, s1, h1, hs1⟩ := hstep s e hs hfirst
    obtain ⟨enough', s2, h2, hrun⟩ := ih h1 hlater
    refine ⟨max enough enough', s2, h2, fun fuel hfuel => ?_⟩
    rw [List.foldlM_cons, hs1 fuel (Nat.le_trans (Nat.le_max_left _ _) hfuel), ok_bind]
    exact hrun fuel (Nat.le_trans (Nat.le_max_right _ _) hfuel)

/-- Where each step is a run of another machine with the same inputs, a run is one too. -/
theorem run_simulates {τ ι : Type} {next : τ → ι → τ} {isInput : ι → Bool} {inputs : ε → List ι}
    {R : σ → τ → Prop} {A : ε → Prop}
    (hstep : ∀ s t e, R s t → A e → ∃ (s' : σ) (is : List ι),
      step s e = .ok s' ∧ is.filter isInput = inputs e ∧ R s' (is.foldl next t))
    {s : σ} {t : τ} (hs : R s t) {es : List ε} (hall : ∀ e ∈ es, A e) :
    ∃ (s' : σ) (is : List ι), es.foldlM step s = .ok s' ∧
      is.filter isInput = es.flatMap inputs ∧ R s' (is.foldl next t) := by
  induction es generalizing s t with
  | nil => exact ⟨s, [], rfl, rfl, hs⟩
  | cons e es ih =>
    obtain ⟨hfirst, hlater⟩ := List.forall_mem_cons.mp hall
    obtain ⟨s1, is, hs1, hinputs, h1⟩ := hstep s t e hs hfirst
    obtain ⟨s2, is', hrun, hinputs', h2⟩ := ih h1 hlater
    refine ⟨s2, is ++ is', ?_, ?_, ?_⟩
    · rw [List.foldlM_cons, hs1, ok_bind]
      exact hrun
    · rw [List.filter_append, hinputs, hinputs', List.flatMap_cons]
    · rw [List.foldl_append]
      exact h2

/-- Where each step of `P` leaves less work, there are no more of them than there is work. -/
theorem AllSteps.length_le {W : σ → Nat → Prop} {A : ε → Prop} {P : σ → ε → Prop}
    (hstep : ∀ s n e, W s n → A e → P s e → ∃ s', step s e = .ok s' ∧ ∃ n' < n, W s' n') {s : σ}
    {n : Nat} (hs : W s n) {es : List ε} (hall : ∀ e ∈ es, A e) (hsteps : AllSteps step P s es) :
    es.length ≤ n := by
  induction es generalizing s n with
  | nil => exact Nat.zero_le n
  | cons e es ih =>
    obtain ⟨hfirst, hlater⟩ := List.forall_mem_cons.mp hall
    obtain ⟨s', hs', n', hlt, hn'⟩ := hstep s n e hs hfirst hsteps.1
    have hle := ih hn' hlater (hsteps.2 s' hs')
    rw [List.length_cons]
    omega

/-- A run only stops as a step does. -/
theorem run_error {P : Stop → Prop} (hstep : ∀ s e stop, step s e = .error stop → P stop) {s : σ}
    {es : List ε} {stop : Stop} (hrun : es.foldlM step s = .error stop) : P stop := by
  induction es generalizing s with
  | nil => cases hrun
  | cons e es ih =>
    rw [List.foldlM_cons] at hrun
    cases hs : step s e with
    | error stop' =>
      rw [hs] at hrun
      obtain rfl := Except.error.inj hrun
      exact hstep s e _ hs
    | ok s' =>
      rw [hs, ok_bind] at hrun
      exact ih hrun

/-- Two conditions on steps that the invariant makes the same are the same for runs. -/
theorem allSteps_congr {P Q : σ → ε → Prop} {I : σ → Prop} (hstep : ∀ s e, I s → (P s e ↔ Q s e))
    (hkeep : ∀ s e s', I s → step s e = .ok s' → I s') {s : σ} (hs : I s) (es : List ε) :
    AllSteps step P s es ↔ AllSteps step Q s es := by
  induction es generalizing s with
  | nil => exact Iff.rfl
  | cons e es ih =>
    apply and_congr (hstep s e hs)
    exact forall_congr' fun s' => imp_congr_right fun hs' => ih (hkeep s e s' hs hs')

theorem Always.first {I : σ → Prop} {s : σ} {es : List ε} (h : Always step I s es) : I s := by
  cases es with
  | nil => exact h
  | cons e es => exact h.1

theorem Always.last {I : σ → Prop} {s s' : σ} {es : List ε} (h : Always step I s es)
    (hrun : es.foldlM step s = .ok s') : I s' := by
  induction es generalizing s with
  | nil =>
    cases hrun
    exact h
  | cons e es ih =>
    rw [List.foldlM_cons] at hrun
    obtain ⟨s1, hs1, hrest⟩ := bind_eq_ok.mp hrun
    exact ih (h.2 s1 hs1) hrest

/-- What an invariant implies holds in every state. -/
theorem always_of_invariant {J I : σ → Prop} (hkeep : ∀ s e s', J s → step s e = .ok s' → J s')
    (himp : ∀ s, J s → I s) {s : σ} (hs : J s) (es : List ε) : Always step I s es := by
  induction es generalizing s with
  | nil => exact himp s hs
  | cons e es ih => exact ⟨himp s hs, fun s' hs' => ih (hkeep s e s' hs hs')⟩

/-- Where `P` is the condition for a step to stay in `I`, a run stays in `I` exactly when each of its
steps meets `P`. -/
theorem always_iff {J I : σ → Prop} {P : σ → ε → Prop}
    (hkeep : ∀ s e s', J s → step s e = .ok s' → J s')
    (hstep : ∀ s e, J s → I s → (P s e ↔ ∀ s', step s e = .ok s' → I s')) {s : σ} (hJ : J s)
    (hI : I s) (es : List ε) : Always step I s es ↔ AllSteps step P s es := by
  induction es generalizing s with
  | nil => exact iff_of_true hI trivial
  | cons e es ih =>
    constructor
    · rintro ⟨-, hrest⟩
      have hnext := fun s' hs' => (hrest s' hs').first
      exact ⟨(hstep s e hJ hI).mpr hnext,
        fun s' hs' => (ih (hkeep s e s' hJ hs') (hnext s' hs')).mp (hrest s' hs')⟩
    · rintro ⟨hp, hrest⟩
      refine ⟨hI, fun s' hs' => ?_⟩
      have hnext := (hstep s e hJ hI).mp hp s' hs'
      exact (ih (hkeep s e s' hJ hs') hnext).mpr (hrest s' hs')

end Exec
