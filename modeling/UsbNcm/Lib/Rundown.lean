import UsbNcm.Lib.Exec

/-!
# Rundown protection

The users of an object acquire a reference before they use it. The owner waits until the last one is
released, and from then on nobody gets a reference until the owner initialises it again.
-/

open Exec

inductive RundownPhase
  | active
  | waiting
  | runDown
  deriving DecidableEq, Repr

structure Rundown where
  phase : RundownPhase
  references : Nat
  drained : phase = .runDown → references = 0

namespace Rundown

variable {rundown rundown' : Rundown}

/-- What the first initialisation leaves. -/
def initial : Rundown := ⟨.active, 0, nofun⟩

def acquire (rundown : Rundown) : Option Rundown :=
  if rundown.phase = .active then some ⟨.active, rundown.references + 1, nofun⟩ else none

/-- To release what was not acquired is an error of the caller. -/
def release (rundown : Rundown) : Except Stop Rundown :=
  if h : rundown.references = 0 then .error .assertion
  else .ok ⟨rundown.phase, rundown.references - 1, fun hphase => absurd (rundown.drained hphase) h⟩

/-- The owner begins to wait. -/
def wait (rundown : Rundown) : Rundown :=
  if rundown.phase = .active then ⟨.waiting, rundown.references, nofun⟩ else rundown

/-- The wait of the owner returns, if it can. -/
def waitReturns (rundown : Rundown) : Rundown :=
  if h : rundown.phase = .waiting ∧ rundown.references = 0 then
    ⟨.runDown, rundown.references, fun _ => h.2⟩
  else rundown

/-- Only what has been run down may be initialised again. -/
def reInitialize (rundown : Rundown) : Rundown :=
  if rundown.phase = .runDown then initial else rundown

theorem acquire_some (h : rundown.acquire = some rundown') :
    rundown'.phase = .active ∧ rundown'.references = rundown.references + 1 := by
  unfold acquire at h
  split at h
  · cases h
    exact ⟨rfl, rfl⟩
  · cases h

theorem release_ok (rundown : Rundown) (h : 0 < rundown.references) :
    ∃ rundown', rundown.release = .ok rundown' ∧ rundown'.phase = rundown.phase ∧
      rundown'.references + 1 = rundown.references := by
  unfold release
  rw [dif_neg (Nat.ne_of_gt h)]
  refine ⟨_, rfl, rfl, ?_⟩
  dsimp only
  omega

@[simp]
theorem wait_references : rundown.wait.references = rundown.references := by
  unfold wait
  split <;> rfl

@[simp]
theorem waitReturns_references : rundown.waitReturns.references = rundown.references := by
  unfold waitReturns
  split <;> rfl

@[simp]
theorem reInitialize_references (h : rundown.phase = .runDown) :
    rundown.reInitialize.references = rundown.references := by
  unfold reInitialize
  rw [if_pos h, rundown.drained h]
  rfl

theorem wait_phase (h : rundown.phase = .runDown) : rundown.wait.phase = .runDown := by
  unfold wait
  rw [if_neg (by rw [h]; nofun)]
  exact h

theorem waitReturns_phase (h : rundown.phase = .runDown) : rundown.waitReturns.phase = .runDown := by
  unfold waitReturns
  split
  · rfl
  · exact h

end Rundown
