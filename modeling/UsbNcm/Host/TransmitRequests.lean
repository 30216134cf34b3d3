import UsbNcm.Lib.Exec
import UsbNcm.Lib.Ledger

/-!
# Who has the transmit buffers of the host driver (`host/device.cpp`, `adapter/txqueue.cpp`)

The host has no rundown as the function has. What is on its way is stopped with the pipe: StopPipe
cancels what was sent and waits until it has completed. The framework calls `Advance` only between the
start and the stop of the queue, and does not stop it while `Advance` runs. A step is one call of
`Advance`, of a completion routine or of the framework.
-/

open Exec Ledger

namespace UsbNcm.Host

/-- Where `Advance` is with a buffer request, and `TransmitFrames` that it calls. -/
inductive Advancing
  | idle
  -- in Advance
  | filling (bufferRequest : Nat)
  -- in TransmitFrames
  | formatted (bufferRequest : Nat)
  -- in Advance, TransmitFrames has returned an error
  | refused (bufferRequest : Nat)
  deriving DecidableEq, Repr

def Advancing.held : Advancing → List Nat
  | .idle => []
  | .filling r | .formatted r | .refused r => [r]

structure HostTransmit where
  -- m_TxQueue of m_NetAdapter is a queue that is there
  txQueue : Bool
  -- the buffer requests that its pool was created with
  requests : List Nat
  pool : List Nat
  -- StartTransmit has been called, and StopTransmit has not returned
  started : Bool
  -- StopTransmit waits
  stopping : Bool
  advancing : Advancing
  -- sent, and the completion routine has not been called
  sent : List Nat
  -- the completion routine runs
  completing : List Nat
  -- the calls to the pool
  log : List (Entry Nat)
  deriving DecidableEq, Repr

inductive HostTransmitEvent
  | createTxQueue (requests : List Nat)
  | destroyTxQueue
  | startTransmit
  -- StopTransmit is called, and it returns
  | stopTransmit
  | stopTransmitReturns
  -- Advance
  | getBufferRequest
  | returnBufferRequest
  -- TransmitFrames
  | formatRequest (transferLength : Nat) (success : Bool)
  | sendRequest (success : Bool)
  -- TransmitFramesCompetion, also where the request was cancelled or has timed out
  | complete (bufferRequest : Nat)
  | notifyTransmitCompletion (bufferRequest : Nat)
  deriving DecidableEq, Repr

namespace HostTransmit

def newTransmit : HostTransmit where
  txQueue := false
  requests := []
  pool := []
  started := false
  stopping := false
  advancing := .idle
  sent := []
  completing := []
  log := []

def getBufferRequest (transmit : HostTransmit) : HostTransmit :=
  match transmit.advancing, transmit.pool with
  | .idle, r :: pool =>
    { transmit with pool := pool, advancing := .filling r, log := transmit.log ++ [.take r] }
  | _, _ => transmit

def returnBufferRequest (transmit : HostTransmit) : HostTransmit :=
  match transmit.advancing with
  | .refused r =>
    { transmit with
      pool := transmit.pool ++ [r]
      advancing := .idle
      log := transmit.log ++ [.give r] }
  | _ => transmit

def formatRequest (transmit : HostTransmit) (transferLength : Nat) (success : Bool) :
    Except Stop HostTransmit :=
  match transmit.advancing with
  | .filling r =>
    if 0 < transferLength then
      .ok { transmit with advancing := if success then .formatted r else .refused r }
    else .error .assertion
  | _ => .ok transmit

/-- A request that could not be sent has an error status and does not complete. -/
def sendRequest (transmit : HostTransmit) (success : Bool) : HostTransmit :=
  match transmit.advancing with
  | .formatted r =>
    if success then { transmit with advancing := .idle, sent := transmit.sent ++ [r] }
    else { transmit with advancing := .refused r }
  | _ => transmit

/-- The I/O target calls the completion routine once for a request that was sent. -/
def complete (transmit : HostTransmit) (r : Nat) : HostTransmit :=
  if r ∈ transmit.sent then
    { transmit with sent := transmit.sent.erase r, completing := transmit.completing ++ [r] }
  else transmit

/-- The pool is that of m_TxQueue. -/
def notifyTransmitCompletion (transmit : HostTransmit) (r : Nat) : Except Stop HostTransmit :=
  if r ∈ transmit.completing then
    if transmit.txQueue then
      .ok
        { transmit with
          pool := transmit.pool ++ [r]
          completing := transmit.completing.erase r
          log := transmit.log ++ [.give r] }
    else .error .access
  else .ok transmit

/-- A party that has nothing to do at the moment does nothing. -/
def step (transmit : HostTransmit) : HostTransmitEvent → Except Stop HostTransmit
  | .createTxQueue requests =>
    .ok (if transmit.txQueue = false ∧ requests.Nodup then
      { transmit with txQueue := true, requests := requests, pool := requests, log := [] }
      else transmit)
  | .destroyTxQueue =>
    .ok (if transmit.started then transmit
      else { transmit with txQueue := false, requests := [], pool := [], log := [] })
  | .startTransmit => .ok (if transmit.txQueue then { transmit with started := true } else transmit)
  | .stopTransmit =>
    .ok (if transmit.started ∧ transmit.advancing = .idle then { transmit with stopping := true }
      else transmit)
  | .stopTransmitReturns =>
    .ok (if transmit.stopping ∧ transmit.sent = [] ∧ transmit.completing = [] then
      { transmit with started := false, stopping := false } else transmit)
  | .getBufferRequest =>
    .ok (if transmit.started ∧ transmit.stopping = false then transmit.getBufferRequest else transmit)
  | .returnBufferRequest => .ok transmit.returnBufferRequest
  | .formatRequest transferLength success => transmit.formatRequest transferLength success
  | .sendRequest success => .ok (transmit.sendRequest success)
  | .complete r => .ok (transmit.complete r)
  | .notifyTransmitCompletion r => transmit.notifyTransmitCompletion r

variable {transmit transmit' : HostTransmit} {r : Nat}

/-! ## Ownership -/

/-- The requests that are not in the pool. -/
def outside (transmit : HostTransmit) : List Nat :=
  transmit.advancing.held ++ (transmit.sent ++ transmit.completing)

structure Owned (transmit : HostTransmit) : Prop where
  distinct : transmit.requests.Nodup
  /-- Each request is in one place. -/
  place : (transmit.pool ++ transmit.outside).Perm transmit.requests
  /-- Each is given back once for each time it is taken. -/
  kept : Kept transmit.log transmit.outside
  txQueue : transmit.txQueue = false → transmit.requests = [] ∧ transmit.started = false
  /-- Nothing is on its way once `StopTransmit` has returned. -/
  stopped : transmit.started = false → transmit.outside = []
  stopping : transmit.stopping = true → transmit.started = true ∧ transmit.advancing = .idle

theorem newTransmit_owned : Owned newTransmit :=
  ⟨List.nodup_nil, .refl _, .nil, fun _ => ⟨rfl, rfl⟩, fun _ => rfl, nofun⟩

theorem Owned.started (h : Owned transmit) (hmem : r ∈ transmit.outside) : transmit.started = true := by
  by_contra hnot
  rw [h.stopped (Bool.eq_false_iff.mpr hnot)] at hmem
  cases hmem

theorem Owned.hasQueue (h : Owned transmit) (hmem : r ∈ transmit.outside) : transmit.txQueue = true := by
  by_contra hnot
  have hstarted := h.started hmem
  rw [(h.txQueue (Bool.eq_false_iff.mpr hnot)).2] at hstarted
  cases hstarted

/-- The requests outside of the pool change places. -/
theorem Owned.moved (h : Owned transmit) {advancing : Advancing} {sent completing : List Nat}
    (hout : transmit.outside.Perm (advancing.held ++ (sent ++ completing)))
    (hstopping : transmit.stopping = true → advancing = .idle) :
    Owned { transmit with advancing := advancing, sent := sent, completing := completing } := by
  refine ⟨h.distinct, ?_, h.kept.perm hout, h.txQueue, fun hnot => ?_,
    fun hstop => ⟨(h.stopping hstop).1, hstopping hstop⟩⟩
  · exact (hout.symm.append_left transmit.pool).trans h.place
  · have hnil := h.stopped hnot
    rw [hnil] at hout
    exact hout.symm.eq_nil

/-- One request goes back to the pool. -/
theorem Owned.pooled (h : Owned transmit) {advancing : Advancing} {completing : List Nat}
    (hout : transmit.outside.Perm (r :: (advancing.held ++ (transmit.sent ++ completing))))
    (hstopping : transmit.stopping = true → advancing = .idle) :
    Owned { transmit with
      pool := transmit.pool ++ [r], advancing := advancing, completing := completing,
      log := transmit.log ++ [.give r] } := by
  have hmem : r ∈ transmit.outside := hout.mem_iff.mpr List.mem_cons_self
  refine ⟨h.distinct, ?_, (h.kept.perm hout).give, h.txQueue, fun hnot => ?_,
    fun hstop => ⟨(h.stopping hstop).1, hstopping hstop⟩⟩
  · refine List.Perm.trans ?_ h.place
    change (transmit.pool ++ [r] ++ _).Perm _
    rw [List.append_assoc]
    exact (hout.symm).append_left transmit.pool
  · have hstarted := h.started hmem
    rw [show transmit.started = false from hnot] at hstarted
    cases hstarted

theorem getBufferRequest_owned (h : Owned transmit) (hstarted : transmit.started = true)
    (hstopping : transmit.stopping = false) : Owned transmit.getBufferRequest := by
  unfold getBufferRequest
  split
  next r pool hidle hpool =>
    have hplace := h.place
    have hnodup := h.place.nodup_iff.mpr h.distinct
    unfold outside at hplace hnodup
    rw [hpool, hidle] at hplace hnodup
    have hnot : r ∉ transmit.outside := by
      unfold outside
      rw [hidle]
      exact fun hmem => (List.nodup_cons.mp hnodup).1 (List.mem_append_right _ hmem)
    refine ⟨h.distinct, List.perm_middle.trans hplace, ?_, h.txQueue, ?_, ?_⟩
    · have htake := h.kept.take hnot
      unfold outside at htake
      rw [hidle] at htake
      exact htake
    · rw [hstarted]
      nofun
    · rw [hstopping]
      nofun
  next => exact h

theorem returnBufferRequest_owned (h : Owned transmit) : Owned transmit.returnBufferRequest := by
  unfold returnBufferRequest
  split
  next r hrefused =>
    apply h.pooled
    · unfold outside
      rw [hrefused]
      exact .refl _
    · exact fun _ => rfl
  next => exact h

/-- The assertion of `TransmitFrames` is on the length that it is to send. -/
theorem formatRequest_owned (h : Owned transmit) (transferLength : Nat) (success : Bool) :
    (∃ transmit', transmit.formatRequest transferLength success = .ok transmit' ∧ Owned transmit') ∨
      transferLength = 0 ∧ transmit.formatRequest transferLength success = .error .assertion := by
  unfold formatRequest
  split
  next r hfilling =>
    split
    next =>
      refine Or.inl ⟨_, rfl, h.moved ?_ fun hstop => ?_⟩
      · unfold outside
        rw [hfilling]
        cases success <;> exact .refl _
      · have hidle := (h.stopping hstop).2
        rw [hfilling] at hidle
        cases hidle
    next hzero => exact Or.inr ⟨Nat.eq_zero_of_not_pos hzero, rfl⟩
  next => exact Or.inl ⟨transmit, rfl, h⟩

theorem sendRequest_owned (h : Owned transmit) (success : Bool) :
    Owned (transmit.sendRequest success) := by
  unfold sendRequest
  split
  next r hformatted =>
    have hnot : transmit.stopping ≠ true := by
      intro hstop
      have hidle := (h.stopping hstop).2
      rw [hformatted] at hidle
      cases hidle
    split
    · apply h.moved _ fun hstop => absurd hstop hnot
      unfold outside
      rw [hformatted]
      change (r :: (transmit.sent ++ transmit.completing)).Perm _
      rw [Advancing.held, List.nil_append, List.append_assoc, List.singleton_append]
      exact List.perm_middle.symm
    · apply h.moved _ fun hstop => absurd hstop hnot
      unfold outside
      rw [hformatted]
      exact .refl _
  next => exact h

theorem complete_owned (h : Owned transmit) (r : Nat) : Owned (transmit.complete r) := by
  unfold complete
  split
  next hsent =>
    apply h.moved _ fun hstop => (h.stopping hstop).2
    apply List.Perm.append_left
    have herase := (List.perm_cons_erase hsent).append_right transmit.completing
    refine herase.trans ?_
    rw [← List.append_assoc]
    exact (List.perm_append_singleton r _).symm
  next => exact h

theorem notifyTransmitCompletion_owned (h : Owned transmit) (r : Nat) :
    ∃ transmit', transmit.notifyTransmitCompletion r = .ok transmit' ∧ Owned transmit' := by
  unfold notifyTransmitCompletion
  split
  next hcompleting =>
    have hmem : r ∈ transmit.outside :=
      List.mem_append_right _ (List.mem_append_right _ hcompleting)
    rw [if_pos (h.hasQueue hmem)]
    refine ⟨_, rfl, h.pooled ?_ fun hstop => (h.stopping hstop).2⟩
    have herase := (List.perm_cons_erase hcompleting).append_left
      (transmit.advancing.held ++ transmit.sent)
    unfold outside
    rw [← List.append_assoc, ← List.append_assoc]
    exact herase.trans List.perm_middle
  next => exact ⟨transmit, rfl, h⟩

/-- While nothing is on its way, a queue can be made with all requests in its pool, or be removed. -/
theorem Owned.renewed (h : Owned transmit) (hnil : transmit.outside = []) {txQueue : Bool}
    {requests : List Nat} (hdistinct : requests.Nodup)
    (hqueue : txQueue = false → requests = [] ∧ transmit.started = false) :
    Owned { transmit with txQueue := txQueue, requests := requests, pool := requests, log := [] } := by
  refine ⟨hdistinct, ?_, ?_, hqueue, h.stopped, h.stopping⟩
  · change (requests ++ transmit.outside).Perm requests
    rw [hnil, List.append_nil]
  · change Kept [] transmit.outside
    rw [hnil]
    exact .nil

theorem stopTransmitReturns_owned (h : Owned transmit) (hstop : transmit.stopping = true)
    (hsent : transmit.sent = []) (hcompleting : transmit.completing = []) :
    Owned { transmit with started := false, stopping := false } := by
  refine ⟨h.distinct, h.place, h.kept, fun hnone => ⟨(h.txQueue hnone).1, rfl⟩, fun _ => ?_, nofun⟩
  unfold outside
  dsimp only
  rw [(h.stopping hstop).2, hsent, hcompleting]
  rfl

/-! ## Runs -/

theorem step_owned (h : Owned transmit) (event : HostTransmitEvent) :
    (∃ transmit', transmit.step event = .ok transmit' ∧ Owned transmit') ∨
      ∃ success, event = .formatRequest 0 success ∧ transmit.step event = .error .assertion := by
  cases event with
  | createTxQueue requests =>
    refine Or.inl ⟨_, rfl, ?_⟩
    split
    next hnew => exact h.renewed (h.stopped (h.txQueue hnew.1).2) hnew.2 nofun
    next => exact h
  | destroyTxQueue =>
    refine Or.inl ⟨_, rfl, ?_⟩
    split
    next => exact h
    next hstopped =>
      have hstarted : transmit.started = false := Bool.eq_false_iff.mpr hstopped
      exact h.renewed (h.stopped hstarted) List.nodup_nil fun _ => ⟨rfl, hstarted⟩
  | startTransmit =>
    refine Or.inl ⟨_, rfl, ?_⟩
    split
    next hqueue =>
      refine ⟨h.distinct, h.place, h.kept, ?_, nofun, fun hstop => ⟨rfl, (h.stopping hstop).2⟩⟩
      rw [show transmit.txQueue = true from hqueue]
      nofun
    next => exact h
  | stopTransmit =>
    refine Or.inl ⟨_, rfl, ?_⟩
    split
    next hstop => exact ⟨h.distinct, h.place, h.kept, h.txQueue, h.stopped, fun _ => hstop⟩
    next => exact h
  | stopTransmitReturns =>
    refine Or.inl ⟨_, rfl, ?_⟩
    split
    next hdone => exact stopTransmitReturns_owned h hdone.1 hdone.2.1 hdone.2.2
    next => exact h
  | getBufferRequest =>
    refine Or.inl ⟨_, rfl, ?_⟩
    split
    next hrunning => exact getBufferRequest_owned h hrunning.1 hrunning.2
    next => exact h
  | returnBufferRequest => exact Or.inl ⟨_, rfl, returnBufferRequest_owned h⟩
  | formatRequest transferLength success =>
    rcases formatRequest_owned h transferLength success with hok | ⟨rfl, herror⟩
    · exact Or.inl hok
    · exact Or.inr ⟨success, rfl, herror⟩
  | sendRequest success => exact Or.inl ⟨_, rfl, sendRequest_owned h success⟩
  | complete r => exact Or.inl ⟨_, rfl, complete_owned h r⟩
  | notifyTransmitCompletion r => exact Or.inl (notifyTransmitCompletion_owned h r)

/-- For every order of the calls of `Advance`, of the completion routines and of the framework: each
request is in one place and is given back to the pool once for each time it is taken, no completion
finds its queue gone, and all of the requests are in the pool once `StopTransmit` has returned. A run
stops in the assertion on the length only. -/
theorem run_pooled (events : List HostTransmitEvent) :
    (∃ transmit, events.foldlM step newTransmit = .ok transmit ∧ Owned transmit ∧
      (transmit.started = false → transmit.pool.Perm transmit.requests)) ∨
      ∃ success, .formatRequest 0 success ∈ events ∧
        events.foldlM step newTransmit = .error .assertion := by
  have hall : ∀ {transmit : HostTransmit}, Owned transmit →
      (∃ transmit', events.foldlM step transmit = .ok transmit' ∧ Owned transmit') ∨
        ∃ success, .formatRequest 0 success ∈ events ∧
          events.foldlM step transmit = .error .assertion := by
    induction events with
    | nil => exact fun h => Or.inl ⟨_, rfl, h⟩
    | cons event events ih =>
      intro transmit h
      rw [List.foldlM_cons]
      rcases step_owned h event with ⟨transmit1, hstep, h1⟩ | ⟨success, rfl, hstep⟩
      · rw [hstep, ok_bind]
        rcases ih h1 with hok | ⟨success, hmem, herror⟩
        · exact Or.inl hok
        · exact Or.inr ⟨success, List.mem_cons_of_mem _ hmem, herror⟩
      · rw [hstep, error_bind]
        exact Or.inr ⟨success, List.mem_cons_self, rfl⟩
  rcases hall newTransmit_owned with ⟨transmit, hrun, howned⟩ | hstop
  · refine Or.inl ⟨transmit, hrun, howned, fun hstopped => ?_⟩
    have hplace := howned.place
    rwa [howned.stopped hstopped, List.append_nil] at hplace
  · exact Or.inr hstop

end HostTransmit

end UsbNcm.Host
