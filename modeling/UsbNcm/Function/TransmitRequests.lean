import UsbNcm.Lib.Rundown
import UsbNcm.Lib.Run

/-!
# Who has the transmit buffers of the function driver

`Advance` with `TransmitFrames`, the completion routines and the start and stop of the queue run at
the same time. Here a step is one call that one of them makes to what they share: the pool, the I/O
target or the rundown.
-/

open Exec

namespace UsbNcm.Function

/-- Where `Advance` is with a buffer request, and `TransmitFrames` that it calls. -/
inductive Transmitting
  | idle
  -- in Advance
  | filling (bufferRequest : Nat)
  -- in TransmitFrames, with the rundown acquired
  | acquired (bufferRequest : Nat)
  | formatted (bufferRequest : Nat)
  | failed (bufferRequest : Nat)
  -- in Advance, TransmitFrames has returned an error
  | refused (bufferRequest : Nat)
  deriving DecidableEq, Repr

namespace Transmitting

def held : Transmitting → List Nat
  | .idle => []
  | .filling r | .acquired r | .formatted r | .failed r | .refused r => [r]

/-- The reference to the rundown that a running `TransmitFrames` has. -/
def references : Transmitting → Nat
  | .acquired _ | .formatted _ | .failed _ => 1
  | .idle | .filling _ | .refused _ => 0

end Transmitting

/-- A call to the pool of buffer requests. -/
inductive PoolCall
  | getBufferRequest (bufferRequest : Nat)
  | returnBufferRequest (bufferRequest : Nat)
  deriving DecidableEq, Repr

structure BulkIn where
  bulkInRundown : Rundown
  netAdapter : Bool
  ncmAdapterCallbacks : Bool
  -- the buffer requests that the pool of the adapter was created with
  requests : List Nat
  pool : List Nat
  transmitting : Transmitting
  -- sent, and the completion routine has not been called
  sent : List Nat
  -- the completion routine runs, and has not given the buffer back
  completing : List Nat
  -- completion routines that have given the buffer back, and have not released the rundown
  finishing : Nat
  -- the calls to the pool since it was created
  log : List PoolCall

inductive BulkInEvent
  | createAdapter (requests : List Nat)
  | destroyAdapter
  | startTransmit
  -- StopTransmit is called, and it returns
  | stopTransmit
  | stopTransmitReturns
  -- Advance
  | getBufferRequest
  | returnBufferRequest
  -- TransmitFrames
  | acquireRundown (transferLength : Nat)
  | formatRequest (success : Bool)
  | sendRequest (sent : Bool)
  | releaseRundown
  -- TransmitFramesCompetion
  | complete (bufferRequest : Nat)
  | notifyTransmitCompletion (bufferRequest : Nat)
  | completionReleases
  deriving DecidableEq, Repr

namespace BulkIn

/-- `InitializeDevice` waits for the new rundown at once, so it starts run down. -/
def initialized : BulkIn where
  bulkInRundown := Rundown.initial.wait.waitReturns
  netAdapter := false
  ncmAdapterCallbacks := false
  requests := []
  pool := []
  transmitting := .idle
  sent := []
  completing := []
  finishing := 0
  log := []

variable {bulkIn bulkIn' : BulkIn} {event : BulkInEvent}

/-- The adapter and its transmit queue, with the pool. -/
def createAdapter (bulkIn : BulkIn) (requests : List Nat) : BulkIn :=
  if bulkIn.netAdapter = false ∧ requests.Nodup then
    { bulkIn with
      netAdapter := true
      ncmAdapterCallbacks := true
      requests := requests
      pool := requests
      log := [] }
  else bulkIn

/-- The framework deletes the queue when its `Stop` has returned and no callback of it runs. -/
def destroyAdapter (bulkIn : BulkIn) : BulkIn :=
  if bulkIn.netAdapter ∧ bulkIn.bulkInRundown.phase = .runDown ∧ bulkIn.transmitting = .idle then
    { bulkIn with
      netAdapter := false
      ncmAdapterCallbacks := false
      requests := []
      pool := []
      log := [] }
  else bulkIn

/-- Only the queue of an adapter is started. -/
def startTransmit (bulkIn : BulkIn) : BulkIn :=
  if bulkIn.netAdapter then
    { bulkIn with bulkInRundown := bulkIn.bulkInRundown.reInitialize }
  else bulkIn

/-- With no request in the pool, `Advance` drops the packet. -/
def getBufferRequest (bulkIn : BulkIn) : BulkIn :=
  match bulkIn.transmitting, bulkIn.pool with
  | .idle, r :: pool =>
    { bulkIn with
      pool := pool
      transmitting := .filling r
      log := bulkIn.log ++ [.getBufferRequest r] }
  | _, _ => bulkIn

def returnBufferRequest (bulkIn : BulkIn) : BulkIn :=
  match bulkIn.transmitting with
  | .refused r =>
    { bulkIn with
      pool := bulkIn.pool ++ [r]
      transmitting := .idle
      log := bulkIn.log ++ [.returnBufferRequest r] }
  | _ => bulkIn

def acquireRundown (bulkIn : BulkIn) (transferLength : Nat) : Except Stop BulkIn :=
  match bulkIn.transmitting with
  | .filling r =>
    match bulkIn.bulkInRundown.acquire with
    | some rundown =>
      if 0 < transferLength then
        .ok { bulkIn with bulkInRundown := rundown, transmitting := .acquired r }
      else .error .assertion
    | none => .ok { bulkIn with transmitting := .refused r }
  | _ => .ok bulkIn

def formatRequest (bulkIn : BulkIn) (success : Bool) : BulkIn :=
  match bulkIn.transmitting with
  | .acquired r =>
    { bulkIn with transmitting := if success then .formatted r else .failed r }
  | _ => bulkIn

/-- A request that could not be sent has an error status and does not complete. -/
def sendRequest (bulkIn : BulkIn) (sent : Bool) : BulkIn :=
  match bulkIn.transmitting with
  | .formatted r =>
    if sent then { bulkIn with transmitting := .idle, sent := bulkIn.sent ++ [r] }
    else { bulkIn with transmitting := .failed r }
  | _ => bulkIn

def releaseRundown (bulkIn : BulkIn) : Except Stop BulkIn :=
  match bulkIn.transmitting with
  | .failed r => do
    let rundown ← bulkIn.bulkInRundown.release
    return { bulkIn with bulkInRundown := rundown, transmitting := .refused r }
  | _ => .ok bulkIn

/-- The I/O target calls the completion routine once for a request that was sent. -/
def complete (bulkIn : BulkIn) (r : Nat) : BulkIn :=
  if r ∈ bulkIn.sent then
    { bulkIn with sent := bulkIn.sent.erase r, completing := bulkIn.completing ++ [r] }
  else bulkIn

def notifyTransmitCompletion (bulkIn : BulkIn) (r : Nat) : Except Stop BulkIn :=
  if r ∈ bulkIn.completing then
    if bulkIn.ncmAdapterCallbacks ∧ bulkIn.netAdapter then
      .ok
        { bulkIn with
          pool := bulkIn.pool ++ [r]
          completing := bulkIn.completing.erase r
          finishing := bulkIn.finishing + 1
          log := bulkIn.log ++ [.returnBufferRequest r] }
    else .error .access
  else .ok bulkIn

def completionReleases (bulkIn : BulkIn) : Except Stop BulkIn :=
  if bulkIn.finishing = 0 then .ok bulkIn
  else do
    let rundown ← bulkIn.bulkInRundown.release
    return { bulkIn with bulkInRundown := rundown, finishing := bulkIn.finishing - 1 }

/-- A party that has nothing to do at the moment does nothing. -/
def step (bulkIn : BulkIn) : BulkInEvent → Except Stop BulkIn
  | .createAdapter requests => .ok (bulkIn.createAdapter requests)
  | .destroyAdapter => .ok bulkIn.destroyAdapter
  | .startTransmit => .ok bulkIn.startTransmit
  | .stopTransmit => .ok { bulkIn with bulkInRundown := bulkIn.bulkInRundown.wait }
  | .stopTransmitReturns => .ok { bulkIn with bulkInRundown := bulkIn.bulkInRundown.waitReturns }
  | .getBufferRequest => .ok bulkIn.getBufferRequest
  | .returnBufferRequest => .ok bulkIn.returnBufferRequest
  | .acquireRundown transferLength => bulkIn.acquireRundown transferLength
  | .formatRequest success => .ok (bulkIn.formatRequest success)
  | .sendRequest sent => .ok (bulkIn.sendRequest sent)
  | .releaseRundown => bulkIn.releaseRundown
  | .complete r => .ok (bulkIn.complete r)
  | .notifyTransmitCompletion r => bulkIn.notifyTransmitCompletion r
  | .completionReleases => bulkIn.completionReleases

/-! ## Ownership -/

/-- How many of the places of a request, other than the pool, it is in. -/
def outside (bulkIn : BulkIn) (r : Nat) : Nat :=
  bulkIn.transmitting.held.count r + bulkIn.sent.count r + bulkIn.completing.count r

/-- No request has a completion routine that is still to come or that runs. -/
structure Quiet (bulkIn : BulkIn) : Prop where
  sent : bulkIn.sent = []
  completing : bulkIn.completing = []
  finishing : bulkIn.finishing = 0

structure Owned (bulkIn : BulkIn) : Prop where
  distinct : bulkIn.requests.Nodup
  /-- Each request is in one place. -/
  place : ∀ r, bulkIn.pool.count r + bulkIn.outside r = bulkIn.requests.count r
  returned : ∀ r, bulkIn.log.count (.getBufferRequest r) =
    bulkIn.log.count (.returnBufferRequest r) + bulkIn.outside r
  references : bulkIn.bulkInRundown.references =
    bulkIn.sent.length + bulkIn.completing.length + bulkIn.finishing +
      bulkIn.transmitting.references
  /-- Without an adapter there is nothing to complete. -/
  adapter : bulkIn.netAdapter = false →
    bulkIn.requests = [] ∧ bulkIn.bulkInRundown.phase = .runDown
  callbacks : bulkIn.ncmAdapterCallbacks = bulkIn.netAdapter

theorem Owned.quiet (h : Owned bulkIn) (hphase : bulkIn.bulkInRundown.phase = .runDown) :
    Quiet bulkIn ∧ bulkIn.transmitting.references = 0 := by
  have href := h.references
  rw [bulkIn.bulkInRundown.drained hphase] at href
  refine ⟨⟨?_, ?_, by omega⟩, by omega⟩
  · exact List.eq_nil_of_length_eq_zero (by omega)
  · exact List.eq_nil_of_length_eq_zero (by omega)

/-- A request is in no place when the pool has all of them. -/
theorem Owned.outside_of_nil (h : Owned bulkIn) (hnil : bulkIn.requests = []) (r : Nat) :
    bulkIn.outside r = 0 := by
  have hplace := h.place r
  rw [hnil, List.count_nil] at hplace
  omega

theorem createAdapter_owned (h : Owned bulkIn) (requests : List Nat) :
    Owned (bulkIn.createAdapter requests) := by
  unfold createAdapter
  split
  next hnew =>
    obtain ⟨hnil, hphase⟩ := h.adapter hnew.1
    have houtside := h.outside_of_nil hnil
    refine ⟨hnew.2, fun r => ?_, fun r => ?_, h.references, nofun, rfl⟩
    · change requests.count r + bulkIn.outside r = requests.count r
      rw [houtside, Nat.add_zero]
    · change 0 = 0 + bulkIn.outside r
      rw [houtside]
  next => exact h

theorem destroyAdapter_owned (h : Owned bulkIn) : Owned bulkIn.destroyAdapter := by
  unfold destroyAdapter
  split
  next hstopped =>
    obtain ⟨-, hphase, hidle⟩ := hstopped
    have hquiet := (h.quiet hphase).1
    have houtside : ∀ r, bulkIn.outside r = 0 := by
      intro r
      unfold outside
      rw [hidle, hquiet.sent, hquiet.completing]
      rfl
    refine ⟨List.nodup_nil, fun r => ?_, fun r => ?_, h.references, fun _ => ⟨rfl, hphase⟩, rfl⟩
    · change 0 + bulkIn.outside r = 0
      rw [houtside]
    · change 0 = 0 + bulkIn.outside r
      rw [houtside]
  next => exact h

/-- Only the rundown changes, and its references do not. -/
theorem Owned.rundown (h : Owned bulkIn) {rundown : Rundown}
    (href : rundown.references = bulkIn.bulkInRundown.references)
    (hphase : bulkIn.netAdapter = false → rundown.phase = .runDown) :
    Owned { bulkIn with bulkInRundown := rundown } :=
  ⟨h.distinct, h.place, h.returned, href.trans h.references,
    fun hnone => ⟨(h.adapter hnone).1, hphase hnone⟩, h.callbacks⟩

theorem startTransmit_owned (h : Owned bulkIn) : Owned bulkIn.startTransmit := by
  unfold startTransmit
  split
  next hadapter =>
    by_cases hphase : bulkIn.bulkInRundown.phase = .runDown
    · exact h.rundown (Rundown.reInitialize_references hphase) (by rw [hadapter]; nofun)
    · unfold Rundown.reInitialize
      rw [if_neg hphase]
      exact h
  next => exact h

theorem getBufferRequest_owned (h : Owned bulkIn) : Owned bulkIn.getBufferRequest := by
  unfold getBufferRequest
  split
  next r pool hidle hpool =>
    have hadapter : bulkIn.netAdapter ≠ false := by
      intro hnone
      have hplace := h.place r
      rw [(h.adapter hnone).1, hpool] at hplace
      simp at hplace
    refine ⟨h.distinct, fun r' => ?_, fun r' => ?_, ?_, fun hnone => absurd hnone hadapter,
      h.callbacks⟩
    · have hplace := h.place r'
      simp [outside, hidle, hpool, Transmitting.held, List.count_cons] at hplace ⊢
      omega
    · have hreturned := h.returned r'
      simp [outside, hidle, Transmitting.held, List.count_append, List.count_singleton]
        at hreturned ⊢
      omega
    · have href := h.references
      rw [hidle] at href
      exact href
  next => exact h

/-- Where a request is held, there is an adapter. -/
theorem Owned.netAdapter (h : Owned bulkIn) {r : Nat} (hout : 0 < bulkIn.outside r) :
    bulkIn.netAdapter = true := by
  by_contra hnone
  have hnil := (h.adapter (Bool.eq_false_iff.mpr hnone)).1
  have hzero := h.outside_of_nil hnil r
  omega

/-- A member of a list that is taken out is missing there and nowhere else. -/
theorem count_erase_add {l : List Nat} {r : Nat} (h : r ∈ l) (r' : Nat) :
    (l.erase r).count r' + [r].count r' = l.count r' := by
  rw [← List.count_append]
  exact (List.perm_append_comm.trans (List.perm_cons_erase h).symm).count_eq r'

/-- The requests change places outside the pool, and none gets lost. -/
theorem Owned.moved (h : Owned bulkIn) {transmitting : Transmitting} {sent completing : List Nat}
    (houtside : ∀ r, transmitting.held.count r + sent.count r + completing.count r =
      bulkIn.outside r)
    (href : sent.length + completing.length + transmitting.references =
      bulkIn.sent.length + bulkIn.completing.length + bulkIn.transmitting.references) :
    Owned { bulkIn with
      transmitting := transmitting, sent := sent, completing := completing } := by
  refine ⟨h.distinct, fun r => ?_, fun r => ?_, ?_, h.adapter, h.callbacks⟩
  · rw [← h.place r, ← houtside r]
    rfl
  · rw [h.returned r, ← houtside r]
    rfl
  · have hreferences := h.references
    dsimp only
    omega

/-- One request goes back to the pool. -/
theorem Owned.pooled (h : Owned bulkIn) {r finishing : Nat} {transmitting : Transmitting}
    {completing : List Nat}
    (houtside : ∀ r', transmitting.held.count r' + bulkIn.sent.count r' + completing.count r' +
      [r].count r' = bulkIn.outside r')
    (href : completing.length + finishing + transmitting.references =
      bulkIn.completing.length + bulkIn.finishing + bulkIn.transmitting.references) :
    Owned { bulkIn with
      pool := bulkIn.pool ++ [r], transmitting := transmitting, completing := completing,
      finishing := finishing, log := bulkIn.log ++ [.returnBufferRequest r] } := by
  refine ⟨h.distinct, fun r' => ?_, fun r' => ?_, ?_, h.adapter, h.callbacks⟩
  · rw [← h.place r', ← houtside r', List.count_append]
    dsimp only [outside]
    omega
  · have hreturned := h.returned r'
    rw [← houtside r'] at hreturned
    simp [outside, List.count_append, List.count_singleton] at hreturned ⊢
    omega
  · have hreferences := h.references
    dsimp only
    omega

theorem returnBufferRequest_owned (h : Owned bulkIn) : Owned bulkIn.returnBufferRequest := by
  unfold returnBufferRequest
  split
  next r hrefused =>
    refine h.pooled (fun r' => ?_) ?_
    · simp only [outside, hrefused, Transmitting.held, List.count_nil]
      omega
    · rw [hrefused]
      rfl
  next => exact h

/-- `Advance` goes on with the request it has, and the rundown changes with it. -/
theorem Owned.transmitting (h : Owned bulkIn) {rundown : Rundown} {transmitting : Transmitting}
    (hheld : transmitting.held = bulkIn.transmitting.held)
    (href : rundown.references + bulkIn.transmitting.references =
      bulkIn.bulkInRundown.references + transmitting.references)
    (hphase : bulkIn.netAdapter = false → rundown.phase = .runDown) :
    Owned { bulkIn with bulkInRundown := rundown, transmitting := transmitting } := by
  refine ⟨h.distinct, fun r => ?_, fun r => ?_, ?_, ?_, h.callbacks⟩
  · rw [← h.place r]
    unfold outside
    rw [hheld]
  · rw [h.returned r]
    unfold outside
    rw [hheld]
  · have hreferences := h.references
    dsimp only
    omega
  · exact fun hnone => ⟨(h.adapter hnone).1, hphase hnone⟩

/-- The assertion of `TransmitFrames` is on the length that it is to send. -/
theorem acquireRundown_owned (h : Owned bulkIn) (transferLength : Nat) :
    (∃ bulkIn', bulkIn.acquireRundown transferLength = .ok bulkIn' ∧ Owned bulkIn') ∨
      transferLength = 0 ∧ bulkIn.acquireRundown transferLength = .error .assertion := by
  unfold acquireRundown
  split
  next r hfilling =>
    split
    next rundown hacquire =>
      obtain ⟨hphase, href⟩ := Rundown.acquire_some hacquire
      have hadapter : bulkIn.netAdapter = true := by
        apply h.netAdapter (r := r)
        simp only [outside, hfilling, Transmitting.held, List.count_singleton_self]
        omega
      split
      next =>
        refine Or.inl ⟨_, rfl, h.transmitting ?_ ?_ ?_⟩
        · rw [hfilling]
          rfl
        · rw [hfilling, href]
          rfl
        · rw [hadapter]
          nofun
      next hzero => exact Or.inr ⟨Nat.eq_zero_of_not_pos hzero, rfl⟩
    next hrefuse =>
      refine Or.inl ⟨_, rfl, h.transmitting ?_ ?_ fun hnone => (h.adapter hnone).2⟩
      · rw [hfilling]
        rfl
      · rw [hfilling]
        rfl
  next => exact Or.inl ⟨bulkIn, rfl, h⟩

theorem formatRequest_owned (h : Owned bulkIn) (success : Bool) :
    Owned (bulkIn.formatRequest success) := by
  unfold formatRequest
  split
  next r hacquired =>
    refine h.transmitting ?_ ?_ fun hnone => (h.adapter hnone).2
    · rw [hacquired]
      cases success <;> rfl
    · rw [hacquired]
      cases success <;> rfl
  next => exact h

theorem sendRequest_owned (h : Owned bulkIn) (sent : Bool) : Owned (bulkIn.sendRequest sent) := by
  unfold sendRequest
  split
  next r hformatted =>
    split
    · refine h.moved (fun r' => ?_) ?_
      · simp only [outside, hformatted, Transmitting.held, List.count_append, List.count_nil]
        omega
      · simp only [hformatted, Transmitting.references, List.length_append, List.length_singleton]
        omega
    · refine h.transmitting ?_ ?_ fun hnone => (h.adapter hnone).2
      · rw [hformatted]
        rfl
      · rw [hformatted]
        rfl
  next => exact h

theorem releaseRundown_owned (h : Owned bulkIn) :
    ∃ bulkIn', bulkIn.releaseRundown = .ok bulkIn' ∧ Owned bulkIn' := by
  unfold releaseRundown
  split
  next r hfailed =>
    have href := h.references
    rw [hfailed] at href
    obtain ⟨rundown, hrelease, hphase, hone⟩ := Rundown.release_ok
      bulkIn.bulkInRundown (by rw [href]; exact Nat.succ_pos _)
    rw [hrelease, ok_bind]
    refine ⟨_, rfl, h.transmitting ?_ ?_ fun hnone => hphase.trans (h.adapter hnone).2⟩
    · rw [hfailed]
      rfl
    · rw [hfailed]
      exact hone
  next => exact ⟨bulkIn, rfl, h⟩

theorem complete_owned (h : Owned bulkIn) (r : Nat) : Owned (bulkIn.complete r) := by
  unfold complete
  split
  next hsent =>
    have hpos := List.length_pos_of_mem hsent
    refine h.moved (fun r' => ?_) ?_
    · rw [List.count_append, outside]
      have hmoved := count_erase_add hsent r'
      omega
    · rw [List.length_erase_of_mem hsent, List.length_append, List.length_singleton]
      omega
  next => exact h

theorem notifyTransmitCompletion_owned (h : Owned bulkIn) (r : Nat) :
    ∃ bulkIn', bulkIn.notifyTransmitCompletion r = .ok bulkIn' ∧ Owned bulkIn' := by
  unfold notifyTransmitCompletion
  split
  next hcompleting =>
    have hpos := List.length_pos_of_mem hcompleting
    have hcount := List.count_pos_iff.mpr hcompleting
    have hadapter := h.netAdapter (r := r) (by unfold outside; omega)
    rw [if_pos ⟨h.callbacks.trans hadapter, hadapter⟩]
    refine ⟨_, rfl, h.pooled (fun r' => ?_) ?_⟩
    · rw [outside, ← count_erase_add hcompleting r', ← Nat.add_assoc]
    · rw [List.length_erase_of_mem hcompleting]
      omega
  next => exact ⟨bulkIn, rfl, h⟩

theorem completionReleases_owned (h : Owned bulkIn) :
    ∃ bulkIn', bulkIn.completionReleases = .ok bulkIn' ∧ Owned bulkIn' := by
  unfold completionReleases
  split
  next => exact ⟨bulkIn, rfl, h⟩
  next hfinishing =>
    have href := h.references
    obtain ⟨rundown, hrelease, hphase, hone⟩ := Rundown.release_ok
      bulkIn.bulkInRundown (by omega)
    rw [hrelease, ok_bind]
    refine ⟨_, rfl, h.distinct, h.place, h.returned, ?_, ?_, h.callbacks⟩
    · dsimp only
      omega
    · exact fun hnone => ⟨(h.adapter hnone).1, hphase.trans (h.adapter hnone).2⟩

/-! ## Runs -/

theorem step_owned (h : Owned bulkIn) (event : BulkInEvent) :
    (∃ bulkIn', bulkIn.step event = .ok bulkIn' ∧ Owned bulkIn') ∨
      event = .acquireRundown 0 ∧ bulkIn.step event = .error .assertion := by
  cases event with
  | createAdapter requests => exact Or.inl ⟨_, rfl, createAdapter_owned h requests⟩
  | destroyAdapter => exact Or.inl ⟨_, rfl, destroyAdapter_owned h⟩
  | startTransmit => exact Or.inl ⟨_, rfl, startTransmit_owned h⟩
  | stopTransmit =>
    exact Or.inl ⟨_, rfl, h.rundown Rundown.wait_references
      fun hnone => Rundown.wait_phase (h.adapter hnone).2⟩
  | stopTransmitReturns =>
    exact Or.inl ⟨_, rfl, h.rundown Rundown.waitReturns_references
      fun hnone => Rundown.waitReturns_phase (h.adapter hnone).2⟩
  | getBufferRequest => exact Or.inl ⟨_, rfl, getBufferRequest_owned h⟩
  | returnBufferRequest => exact Or.inl ⟨_, rfl, returnBufferRequest_owned h⟩
  | acquireRundown transferLength =>
    rcases acquireRundown_owned h transferLength with hok | ⟨rfl, herror⟩
    · exact Or.inl hok
    · exact Or.inr ⟨rfl, herror⟩
  | formatRequest success => exact Or.inl ⟨_, rfl, formatRequest_owned h success⟩
  | sendRequest sent => exact Or.inl ⟨_, rfl, sendRequest_owned h sent⟩
  | releaseRundown => exact Or.inl (releaseRundown_owned h)
  | complete r => exact Or.inl ⟨_, rfl, complete_owned h r⟩
  | notifyTransmitCompletion r => exact Or.inl (notifyTransmitCompletion_owned h r)
  | completionReleases => exact Or.inl (completionReleases_owned h)

-- StopTransmit waits for the completion routine.
example : ([.createAdapter [0, 1], .startTransmit, .getBufferRequest, .acquireRundown 60,
    .formatRequest true, .sendRequest true, .stopTransmit, .complete 0, .notifyTransmitCompletion 0,
    .stopTransmitReturns, .completionReleases].foldlM step initialized).map
      (fun bulkIn => (bulkIn.pool, bulkIn.bulkInRundown.phase)) = .ok ([1, 0], .waiting) := by rfl

end BulkIn

end UsbNcm.Function
