import UsbNcm.Adapter.RxBuffers
import UsbNcm.Lib.Run

/-!
# Who has the receive buffers of the function driver

`DataBulkOutPipeRead` promises to take each buffer that was read. The receive queue gives a buffer
back when it is done with it.
-/

open Exec UsbNcm.Ring UsbNcm.Ntb UsbNcm.Ntb.NcmTransferBlock UsbNcm.Adapter
open UsbNcm.Adapter.NcmRxQueue

namespace UsbNcm.Function

/-- `ContinuousRequestTarget_BufferDisposition` -/
inductive BufferDisposition
  | clientAndContinueStreaming
  | continuousRequestTargetAndContinueStreaming
  deriving DecidableEq, Repr

structure BulkOut where
  -- the receive queue of m_NetAdapter
  rxQueue : Option NcmRxQueue
  -- StartReceive has been called, and StopReceive has not returned
  streaming : Bool
  -- the buffers that DataBulkOutPipeRead has taken
  taken : List RxBuffer
  -- what the queues of former adapters have given back
  givenBack : List RxBuffer

inductive BulkOutEvent
  | createAdapter (ncmAdapter : NcmAdapter) (ntb : NcmTransferBlock)
  | startReceive
  -- the buffer read, and what DMF_BufferQueue_Fetch returns
  | dataBulkOutPipeRead (outputBuffer : RxBuffer) (completionStatus fetched : NtStatus)
  -- Advance, in one go or with the passes of GetNextFrame one by one
  | advance {p f : Nat} (fuel : Nat) (osQueue : NcmOsQueue p f)
  | getNextFramePass
  | cancel
  | stopReceive
  | destroyAdapter

/-- The buffers that were given back to the ContinuousRequestTarget. -/
def bufferPuts (log : List RxAction) : List RxBuffer :=
  log.filterMap fun
    | .returned rxBuffer => if rxBuffer.useContinuousRequestTarget then some rxBuffer else none
    | .copied _ => none

/-- `RxBufferQueueEnqueueBuffer` -/
def rxBufferQueueEnqueueBuffer (q : NcmRxQueue) (rxBuffer : RxBuffer) (fetched : NtStatus) :
    NtStatus × NcmRxQueue :=
  if fetched.ntSuccess then (fetched, q.rxBufferQueueEnqueueBuffer rxBuffer) else (fetched, q)

/-- `NcmAdapter::NotifyReceive` -/
def notifyReceive (q : NcmRxQueue) (rxBuffer : RxBuffer) (fetched : NtStatus) : NcmRxQueue :=
  (rxBufferQueueEnqueueBuffer q rxBuffer fetched).2

namespace BulkOut

def initialized : BulkOut where
  rxQueue := none
  streaming := false
  taken := []
  givenBack := []

/-- The buffer is the ContinuousRequestTarget's own. -/
def fromContinuousRequestTarget (outputBuffer : RxBuffer) : RxBuffer :=
  { outputBuffer with useContinuousRequestTarget := true }

def dataBulkOutPipeRead (bulkOut : BulkOut) (outputBuffer : RxBuffer)
    (completionStatus fetched : NtStatus) : Except Stop (BufferDisposition × BulkOut) :=
  if completionStatus.ntSuccess then
    match bulkOut.rxQueue with
    | none => .error .access
    | some q =>
      .ok (.clientAndContinueStreaming,
        { bulkOut with
          rxQueue := some (notifyReceive q (fromContinuousRequestTarget outputBuffer) fetched) })
  else .ok (.continuousRequestTargetAndContinueStreaming, bulkOut)

/-- The buffer belongs to who the disposition says. -/
def take (bulkOut : BulkOut) (outputBuffer : RxBuffer) : BufferDisposition → BulkOut
  | .clientAndContinueStreaming =>
    { bulkOut with taken := bulkOut.taken ++ [fromContinuousRequestTarget outputBuffer] }
  | .continuousRequestTargetAndContinueStreaming => bulkOut

/-- The queue goes with the adapter. What it holds is not given back. -/
def destroyAdapter (bulkOut : BulkOut) : BulkOut :=
  match bulkOut.rxQueue with
  | none => bulkOut
  | some q => { bulkOut with rxQueue := none, givenBack := bulkOut.givenBack ++ bufferPuts q.log }

/-- The calls to a queue come while there is one, and reads between start and stop. -/
def step (bulkOut : BulkOut) : BulkOutEvent → Except Stop BulkOut
  | .createAdapter ncmAdapter ntb =>
    .ok (if bulkOut.rxQueue.isSome then bulkOut
      else { bulkOut with rxQueue := some (waitingQueue ncmAdapter ntb []) })
  | .startReceive => .ok (if bulkOut.rxQueue.isSome then { bulkOut with streaming := true } else bulkOut)
  | .dataBulkOutPipeRead outputBuffer completionStatus fetched =>
    if bulkOut.streaming then do
      let (disposition, bulkOut) ←
        bulkOut.dataBulkOutPipeRead outputBuffer completionStatus fetched
      return bulkOut.take outputBuffer disposition
    else .ok bulkOut
  | .advance fuel osQueue =>
    match bulkOut.rxQueue with
    | none => .ok bulkOut
    | some q => do
      let (q, _) ← q.advance fuel osQueue
      return { bulkOut with rxQueue := some q }
  | .getNextFramePass =>
    match bulkOut.rxQueue with
    | none => .ok bulkOut
    | some q => do
      let pass ← q.getNextFrameBody
      return { bulkOut with rxQueue := some (after pass) }
  | .cancel => .ok bulkOut
  | .stopReceive => .ok { bulkOut with streaming := false }
  | .destroyAdapter => .ok (if bulkOut.streaming then bulkOut else bulkOut.destroyAdapter)

/-! ## Where the buffers are -/

/-- Every buffer that was taken is in one of: given back, in processing, in the queue. Without a queue
there is only the first. -/
def Accounted (bulkOut : BulkOut) : Prop :=
  bulkOut.taken.Perm (bulkOut.givenBack ++
    match bulkOut.rxQueue with
    | none => []
    | some q => bufferPuts q.log ++ q.pending)

/-- The buffer that is taken gets into the queue, and the queue that is destroyed is empty. -/
def Lossless (bulkOut : BulkOut) : BulkOutEvent → Prop
  | .dataBulkOutPipeRead _ completionStatus fetched =>
    bulkOut.streaming → completionStatus.ntSuccess → fetched.ntSuccess
  | .destroyAdapter =>
    ∀ q ∈ bulkOut.rxQueue, bulkOut.streaming = false →
      q.rxBufferInProcessing = none ∧ q.rxBufferQueue = []
  | _ => True

/-! ## What the queue does with its buffers -/

/-- Each buffer that the queue has is the ContinuousRequestTarget's. -/
def Own (q : NcmRxQueue) : Prop := ∀ b ∈ q.pending, b.useContinuousRequestTarget = true

/-- Buffers have at most moved on, from the queue to processing and on to the target. -/
structure Kept (q q' : NcmRxQueue) : Prop where
  buffers : bufferPuts q'.log ++ q'.pending = bufferPuts q.log ++ q.pending
  own : Own q'

variable {q q' : NcmRxQueue}

theorem bufferPuts_append (xs ys : List RxAction) :
    bufferPuts (xs ++ ys) = bufferPuts xs ++ bufferPuts ys := List.filterMap_append

/-- All buffers that are returned go to the target when they are its own. -/
theorem bufferPuts_eq {actions : List RxAction}
    (h : ∀ b ∈ returnedBuffers actions, b.useContinuousRequestTarget = true) :
    bufferPuts actions = returnedBuffers actions := by
  induction actions with
  | nil => rfl
  | cons action actions ih =>
    cases action with
    | copied data => exact ih h
    | returned b =>
      obtain ⟨hfirst, hrest⟩ := List.forall_mem_cons.mp h
      have hput : bufferPuts (.returned b :: actions) = b :: bufferPuts actions := by
        simp [bufferPuts, hfirst]
      rw [hput, ih hrest]
      rfl

theorem Kept.of_handsBack {actions : List RxAction} (hmoved : HandsBack q q' actions) (h : Own q) :
    Kept q q' := by
  unfold Own at h
  rw [hmoved.pending, List.forall_mem_append] at h
  refine ⟨?_, h.2⟩
  rw [hmoved.log, hmoved.pending, bufferPuts_append, bufferPuts_eq h.1, List.append_assoc]

/-! ## One event -/

variable {bulkOut bulkOut' : BulkOut} {event : BulkOutEvent}

/-- There is a queue while the target is streaming, and it has buffers of the target only. -/
structure Streaming (bulkOut : BulkOut) : Prop where
  rxQueue : bulkOut.streaming = true → bulkOut.rxQueue.isSome = true
  own : ∀ q ∈ bulkOut.rxQueue, Own q

theorem kept_accounted_iff (hqueue : bulkOut.rxQueue = some q) (h : Kept q q') :
    Accounted { bulkOut with rxQueue := some q' } ↔ Accounted bulkOut := by
  unfold Accounted
  dsimp only
  rw [hqueue]
  dsimp only
  rw [h.buffers]

theorem read_enqueued (hqueue : bulkOut.rxQueue = some q) (outputBuffer : RxBuffer)
    {fetched : NtStatus} (hfetched : fetched.ntSuccess = true) :
    Accounted { bulkOut with
      rxQueue := some (notifyReceive q (fromContinuousRequestTarget outputBuffer) fetched)
      taken := bulkOut.taken ++ [fromContinuousRequestTarget outputBuffer] } ↔ Accounted bulkOut := by
  unfold Accounted notifyReceive UsbNcm.Function.rxBufferQueueEnqueueBuffer
  rw [if_pos hfetched, hqueue]
  unfold NcmRxQueue.rxBufferQueueEnqueueBuffer NcmRxQueue.pending
  simp only [← List.append_assoc]
  exact List.perm_append_right_iff _

/-- A buffer that was taken and not enqueued is nowhere. -/
theorem read_lost (hqueue : bulkOut.rxQueue = some q) (outputBuffer : RxBuffer)
    {fetched : NtStatus} (hfetched : fetched.ntSuccess = false) (h : Accounted bulkOut) :
    ¬ Accounted { bulkOut with
      rxQueue := some (notifyReceive q (fromContinuousRequestTarget outputBuffer) fetched)
      taken := bulkOut.taken ++ [fromContinuousRequestTarget outputBuffer] } := by
  unfold Accounted notifyReceive UsbNcm.Function.rxBufferQueueEnqueueBuffer at *
  rw [hqueue] at h
  rw [if_neg (by rw [hfetched]; nofun)]
  intro hlost
  have hlength := h.length_eq
  have hlength' := hlost.length_eq
  simp only [List.length_append, List.length_singleton] at hlength hlength'
  omega

theorem destroy_accounted_iff (hqueue : bulkOut.rxQueue = some q) (h : Accounted bulkOut) :
    Accounted bulkOut.destroyAdapter ↔ q.pending = [] := by
  unfold Accounted at h
  unfold Accounted destroyAdapter
  rw [hqueue] at h ⊢
  dsimp only at h ⊢
  rw [List.append_nil]
  rw [← List.append_assoc] at h
  constructor
  · intro hgiven
    have hlength := h.length_eq
    rw [List.length_append, hgiven.length_eq] at hlength
    exact List.eq_nil_of_length_eq_zero (by omega)
  · intro hnil
    rwa [hnil, List.append_nil] at h

theorem pending_eq_nil : q.pending = [] ↔ q.rxBufferInProcessing = none ∧ q.rxBufferQueue = [] := by
  unfold NcmRxQueue.pending
  rw [List.append_eq_nil_iff, Option.toList_eq_nil_iff]

theorem createAdapter_accounted (h : Accounted bulkOut) (hnone : ¬ bulkOut.rxQueue.isSome)
    (ncmAdapter : NcmAdapter) (ntb : NcmTransferBlock) :
    Accounted { bulkOut with rxQueue := some (waitingQueue ncmAdapter ntb []) } := by
  unfold Accounted at *
  rw [Option.not_isSome_iff_eq_none.mp hnone] at h
  exact h

theorem notifyReceive_own (h : Own q) (outputBuffer : RxBuffer) (fetched : NtStatus) :
    Own (notifyReceive q (fromContinuousRequestTarget outputBuffer) fetched) := by
  unfold notifyReceive UsbNcm.Function.rxBufferQueueEnqueueBuffer
  split
  · intro b hb
    unfold NcmRxQueue.rxBufferQueueEnqueueBuffer NcmRxQueue.pending at hb
    rw [← List.append_assoc, List.mem_append, List.mem_singleton] at hb
    rcases hb with hb | rfl
    · exact h b hb
    · rfl
  · exact h

/-- The queue, if there is one, has at most moved its buffers on. -/
def MovedOn (bulkOut bulkOut' : BulkOut) : Prop :=
  bulkOut' = bulkOut ∨ ∃ q q', bulkOut.rxQueue = some q ∧ Kept q q' ∧
    bulkOut' = { bulkOut with rxQueue := some q' }

theorem MovedOn.streaming (hmoved : MovedOn bulkOut bulkOut') (h : Streaming bulkOut) :
    Streaming bulkOut' := by
  rcases hmoved with rfl | ⟨q, q', -, hkept, rfl⟩
  · exact h
  · refine ⟨fun _ => rfl, fun q1 hq1 => ?_⟩
    cases hq1
    exact hkept.own

theorem MovedOn.accounted (hmoved : MovedOn bulkOut bulkOut') (h : Accounted bulkOut) :
    Accounted bulkOut' := by
  rcases hmoved with rfl | ⟨q, q', hqueue, hkept, rfl⟩
  · exact h
  · exact (kept_accounted_iff hqueue hkept).mpr h

theorem advance_movedOn {p f fuel : Nat} {osQueue : NcmOsQueue p f} (h : Streaming bulkOut)
    (hstep : bulkOut.step (.advance fuel osQueue) = .ok bulkOut') : MovedOn bulkOut bulkOut' := by
  unfold step at hstep
  dsimp only at hstep
  split at hstep
  next =>
    cases hstep
    exact Or.inl rfl
  next q hq =>
    obtain ⟨⟨q', osQueue'⟩, hadvance, hstep⟩ := bind_eq_ok.mp hstep
    cases hstep
    obtain ⟨actions, hmoved⟩ := advance_handsBack hadvance
    exact Or.inr ⟨q, q', hq, .of_handsBack hmoved (h.own q hq), rfl⟩

theorem getNextFramePass_movedOn (h : Streaming bulkOut)
    (hstep : bulkOut.step .getNextFramePass = .ok bulkOut') : MovedOn bulkOut bulkOut' := by
  unfold step at hstep
  dsimp only at hstep
  split at hstep
  next =>
    cases hstep
    exact Or.inl rfl
  next q hq =>
    obtain ⟨pass, hpass, hstep⟩ := bind_eq_ok.mp hstep
    cases hstep
    obtain ⟨actions, hmoved⟩ := getNextFrameBody_handsBack hpass
    exact Or.inr ⟨q, after pass, hq, .of_handsBack hmoved (h.own q hq), rfl⟩

theorem step_streaming (h : Streaming bulkOut) (hstep : bulkOut.step event = .ok bulkOut') :
    Streaming bulkOut' := by
  cases event with
  | createAdapter ncmAdapter ntb =>
    cases hstep
    split
    · exact h
    · refine ⟨fun _ => rfl, fun q hq => ?_⟩
      cases hq
      exact List.forall_mem_nil _
  | startReceive =>
    cases hstep
    split
    next hsome => exact ⟨fun _ => hsome, h.own⟩
    next => exact h
  | dataBulkOutPipeRead outputBuffer completionStatus fetched =>
    unfold step at hstep
    dsimp only at hstep
    split at hstep
    next hstreaming =>
      obtain ⟨q, hq⟩ := Option.isSome_iff_exists.mp (h.rxQueue hstreaming)
      unfold dataBulkOutPipeRead at hstep
      rw [hq] at hstep
      split at hstep
      · cases hstep
        refine ⟨fun _ => rfl, fun q' hq' => ?_⟩
        cases hq'
        exact notifyReceive_own (h.own q hq) _ _
      · cases hstep
        exact h
    next =>
      cases hstep
      exact h
  | advance fuel osQueue => exact (advance_movedOn h hstep).streaming h
  | getNextFramePass => exact (getNextFramePass_movedOn h hstep).streaming h
  | cancel =>
    cases hstep
    exact h
  | stopReceive =>
    cases hstep
    exact ⟨nofun, h.own⟩
  | destroyAdapter =>
    cases hstep
    split
    next => exact h
    next hstopped =>
      unfold destroyAdapter
      split
      · exact h
      · exact ⟨fun hstreaming => absurd hstreaming hstopped, nofun⟩

theorem forall_ok_iff {x : Except Stop BulkOut} (hx : x = .ok bulkOut') :
    (∀ bulkOut1, x = .ok bulkOut1 → Accounted bulkOut1) ↔ Accounted bulkOut' := by
  rw [hx]
  constructor
  · exact fun h => h bulkOut' rfl
  · rintro h bulkOut1 ⟨⟩
    exact h

theorem read_accounted_iff (hstreaming : Streaming bulkOut) (h : Accounted bulkOut)
    (outputBuffer : RxBuffer) (completionStatus fetched : NtStatus) :
    Lossless bulkOut (.dataBulkOutPipeRead outputBuffer completionStatus fetched) ↔
      ∀ bulkOut', bulkOut.step (.dataBulkOutPipeRead outputBuffer completionStatus fetched) =
        .ok bulkOut' → Accounted bulkOut' := by
  by_cases hread : bulkOut.streaming = true ∧ completionStatus.ntSuccess = true
  · obtain ⟨hstart, hcompleted⟩ := hread
    obtain ⟨q, hq⟩ := Option.isSome_iff_exists.mp (hstreaming.rxQueue hstart)
    have hlossless : Lossless bulkOut (.dataBulkOutPipeRead outputBuffer completionStatus fetched) ↔
        fetched.ntSuccess = true := ⟨fun hl => hl hstart hcompleted, fun hf _ _ => hf⟩
    have hstep : bulkOut.step (.dataBulkOutPipeRead outputBuffer completionStatus fetched) = .ok
        { bulkOut with
          rxQueue := some (notifyReceive q (fromContinuousRequestTarget outputBuffer) fetched)
          taken := bulkOut.taken ++ [fromContinuousRequestTarget outputBuffer] } := by
      unfold step dataBulkOutPipeRead
      dsimp only
      rw [if_pos hstart, if_pos hcompleted, hq]
      rfl
    rw [hlossless, forall_ok_iff hstep]
    constructor
    · exact fun hf => (read_enqueued hq outputBuffer hf).mpr h
    · intro haccounted
      by_contra hf
      exact read_lost hq outputBuffer (Bool.eq_false_iff.mpr hf) h haccounted
  · have hstep : bulkOut.step (.dataBulkOutPipeRead outputBuffer completionStatus fetched) =
        .ok bulkOut := by
      unfold step dataBulkOutPipeRead
      dsimp only
      split
      next hstart =>
        rw [if_neg fun hcompleted => hread ⟨hstart, hcompleted⟩]
        rfl
      next => rfl
    rw [forall_ok_iff hstep]
    exact iff_of_true (fun hstart hcompleted => absurd ⟨hstart, hcompleted⟩ hread) h

theorem destroyAdapter_lossless_iff (h : Accounted bulkOut) :
    Lossless bulkOut .destroyAdapter ↔
      ∀ bulkOut', bulkOut.step .destroyAdapter = .ok bulkOut' → Accounted bulkOut' := by
  rw [forall_ok_iff (show bulkOut.step .destroyAdapter = .ok _ from rfl)]
  by_cases hstart : bulkOut.streaming = true
  · rw [if_pos hstart]
    refine iff_of_true (fun q _ hstopped => ?_) h
    rw [hstart] at hstopped
    cases hstopped
  · rw [if_neg hstart]
    by_cases hsome : bulkOut.rxQueue.isSome
    · obtain ⟨q, hq⟩ := Option.isSome_iff_exists.mp hsome
      rw [destroy_accounted_iff hq h, pending_eq_nil]
      constructor
      · exact fun hl => hl q hq (Bool.eq_false_iff.mpr hstart)
      · intro hnil q' hq' _
        rw [hq] at hq'
        cases hq'
        exact hnil
    · have hnone := Option.not_isSome_iff_eq_none.mp hsome
      unfold destroyAdapter Lossless
      rw [hnone]
      exact iff_of_true nofun h

/-- An event keeps account of the buffers exactly when it loses none. -/
theorem step_accounted_iff (hstreaming : Streaming bulkOut) (h : Accounted bulkOut)
    (event : BulkOutEvent) :
    Lossless bulkOut event ↔ ∀ bulkOut', bulkOut.step event = .ok bulkOut' → Accounted bulkOut' := by
  cases event with
  | createAdapter ncmAdapter ntb =>
    refine iff_of_true trivial fun bulkOut' hstep => ?_
    cases hstep
    split
    next => exact h
    next hnone => exact createAdapter_accounted h hnone ncmAdapter ntb
  | startReceive =>
    refine iff_of_true trivial fun bulkOut' hstep => ?_
    cases hstep
    split <;> exact h
  | dataBulkOutPipeRead outputBuffer completionStatus fetched =>
    exact read_accounted_iff hstreaming h outputBuffer completionStatus fetched
  | advance fuel osQueue =>
    exact iff_of_true trivial fun _ hstep => (advance_movedOn hstreaming hstep).accounted h
  | getNextFramePass =>
    exact iff_of_true trivial fun _ hstep => (getNextFramePass_movedOn hstreaming hstep).accounted h
  | cancel =>
    refine iff_of_true trivial fun bulkOut' hstep => ?_
    cases hstep
    exact h
  | stopReceive =>
    refine iff_of_true trivial fun bulkOut' hstep => ?_
    cases hstep
    exact h
  | destroyAdapter => exact destroyAdapter_lossless_iff h

/-! ## Runs -/

theorem initialized_streaming : Streaming initialized := ⟨nofun, nofun⟩

/-- For every run from the initialised driver: in every state each buffer that was taken is given back,
in processing or in the queue, and given back when the queue is gone, exactly when every buffer that is
taken gets a place in the queue and every queue is empty when it is destroyed. -/
theorem always_accounted_iff (es : List BulkOutEvent) :
    Always step Accounted initialized es ↔ AllSteps step Lossless initialized es :=
  always_iff (fun _ _ _ => step_streaming) (fun _ event hs h => step_accounted_iff hs h event)
    initialized_streaming (List.Perm.refl []) es

/-- An adapter that takes every frame. -/
def promiscuousAdapter : NcmAdapter where
  parameters := ⟨false, [2, 0, 0, 0, 0, 1], 9014, 16, 0x10000, 4, 4, 0⟩
  packetFilters := ndisPacketTypePromiscuous
  currentMacAddress := Vector.replicate 6 2

def oneByte : RxBuffer := ⟨0, true, [0], by decide⟩

/-- A fetch that fails. -/
def lostRead : List BulkOutEvent :=
  [.createAdapter promiscuousAdapter (initialBlock 16 4 4 0 false), .startReceive,
    .dataBulkOutPipeRead oneByte .success .insufficientResources]

/-- A queue that is destroyed with a buffer. -/
def lostQueue : List BulkOutEvent :=
  [.createAdapter promiscuousAdapter (initialBlock 16 4 4 0 false), .startReceive,
    .dataBulkOutPipeRead oneByte .success .success, .cancel, .stopReceive, .destroyAdapter]

/-- The buffer that was taken is neither given back nor in a queue. -/
theorem not_accounted (htaken : bulkOut.taken = [oneByte]) (hgiven : bulkOut.givenBack = [])
    (hqueue : ∀ q ∈ bulkOut.rxQueue, q.log = [] ∧ q.pending = []) : ¬ Accounted bulkOut := by
  intro h
  unfold Accounted at h
  rw [htaken, hgiven] at h
  have hlength := h.length_eq
  split at hlength
  next => cases hlength
  next q hq =>
    obtain ⟨hlog, hheld⟩ := hqueue q hq
    rw [hlog, hheld] at hlength
    cases hlength

theorem buffers_lost :
    ¬ Always step Accounted initialized lostRead ∧ ¬ Always step Accounted initialized lostQueue := by
  constructor
  · intro h
    refine not_accounted rfl rfl ?_ (h.last rfl)
    rintro q ⟨⟩
    exact ⟨rfl, rfl⟩
  · intro h
    refine not_accounted rfl rfl ?_ (h.last rfl)
    nofun

end BulkOut

end UsbNcm.Function
