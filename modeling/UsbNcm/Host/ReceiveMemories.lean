import UsbNcm.Adapter.RxBuffers
import UsbNcm.Host.Completion
import UsbNcm.Lib.Ledger
import UsbNcm.Lib.Run

/-!
# The references to the host's receive memories (`host/device.cpp`, `common/buffers.cpp`)

The continuous reader makes a memory object for each read and drops its own reference when the
completion routine has returned. The receive queue takes one more for as long as it has the memory.
-/

open Exec Ledger UsbNcm.Ring UsbNcm.Ntb UsbNcm.Ntb.NcmTransferBlock UsbNcm.Adapter
open UsbNcm.Adapter.NcmRxQueue

namespace UsbNcm.Host

structure HostReceive where
  hostDevice : HostConfiguration
  -- m_RxQueue of m_NetAdapter
  rxQueue : Option NcmRxQueue
  -- the pipe has been started, and StopPipe has not returned
  streaming : Bool
  -- how many memory objects the reader has made
  memories : Nat
  -- WdfObjectReference and WdfObjectDereference
  references : List (Entry Nat)

inductive HostReceiveEvent
  | createRxQueue (ncmAdapter : NcmAdapter) (ntb : NcmTransferBlock)
  -- what StartPipe returns
  | startReceive (status : NtStatus)
  -- the read memory, the size of the transfer, and what DMF_BufferQueue_Fetch returns
  | readCompletes (memory : WdfMemory) (numBytesTransferred : Nat) (fetched : NtStatus)
  -- Advance, in one go or with the passes of GetNextFrame one by one
  | advance {p f : Nat} (fuel : Nat) (osQueue : NcmOsQueue p f)
  | getNextFramePass
  | cancel
  | stopReceive
  | destroyRxQueue

/-- What `RxBufferQueueReturnBuffer` dereferences. -/
def dereferenced (actions : List RxAction) : List Nat :=
  (returnedBuffers actions).filterMap fun rxBuffer =>
    if rxBuffer.useContinuousRequestTarget then none else some rxBuffer.handle

namespace HostReceive

def newReceive (hostDevice : HostConfiguration) : HostReceive where
  hostDevice := hostDevice
  rxQueue := none
  streaming := false
  memories := 0
  references := []

/-- The reader makes a memory object for the read. -/
def nextMemory (receive : HostReceive) : HostReceive := { receive with memories := receive.memories + 1 }

/-- The completion routine, with `RxBufferQueueEnqueueBuffer`. -/
def readCompletes (receive : HostReceive) (memory : WdfMemory) (numBytesTransferred : Nat)
    (fetched : NtStatus) : Except Stop HostReceive :=
  match receive.rxQueue with
  | none => .error .access
  | some q => do
    let q ← dataBulkInPipeReadCompletetionRoutine receive.hostDevice q memory numBytesTransferred
    if fetched.ntSuccess then
      return { receive with
        rxQueue := some q
        references := receive.references ++ [.take memory.handle] }
    else return receive

/-- The queue has given buffers back. -/
def movedOn (receive : HostReceive) (q q' : NcmRxQueue) : HostReceive :=
  { receive with
    rxQueue := some q'
    references :=
      receive.references ++ (dereferenced (q'.log.drop q.log.length)).map .give }

/-- The calls to a queue come while there is one, and reads between start and stop. -/
def step (receive : HostReceive) : HostReceiveEvent → Except Stop HostReceive
  | .createRxQueue ncmAdapter ntb =>
    .ok (if receive.rxQueue.isSome then receive
      else { receive with rxQueue := some (waitingQueue ncmAdapter ntb []) })
  | .startReceive status =>
    .ok (if receive.rxQueue.isSome ∧ status.ntSuccess then { receive with streaming := true }
      else receive)
  | .readCompletes memory numBytesTransferred fetched =>
    if receive.streaming then
      receive.nextMemory.readCompletes { memory with handle := receive.memories } numBytesTransferred
        fetched
    else .ok receive
  | .advance fuel osQueue =>
    match receive.rxQueue with
    | none => .ok receive
    | some q => do
      let (q', _) ← q.advance fuel osQueue
      return receive.movedOn q q'
  | .getNextFramePass =>
    match receive.rxQueue with
    | none => .ok receive
    | some q => do
      let pass ← q.getNextFrameBody
      return receive.movedOn q (after pass)
  | .cancel => .ok receive
  | .stopReceive => .ok { receive with streaming := false }
  -- the queue goes with its buffers
  | .destroyRxQueue => .ok (if receive.streaming then receive else { receive with rxQueue := none })

variable {receive receive' : HostReceive} {q q' : NcmRxQueue}

/-! ## What is referenced -/

/-- The memories that the queue still has to look at. -/
def held (receive : HostReceive) : List Nat :=
  match receive.rxQueue with
  | none => []
  | some q => q.pending.map RxBuffer.handle

/-- No memory is referenced twice or dereferenced without a reference, and those that are referenced
are those that the queue has. -/
def Referenced (receive : HostReceive) : Prop := Kept receive.references receive.held

/-- A queue is empty when it is destroyed. -/
def Emptied (receive : HostReceive) : HostReceiveEvent → Prop
  | .destroyRxQueue => ∀ q ∈ receive.rxQueue, receive.streaming = false → q.pending = []
  | _ => True

/-- The buffer is one of the memories that the reader has made. -/
structure FromReader (memories : Nat) (rxBuffer : RxBuffer) : Prop where
  memory : rxBuffer.useContinuousRequestTarget = false
  handle_lt : rxBuffer.handle < memories

structure Streaming (receive : HostReceive) : Prop where
  rxQueue : receive.streaming = true → receive.rxQueue.isSome = true
  fromReader : ∀ q ∈ receive.rxQueue, ∀ b ∈ q.pending, FromReader receive.memories b

theorem newReceive_streaming (hostDevice : HostConfiguration) : Streaming (newReceive hostDevice) :=
  ⟨nofun, nofun⟩

theorem newReceive_referenced (hostDevice : HostConfiguration) : Referenced (newReceive hostDevice) :=
  .nil

/-! ## The queue moves on -/

theorem dereferenced_eq {actions : List RxAction}
    (h : ∀ b ∈ returnedBuffers actions, b.useContinuousRequestTarget = false) :
    dereferenced actions = (returnedBuffers actions).map RxBuffer.handle := by
  unfold dereferenced
  rw [← List.filterMap_eq_map]
  apply List.filterMap_congr
  intro b hb
  rw [h b hb]
  rfl

theorem movedOn_streaming {actions : List RxAction} (h : Streaming receive)
    (hqueue : receive.rxQueue = some q) (hmoved : HandsBack q q' actions) :
    Streaming (receive.movedOn q q') := by
  refine ⟨fun _ => rfl, fun q1 hq1 b hb => ?_⟩
  cases hq1
  have hmem : b ∈ q.pending := by
    rw [hmoved.pending]
    exact List.mem_append_right _ hb
  exact h.fromReader q hqueue b hmem

theorem movedOn_referenced {actions : List RxAction} (hstreaming : Streaming receive)
    (h : Referenced receive) (hqueue : receive.rxQueue = some q) (hmoved : HandsBack q q' actions) :
    Referenced (receive.movedOn q q') := by
  have hown : ∀ b ∈ returnedBuffers actions, b.useContinuousRequestTarget = false := by
    intro b hb
    apply (hstreaming.fromReader q hqueue b ?_).memory
    rw [hmoved.pending]
    exact List.mem_append_left _ hb
  unfold Referenced held at h
  rw [hqueue] at h
  dsimp only at h
  rw [hmoved.pending, List.map_append] at h
  unfold Referenced movedOn held
  dsimp only
  rw [hmoved.drop_log, dereferenced_eq hown]
  exact h.giveAll

/-! ## One event -/

/-- The completion routine ends in an assertion, drops the memory, or hands it to the queue. -/
theorem readCompletes_cases (hqueue : receive.rxQueue = some q) {memory : WdfMemory}
    {numBytesTransferred : Nat} {fetched : NtStatus}
    (h : receive.readCompletes memory numBytesTransferred fetched = .ok receive') :
    receive' = receive ∨
      receive' = { receive with
        rxQueue := some (q.rxBufferQueueEnqueueBuffer memory.rxBuffer)
        references := receive.references ++ [.take memory.handle] } := by
  unfold readCompletes dataBulkInPipeReadCompletetionRoutine at h
  rw [hqueue] at h
  dsimp only at h
  split at h
  · cases h
  · rw [ok_bind] at h
    split at h
    · cases h
      exact Or.inr rfl
    · cases h
      exact Or.inl rfl

theorem pending_enqueue (q : NcmRxQueue) (rxBuffer : RxBuffer) :
    (q.rxBufferQueueEnqueueBuffer rxBuffer).pending = q.pending ++ [rxBuffer] := by
  unfold NcmRxQueue.pending NcmRxQueue.rxBufferQueueEnqueueBuffer
  rw [List.append_assoc]

theorem read_streaming (h : Streaming receive) (hstart : receive.streaming = true)
    {memory : WdfMemory} {numBytesTransferred : Nat} {fetched : NtStatus}
    (hstep : receive.step (.readCompletes memory numBytesTransferred fetched) = .ok receive') :
    Streaming receive' := by
  obtain ⟨q, hq⟩ := Option.isSome_iff_exists.mp (h.rxQueue hstart)
  have hold : ∀ b ∈ q.pending, FromReader (receive.memories + 1) b := by
    intro b hb
    obtain ⟨hmemory, hlt⟩ := h.fromReader q hq b hb
    exact ⟨hmemory, Nat.lt_succ_of_lt hlt⟩
  unfold step at hstep
  dsimp only at hstep
  rw [if_pos hstart] at hstep
  have hnext : receive.nextMemory.rxQueue = some q := hq
  rcases readCompletes_cases hnext hstep with rfl | rfl
  · refine ⟨h.rxQueue, fun q1 hq1 => ?_⟩
    rw [show q1 = q from Option.some.inj (hq1.symm.trans hq)]
    exact hold
  · refine ⟨fun _ => rfl, fun q1 hq1 b hb => ?_⟩
    cases hq1
    rw [pending_enqueue, List.mem_append, List.mem_singleton] at hb
    rcases hb with hb | rfl
    · exact hold b hb
    · exact ⟨rfl, Nat.lt_succ_self _⟩

/-- Also a memory that finds no place in the queue is not lost. -/
theorem read_referenced (hstreaming : Streaming receive) (h : Referenced receive)
    (hstart : receive.streaming = true) {memory : WdfMemory} {numBytesTransferred : Nat}
    {fetched : NtStatus}
    (hstep : receive.step (.readCompletes memory numBytesTransferred fetched) = .ok receive') :
    Referenced receive' := by
  obtain ⟨q, hq⟩ := Option.isSome_iff_exists.mp (hstreaming.rxQueue hstart)
  unfold step at hstep
  dsimp only at hstep
  rw [if_pos hstart] at hstep
  have hnext : receive.nextMemory.rxQueue = some q := hq
  rcases readCompletes_cases hnext hstep with rfl | rfl
  · exact h
  · unfold Referenced held at h ⊢
    rw [hq] at h
    dsimp only at h ⊢
    rw [pending_enqueue, List.map_append]
    apply Kept.perm _ (List.perm_append_singleton _ _).symm
    apply h.take
    intro hmem
    obtain ⟨b, hb, heq⟩ := List.mem_map.mp hmem
    have hlt := (hstreaming.fromReader q hq b hb).handle_lt
    rw [heq] at hlt
    exact Nat.lt_irrefl _ hlt

theorem advance_movedOn {p f fuel : Nat} {osQueue : NcmOsQueue p f}
    (hstep : receive.step (.advance fuel osQueue) = .ok receive') :
    receive' = receive ∨ ∃ q q' actions, receive.rxQueue = some q ∧ HandsBack q q' actions ∧
      receive' = receive.movedOn q q' := by
  unfold step at hstep
  dsimp only at hstep
  split at hstep
  next =>
    cases hstep
    exact Or.inl rfl
  next q hq =>
    obtain ⟨⟨q', osQueue'⟩, hadvance, hstep⟩ := bind_eq_ok.mp hstep
    cases hstep
    obtain ⟨actions, hmoved⟩ := advance_handsBack hadvance
    exact Or.inr ⟨q, q', actions, hq, hmoved, rfl⟩

theorem getNextFramePass_movedOn (hstep : receive.step .getNextFramePass = .ok receive') :
    receive' = receive ∨ ∃ q q' actions, receive.rxQueue = some q ∧ HandsBack q q' actions ∧
      receive' = receive.movedOn q q' := by
  unfold step at hstep
  dsimp only at hstep
  split at hstep
  next =>
    cases hstep
    exact Or.inl rfl
  next q hq =>
    obtain ⟨pass, hpass, hstep⟩ := bind_eq_ok.mp hstep
    cases hstep
    obtain ⟨actions, hmoved⟩ := getNextFrameBody_handsBack hpass
    exact Or.inr ⟨q, after pass, actions, hq, hmoved, rfl⟩

theorem step_streaming {event : HostReceiveEvent} (h : Streaming receive)
    (hstep : receive.step event = .ok receive') : Streaming receive' := by
  cases event with
  | createRxQueue ncmAdapter ntb =>
    cases hstep
    split
    next => exact h
    next =>
      refine ⟨fun _ => rfl, fun q hq => ?_⟩
      cases hq
      exact fun b hb => absurd hb List.not_mem_nil
  | startReceive status =>
    cases hstep
    split
    next hstart => exact ⟨fun _ => hstart.1, h.fromReader⟩
    next => exact h
  | readCompletes memory numBytesTransferred fetched =>
    by_cases hstart : receive.streaming = true
    · exact read_streaming h hstart hstep
    · unfold step at hstep
      dsimp only at hstep
      rw [if_neg hstart] at hstep
      cases hstep
      exact h
  | advance fuel osQueue =>
    rcases advance_movedOn hstep with rfl | ⟨q, q', actions, hq, hmoved, rfl⟩
    · exact h
    · exact movedOn_streaming h hq hmoved
  | getNextFramePass =>
    rcases getNextFramePass_movedOn hstep with rfl | ⟨q, q', actions, hq, hmoved, rfl⟩
    · exact h
    · exact movedOn_streaming h hq hmoved
  | cancel =>
    cases hstep
    exact h
  | stopReceive =>
    cases hstep
    exact ⟨nofun, h.fromReader⟩
  | destroyRxQueue =>
    cases hstep
    split
    next => exact h
    next hstopped => exact ⟨fun hstart => absurd hstart hstopped, nofun⟩

theorem destroyRxQueue_referenced_iff (h : Referenced receive) :
    Emptied receive .destroyRxQueue ↔
      ∀ receive', receive.step .destroyRxQueue = .ok receive' → Referenced receive' := by
  have hstep : receive.step .destroyRxQueue =
      .ok (if receive.streaming then receive else { receive with rxQueue := none }) := rfl
  rw [hstep]
  by_cases hstart : receive.streaming = true
  · rw [if_pos hstart]
    refine iff_of_true (fun q _ hstopped => ?_) fun receive' hok => ?_
    · rw [hstart] at hstopped
      cases hstopped
    · cases hok
      exact h
  · rw [if_neg hstart]
    have hempty : Emptied receive .destroyRxQueue ↔ receive.held = [] := by
      unfold Emptied held
      cases hq : receive.rxQueue with
      | none => exact iff_of_true nofun rfl
      | some q =>
        rw [List.map_eq_nil_iff]
        constructor
        · exact fun hall => hall q rfl (Bool.eq_false_iff.mpr hstart)
        · rintro hnil q' ⟨⟩ -
          exact hnil
    rw [hempty, ← h.nil_iff]
    constructor
    · rintro hnil receive' ⟨⟩
      exact hnil
    · exact fun hall => hall _ rfl

theorem step_referenced_iff (hstreaming : Streaming receive) (h : Referenced receive)
    (event : HostReceiveEvent) :
    Emptied receive event ↔ ∀ receive', receive.step event = .ok receive' → Referenced receive' := by
  cases event with
  | createRxQueue ncmAdapter ntb =>
    refine iff_of_true trivial fun receive' hstep => ?_
    cases hstep
    split
    next => exact h
    next hnone =>
      unfold Referenced held at h ⊢
      rw [Option.not_isSome_iff_eq_none.mp hnone] at h
      exact h
  | startReceive status =>
    refine iff_of_true trivial fun receive' hstep => ?_
    cases hstep
    split <;> exact h
  | readCompletes memory numBytesTransferred fetched =>
    refine iff_of_true trivial fun receive' hstep => ?_
    by_cases hstart : receive.streaming = true
    · exact read_referenced hstreaming h hstart hstep
    · unfold step at hstep
      dsimp only at hstep
      rw [if_neg hstart] at hstep
      cases hstep
      exact h
  | advance fuel osQueue =>
    refine iff_of_true trivial fun receive' hstep => ?_
    rcases advance_movedOn hstep with rfl | ⟨q, q', actions, hq, hmoved, rfl⟩
    · exact h
    · exact movedOn_referenced hstreaming h hq hmoved
  | getNextFramePass =>
    refine iff_of_true trivial fun receive' hstep => ?_
    rcases getNextFramePass_movedOn hstep with rfl | ⟨q, q', actions, hq, hmoved, rfl⟩
    · exact h
    · exact movedOn_referenced hstreaming h hq hmoved
  | cancel =>
    refine iff_of_true trivial fun receive' hstep => ?_
    cases hstep
    exact h
  | stopReceive =>
    refine iff_of_true trivial fun receive' hstep => ?_
    cases hstep
    exact h
  | destroyRxQueue => exact destroyRxQueue_referenced_iff h

/-! ## Runs -/

/-- For every run of completed reads, of `Advance` and of the starts and stops of the queue, whatever
the reads contain: in every state no memory was referenced twice or dereferenced without a reference,
and those that are referenced are those that the queue has still to look at, exactly when every queue is
empty when it is destroyed. -/
theorem always_referenced_iff (hostDevice : HostConfiguration) (events : List HostReceiveEvent) :
    Always step Referenced (newReceive hostDevice) events ↔
      AllSteps step Emptied (newReceive hostDevice) events :=
  always_iff (fun _ _ _ => step_streaming) (fun _ event hs h => step_referenced_iff hs h event)
    (newReceive_streaming hostDevice) (newReceive_referenced hostDevice) events

end HostReceive

end UsbNcm.Host
