import UsbNcm.Adapter.RxDelivery
import UsbNcm.Adapter.RxFrames

/-!
# What the receive queue does with its buffers

Whatever is in them and whatever the framework's rings are like: the buffers leave the queue in the
order in which they came, and each is given back when it leaves.
-/

open Exec UsbNcm.Ring UsbNcm.Ntb UsbNcm.Ntb.NcmTransferBlock

namespace UsbNcm.Adapter.NcmRxQueue

variable {p f : Nat} {q q' : NcmRxQueue} {b : RxBuffer} {actions actions' : List RxAction}

/-- The first of the pending buffers have been given back, in their order. -/
structure HandsBack (q q' : NcmRxQueue) (actions : List RxAction) : Prop where
  log : q'.log = q.log ++ actions
  pending : q.pending = returnedBuffers actions ++ q'.pending

theorem HandsBack.refl (q : NcmRxQueue) : HandsBack q q [] := ⟨(List.append_nil _).symm, rfl⟩

theorem returnedBuffers_append (xs ys : List RxAction) :
    returnedBuffers (xs ++ ys) = returnedBuffers xs ++ returnedBuffers ys := List.filterMap_append

theorem HandsBack.trans {q1 q2 : NcmRxQueue} (h : HandsBack q q1 actions)
    (h' : HandsBack q1 q2 actions') : HandsBack q q2 (actions ++ actions') := by
  constructor
  · rw [h'.log, h.log, List.append_assoc]
  · rw [h.pending, h'.pending, returnedBuffers_append, List.append_assoc]

theorem HandsBack.drop_log (h : HandsBack q q' actions) : q'.log.drop q.log.length = actions := by
  rw [h.log, List.drop_left]

theorem handsBack_setNtb (ntb : NcmTransferBlock) : HandsBack q (q.setNtb ntb) [] :=
  ⟨(List.append_nil _).symm, rfl⟩

theorem handsBack_return (h : q.rxBufferInProcessing = some b) :
    HandsBack q (q.rxBufferQueueReturnBuffer b) [.returned b] := by
  refine ⟨rfl, ?_⟩
  unfold NcmRxQueue.pending
  rw [h]
  rfl

theorem handsBack_dequeued {rest : List RxBuffer} (hnone : q.rxBufferInProcessing = none)
    (hqueue : q.rxBufferQueue = b :: rest) (ntb : NcmTransferBlock) :
    HandsBack q (q.dequeued b rest ntb) [] := by
  refine ⟨(List.append_nil _).symm, ?_⟩
  unfold NcmRxQueue.pending
  rw [hnone, hqueue]
  rfl

/-! ## Passes and calls -/

theorem nextFrame_handsBack (hprocessing : q.rxBufferInProcessing = some b)
    {pass : Pass NcmRxQueue (NtStatus × DatagramPointer × NcmRxQueue)}
    (h : q.nextFrame b = .ok pass) : ∃ actions, HandsBack q (after pass) actions := by
  obtain ⟨status, d, tb', -, hcases⟩ := nextFrame_cases h
  have hset : HandsBack q (q.setNtb tb') [] := handsBack_setNtb tb'
  rcases hcases with ⟨-, rfl⟩ | ⟨-, wants, -, rfl⟩
  · exact ⟨_, hset.trans (handsBack_return hprocessing)⟩
  · cases wants <;> exact ⟨_, hset⟩

theorem getNextFrameBody_handsBack {pass : Pass NcmRxQueue (NtStatus × DatagramPointer × NcmRxQueue)}
    (h : q.getNextFrameBody = .ok pass) : ∃ actions, HandsBack q (after pass) actions := by
  rcases getNextFrameBody_cases h with ⟨b, hprocessing, hpass⟩ | ⟨-, -, rfl⟩ |
    ⟨b, rest, status, tb', hnone, hqueue, -, hcases⟩
  · exact nextFrame_handsBack hprocessing hpass
  · exact ⟨[], HandsBack.refl q⟩
  · have hdequeued := handsBack_dequeued hnone hqueue tb'
    rcases hcases with ⟨-, hpass⟩ | ⟨-, rfl⟩
    · obtain ⟨actions, hframe⟩ := nextFrame_handsBack rfl hpass
      exact ⟨_, hdequeued.trans hframe⟩
    · exact ⟨_, hdequeued.trans (handsBack_return rfl)⟩

theorem returns_handsBack {r : NtStatus × DatagramPointer × NcmRxQueue}
    (h : Returns getNextFrameBody q r) : ∃ actions, HandsBack q r.2.2 actions := by
  induction h with
  | leave hbody => exact getNextFrameBody_handsBack hbody
  | again hbody _ ih =>
    obtain ⟨actions, hfirst⟩ := getNextFrameBody_handsBack hbody
    obtain ⟨actions', hrest⟩ := ih
    exact ⟨_, hfirst.trans hrest⟩

theorem advanceLoop_handsBack {fuel n : Nat} {pi pi' : NcmPacketIterator p f}
    {fi : NcmOsRingIterator f} (h : advanceLoop fuel n q pi fi = .ok (q', pi')) :
    ∃ actions, HandsBack q q' actions := by
  induction n generalizing q pi fi with
  | zero =>
    cases h
    exact ⟨[], HandsBack.refl _⟩
  | succ n ih =>
    unfold advanceLoop at h
    obtain ⟨⟨status, frame, q1⟩, hcall, h⟩ := bind_eq_ok.mp h
    obtain ⟨actions, hframe⟩ := returns_handsBack (returns_of_loop hcall)
    dsimp only at h hframe
    split at h
    · split at h
      · cases h
      · obtain ⟨data, -, h⟩ := bind_eq_ok.mp h
        split at h
        · cases h
        · have hcopied : HandsBack q1 { q1 with log := q1.log ++ [.copied data] } [.copied data] :=
            ⟨rfl, rfl⟩
          obtain ⟨actions', hrest⟩ := ih h
          exact ⟨_, (hframe.trans hcopied).trans hrest⟩
    · cases h
      exact ⟨actions, hframe⟩

theorem advance_handsBack {fuel : Nat} {osQueue osQueue' : NcmOsQueue p f}
    (h : q.advance fuel osQueue = .ok (q', osQueue')) : ∃ actions, HandsBack q q' actions := by
  unfold NcmRxQueue.advance at h
  obtain ⟨⟨q1, pi⟩, hloop, h⟩ := bind_eq_ok.mp h
  cases h
  exact advanceLoop_handsBack hloop

end UsbNcm.Adapter.NcmRxQueue
