import UsbNcm.Adapter.RxQueue
import UsbNcm.Ntb.Chain

/-!
# What is left in the receive queue

The state of the queue is spread over the waiting buffers, the buffer in processing and the cursor of
the transfer block. `Left` puts these together to the datagrams that are still to come, and there is
a lemma for each thing that a pass of `GetNextFrame` can do with the first of them.
-/

open Exec ByteMemory UsbNcm.Ring UsbNcm.Ntb UsbNcm.Ntb.NcmTransferBlock

namespace UsbNcm.Adapter

/-! ## The checks on a frame -/

namespace NcmAdapter

def wanted (ncmAdapter : NcmAdapter) (m : Memory) (frame : DatagramPointer) : Bool :=
  match ncmAdapter.wantsFrame m frame with
  | .ok wants => wants
  | .error _ => false

theorem wanted_of_ok {ncmAdapter : NcmAdapter} {m : Memory} {frame : DatagramPointer} {wants : Bool}
    (h : ncmAdapter.wantsFrame m frame = .ok wants) : ncmAdapter.wanted m frame = wants := by
  unfold wanted
  rw [h]

theorem matchPacketFilter_ok (ncmAdapter : NcmAdapter) {m : Memory} {frame : Nat}
    (h : ∀ i, frame ≤ i → i < frame + 6 → (m i).isSome) :
    ∃ wants, ncmAdapter.matchPacketFilter m frame = .ok wants := by
  obtain ⟨first, hfirst⟩ := readByte_ok (h frame (Nat.le_refl _) (by omega))
  obtain ⟨address, haddress⟩ := readBytes_ok h
  unfold matchPacketFilter
  simp only [hfirst, haddress, ok_bind]
  repeat' split
  all_goals exact ⟨_, rfl⟩

theorem wantsFrame_ok (ncmAdapter : NcmAdapter) {bytes : List UInt8} {frame : DatagramPointer}
    (h : frame.datagramIndex + frame.datagramLength ≤ bytes.length) :
    ∃ wants, ncmAdapter.wantsFrame (ofBytes bytes) frame = .ok wants := by
  unfold wantsFrame
  split
  · exact ⟨false, rfl⟩
  · next hsize =>
    unfold sizeofEthernetHeader at hsize
    exact matchPacketFilter_ok ncmAdapter fun i _ hi => mapped_ofBytes bytes i (by omega)

theorem wantsFrame_below {m m' : Memory} (ncmAdapter : NcmAdapter) (hm : Extends m m')
    (frame : DatagramPointer) :
    Below (ncmAdapter.wantsFrame m frame) (ncmAdapter.wantsFrame m' frame) := by
  unfold wantsFrame matchPacketFilter
  refine .ite (.refl _) ((hm.readByte _).bind fun first => .ite (.refl _) (.ite (.refl _) ?_))
  exact .ite ((hm.readBytes _ _).bind fun address => .refl _) (.refl _)

theorem wanted_size {ncmAdapter : NcmAdapter} {m : Memory} {frame : DatagramPointer}
    (h : ncmAdapter.wanted m frame = true) :
    sizeofEthernetHeader ≤ frame.datagramLength ∧
      frame.datagramLength ≤ ncmAdapter.parameters.maxDatagramSize.toNat := by
  unfold wanted wantsFrame at h
  split at h
  · next hok =>
    split at hok
    · cases hok; cases h
    · omega
  · cases h

end NcmAdapter

namespace NcmRxQueue

variable {q q' : NcmRxQueue} {b : RxBuffer} {d : DatagramPointer} {ds : List DatagramPointer}
  {tb' : NcmTransferBlock} {xs ys : List (RxBuffer × List DatagramPointer)}

/-! ## One pass -/

theorem nextFrame_of_done {status : NtStatus} (h : q.ntb.getNextDatagram 64 = .ok (status, d, tb'))
    (hstatus : status ≠ .success) :
    q.nextFrame b = .ok (.again ((q.setNtb tb').rxBufferQueueReturnBuffer b)) := by
  unfold nextFrame
  rw [h, ok_bind]
  simp only [hstatus, if_false]
  rfl

theorem nextFrame_of_datagram {wants : Bool}
    (h : q.ntb.getNextDatagram 64 = .ok (.success, d, tb'))
    (hwants : q.ncmAdapter.wantsFrame tb'.buffer d = .ok wants) :
    q.nextFrame b =
      .ok (if wants then .leave (.success, d, q.setNtb tb') else .again (q.setNtb tb')) := by
  unfold nextFrame
  rw [h, ok_bind]
  simp only [if_true, hwants, ok_bind]
  cases wants <;> rfl

theorem nextFrame_cases {pass : Pass NcmRxQueue (NtStatus × DatagramPointer × NcmRxQueue)}
    (h : q.nextFrame b = .ok pass) :
    ∃ status d tb', q.ntb.getNextDatagram 64 = .ok (status, d, tb') ∧
      ((status ≠ .success ∧ pass = .again ((q.setNtb tb').rxBufferQueueReturnBuffer b)) ∨
        (status = .success ∧ ∃ wants, q.ncmAdapter.wantsFrame tb'.buffer d = .ok wants ∧
          pass = if wants then .leave (.success, d, q.setNtb tb') else .again (q.setNtb tb'))) := by
  unfold nextFrame at h
  obtain ⟨⟨status, d, tb'⟩, hcall, h⟩ := bind_eq_ok.mp h
  refine ⟨status, d, tb', hcall, ?_⟩
  dsimp only at h
  split at h
  · next hstatus =>
    obtain ⟨wants, hwants, h⟩ := bind_eq_ok.mp h
    refine Or.inr ⟨hstatus, wants, hwants, ?_⟩
    cases wants <;> (cases h; rfl)
  · next hstatus =>
    cases h
    exact Or.inl ⟨hstatus, rfl⟩

/-- A pass looks at the buffer in processing, finds no buffer, or takes out the next one. -/
theorem getNextFrameBody_cases {pass : Pass NcmRxQueue (NtStatus × DatagramPointer × NcmRxQueue)}
    (h : getNextFrameBody q = .ok pass) :
    (∃ b, q.rxBufferInProcessing = some b ∧ q.nextFrame b = .ok pass) ∨
      (q.rxBufferInProcessing = none ∧ q.rxBufferQueue = [] ∧
        pass = .leave (.noMoreEntries, ⟨0, 0⟩, q)) ∨
      ∃ b rest status tb', q.rxBufferInProcessing = none ∧ q.rxBufferQueue = b :: rest ∧
        q.ntb.reInitializeBuffer 64 (ofBytes b.bytes) b.bytes.length .rx = .ok (status, tb') ∧
        ((status = .success ∧ (q.dequeued b rest tb').nextFrame b = .ok pass) ∨
          (status ≠ .success ∧ pass = .again ((q.dequeued b rest tb').rxBufferQueueReturnBuffer b))) := by
  unfold getNextFrameBody at h
  split at h
  · next b hprocessing => exact Or.inl ⟨b, hprocessing, h⟩
  · next hprocessing =>
    split at h
    · next hqueue =>
      cases h
      exact Or.inr (Or.inl ⟨hprocessing, hqueue, rfl⟩)
    · next b rest hqueue =>
      obtain ⟨⟨status, tb'⟩, hinit, h⟩ := bind_eq_ok.mp h
      refine Or.inr (Or.inr ⟨b, rest, status, tb', hprocessing, hqueue, hinit, ?_⟩)
      cases status with
      | success => exact Or.inl ⟨rfl, h⟩
      | _ =>
        cases h
        exact Or.inr ⟨nofun, rfl⟩

theorem getNextFrameBody_processing (h : q.rxBufferInProcessing = some b) :
    getNextFrameBody q = q.nextFrame b := by
  unfold getNextFrameBody
  rw [h]

theorem getNextFrameBody_accepts {rest : List RxBuffer} (hnone : q.rxBufferInProcessing = none)
    (hqueue : q.rxBufferQueue = b :: rest)
    (h : q.ntb.reInitializeBuffer 64 (ofBytes b.bytes) b.bytes.length .rx = .ok (.success, tb')) :
    getNextFrameBody q = getNextFrameBody (q.dequeued b rest tb') := by
  rw [getNextFrameBody_processing (q := q.dequeued b rest tb') (b := b) rfl]
  unfold getNextFrameBody
  simp only [hnone, hqueue, h, ok_bind]
  rfl

theorem getNextFrameBody_rejects {rest : List RxBuffer} {status : NtStatus}
    (hnone : q.rxBufferInProcessing = none) (hqueue : q.rxBufferQueue = b :: rest)
    (h : q.ntb.reInitializeBuffer 64 (ofBytes b.bytes) b.bytes.length .rx = .ok (status, tb'))
    (hstatus : status ≠ .success) :
    getNextFrameBody q =
      .ok (.again ((q.dequeued b rest tb').rxBufferQueueReturnBuffer b)) := by
  have hfail : status.ntSuccess = false := by
    cases status <;> first | rfl | exact absurd rfl hstatus
  unfold getNextFrameBody
  simp only [hnone, hqueue, h, ok_bind, hfail]
  rfl

theorem getNextFrameBody_empty (hnone : q.rxBufferInProcessing = none)
    (hqueue : q.rxBufferQueue = []) :
    getNextFrameBody q = .ok (.leave (.noMoreEntries, ⟨0, 0⟩, q)) := by
  unfold getNextFrameBody
  simp only [hnone, hqueue]

/-! ## What is left -/

structure Waiting (q : NcmRxQueue) (xs : List (RxBuffer × List DatagramPointer)) : Prop where
  buffers : xs.map Prod.fst = q.rxBufferQueue
  contents : ∀ x ∈ xs, Contents q.ntb.format x.1.bytes x.2

/-- The buffer in processing, with the datagrams that the cursor has not passed. -/
structure Processing (q : NcmRxQueue) (b : RxBuffer) (ds : List DatagramPointer) : Prop where
  rxBufferInProcessing : q.rxBufferInProcessing = some b
  buffer : q.ntb.buffer = ofBytes b.bytes
  yields : Yields q.ntb ds
  wants : ∀ d ∈ ds, ∃ wants, q.ncmAdapter.wantsFrame (ofBytes b.bytes) d = .ok wants

/-- The datagrams that the queue has still to go through, buffer by buffer. -/
inductive Left (q : NcmRxQueue) : List (RxBuffer × List DatagramPointer) → Prop
  | waiting {xs : List (RxBuffer × List DatagramPointer)} :
    q.rxBufferInProcessing = none → q.Waiting xs → Left q xs
  | processing {b : RxBuffer} {ds : List DatagramPointer}
      {xs : List (RxBuffer × List DatagramPointer)} :
    q.Processing b ds → q.Waiting xs → Left q ((b, ds) :: xs)

theorem Waiting.of_eq (h : q.Waiting xs) (hqueue : q'.rxBufferQueue = q.rxBufferQueue)
    (hformat : q'.ntb.format = q.ntb.format) : q'.Waiting xs :=
  ⟨h.buffers.trans hqueue.symm, fun x hx => hformat ▸ h.contents x hx⟩

structure Passed (q q' : NcmRxQueue) (actions : List RxAction) : Prop where
  ncmAdapter : q'.ncmAdapter = q.ncmAdapter
  format : q'.ntb.format = q.ntb.format
  log : q'.log = q.log ++ actions

theorem Left.body_nil (h : Left q []) :
    getNextFrameBody q = .ok (.leave (.noMoreEntries, ⟨0, 0⟩, q)) := by
  cases h with
  | waiting hnone hwaiting => exact getNextFrameBody_empty hnone hwaiting.buffers.symm

/-- An accepted buffer may as well be in processing already. -/
theorem Waiting.dequeue (h : q.Waiting ((b, ds) :: xs)) (hnone : q.rxBufferInProcessing = none)
    (hwalk : Walk q.ntb.format b.bytes ds) :
    ∃ q1, getNextFrameBody q = q1.nextFrame b ∧ Passed q q1 [] ∧ q1.Processing b ds ∧
      q1.Waiting xs := by
  obtain ⟨tb', hinit, hyields⟩ := (walk_iff b.bytes_lt).mpr hwalk
  obtain ⟨hformat, hbuffer⟩ := reInitializeBuffer_buffer hinit
  have hbuffers := h.buffers
  rw [List.map_cons] at hbuffers
  refine ⟨q.dequeued b (xs.map Prod.fst) tb', ?_, ⟨rfl, hformat, (List.append_nil _).symm⟩,
    ⟨rfl, hbuffer, hyields, ?_⟩, ⟨rfl, ?_⟩⟩
  · rw [getNextFrameBody_accepts hnone hbuffers.symm hinit]
    exact getNextFrameBody_processing rfl
  · intro d hd
    exact q.ncmAdapter.wantsFrame_ok (hwalk.inBuffer hd)
  · intro x hx
    change Contents tb'.format x.1.bytes x.2
    rw [hformat]
    exact h.contents x (List.mem_cons_of_mem _ hx)

theorem Waiting.rejects (h : q.Waiting ((b, ds) :: xs)) (hnone : q.rxBufferInProcessing = none)
    (hrejected : Rejected q.ntb.format b.bytes) :
    ∃ q', getNextFrameBody q = .ok (.again q') ∧ Left q' xs ∧ Passed q q' [.returned b] := by
  have hbuffers := h.buffers
  rw [List.map_cons] at hbuffers
  obtain ⟨status, tb', hinit, hstatus⟩ := reInitializeBuffer_rejects_iff.mpr hrejected
  obtain ⟨hformat, -⟩ := reInitializeBuffer_buffer hinit
  refine ⟨_, getNextFrameBody_rejects hnone hbuffers.symm hinit hstatus, ?_, ⟨rfl, hformat, rfl⟩⟩
  refine .waiting rfl ⟨rfl, fun x hx => ?_⟩
  change Contents tb'.format x.1.bytes x.2
  rw [hformat]
  exact h.contents x (List.mem_cons_of_mem _ hx)

/-- A pass either gives a refused buffer back, or does what it does with the buffer in processing. -/
theorem Left.nextFrame (h : Left q ((b, ds) :: xs)) :
    (ds = [] ∧ ∃ q', getNextFrameBody q = .ok (.again q') ∧ Left q' xs ∧
      Passed q q' [.returned b]) ∨
    ∃ q1, getNextFrameBody q = q1.nextFrame b ∧ Passed q q1 [] ∧ q1.Processing b ds ∧
      q1.Waiting xs := by
  cases h with
  | waiting hnone hwaiting =>
    rcases hwaiting.contents _ List.mem_cons_self with ⟨hrejected, hnil⟩ | hwalk
    · exact Or.inl ⟨hnil, hwaiting.rejects hnone hrejected⟩
    · exact Or.inr (hwaiting.dequeue hnone hwalk)
  | processing hprocessing hwaiting =>
    exact Or.inr ⟨q, getNextFrameBody_processing hprocessing.rxBufferInProcessing,
      ⟨rfl, rfl, (List.append_nil _).symm⟩, hprocessing, hwaiting⟩

theorem Left.body_returns (h : Left q ((b, []) :: xs)) :
    ∃ q', getNextFrameBody q = .ok (.again q') ∧ Left q' xs ∧ Passed q q' [.returned b] := by
  rcases h.nextFrame with ⟨-, hreturns⟩ | ⟨q1, hbody, hpassed, hprocessing, hwaiting⟩
  · exact hreturns
  · cases hprocessing.yields with
    | done hcall hstatus =>
      obtain ⟨hformat, -⟩ := getNextDatagram_buffer hcall
      refine ⟨_, hbody.trans (nextFrame_of_done hcall hstatus), ?_, hpassed.ncmAdapter,
        hformat.trans hpassed.format, ?_⟩
      · exact .waiting rfl (hwaiting.of_eq rfl hformat)
      · change q1.log ++ [.returned b] = q.log ++ [.returned b]
        rw [hpassed.log, List.append_nil]

/-- The pass over a datagram leaves the loop with it when it is wanted, and skips it when not. -/
theorem Left.body_datagram (h : Left q ((b, d :: ds) :: xs)) :
    ∃ q', getNextFrameBody q =
        .ok (if q.ncmAdapter.wanted (ofBytes b.bytes) d then .leave (.success, d, q') else .again q') ∧
      Left q' ((b, ds) :: xs) ∧ Passed q q' [] ∧ q'.rxBufferInProcessing = some b ∧
      q'.ntb.buffer = ofBytes b.bytes := by
  rcases h.nextFrame with ⟨hnil, -⟩ | ⟨q1, hbody, hpassed, hprocessing, hwaiting⟩
  · cases hnil
  · cases hprocessing.yields with
    | @datagram _ tb' _ _ hcall hrest =>
      obtain ⟨hformat, hbuffer⟩ := getNextDatagram_buffer hcall
      obtain ⟨wants, hd⟩ := hprocessing.wants d List.mem_cons_self
      have hbytes := hbuffer.trans hprocessing.buffer
      have hcheck : q1.ncmAdapter.wantsFrame tb'.buffer d = .ok wants := by
        rw [hbytes]
        exact hd
      refine ⟨q1.setNtb tb', ?_, ?_, ?_, hprocessing.rxBufferInProcessing, hbytes⟩
      · rw [hbody, nextFrame_of_datagram hcall hcheck, ← hpassed.ncmAdapter,
          NcmAdapter.wanted_of_ok hd]
      · refine .processing ⟨hprocessing.rxBufferInProcessing, hbytes, hrest, ?_⟩
          (hwaiting.of_eq rfl hformat)
        exact fun d' hd' => hprocessing.wants d' (List.mem_cons_of_mem _ hd')
      · exact ⟨hpassed.ncmAdapter, hformat.trans hpassed.format, hpassed.log⟩

theorem Left.buffers (h : Left q xs) :
    xs.map Prod.fst = q.rxBufferInProcessing.toList ++ q.rxBufferQueue := by
  cases h with
  | waiting hnone hwaiting =>
    rw [hnone, hwaiting.buffers]
    rfl
  | processing hprocessing hwaiting =>
    rw [hprocessing.rxBufferInProcessing, List.map_cons, hwaiting.buffers]
    rfl

end NcmRxQueue

def exampleAdapter (packetFilters : UInt32) : NcmAdapter where
  parameters :=
    { use32BitNtb := false
      macAddress := [2, 0, 0, 0, 0, 1]
      maxDatagramSize := 9014
      txMaxNtbDatagramCount := 16
      txMaxNtbSize := 0x10000
      txNdpAlignment := 4
      txNdpDivisor := 4
      txNdpPayloadRemainder := 0 }
  packetFilters := packetFilters
  currentMacAddress := #v[2, 0, 0, 0, 0, 1]

end UsbNcm.Adapter
