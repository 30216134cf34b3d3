import UsbNcm.Parameters

/-!
# The transmit queue (`txqueue.cpp`)

`Advance` fills one NTB after the other with the packets of the ring. What the pool of buffer
requests and `EvtUsbNcmTransmitFrames` answer is given from outside.
-/

open Exec ByteMemory RingIndex UsbNcm.Ring UsbNcm.Ntb UsbNcm.Ntb.NcmTransferBlock

namespace UsbNcm.Adapter

/-- A buffer request of the pool. Its BufferLength is the TxMaxNtbSize of the adapter. -/
structure TxBufferRequest where
  handle : Nat
  buffer : Memory

/-- The answers to the requests of `Advance`, by number of requests made before. -/
structure TxAnswers where
  getBufferRequest : Nat → Option TxBufferRequest
  transmitFrames : Nat → NtStatus

inductive TxAction (p : Nat)
  | transmitFrames (bufferRequest : TxBufferRequest) (transferLength : Nat) (packets : List (BitVec p))
  | returnBufferRequest (bufferRequest : TxBufferRequest)
  | drop (packet : BitVec p)

structure NcmTxQueue (p f : Nat) where
  parameters : AdapterParameters
  ntb : NcmTransferBlock
  pi : NcmPacketIterator p f
  -- buffer requests asked for so far
  requests : Nat
  log : List (TxAction p)

namespace NcmTxQueue

variable {p f : Nat}

/-- The inner loop of `advance`, with `n` packets left. -/
def copyDatagrams : Nat → NcmTransferBlock → NcmPacketIterator p f →
    NcmTransferBlock × NcmPacketIterator p f
  | 0, ntb, pi => (ntb, pi)
  | n + 1, ntb, pi =>
    match ntb.copyNextDatagram pi with
    | (.success, ntb) => copyDatagrams n ntb pi.advance
    | (_, ntb) => (ntb, pi)

def advanceBody (answers : TxAnswers) (q : NcmTxQueue p f) :
    Except Stop (Pass (NcmTxQueue p f) (NcmTxQueue p f)) :=
  if q.pi.hasAny then
    match answers.getBufferRequest q.requests with
    | some bufferRequest => do
      let (_, ntb) ← q.ntb.reInitializeBuffer 64 bufferRequest.buffer
        q.parameters.txMaxNtbSize.toNat .tx
      let (ntb, pi) := copyDatagrams q.pi.getCount ntb q.pi
      let (transferLength, ntb) ← ntb.setNdp
      let transmitted :=
        .transmitFrames { bufferRequest with buffer := ntb.buffer } transferLength
          (range q.pi.index pi.index)
      let returned :=
        if (answers.transmitFrames q.requests).ntSuccess then []
        else [.returnBufferRequest bufferRequest]
      return .again
        { q with
          ntb := ntb
          pi := pi.set
          requests := q.requests + 1
          log := q.log ++ transmitted :: returned }
    | none =>
      .ok (.again
        { q with
          pi := q.pi.advance.set
          requests := q.requests + 1
          log := q.log ++ [.drop q.pi.index] })
  else .ok (.leave q)

def atRing (parameters : AdapterParameters) (ntb : NcmTransferBlock) (osQueue : NcmOsQueue p f) :
    NcmTxQueue p f where
  parameters := parameters
  ntb := ntb
  pi := ncmGetAllPackets osQueue
  requests := 0
  log := []

def advance (fuel : Nat) (answers : TxAnswers) (parameters : AdapterParameters)
    (ntb : NcmTransferBlock) (osQueue : NcmOsQueue p f) : Except Stop (NcmTxQueue p f) :=
  loop (advanceBody answers) fuel (atRing parameters ntb osQueue)

/-! ## One NTB -/

variable {ntb : NcmTransferBlock} {pi : NcmPacketIterator p f} {q q' : NcmTxQueue p f}
  {parameters : AdapterParameters} {answers : TxAnswers}

/-- The iterator `k` packets further on. -/
def skip (pi : NcmPacketIterator p f) (k : Nat) : NcmPacketIterator p f :=
  { pi with index := slot pi.index k }

theorem skip_succ (pi : NcmPacketIterator p f) (k : Nat) : skip pi.advance k = skip pi (k + 1) := by
  unfold skip
  rw [show pi.advance.index = pi.index + 1#p from rfl, slot_succ]
  rfl

/-- The inner loop copies some of the packets, the first of them if it is accepted. -/
theorem copyDatagrams_spec (n : Nat) (ntb : NcmTransferBlock) (pi : NcmPacketIterator p f) :
    ∃ ntb' k, copyDatagrams n ntb pi = (ntb', skip pi k) ∧ k ≤ n ∧
      ntb'.currentNdpDatagramCount = ntb.currentNdpDatagramCount + k ∧
      (∀ parameters, CreatedFrom parameters ntb → CreatedFrom parameters ntb') ∧
      (0 < n → (0 < k ↔ ntb.Accepts pi)) := by
  induction n generalizing ntb pi with
  | zero =>
    exact ⟨ntb, 0, by simp [copyDatagrams, skip, slot_zero], Nat.le_refl _, rfl, fun _ => id,
      by omega⟩
  | succ n ih =>
    unfold copyDatagrams
    by_cases ha : ntb.Accepts pi
    · rw [copyNextDatagram_of_accepts ha]
      dsimp only
      obtain ⟨ntb', k, hcopy, hk, hcount, hcreated, -⟩ := ih (ntb.accept pi) pi.advance
      refine ⟨ntb', k + 1, by rw [hcopy, skip_succ], by omega, ?_, fun _ h => hcreated _ (h.accept pi),
        fun _ => ?_⟩
      · rw [hcount, show (ntb.accept pi).currentNdpDatagramCount = ntb.currentNdpDatagramCount + 1
          from rfl]
        omega
      · exact iff_of_true (Nat.succ_pos k) ha
    · rw [copyNextDatagram_of_not_accepts ha]
      refine ⟨ntb, 0, by simp [skip, slot_zero], Nat.zero_le _, rfl, fun _ => id, fun _ => ?_⟩
      exact iff_of_false (Nat.lt_irrefl 0) ha

theorem setNdp_ok {tb : NcmTransferBlock} (h : tb.currentNdpDatagramCount ≠ 0) :
    ∃ transferLength m, tb.setNdp = .ok (transferLength, { tb with buffer := m }) := by
  have hmem : (tb.ndpOffset + NtbFormat.ndpLengthAt, leBytes 2 tb.ndpLength) ∈ tb.ndpWrites := by
    simp [ndpWrites]
  obtain ⟨stored, hlength⟩ := readLe_ok (m := writeAll tb.buffer tb.ndpWrites)
    (a := (tb.ndpOffset + NtbFormat.ndpLengthAt) % 2 ^ 64) (n := 2)
    (by simpa using isSome_writeAll hmem (by simp))
  let ws := tb.ndpWrites ++
    [(NtbFormat.nthBlockLengthAt, leBytes tb.format.ptrSize (tb.ndpOffset + stored)),
      (tb.format.nthNdpIndexAt, leBytes tb.format.ptrSize tb.ndpOffset)]
  have hnth : tb.writeNth tb.writeNdp = .ok (writeAll tb.buffer ws) := by
    simp only [writeAll, ndpWrites, List.foldl_cons, List.foldl_nil] at hlength
    unfold writeNth writeNdp
    unfold ndpLength tableBytes at hlength
    simp only [writeLe, hlength, ok_bind]
    rfl
  have hblock : (NtbFormat.nthBlockLengthAt,
      leBytes tb.format.ptrSize (tb.ndpOffset + stored)) ∈ ws := by simp [ws]
  obtain ⟨transferLength, hread⟩ := readLe_ok (m := writeAll tb.buffer ws)
    (a := NtbFormat.nthBlockLengthAt) (n := tb.format.ptrSize) (by
      have hs := tb.format.sizes
      simpa [NtbFormat.nthBlockLengthAt] using isSome_writeAll hblock (by
        rw [leBytes_length]
        omega))
  refine ⟨transferLength, writeAll tb.buffer ws, ?_⟩
  unfold setNdp
  simp only [if_neg h, hnth, ok_bind, hread]
  rfl

/-! ## One pass -/

/-- A pass that completed `k` packets. -/
structure Advanced (q q' : NcmTxQueue p f) (k : Nat) : Prop where
  pi : q'.pi = (skip q.pi k).set
  parameters : q'.parameters = q.parameters
  requests : q'.requests = q.requests + 1
  ntb : ∀ parameters, CreatedFrom parameters q.ntb → CreatedFrom parameters q'.ntb

theorem advanceBody_of_empty (h : q.pi.hasAny = false) : advanceBody answers q = .ok (.leave q) := by
  unfold advanceBody
  rw [h]
  rfl

theorem advanceBody_of_none (hany : q.pi.hasAny = true)
    (h : answers.getBufferRequest q.requests = none) :
    ∃ q', advanceBody answers q = .ok (.again q') ∧ Advanced q q' 1 := by
  unfold advanceBody
  rw [if_pos hany, h]
  refine ⟨_, rfl, ?_, rfl, rfl, fun _ => id⟩
  rw [← skip_succ q.pi 0, skip, slot_zero]

/-- With a buffer, the pass goes on exactly when the new NTB accepts the packet at the iterator. -/
theorem advanceBody_of_some (hany : q.pi.hasAny = true) {bufferRequest : TxBufferRequest}
    (h : answers.getBufferRequest q.requests = some bufferRequest) :
    ((q.ntb.started bufferRequest.buffer q.parameters.txMaxNtbSize.toNat).Accepts q.pi ∧
        ∃ q' k, advanceBody answers q = .ok (.again q') ∧ Advanced q q' k ∧ 0 < k ∧
          k ≤ q.pi.getCount) ∨
      (¬ (q.ntb.started bufferRequest.buffer q.parameters.txMaxNtbSize.toNat).Accepts q.pi ∧
        advanceBody answers q = .error .assertion) := by
  obtain ⟨ntb', k, hcopy, hk, hcount, hcreated, hiff⟩ := copyDatagrams_spec q.pi.getCount
    (q.ntb.started bufferRequest.buffer q.parameters.txMaxNtbSize.toNat) q.pi
  have hcount' : ntb'.currentNdpDatagramCount = k := hcount.trans (Nat.zero_add k)
  have hfirst := hiff (NcmOsRingIterator.getCount_pos_iff.mpr hany)
  unfold advanceBody
  simp only [if_pos hany, h, reInitializeBuffer_tx, ok_bind, hcopy]
  by_cases hk0 : k = 0
  · refine Or.inr ⟨fun ha => ?_, ?_⟩
    · have := hfirst.mpr ha
      omega
    · have hassert : ntb'.setNdp = .error .assertion := by
        unfold setNdp
        rw [if_pos (hcount'.trans hk0)]
        rfl
      rw [hassert]
      rfl
  · obtain ⟨transferLength, m, hset⟩ := setNdp_ok (show ntb'.currentNdpDatagramCount ≠ 0 by omega)
    refine Or.inl ⟨hfirst.mp (by omega), ?_⟩
    rw [hset]
    refine ⟨_, k, rfl, ⟨rfl, rfl, rfl, ?_⟩, by omega, hk⟩
    intro parameters hntb
    obtain ⟨h1, h2, h3, h4, h5⟩ := hcreated parameters (hntb.started _ _)
    exact ⟨h1, h2, h3, h4, h5⟩

end NcmTxQueue

end UsbNcm.Adapter
