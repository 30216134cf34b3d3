import UsbNcm.Adapter.TxSent

/-!
# The sequence numbers of the NTBs

A transmit queue has one transfer block, which counts the NTBs that are built with it. `Advance` is
called for it again and again.
-/

open Exec ByteMemory RingIndex UsbNcm.Ring UsbNcm.Ntb UsbNcm.Ntb.NcmTransferBlock

namespace UsbNcm.Adapter

/-- One call of `Advance`: the ring as it is then, and the answers that it gets. -/
structure TxCall (p f : Nat) where
  osQueue : NcmOsQueue p f
  answers : TxAnswers

namespace NcmTxQueue

variable {p f : Nat} {parameters : AdapterParameters} {answers : TxAnswers} {q q' : NcmTxQueue p f}
  {tb tb' : NcmTransferBlock} {number : UInt16} {buffers buffers' : List Memory}

/-- All calls of `Advance` for one queue. The block goes from call to call. -/
def advances (fuel : Nat) (parameters : AdapterParameters) :
    NcmTransferBlock → List (TxCall p f) →
      Except Stop (NcmTransferBlock × List (List (TxAction p)))
  | ntb, [] => .ok (ntb, [])
  | ntb, call :: calls => do
    let q ← advance fuel call.answers parameters ntb call.osQueue
    let (ntb, logs) ← advances fuel parameters q.ntb calls
    return (ntb, q.log :: logs)

/-- The NTH at the start of the buffer has this sequence number. -/
def Numbered (buffer : Memory) (number : UInt16) : Prop :=
  readLe buffer NtbFormat.nthSequenceAt 2 = .ok number.toNat

/-- The first buffer has the number behind this one, and so on. -/
def Consecutive : UInt16 → List Memory → Prop
  | _, [] => True
  | number, buffer :: buffers => Numbered buffer (number + 1) ∧ Consecutive (number + 1) buffers

/-- The buffers of the NTBs that were built. -/
def builtBuffers (log : List (TxAction p)) : List Memory :=
  log.filterMap fun action =>
    match action with
    | .transmitFrames bufferRequest _ _ => some bufferRequest.buffer
    | .drop _ | .returnBufferRequest _ => none

theorem behind_succ (number : UInt16) (n : Nat) :
    number + 1 + UInt16.ofNat n = number + UInt16.ofNat (n + 1) := by
  rw [UInt16.ofNat_add, UInt16.add_comm (UInt16.ofNat n), ← UInt16.add_assoc]
  rfl

theorem Consecutive.append (h : Consecutive number buffers)
    (h' : Consecutive (number + UInt16.ofNat buffers.length) buffers') :
    Consecutive number (buffers ++ buffers') := by
  induction buffers generalizing number with
  | nil => rwa [show UInt16.ofNat [].length = 0 from rfl, UInt16.add_zero] at h'
  | cons buffer buffers ih =>
    obtain ⟨hfirst, hrest⟩ := h
    rw [List.length_cons, ← behind_succ] at h'
    exact ⟨hfirst, ih hrest h'⟩

theorem Consecutive.numbered (h : Consecutive number buffers) {k : Nat} {buffer : Memory}
    (hk : buffers[k]? = some buffer) : Numbered buffer (number + UInt16.ofNat (k + 1)) := by
  induction buffers generalizing number k with
  | nil => cases hk
  | cons first buffers ih =>
    cases k with
    | zero =>
      obtain rfl := Option.some.inj hk
      exact h.1
    | succ k =>
      rw [← behind_succ]
      exact ih h.2 hk

/-! ## One pass -/

theorem copyDatagrams_sequence (n : Nat) (ntb : NcmTransferBlock) (pi : NcmPacketIterator p f) :
    (copyDatagrams n ntb pi).1.sequence = ntb.sequence := by
  induction n generalizing ntb pi with
  | zero => rfl
  | succ n ih =>
    unfold copyDatagrams
    by_cases ha : ntb.Accepts pi
    · rw [copyNextDatagram_of_accepts ha]
      exact ih (ntb.accept pi) pi.advance
    · rw [copyNextDatagram_of_not_accepts ha]

theorem numbered_of_holds {m : Memory}
    (h : Holds m NtbFormat.nthSequenceAt (leBytes 2 number.toNat)) : Numbered m number := by
  have hread := readLe_of_holds h
  rwa [Nat.mod_eq_of_lt (show number.toNat < 256 ^ 2 from number.toNat_lt)] at hread

/-- The number goes into the header, and what is written behind it lies elsewhere. -/
theorem writeNth_numbered {m m' : Memory} (h : tb.writeNth m = .ok m') :
    Numbered m' tb.sequence := by
  unfold writeNth at h
  obtain ⟨ndpLength, -, h⟩ := bind_eq_ok.mp h
  cases h
  apply numbered_of_holds
  have hs := tb.format.sizes
  refine holds_write_outside (holds_write_outside (holds_write _ _ _ ?_) ?_ ?_ ?_) ?_ ?_ ?_
  all_goals
    simp only [leBytes_length, NtbFormat.nthSequenceAt, NtbFormat.nthBlockLengthAt]
    omega

theorem setNdp_numbered {transferLength : Nat} (h : tb.setNdp = .ok (transferLength, tb')) :
    ∃ m, tb' = { tb with buffer := m } ∧ Numbered m tb.sequence := by
  unfold setNdp at h
  split at h
  · cases h
  · obtain ⟨m, hm, h⟩ := bind_eq_ok.mp h
    obtain ⟨length, -, h⟩ := bind_eq_ok.mp h
    cases h
    exact ⟨m, rfl, writeNth_numbered hm⟩

/-- More NTBs have been built, and numbered on from the block before. -/
structure NumberedOn (q q' : NcmTxQueue p f) : Prop where
  created : ∀ parameters, CreatedFrom parameters q.ntb → CreatedFrom parameters q'.ntb
  numbered : ∃ buffers, builtBuffers q'.log = builtBuffers q.log ++ buffers ∧
    Consecutive q.ntb.sequence buffers ∧
    q'.ntb.sequence = q.ntb.sequence + UInt16.ofNat buffers.length

/-- Nothing has been built. -/
theorem numberedOn_of_same (hntb : q'.ntb = q.ntb) (hbuilt : builtBuffers q'.log = builtBuffers q.log) :
    NumberedOn q q' := by
  refine ⟨fun _ h => by rwa [hntb], [], ?_, trivial, ?_⟩
  · rw [hbuilt, List.append_nil]
  · rw [hntb]
    exact (UInt16.add_zero _).symm

theorem NumberedOn.trans {q1 q2 q3 : NcmTxQueue p f} (h : NumberedOn q1 q2) (h' : NumberedOn q2 q3) :
    NumberedOn q1 q3 := by
  obtain ⟨hcreated, buffers, hbuilt, hconsecutive, hsequence⟩ := h
  obtain ⟨hcreated', buffers', hbuilt', hconsecutive', hsequence'⟩ := h'
  rw [hsequence] at hconsecutive' hsequence'
  refine ⟨fun parameters h => hcreated' parameters (hcreated parameters h), buffers ++ buffers', ?_,
    hconsecutive.append hconsecutive', ?_⟩
  · rw [hbuilt', hbuilt, List.append_assoc]
  · rw [hsequence', List.length_append, UInt16.ofNat_add, UInt16.add_assoc]

theorem builtBuffers_append (log log' : List (TxAction p)) :
    builtBuffers (log ++ log') = builtBuffers log ++ builtBuffers log' :=
  List.filterMap_append

theorem advanceBody_numberedOn (hbody : advanceBody answers q = .ok (.again q')) :
    NumberedOn q q' := by
  unfold advanceBody at hbody
  split at hbody
  · split at hbody
    next bufferRequest _ =>
      obtain ⟨ntb, k, hcopy, -, -, hcreated, -⟩ := copyDatagrams_spec q.pi.getCount
        (q.ntb.started bufferRequest.buffer q.parameters.txMaxNtbSize.toNat) q.pi
      have hsequence := copyDatagrams_sequence q.pi.getCount
        (q.ntb.started bufferRequest.buffer q.parameters.txMaxNtbSize.toNat) q.pi
      rw [reInitializeBuffer_tx, ok_bind] at hbody
      simp only [hcopy] at hbody hsequence
      obtain ⟨⟨transferLength, sent⟩, hset, hbody⟩ := bind_eq_ok.mp hbody
      cases hbody
      obtain ⟨m, rfl, hnumbered⟩ := setNdp_numbered hset
      rw [hsequence] at hnumbered
      refine ⟨fun parameters h => ?_, [m], ?_, ⟨hnumbered, trivial⟩, hsequence⟩
      · obtain ⟨h1, h2, h3, h4, h5⟩ := hcreated parameters (h.started _ _)
        exact ⟨h1, h2, h3, h4, h5⟩
      · rw [builtBuffers_append]
        congr 1
        unfold builtBuffers
        split <;> rfl
    next =>
      cases hbody
      refine numberedOn_of_same (by rfl) ?_
      rw [builtBuffers_append]
      exact List.append_nil _
  · cases hbody

theorem leave_same {r : NcmTxQueue p f} (hbody : advanceBody answers q = .ok (.leave r)) : r = q := by
  unfold advanceBody at hbody
  split at hbody
  · split at hbody
    · obtain ⟨_, _, hbody⟩ := bind_eq_ok.mp hbody
      obtain ⟨_, _, hbody⟩ := bind_eq_ok.mp hbody
      cases hbody
    · cases hbody
  · cases hbody
    rfl

theorem returns_numberedOn (h : Returns (advanceBody answers) q q') : NumberedOn q q' := by
  induction h with
  | leave hbody =>
    obtain rfl := leave_same hbody
    exact numberedOn_of_same rfl rfl
  | again hbody _ ih => exact (advanceBody_numberedOn hbody).trans ih

/-! ## All calls -/

/-- The calls return, and each of them takes the packets of its ring in their order. -/
theorem advances_runs (parameters : AdapterParameters) (hcreated : CreatedFrom parameters tb)
    {calls : List (TxCall p f)}
    (hfits : ∀ call ∈ calls, AllFit parameters call.osQueue
      (range call.osQueue.packetRing.beginIndex call.osQueue.packetRing.endIndex)) :
    ∃ enough tb' logs, (∀ fuel, enough ≤ fuel → advances fuel parameters tb calls = .ok (tb', logs)) ∧
      List.Forall₂ (fun call log => Runs call.answers parameters call.osQueue 0
        (range call.osQueue.packetRing.beginIndex call.osQueue.packetRing.endIndex) log) calls logs ∧
      Consecutive tb.sequence (logs.flatMap builtBuffers) := by
  induction calls generalizing tb with
  | nil => exact ⟨0, tb, [], fun _ _ => rfl, .nil, trivial⟩
  | cons call calls ih =>
    obtain ⟨hfirst, hlater⟩ := List.forall_mem_cons.mp hfits
    obtain ⟨q, hreturns, -, log, hlog, hruns⟩ :=
      returns_runs call.answers (atRing_onRing hcreated call.osQueue) hfirst
    obtain rfl : q.log = log := hlog
    obtain ⟨fuel, hloop⟩ := loop_of_returns hreturns
    obtain ⟨hcreated', buffers, hbuilt, hconsecutive, hsequence⟩ := returns_numberedOn hreturns
    obtain rfl : builtBuffers q.log = buffers := hbuilt
    obtain ⟨enough, tb', logs, hcalls, hall, hrest⟩ := ih (hcreated' parameters hcreated) hlater
    refine ⟨max fuel enough, tb', q.log :: logs, fun more hmore => ?_, .cons hruns hall, ?_⟩
    · unfold advances
      have hadvance : advance more call.answers parameters tb call.osQueue = .ok q :=
        loop_mono hloop (Nat.le_trans (Nat.le_max_left _ _) hmore)
      rw [hadvance, ok_bind, hcalls more (Nat.le_trans (Nat.le_max_right _ _) hmore)]
      rfl
    · rw [List.flatMap_cons]
      rw [hsequence] at hrest
      exact hconsecutive.append hrest

/-- However often `Advance` is called for a queue, and whatever the rings hold by then and the pool and
the driver answer: the calls return, each takes the packets of its ring in their order, and the NTBs
that are built in all of them are numbered one behind the other, beyond the number of the block. -/
theorem advances_numbered (parameters : AdapterParameters) (tb : NcmTransferBlock)
    (hcreated : CreatedFrom parameters tb) (calls : List (TxCall p f))
    (hfits : ∀ call ∈ calls, AllFit parameters call.osQueue
      (range call.osQueue.packetRing.beginIndex call.osQueue.packetRing.endIndex)) :
    ∃ enough tb' logs, (∀ fuel, enough ≤ fuel → advances fuel parameters tb calls = .ok (tb', logs)) ∧
      List.Forall₂ (fun call log => Runs call.answers parameters call.osQueue 0
        (range call.osQueue.packetRing.beginIndex call.osQueue.packetRing.endIndex) log) calls logs ∧
      ∀ k buffer, (logs.flatMap builtBuffers)[k]? = some buffer →
        Numbered buffer (tb.sequence + UInt16.ofNat (k + 1)) := by
  obtain ⟨enough, tb', logs, hcalls, hall, hconsecutive⟩ := advances_runs parameters hcreated hfits
  exact ⟨enough, tb', logs, hcalls, hall, fun _ _ hk => hconsecutive.numbered hk⟩

/-- Of five packets two fill an NTB of 2048 bytes, and one is dropped. Three others fit one NTB. -/
def twoCalls : List (TxCall 5 5) :=
  [⟨packetsOf 5 900, secondMissing⟩, ⟨packetsOf 3 60, sending⟩]

/-- The numbers go on from the first call to the second, here from 0xFFFF to 0. -/
theorem advances_numbered_twoCalls :
    ∃ enough tb' logs,
      (∀ fuel, enough ≤ fuel → advances fuel (functionParameters 2048)
        { initialBlock 16 4 4 0 false with sequence := 0xFFFE } twoCalls = .ok (tb', logs)) ∧
      List.Forall₂ (fun call log => Runs call.answers (functionParameters 2048) call.osQueue 0
        (range call.osQueue.packetRing.beginIndex call.osQueue.packetRing.endIndex) log) twoCalls logs ∧
      ∀ k buffer, (logs.flatMap builtBuffers)[k]? = some buffer →
        Numbered buffer (0xFFFE + UInt16.ofNat (k + 1)) := by
  apply advances_numbered (functionParameters 2048)
    { initialBlock 16 4 4 0 false with sequence := 0xFFFE } ⟨rfl, rfl, rfl, rfl, rfl⟩
  unfold AllFit twoCalls
  simp only [List.forall_mem_cons]
  exact ⟨by decide, by decide, nofun⟩

end NcmTxQueue

end UsbNcm.Adapter
