import UsbNcm.Adapter.TxProgress

/-!
# What `Advance` does with the packets

The packets of the ring go out in order, in runs: each run is one NTB or one packet that is dropped.
-/

open Exec ByteMemory RingIndex UsbNcm.Ring UsbNcm.Ntb UsbNcm.Ntb.NcmTransferBlock

namespace UsbNcm.Adapter.NcmTxQueue

variable {p f : Nat} {q q' : NcmTxQueue p f} {parameters : AdapterParameters}
  {answers : TxAnswers} {tb ntb : NcmTransferBlock} {osQueue : NcmOsQueue p f}
  {pi pi' : NcmPacketIterator p f} {packets rest : List (BitVec p)}

/-- The packets as they are offered to a block. -/
def offered (osQueue : NcmOsQueue p f) (packets : List (BitVec p)) : List (NcmPacketIterator p f) :=
  packets.map (packetAt osQueue)

/-- The block takes all of these packets, and one of them at least. It is closed with no packet left,
at the limit, or because the next packet does not fit. -/
structure OneNtb (parameters : AdapterParameters) (osQueue : NcmOsQueue p f)
    (started : NcmTransferBlock) (packets rest : List (BitVec p)) : Prop where
  nonempty : packets ≠ []
  limit : packets.length ≤ parameters.txMaxNtbDatagramCount.toNat
  accepted : (started.trace (offered osQueue packets)).map Prod.snd = offered osQueue packets
  closed : ∀ i ∈ rest.head?, packets.length = parameters.txMaxNtbDatagramCount.toNat ∨
    parameters.txMaxNtbSize.toNat < (started.offers (offered osQueue packets)).totalNtbSizeNeeded
      (ncmGetPacketDataLength (packetAt osQueue i))

/-- What becomes of the packets that are left when `requests` buffers have been asked for, and the
calls that are made for them. -/
inductive Runs (answers : TxAnswers) (parameters : AdapterParameters) (osQueue : NcmOsQueue p f) :
    Nat → List (BitVec p) → List (TxAction p) → Prop
  | done {requests : Nat} : Runs answers parameters osQueue requests [] []
  | drop {requests : Nat} {packet : BitVec p} {rest : List (BitVec p)} {log : List (TxAction p)}
      (hbuffer : answers.getBufferRequest requests = none)
      (hrest : Runs answers parameters osQueue (requests + 1) rest log) :
      Runs answers parameters osQueue requests (packet :: rest) (.drop packet :: log)
  | ntb {requests : Nat} {packets rest : List (BitVec p)} {log : List (TxAction p)}
      {bufferRequest : TxBufferRequest} {tb sent : NcmTransferBlock} {transferLength : Nat}
      (hbuffer : answers.getBufferRequest requests = some bufferRequest)
      (hcreated : CreatedFrom parameters tb)
      (hntb : OneNtb parameters osQueue
        (tb.started bufferRequest.buffer parameters.txMaxNtbSize.toNat) packets rest)
      (hset : ((tb.started bufferRequest.buffer parameters.txMaxNtbSize.toNat).offers
        (offered osQueue packets)).setNdp = .ok (transferLength, sent))
      (hrest : Runs answers parameters osQueue (requests + 1) rest log) :
      Runs answers parameters osQueue requests (packets ++ rest)
        (.transmitFrames { bufferRequest with buffer := sent.buffer } transferLength packets ::
          (if (answers.transmitFrames requests).ntSuccess then []
            else [.returnBufferRequest bufferRequest]) ++ log)

/-! ## Packets of the ring -/

/-- The packets and fragments of the ring, however far the queue has got. -/
structure SameRings (osQueue osQueue' : NcmOsQueue p f) : Prop where
  packets : osQueue'.packetRing.elements = osQueue.packetRing.elements
  fragments : osQueue'.fragmentRing.elements = osQueue.fragmentRing.elements

theorem SameRings.fragments_eq (h : SameRings osQueue pi.osQueue) :
    pi.fragments = (packetAt osQueue pi.index).fragments := by
  unfold NcmPacketIterator.fragments NcmPacketIterator.getFragmentIterator
    NcmPacketIterator.getPacket packetAt
  rw [h.packets, h.fragments]

/-- All that matters of a packet is its fragments. -/
theorem copyNextDatagram_congr (h : pi.fragments = pi'.fragments) (tb : NcmTransferBlock) :
    tb.copyNextDatagram pi = tb.copyNextDatagram pi' := by
  unfold copyNextDatagram ncmCopyPacketDataToBuffer ncmGetPacketDataLength
  rw [h]

/-- What an empty NTB takes does not depend on the block it is built in. -/
theorem started_accepts (h : CreatedFrom parameters tb) (buffer : Memory) :
    (tb.started buffer parameters.txMaxNtbSize.toNat).Accepts pi ↔
      (emptyNtb parameters).Accepts pi := by
  obtain ⟨h1, h2, h3, h4, h5⟩ := h
  unfold Accepts totalNtbSizeNeeded ndpOffsetAfter datagramOffset emptyNtb started
    prepareToConstruct clearBlock initialBlock
  simp only [h1, h2, h3, h4, h5]

/-! ## The inner loop -/

/-- The inner loop takes the next packets up to the first that is not accepted. -/
theorem copyDatagrams_offers (hsame : SameRings osQueue pi.osQueue) (n : Nat)
    (tb : NcmTransferBlock) :
    ∃ k ≤ n, copyDatagrams n tb pi =
        (tb.offers (offered osQueue (indicesFrom pi.index k)), skip pi k) ∧
      (tb.trace (offered osQueue (indicesFrom pi.index k))).map Prod.snd =
        offered osQueue (indicesFrom pi.index k) ∧
      (k < n → ¬ (tb.offers (offered osQueue (indicesFrom pi.index k))).Accepts
        (packetAt osQueue (slot pi.index k))) := by
  induction n generalizing tb pi with
  | zero =>
    refine ⟨0, Nat.le_refl _, ?_, rfl, fun h => absurd h (Nat.lt_irrefl 0)⟩
    unfold copyDatagrams skip
    rw [slot_zero]
    rfl
  | succ n ih =>
    have hfragments := hsame.fragments_eq
    by_cases ha : tb.Accepts (packetAt osQueue pi.index)
    · have hadvance : SameRings osQueue pi.advance.osQueue := hsame
      obtain ⟨k, hk, hcopy, htrace, hnext⟩ := ih hadvance (tb.accept (packetAt osQueue pi.index))
      have hoffered : offered osQueue (indicesFrom pi.index (k + 1)) =
          packetAt osQueue pi.index :: offered osQueue (indicesFrom pi.advance.index k) := rfl
      refine ⟨k + 1, Nat.succ_le_succ hk, ?_, ?_, fun hlt => ?_⟩
      · unfold copyDatagrams
        rw [copyNextDatagram_congr hfragments, copyNextDatagram_of_accepts ha]
        dsimp only
        rw [hcopy, skip_succ, hoffered, offers_of_accepts ha]
      · rw [hoffered, trace_of_accepts ha, List.map_cons, htrace]
      · rw [hoffered, offers_of_accepts ha, ← slot_succ]
        exact hnext (by omega)
    · refine ⟨0, Nat.zero_le _, ?_, rfl, fun _ => ?_⟩
      · unfold copyDatagrams skip
        rw [copyNextDatagram_congr hfragments, copyNextDatagram_of_not_accepts ha, slot_zero]
        rfl
      · rw [slot_zero]
        exact ha

/-! ## One NTB -/

theorem createdFrom_offers (h : CreatedFrom parameters tb) (pis : List (NcmPacketIterator p f)) :
    CreatedFrom parameters (tb.offers pis) :=
  (offers_invariant (CreatedFrom parameters) (fun _ pi h _ => h.accept pi) h pis).1

/-- A block that is being filled for the adapter, with as many entries as packets were taken. -/
structure Filling (parameters : AdapterParameters) (tb : NcmTransferBlock) (n : Nat) : Prop where
  created : CreatedFrom parameters tb
  bufferLength : tb.bufferLength = parameters.txMaxNtbSize.toNat
  count : tb.currentNdpDatagramCount = n
  count_le : n ≤ parameters.txMaxNtbDatagramCount.toNat

theorem filling_offers (h : CreatedFrom parameters tb) (buffer : Memory)
    (pis : List (NcmPacketIterator p f)) :
    Filling parameters ((tb.started buffer parameters.txMaxNtbSize.toNat).offers pis)
      ((tb.started buffer parameters.txMaxNtbSize.toNat).trace pis).length := by
  refine offers_rule (fun tb acc => Filling parameters tb acc.length) ?_ []
    ⟨h.started _ _, rfl, rfl, Nat.zero_le _⟩ pis
  rintro tb acc pi ⟨hcreated, hbuffer, hcount, hle⟩ ha
  have hlimit := ha.1
  rw [hcreated.ntbMaxDatagrams, hcount] at hlimit
  rw [List.length_append, List.length_singleton]
  refine ⟨hcreated.accept pi, hbuffer, ?_, hlimit⟩
  rw [← hcount]
  rfl

theorem Filling.closed {n : Nat} (h : Filling parameters tb n) (hnot : ¬ tb.Accepts pi) :
    n = parameters.txMaxNtbDatagramCount.toNat ∨
      parameters.txMaxNtbSize.toNat < tb.totalNtbSizeNeeded (ncmGetPacketDataLength pi) := by
  have hle := h.count_le
  unfold Accepts at hnot
  rw [h.created.ntbMaxDatagrams, h.bufferLength, h.count] at hnot
  omega

theorem head?_range {i j last : BitVec p} (h : j ∈ (range i last).head?) : i ≠ last ∧ j = i := by
  by_cases hne : i = last
  · rw [hne, range, count_self] at h
    cases h
  · rw [range_of_ne hne] at h
    exact ⟨hne, (Option.some.inj h).symm⟩

theorem OnRing.sameRings (h : OnRing parameters osQueue q) : SameRings osQueue q.pi.osQueue :=
  ⟨h.packets, h.fragments⟩

theorem range_skip (pi : NcmPacketIterator p f) {k : Nat} (hk : k ≤ pi.getCount) :
    range pi.index (skip pi k).index = indicesFrom pi.index k := by
  have hlt : pi.getCount < 2 ^ p := count_lt _ _
  rw [range, show (skip pi k).index = slot pi.index k from rfl, count_slot _ (by omega)]

/-- The packets that the inner loop takes are those of one NTB. -/
theorem OnRing.copyDatagrams (h : OnRing parameters osQueue q) (hany : q.pi.hasAny = true)
    (hfits : (emptyNtb parameters).Accepts (packetAt osQueue q.pi.index)) (buffer : Memory) :
    ∃ k ≤ q.pi.getCount, 0 < k ∧
      NcmTxQueue.copyDatagrams q.pi.getCount (q.ntb.started buffer parameters.txMaxNtbSize.toNat)
          q.pi =
        ((q.ntb.started buffer parameters.txMaxNtbSize.toNat).offers
          (offered osQueue (indicesFrom q.pi.index k)), skip q.pi k) ∧
      OneNtb parameters osQueue (q.ntb.started buffer parameters.txMaxNtbSize.toNat)
        (indicesFrom q.pi.index k) (range (slot q.pi.index k) q.pi.last) ∧
      ((q.ntb.started buffer parameters.txMaxNtbSize.toNat).offers
        (offered osQueue (indicesFrom q.pi.index k))).currentNdpDatagramCount = k := by
  have hpos := NcmOsRingIterator.getCount_pos_iff.mpr hany
  obtain ⟨k, hk, hcopy, htrace, hnext⟩ := copyDatagrams_offers h.sameRings q.pi.getCount
    (q.ntb.started buffer parameters.txMaxNtbSize.toNat)
  have hlength : ((q.ntb.started buffer parameters.txMaxNtbSize.toNat).trace
      (offered osQueue (indicesFrom q.pi.index k))).length = k := by
    have := congrArg List.length htrace
    simpa [offered] using this
  have hfilling := filling_offers h.ntb buffer (offered osQueue (indicesFrom q.pi.index k))
  rw [hlength] at hfilling
  have hk0 : 0 < k := by
    apply Nat.pos_of_ne_zero
    rintro rfl
    apply hnext hpos
    rw [slot_zero]
    exact (started_accepts h.ntb _).mpr hfits
  refine ⟨k, hk, hk0, hcopy, ⟨?_, ?_, htrace, ?_⟩, hfilling.count⟩
  · intro hnil
    have := congrArg List.length hnil
    simp at this
    omega
  · rw [indicesFrom_length]
    exact hfilling.count_le
  · intro i hi
    obtain ⟨hne, rfl⟩ := head?_range hi
    rw [indicesFrom_length]
    apply hfilling.closed
    apply hnext
    have hleft : count (slot q.pi.index k) q.pi.last = q.pi.getCount - k := count_slot_of_le hk
    have hsome : count (slot q.pi.index k) q.pi.last ≠ 0 := fun hz => hne (count_eq_zero.mp hz)
    omega

/-- A pass with a buffer fills one NTB with the packets at the iterator. -/
theorem advanceBody_ntb (h : OnRing parameters osQueue q) (hany : q.pi.hasAny = true)
    (hfits : (emptyNtb parameters).Accepts (packetAt osQueue q.pi.index))
    {bufferRequest : TxBufferRequest}
    (hbuffer : answers.getBufferRequest q.requests = some bufferRequest) :
    ∃ q' k transferLength sent, advanceBody answers q = .ok (.again q') ∧ Advanced q q' k ∧ 0 < k ∧
      k ≤ q.pi.getCount ∧
      OneNtb parameters osQueue (q.ntb.started bufferRequest.buffer parameters.txMaxNtbSize.toNat)
        (indicesFrom q.pi.index k) (range (slot q.pi.index k) q.pi.last) ∧
      ((q.ntb.started bufferRequest.buffer parameters.txMaxNtbSize.toNat).offers
        (offered osQueue (indicesFrom q.pi.index k))).setNdp = .ok (transferLength, sent) ∧
      q'.log = q.log ++ .transmitFrames { bufferRequest with buffer := sent.buffer } transferLength
          (indicesFrom q.pi.index k) ::
        if (answers.transmitFrames q.requests).ntSuccess then []
          else [.returnBufferRequest bufferRequest] := by
  obtain ⟨k, hk, hk0, hcopy, hntb, hcount⟩ := h.copyDatagrams hany hfits bufferRequest.buffer
  obtain ⟨transferLength, m, hset⟩ := setNdp_ok (by rw [hcount]; omega)
  have hbody : advanceBody answers q = .ok (.again
      { q with
        ntb := { ((q.ntb.started bufferRequest.buffer parameters.txMaxNtbSize.toNat).offers
          (offered osQueue (indicesFrom q.pi.index k))) with buffer := m }
        pi := (skip q.pi k).set
        requests := q.requests + 1
        log := q.log ++ .transmitFrames { bufferRequest with buffer := m } transferLength
            (indicesFrom q.pi.index k) ::
          if (answers.transmitFrames q.requests).ntSuccess then []
            else [.returnBufferRequest bufferRequest] }) := by
    unfold advanceBody
    simp only [if_pos hany, hbuffer, h.parameters_eq, reInitializeBuffer_tx, ok_bind, hcopy, hset,
      range_skip q.pi hk]
    rfl
  refine ⟨_, k, transferLength, _, hbody, ⟨rfl, rfl, rfl, ?_⟩, hk0, hk, hntb, hset, rfl⟩
  intro parameters' hcreated
  obtain ⟨h1, h2, h3, h4, h5⟩ := createdFrom_offers (hcreated.started bufferRequest.buffer
    parameters.txMaxNtbSize.toNat) (offered osQueue (indicesFrom q.pi.index k))
  exact ⟨h1, h2, h3, h4, h5⟩

/-- A pass without a buffer drops the packet at the iterator. -/
theorem advanceBody_drop (hany : q.pi.hasAny = true)
    (hbuffer : answers.getBufferRequest q.requests = none) :
    ∃ q', advanceBody answers q = .ok (.again q') ∧ Advanced q q' 1 ∧
      q'.log = q.log ++ [.drop q.pi.index] := by
  unfold advanceBody
  rw [if_pos hany, hbuffer]
  refine ⟨_, rfl, ⟨?_, rfl, rfl, fun _ => id⟩, rfl⟩
  rw [← skip_succ q.pi 0, skip, slot_zero]

/-! ## All passes -/

/-- Every packet that is left fits an empty NTB. -/
def AllFit (parameters : AdapterParameters) (osQueue : NcmOsQueue p f) (packets : List (BitVec p)) :
    Prop :=
  ∀ i ∈ packets, (emptyNtb parameters).Accepts (packetAt osQueue i)

/-- The queue returned with the ring completed, and what it did with the packets left is `Runs`. -/
def Completed (answers : TxAnswers) (parameters : AdapterParameters) (osQueue : NcmOsQueue p f)
    (q r : NcmTxQueue p f) : Prop :=
  r.pi.osQueue.packetRing.beginIndex = osQueue.packetRing.endIndex ∧
    ∃ log, r.log = q.log ++ log ∧
      Runs answers parameters osQueue q.requests (range q.pi.index q.pi.last) log

theorem returns_runs (answers : TxAnswers) (honRing : OnRing parameters osQueue q)
    (hfits : AllFit parameters osQueue (range q.pi.index q.pi.last)) :
    ∃ r, Returns (advanceBody answers) q r ∧ Completed answers parameters osQueue q r := by
  -- the induction is on the packets that are left, of which a pass completes one at least
  induction hleft : q.pi.getCount using Nat.strongRecOn generalizing q with
  | ind left ih =>
    by_cases hany : q.pi.hasAny = true
    · have hpos := NcmOsRingIterator.getCount_pos_iff.mpr hany
      have hhead : q.pi.index ∈ range q.pi.index q.pi.last := by
        rw [range_eq_append (show 1 ≤ count q.pi.index q.pi.last from hpos)]
        exact List.mem_append_left _ List.mem_cons_self
      -- what the rest of the passes do after `k` packets
      have hrest : ∀ q' k, Advanced q q' k → 0 < k → k ≤ q.pi.getCount →
          ∃ r, Returns (advanceBody answers) q' r ∧
            r.pi.osQueue.packetRing.beginIndex = osQueue.packetRing.endIndex ∧
            ∃ log, r.log = q'.log ++ log ∧ Runs answers parameters osQueue (q.requests + 1)
              (range (slot q.pi.index k) q.pi.last) log := by
        intro q' k hadvanced hk hle
        have hindex : range q'.pi.index q'.pi.last = range (slot q.pi.index k) q.pi.last := by
          rw [hadvanced.pi]
          rfl
        have hfits' : AllFit parameters osQueue (range q'.pi.index q'.pi.last) := by
          intro i hi
          rw [hindex, range_slot hle] at hi
          exact hfits i (List.mem_of_mem_drop hi)
        have hcount := hadvanced.getCount hle
        obtain ⟨r, hreturns, hend, log, hlog, hruns⟩ :=
          ih q'.pi.getCount (by omega) (honRing.advanced hadvanced) hfits' rfl
        rw [hindex, hadvanced.requests] at hruns
        exact ⟨r, hreturns, hend, log, hlog, hruns⟩
      by_cases hbuffer : (answers.getBufferRequest q.requests).isSome
      · obtain ⟨bufferRequest, hbuffer⟩ := Option.isSome_iff_exists.mp hbuffer
        obtain ⟨q', k, transferLength, sent, hbody, hadvanced, hk, hle, hntb, hset, hlog⟩ :=
          advanceBody_ntb honRing hany (hfits _ hhead) hbuffer
        obtain ⟨r, hreturns, hend, log, hlog', hruns⟩ := hrest q' k hadvanced hk hle
        have hrun := Runs.ntb hbuffer honRing.ntb hntb hset hruns
        rw [← range_eq_append hle] at hrun
        refine ⟨r, .again hbody hreturns, hend, _, ?_, hrun⟩
        rw [hlog', hlog, List.append_assoc, List.cons_append]
      · have hnone := Option.not_isSome_iff_eq_none.mp hbuffer
        obtain ⟨q', hbody, hadvanced, hlog⟩ := advanceBody_drop hany hnone
        obtain ⟨r, hreturns, hend, log, hlog', hruns⟩ := hrest q' 1 hadvanced Nat.one_pos hpos
        refine ⟨r, .again hbody hreturns, hend, .drop q.pi.index :: log, ?_, ?_⟩
        · rw [hlog', hlog, List.append_assoc, List.singleton_append]
        · rw [range_eq_append (show 1 ≤ count q.pi.index q.pi.last from hpos)]
          exact .drop hnone hruns
    · have hempty := Bool.eq_false_iff.mpr hany
      have hend := NcmOsRingIterator.not_hasAny_iff.mp hempty
      refine ⟨q, .leave (advanceBody_of_empty hempty), ?_, [], (List.append_nil _).symm, ?_⟩
      · rw [honRing.completed, hend, honRing.last]
      · rw [hend, range, count_self]
        exact .done

/-- For every ring whose packets each fit an empty NTB, every prior state of the transfer block and
whatever the pool and the driver answer: `Advance` returns with all packets completed, and its calls
are the runs of the packets in their order. -/
theorem advance_runs (parameters : AdapterParameters) (tb : NcmTransferBlock)
    (hcreated : CreatedFrom parameters tb) (osQueue : NcmOsQueue p f)
    (hfits : ∀ i ∈ range osQueue.packetRing.beginIndex osQueue.packetRing.endIndex,
      (emptyNtb parameters).Accepts (packetAt osQueue i)) (answers : TxAnswers) :
    ∃ fuel q, advance fuel answers parameters tb osQueue = .ok q ∧
      q.pi.osQueue.packetRing.beginIndex = osQueue.packetRing.endIndex ∧
      Runs answers parameters osQueue 0
        (range osQueue.packetRing.beginIndex osQueue.packetRing.endIndex) q.log := by
  obtain ⟨q, hreturns, hend, log, hlog, hruns⟩ :=
    returns_runs answers (atRing_onRing hcreated osQueue) hfits
  obtain ⟨fuel, hloop⟩ := loop_of_returns hreturns
  refine ⟨fuel, q, hloop, hend, ?_⟩
  rw [hlog]
  exact hruns

/-- No buffer is missing and nothing is refused. -/
def sending : TxAnswers where
  getBufferRequest _ := some ⟨7, fun _ => none⟩
  transmitFrames _ := .success

/-- The pool has no second buffer, and the driver refuses the first NTB. -/
def secondMissing : TxAnswers where
  getBufferRequest n := if n = 1 then none else some ⟨7, fun _ => none⟩
  transmitFrames n := if n = 0 then .bufferTooSmall else .success

/-- Two of these packets fill an NTB of 2048 bytes, so of five the third is dropped. -/
theorem advance_runs_fivePackets :
    ∃ fuel q, advance fuel secondMissing (functionParameters 2048) (initialBlock 16 4 4 0 false)
        (packetsOf 5 900) = .ok q ∧
      q.pi.osQueue.packetRing.beginIndex = 5 ∧
      Runs secondMissing (functionParameters 2048) (packetsOf 5 900) 0 [0, 1, 2, 3, 4] q.log := by
  refine advance_runs (functionParameters 2048) (initialBlock 16 4 4 0 false)
    ⟨rfl, rfl, rfl, rfl, rfl⟩ (packetsOf 5 900) ?_ secondMissing
  decide

end UsbNcm.Adapter.NcmTxQueue
