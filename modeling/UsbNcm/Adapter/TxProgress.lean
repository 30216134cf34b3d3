import UsbNcm.Adapter.TxQueue
import UsbNcm.Function.Parameters
import UsbNcm.Host.Parameters
import UsbNcm.RingCollection

/-!
# Does `Advance` get through the ring

A pass that has a buffer but whose NTB does not take the first packet ends in the assertion of
`SetNdp`. So everything depends on what an empty NTB takes.
-/

open Exec ByteMemory RingIndex UsbNcm.Ring UsbNcm.Ntb UsbNcm.Ntb.NcmTransferBlock

namespace UsbNcm.Adapter.NcmTxQueue

variable {p f : Nat} {q q' : NcmTxQueue p f} {parameters : AdapterParameters}
  {answers : TxAnswers} {tb : NcmTransferBlock} {osQueue : NcmOsQueue p f}
  {pi pi' : NcmPacketIterator p f}

/-- The parameters of the adapters that the two drivers create. -/
inductive DriverParameters : AdapterParameters → Prop
  | function (use32BitNtb : Bool) (adapterMacAddress : List UInt8)
      (hostSelectedNtbInMaxSize : UInt32) :
    2048 ≤ hostSelectedNtbInMaxSize →
      hostSelectedNtbInMaxSize ≤ Function.ntbParameters.dwNtbInMaxSize →
        DriverParameters (Function.adapterParameters Function.ntbParameters use32BitNtb
          adapterMacAddress hostSelectedNtbInMaxSize)
  | host (device : Host.HostConfiguration) (ntbParamters : NtbParameters) :
    (Host.selectNtbParameters device ntbParamters).1 = .success →
      DriverParameters (Host.adapterParameters (Host.selectNtbParameters device ntbParamters).2)

def emptyNtb (parameters : AdapterParameters) : NcmTransferBlock :=
  (initialBlock parameters.txMaxNtbDatagramCount parameters.txNdpAlignment parameters.txNdpDivisor
    parameters.txNdpPayloadRemainder parameters.use32BitNtb).started (fun _ => none)
      parameters.txMaxNtbSize.toNat

def packetAt (osQueue : NcmOsQueue p f) (i : BitVec p) : NcmPacketIterator p f where
  index := i
  last := osQueue.packetRing.endIndex
  osQueue := osQueue

/-- Every call for this ring returns with all packets completed, and every pass on the way completes
one packet at least. The assertion of `SetNdp` would stop the run instead. -/
structure Completes (answers : TxAnswers) (parameters : AdapterParameters) (tb : NcmTransferBlock)
    (osQueue : NcmOsQueue p f) : Prop where
  returns : ∃ fuel q, advance fuel answers parameters tb osQueue = .ok q ∧
    q.pi.osQueue.packetRing.beginIndex = osQueue.packetRing.endIndex
  progress : ∀ q q' : NcmTxQueue p f, Reaches (advanceBody answers) (atRing parameters tb osQueue) q →
    advanceBody answers q = .ok (.again q') → q'.pi.getCount < q.pi.getCount

theorem DriverParameters.count_pos (h : DriverParameters parameters) :
    0 < parameters.txMaxNtbDatagramCount.toNat := by
  cases h with
  | function => exact Nat.succ_pos 15
  | host device ntbParamters _ =>
    unfold Host.adapterParameters
    dsimp only
    split
    next hpos => exact hpos
    next => decide

/-! ## The test on an empty NTB -/

/-- An empty NTB has room for a packet of `n` bytes, with its NDP. -/
def EmptyNtbTakes (parameters : AdapterParameters) (n : Nat) : Prop :=
  (emptyNtb parameters).totalNtbSizeNeeded n ≤ parameters.txMaxNtbSize.toNat

theorem started_accepts_iff (hparameters : DriverParameters parameters)
    (h : CreatedFrom parameters tb) (buffer : Memory) :
    (tb.started buffer parameters.txMaxNtbSize.toNat).Accepts pi ↔
      EmptyNtbTakes parameters (ncmGetPacketDataLength pi) := by
  have hpos := hparameters.count_pos
  obtain ⟨h1, h2, h3, h4, h5⟩ := h
  have hsize : (tb.started buffer parameters.txMaxNtbSize.toNat).totalNtbSizeNeeded
      (ncmGetPacketDataLength pi) =
        (emptyNtb parameters).totalNtbSizeNeeded (ncmGetPacketDataLength pi) := by
    unfold totalNtbSizeNeeded ndpOffsetAfter datagramOffset emptyNtb started prepareToConstruct
      clearBlock initialBlock
    simp only [h1, h3, h4, h5]
  unfold Accepts EmptyNtbTakes
  rw [hsize]
  refine and_iff_right ?_
  change 0 < tb.ntbMaxDatagrams.toNat
  rwa [h2]

/-! ## Along the ring -/

/-- The queue is at slot `pi.index` of the ring that `advance` was called with. -/
structure OnRing (parameters : AdapterParameters) (osQueue : NcmOsQueue p f) (q : NcmTxQueue p f) :
    Prop where
  parameters_eq : q.parameters = parameters
  ntb : CreatedFrom parameters q.ntb
  packets : q.pi.osQueue.packetRing.elements = osQueue.packetRing.elements
  fragments : q.pi.osQueue.fragmentRing.elements = osQueue.fragmentRing.elements
  last : q.pi.last = osQueue.packetRing.endIndex
  completed : q.pi.osQueue.packetRing.beginIndex = q.pi.index

theorem atRing_onRing (h : CreatedFrom parameters tb) (osQueue : NcmOsQueue p f) :
    OnRing parameters osQueue (atRing parameters tb osQueue) :=
  ⟨rfl, h, rfl, rfl, rfl, rfl⟩

theorem OnRing.advanced (h : OnRing parameters osQueue q) {k : Nat} (ha : Advanced q q' k) :
    OnRing parameters osQueue q' := by
  obtain ⟨hparameters, hntb, hpackets, hfragments, hlast, -⟩ := h
  refine ⟨ha.parameters.trans hparameters, ha.ntb _ hntb, ?_, ?_, ?_, ?_⟩
  · rw [ha.pi, NcmPacketIterator.set_packets]
    exact hpackets
  · rw [ha.pi, NcmPacketIterator.set_fragments]
    exact hfragments
  · rw [ha.pi]
    exact hlast
  · rw [ha.pi]
    rfl

theorem OnRing.length_eq (h : OnRing parameters osQueue q) :
    ncmGetPacketDataLength q.pi = ncmGetPacketDataLength (packetAt osQueue q.pi.index) := by
  unfold ncmGetPacketDataLength NcmPacketIterator.fragments NcmPacketIterator.getFragmentIterator
    NcmPacketIterator.getPacket packetAt
  rw [h.packets, h.fragments]

theorem Advanced.getCount {k : Nat} (ha : Advanced q q' k) (hk : k ≤ q.pi.getCount) :
    q'.pi.getCount = q.pi.getCount - k := by
  rw [ha.pi]
  exact count_slot_of_le hk

/-- A pass ends the loop, or completes a packet at least, or asserts. -/
theorem advanceBody_cases (answers : TxAnswers) (q : NcmTxQueue p f) :
    advanceBody answers q = .ok (.leave q) ∨
      (∃ q' k, advanceBody answers q = .ok (.again q') ∧ 0 < k ∧ k ≤ q.pi.getCount ∧
        Advanced q q' k) ∨
      advanceBody answers q = .error .assertion := by
  cases hany : q.pi.hasAny with
  | false => exact Or.inl (advanceBody_of_empty hany)
  | true =>
    cases hbuffer : answers.getBufferRequest q.requests with
    | none =>
      obtain ⟨q', hbody, ha⟩ := advanceBody_of_none hany hbuffer
      exact Or.inr (Or.inl ⟨q', 1, hbody, Nat.one_pos,
        NcmOsRingIterator.getCount_pos_iff.mpr hany, ha⟩)
    | some bufferRequest =>
      rcases advanceBody_of_some hany hbuffer with ⟨-, q', k, hbody, ha, hk, hle⟩ | ⟨-, hbody⟩
      · exact Or.inr (Or.inl ⟨q', k, hbody, hk, hle, ha⟩)
      · exact Or.inr (Or.inr hbody)

theorem advanceBody_advanced (h : advanceBody answers q = .ok (.again q')) :
    ∃ k, 0 < k ∧ k ≤ q.pi.getCount ∧ Advanced q q' k := by
  rcases advanceBody_cases answers q with hbody | ⟨q1, k, hbody, hpos, hle, ha⟩ | hbody
  all_goals
    rw [hbody] at h
    cases h
  exact ⟨k, hpos, hle, ha⟩

theorem advanceBody_leave (h : advanceBody answers q = .ok (.leave q')) : q' = q := by
  rcases advanceBody_cases answers q with hbody | ⟨q1, k, hbody, -⟩ | hbody
  all_goals
    rw [hbody] at h
    cases h
  rfl

/-- Every pass that goes round again has completed a packet. -/
theorem advanceBody_progress (h : advanceBody answers q = .ok (.again q')) :
    q'.pi.getCount < q.pi.getCount := by
  obtain ⟨k, hpos, hle, ha⟩ := advanceBody_advanced h
  rw [ha.getCount hle]
  omega

theorem walk_skip {pi : NcmPacketIterator p f} (h : Walk osQueue pi) {k : Nat}
    (hk : k ≤ pi.getCount) : Walk osQueue (skip pi k) := by
  induction k generalizing pi with
  | zero =>
    rw [skip, slot_zero]
    exact h
  | succ k ih =>
    have hany : pi.hasAny = true := NcmOsRingIterator.getCount_pos_iff.mp (by omega)
    rw [NcmOsRingIterator.getCount_advance hany] at hk
    rw [← skip_succ]
    exact ih (h.advance hany) (Nat.le_of_succ_le_succ hk)

/-- The iterator only goes where there are packets. -/
theorem returns_walk (h : Returns (advanceBody answers) q q') (hwalk : Walk osQueue q.pi) :
    Walk osQueue q'.pi := by
  induction h with
  | leave hbody =>
    rw [advanceBody_leave hbody]
    exact hwalk
  | again hbody _ ih =>
    apply ih
    obtain ⟨k, -, hle, ha⟩ := advanceBody_advanced hbody
    rw [ha.pi]
    exact (walk_skip hwalk hle).set

/-- `Advance` leaves the two rings in step. -/
theorem advance_inStep {fuel : Nat} (hstep : InStep osQueue)
    (h : advance fuel answers parameters tb osQueue = .ok q) : InStep q.pi.osQueue :=
  ((returns_walk (returns_of_loop h) .start).inStep hstep).1

/-! ## Packets that fit -/

/-- The packets that are left all fit an empty NTB. -/
def RestFits (parameters : AdapterParameters) (osQueue : NcmOsQueue p f) (q : NcmTxQueue p f) :
    Prop :=
  ∀ i ∈ range q.pi.index q.pi.last,
    EmptyNtbTakes parameters (ncmGetPacketDataLength (packetAt osQueue i))

theorem RestFits.advanced (h : RestFits parameters osQueue q) {k : Nat} (ha : Advanced q q' k)
    (hk : k ≤ q.pi.getCount) : RestFits parameters osQueue q' := by
  intro i hi
  apply h i
  rw [ha.pi] at hi
  change i ∈ range (slot q.pi.index k) q.pi.last at hi
  rw [range_slot hk] at hi
  exact List.mem_of_mem_drop hi

/-- A pass over packets that fit leaves the loop at the end of the ring only. -/
theorem advanceBody_of_restFits (answers : TxAnswers) (hparameters : DriverParameters parameters)
    (honRing : OnRing parameters osQueue q) (hfits : RestFits parameters osQueue q) :
    (advanceBody answers q = .ok (.leave q) ∧ q.pi.hasAny = false) ∨
      ∃ q', advanceBody answers q = .ok (.again q') ∧ OnRing parameters osQueue q' ∧
        RestFits parameters osQueue q' := by
  cases hany : q.pi.hasAny with
  | false => exact Or.inl ⟨advanceBody_of_empty hany, rfl⟩
  | true =>
    have hpos := NcmOsRingIterator.getCount_pos_iff.mpr hany
    right
    cases hbuffer : answers.getBufferRequest q.requests with
    | none =>
      obtain ⟨q', hbody, ha⟩ := advanceBody_of_none hany hbuffer
      exact ⟨q', hbody, honRing.advanced ha, hfits.advanced ha hpos⟩
    | some bufferRequest =>
      rcases advanceBody_of_some hany hbuffer with ⟨-, q', k, hbody, ha, -, hle⟩ | ⟨hnot, -⟩
      · exact ⟨q', hbody, honRing.advanced ha, hfits.advanced ha hle⟩
      · refine absurd ?_ hnot
        rw [honRing.parameters_eq, started_accepts_iff hparameters honRing.ntb, honRing.length_eq]
        apply hfits
        rw [range, show count q.pi.index q.pi.last = q.pi.getCount - 1 + 1 by
          change q.pi.getCount = _
          omega, indicesFrom]
        exact List.mem_cons_self

/-! ## A packet that does not fit -/

/-- A pool that has no buffer for the first `k` requests. -/
def emptyUntil (k : Nat) : TxAnswers where
  getBufferRequest n := if n < k then none else some ⟨0, fun _ => none⟩
  transmitFrames _ := .success

theorem OnRing.getCount (h : OnRing parameters osQueue q) {n : Nat}
    (hindex : q.pi.index = slot osQueue.packetRing.beginIndex n)
    (hn : n ≤ count osQueue.packetRing.beginIndex osQueue.packetRing.endIndex) :
    q.pi.getCount = count osQueue.packetRing.beginIndex osQueue.packetRing.endIndex - n := by
  rw [NcmOsRingIterator.getCount, hindex, h.last]
  exact count_slot_of_le hn

/-- The first packets are dropped, and the one that does not fit is the first of an NTB. -/
theorem not_returns_of_emptyUntil (hparameters : DriverParameters parameters) {k m : Nat}
    (hk : k < count osQueue.packetRing.beginIndex osQueue.packetRing.endIndex)
    (hnot : ¬ EmptyNtbTakes parameters
      (ncmGetPacketDataLength (packetAt osQueue (slot osQueue.packetRing.beginIndex k))))
    (honRing : OnRing parameters osQueue q) (hrequests : q.requests + m = k)
    (hindex : q.pi.index = slot osQueue.packetRing.beginIndex q.requests) (fuel : Nat)
    (r : NcmTxQueue p f) : loop (advanceBody (emptyUntil k)) fuel q ≠ .ok r := by
  have hcount := honRing.getCount hindex (by omega)
  have hany : q.pi.hasAny = true := NcmOsRingIterator.getCount_pos_iff.mp (by omega)
  induction m generalizing q fuel with
  | zero =>
    have hbuffer : (emptyUntil k).getBufferRequest q.requests = some ⟨0, fun _ => none⟩ :=
      if_neg (by omega)
    have hbody : advanceBody (emptyUntil k) q = .error .assertion := by
      rcases advanceBody_of_some hany hbuffer with ⟨ha, -⟩ | ⟨-, hbody⟩
      · refine absurd ?_ hnot
        rw [honRing.parameters_eq, started_accepts_iff hparameters honRing.ntb, honRing.length_eq,
          hindex, show q.requests = k by omega] at ha
        exact ha
      · exact hbody
    cases fuel with
    | zero => exact fun h => by cases h
    | succ fuel =>
      rw [loop_error hbody]
      exact fun h => by cases h
  | succ m ih =>
    have hbuffer : (emptyUntil k).getBufferRequest q.requests = none := if_pos (by omega)
    obtain ⟨q', hbody, ha⟩ := advanceBody_of_none hany hbuffer
    have hindex' : q'.pi.index = slot osQueue.packetRing.beginIndex q'.requests := by
      rw [ha.pi, ha.requests, ← slot_slot, ← hindex]
      rfl
    have honRing' := honRing.advanced ha
    have hrequests' : q'.requests + m = k := by
      rw [ha.requests]
      omega
    have hcount' := honRing'.getCount hindex' (by omega)
    cases fuel with
    | zero => exact fun h => by cases h
    | succ fuel =>
      rw [loop_again hbody]
      exact ih honRing' hrequests' hindex' fuel hcount' (NcmOsRingIterator.getCount_pos_iff.mp (by omega))

/-! ## The result -/

/-- For the adapters of both drivers, every prior state of the transfer block and every ring: whatever
the pool and the driver answer, `Advance` gets through the ring without the assertion of `SetNdp`,
exactly when each packet of the ring fits an empty NTB. -/
theorem advance_completes_iff (parameters : AdapterParameters)
    (hparameters : DriverParameters parameters) (tb : NcmTransferBlock)
    (hcreated : CreatedFrom parameters tb) (osQueue : NcmOsQueue p f) :
    (∀ answers, Completes answers parameters tb osQueue) ↔
      ∀ i ∈ range osQueue.packetRing.beginIndex osQueue.packetRing.endIndex,
        EmptyNtbTakes parameters (ncmGetPacketDataLength (packetAt osQueue i)) := by
  have honRing := atRing_onRing hcreated osQueue
  constructor
  · intro hcompletes i hi
    obtain ⟨k, hk, rfl⟩ := List.getElem_of_mem hi
    rw [getElem_range]
    rw [range_length] at hk
    by_contra hnot
    obtain ⟨fuel, q, hreturns, -⟩ := (hcompletes (emptyUntil k)).returns
    exact not_returns_of_emptyUntil hparameters hk hnot honRing (Nat.zero_add k)
      (slot_zero _).symm fuel q hreturns
  · intro hfits answers
    refine ⟨⟨_, loop_total
      (fun q : NcmTxQueue p f => OnRing parameters osQueue q ∧ RestFits parameters osQueue q)
      (fun q => q.pi.getCount)
      (fun q : NcmTxQueue p f =>
        q.pi.osQueue.packetRing.beginIndex = osQueue.packetRing.endIndex) ?_
      ⟨honRing, hfits⟩ (Nat.lt_succ_self _)⟩, fun q q' _ h => advanceBody_progress h⟩
    rintro q ⟨honRing, hfits⟩
    rcases advanceBody_of_restFits answers hparameters honRing hfits with
      ⟨hbody, hany⟩ | ⟨q', hbody, honRing', hfits'⟩
    · refine Or.inl ⟨q, hbody, ?_⟩
      rw [honRing.completed, ← honRing.last]
      exact NcmOsRingIterator.not_hasAny_iff.mp hany
    · exact Or.inr ⟨q', hbody, ⟨honRing', hfits'⟩, advanceBody_progress hbody⟩

/-- The function driver's adapter after the host has asked for NTBs of this size. -/
def functionParameters (hostSelectedNtbInMaxSize : UInt32) : AdapterParameters :=
  Function.adapterParameters Function.ntbParameters false [2, 0, 0, 0, 0, 1] hostSelectedNtbInMaxSize

theorem advance_completes_iff_60 :
    (∀ answers, Completes answers (functionParameters 2048) (initialBlock 16 4 4 0 false)
        (singlePacket 60).osQueue) ↔
      ∀ i ∈ range (singlePacket 60).osQueue.packetRing.beginIndex
          (singlePacket 60).osQueue.packetRing.endIndex,
        EmptyNtbTakes (functionParameters 2048)
          (ncmGetPacketDataLength (packetAt (singlePacket 60).osQueue i)) :=
  advance_completes_iff (functionParameters 2048)
    (.function false [2, 0, 0, 0, 0, 1] 2048 (by decide) (by decide)) (initialBlock 16 4 4 0 false)
    ⟨rfl, rfl, rfl, rfl, rfl⟩ (singlePacket 60).osQueue

/-- A packet of MaxDatagramSize bytes, and NTBs of the smallest size that the host may ask for. -/
theorem advance_asserts :
    (functionParameters 2048).maxDatagramSize = 9014 ∧
      ncmGetPacketDataLength (singlePacket 9014) = 9014 ∧
      (∀ fuel, advance (fuel + 1) (emptyUntil 0) (functionParameters 2048)
        (initialBlock 16 4 4 0 false) (singlePacket 9014).osQueue = .error .assertion) ∧
      ¬ ∀ answers, Completes answers (functionParameters 2048) (initialBlock 16 4 4 0 false)
        (singlePacket 9014).osQueue := by
  have hbody : advanceBody (emptyUntil 0) (atRing (functionParameters 2048)
      (initialBlock 16 4 4 0 false) (singlePacket 9014).osQueue) = .error .assertion := by rfl
  have hasserts : ∀ fuel, advance (fuel + 1) (emptyUntil 0) (functionParameters 2048)
      (initialBlock 16 4 4 0 false) (singlePacket 9014).osQueue = .error .assertion :=
    loop_error hbody
  refine ⟨rfl, by rfl, hasserts, ?_⟩
  intro hcompletes
  obtain ⟨fuel, q, hreturns, -⟩ := (hcompletes (emptyUntil 0)).returns
  cases fuel with
  | zero => cases hreturns
  | succ fuel =>
    rw [hasserts fuel] at hreturns
    cases hreturns

end UsbNcm.Adapter.NcmTxQueue
