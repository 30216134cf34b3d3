import UsbNcm.Bus.Connected
import UsbNcm.Bus.Delivery
import UsbNcm.Ntb.Length

/-!
# Packets from one driver to the other

From every state in which the two drivers are connected, what one of them sends gets to the rings of
the other.
-/

open Exec ByteMemory RingIndex Packets UsbNcm.Ring UsbNcm.Ntb UsbNcm.Ntb.NcmTransferBlock
open UsbNcm.Adapter UsbNcm.Adapter.NcmTxQueue UsbNcm.Host UsbNcm.Function

namespace UsbNcm.Bus

variable {p f : Nat}

/-! ## Between the two adapters -/

section Agreed

variable {parameters : AdapterParameters} {osQueue : NcmOsQueue p f}

theorem Agreed.usual (h : Agreed parameters) : Usual parameters := by
  refine ⟨?_, ?_, ?_⟩
  · rw [h.txNdpAlignment]
    decide
  · rw [h.txNdpDivisor]
    decide
  · rw [h.txMaxNtbDatagramCount]
    decide

theorem Agreed.ntbFormat (h : Agreed parameters) : ntbFormat parameters = .ntb32 := by
  unfold NcmTxQueue.ntbFormat
  rw [h.use32BitNtb]
  rfl

theorem Agreed.fitsBuffer (h : Agreed parameters) {length : Nat} (hle : length ≤ 0x10000) :
    FitsBuffer parameters length := by
  unfold FitsBuffer
  rw [h.ntbFormat, h.txMaxNtbSize]
  exact ⟨hle, Nat.lt_of_le_of_lt hle (by decide)⟩

/-- The packets of the ring are not empty, and none has more than `limit` bytes. -/
def Frames (osQueue : NcmOsQueue p f) (limit : Nat) : Prop :=
  ∀ i ∈ range osQueue.packetRing.beginIndex osQueue.packetRing.endIndex,
    0 < ncmGetPacketDataLength (packetAt osQueue i) ∧
      ncmGetPacketDataLength (packetAt osQueue i) ≤ limit

/-- Whatever the MTU allows fits an NTB of its own. -/
theorem Agreed.allFit (h : Agreed parameters) (hframes : Frames osQueue maxHostMtuSize.toNat) :
    AllFit parameters osQueue (range osQueue.packetRing.beginIndex osQueue.packetRing.endIndex) := by
  intro i hi
  refine started_accepts_of_le h.usual.alignment h.usual.divisor _ ?_ (hframes i hi).2 ?_
  · change 0 < parameters.txMaxNtbDatagramCount.toNat
    rw [h.txMaxNtbDatagramCount]
    decide
  · unfold paddedSize initialBlock
    simp only [h.use32BitNtb, h.txNdpAlignment, h.txNdpDivisor, h.txNdpPayloadRemainder,
      h.txMaxNtbSize]
    decide

/-- Sixteen packets of this size leave room in an NTB. -/
theorem Agreed.ntbLength_lt (h : Agreed parameters) {tb : NcmTransferBlock}
    (hcreated : CreatedFrom parameters tb) {buffer : Memory} {packets rest : List (BitVec p)}
    (hntb : OneNtb parameters osQueue (tb.started buffer parameters.txMaxNtbSize.toNat) packets rest)
    (hlimit : ∀ i ∈ packets, ncmGetPacketDataLength (packetAt osQueue i) ≤ 4080) :
    ntbLength parameters osQueue packets < 0x10000 := by
  have hcount : (tb.started buffer parameters.txMaxNtbSize.toNat |>.trace
      (offered osQueue packets)).length ≤ 16 := by
    have hlimited := hntb.limit
    rw [h.txMaxNtbDatagramCount] at hlimited
    rwa [hntb.length_trace]
  have hsizes : ∀ x ∈ (tb.started buffer parameters.txMaxNtbSize.toNat).trace
      (offered osQueue packets), ncmGetPacketDataLength x.2 ≤ 4080 := by
    intro x hx
    have hmem := List.mem_map_of_mem (f := Prod.snd) hx
    rw [hntb.accepted] at hmem
    obtain ⟨i, hi, heq⟩ := List.mem_map.mp hmem
    rw [← heq]
    exact hlimit i hi
  have hle := started_ndpEnd_le (by rw [hcreated.ndpAlignment]; exact h.usual.alignment)
    (by rw [hcreated.ndpDivisor]; exact h.usual.divisor) buffer parameters.txMaxNtbSize.toNat
    (offered osQueue packets) hcount hsizes
  rw [started_ndpEnd hcreated] at hle
  apply Nat.lt_of_le_of_lt hle
  have hformat : tb.format = .ntb32 := hcreated.format.trans h.ntbFormat
  unfold paddedSize
  rw [hformat, hcreated.ndpDivisor, hcreated.ndpPayloadRemainder, hcreated.ndpAlignment,
    h.txNdpDivisor, h.txNdpPayloadRemainder, h.txNdpAlignment]
  decide

theorem Agreed.built_lt (h : Agreed parameters) {answers : TxAnswers} {n : Nat}
    {packets : List (BitVec p)} {log : List (TxAction p)}
    (hruns : Runs answers parameters osQueue n packets log)
    (hlimit : ∀ i ∈ packets, ncmGetPacketDataLength (packetAt osQueue i) ≤ 4080) :
    ∀ built ∈ builtNtbs log, ntbLength parameters osQueue built < 0x10000 := by
  induction hruns with
  | done => nofun
  | drop _ _ ih => exact ih fun i hi => hlimit i (List.mem_cons_of_mem _ hi)
  | @ntb n packets rest log bufferRequest tb sent transferLength hbuffer hcreated hntb hset _ ih =>
    intro built hmem
    have hcases : built = packets ∨ built ∈ builtNtbs log := by
      rcases List.mem_cons.mp hmem with hfirst | hlater
      · exact Or.inl hfirst
      · right
        split at hlater <;> exact hlater
    rcases hcases with rfl | hlater
    · exact h.ntbLength_lt hcreated hntb fun i hi => hlimit i (List.mem_append_left _ hi)
    · exact ih (fun i hi => hlimit i (List.mem_append_right _ hi)) built hlater

/-- Every call of `Advance` returns, and what it sends are the packets of the ring. -/
theorem Agreed.advance (h : Agreed parameters) {tb : NcmTransferBlock}
    (hcreated : CreatedFrom parameters tb) (hframes : Frames osQueue maxHostMtuSize.toNat)
    (answers : TxAnswers) :
    ∃ fuel q, NcmTxQueue.advance fuel answers parameters tb osQueue = .ok q ∧
      Runs answers parameters osQueue 0
        (range osQueue.packetRing.beginIndex osQueue.packetRing.endIndex) q.log := by
  obtain ⟨q, hreturns, -, log, hlog, hruns⟩ :=
    returns_runs answers (atRing_onRing hcreated osQueue) (h.allFit hframes)
  obtain ⟨fuel, hloop⟩ := loop_of_returns hreturns
  refine ⟨fuel, q, hloop, ?_⟩
  rw [hlog]
  exact hruns

/-- The NTBs that were sent, with the packets of each. -/
theorem Agreed.carries (h : Agreed parameters) {sent : List (List (BitVec p))}
    {ntbs : List (List UInt8)} (hntbs : List.Forall₂ (IsNtb parameters osQueue) sent ntbs) :
    List.Forall₂ (Carries .ntb32) ntbs (sent.map (datasOf osQueue)) := by
  rw [List.forall₂_map_right_iff]
  refine (hntbs.imp fun packets ntb hntb => ?_).flip
  have hcarries := hntb.carries
  rwa [h.ntbFormat] at hcarries

end Agreed

/-! ## Seventeen frames -/

theorem Agreed.createdFrom {parameters : AdapterParameters} (h : Agreed parameters) :
    CreatedFrom parameters (initialBlock 16 4 4 0 true) := by
  refine ⟨?_, h.txMaxNtbDatagramCount.symm, h.txNdpAlignment.symm, h.txNdpDivisor.symm,
    h.txNdpPayloadRemainder.symm⟩
  rw [h.use32BitNtb]
  rfl

/-- One packet more than the drivers put into an NTB. -/
def seventeenPackets : NcmOsQueue 5 5 := packetsOf 17 60

theorem seventeenPackets_frames : Frames seventeenPackets 4080 := by
  unfold Frames
  decide

theorem Frames.mono {osQueue : NcmOsQueue p f} {limit limit' : Nat} (h : Frames osQueue limit)
    (hle : limit ≤ limit') : Frames osQueue limit' :=
  fun i hi => ⟨(h i hi).1, Nat.le_trans (h i hi).2 hle⟩

/-- A pool of buffers full of zeros. -/
def zeroed : Nat → Option TxBufferRequest := fun _ => some ⟨7, fun _ => some 0⟩

theorem zeroed_mapped (parameters : AdapterParameters) : Mapped parameters zeroed := by
  rintro n bufferRequest ⟨⟩ a -
  rfl

/-- The drivers connect at the second start-up. -/
theorem twoStartUps_connect :
    ∃ system netAdapter, twoStartUps.foldlM System.step
        (startedSystem ⟨false, ⟨0, 0, 0, 0, 0, 0, 0, 0, 0, 0, 0, 0⟩, 0, 0, [0, 0, 0, 0, 0, 0]⟩ 0 1
          UsbNcmFunctionDevice.exampleDevice) = .ok system ∧
      system.selectedSetting = true ∧ system.function.netAdapter = some netAdapter :=
  ⟨_, _, rfl, rfl, rfl⟩

/-! ## The reads of the host -/

section Reads

variable {parameters : AdapterParameters} {osQueue : NcmOsQueue p f} {wMaxPacketSize : UInt16}
  {pool : Nat → Option TxBufferRequest} {outcomes : Nat → Function.TransmitOutcomes}

/-- What the function sends is read NTB by NTB. Behind an NTB that fills a read, and only there, the
packet of length zero completes a read of its own. -/
structure HostReads (parameters : AdapterParameters) (osQueue : NcmOsQueue p f)
    (sent : List (List (BitVec p))) (ntbs reads : List (List UInt8)) : Prop where
  isNtb : List.Forall₂ (IsNtb parameters osQueue) sent ntbs
  reads_eq : reads = ntbs.flatMap fun ntb => if ntb.length = 0x10000 then [ntb, []] else [ntb]
  one_iff : reads = ntbs ↔ ∀ packets ∈ sent, ntbLength parameters osQueue packets ≠ 0x10000

theorem isNtb_lengths_iff {sent : List (List (BitVec p))} {ntbs : List (List UInt8)} (P : Nat → Prop)
    (hntbs : List.Forall₂ (IsNtb parameters osQueue) sent ntbs) :
    (∀ ntb ∈ ntbs, P ntb.length) ↔ ∀ packets ∈ sent, P (ntbLength parameters osQueue packets) := by
  induction hntbs with
  | nil => exact iff_of_true nofun nofun
  | cons hntb _ ih => rw [List.forall_mem_cons, List.forall_mem_cons, ih, hntb.length]

theorem Agreed.hostReads (h : Agreed parameters) (hdvd : wMaxPacketSize.toNat ∣ 0x10000)
    (hpool : Mapped parameters pool) {packets : List (BitVec p)} {log : List (TxAction p)}
    (hruns : Runs (functionAnswers pool outcomes) parameters osQueue 0 packets log)
    (hpos : ∀ i ∈ packets, 0 < ncmGetPacketDataLength (packetAt osQueue i))
    (hbuilt : ∀ built ∈ builtNtbs log, ntbLength parameters osQueue built ≤ 0x10000) :
    ∃ sent ntbs reads,
      transfers (fun n => Function.transmitFrames (outcomes n) wMaxPacketSize) 0 log = .ok sent ∧
      receiveAll wMaxPacketSize.toNat 0x10000 ⟨[], []⟩
        (sent.flatMap (Transfer.packets wMaxPacketSize.toNat)) = some ⟨[], reads⟩ ∧
      HostReads parameters osQueue (sentNtbs (functionAnswers pool outcomes) 0 log) ntbs reads := by
  have hsize : 0 < wMaxPacketSize.toNat := Nat.pos_of_dvd_of_pos hdvd (by decide)
  have hne : wMaxPacketSize ≠ 0 := fun hzero => by
    rw [hzero] at hsize
    exact absurd hsize (by decide)
  obtain ⟨ntbs, hsent, hntbs⟩ := runs_transfers h.usual hpool (function_transmits pool outcomes hne)
    hruns hpos fun built hmem => h.fitsBuffer (hbuilt built hmem)
  have hlengths := (isNtb_lengths_iff (· ≤ 0x10000) hntbs).mpr fun built hmem =>
    hbuilt built (sentNtbs_subset _ _ _ hmem)
  refine ⟨_, ntbs, _, hsent, receiveAll_functionTransfer hsize (by decide) hdvd hlengths, hntbs, ?_, ?_⟩
  · apply List.flatMap_congr
    intro ntb _
    exact if_congr (and_iff_left rfl) rfl rfl
  · rw [flatMap_readsOf_iff, ← isNtb_lengths_iff (· ≠ 0x10000) hntbs]
    simp

end Reads

/-! ## From end to end -/

section Ends

variable {function : UsbNcmFunctionDevice}
  {initializeOutcomes : UsbNcmFunctionDevice.InitializeOutcomes}
  (hdevice : UsbNcmFunctionDevice.newDevice.initializeDevice initializeOutcomes =
    .ok (.success, function))
  {host : HostConfiguration} {controlInterfaceNumber dataInterfaceNumber : UInt8}
  {events : List SystemEvent} {system : System}
  (hsystem : events.foldlM System.step
    (startedSystem host controlInterfaceNumber dataInterfaceNumber function) = .ok system)
  (hselected : system.selectedSetting = true) {netAdapter : NetAdapter}
  (hadapter : system.function.netAdapter = some netAdapter) {tb : NcmTransferBlock}
  {osQueue : NcmOsQueue p f}

include hdevice hsystem hselected hadapter

/-- From any state of the two drivers in which they are connected: what the function's `Advance` sends
is read NTB by NTB, as long as no NTB is longer than its buffer. -/
theorem function_reads {wMaxPacketSize : UInt16} (hdvd : wMaxPacketSize.toNat ∣ 0x10000)
    (hcreated : CreatedFrom netAdapter.parameters tb)
    (hframes : Frames osQueue maxHostMtuSize.toNat) (pool : Nat → Option TxBufferRequest)
    (hpool : Mapped netAdapter.parameters pool) (outcomes : Nat → Function.TransmitOutcomes) :
    ∃ fuel q, advance fuel (functionAnswers pool outcomes) netAdapter.parameters tb osQueue = .ok q ∧
      ((Frames osQueue 4080 ∨ ∀ built ∈ builtNtbs q.log,
          ntbLength netAdapter.parameters osQueue built ≤ 0x10000) →
        ∃ sent ntbs reads,
          transfers (fun n => Function.transmitFrames (outcomes n) wMaxPacketSize) 0 q.log = .ok sent ∧
          receiveAll wMaxPacketSize.toNat system.host.hostSelectedNtbInMaxSize.toNat ⟨[], []⟩
            (sent.flatMap (Transfer.packets wMaxPacketSize.toNat)) = some ⟨[], reads⟩ ∧
          HostReads netAdapter.parameters osQueue
            (sentNtbs (functionAnswers pool outcomes) 0 q.log) ntbs reads) := by
  have hconnected := connected hdevice hsystem hselected hadapter
  have hagreed := hconnected.function_agreed
  obtain ⟨fuel, q, hadvance, hruns⟩ := hagreed.advance hcreated hframes (functionAnswers pool outcomes)
  refine ⟨fuel, q, hadvance, fun hshort => ?_⟩
  rw [hconnected.knows.hostSelectedNtbInMaxSize]
  apply hagreed.hostReads hdvd hpool hruns fun i hi => (hframes i hi).1
  rcases hshort with hsmall | hbuilt
  · exact fun built hmem =>
      Nat.le_of_lt (hagreed.built_lt hruns (fun i hi => (hsmall i hi).2) built hmem)
  · exact hbuilt

/-- Where no NTB fills a read of the host, as none does with frames of up to 4080 bytes, the host gets
the packets of the NTBs that were sent. -/
theorem function_to_host {wMaxPacketSize : UInt16} (hdvd : wMaxPacketSize.toNat ∣ 0x10000)
    (hcreated : CreatedFrom netAdapter.parameters tb)
    (hframes : Frames osQueue maxHostMtuSize.toNat) (pool : Nat → Option TxBufferRequest)
    (hpool : Mapped netAdapter.parameters pool) (outcomes : Nat → Function.TransmitOutcomes) :
    ∃ fuel q, advance fuel (functionAnswers pool outcomes) netAdapter.parameters tb osQueue = .ok q ∧
      InOrder (functionAnswers pool outcomes)
        (range osQueue.packetRing.beginIndex osQueue.packetRing.endIndex)
        (sentNtbs (functionAnswers pool outcomes) 0 q.log) ∧
      ((Frames osQueue 4080 ∨ ∀ built ∈ builtNtbs q.log,
          ntbLength netAdapter.parameters osQueue built < 0x10000) →
        ∃ sent reads,
          transfers (fun n => Function.transmitFrames (outcomes n) wMaxPacketSize) 0 q.log = .ok sent ∧
          receiveAll wMaxPacketSize.toNat system.host.hostSelectedNtbInMaxSize.toNat ⟨[], []⟩
            (sent.flatMap (Transfer.packets wMaxPacketSize.toNat)) = some ⟨[], reads⟩ ∧
          GetsThrough system.host.format (CompletedByHost system.host) reads
            ((sentNtbs (functionAnswers pool outcomes) 0 q.log).map (datasOf osQueue))) := by
  have hconnected := connected hdevice hsystem hselected hadapter
  have hagreed := hconnected.function_agreed
  obtain ⟨fuel, q, hadvance, hruns⟩ := hagreed.advance hcreated hframes (functionAnswers pool outcomes)
  refine ⟨fuel, q, hadvance, runs_inOrder hruns, fun hshort => ?_⟩
  have hbuilt : ∀ built ∈ builtNtbs q.log,
      ntbLength netAdapter.parameters osQueue built < 0x10000 := by
    rcases hshort with hsmall | hbuilt
    · exact hagreed.built_lt hruns fun i hi => (hsmall i hi).2
    · exact hbuilt
  obtain ⟨sent, ntbs, reads, hsent, hreads, hostReads⟩ := hagreed.hostReads hdvd hpool hruns
    (fun i hi => (hframes i hi).1) fun built hmem => Nat.le_of_lt (hbuilt built hmem)
  obtain rfl : reads = ntbs := hostReads.one_iff.mpr fun packets hmem =>
    Nat.ne_of_lt (hbuilt packets (sentNtbs_subset _ _ _ hmem))
  have hformat : system.host.format = .ntb32 := by
    unfold HostConfiguration.format
    rw [hconnected.knows.use32BitNtb]
    rfl
  refine ⟨sent, reads, hsent, ?_, ?_⟩
  · rw [hconnected.knows.hostSelectedNtbInMaxSize]
    exact hreads
  · rw [hformat]
    exact getsThrough_of_carries (fun _ _ => CompletedByHost.begins) (hagreed.carries hostReads.isNtb)

/-- The other way the NTB may fill the buffer. The pad byte, where there is one, is behind the NTB. -/
theorem host_to_function {maximumPacketSize : UInt32} (hlarge : 1 < maximumPacketSize.toNat)
    (hdvd : maximumPacketSize.toNat ∣ 0x10000)
    (hcreated : CreatedFrom (Host.adapterParameters system.host) tb)
    (hframes : Frames osQueue maxHostMtuSize.toNat) (pool : Nat → Option TxBufferRequest)
    (hpool : Mapped (Host.adapterParameters system.host) pool)
    (outcomes : Nat → Host.TransmitOutcomes) :
    ∃ fuel q, advance fuel (hostAnswers pool outcomes) (Host.adapterParameters system.host) tb
        osQueue = .ok q ∧
      InOrder (hostAnswers pool outcomes)
        (range osQueue.packetRing.beginIndex osQueue.packetRing.endIndex)
        (sentNtbs (hostAnswers pool outcomes) 0 q.log) ∧
      ((Frames osQueue 4080 ∨ ∀ built ∈ builtNtbs q.log,
          ntbLength (Host.adapterParameters system.host) osQueue built ≤ 0x10000) →
        ∃ sent reads,
          transfers (fun n => Host.transmitFrames (outcomes n) maximumPacketSize
            (Host.adapterParameters system.host).txMaxNtbSize.toNat) 0 q.log = .ok sent ∧
          receiveAll maximumPacketSize.toNat system.bufferOutputSize.toNat ⟨[], []⟩
            (sent.flatMap (Transfer.packets maximumPacketSize.toNat)) = some ⟨[], reads⟩ ∧
          GetsThrough (ntbFormat netAdapter.parameters) CompletedByFunction reads
            ((sentNtbs (hostAnswers pool outcomes) 0 q.log).map (datasOf osQueue))) := by
  have hconnected := connected hdevice hsystem hselected hadapter
  have hagreed := hconnected.knows.host_agreed
  have hne : maximumPacketSize ≠ 0 := fun hzero => by
    rw [hzero] at hlarge
    exact absurd hlarge (by decide)
  obtain ⟨fuel, q, hadvance, hruns⟩ := hagreed.advance hcreated hframes (hostAnswers pool outcomes)
  refine ⟨fuel, q, hadvance, runs_inOrder hruns, fun hshort => ?_⟩
  have hbuilt : ∀ built ∈ builtNtbs q.log,
      ntbLength (Host.adapterParameters system.host) osQueue built ≤ 0x10000 := by
    rcases hshort with hsmall | hbuilt
    · exact fun built hmem =>
        Nat.le_of_lt (hagreed.built_lt hruns (fun i hi => (hsmall i hi).2) built hmem)
    · exact hbuilt
  obtain ⟨ntbs, hsent, hntbs⟩ := runs_transfers hagreed.usual hpool
    (host_transmits pool outcomes hne _) hruns (fun i hi => (hframes i hi).1)
    fun built hmem => hagreed.fitsBuffer (hbuilt built hmem)
  have hlengths := (isNtb_lengths_iff (· ≤ 0x10000) hntbs).mpr fun built hmem =>
    hbuilt built (sentNtbs_subset _ _ _ hmem)
  have hsize : system.bufferOutputSize.toNat = 0x10000 := by
    rw [hconnected.bufferOutputSize]
    rfl
  have hbuffer : (Host.adapterParameters system.host).txMaxNtbSize.toNat = 0x10000 := by
    rw [hagreed.txMaxNtbSize]
    rfl
  refine ⟨_, ntbs.map (Host.padded maximumPacketSize.toNat 0x10000), hsent, ?_, ?_⟩
  · rw [hsize, hbuffer, receiveAll_hostTransfer hlarge (by decide) hdvd hlengths]
  · rw [hconnected.function_agreed.ntbFormat]
    apply getsThrough_of_carries fun _ _ => CompletedByFunction.begins
    rw [List.forall₂_map_left_iff]
    exact (hagreed.carries hntbs).imp fun ntb datas hcarries =>
      hcarries.extends (Host.prefix_padded _ _ ntb)

end Ends

theorem function_reads_seventeenPackets :
    ∃ system netAdapter fuel q sent ntbs reads, twoStartUps.foldlM System.step
        (startedSystem ⟨false, ⟨0, 0, 0, 0, 0, 0, 0, 0, 0, 0, 0, 0⟩, 0, 0, [0, 0, 0, 0, 0, 0]⟩ 0 1
          UsbNcmFunctionDevice.exampleDevice) = .ok system ∧
      system.function.netAdapter = some netAdapter ∧
      advance fuel (functionAnswers zeroed fun _ => ⟨true, .success, .success, .sent⟩)
        netAdapter.parameters (initialBlock 16 4 4 0 true) seventeenPackets = .ok q ∧
      transfers (fun _ => Function.transmitFrames ⟨true, .success, .success, .sent⟩ 512) 0 q.log =
        .ok sent ∧
      receiveAll 512 system.host.hostSelectedNtbInMaxSize.toNat ⟨[], []⟩
        (sent.flatMap (Transfer.packets 512)) = some ⟨[], reads⟩ ∧
      HostReads netAdapter.parameters seventeenPackets
        (sentNtbs (functionAnswers zeroed fun _ => ⟨true, .success, .success, .sent⟩) 0 q.log)
        ntbs reads := by
  obtain ⟨system, netAdapter, hsystem, hselected, hadapter⟩ := twoStartUps_connect
  have hagreed := (connected UsbNcmFunctionDevice.exampleDevice_initialized hsystem hselected
    hadapter).function_agreed
  have hdvd : (512 : UInt16).toNat ∣ 0x10000 := by decide
  obtain ⟨fuel, q, hadvance, hreads⟩ := function_reads
    UsbNcmFunctionDevice.exampleDevice_initialized hsystem hselected hadapter hdvd
    hagreed.createdFrom (seventeenPackets_frames.mono (by decide)) zeroed (zeroed_mapped _)
    fun _ => ⟨true, .success, .success, .sent⟩
  obtain ⟨sent, ntbs, reads, hsent, hall, hhost⟩ := hreads (Or.inl seventeenPackets_frames)
  exact ⟨system, netAdapter, fuel, q, sent, ntbs, reads, hsystem, hadapter, hadvance, hsent, hall,
    hhost⟩

theorem function_to_host_seventeenPackets :
    ∃ system fuel q sent reads, twoStartUps.foldlM System.step
        (startedSystem ⟨false, ⟨0, 0, 0, 0, 0, 0, 0, 0, 0, 0, 0, 0⟩, 0, 0, [0, 0, 0, 0, 0, 0]⟩ 0 1
          UsbNcmFunctionDevice.exampleDevice) = .ok system ∧
      (∀ netAdapter, system.function.netAdapter = some netAdapter →
        advance fuel (functionAnswers zeroed fun _ => ⟨true, .success, .success, .sent⟩)
          netAdapter.parameters (initialBlock 16 4 4 0 true) seventeenPackets = .ok q) ∧
      transfers (fun _ => Function.transmitFrames ⟨true, .success, .success, .sent⟩ 512) 0 q.log =
        .ok sent ∧
      receiveAll 512 system.host.hostSelectedNtbInMaxSize.toNat ⟨[], []⟩
        (sent.flatMap (Transfer.packets 512)) = some ⟨[], reads⟩ ∧
      GetsThrough system.host.format (CompletedByHost system.host) reads
        ((sentNtbs (functionAnswers zeroed fun _ => ⟨true, .success, .success, .sent⟩) 0 q.log).map
          (datasOf seventeenPackets)) := by
  obtain ⟨system, netAdapter, hsystem, hselected, hadapter⟩ := twoStartUps_connect
  have hagreed := (connected UsbNcmFunctionDevice.exampleDevice_initialized hsystem hselected
    hadapter).function_agreed
  have hdvd : (512 : UInt16).toNat ∣ 0x10000 := by decide
  obtain ⟨fuel, q, hadvance, -, hdelivers⟩ := function_to_host
    UsbNcmFunctionDevice.exampleDevice_initialized hsystem hselected hadapter hdvd
    hagreed.createdFrom (seventeenPackets_frames.mono (by decide)) zeroed (zeroed_mapped _)
    fun _ => ⟨true, .success, .success, .sent⟩
  obtain ⟨sent, reads, hsent, hreads, hthrough⟩ := hdelivers (Or.inl seventeenPackets_frames)
  refine ⟨system, fuel, q, sent, reads, hsystem, fun netAdapter' hadapter' => ?_, hsent, hreads,
    hthrough⟩
  cases hadapter.symm.trans hadapter'
  exact hadvance

theorem host_to_function_seventeenPackets :
    ∃ system fuel q sent reads, twoStartUps.foldlM System.step
        (startedSystem ⟨false, ⟨0, 0, 0, 0, 0, 0, 0, 0, 0, 0, 0, 0⟩, 0, 0, [0, 0, 0, 0, 0, 0]⟩ 0 1
          UsbNcmFunctionDevice.exampleDevice) = .ok system ∧
      advance fuel (hostAnswers zeroed fun _ => ⟨.success, .sent⟩)
        (Host.adapterParameters system.host) (initialBlock 16 4 4 0 true) seventeenPackets =
          .ok q ∧
      transfers (fun _ => Host.transmitFrames ⟨.success, .sent⟩ 512
        (Host.adapterParameters system.host).txMaxNtbSize.toNat) 0 q.log = .ok sent ∧
      receiveAll 512 system.bufferOutputSize.toNat ⟨[], []⟩
        (sent.flatMap (Transfer.packets 512)) = some ⟨[], reads⟩ ∧
      GetsThrough .ntb32 CompletedByFunction reads
        ((sentNtbs (hostAnswers zeroed fun _ => ⟨.success, .sent⟩) 0 q.log).map
          (datasOf seventeenPackets)) := by
  obtain ⟨system, netAdapter, hsystem, hselected, hadapter⟩ := twoStartUps_connect
  have hconnected := connected UsbNcmFunctionDevice.exampleDevice_initialized hsystem hselected hadapter
  have hdvd : (512 : UInt32).toNat ∣ 0x10000 := by decide
  obtain ⟨fuel, q, hadvance, -, hdelivers⟩ := host_to_function
    UsbNcmFunctionDevice.exampleDevice_initialized hsystem hselected hadapter (by decide) hdvd
    hconnected.knows.host_agreed.createdFrom
    (seventeenPackets_frames.mono (by decide)) zeroed (zeroed_mapped _) fun _ => ⟨.success, .sent⟩
  obtain ⟨sent, reads, hsent, hreads, hthrough⟩ := hdelivers (Or.inl seventeenPackets_frames)
  rw [hconnected.function_agreed.ntbFormat] at hthrough
  exact ⟨system, fuel, q, sent, reads, hsystem, hadvance, hsent, hreads, hthrough⟩

end UsbNcm.Bus
