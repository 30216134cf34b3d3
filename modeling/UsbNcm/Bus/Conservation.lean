import UsbNcm.Bus.DataPath

/-!
# The two bulk pipes of a connected system

What is relied on holds of both pipes in every state in which the two drivers are connected, so
nothing gets lost between their queues.
-/

open Exec Packets RingIndex UsbNcm.Ring UsbNcm.Ntb UsbNcm.Ntb.NcmTransferBlock UsbNcm.Adapter
open UsbNcm.Adapter.NcmTxQueue UsbNcm.Host UsbNcm.Function

namespace UsbNcm.Bus

variable {Outcomes : Type} {p f p' f' limit : Nat} {pipe : BulkPipe Outcomes} {ncmAdapter : NcmAdapter}
  {osQueue : NcmOsQueue p f}

/-- No NTB of frames with up to 4080 bytes gets as long as the limit. -/
theorem allowed_of_frames (hagreed : Agreed pipe.parameters) (hlimit : 0xffff ≤ limit)
    (hframes : Frames osQueue 4080) {pool : Nat → Option TxBufferRequest}
    (hpool : Mapped pipe.parameters pool) (outcomes : Nat → Outcomes) :
    Allowed pipe limit ncmAdapter
      (.transmit osQueue pool outcomes : PathEvent Outcomes p f p' f') := by
  refine ⟨hframes.mono (by decide), hpool, fun log hruns built hmem => ?_⟩
  have hlt := hagreed.built_lt hruns (fun i hi => (hframes i hi).2) built hmem
  omega

/-! ## What is relied on -/

section Connected

variable {cdcMacAddress : List UInt8} {system : System} {netAdapter : NetAdapter}
  (h : Connected cdcMacAddress system netAdapter)

include h

/-- An NTB that fills a read of the host would be followed by an empty one. -/
theorem Connected.functionToHost_sound {wMaxPacketSize : UInt16}
    (hdvd : wMaxPacketSize.toNat ∣ 0x10000) :
    Sound (functionToHost netAdapter wMaxPacketSize system.host) 0xffff := by
  have hpos : 0 < wMaxPacketSize.toNat := Nat.pos_of_dvd_of_pos hdvd (by decide)
  have hne : wMaxPacketSize ≠ 0 := fun hzero => by
    rw [hzero] at hpos
    exact absurd hpos (by decide)
  have hsize : system.host.hostSelectedNtbInMaxSize.toNat = 0x10000 := by
    rw [h.knows.hostSelectedNtbInMaxSize]
    rfl
  refine ⟨h.function_agreed, by decide, ⟨functionTransfer wMaxPacketSize.toNat, id,
    fun pool outcomes => function_transmits pool outcomes hne, List.prefix_refl, ?_⟩, ?_⟩
  · intro ntbs hlengths
    have hle : ∀ ntb ∈ ntbs, ntb.length ≤ 0x10000 := fun ntb hntb =>
      Nat.le_succ_of_le (hlengths ntb hntb)
    have hone : ntbs.flatMap (readsOf 0x10000 true) = ntbs :=
      flatMap_readsOf_iff.mpr (Or.inr fun ntb hntb =>
        Nat.ne_of_lt (Nat.lt_succ_of_le (hlengths ntb hntb)))
    unfold functionToHost
    dsimp only
    rw [hsize, receiveAll_functionTransfer hpos (by decide) hdvd hle, hone, List.map_id]
  · intro completion read hmemory hread
    change read.length ≤ system.host.hostSelectedNtbInMaxSize.toNat at hread
    have hfits : read.length ≤ completion.memory.bytes.length := hmemory ▸ hread
    refine ⟨(filled completion.memory read hfits).rxBuffer, List.prefix_append _ _, fun q => ?_⟩
    unfold functionToHost
    dsimp only
    rw [dif_pos hfits, dataBulkIn_ok _ hread]
    rfl

/-- The pad byte is behind the NTB. -/
theorem Connected.hostToFunction_sound {maximumPacketSize : UInt32}
    (hlarge : 1 < maximumPacketSize.toNat) (hdvd : maximumPacketSize.toNat ∣ 0x10000) :
    Sound (hostToFunction system.host maximumPacketSize system.bufferOutputSize) 0x10000 := by
  have hne : maximumPacketSize ≠ 0 := fun hzero => by
    rw [hzero] at hlarge
    exact absurd hlarge (by decide)
  have hsize : system.bufferOutputSize.toNat = 0x10000 := by
    rw [h.bufferOutputSize]
    rfl
  have hbuffer : (Host.adapterParameters system.host).txMaxNtbSize.toNat = 0x10000 := by
    rw [h.knows.host_agreed.txMaxNtbSize]
    rfl
  refine ⟨h.knows.host_agreed, Nat.le_refl _,
    ⟨hostTransfer maximumPacketSize.toNat (Host.adapterParameters system.host).txMaxNtbSize.toNat,
      Host.padded maximumPacketSize.toNat 0x10000,
      fun pool outcomes => host_transmits pool outcomes hne _, Host.prefix_padded _ _, ?_⟩, ?_⟩
  · intro ntbs hlengths
    unfold hostToFunction
    dsimp only
    rw [hsize, hbuffer, receiveAll_hostTransfer hlarge (by decide) hdvd hlengths]
  · intro completion read hmemory hread
    have hfits : read.length ≤ completion.memory.bytes.length := hmemory ▸ hread
    refine ⟨BulkOut.fromContinuousRequestTarget ⟨completion.memory.handle, true, read,
      Nat.lt_of_le_of_lt hfits completion.memory.bytes_lt⟩, List.prefix_refl _, fun q => ?_⟩
    unfold hostToFunction notifyReceive Function.rxBufferQueueEnqueueBuffer
    dsimp only
    rw [dif_pos hfits]
    split <;> rfl

end Connected

/-! ## From end to end, all the time -/

section Ends

variable {function : UsbNcmFunctionDevice}
  {initializeOutcomes : UsbNcmFunctionDevice.InitializeOutcomes}
  (hdevice : UsbNcmFunctionDevice.newDevice.initializeDevice initializeOutcomes =
    .ok (.success, function))
  {host : HostConfiguration} {controlInterfaceNumber dataInterfaceNumber : UInt8}
  {startUps : List SystemEvent} {system : System}
  (hsystem : startUps.foldlM System.step
    (startedSystem host controlInterfaceNumber dataInterfaceNumber function) = .ok system)
  (hselected : system.selectedSetting = true) {netAdapter : NetAdapter}
  (hadapter : system.function.netAdapter = some netAdapter) {tb rxNtb : NcmTransferBlock}

include hdevice hsystem hselected hadapter

/-- From any state in which the two drivers are connected, however the calls of `Advance` at both ends,
the packets on the bus and the completions of the host's reads follow one another. -/
theorem function_to_host_conserved {wMaxPacketSize : UInt16}
    (hdvd : wMaxPacketSize.toNat ∣ 0x10000) (hcreated : CreatedFrom netAdapter.parameters tb)
    (hformat : rxNtb.format = system.host.format)
    {events : List (PathEvent Function.TransmitOutcomes p f p' f')}
    (hallowed : ∀ e ∈ events,
      Allowed (functionToHost netAdapter wMaxPacketSize system.host) 0xffff ncmAdapter e) :
    ∃ enough path, (∀ fuel, enough ≤ fuel →
        events.foldlM (DataPath.step (functionToHost netAdapter wMaxPacketSize system.host) fuel)
          (.idle tb ncmAdapter rxNtb) = .ok path) ∧
      Conserved (functionToHost netAdapter wMaxPacketSize system.host) ncmAdapter path ∧
      ((∀ e ∈ events, Unfailing (functionToHost netAdapter wMaxPacketSize system.host) e) →
        GetsAll (functionToHost netAdapter wMaxPacketSize system.host) ncmAdapter path) := by
  have hconnected := connected hdevice hsystem hselected hadapter
  refine (hconnected.functionToHost_sound hdvd).conserved hcreated ?_ hallowed
  rw [hformat]
  unfold HostConfiguration.format
  rw [hconnected.knows.use32BitNtb]
  rfl

/-- The other way, with the completions of the function's reads. -/
theorem host_to_function_conserved {maximumPacketSize : UInt32}
    (hlarge : 1 < maximumPacketSize.toNat) (hdvd : maximumPacketSize.toNat ∣ 0x10000)
    (hcreated : CreatedFrom (Host.adapterParameters system.host) tb)
    (hformat : rxNtb.format = ntbFormat netAdapter.parameters)
    {events : List (PathEvent Host.TransmitOutcomes p f p' f')}
    (hallowed : ∀ e ∈ events, Allowed
      (hostToFunction system.host maximumPacketSize system.bufferOutputSize) 0x10000 ncmAdapter e) :
    ∃ enough path, (∀ fuel, enough ≤ fuel →
        events.foldlM (DataPath.step
            (hostToFunction system.host maximumPacketSize system.bufferOutputSize) fuel)
          (.idle tb ncmAdapter rxNtb) = .ok path) ∧
      Conserved (hostToFunction system.host maximumPacketSize system.bufferOutputSize) ncmAdapter
        path ∧
      ((∀ e ∈ events,
          Unfailing (hostToFunction system.host maximumPacketSize system.bufferOutputSize) e) →
        GetsAll (hostToFunction system.host maximumPacketSize system.bufferOutputSize) ncmAdapter
          path) := by
  have hconnected := connected hdevice hsystem hselected hadapter
  refine (hconnected.hostToFunction_sound hlarge hdvd).conserved hcreated ?_ hallowed
  rw [hformat, hconnected.function_agreed.ntbFormat]

end Ends

def zeroMemory : WdfMemory where
  handle := 0
  bytes := List.replicate 0x10000 0
  bytes_lt := by
    rw [List.length_replicate]
    decide

/-- Seventeen packets are sent in two NTBs, and behind these two more packets. The first two NTBs, of three
packets on the bus and of one, are read, and there is a free fragment behind each. -/
def twoTransmits (outcome : Outcomes) : List (PathEvent Outcomes 5 5 1 1) :=
  [.transmit seventeenPackets zeroed fun _ => outcome, .packet ⟨zeroMemory, .success⟩,
    .transmit (packetsOf 2 60) zeroed fun _ => outcome, .packet ⟨zeroMemory, .success⟩,
    .packet ⟨zeroMemory, .success⟩, .receive NcmRxQueue.oneFree, .packet ⟨zeroMemory, .success⟩,
    .receive NcmRxQueue.oneFree]

theorem twoTransmits_allowed (hagreed : Agreed pipe.parameters) (hlimit : 0xffff ≤ limit)
    (hsize : pipe.readSize = 0x10000) (outcome : Outcomes) :
    ∀ e ∈ twoTransmits outcome,
      Allowed pipe limit (exampleAdapter ndisPacketTypePromiscuous) e := by
  have hmemory : zeroMemory.bytes.length = pipe.readSize := by
    change (List.replicate 0x10000 (0 : UInt8)).length = pipe.readSize
    rw [List.length_replicate, hsize]
  have hrest : Frames (packetsOf 2 60) 4080 := by
    unfold Frames
    decide
  unfold twoTransmits
  simp only [List.forall_mem_cons]
  exact ⟨allowed_of_frames hagreed hlimit seventeenPackets_frames (zeroed_mapped _) _, hmemory,
    allowed_of_frames hagreed hlimit hrest (zeroed_mapped _) _, hmemory, hmemory,
    NcmRxQueue.oneFree_suits, hmemory, NcmRxQueue.oneFree_suits, nofun⟩

theorem twoTransmits_unfailing {outcome : Outcomes} (h : (pipe.status outcome).ntSuccess = true) :
    ∀ e ∈ twoTransmits outcome, Unfailing pipe e := by
  unfold twoTransmits
  simp only [List.forall_mem_cons]
  exact ⟨fun _ => ⟨rfl, h⟩, rfl, fun _ => ⟨rfl, h⟩, rfl, rfl, trivial, rfl, trivial, nofun⟩

theorem function_to_host_conserved_twoTransmits :
    ∃ system netAdapter enough path, twoStartUps.foldlM System.step
        (startedSystem ⟨false, ⟨0, 0, 0, 0, 0, 0, 0, 0, 0, 0, 0, 0⟩, 0, 0, [0, 0, 0, 0, 0, 0]⟩ 0 1
          UsbNcmFunctionDevice.exampleDevice) = .ok system ∧
      system.function.netAdapter = some netAdapter ∧
      (∀ fuel, enough ≤ fuel → (twoTransmits ⟨true, .success, .success, .sent⟩).foldlM
        (DataPath.step (functionToHost netAdapter 512 system.host) fuel)
        (.idle (initialBlock 16 4 4 0 true) (exampleAdapter ndisPacketTypePromiscuous)
          (initialBlock 16 4 4 0 true)) = .ok path) ∧
      Conserved (functionToHost netAdapter 512 system.host)
        (exampleAdapter ndisPacketTypePromiscuous) path ∧
      GetsAll (functionToHost netAdapter 512 system.host)
        (exampleAdapter ndisPacketTypePromiscuous) path := by
  obtain ⟨system, netAdapter, hsystem, hselected, hadapter⟩ := twoStartUps_connect
  have hconnected := connected UsbNcmFunctionDevice.exampleDevice_initialized hsystem hselected hadapter
  have hsize : (functionToHost netAdapter 512 system.host).readSize = 0x10000 := by
    unfold functionToHost
    dsimp only
    rw [hconnected.knows.hostSelectedNtbInMaxSize]
    rfl
  have hformat : (initialBlock 16 4 4 0 true).format = system.host.format := by
    unfold HostConfiguration.format
    rw [hconnected.knows.use32BitNtb]
    rfl
  have hdvd : (512 : UInt16).toNat ∣ 0x10000 := by decide
  obtain ⟨enough, path, hrun, hconserved, hall⟩ := function_to_host_conserved
    UsbNcmFunctionDevice.exampleDevice_initialized hsystem hselected hadapter hdvd
    hconnected.function_agreed.createdFrom hformat
    (twoTransmits_allowed hconnected.function_agreed (Nat.le_refl _) hsize
      ⟨true, .success, .success, .sent⟩)
  exact ⟨system, netAdapter, enough, path, hsystem, hadapter, hrun, hconserved,
    hall (twoTransmits_unfailing rfl)⟩

theorem host_to_function_conserved_twoTransmits :
    ∃ system enough path, twoStartUps.foldlM System.step
        (startedSystem ⟨false, ⟨0, 0, 0, 0, 0, 0, 0, 0, 0, 0, 0, 0⟩, 0, 0, [0, 0, 0, 0, 0, 0]⟩ 0 1
          UsbNcmFunctionDevice.exampleDevice) = .ok system ∧
      (∀ fuel, enough ≤ fuel → (twoTransmits ⟨.success, .sent⟩).foldlM
        (DataPath.step (hostToFunction system.host 512 system.bufferOutputSize) fuel)
        (.idle (initialBlock 16 4 4 0 true) (exampleAdapter ndisPacketTypePromiscuous)
          (initialBlock 16 4 4 0 true)) = .ok path) ∧
      Conserved (hostToFunction system.host 512 system.bufferOutputSize)
        (exampleAdapter ndisPacketTypePromiscuous) path ∧
      GetsAll (hostToFunction system.host 512 system.bufferOutputSize)
        (exampleAdapter ndisPacketTypePromiscuous) path := by
  obtain ⟨system, netAdapter, hsystem, hselected, hadapter⟩ := twoStartUps_connect
  have hconnected := connected UsbNcmFunctionDevice.exampleDevice_initialized hsystem hselected hadapter
  have hsize : (hostToFunction system.host 512 system.bufferOutputSize).readSize = 0x10000 := by
    unfold hostToFunction
    dsimp only
    rw [hconnected.bufferOutputSize]
    rfl
  have hformat : (initialBlock 16 4 4 0 true).format = ntbFormat netAdapter.parameters :=
    hconnected.function_agreed.ntbFormat.symm
  have hdvd : (512 : UInt32).toNat ∣ 0x10000 := by decide
  obtain ⟨enough, path, hrun, hconserved, hall⟩ := host_to_function_conserved
    UsbNcmFunctionDevice.exampleDevice_initialized hsystem hselected hadapter (by decide) hdvd
    hconnected.knows.host_agreed.createdFrom hformat
    (twoTransmits_allowed hconnected.knows.host_agreed (by decide) hsize ⟨.success, .sent⟩)
  exact ⟨system, enough, path, hsystem, hrun, hconserved, hall (twoTransmits_unfailing rfl)⟩

end UsbNcm.Bus
