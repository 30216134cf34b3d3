import UsbNcm.Function.AdapterState
import UsbNcm.Function.Negotiation
import UsbNcm.Function.Transmit

/-!
# SET_NTB_INPUT_SIZE

Whether the size that the host sets takes effect, and what else the request changes.
-/

open Exec ByteMemory UsbNcm.Ntb UsbNcm.Ntb.NcmTransferBlock UsbNcm.Ring

namespace UsbNcm.Function

namespace Negotiation

variable {negotiation negotiation' : Negotiation} {outcomes : Outcomes} {ntbInMaxSize : UInt32}

/-! ## The machine -/

/-- The adapter, if there is one, was created from what is negotiated now. -/
def UpToDate (negotiation : Negotiation) : Prop :=
  ∀ adapter ∈ negotiation.adapter, adapter = negotiation.agreedParameters

theorem createAdapter_spec (negotiation : Negotiation) (outcomes : Outcomes)
    (hnone : negotiation.adapter = none) :
    ∃ interfaceIndex adapter, negotiation.createAdapter outcomes = .ok
      { negotiation with communicationInterfaceIndex := interfaceIndex, adapter := adapter } ∧
      ∀ made ∈ adapter, made = negotiation.agreedParameters := by
  unfold createAdapter
  rw [hnone]
  split
  · contradiction
  · dsimp only
    split
    · refine ⟨_, _, rfl, ?_⟩
      rintro made ⟨⟩
      rfl
    · refine ⟨_, negotiation.adapter, rfl, ?_⟩
      rw [hnone]
      nofun

theorem destroyAdapter_none (negotiation : Negotiation) (outcomes : Outcomes)
    (hnone : ¬ negotiation.adapter.isSome) : negotiation.destroyAdapter outcomes = negotiation := by
  unfold destroyAdapter
  rw [if_neg hnone]

theorem destroyAdapter_spec (negotiation : Negotiation) (outcomes : Outcomes)
    (hsome : negotiation.adapter.isSome) :
    ∃ interfaceIndex, negotiation.destroyAdapter outcomes =
      { negotiation with
        alternateInterfaceNumber := 0
        use32BitNtb := false
        hostSelectedNtbInMaxSize := ntbParameters.dwNtbInMaxSize
        adapter := none
        communicationInterfaceIndex := interfaceIndex } := by
  unfold destroyAdapter
  rw [if_pos hsome]
  exact ⟨_, rfl⟩

/-- Without an adapter only the size changes. With one the size is lost, and the format and the
alternate setting with it. -/
theorem resize_spec (negotiation : Negotiation) (outcomes : Outcomes) (ntbInMaxSize : UInt32) :
    ∃ negotiation', negotiation.resize outcomes ntbInMaxSize = .ok negotiation' ∧
      negotiation'.configured = negotiation.configured ∧ negotiation'.UpToDate ∧
      (negotiation.adapter = none → negotiation'.hostSelectedNtbInMaxSize = ntbInMaxSize ∧
        negotiation'.use32BitNtb = negotiation.use32BitNtb ∧
        negotiation'.alternateInterfaceNumber = negotiation.alternateInterfaceNumber) ∧
      (negotiation.adapter.isSome →
        negotiation'.hostSelectedNtbInMaxSize = ntbParameters.dwNtbInMaxSize ∧
        negotiation'.use32BitNtb = false ∧ negotiation'.alternateInterfaceNumber = 0) := by
  unfold resize
  cases hadapter : negotiation.adapter with
  | none =>
    refine ⟨_, rfl, rfl, ?_, fun _ => ⟨rfl, rfl, rfl⟩, nofun⟩
    exact fun made hmade => absurd (hadapter ▸ hmade) (Option.not_mem_none made)
  | some adapter =>
    obtain ⟨i, hdestroy⟩ := destroyAdapter_spec
      { negotiation with hostSelectedNtbInMaxSize := ntbInMaxSize } outcomes (by rw [hadapter]; rfl)
    obtain ⟨j, adapter, hcreate, hmade⟩ := createAdapter_spec
      { negotiation with
        alternateInterfaceNumber := 0
        use32BitNtb := false
        hostSelectedNtbInMaxSize := ntbParameters.dwNtbInMaxSize
        adapter := none
        communicationInterfaceIndex := i } outcomes rfl
    rw [hadapter] at hdestroy
    dsimp only
    rw [if_pos Option.isSome_some, hdestroy]
    exact ⟨_, hcreate, rfl, hmade, nofun, fun _ => ⟨rfl, rfl, rfl⟩⟩

end Negotiation

namespace UsbNcmFunctionDevice

variable {device device' : UsbNcmFunctionDevice} {negotiation : Negotiation} {outcomes : Outcomes}
  {setupPacket : SetupPacket} {ntbInMaxSize : UInt32} {notification : Notification}

/-! ## The request -/

/-- A GET_NTB_INPUT_SIZE is answered with this size. -/
def Reports (device : UsbNcmFunctionDevice) (ntbInMaxSize : UInt32) : Prop :=
  ∀ (setupPacket : SetupPacket) (outcomes : Outcomes),
    setupPacket.wIndex.toNat = device.communicationInterfaceIndex.toNat →
    setupPacket.bRequest = 0x85 → setupPacket.wValue = 0 → 4 ≤ setupPacket.wLength →
    outcomes.writeEndPoint0.ntSuccess →
    ∃ device', device.processSetupPacket setupPacket outcomes = .ok device' ∧
      device'.log = device.log ++ [.wroteToEndPoint0 (.ntbInputSize ntbInMaxSize),
        .sentHandshake outcomes.handshake]

/-- The size is the one asked for, and nothing else that was negotiated has changed. -/
structure TakesEffect (device : UsbNcmFunctionDevice) (ntbInMaxSize : UInt32)
    (device' : UsbNcmFunctionDevice) : Prop where
  hostSelectedNtbInMaxSize : device'.hostSelectedNtbInMaxSize = ntbInMaxSize
  reports : device'.Reports ntbInMaxSize
  use32BitNtb : device'.use32BitNtb = device.use32BitNtb
  alternateInterfaceNumber : device'.alternateInterfaceNumber = device.alternateInterfaceNumber
  adapter : ∀ netAdapter, device'.netAdapter = some netAdapter →
    netAdapter.parameters.txMaxNtbSize = ntbInMaxSize ∧
      netAdapter.parameters.use32BitNtb = device.use32BitNtb

/-- There is no adapter to create anew, or all that this forgets is already as it would be. -/
def Undisturbed (device : UsbNcmFunctionDevice) (ntbInMaxSize : UInt32) : Prop :=
  device.netAdapter = none ∨ (ntbInMaxSize = ntbParameters.dwNtbInMaxSize ∧
    device.use32BitNtb = false ∧ device.alternateInterfaceNumber = 0)

theorem reports_hostSelected (hstate : device.state = .configured) :
    device.Reports device.hostSelectedNtbInMaxSize := by
  intro setupPacket outcomes hindex hrequest hvalue hlength hwrite
  have htype : ncmRequestType setupPacket.bRequest = some .getNtbInputSize := by
    rw [hrequest]
    rfl
  have hlong : ¬ setupPacket.wLength < 4 := by
    rw [UInt16.lt_iff_toNat_lt]
    rw [UInt16.le_iff_toNat_le] at hlength
    omega
  have hask : ¬ (setupPacket.wValue ≠ 0 ∨ setupPacket.wLength < 4) := by
    rintro (h | h)
    · exact h hvalue
    · exact hlong h
  unfold processSetupPacket processRequest getRequest writeToEndPoint0
  rw [if_neg (not_not.mpr hstate), if_pos hindex, htype]
  dsimp only
  rw [if_neg hask, if_pos hwrite]
  refine ⟨_, rfl, ?_⟩
  simp [hwrite, sendHandshake]

theorem processSetupPacket_resize (h : Refines device negotiation)
    (hstate : device.state = .configured) (hresizes : Resizes device setupPacket outcomes ntbInMaxSize) :
    negotiation.processSetupPacket setupPacket outcomes =
      negotiation.resize outcomes ntbInMaxSize := by
  have htype : ncmRequestType setupPacket.bRequest = some .setNtbInputSize := by
    rw [hresizes.bRequest]
    rfl
  have hshape : ¬ (setupPacket.wValue ≠ 0 ∨ setupPacket.wLength ≠ 4) := by
    rw [hresizes.wValue, hresizes.wLength]
    decide
  have hle := hresizes.le
  rw [h.ntbParamters] at hle
  have hconfigured : negotiation.configured = true := by
    rw [h.configured, hstate]
    rfl
  unfold Negotiation.processSetupPacket Negotiation.processRequest Negotiation.setNtbInputSize
  rw [if_neg (not_not.mpr hconfigured), h.communicationInterfaceIndex, if_pos hresizes.wIndex, htype]
  dsimp only
  rw [if_neg hshape, hresizes.readEndPoint0]
  dsimp only
  rw [if_pos ⟨hresizes.ge, hle⟩]

theorem takesEffect_of_refines (h : Refines device' negotiation) (hconfigured : negotiation.configured)
    (hsize : negotiation.hostSelectedNtbInMaxSize = ntbInMaxSize)
    (hformat : negotiation.use32BitNtb = device.use32BitNtb)
    (halternate : negotiation.alternateInterfaceNumber = device.alternateInterfaceNumber)
    (hadapter : negotiation.UpToDate) : TakesEffect device ntbInMaxSize device' := by
  have hstate : device'.state = .configured := by
    rw [h.configured, decide_eq_true_eq] at hconfigured
    exact hconfigured
  rw [h.hostSelectedNtbInMaxSize] at hsize
  refine ⟨hsize, ?_, ?_, ?_, ?_⟩
  · rw [← hsize]
    exact reports_hostSelected hstate
  · rw [← h.use32BitNtb, hformat]
  · rw [← h.alternateInterfaceNumber, halternate]
  · intro netAdapter hsome
    have hmade : netAdapter.parameters = negotiation.agreedParameters := by
      apply hadapter
      rw [h.adapter, hsome]
      rfl
    rw [hmade]
    exact ⟨h.hostSelectedNtbInMaxSize.trans hsize, hformat⟩

theorem processSetupPacket_of_resizes (h : Refines device negotiation)
    (hstate : device.state = .configured)
    (hresizes : Resizes device setupPacket outcomes ntbInMaxSize) :
    ∃ device' negotiation', device.processSetupPacket setupPacket outcomes = .ok device' ∧
      Refines device' negotiation' ∧ negotiation'.configured ∧ negotiation'.UpToDate ∧
      (device.netAdapter = none → negotiation'.hostSelectedNtbInMaxSize = ntbInMaxSize ∧
        negotiation'.use32BitNtb = device.use32BitNtb ∧
        negotiation'.alternateInterfaceNumber = device.alternateInterfaceNumber) ∧
      (device.netAdapter.isSome →
        negotiation'.hostSelectedNtbInMaxSize = ntbParameters.dwNtbInMaxSize ∧
        negotiation'.use32BitNtb = false ∧ negotiation'.alternateInterfaceNumber = 0) := by
  obtain ⟨negotiation', hresize, hkept, hmade, hnone, hsome⟩ :=
    negotiation.resize_spec outcomes ntbInMaxSize
  have hagree : Agree Refines (device.processSetupPacket setupPacket outcomes)
      (negotiation.processSetupPacket setupPacket outcomes) := processSetupPacket_refines h
  obtain ⟨device', hprocess, h'⟩ :=
    hagree.ok_right ((processSetupPacket_resize h hstate hresizes).trans hresize)
  rw [← h.use32BitNtb, ← h.alternateInterfaceNumber, ← h.adapter_isSome]
  refine ⟨device', negotiation', hprocess, h', ?_, hmade, fun hadapter => hnone ?_, hsome⟩
  · rw [hkept, h.configured, hstate]
    rfl
  · rw [h.adapter, hadapter]
    rfl

theorem takesEffect_iff_undisturbed (h : Refines device negotiation)
    (hstate : device.state = .configured)
    (hresizes : Resizes device setupPacket outcomes ntbInMaxSize) :
    (∃ device', device.processSetupPacket setupPacket outcomes = .ok device' ∧
      TakesEffect device ntbInMaxSize device') ↔ Undisturbed device ntbInMaxSize := by
  obtain ⟨device', negotiation', hprocess, h', hconfigured, hmade, hnone, hsome⟩ :=
    processSetupPacket_of_resizes h hstate hresizes
  unfold Undisturbed
  constructor
  · rintro ⟨device'', hprocess', heffect⟩
    rw [hprocess] at hprocess'
    cases hprocess'
    cases hadapter : device.netAdapter with
    | none => exact Or.inl rfl
    | some netAdapter =>
      rw [← heffect.hostSelectedNtbInMaxSize, ← heffect.use32BitNtb,
        ← heffect.alternateInterfaceNumber, ← h'.hostSelectedNtbInMaxSize, ← h'.use32BitNtb,
        ← h'.alternateInterfaceNumber]
      exact Or.inr (hsome (by rw [hadapter]; rfl))
  · intro hcases
    refine ⟨device', hprocess, ?_⟩
    cases hadapter : device.netAdapter with
    | none =>
      obtain ⟨hsize, hformat, halternate⟩ := hnone hadapter
      exact takesEffect_of_refines h' hconfigured hsize hformat halternate hmade
    | some netAdapter =>
      obtain ⟨hsize, hformat, halternate⟩ := hsome (by rw [hadapter]; rfl)
      rw [hadapter] at hcases
      obtain ⟨hsize0, hformat0, halternate0⟩ := hcases.resolve_left nofun
      apply takesEffect_of_refines h' hconfigured _ _ _ hmade
      · rw [hsize, hsize0]
      · rw [hformat, hformat0]
      · rw [halternate, halternate0]

/-! ## Until the next negotiation -/

/-- The event ends the negotiation, or starts it over: the host selects alternate setting 0, or sets
the size again. -/
def Renegotiates (device : UsbNcmFunctionDevice) (notification : Notification) : Prop :=
  notification.completionStatus.ntSuccess ∧
    match notification.event with
    | .unConfigured | .detach | .reset _ => True
    | .setInterface _ alternateInterfaceNumber => alternateInterfaceNumber = 0
    | .setupPacket setupPacket =>
      ∃ ntbInMaxSize, Resizes device setupPacket notification.outcomes ntbInMaxSize
    | _ => False

/-- The size is selected, and an adapter was created with it. -/
def Sized (ntbInMaxSize : UInt32) (negotiation : Negotiation) : Prop :=
  negotiation.hostSelectedNtbInMaxSize = ntbInMaxSize ∧
    ∀ adapter ∈ negotiation.adapter, ∃ use32BitNtb adapterMacAddress,
      adapter = adapterParameters ntbParameters use32BitNtb adapterMacAddress ntbInMaxSize

theorem sized_of_upToDate (hsize : negotiation.hostSelectedNtbInMaxSize = ntbInMaxSize)
    (hadapter : negotiation.UpToDate) : Sized ntbInMaxSize negotiation := by
  refine ⟨hsize, fun adapter hmem => ?_⟩
  rw [hadapter adapter hmem, ← hsize]
  exact ⟨_, _, rfl⟩

theorem sized_processSetupPacket {negotiation' : Negotiation} (h : Refines device negotiation)
    (hsized : Sized ntbInMaxSize negotiation)
    (hnot : ∀ taken, ¬ Resizes device setupPacket outcomes taken)
    (hstep : negotiation.processSetupPacket setupPacket outcomes = .ok negotiation') :
    Sized ntbInMaxSize negotiation' := by
  obtain rfl | rfl | ⟨taken, hindex, htype, hvalue, hlength, hread, hge, hle, -⟩ :=
    Negotiation.processSetupPacket_cases hstep
  · exact hsized
  · obtain ⟨use32BitNtb, hformat⟩ := negotiation.setNtbFmt_format setupPacket
    rw [hformat]
    exact hsized
  · rw [h.communicationInterfaceIndex] at hindex
    rw [← h.ntbParamters] at hle
    exact absurd ⟨hindex, ncmRequestType_setNtbInputSize htype, hvalue, hlength, hread, hge, hle⟩
      (hnot taken)

theorem sized_setInterface {negotiation' : Negotiation} {alternateInterfaceNumber : UInt16}
    (hsized : Sized ntbInMaxSize negotiation) (hne : alternateInterfaceNumber ≠ 0)
    (hstep : negotiation.setInterface alternateInterfaceNumber outcomes = .ok negotiation') :
    Sized ntbInMaxSize negotiation' := by
  obtain rfl | ⟨hzero, -⟩ | ⟨-, hcreate⟩ | ⟨-, -, rfl⟩ := Negotiation.setInterface_cases hstep
  · exact hsized
  · exact absurd hzero hne
  · cases hadapter : negotiation.adapter with
    | none =>
      obtain ⟨i, adapter, hcreated, hmade⟩ := Negotiation.createAdapter_spec
        { negotiation with alternateInterfaceNumber := alternateInterfaceNumber } outcomes hadapter
      rw [hcreated] at hcreate
      cases hcreate
      exact sized_of_upToDate hsized.1 hmade
    | some adapter =>
      unfold Negotiation.createAdapter at hcreate
      rw [if_pos (by rw [hadapter]; rfl)] at hcreate
      cases hcreate
  · exact hsized

theorem sized_step {negotiation' : Negotiation} (h : Refines device negotiation)
    (hsized : Sized ntbInMaxSize negotiation) (hnot : ¬ Renegotiates device notification)
    (hstep : negotiation.step notification = .ok negotiation') : Sized ntbInMaxSize negotiation' := by
  unfold Negotiation.step at hstep
  split at hstep
  · next hstatus =>
    unfold Renegotiates at hnot
    obtain ⟨completionStatus, event, outcomes⟩ := notification
    cases event with
    | attach | suspend | resume | configured =>
      cases hstep
      exact hsized
    | unConfigured | detach | reset => exact absurd ⟨hstatus, trivial⟩ hnot
    | setupPacket setupPacket =>
      exact sized_processSetupPacket h hsized (fun taken hc => hnot ⟨hstatus, taken, hc⟩) hstep
    | setInterface interfaceNumber alternateInterfaceNumber =>
      exact sized_setInterface hsized (fun hc => hnot ⟨hstatus, hc⟩) hstep
  · cases hstep
    exact hsized

/-! ## The NTBs that are sent -/

/-- The adapter has this size, and an NTB that it sends is no longer, exactly when the last packet
left room for the null entry or the length is cut to 16 bits. -/
def SendsWithin (device : UsbNcmFunctionDevice) (ntbInMaxSize : UInt32) : Prop :=
  ∀ netAdapter, device.netAdapter = some netAdapter →
    netAdapter.parameters.txMaxNtbSize = ntbInMaxSize ∧
      ∀ (p f : Nat) (tb : NcmTransferBlock) (buffer : Memory) (pis : List (NcmPacketIterator p f)),
        CreatedFrom netAdapter.parameters tb →
        (tb.started buffer ntbInMaxSize.toNat).trace pis ≠ [] →
        ∃ transferLength tb', ((tb.started buffer ntbInMaxSize.toNat).offers pis).setNdp =
            .ok (transferLength, tb') ∧
          (transferLength ≤ ntbInMaxSize.toNat ↔ ∀ tb1 pi,
            ((tb.started buffer ntbInMaxSize.toNat).trace pis).getLast? = some (tb1, pi) →
              tb1.NullEntryFits pi ∨ (netAdapter.parameters.use32BitNtb = false ∧
                2 ^ 16 ≤ tb1.totalNtbSizeNeeded (ncmGetPacketDataLength pi) + tb1.format.sizeofDpe))

theorem sendsWithin_of_sized (h : Refines device negotiation) (hsized : Sized ntbInMaxSize negotiation)
    (hle : ntbInMaxSize ≤ ntbParameters.dwNtbInMaxSize) : SendsWithin device ntbInMaxSize := by
  intro netAdapter hsome
  obtain ⟨use32BitNtb, adapterMacAddress, hmade⟩ := hsized.2 netAdapter.parameters
    (by rw [h.adapter, hsome]; rfl)
  rw [hmade]
  refine ⟨rfl, fun p f tb buffer pis hcreated htrace => ?_⟩
  exact setNdp_within_iff hle hcreated htrace

/-- A SET_NTB_INPUT_SIZE takes effect, and disturbs nothing else, exactly when there is no adapter to
create anew, or all that is forgotten with the adapter is as it was at the start. The adapters of
all later states, until the next negotiation, then have the size. -/
theorem takesEffect_iff {initializeOutcomes : InitializeOutcomes}
    {initialized : UsbNcmFunctionDevice} {before : List Notification}
    (hdevice : newDevice.initializeDevice initializeOutcomes = .ok (.success, initialized))
    (hrun : before.foldlM busEventNotificationRead initialized = .ok device)
    (hstate : device.state = .configured)
    (hresizes : Resizes device setupPacket outcomes ntbInMaxSize) :
    ((∃ device', device.processSetupPacket setupPacket outcomes = .ok device' ∧
        TakesEffect device ntbInMaxSize device') ↔ Undisturbed device ntbInMaxSize) ∧
      (Undisturbed device ntbInMaxSize → ∀ device' later device'',
        device.processSetupPacket setupPacket outcomes = .ok device' →
        AllSteps busEventNotificationRead (fun device notification => ¬ Renegotiates device notification)
          device' later →
        later.foldlM busEventNotificationRead device' = .ok device'' →
        SendsWithin device'' ntbInMaxSize) := by
  obtain ⟨negotiation, -, h⟩ := (run_refines hdevice before).ok_left hrun
  have hiff := takesEffect_iff_undisturbed h hstate hresizes
  refine ⟨hiff, ?_⟩
  intro hundisturbed device' later device'' hprocess hlater hrun'
  obtain ⟨device1, negotiation1, hprocess1, h1, -, hmade, -⟩ :=
    processSetupPacket_of_resizes h hstate hresizes
  rw [hprocess] at hprocess1
  cases hprocess1
  obtain ⟨device2, hprocess2, heffect⟩ := hiff.mpr hundisturbed
  rw [hprocess] at hprocess2
  cases hprocess2
  have hsized : Sized ntbInMaxSize negotiation1 :=
    sized_of_upToDate (h1.hostSelectedNtbInMaxSize.trans heffect.hostSelectedNtbInMaxSize) hmade
  have hkeep : ∀ device notification device', (∃ n, Refines device n ∧ Sized ntbInMaxSize n) →
      ¬ Renegotiates device notification →
      device.busEventNotificationRead notification = .ok device' →
      ∃ n, Refines device' n ∧ Sized ntbInMaxSize n := by
    rintro device notification device' ⟨n, hn, hsized⟩ hnot hread
    obtain ⟨n', hstep, hn'⟩ := (busEventNotificationRead_refines hn notification).ok_left hread
    exact ⟨n', hn', sized_step hn hsized hnot hstep⟩
  obtain ⟨n, hn, hsized'⟩ := hlater.invariant hkeep ⟨negotiation1, h1, hsized⟩ hrun'
  refine sendsWithin_of_sized hn hsized' ?_
  rw [← h.ntbParamters]
  exact hresizes.le

/-- A device that has been configured, with 4096 bytes asked for before alternate setting 1 is
selected. -/
theorem takesEffect_iff_4096 :
    ∃ device, [successful .configured].foldlM busEventNotificationRead exampleDevice = .ok device ∧
      ((∃ device', device.processSetupPacket ⟨0x86, 0, 0, 4⟩ exampleOutcomes = .ok device' ∧
          TakesEffect device 4096 device') ↔ Undisturbed device 4096) ∧
      (Undisturbed device 4096 → ∀ device' later device'',
        device.processSetupPacket ⟨0x86, 0, 0, 4⟩ exampleOutcomes = .ok device' →
        AllSteps busEventNotificationRead (fun device notification => ¬ Renegotiates device notification)
          device' later →
        later.foldlM busEventNotificationRead device' = .ok device'' →
        SendsWithin device'' 4096) := by
  have hrun : [successful .configured].foldlM busEventNotificationRead exampleDevice =
      .ok { exampleDevice with state := .configured } := rfl
  exact ⟨_, hrun, takesEffect_iff exampleDevice_initialized hrun rfl
    ⟨rfl, rfl, rfl, rfl, rfl, by decide, by decide⟩⟩

/-- The host selects 32-bit NTBs and alternate setting 1. -/
def selectEvents : List Notification :=
  [successful .configured, successful (.setupPacket ⟨0x84, 1, 0, 0⟩), successful (.setInterface 1 1)]

/-- With the adapter alive, a size of 4096 is lost, with the format and the alternate setting. -/
theorem inputSize_lost :
    ∃ device device', selectEvents.foldlM busEventNotificationRead exampleDevice = .ok device ∧
      device.state = .configured ∧ device.use32BitNtb = true ∧
      device.alternateInterfaceNumber = 1 ∧
      Resizes device ⟨0x86, 0, 0, 4⟩ exampleOutcomes 4096 ∧
      device.processSetupPacket ⟨0x86, 0, 0, 4⟩ exampleOutcomes = .ok device' ∧
      device'.hostSelectedNtbInMaxSize = 0x10000 ∧ device'.use32BitNtb = false ∧
      device'.alternateInterfaceNumber = 0 ∧
      (∃ netAdapter, device'.netAdapter = some netAdapter ∧
        netAdapter.parameters.txMaxNtbSize = 0x10000 ∧ netAdapter.parameters.use32BitNtb = false) ∧
      ¬ TakesEffect device 4096 device' := by
  refine ⟨_, _, rfl, rfl, rfl, rfl, ⟨rfl, rfl, rfl, rfl, rfl, by decide, by decide⟩, rfl, rfl, rfl,
    rfl, ⟨_, rfl, rfl, rfl⟩, ?_⟩
  intro heffect
  exact absurd heffect.use32BitNtb (by decide)

end UsbNcmFunctionDevice

end UsbNcm.Function
