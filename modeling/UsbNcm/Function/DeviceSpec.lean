import UsbNcm.Function.Device

/-!
# What the operations of the device do

One lemma for each operation that touches the adapter or the alternate setting.
-/

open Exec ByteMemory UsbNcm.Ntb UsbNcm.Adapter

namespace UsbNcm.Function.UsbNcmFunctionDevice

variable {device device' : UsbNcmFunctionDevice} {outcomes : Outcomes} {setupPacket : SetupPacket}

/-! ## Class information -/

def recached (device : UsbNcmFunctionDevice) (communicationInterfaceIndex dataInterfaceIndex : UInt8)
    (endPoint0 interrupt bulkIn bulkOut : Option PipeInformation) : UsbNcmFunctionDevice :=
  { device with
    communicationInterfaceIndex := communicationInterfaceIndex
    dataInterfaceIndex := dataInterfaceIndex
    endPoint0 := endPoint0
    interrupt := interrupt
    bulkIn := bulkIn
    bulkOut := bulkOut }

theorem cachePipes_known {pipes : List PipeInformation} (h : ∀ pipe ∈ pipes,
      pipe.pipeType = .bulkIn ∨ pipe.pipeType = .bulkOut ∨ pipe.pipeType = .interruptIn) :
    ∃ interrupt bulkIn bulkOut, device.cachePipes pipes =
      (device.recached device.communicationInterfaceIndex device.dataInterfaceIndex
        device.endPoint0 interrupt bulkIn bulkOut, pipes.length) := by
  induction pipes generalizing device with
  | nil => exact ⟨_, _, _, rfl⟩
  | cons pipe pipes ih =>
    have hone : ∃ interrupt bulkIn bulkOut, device.cachePipe pipe =
        (device.recached device.communicationInterfaceIndex device.dataInterfaceIndex
          device.endPoint0 interrupt bulkIn bulkOut, 1) := by
      unfold cachePipe
      rcases h pipe List.mem_cons_self with htype | htype | htype <;> rw [htype] <;>
        exact ⟨_, _, _, rfl⟩
    obtain ⟨interrupt, bulkIn, bulkOut, hone⟩ := hone
    obtain ⟨interrupt', bulkIn', bulkOut', hrest⟩ :
        ∃ interrupt' bulkIn' bulkOut', (device.recached device.communicationInterfaceIndex
            device.dataInterfaceIndex device.endPoint0 interrupt bulkIn bulkOut).cachePipes pipes =
          (device.recached device.communicationInterfaceIndex device.dataInterfaceIndex
            device.endPoint0 interrupt' bulkIn' bulkOut', pipes.length) :=
      ih fun pipe hpipe => h pipe (List.mem_cons_of_mem _ hpipe)
    refine ⟨interrupt', bulkIn', bulkOut', ?_⟩
    unfold cachePipes
    rw [hone]
    dsimp only
    rw [hrest, List.length_cons, Nat.add_comm 1]

theorem cachePipeArr_known {pipeArr : List PipeInformation} (h : ∀ pipe ∈ pipeArr.tail,
      pipe.pipeType = .bulkIn ∨ pipe.pipeType = .bulkOut ∨ pipe.pipeType = .interruptIn) :
    ∃ endPoint0 interrupt bulkIn bulkOut, device.cachePipeArr pipeArr =
      (device.recached device.communicationInterfaceIndex device.dataInterfaceIndex endPoint0
        interrupt bulkIn bulkOut, pipeArr.length) := by
  cases pipeArr with
  | nil => exact ⟨_, _, _, _, rfl⟩
  | cons pipe pipes =>
    obtain ⟨interrupt, bulkIn, bulkOut, hpipes⟩ :
        ∃ interrupt bulkIn bulkOut, { device with endPoint0 := some pipe }.cachePipes pipes =
          (device.recached device.communicationInterfaceIndex device.dataInterfaceIndex (some pipe)
            interrupt bulkIn bulkOut, pipes.length) := cachePipes_known h
    refine ⟨some pipe, interrupt, bulkIn, bulkOut, ?_⟩
    unfold cachePipeArr
    dsimp only
    rw [hpipes]
    rfl

/-- Nothing but the class information changes, and the assertions hold. -/
theorem cacheClassInformation_ok (device : UsbNcmFunctionDevice)
    (classInformation : Option ClassInformation) :
    ∃ status communicationInterfaceIndex dataInterfaceIndex endPoint0 interrupt bulkIn bulkOut,
      device.cacheClassInformation classInformation =
        .ok (status, device.recached communicationInterfaceIndex dataInterfaceIndex endPoint0
          interrupt bulkIn bulkOut) ∧
      status.ntSuccess = classInformation.isSome ∧
      communicationInterfaceIndex = (classInformation.map (·.baseInterfaceNumber)).getD
        device.communicationInterfaceIndex := by
  cases classInformation with
  | none => exact ⟨_, _, _, _, _, _, _, rfl, rfl, rfl⟩
  | some info =>
    obtain ⟨endPoint0, interrupt, bulkIn, bulkOut, hpipes⟩ :
        ∃ endPoint0 interrupt bulkIn bulkOut, { device with
            communicationInterfaceIndex := info.baseInterfaceNumber
            dataInterfaceIndex := info.baseInterfaceNumber + 1 }.cachePipeArr info.pipeArr =
          (device.recached info.baseInterfaceNumber (info.baseInterfaceNumber + 1) endPoint0
            interrupt bulkIn bulkOut, info.pipeArr.length) := cachePipeArr_known info.pipeArr_known
    refine ⟨.success, info.baseInterfaceNumber, info.baseInterfaceNumber + 1, endPoint0, interrupt,
      bulkIn, bulkOut, ?_, rfl, rfl⟩
    unfold cacheClassInformation
    simp only [info.interfaceCount_eq, hpipes, ne_eq, not_true_eq_false, if_false]
    rfl

/-- A device that is initialised has the parameters of the driver and a MAC address. -/
theorem initializeDevice_success {outcomes : InitializeOutcomes}
    (h : device.initializeDevice outcomes = .ok (.success, device')) :
    ∃ communicationInterfaceIndex dataInterfaceIndex endPoint0 interrupt bulkIn bulkOut,
      device' = { (device.recached communicationInterfaceIndex dataInterfaceIndex endPoint0 interrupt
        bulkIn bulkOut).setParameters with cdcMacAddress := outcomes.cdcMacAddress } := by
  obtain ⟨status, c, d, e, i, bi, bo, hcache, -⟩ :=
    cacheClassInformation_ok device outcomes.classInformation
  have hfailed : ∀ {status : NtStatus} {left : UsbNcmFunctionDevice}, ¬ status.ntSuccess = true →
      (Except.ok (status, left) : Except Stop _) ≠ .ok (.success, device') := by
    intro status left hstatus heq
    cases heq
    exact hstatus rfl
  unfold initializeDevice at h
  simp only [hcache, ok_bind] at h
  split at h
  · next hstatus => exact absurd h (hfailed hstatus)
  · split at h
    · next hstatus => exact absurd h (hfailed hstatus)
    · split at h
      · next hstatus => exact absurd h (hfailed hstatus)
      · split at h
        · next hstatus => exact absurd h (hfailed hstatus)
        · have hpair := Except.ok.inj h
          exact ⟨c, d, e, i, bi, bo, (congrArg Prod.snd hpair).symm⟩

/-! ## The adapter -/

theorem destroyAdapter_none (h : device.netAdapter = none) :
    device.destroyAdapter outcomes = .ok device := by
  unfold destroyAdapter
  rw [h]

/-- There was no adapter, or all of it has gone. -/
theorem destroyAdapter_cases (h : device.destroyAdapter outcomes = .ok device') :
    (device.netAdapter = none ∧ device' = device) ∨
      ∃ netAdapter c d e i bi bo, device.netAdapter = some netAdapter ∧
        device.ncmAdapterCallbacks = true ∧
        device' = { ((device.removeAdapter netAdapter).setParameters.recached c d e i bi
          bo).notifyConnectionSpeedAndStatusChange false 0 with alternateInterfaceNumber := 0 } := by
  unfold destroyAdapter at h
  cases hadapter : device.netAdapter with
  | none =>
    rw [hadapter] at h
    exact Or.inl ⟨rfl, (Except.ok.inj h).symm⟩
  | some netAdapter =>
    rw [hadapter] at h
    dsimp only at h
    split at h
    · cases h
    · next hcallbacks =>
      obtain ⟨status, c, d, e, i, bi, bo, hcache, -⟩ := cacheClassInformation_ok
        (device.removeAdapter netAdapter).setParameters outcomes.destroyClassInformation
      simp only [hcache, ok_bind] at h
      exact Or.inr ⟨netAdapter, c, d, e, i, bi, bo, rfl, not_not.mp hcallbacks,
        (Except.ok.inj h).symm⟩

structure Destroyed (device device' : UsbNcmFunctionDevice) : Prop where
  netAdapter : device'.netAdapter = none
  ncmAdapterCallbacks : device'.ncmAdapterCallbacks = false
  alternateInterfaceNumber : device'.alternateInterfaceNumber = 0
  use32BitNtb : device'.use32BitNtb = false
  ntbParamters : device'.ntbParamters = ntbParameters
  hostSelectedNtbInMaxSize : device'.hostSelectedNtbInMaxSize = ntbParameters.dwNtbInMaxSize
  state : device'.state = device.state
  busSpeed : device'.busSpeed = device.busSpeed
  cdcMacAddress : device'.cdcMacAddress = device.cdcMacAddress

theorem destroyAdapter_some {netAdapter : NetAdapter} (h : device.netAdapter = some netAdapter)
    (hcallbacks : device.ncmAdapterCallbacks = true) :
    ∃ device', device.destroyAdapter outcomes = .ok device' ∧ Destroyed device device' := by
  obtain ⟨status, c, d, e, i, bi, bo, hcache, -⟩ := cacheClassInformation_ok
    (device.removeAdapter netAdapter).setParameters outcomes.destroyClassInformation
  unfold destroyAdapter
  rw [h]
  simp only [hcallbacks, not_true_eq_false, if_false, hcache, ok_bind]
  exact ⟨_, rfl, rfl, rfl, rfl, rfl, rfl, rfl, rfl, rfl, rfl⟩

/-- `CreateAdapter` leaves an adapter, when it succeeds and when `NetAdapterStart` failed. -/
def LeavesAdapter (outcomes : Outcomes) : Prop :=
  outcomes.createClassInformation.isSome ∧ outcomes.adapterCreate ≠ .failed

/-- What `CreateAdapter` does not change. -/
structure Created (device device' : UsbNcmFunctionDevice) : Prop where
  alternateInterfaceNumber : device'.alternateInterfaceNumber = device.alternateInterfaceNumber
  use32BitNtb : device'.use32BitNtb = device.use32BitNtb
  ntbParamters : device'.ntbParamters = device.ntbParamters
  hostSelectedNtbInMaxSize : device'.hostSelectedNtbInMaxSize = device.hostSelectedNtbInMaxSize
  state : device'.state = device.state
  busSpeed : device'.busSpeed = device.busSpeed
  cdcMacAddress : device'.cdcMacAddress = device.cdcMacAddress

/-- The device after a call of `CreateAdapter` without an adapter, by how far the call got. -/
inductive CreationLeaves (device : UsbNcmFunctionDevice) (outcomes : Outcomes) :
    UsbNcmFunctionDevice → Prop
  | notCached (c d : UInt8) (e i bi bo : Option PipeInformation) :
    outcomes.createClassInformation.isSome = false →
      CreationLeaves device outcomes (device.recached c d e i bi bo)
  | failed (c d : UInt8) (e i bi bo : Option PipeInformation) :
    outcomes.createClassInformation.isSome = true → outcomes.adapterCreate = .failed →
      CreationLeaves device outcomes { device.recached c d e i bi bo with netAdapter := none }
  | notStarted (c d : UInt8) (e i bi bo : Option PipeInformation) :
    outcomes.createClassInformation.isSome = true → outcomes.adapterCreate = .notStarted →
      CreationLeaves device outcomes
        { device.recached c d e i bi bo with
          netAdapter := some
            ⟨adapterParameters device.ntbParamters device.use32BitNtb
              (getNextMACAddress device.cdcMacAddress) device.hostSelectedNtbInMaxSize, startedLink⟩
          ncmAdapterCallbacks := true }
  | created (c d : UInt8) (e i bi bo : Option PipeInformation) :
    outcomes.createClassInformation.isSome = true → outcomes.adapterCreate = .created →
      CreationLeaves device outcomes
        ({ device.recached c d e i bi bo with
          netAdapter := some
            ⟨adapterParameters device.ntbParamters device.use32BitNtb
              (getNextMACAddress device.cdcMacAddress) device.hostSelectedNtbInMaxSize,
            (startedLink.setLinkSpeed (usbFnBusSpeed device.busSpeed)
              (usbFnBusSpeed device.busSpeed)).setLinkState true⟩
          ncmAdapterCallbacks := true }.notifyConnectionSpeedAndStatusChange true
            (usbFnBusSpeed device.busSpeed))

theorem createAdapter_cases {status : NtStatus}
    (h : device.createAdapter outcomes = .ok (status, device')) :
    device.netAdapter = none ∧ CreationLeaves device outcomes device' := by
  unfold createAdapter at h
  by_cases hsome : device.netAdapter.isSome = true
  · rw [if_pos hsome] at h
    cases h
  · rw [if_neg hsome] at h
    obtain ⟨status1, c, d, e, i, bi, bo, hcache, hstatus, -⟩ :=
      cacheClassInformation_ok device outcomes.createClassInformation
    simp only [hcache, ok_bind, hstatus] at h
    refine ⟨Option.not_isSome_iff_eq_none.mp hsome, ?_⟩
    cases hinfo : outcomes.createClassInformation.isSome with
    | false =>
      rw [hinfo, if_pos (by decide)] at h
      cases h
      exact .notCached c d e i bi bo hinfo
    | true =>
      rw [hinfo, if_neg (by decide)] at h
      cases hcreate : outcomes.adapterCreate with
      | failed =>
        rw [hcreate] at h
        cases h
        exact .failed c d e i bi bo hinfo hcreate
      | notStarted =>
        rw [hcreate] at h
        cases h
        exact .notStarted c d e i bi bo hinfo hcreate
      | created =>
        rw [hcreate] at h
        cases h
        exact .created c d e i bi bo hinfo hcreate

theorem createAdapter_none (h : device.netAdapter = none) :
    ∃ status device', device.createAdapter outcomes = .ok (status, device') ∧
      Created device device' ∧
      ((¬ LeavesAdapter outcomes ∧ device'.netAdapter = none) ∨
        (LeavesAdapter outcomes ∧ ∃ netAdapter, device'.netAdapter = some netAdapter ∧
          netAdapter.parameters = adapterParameters device.ntbParamters device.use32BitNtb
            (getNextMACAddress device.cdcMacAddress) device.hostSelectedNtbInMaxSize ∧
          device'.ncmAdapterCallbacks = true)) := by
  unfold createAdapter LeavesAdapter
  rw [if_neg (by rw [h]; decide)]
  obtain ⟨status, c, d, e, i, bi, bo, hcache, hstatus, -⟩ :=
    cacheClassInformation_ok device outcomes.createClassInformation
  simp only [hcache, ok_bind, hstatus]
  cases hinfo : outcomes.createClassInformation.isSome with
  | false =>
    exact ⟨_, _, rfl, ⟨rfl, rfl, rfl, rfl, rfl, rfl, rfl⟩, Or.inl ⟨by simp, h⟩⟩
  | true =>
    cases hcreate : outcomes.adapterCreate with
    | failed => exact ⟨_, _, rfl, ⟨rfl, rfl, rfl, rfl, rfl, rfl, rfl⟩, Or.inl ⟨by simp, rfl⟩⟩
    | notStarted =>
      exact ⟨_, _, rfl, ⟨rfl, rfl, rfl, rfl, rfl, rfl, rfl⟩,
        Or.inr ⟨⟨rfl, by decide⟩, _, rfl, rfl, rfl⟩⟩
    | created =>
      exact ⟨_, _, rfl, ⟨rfl, rfl, rfl, rfl, rfl, rfl, rfl⟩,
        Or.inr ⟨⟨rfl, by decide⟩, _, rfl, rfl, rfl⟩⟩

/-! ## Setup packets -/

/-- A SET_NTB_INPUT_SIZE that the device takes. -/
structure Resizes (device : UsbNcmFunctionDevice) (setupPacket : SetupPacket) (outcomes : Outcomes)
    (ntbInMaxSize : UInt32) : Prop where
  wIndex : setupPacket.wIndex.toNat = device.communicationInterfaceIndex.toNat
  bRequest : setupPacket.bRequest = 0x86
  wValue : setupPacket.wValue = 0
  wLength : setupPacket.wLength = 4
  readEndPoint0 : outcomes.readEndPoint0 = some ntbInMaxSize
  ge : 2048 ≤ ntbInMaxSize
  le : ntbInMaxSize ≤ device.ntbParamters.dwNtbInMaxSize

/-- The adapter and the alternate setting are as before. -/
structure SameAdapter (device device' : UsbNcmFunctionDevice) : Prop where
  netAdapter : device'.netAdapter = device.netAdapter
  ncmAdapterCallbacks : device'.ncmAdapterCallbacks = device.ncmAdapterCallbacks
  alternateInterfaceNumber : device'.alternateInterfaceNumber = device.alternateInterfaceNumber

theorem SameAdapter.refl (device : UsbNcmFunctionDevice) : SameAdapter device device :=
  ⟨rfl, rfl, rfl⟩

def OnEndPoint0 : DeviceAction → Prop
  | .wroteToEndPoint0 _ | .sentHandshake _ | .stalledEndPoint0 => True
  | .interruptedHost _ | .destroyedAdapter _ => False

/-- The device has answered on endpoint 0, and done nothing else that is seen. -/
structure Answered (device device' : UsbNcmFunctionDevice) : Prop
    extends SameAdapter device device' where
  log : ∃ actions, device'.log = device.log ++ actions ∧ ∀ action ∈ actions, OnEndPoint0 action

theorem Answered.refl (device : UsbNcmFunctionDevice) : Answered device device :=
  ⟨.refl device, [], (List.append_nil _).symm, by simp⟩

theorem Answered.trans {device'' : UsbNcmFunctionDevice} (h : Answered device device')
    (h' : Answered device' device'') : Answered device device'' := by
  obtain ⟨⟨hadapter, hcallbacks, halternate⟩, actions, hlog, hactions⟩ := h
  obtain ⟨⟨hadapter', hcallbacks', halternate'⟩, actions', hlog', hactions'⟩ := h'
  refine ⟨⟨hadapter'.trans hadapter, hcallbacks'.trans hcallbacks, halternate'.trans halternate⟩,
    actions ++ actions', ?_, ?_⟩
  · rw [hlog', hlog, List.append_assoc]
  · intro action haction
    exact (List.mem_append.mp haction).elim (hactions action) (hactions' action)

theorem sendHandshake_answered : Answered device (device.sendHandshake outcomes).2 :=
  ⟨⟨rfl, rfl, rfl⟩, _, rfl, by simp [OnEndPoint0]⟩

theorem stallEndPoint0_answered : Answered device device.stallEndPoint0 :=
  ⟨⟨rfl, rfl, rfl⟩, _, rfl, by simp [OnEndPoint0]⟩

theorem getRequest_log (device : UsbNcmFunctionDevice) (setupPacket : SetupPacket)
    (outcomes : Outcomes) (size : UInt16) (data : EndPoint0Data) :
    ∃ extra, (device.getRequest setupPacket outcomes size data).2.log = device.log ++ extra ∧
      (extra = [] ∨ extra = [.wroteToEndPoint0 data, .sentHandshake outcomes.handshake]) := by
  unfold getRequest writeToEndPoint0 sendHandshake
  split
  · exact ⟨[], (List.append_nil _).symm, Or.inl rfl⟩
  · by_cases hwrite : outcomes.writeEndPoint0.ntSuccess
    · rw [if_pos hwrite]
      exact ⟨_, List.append_assoc _ _ _, Or.inr rfl⟩
    · rw [if_neg hwrite]
      exact ⟨[], (List.append_nil _).symm, Or.inl rfl⟩

theorem getRequest_answered (size : UInt16) (data : EndPoint0Data) :
    Answered device (device.getRequest setupPacket outcomes size data).2 := by
  obtain ⟨extra, hlog, hextra⟩ := device.getRequest_log setupPacket outcomes size data
  refine ⟨?_, extra, hlog, ?_⟩
  · unfold getRequest writeToEndPoint0
    split
    · exact .refl device
    · cases outcomes.writeEndPoint0.ntSuccess <;> exact ⟨rfl, rfl, rfl⟩
  · rcases hextra with rfl | rfl <;> simp [OnEndPoint0]

theorem setNtbFmt_answered : Answered device (device.setNtbFmt setupPacket outcomes).2 := by
  unfold setNtbFmt
  split
  · exact .refl device
  · exact ⟨⟨rfl, rfl, rfl⟩, _, rfl, by simp [OnEndPoint0]⟩

/-- With the new size, before the adapter is looked at. -/
def sized (device : UsbNcmFunctionDevice) (outcomes : Outcomes) (ntbInMaxSize : UInt32) :
    UsbNcmFunctionDevice :=
  { (device.sendHandshake outcomes).2 with hostSelectedNtbInMaxSize := ntbInMaxSize }

theorem sized_answered (ntbInMaxSize : UInt32) :
    Answered device (device.sized outcomes ntbInMaxSize) :=
  ⟨⟨rfl, rfl, rfl⟩, _, rfl, by simp [OnEndPoint0]⟩

/-- SET_NTB_INPUT_SIZE is the one request that can touch the adapter. -/
theorem setNtbInputSize_answered (h : device.netAdapter = none ∨ ∀ ntbInMaxSize,
      setupPacket.wValue = 0 → setupPacket.wLength = 4 →
      outcomes.readEndPoint0 = some ntbInMaxSize →
      ¬ (2048 ≤ ntbInMaxSize ∧ ntbInMaxSize ≤ device.ntbParamters.dwNtbInMaxSize)) :
    ∃ stallEp0 device', device.setNtbInputSize setupPacket outcomes = .ok (stallEp0, device') ∧
      Answered device device' := by
  unfold setNtbInputSize readFromEndPoint0
  split
  · exact ⟨_, _, rfl, .refl _⟩
  · next hshape =>
    rw [not_or, not_not, not_not] at hshape
    cases hread : outcomes.readEndPoint0 with
    | none => exact ⟨_, _, rfl, .refl _⟩
    | some ntbInMaxSize =>
      dsimp only
      split
      · next hrange =>
        have hnone : device.netAdapter = none := by
          rcases h with hnone | hall
          · exact hnone
          · exact absurd hrange (hall ntbInMaxSize hshape.1 hshape.2 hread)
        rw [if_neg]
        · exact ⟨_, _, rfl, sized_answered ntbInMaxSize⟩
        · change ¬ device.netAdapter.isSome = true
          rw [hnone]
          decide
      · exact ⟨_, _, rfl, sendHandshake_answered⟩

theorem ncmRequestType_setNtbInputSize {bRequest : UInt8}
    (h : ncmRequestType bRequest = some .setNtbInputSize) : bRequest = 0x86 := by
  unfold ncmRequestType at h
  -- the other types are not the one in `h`
  split_ifs at h <;> first | contradiction | assumption

theorem processRequest_answered (hindex : setupPacket.wIndex.toNat =
      device.communicationInterfaceIndex.toNat)
    (h : device.netAdapter = none ∨ ∀ ntbInMaxSize, ¬ Resizes device setupPacket outcomes ntbInMaxSize) :
    ∃ stallEp0 device', device.processRequest setupPacket outcomes = .ok (stallEp0, device') ∧
      Answered device device' := by
  unfold processRequest
  split
  · exact ⟨_, _, rfl, getRequest_answered _ _⟩
  · exact ⟨_, _, rfl, getRequest_answered _ _⟩
  · exact ⟨_, _, rfl, setNtbFmt_answered⟩
  · exact ⟨_, _, rfl, getRequest_answered _ _⟩
  · next htype =>
    apply setNtbInputSize_answered
    refine h.imp_right fun hall ntbInMaxSize hvalue hlength hread hrange => ?_
    exact hall ntbInMaxSize ⟨hindex, ncmRequestType_setNtbInputSize htype, hvalue, hlength, hread,
      hrange.1, hrange.2⟩
  · exact ⟨_, _, rfl, .refl _⟩

theorem processSetupPacket_answered (hstate : device.state = .configured)
    (h : device.netAdapter = none ∨ ∀ ntbInMaxSize, ¬ Resizes device setupPacket outcomes ntbInMaxSize) :
    ∃ device', device.processSetupPacket setupPacket outcomes = .ok device' ∧
      Answered device device' := by
  unfold processSetupPacket
  rw [if_neg (not_not.mpr hstate)]
  have hfinish : ∀ (stallEp0 : Bool) (device' : UsbNcmFunctionDevice), Answered device device' →
      Answered device (if stallEp0 then device'.stallEndPoint0 else device') := by
    intro stallEp0 device' hanswered
    cases stallEp0
    · exact hanswered
    · exact hanswered.trans stallEndPoint0_answered
  split
  · next hindex =>
    obtain ⟨stallEp0, device', hrequest, hanswered⟩ := processRequest_answered hindex h
    simp only [hrequest, ok_bind]
    exact ⟨_, rfl, hfinish _ _ hanswered⟩
  · exact ⟨_, rfl, hfinish true device (.refl device)⟩

/-- A size that is taken while there is an adapter. -/
theorem processSetupPacket_eq {ntbInMaxSize : UInt32} (hstate : device.state = .configured)
    (h : Resizes device setupPacket outcomes ntbInMaxSize) (hsome : device.netAdapter.isSome) :
    device.processSetupPacket setupPacket outcomes =
      ((device.sized outcomes ntbInMaxSize).destroyAdapter outcomes >>= fun device1 =>
        (device1.createAdapter outcomes).map Prod.snd) := by
  have htype : ncmRequestType setupPacket.bRequest = some .setNtbInputSize := by
    rw [h.bRequest]
    rfl
  have hsent : (device.sendHandshake outcomes).2.netAdapter.isSome := hsome
  unfold processSetupPacket processRequest setNtbInputSize readFromEndPoint0
  rw [if_neg (not_not.mpr hstate), if_pos h.wIndex, htype, h.readEndPoint0]
  dsimp only
  rw [if_neg (by rw [h.wValue, h.wLength]; decide), if_pos ⟨h.ge, h.le⟩, if_pos hsent]
  change (((device.sized outcomes ntbInMaxSize).destroyAdapter outcomes >>= _) >>= _) = _
  cases (device.sized outcomes ntbInMaxSize).destroyAdapter outcomes with
  | error stop => rfl
  | ok device1 =>
    rw [ok_bind, ok_bind]
    cases device1.createAdapter outcomes with
    | error stop => rfl
    | ok result => rfl

theorem processSetupPacket_resizes {ntbInMaxSize : UInt32} (hstate : device.state = .configured)
    (h : Resizes device setupPacket outcomes ntbInMaxSize) {netAdapter : NetAdapter}
    (hadapter : device.netAdapter = some netAdapter) (hcallbacks : device.ncmAdapterCallbacks = true) :
    ∃ device1 status device2, Destroyed device device1 ∧
      device1.createAdapter outcomes = .ok (status, device2) ∧
      device.processSetupPacket setupPacket outcomes = .ok device2 := by
  obtain ⟨device1, hdestroy, hdestroyed⟩ : ∃ device1,
      (device.sized outcomes ntbInMaxSize).destroyAdapter outcomes = .ok device1 ∧
        Destroyed (device.sized outcomes ntbInMaxSize) device1 :=
    destroyAdapter_some hadapter hcallbacks
  obtain ⟨status, device2, hcreate, -⟩ := createAdapter_none hdestroyed.netAdapter
  refine ⟨device1, status, device2, ⟨hdestroyed.netAdapter, hdestroyed.ncmAdapterCallbacks,
    hdestroyed.alternateInterfaceNumber, hdestroyed.use32BitNtb, hdestroyed.ntbParamters,
    hdestroyed.hostSelectedNtbInMaxSize, hdestroyed.state, hdestroyed.busSpeed,
    hdestroyed.cdcMacAddress⟩, hcreate, ?_⟩
  have hsome : device.netAdapter.isSome := by
    rw [hadapter]
    rfl
  rw [processSetupPacket_eq hstate h hsome, hdestroy, ok_bind, hcreate]
  rfl

/-! ## SetInterface -/

def selected (device : UsbNcmFunctionDevice) (alternateInterfaceNumber : UInt16) :
    UsbNcmFunctionDevice :=
  { device with alternateInterfaceNumber := alternateInterfaceNumber }

section SetInterface

variable {alternateInterfaceNumber : UInt16} (hstate : device.state = .configured)

include hstate

theorem setInterface_same (h : device.alternateInterfaceNumber = alternateInterfaceNumber) :
    device.setInterface alternateInterfaceNumber outcomes = .ok device := by
  unfold setInterface
  rw [if_neg (not_not.mpr hstate), if_neg (not_not.mpr h)]
  rfl

theorem setInterface_zero (h : device.alternateInterfaceNumber ≠ 0) :
    device.setInterface 0 outcomes = (device.selected 0).destroyAdapter outcomes := by
  unfold setInterface
  rw [if_neg (not_not.mpr hstate), if_pos h, if_pos rfl]
  rfl

theorem setInterface_one (h : device.alternateInterfaceNumber ≠ 1) {status : NtStatus}
    (hcreate : (device.selected 1).createAdapter outcomes = .ok (status, device')) :
    device.setInterface 1 outcomes = .ok device' := by
  unfold setInterface
  rw [if_neg (not_not.mpr hstate), if_pos h, if_neg (by decide), if_pos rfl]
  change ((device.selected 1).createAdapter outcomes >>= _) = _
  rw [hcreate]
  rfl

/-- No other alternate setting does anything to the adapter. -/
theorem setInterface_other (h : device.alternateInterfaceNumber ≠ alternateInterfaceNumber)
    (hzero : alternateInterfaceNumber ≠ 0) (hone : alternateInterfaceNumber ≠ 1) :
    device.setInterface alternateInterfaceNumber outcomes =
      .ok (device.selected alternateInterfaceNumber) := by
  unfold setInterface
  rw [if_neg (not_not.mpr hstate), if_pos h, if_neg hzero, if_neg hone]
  rfl

end SetInterface

end UsbNcm.Function.UsbNcmFunctionDevice
