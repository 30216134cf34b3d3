import UsbNcm.Function.Atomicity
import UsbNcm.Lib.Traced
import UsbNcm.Ntb.LayoutInvariant

/-!
# What the adapter is created and called with

The functions of the device once more, with an event for each call of `UsbNcmAdapterCreate`, also one
that fails, and for each call through `m_NcmAdapterCallbacks`.
-/

open Exec UsbNcm.Ntb UsbNcm.Adapter Traced

namespace UsbNcm.Function

inductive AdapterCall
  | adapterCreate (parameters : AdapterParameters)
  -- m_NcmAdapterCallbacks is not null
  | throughCallbacks (ncmAdapterCallbacks : Bool)

namespace UsbNcmFunctionDevice

variable {device device' : UsbNcmFunctionDevice} {outcomes : Outcomes}

def tracedCreateAdapter (device : UsbNcmFunctionDevice) (outcomes : Outcomes) :
    Traced AdapterCall (NtStatus × UsbNcmFunctionDevice) :=
  if device.netAdapter.isSome then quiet (.error .assertion)
  else do
    let (status, device) ← quiet (device.cacheClassInformation outcomes.createClassInformation)
    if ¬ status.ntSuccess then return (status, device)
    let parameters := adapterParameters device.ntbParamters device.use32BitNtb
      (getNextMACAddress device.cdcMacAddress) device.hostSelectedNtbInMaxSize
    emit (.adapterCreate parameters)
    match outcomes.adapterCreate with
    | .failed => return (.unsuccessful, { device with netAdapter := none })
    | .notStarted =>
      return (.unsuccessful,
        { device with netAdapter := some ⟨parameters, startedLink⟩, ncmAdapterCallbacks := true })
    | .created =>
      let speed := usbFnBusSpeed device.busSpeed
      let link := (startedLink.setLinkSpeed speed speed).setLinkState true
      let device := { device with netAdapter := some ⟨parameters, link⟩, ncmAdapterCallbacks := true }
      emit (.throughCallbacks device.ncmAdapterCallbacks)
      return (.success, device.notifyConnectionSpeedAndStatusChange true speed)

def tracedDestroyAdapter (device : UsbNcmFunctionDevice) (outcomes : Outcomes) :
    Traced AdapterCall UsbNcmFunctionDevice := do
  if device.netAdapter.isSome then emit (.throughCallbacks device.ncmAdapterCallbacks)
  quiet (device.destroyAdapter outcomes)

/-- `NcmReqSetNtbInputSize`, the one request that gets to the adapter. -/
def tracedSetNtbInputSize (device : UsbNcmFunctionDevice) (setupPacket : SetupPacket)
    (outcomes : Outcomes) : Traced AdapterCall (Bool × UsbNcmFunctionDevice) :=
  if setupPacket.wValue ≠ 0 ∨ setupPacket.wLength ≠ 4 then pure (true, device)
  else
    match device.readFromEndPoint0 outcomes with
    | (none, device) => pure (true, device)
    | (some ntbInMaxSize, device) =>
      if ntbInMaxSize ≥ 2048 ∧ ntbInMaxSize ≤ device.ntbParamters.dwNtbInMaxSize then
        let device := { device with hostSelectedNtbInMaxSize := ntbInMaxSize }
        if device.netAdapter.isSome then do
          let device ← device.tracedDestroyAdapter outcomes
          let (_, device) ← device.tracedCreateAdapter outcomes
          return (false, device)
        else pure (false, device)
      else pure (false, device)

def tracedProcessRequest (device : UsbNcmFunctionDevice) (setupPacket : SetupPacket)
    (outcomes : Outcomes) : Traced AdapterCall (Bool × UsbNcmFunctionDevice) :=
  if ncmRequestType setupPacket.bRequest = some .setNtbInputSize then
    device.tracedSetNtbInputSize setupPacket outcomes
  else quiet (device.processRequest setupPacket outcomes)

def tracedProcessSetupPacket (device : UsbNcmFunctionDevice) (setupPacket : SetupPacket)
    (outcomes : Outcomes) : Traced AdapterCall UsbNcmFunctionDevice :=
  if device.state ≠ .configured then quiet (.error .assertion)
  else do
    let (stallEp0, device) ←
      if setupPacket.wIndex.toNat = device.communicationInterfaceIndex.toNat then
        device.tracedProcessRequest setupPacket outcomes
      else pure (true, device)
    return if stallEp0 then device.stallEndPoint0 else device

def tracedSetInterface (device : UsbNcmFunctionDevice) (alternateInterfaceNumber : UInt16)
    (outcomes : Outcomes) : Traced AdapterCall UsbNcmFunctionDevice :=
  if device.state ≠ .configured then quiet (.error .assertion)
  else if device.alternateInterfaceNumber ≠ alternateInterfaceNumber then
    let device := { device with alternateInterfaceNumber := alternateInterfaceNumber }
    if alternateInterfaceNumber = 0 then device.tracedDestroyAdapter outcomes
    else if alternateInterfaceNumber = 1 then do
      let (_, device) ← device.tracedCreateAdapter outcomes
      return device
    else pure device
  else pure device

def tracedBusEventNotificationRead (device : UsbNcmFunctionDevice) (notification : Notification) :
    Traced AdapterCall UsbNcmFunctionDevice :=
  if notification.completionStatus.ntSuccess then
    match notification.event with
    | .attach busSpeed => pure { device with busSpeed := busSpeed, state := .attached }
    | .suspend => pure device
    | .resume => pure device
    | .configured => pure { device with state := .configured }
    | .unConfigured => { device with state := .attached }.tracedDestroyAdapter notification.outcomes
    | .detach => { device with state := .detached }.tracedDestroyAdapter notification.outcomes
    | .reset busSpeed =>
      { device with state := .default, busSpeed := busSpeed }.tracedDestroyAdapter
        notification.outcomes
    | .setupPacket setupPacket => device.tracedProcessSetupPacket setupPacket notification.outcomes
    | .setInterface _ alternateInterfaceNumber =>
      device.tracedSetInterface alternateInterfaceNumber notification.outcomes
  else pure device

/-! ## Without the events -/

@[simp]
theorem tracedCreateAdapter_result (device : UsbNcmFunctionDevice) (outcomes : Outcomes) :
    (device.tracedCreateAdapter outcomes).result = device.createAdapter outcomes := by
  unfold tracedCreateAdapter createAdapter
  split
  · rfl
  · rw [bind_result, quiet_result]
    apply bind_congr_ok
    rintro ⟨status, cached⟩ -
    dsimp only
    split
    · rfl
    · cases outcomes.adapterCreate <;> rfl

@[simp]
theorem tracedDestroyAdapter_result (device : UsbNcmFunctionDevice) (outcomes : Outcomes) :
    (device.tracedDestroyAdapter outcomes).result = device.destroyAdapter outcomes := by
  unfold tracedDestroyAdapter
  split
  · rfl
  · rfl

@[simp]
theorem tracedSetNtbInputSize_result (device : UsbNcmFunctionDevice) (setupPacket : SetupPacket)
    (outcomes : Outcomes) : (device.tracedSetNtbInputSize setupPacket outcomes).result =
      device.setNtbInputSize setupPacket outcomes := by
  unfold tracedSetNtbInputSize setNtbInputSize readFromEndPoint0
  rw [ite_result]
  split
  · rfl
  · cases outcomes.readEndPoint0 with
    | none => rfl
    | some ntbInMaxSize =>
      dsimp only
      simp only [ite_result, pure_result, bind_result, tracedDestroyAdapter_result,
        tracedCreateAdapter_result]
      rfl

@[simp]
theorem tracedProcessRequest_result (device : UsbNcmFunctionDevice) (setupPacket : SetupPacket)
    (outcomes : Outcomes) : (device.tracedProcessRequest setupPacket outcomes).result =
      device.processRequest setupPacket outcomes := by
  unfold tracedProcessRequest
  split
  · next htype =>
    unfold processRequest
    rw [tracedSetNtbInputSize_result, htype]
  · rfl

@[simp]
theorem tracedProcessSetupPacket_result (device : UsbNcmFunctionDevice) (setupPacket : SetupPacket)
    (outcomes : Outcomes) : (device.tracedProcessSetupPacket setupPacket outcomes).result =
      device.processSetupPacket setupPacket outcomes := by
  unfold tracedProcessSetupPacket processSetupPacket
  simp only [ite_result, bind_result, quiet_result, pure_result, tracedProcessRequest_result]
  rfl

@[simp]
theorem tracedSetInterface_result (device : UsbNcmFunctionDevice)
    (alternateInterfaceNumber : UInt16) (outcomes : Outcomes) :
    (device.tracedSetInterface alternateInterfaceNumber outcomes).result =
      device.setInterface alternateInterfaceNumber outcomes := by
  unfold tracedSetInterface setInterface
  simp only [ite_result, bind_result, quiet_result, pure_result, tracedDestroyAdapter_result,
    tracedCreateAdapter_result]
  rfl

theorem tracedBusEventNotificationRead_result (device : UsbNcmFunctionDevice)
    (notification : Notification) : (device.tracedBusEventNotificationRead notification).result =
      device.busEventNotificationRead notification := by
  unfold tracedBusEventNotificationRead busEventNotificationRead
  rw [ite_result]
  congr 1
  cases notification.event with
  | attach | suspend | resume | configured => rfl
  | unConfigured | detach | reset => exact tracedDestroyAdapter_result _ _
  | setupPacket setupPacket => exact tracedProcessSetupPacket_result device setupPacket _
  | setInterface _ alternateInterfaceNumber =>
    exact tracedSetInterface_result device alternateInterfaceNumber _

end UsbNcmFunctionDevice

/-! ## With the events -/

/-- What the builder of NTBs takes for granted. -/
structure BuilderPreconditions (parameters : AdapterParameters) : Prop where
  -- asserted by InitializeNtb
  datagramCount_pos : 0 < parameters.txMaxNtbDatagramCount
  -- ALIGN_UP_BY takes powers of two
  alignment : ∃ k, parameters.txNdpAlignment.toNat = 2 ^ k
  divisor : ∃ k, parameters.txNdpDivisor.toNat = 2 ^ k
  remainder_lt : parameters.txNdpPayloadRemainder < parameters.txNdpDivisor
  size_ge : 2048 ≤ parameters.txMaxNtbSize
  size_le : parameters.txMaxNtbSize ≤ ntbParameters.dwNtbInMaxSize

/-- No assertion stops the creation of a block, and it has proper parameters. -/
theorem BuilderPreconditions.create {parameters : AdapterParameters}
    (h : BuilderPreconditions parameters) :
    ∃ tb, NcmTransferBlock.ncmTransferBlockCreate parameters = .ok tb ∧ tb.ProperParameters := by
  have hne : parameters.txMaxNtbDatagramCount ≠ 0 := by
    intro hzero
    have hpos := h.datagramCount_pos
    rw [hzero] at hpos
    exact absurd hpos (by decide)
  refine ⟨_, if_neg hne, ?_⟩
  exact ⟨h.alignment, h.divisor, UInt16.lt_iff_toNat_lt.mp h.remainder_lt⟩

/-- The parameters meet the preconditions of the builder, and no call goes through a null table. -/
def AdapterCall.Proper : AdapterCall → Prop
  | adapterCreate parameters => BuilderPreconditions parameters
  | throughCallbacks ncmAdapterCallbacks => ncmAdapterCallbacks = true

theorem builderPreconditions_adapterParameters {hostSelectedNtbInMaxSize : UInt32}
    (hge : 2048 ≤ hostSelectedNtbInMaxSize)
    (hle : hostSelectedNtbInMaxSize ≤ ntbParameters.dwNtbInMaxSize) (use32BitNtb : Bool)
    (adapterMacAddress : List UInt8) : BuilderPreconditions (adapterParameters ntbParameters
      use32BitNtb adapterMacAddress hostSelectedNtbInMaxSize) where
  datagramCount_pos := show (0 : UInt16) < 16 by decide
  alignment := ⟨2, rfl⟩
  divisor := ⟨2, rfl⟩
  remainder_lt := show (0 : UInt16) < 4 by decide
  size_ge := hge
  size_le := hle

/-! ## No other stop -/

namespace Negotiation

variable {negotiation : Negotiation} {outcomes : Outcomes} {stop : Stop}

theorem createAdapter_error (h : negotiation.createAdapter outcomes = .error stop) :
    stop = .assertion := by
  unfold createAdapter at h
  split at h
  · exact (Except.error.inj h).symm
  · cases h

theorem setNtbInputSize_error {setupPacket : SetupPacket}
    (h : negotiation.setNtbInputSize setupPacket outcomes = .error stop) : stop = .assertion := by
  unfold setNtbInputSize resize at h
  split at h
  · cases h
  · split at h
    · cases h
    · split at h
      · dsimp only at h
        split at h
        · exact createAdapter_error h
        · cases h
      · cases h

theorem processSetupPacket_error {setupPacket : SetupPacket}
    (h : negotiation.processSetupPacket setupPacket outcomes = .error stop) : stop = .assertion := by
  unfold processSetupPacket processRequest at h
  split at h
  · exact (Except.error.inj h).symm
  · split at h
    · split at h
      · cases h
      · exact setNtbInputSize_error h
      all_goals cases h
    · cases h

theorem setInterface_error {alternateInterfaceNumber : UInt16}
    (h : negotiation.setInterface alternateInterfaceNumber outcomes = .error stop) :
    stop = .assertion := by
  unfold setInterface at h
  split at h
  · exact (Except.error.inj h).symm
  · split at h
    · cases h
    · dsimp only at h
      split at h
      · cases h
      · split at h
        · exact createAdapter_error h
        · cases h

theorem step_error {notification : Notification} (h : negotiation.step notification = .error stop) :
    stop = .assertion := by
  unfold step at h
  split at h
  · obtain ⟨completionStatus, event, outcomes⟩ := notification
    cases event with
    | attach | suspend | resume | configured | unConfigured | detach | reset => cases h
    | setupPacket setupPacket => exact processSetupPacket_error h
    | setInterface _ alternateInterfaceNumber => exact setInterface_error h
  · cases h

end Negotiation

namespace UsbNcmFunctionDevice

variable {device device' : UsbNcmFunctionDevice} {outcomes : Outcomes} {setupPacket : SetupPacket}
  {notification : Notification}

/-- The parameters are those of the driver, the size is one that the host may select, and an adapter
comes with its callbacks. -/
structure Provided (device : UsbNcmFunctionDevice) : Prop where
  ntbParamters : device.ntbParamters = ntbParameters
  size_ge : 2048 ≤ device.hostSelectedNtbInMaxSize
  size_le : device.hostSelectedNtbInMaxSize ≤ ntbParameters.dwNtbInMaxSize
  callbacks : device.netAdapter.isSome → device.ncmAdapterCallbacks = true

theorem provided_iff : Provided device ↔
    ∃ negotiation, Refines device negotiation ∧ negotiation.SizeInRange := by
  constructor
  · intro h
    exact ⟨_, ⟨rfl, h.callbacks, h.ntbParamters⟩, h.size_ge, h.size_le⟩
  · rintro ⟨negotiation, hrefines, hge, hle⟩
    rw [hrefines.hostSelectedNtbInMaxSize] at hge hle
    exact ⟨hrefines.ntbParamters, hge, hle, hrefines.callbacks⟩

theorem Provided.step (h : Provided device)
    (hstep : device.busEventNotificationRead notification = .ok device') : Provided device' := by
  obtain ⟨negotiation, hrefines, hsize⟩ := provided_iff.mp h
  obtain ⟨negotiation', hnext, hrefines'⟩ :=
    (busEventNotificationRead_refines hrefines notification).ok_left hstep
  exact provided_iff.mpr ⟨negotiation', hrefines', hsize.step hnext⟩

theorem Provided.destroyAdapter (h : Provided device)
    (hdestroy : device.destroyAdapter outcomes = .ok device') : Provided device' := by
  obtain ⟨negotiation, hrefines, hsize⟩ := provided_iff.mp h
  obtain ⟨negotiation', hnext, hrefines'⟩ := (destroyAdapter_refines hrefines).ok_left hdestroy
  obtain rfl := Except.ok.inj hnext
  exact provided_iff.mpr ⟨_, hrefines', hsize.destroyAdapter outcomes⟩

theorem Provided.all_tracedDestroyAdapter (h : Provided device) (outcomes : Outcomes) :
    All AdapterCall.Proper (device.tracedDestroyAdapter outcomes) := by
  unfold tracedDestroyAdapter
  split
  · next hsome =>
    rw [all_emit_bind]
    exact ⟨h.callbacks hsome, all_quiet _⟩
  · exact all_quiet _

theorem Provided.all_tracedCreateAdapter (h : Provided device) (outcomes : Outcomes) :
    All AdapterCall.Proper (device.tracedCreateAdapter outcomes) := by
  unfold tracedCreateAdapter
  split
  · exact all_quiet _
  · obtain ⟨status, c, d, e, i, bi, bo, hcache, -⟩ :=
      cacheClassInformation_ok device outcomes.createClassInformation
    rw [hcache, all_quiet_bind]
    intro cached hcached
    obtain rfl := Except.ok.inj hcached
    have hproper : BuilderPreconditions (adapterParameters device.ntbParamters device.use32BitNtb
        (getNextMACAddress device.cdcMacAddress) device.hostSelectedNtbInMaxSize) := by
      rw [h.ntbParamters]
      exact builderPreconditions_adapterParameters h.size_ge h.size_le _ _
    dsimp only
    split
    · exact all_pure _
    · rw [all_emit_bind]
      refine ⟨hproper, ?_⟩
      cases outcomes.adapterCreate with
      | failed => exact all_pure _
      | notStarted => exact all_pure _
      | created =>
        rw [all_emit_bind]
        exact ⟨rfl, all_pure _⟩

theorem Provided.all_tracedSetNtbInputSize (h : Provided device) (setupPacket : SetupPacket)
    (outcomes : Outcomes) :
    All AdapterCall.Proper (device.tracedSetNtbInputSize setupPacket outcomes) := by
  unfold tracedSetNtbInputSize readFromEndPoint0
  split
  · exact all_pure _
  · cases outcomes.readEndPoint0 with
    | none => exact all_pure _
    | some ntbInMaxSize =>
      dsimp only
      split
      · next hrange =>
        obtain ⟨hge, hle⟩ := hrange
        have hsized : Provided { (device.sendHandshake outcomes).2 with
            hostSelectedNtbInMaxSize := ntbInMaxSize } :=
          ⟨h.ntbParamters, hge, by rwa [← h.ntbParamters], h.callbacks⟩
        split
        · rw [all_bind]
          refine ⟨hsized.all_tracedDestroyAdapter outcomes, fun destroyed hdestroyed => ?_⟩
          rw [tracedDestroyAdapter_result] at hdestroyed
          rw [all_bind_left fun _ => all_pure _]
          exact (hsized.destroyAdapter hdestroyed).all_tracedCreateAdapter outcomes
        · exact all_pure _
      · exact all_pure _

theorem Provided.all_tracedProcessSetupPacket (h : Provided device) (setupPacket : SetupPacket)
    (outcomes : Outcomes) :
    All AdapterCall.Proper (device.tracedProcessSetupPacket setupPacket outcomes) := by
  unfold tracedProcessSetupPacket tracedProcessRequest
  split
  · exact all_quiet _
  · dsimp only
    split
    · rw [all_bind_left fun _ => all_pure _]
      split
      · exact h.all_tracedSetNtbInputSize setupPacket outcomes
      · exact all_quiet _
    · exact all_pure _

theorem Provided.all_tracedSetInterface (h : Provided device) (alternateInterfaceNumber : UInt16)
    (outcomes : Outcomes) :
    All AdapterCall.Proper (device.tracedSetInterface alternateInterfaceNumber outcomes) := by
  have hselected : Provided { device with alternateInterfaceNumber := alternateInterfaceNumber } :=
    ⟨h.ntbParamters, h.size_ge, h.size_le, h.callbacks⟩
  unfold tracedSetInterface
  split
  · exact all_quiet _
  · split
    · dsimp only
      split
      · exact hselected.all_tracedDestroyAdapter outcomes
      · split
        · rw [all_bind_left fun _ => all_pure _]
          exact hselected.all_tracedCreateAdapter outcomes
        · exact all_pure _
    · exact all_pure _

theorem Provided.all_tracedBusEventNotificationRead (h : Provided device)
    (notification : Notification) :
    All AdapterCall.Proper (device.tracedBusEventNotificationRead notification) := by
  have hmoved : ∀ state busSpeed,
      Provided { device with state := state, busSpeed := busSpeed } := fun _ _ =>
    ⟨h.ntbParamters, h.size_ge, h.size_le, h.callbacks⟩
  unfold tracedBusEventNotificationRead
  split
  · cases notification.event with
    | attach | suspend | resume | configured => exact all_pure _
    | unConfigured => exact (hmoved .attached device.busSpeed).all_tracedDestroyAdapter _
    | detach => exact (hmoved .detached device.busSpeed).all_tracedDestroyAdapter _
    | reset busSpeed => exact (hmoved .default busSpeed).all_tracedDestroyAdapter _
    | setupPacket setupPacket => exact h.all_tracedProcessSetupPacket setupPacket _
    | setInterface _ alternateInterfaceNumber =>
      exact h.all_tracedSetInterface alternateInterfaceNumber _
  · exact all_pure _

/-! ## The result -/

/-- What an adapter may be created with at any time. -/
structure UsableParameters (device : UsbNcmFunctionDevice) : Prop where
  size_ge : 2048 ≤ device.hostSelectedNtbInMaxSize
  size_le : device.hostSelectedNtbInMaxSize ≤ device.ntbParamters.dwNtbInMaxSize
  inMaxSize : device.ntbParamters.dwNtbInMaxSize = 0x10000
  inAlignment : ∃ k, device.ntbParamters.wNdpInAlignment.toNat = 2 ^ k
  inDivisor : ∃ k, device.ntbParamters.wNdpInDivisor.toNat = 2 ^ k
  inRemainder_lt : device.ntbParamters.wNdpInPayloadRemainder < device.ntbParamters.wNdpInDivisor
  outAlignment : ∃ k, device.ntbParamters.wNdpOutAlignment.toNat = 2 ^ k
  outDivisor : ∃ k, device.ntbParamters.wNdpOutDivisor.toNat = 2 ^ k
  outRemainder_lt : device.ntbParamters.wNdpOutPayloadRemainder < device.ntbParamters.wNdpOutDivisor
  callbacks : device.netAdapter.isSome → device.ncmAdapterCallbacks = true

theorem Provided.usableParameters (h : Provided device) : UsableParameters device := by
  obtain ⟨hparameters, hge, hle, hcallbacks⟩ := h
  constructor
  case size_ge => exact hge
  case callbacks => exact hcallbacks
  all_goals rw [hparameters]
  case size_le => exact hle
  case inMaxSize => rfl
  case inAlignment | inDivisor | outAlignment | outDivisor => exact ⟨2, rfl⟩
  case inRemainder_lt | outRemainder_lt => decide

theorem initializeDevice_provided {outcomes : InitializeOutcomes}
    (h : newDevice.initializeDevice outcomes = .ok (.success, device)) : Provided device := by
  obtain ⟨c, d, e, i, bi, bo, rfl⟩ := initializeDevice_success h
  exact provided_iff.mpr
    ⟨_, initializeDevice_refines h, Negotiation.sizeInRange_greatest rfl⟩

/-- However the bus, the host and the creation of adapters go, until an assertion stops the run: the
parameters are usable in every state, every adapter is created within the preconditions of the
builder, and no call goes through a null table. -/
theorem adapterCalls_proper {outcomes : InitializeOutcomes}
    (hdevice : newDevice.initializeDevice outcomes = .ok (.success, device))
    (notifications : List Notification) :
    Always busEventNotificationRead UsableParameters device notifications ∧
      (notifications.foldlM tracedBusEventNotificationRead device).result =
        notifications.foldlM busEventNotificationRead device ∧
      All AdapterCall.Proper (notifications.foldlM tracedBusEventNotificationRead device) ∧
      ∀ stop, notifications.foldlM busEventNotificationRead device = .error stop →
        stop = .assertion := by
  have hprovided := initializeDevice_provided hdevice
  refine ⟨?_, ?_, ?_, ?_⟩
  · exact always_of_invariant (fun _ _ _ h hstep => h.step hstep) (fun _ h => h.usableParameters)
      hprovided notifications
  · exact foldlM_result tracedBusEventNotificationRead_result device notifications
  · apply all_foldlM (fun _ notification h => h.all_tracedBusEventNotificationRead notification) ?_
      hprovided
    intro before notification after h hstep
    rw [tracedBusEventNotificationRead_result] at hstep
    exact h.step hstep
  · intro stop hstop
    have hnegotiation := (run_refines hdevice notifications).error_left hstop
    exact run_error (fun _ _ _ => Negotiation.step_error) hnegotiation

theorem adapterCalls_proper_resized :
    Always busEventNotificationRead UsableParameters exampleDevice (resizeEvents 1) ∧
      All AdapterCall.Proper ((resizeEvents 1).foldlM tracedBusEventNotificationRead exampleDevice) := by
  obtain ⟨hstates, -, hcalls, -⟩ := adapterCalls_proper exampleDevice_initialized (resizeEvents 1)
  exact ⟨hstates, hcalls⟩

end UsbNcmFunctionDevice

end UsbNcm.Function
