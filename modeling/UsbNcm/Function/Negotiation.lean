import UsbNcm.Function.DeviceSpec
import UsbNcm.Lib.Simulation

/-!
# What the host negotiates with the device

The part of the device that the host sets by its requests, as a machine of its own. The device
refines it.
-/

open Exec ByteMemory UsbNcm.Ntb UsbNcm.Adapter

namespace UsbNcm.Function

/-! ## The machine -/

/-- What the host has set, and the parameters of the adapter created from it. The last two are not
for the host to set. -/
structure Negotiation where
  configured : Bool
  alternateInterfaceNumber : UInt16
  use32BitNtb : Bool
  hostSelectedNtbInMaxSize : UInt32
  adapter : Option AdapterParameters
  communicationInterfaceIndex : UInt8
  cdcMacAddress : List UInt8
  deriving DecidableEq, Repr

/-- The event takes the device off the bus, or back to where the bus found it. -/
def LeavesBus (notification : Notification) : Prop :=
  notification.completionStatus.ntSuccess ∧
    match notification.event with
    | .unConfigured | .detach | .reset _ => True
    | _ => False

namespace Negotiation

variable {negotiation : Negotiation} {outcomes : Outcomes}

def setInterfaceIndex (negotiation : Negotiation) (classInformation : Option ClassInformation) :
    Negotiation :=
  { negotiation with
    communicationInterfaceIndex := (classInformation.map (·.baseInterfaceNumber)).getD
      negotiation.communicationInterfaceIndex }

/-- All is forgotten, but only together with an adapter. -/
def destroyAdapter (negotiation : Negotiation) (outcomes : Outcomes) : Negotiation :=
  if negotiation.adapter.isSome then
    { negotiation with
      alternateInterfaceNumber := 0
      use32BitNtb := false
      hostSelectedNtbInMaxSize := ntbParameters.dwNtbInMaxSize
      adapter := none }.setInterfaceIndex outcomes.destroyClassInformation
  else negotiation

def agreedParameters (negotiation : Negotiation) : AdapterParameters :=
  adapterParameters ntbParameters negotiation.use32BitNtb
    (getNextMACAddress negotiation.cdcMacAddress) negotiation.hostSelectedNtbInMaxSize

def createAdapter (negotiation : Negotiation) (outcomes : Outcomes) : Except Stop Negotiation :=
  if negotiation.adapter.isSome then .error .assertion
  else
    let cached := negotiation.setInterfaceIndex outcomes.createClassInformation
    .ok (if outcomes.createClassInformation.isSome ∧ outcomes.adapterCreate ≠ .failed then
      { cached with adapter := some negotiation.agreedParameters } else cached)

def setNtbFmt (negotiation : Negotiation) (setupPacket : SetupPacket) : Negotiation :=
  if setupPacket.wValue > 1 ∨ setupPacket.wLength ≠ 0 ∨
      negotiation.alternateInterfaceNumber ≠ 0 then negotiation
  else { negotiation with use32BitNtb := setupPacket.wValue = 1 }

def resize (negotiation : Negotiation) (outcomes : Outcomes) (ntbInMaxSize : UInt32) :
    Except Stop Negotiation :=
  let sized := { negotiation with hostSelectedNtbInMaxSize := ntbInMaxSize }
  if negotiation.adapter.isSome then (sized.destroyAdapter outcomes).createAdapter outcomes
  else .ok sized

def setNtbInputSize (negotiation : Negotiation) (setupPacket : SetupPacket) (outcomes : Outcomes) :
    Except Stop Negotiation :=
  if setupPacket.wValue ≠ 0 ∨ setupPacket.wLength ≠ 4 then .ok negotiation
  else
    match outcomes.readEndPoint0 with
    | none => .ok negotiation
    | some ntbInMaxSize =>
      if ntbInMaxSize ≥ 2048 ∧ ntbInMaxSize ≤ ntbParameters.dwNtbInMaxSize then
        negotiation.resize outcomes ntbInMaxSize
      else .ok negotiation

def processRequest (negotiation : Negotiation) (setupPacket : SetupPacket) (outcomes : Outcomes) :
    Except Stop Negotiation :=
  match ncmRequestType setupPacket.bRequest with
  | some .setNtbFmt => .ok (negotiation.setNtbFmt setupPacket)
  | some .setNtbInputSize => negotiation.setNtbInputSize setupPacket outcomes
  | some .getNtbParams | some .getNtbFmt | some .getNtbInputSize | none => .ok negotiation

def processSetupPacket (negotiation : Negotiation) (setupPacket : SetupPacket)
    (outcomes : Outcomes) : Except Stop Negotiation :=
  if ¬ negotiation.configured then .error .assertion
  else if setupPacket.wIndex.toNat = negotiation.communicationInterfaceIndex.toNat then
    negotiation.processRequest setupPacket outcomes
  else .ok negotiation

def setInterface (negotiation : Negotiation) (alternateInterfaceNumber : UInt16)
    (outcomes : Outcomes) : Except Stop Negotiation :=
  if ¬ negotiation.configured then .error .assertion
  else if negotiation.alternateInterfaceNumber = alternateInterfaceNumber then .ok negotiation
  else
    let selected := { negotiation with alternateInterfaceNumber := alternateInterfaceNumber }
    if alternateInterfaceNumber = 0 then .ok (selected.destroyAdapter outcomes)
    else if alternateInterfaceNumber = 1 then selected.createAdapter outcomes
    else .ok selected

def step (negotiation : Negotiation) (notification : Notification) : Except Stop Negotiation :=
  if notification.completionStatus.ntSuccess then
    match notification.event with
    | .attach _ => .ok { negotiation with configured := false }
    | .suspend | .resume => .ok negotiation
    | .configured => .ok { negotiation with configured := true }
    | .unConfigured | .detach | .reset _ =>
      .ok ({ negotiation with configured := false }.destroyAdapter notification.outcomes)
    | .setupPacket setupPacket =>
      negotiation.processSetupPacket setupPacket notification.outcomes
    | .setInterface _ alternateInterfaceNumber =>
      negotiation.setInterface alternateInterfaceNumber notification.outcomes
  else .ok negotiation

/-! ## What a step can do -/

variable {negotiation' : Negotiation} {setupPacket : SetupPacket}

theorem setNtbFmt_format (negotiation : Negotiation) (setupPacket : SetupPacket) :
    ∃ use32BitNtb, negotiation.setNtbFmt setupPacket =
      { negotiation with use32BitNtb := use32BitNtb } := by
  unfold setNtbFmt
  split
  · exact ⟨negotiation.use32BitNtb, rfl⟩
  · exact ⟨_, rfl⟩

theorem setNtbInputSize_cases
    (h : negotiation.setNtbInputSize setupPacket outcomes = .ok negotiation') :
    negotiation' = negotiation ∨
      ∃ ntbInMaxSize, setupPacket.wValue = 0 ∧ setupPacket.wLength = 4 ∧
        outcomes.readEndPoint0 = some ntbInMaxSize ∧ ntbInMaxSize ≥ 2048 ∧
        ntbInMaxSize ≤ ntbParameters.dwNtbInMaxSize ∧
        negotiation.resize outcomes ntbInMaxSize = .ok negotiation' := by
  unfold setNtbInputSize at h
  split at h
  · exact Or.inl (Except.ok.inj h).symm
  · next hshape =>
    rw [not_or, not_not, not_not] at hshape
    cases hread : outcomes.readEndPoint0 with
    | none =>
      rw [hread] at h
      exact Or.inl (Except.ok.inj h).symm
    | some ntbInMaxSize =>
      rw [hread] at h
      dsimp only at h
      split at h
      · next hrange =>
        exact Or.inr ⟨ntbInMaxSize, hshape.1, hshape.2, rfl, hrange.1, hrange.2, h⟩
      · exact Or.inl (Except.ok.inj h).symm

/-- Nothing changes, or the format does, or the size is taken. -/
theorem processSetupPacket_cases
    (h : negotiation.processSetupPacket setupPacket outcomes = .ok negotiation') :
    negotiation' = negotiation ∨
      negotiation' = negotiation.setNtbFmt setupPacket ∨
      ∃ ntbInMaxSize,
        setupPacket.wIndex.toNat = negotiation.communicationInterfaceIndex.toNat ∧
        ncmRequestType setupPacket.bRequest = some .setNtbInputSize ∧
        setupPacket.wValue = 0 ∧ setupPacket.wLength = 4 ∧
        outcomes.readEndPoint0 = some ntbInMaxSize ∧ ntbInMaxSize ≥ 2048 ∧
        ntbInMaxSize ≤ ntbParameters.dwNtbInMaxSize ∧
        negotiation.resize outcomes ntbInMaxSize = .ok negotiation' := by
  unfold processSetupPacket processRequest at h
  split at h
  · cases h
  · split at h
    · next hindex =>
      split at h
      · exact Or.inr (Or.inl (Except.ok.inj h).symm)
      · next htype =>
        obtain hsame | ⟨ntbInMaxSize, hresize⟩ := setNtbInputSize_cases h
        · exact Or.inl hsame
        · exact Or.inr (Or.inr ⟨ntbInMaxSize, hindex, htype, hresize⟩)
      all_goals exact Or.inl (Except.ok.inj h).symm
    · exact Or.inl (Except.ok.inj h).symm

/-- Nothing changes, or the setting does: 0 destroys the adapter and 1 creates it. -/
theorem setInterface_cases {alternateInterfaceNumber : UInt16}
    (h : negotiation.setInterface alternateInterfaceNumber outcomes = .ok negotiation') :
    negotiation' = negotiation ∨
      (alternateInterfaceNumber = 0 ∧ negotiation' =
        { negotiation with
          alternateInterfaceNumber := alternateInterfaceNumber }.destroyAdapter outcomes) ∨
      (alternateInterfaceNumber = 1 ∧
        { negotiation with
          alternateInterfaceNumber := alternateInterfaceNumber }.createAdapter outcomes =
            .ok negotiation') ∨
      (alternateInterfaceNumber ≠ 0 ∧ alternateInterfaceNumber ≠ 1 ∧ negotiation' =
        { negotiation with alternateInterfaceNumber := alternateInterfaceNumber }) := by
  unfold setInterface at h
  split at h
  · cases h
  · split at h
    · exact Or.inl (Except.ok.inj h).symm
    · dsimp only at h
      split at h
      · next hzero => exact Or.inr (Or.inl ⟨hzero, (Except.ok.inj h).symm⟩)
      · next hzero =>
        split at h
        · next hone => exact Or.inr (Or.inr (Or.inl ⟨hone, h⟩))
        · next hone => exact Or.inr (Or.inr (Or.inr ⟨hzero, hone, (Except.ok.inj h).symm⟩))

end Negotiation

namespace UsbNcmFunctionDevice

variable {device device' : UsbNcmFunctionDevice} {negotiation : Negotiation} {outcomes : Outcomes}
  {setupPacket : SetupPacket}

/-! ## The device refines it -/

def negotiated (device : UsbNcmFunctionDevice) : Negotiation where
  configured := device.state = .configured
  alternateInterfaceNumber := device.alternateInterfaceNumber
  use32BitNtb := device.use32BitNtb
  hostSelectedNtbInMaxSize := device.hostSelectedNtbInMaxSize
  adapter := device.netAdapter.map (·.parameters)
  communicationInterfaceIndex := device.communicationInterfaceIndex
  cdcMacAddress := device.cdcMacAddress

/-- The device stands at this negotiation, with the parameters of the driver, and with the callbacks
of its adapter. -/
structure Refines (device : UsbNcmFunctionDevice) (negotiation : Negotiation) : Prop where
  negotiation_eq : device.negotiated = negotiation
  callbacks : device.netAdapter.isSome → device.ncmAdapterCallbacks = true
  ntbParamters : device.ntbParamters = ntbParameters

section Fields

variable (h : Refines device negotiation)

include h

theorem Refines.configured : negotiation.configured = decide (device.state = .configured) := by
  rw [← h.negotiation_eq]
  rfl

theorem Refines.alternateInterfaceNumber :
    negotiation.alternateInterfaceNumber = device.alternateInterfaceNumber := by
  rw [← h.negotiation_eq]
  rfl

theorem Refines.use32BitNtb : negotiation.use32BitNtb = device.use32BitNtb := by
  rw [← h.negotiation_eq]
  rfl

theorem Refines.hostSelectedNtbInMaxSize :
    negotiation.hostSelectedNtbInMaxSize = device.hostSelectedNtbInMaxSize := by
  rw [← h.negotiation_eq]
  rfl

theorem Refines.communicationInterfaceIndex :
    negotiation.communicationInterfaceIndex = device.communicationInterfaceIndex := by
  rw [← h.negotiation_eq]
  rfl

theorem Refines.adapter : negotiation.adapter = device.netAdapter.map (·.parameters) := by
  rw [← h.negotiation_eq]
  rfl

theorem Refines.adapter_isSome : negotiation.adapter.isSome = device.netAdapter.isSome := by
  rw [h.adapter]
  exact Option.isSome_map

end Fields

theorem destroyAdapter_refines (h : Refines device negotiation) :
    Agree Refines (device.destroyAdapter outcomes) (.ok (negotiation.destroyAdapter outcomes)) := by
  have hsome := h.adapter_isSome
  unfold Negotiation.destroyAdapter
  rw [hsome]
  cases hadapter : device.netAdapter with
  | none =>
    rw [destroyAdapter_none hadapter]
    exact .ok h
  | some netAdapter =>
    obtain ⟨status, c, d, e, i, bi, bo, hcache, -, hindex⟩ := cacheClassInformation_ok
      (device.removeAdapter netAdapter).setParameters outcomes.destroyClassInformation
    have hcallbacks := h.callbacks (by rw [hadapter]; rfl)
    unfold destroyAdapter
    rw [hadapter]
    simp only [hcallbacks, not_true_eq_false, if_false, hcache, ok_bind]
    refine .ok ⟨?_, nofun, rfl⟩
    rw [← h.negotiation_eq, hindex]
    rfl

theorem createAdapter_refines (h : Refines device negotiation) :
    Agree (fun x n => Refines x.2 n) (device.createAdapter outcomes)
      (negotiation.createAdapter outcomes) := by
  unfold createAdapter Negotiation.createAdapter
  refine .ite (by rw [h.adapter_isSome]) (fun _ => .stop _) fun hnone => ?_
  obtain ⟨status, c, d, e, i, bi, bo, hcache, hstatus, hindex⟩ :=
    cacheClassInformation_ok device outcomes.createClassInformation
  have hadapter : device.netAdapter = none := Option.not_isSome_iff_eq_none.mp hnone
  have hparameters := h.ntbParamters
  obtain rfl := h.negotiation_eq
  have hagreed : adapterParameters device.ntbParamters device.use32BitNtb
      (getNextMACAddress device.cdcMacAddress) device.hostSelectedNtbInMaxSize =
        device.negotiated.agreedParameters := by
    rw [hparameters]
    rfl
  simp only [hcache, ok_bind, hstatus]
  cases hinfo : outcomes.createClassInformation.isSome with
  | false =>
    refine .ok ⟨?_, ?_, hparameters⟩
    · rw [hindex]
      simp
      rfl
    · intro hc
      exact absurd hc hnone
  | true =>
    cases hcreate : outcomes.adapterCreate with
    | failed =>
      refine .ok ⟨?_, nofun, hparameters⟩
      rw [hindex]
      simp [negotiated, hadapter]
      rfl
    | notStarted | created =>
      refine .ok ⟨?_, fun _ => rfl, hparameters⟩
      rw [if_pos ⟨rfl, by decide⟩, hindex]
      exact congrArg (fun parameters => { device.negotiated.setInterfaceIndex
        outcomes.createClassInformation with adapter := some parameters }) hagreed

/-! ## Setup packets -/

theorem getRequest_refines (h : Refines device negotiation) (size : UInt16) (data : EndPoint0Data) :
    Refines (device.getRequest setupPacket outcomes size data).2 negotiation := by
  unfold getRequest writeToEndPoint0
  split
  · exact h
  · cases outcomes.writeEndPoint0.ntSuccess <;>
      exact ⟨h.negotiation_eq, h.callbacks, h.ntbParamters⟩

theorem setNtbFmt_refines (h : Refines device negotiation) :
    Refines (device.setNtbFmt setupPacket outcomes).2 (negotiation.setNtbFmt setupPacket) := by
  unfold setNtbFmt Negotiation.setNtbFmt
  rw [h.alternateInterfaceNumber]
  split
  · exact h
  · obtain ⟨rfl, hcallbacks, hparameters⟩ := h
    exact ⟨rfl, hcallbacks, hparameters⟩

theorem resize_refines (h : Refines device negotiation) (ntbInMaxSize : UInt32) :
    Agree (fun x n => Refines x.2 n)
      (if device.netAdapter.isSome then do
        let device ← { device with hostSelectedNtbInMaxSize := ntbInMaxSize }.destroyAdapter outcomes
        let (_, device) ← device.createAdapter outcomes
        return (false, device)
      else .ok (false, { device with hostSelectedNtbInMaxSize := ntbInMaxSize }))
      (negotiation.resize outcomes ntbInMaxSize) := by
  have hsized : Refines { device with hostSelectedNtbInMaxSize := ntbInMaxSize }
      { negotiation with hostSelectedNtbInMaxSize := ntbInMaxSize } := by
    obtain ⟨rfl, hcallbacks, hparameters⟩ := h
    exact ⟨rfl, hcallbacks, hparameters⟩
  unfold Negotiation.resize
  refine .ite (by rw [h.adapter_isSome]) (fun _ => ?_) fun _ => .ok hsized
  rw [← ok_bind (Negotiation.destroyAdapter _ outcomes) (Negotiation.createAdapter · outcomes)]
  refine (destroyAdapter_refines hsized).bind fun device1 negotiation1 h1 => ?_
  rw [← bind_pure (negotiation1.createAdapter outcomes)]
  exact (createAdapter_refines h1).bind fun _ _ h2 => .ok h2

theorem setNtbInputSize_refines (h : Refines device negotiation) :
    Agree (fun x n => Refines x.2 n) (device.setNtbInputSize setupPacket outcomes)
      (negotiation.setNtbInputSize setupPacket outcomes) := by
  unfold setNtbInputSize Negotiation.setNtbInputSize readFromEndPoint0
  refine .ite Iff.rfl (fun _ => .ok h) fun _ => ?_
  cases outcomes.readEndPoint0 with
  | none => exact .ok h
  | some ntbInMaxSize =>
    have hread : Refines (device.sendHandshake outcomes).2 negotiation :=
      ⟨h.negotiation_eq, h.callbacks, h.ntbParamters⟩
    refine .ite ?_ (fun _ => resize_refines hread ntbInMaxSize) fun _ => .ok hread
    rw [hread.ntbParamters]

theorem processRequest_refines (h : Refines device negotiation) :
    Agree (fun x n => Refines x.2 n) (device.processRequest setupPacket outcomes)
      (negotiation.processRequest setupPacket outcomes) := by
  unfold processRequest Negotiation.processRequest
  cases ncmRequestType setupPacket.bRequest with
  | none => exact .ok h
  | some requestType =>
    cases requestType with
    | getNtbParams | getNtbFmt | getNtbInputSize => exact .ok (getRequest_refines h _ _)
    | setNtbFmt => exact .ok (setNtbFmt_refines h)
    | setNtbInputSize => exact setNtbInputSize_refines h

theorem stallEndPoint0_refines (h : Refines device negotiation) (stallEp0 : Bool) :
    Refines (if stallEp0 then device.stallEndPoint0 else device) negotiation := by
  cases stallEp0
  · exact h
  · exact ⟨h.negotiation_eq, h.callbacks, h.ntbParamters⟩

theorem processSetupPacket_refines (h : Refines device negotiation) :
    Agree Refines (device.processSetupPacket setupPacket outcomes)
      (negotiation.processSetupPacket setupPacket outcomes) := by
  unfold processSetupPacket Negotiation.processSetupPacket
  refine .ite (by rw [h.configured, decide_eq_true_eq]) (fun _ => .stop _) fun _ => ?_
  rw [h.communicationInterfaceIndex]
  split
  · rw [← bind_pure (negotiation.processRequest setupPacket outcomes)]
    exact (processRequest_refines h).bind fun x _ hx => .ok (stallEndPoint0_refines hx x.1)
  · exact .ok (stallEndPoint0_refines h true)

/-! ## Events -/

theorem setInterface_refines (h : Refines device negotiation) (alternateInterfaceNumber : UInt16) :
    Agree Refines (device.setInterface alternateInterfaceNumber outcomes)
      (negotiation.setInterface alternateInterfaceNumber outcomes) := by
  have hselected : Refines (device.selected alternateInterfaceNumber)
      { negotiation with alternateInterfaceNumber := alternateInterfaceNumber } := by
    obtain ⟨rfl, hcallbacks, hparameters⟩ := h
    exact ⟨rfl, hcallbacks, hparameters⟩
  unfold setInterface Negotiation.setInterface
  refine .ite (by rw [h.configured, decide_eq_true_eq]) (fun _ => .stop _) fun _ => ?_
  rw [h.alternateInterfaceNumber]
  by_cases hsame : device.alternateInterfaceNumber = alternateInterfaceNumber
  · rw [if_pos hsame, if_neg (not_not.mpr hsame)]
    exact .ok h
  · rw [if_neg hsame, if_pos hsame]
    refine .ite Iff.rfl (fun _ => destroyAdapter_refines hselected) fun _ => ?_
    refine .ite Iff.rfl (fun _ => ?_) fun _ => .ok hselected
    rw [← bind_pure (Negotiation.createAdapter _ outcomes)]
    exact (createAdapter_refines hselected).bind fun _ _ hcreated => .ok hcreated

theorem moved_refines (h : Refines device negotiation) (state : UsbFnDeviceState)
    (busSpeed : UsbFnBusSpeed) :
    Refines { device with state := state, busSpeed := busSpeed }
      { negotiation with configured := state = .configured } := by
  obtain ⟨rfl, hcallbacks, hparameters⟩ := h
  exact ⟨rfl, hcallbacks, hparameters⟩

theorem busEventNotificationRead_refines (h : Refines device negotiation)
    (notification : Notification) :
    Agree Refines (device.busEventNotificationRead notification)
      (negotiation.step notification) := by
  unfold busEventNotificationRead Negotiation.step
  refine .ite Iff.rfl (fun _ => ?_) fun _ => .ok h
  cases notification.event with
  | attach busSpeed => exact .ok (moved_refines h .attached busSpeed)
  | suspend => exact .ok h
  | resume => exact .ok h
  | configured => exact .ok (moved_refines h .configured device.busSpeed)
  | unConfigured => exact destroyAdapter_refines (moved_refines h .attached device.busSpeed)
  | detach => exact destroyAdapter_refines (moved_refines h .detached device.busSpeed)
  | reset busSpeed => exact destroyAdapter_refines (moved_refines h .default busSpeed)
  | setupPacket setupPacket => exact processSetupPacket_refines h
  | setInterface interfaceNumber alternateInterfaceNumber => exact setInterface_refines h _

theorem initializeDevice_refines {outcomes : InitializeOutcomes}
    (h : newDevice.initializeDevice outcomes = .ok (.success, device)) :
    Refines device device.negotiated := by
  obtain ⟨c, d, e, i, bi, bo, rfl⟩ := initializeDevice_success h
  exact ⟨rfl, nofun, rfl⟩

/-- Whatever the host and the bus do, the negotiation of the device is the one of the machine. -/
theorem run_refines {outcomes : InitializeOutcomes}
    (h : newDevice.initializeDevice outcomes = .ok (.success, device))
    (notifications : List Notification) :
    Agree Refines (notifications.foldlM busEventNotificationRead device)
      (notifications.foldlM Negotiation.step device.negotiated) :=
  Agree.run (fun _ _ e hr => busEventNotificationRead_refines hr e) (initializeDevice_refines h)
    notifications

end UsbNcmFunctionDevice

end UsbNcm.Function
