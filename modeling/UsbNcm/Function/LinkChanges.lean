import Mathlib.Data.List.Forall2
import UsbNcm.Function.DeviceSpec

/-!
# What happens to the link of the function

What its adapters report, what the host is notified of, and which events are behind both.
-/

open Exec ByteMemory UsbNcm.Ntb UsbNcm.Adapter

namespace UsbNcm.Function

inductive LinkChange
  | created (busSpeed : UsbFnBusSpeed)
  -- NetAdapterStart failed
  | notStarted
  | destroyed
  deriving DecidableEq, Repr

/-- A bus event, or by itself one of the two calls that bus events make. -/
inductive LinkEvent
  | busEvent (notification : Notification)
  | createAdapter (outcomes : Outcomes)
  | destroyAdapter (outcomes : Outcomes)

/-! ## What is seen of the device -/

/-- What a destroyed adapter had reported. -/
@[simp]
def DeviceAction.reports : DeviceAction → List NetAdapterLinkState
  | .destroyedAdapter netAdapter => netAdapter.link.reported
  | .wroteToEndPoint0 _ | .sentHandshake _ | .stalledEndPoint0 | .interruptedHost _ => []

@[simp]
def DeviceAction.notification : DeviceAction → List (List UInt8)
  | .interruptedHost notification => [notification]
  | .wroteToEndPoint0 _ | .sentHandshake _ | .stalledEndPoint0 | .destroyedAdapter _ => []

/-- The `CDC_CONN_SPEED_CHANGE` of `NotifyConnectionSpeedAndStatusChange`. -/
def speedChange (dataInterfaceIndex : UInt8) (linkSpeed : UInt64) : List UInt8 :=
  [0xA1, 0x2A] ++ leBytes 2 0 ++ leBytes 2 dataInterfaceIndex.toNat ++ leBytes 2 8 ++
    leBytes 4 linkSpeed.toNat ++ leBytes 4 linkSpeed.toNat

/-- The `CDC_NETWORK_CONNECTION_STATUS` there. -/
def statusChange (dataInterfaceIndex : UInt8) (networkConnectionState : Bool) : List UInt8 :=
  [0xA1, 0x00] ++ leBytes 2 networkConnectionState.toNat ++ leBytes 2 dataInterfaceIndex.toNat ++
    leBytes 2 0

namespace LinkChange

def unknownState : NetAdapterLinkState :=
  ⟨ndisLinkSpeedUnknown, ndisLinkSpeedUnknown, .unknown, .full⟩

def connectedState (linkSpeed : UInt64) : NetAdapterLinkState :=
  ⟨linkSpeed, linkSpeed, .connected, .full⟩

def disconnectedState : NetAdapterLinkState := ⟨0, 0, .disconnected, .unknown⟩

/-- What the adapter of the function reports. -/
@[simp]
def reports : LinkChange → List NetAdapterLinkState
  | .created busSpeed => [unknownState, connectedState (usbFnBusSpeed busSpeed)]
  | .notStarted => [unknownState]
  | .destroyed => [disconnectedState]

/-- The notifications that the host gets, with whatever interface they name. -/
inductive Notified : LinkChange → List (List UInt8) → Prop
  | created (busSpeed : UsbFnBusSpeed) (dataInterfaceIndex : UInt8) :
    Notified (.created busSpeed)
      [speedChange dataInterfaceIndex (usbFnBusSpeed busSpeed), statusChange dataInterfaceIndex true]
  | notStarted : Notified .notStarted []
  | destroyed (dataInterfaceIndex : UInt8) :
    Notified .destroyed [statusChange dataInterfaceIndex false]

end LinkChange

namespace UsbNcmFunctionDevice

variable {device device' device'' : UsbNcmFunctionDevice} {outcomes : Outcomes}
  {setupPacket : SetupPacket} {changes changes' : List LinkChange}

/-- What the adapters have reported, those that are destroyed first. -/
def linkReports (device : UsbNcmFunctionDevice) : List NetAdapterLinkState :=
  device.log.flatMap DeviceAction.reports ++
    (device.netAdapter.map (·.link.reported)).getD []

def notifications (device : UsbNcmFunctionDevice) : List (List UInt8) :=
  device.log.flatMap DeviceAction.notification

/-! ## Which events change the link -/

def creation (device : UsbNcmFunctionDevice) (outcomes : Outcomes) : List LinkChange :=
  if outcomes.createClassInformation.isSome then
    match outcomes.adapterCreate with
    | .failed => []
    | .notStarted => [.notStarted]
    | .created => [.created device.busSpeed]
  else []

def destruction (device : UsbNcmFunctionDevice) : List LinkChange :=
  if device.netAdapter.isSome then [.destroyed] else []

/-- The setup packet is a SET_NTB_INPUT_SIZE that the device takes. -/
def takesInputSize (device : UsbNcmFunctionDevice) (setupPacket : SetupPacket) (outcomes : Outcomes) :
    Bool :=
  match outcomes.readEndPoint0 with
  | none => false
  | some ntbInMaxSize =>
    setupPacket.wIndex.toNat = device.communicationInterfaceIndex.toNat ∧
      setupPacket.bRequest = 0x86 ∧ setupPacket.wValue = 0 ∧ setupPacket.wLength = 4 ∧
      2048 ≤ ntbInMaxSize ∧ ntbInMaxSize ≤ device.ntbParamters.dwNtbInMaxSize

def busChanges (device : UsbNcmFunctionDevice) (notification : Notification) : List LinkChange :=
  if notification.completionStatus.ntSuccess then
    match notification.event with
    | .attach _ | .suspend | .resume | .configured => []
    | .unConfigured | .detach | .reset _ => device.destruction
    | .setupPacket setupPacket =>
      if device.netAdapter.isSome ∧ device.takesInputSize setupPacket notification.outcomes then
        .destroyed :: device.creation notification.outcomes
      else []
    | .setInterface _ alternateInterfaceNumber =>
      if device.alternateInterfaceNumber = alternateInterfaceNumber then []
      else if alternateInterfaceNumber = 0 then device.destruction
      else if alternateInterfaceNumber = 1 then device.creation notification.outcomes
      else []
  else []

def changesOf (device : UsbNcmFunctionDevice) : LinkEvent → List LinkChange
  | .busEvent notification => device.busChanges notification
  | .createAdapter outcomes => device.creation outcomes
  | .destroyAdapter _ => device.destruction

def linkStep (device : UsbNcmFunctionDevice) : LinkEvent → Except Stop UsbNcmFunctionDevice
  | .busEvent notification => device.busEventNotificationRead notification
  | .createAdapter outcomes => (device.createAdapter outcomes).map Prod.snd
  | .destroyAdapter outcomes => device.destroyAdapter outcomes

/-- The changes in the course of a run, as far as it goes. -/
def linkChanges (device : UsbNcmFunctionDevice) : List LinkEvent → List LinkChange
  | [] => []
  | event :: events =>
    device.changesOf event ++
      match device.linkStep event with
      | .error _ => []
      | .ok device' => device'.linkChanges events

/-! ## Changes in a row -/

/-- What the device has reported and notified in between is what belongs to the changes. -/
structure Changed (device device' : UsbNcmFunctionDevice) (changes : List LinkChange) : Prop where
  linkReports : device'.linkReports = device.linkReports ++ changes.flatMap LinkChange.reports
  notifications : ∃ sent, List.Forall₂ LinkChange.Notified changes sent ∧
    device'.notifications = device.notifications ++ sent.flatten

theorem Changed.trans (h : Changed device device' changes) (h' : Changed device' device'' changes') :
    Changed device device'' (changes ++ changes') := by
  obtain ⟨sent, hsent, hnotified⟩ := h.notifications
  obtain ⟨sent', hsent', hnotified'⟩ := h'.notifications
  constructor
  · rw [h'.linkReports, h.linkReports, List.flatMap_append, List.append_assoc]
  · refine ⟨sent ++ sent', List.rel_append hsent hsent', ?_⟩
    rw [hnotified', hnotified, List.flatten_append, List.append_assoc]

theorem changed_of_log {actions : List DeviceAction} (hlog : device'.log = device.log ++ actions)
    (hactions : ∀ action ∈ actions, OnEndPoint0 action)
    (hadapter : device'.netAdapter = device.netAdapter) : Changed device device' [] := by
  have hsilent : ∀ {action}, OnEndPoint0 action → action.reports = [] ∧ action.notification = [] := by
    intro action haction
    cases action with
    | wroteToEndPoint0 | sentHandshake | stalledEndPoint0 => exact ⟨rfl, rfl⟩
    | interruptedHost | destroyedAdapter => cases haction
  have hreports : actions.flatMap DeviceAction.reports = [] :=
    List.flatMap_eq_nil_iff.mpr fun action h => (hsilent (hactions action h)).1
  have hnotified : actions.flatMap DeviceAction.notification = [] :=
    List.flatMap_eq_nil_iff.mpr fun action h => (hsilent (hactions action h)).2
  constructor
  · simp [UsbNcmFunctionDevice.linkReports, hlog, hadapter, hreports]
  · exact ⟨[], .nil, by simp [UsbNcmFunctionDevice.notifications, hlog, hnotified]⟩

theorem changed_of_answered (h : Answered device device') : Changed device device' [] := by
  obtain ⟨actions, hlog, hactions⟩ := h.log
  exact changed_of_log hlog hactions h.netAdapter

/-- Where neither the log nor the adapter is touched. -/
theorem changed_of_same (hlog : device'.log = device.log)
    (hadapter : device'.netAdapter = device.netAdapter) : Changed device device' [] :=
  changed_of_log (by rw [hlog, List.append_nil]) (by simp) hadapter

/-! ## The adapter -/

theorem notifyConnectionSpeedAndStatusChange_eq (device : UsbNcmFunctionDevice)
    (networkConnectionState : Bool) (linkSpeed : UInt64) :
    device.notifyConnectionSpeedAndStatusChange networkConnectionState linkSpeed =
      { device with log := device.log ++
        (if networkConnectionState then
          [.interruptedHost (speedChange device.dataInterfaceIndex linkSpeed)] else []) ++
        [.interruptedHost (statusChange device.dataInterfaceIndex networkConnectionState)] } := by
  cases networkConnectionState
  · simp [notifyConnectionSpeedAndStatusChange, interruptHost, statusChange]
  · simp [notifyConnectionSpeedAndStatusChange, interruptHost, speedChange, statusChange]

/-- What `CreateAdapter` leaves of the class information does not matter to the link. -/
theorem createAdapter_changed {status : NtStatus}
    (h : device.createAdapter outcomes = .ok (status, device')) :
    Changed device device' (device.creation outcomes) := by
  obtain ⟨hadapter, hleaves⟩ := createAdapter_cases h
  unfold creation
  cases hleaves with
  | notCached c d e i bi bo hinfo =>
    rw [hinfo, if_neg (by decide)]
    exact changed_of_same rfl rfl
  | failed c d e i bi bo hinfo hcreate =>
    rw [hinfo, if_pos rfl, hcreate]
    exact changed_of_same rfl hadapter.symm
  | notStarted c d e i bi bo hinfo hcreate =>
    rw [hinfo, if_pos rfl, hcreate]
    refine ⟨?_, _, .cons .notStarted .nil, ?_⟩
    · simp [linkReports, recached, hadapter, startedLink, LinkChange.reports,
        LinkChange.unknownState]
    · simp [notifications, recached]
  | created c d e i bi bo hinfo hcreate =>
    rw [hinfo, if_pos rfl, hcreate, notifyConnectionSpeedAndStatusChange_eq]
    refine ⟨?_, _, .cons (.created device.busSpeed d) .nil, ?_⟩
    · simp [linkReports, recached, hadapter, startedLink, AdapterLink.setLinkSpeed,
        AdapterLink.setLinkState, LinkChange.unknownState, LinkChange.connectedState]
    · simp [notifications, recached, DeviceAction.notification]

theorem destroyAdapter_changed (h : device.destroyAdapter outcomes = .ok device') :
    Changed device device' device.destruction := by
  unfold destruction
  rcases destroyAdapter_cases h with ⟨hadapter, rfl⟩ | ⟨netAdapter, c, d, e, i, bi, bo, hadapter, -, rfl⟩
  · rw [hadapter]
    exact changed_of_same rfl rfl
  · rw [hadapter, notifyConnectionSpeedAndStatusChange_eq]
    refine ⟨?_, _, .cons (.destroyed d) .nil, ?_⟩
    · simp [linkReports, recached, setParameters, removeAdapter, hadapter,
        AdapterLink.setLinkSpeed, AdapterLink.setLinkState, DeviceAction.reports,
        LinkChange.reports, LinkChange.disconnectedState]
    · simp [notifications, recached, setParameters, removeAdapter, DeviceAction.notification]

theorem destroyed_of_ok (hsome : device.netAdapter.isSome)
    (h : device.destroyAdapter outcomes = .ok device') : Destroyed device device' := by
  rcases destroyAdapter_cases h with ⟨hnone, -⟩ | ⟨netAdapter, c, d, e, i, bi, bo, -, -, rfl⟩
  · rw [hnone] at hsome
    cases hsome
  · exact ⟨rfl, rfl, rfl, rfl, rfl, rfl, rfl, rfl, rfl⟩

/-! ## Setup packets -/

theorem takesInputSize_iff : device.takesInputSize setupPacket outcomes = true ↔
    ∃ ntbInMaxSize, Resizes device setupPacket outcomes ntbInMaxSize := by
  unfold takesInputSize
  constructor
  · intro h
    split at h
    · cases h
    · next ntbInMaxSize hread =>
      obtain ⟨hindex, hrequest, hvalue, hlength, hge, hle⟩ := of_decide_eq_true h
      exact ⟨ntbInMaxSize, hindex, hrequest, hvalue, hlength, hread, hge, hle⟩
  · rintro ⟨ntbInMaxSize, h⟩
    rw [h.readEndPoint0]
    exact decide_eq_true ⟨h.wIndex, h.bRequest, h.wValue, h.wLength, h.ge, h.le⟩

/-- A size that is taken destroys an adapter and creates the next one. -/
theorem resize_changed {status : NtStatus} {device1 : UsbNcmFunctionDevice}
    (hsome : device.netAdapter.isSome)
    (hdestroy : device.destroyAdapter outcomes = .ok device1)
    (hcreate : device1.createAdapter outcomes = .ok (status, device')) :
    Changed device device' (.destroyed :: device.creation outcomes) := by
  have hdestroyed := destroyAdapter_changed hdestroy
  have hcreated := createAdapter_changed hcreate
  unfold destruction at hdestroyed
  rw [if_pos hsome] at hdestroyed
  unfold creation at hcreated
  rw [(destroyed_of_ok hsome hdestroy).busSpeed] at hcreated
  exact hdestroyed.trans hcreated

theorem processSetupPacket_changed
    (h : device.processSetupPacket setupPacket outcomes = .ok device') :
    Changed device device'
      (if device.netAdapter.isSome ∧ device.takesInputSize setupPacket outcomes then
        .destroyed :: device.creation outcomes else []) := by
  by_cases hstate : device.state = .configured
  · split
    · next htakes =>
      obtain ⟨hsome, htakes⟩ := htakes
      obtain ⟨ntbInMaxSize, hresizes⟩ := takesInputSize_iff.mp htakes
      rw [processSetupPacket_eq hstate hresizes hsome] at h
      obtain ⟨device1, hdestroy, h⟩ := bind_eq_ok.mp h
      obtain ⟨⟨status, device2⟩, hcreate, rfl⟩ := map_eq_ok.mp h
      exact (changed_of_answered (sized_answered ntbInMaxSize)).trans
        (resize_changed hsome hdestroy hcreate)
    · next hnot =>
      have hkeeps : device.netAdapter = none ∨
          ∀ ntbInMaxSize, ¬ Resizes device setupPacket outcomes ntbInMaxSize := by
        rw [← Option.not_isSome_iff_eq_none, ← not_exists, ← takesInputSize_iff]
        exact not_and_or.mp hnot
      obtain ⟨device1, hprocess, hanswered⟩ := processSetupPacket_answered hstate hkeeps
      rw [h] at hprocess
      cases hprocess
      exact changed_of_answered hanswered
  · unfold processSetupPacket at h
    rw [if_pos hstate] at h
    cases h

/-! ## Events -/

theorem setInterface_changed {alternateInterfaceNumber : UInt16}
    (h : device.setInterface alternateInterfaceNumber outcomes = .ok device') :
    Changed device device'
      (if device.alternateInterfaceNumber = alternateInterfaceNumber then []
      else if alternateInterfaceNumber = 0 then device.destruction
      else if alternateInterfaceNumber = 1 then device.creation outcomes
      else []) := by
  unfold setInterface at h
  by_cases hstate : device.state = .configured
  · rw [if_neg (not_not.mpr hstate)] at h
    have hselected : Changed device (device.selected alternateInterfaceNumber) [] :=
      changed_of_same rfl rfl
    split at h
    · next hne =>
      rw [if_neg hne]
      split at h
      · next hzero =>
        rw [if_pos hzero]
        exact hselected.trans (destroyAdapter_changed h)
      · next hzero =>
        rw [if_neg hzero]
        split at h
        · next hone =>
          rw [if_pos hone]
          obtain ⟨⟨status, device1⟩, hcreate, h⟩ := bind_eq_ok.mp h
          cases h
          exact hselected.trans (createAdapter_changed hcreate)
        · next hone =>
          rw [if_neg hone]
          cases h
          exact hselected
    · next hsame =>
      cases h
      rw [if_pos (not_not.mp hsame)]
      exact changed_of_same rfl rfl
  · rw [if_pos hstate] at h
    cases h

theorem busEventNotificationRead_changed {notification : Notification}
    (h : device.busEventNotificationRead notification = .ok device') :
    Changed device device' (device.busChanges notification) := by
  obtain ⟨completionStatus, event, outcomes⟩ := notification
  unfold busEventNotificationRead at h
  unfold busChanges
  split at h
  · next hstatus =>
    rw [if_pos hstatus]
    -- the fields that the event sets are not those of the link
    have hset : ∀ device1 : UsbNcmFunctionDevice, device1.log = device.log →
        device1.netAdapter = device.netAdapter → device1.destroyAdapter outcomes = .ok device' →
          Changed device device' device.destruction := by
      intro device1 hlog hadapter hdestroy
      have hdestroyed := (changed_of_same hlog hadapter).trans (destroyAdapter_changed hdestroy)
      unfold destruction at hdestroyed ⊢
      rwa [hadapter] at hdestroyed
    cases event with
    | attach | suspend | resume | configured =>
      cases h
      exact changed_of_same rfl rfl
    | unConfigured => exact hset { device with state := .attached } rfl rfl h
    | detach => exact hset { device with state := .detached } rfl rfl h
    | reset busSpeed => exact hset { device with state := .default, busSpeed := busSpeed } rfl rfl h
    | setupPacket setupPacket => exact processSetupPacket_changed h
    | setInterface interfaceNumber alternateInterfaceNumber => exact setInterface_changed h
  · next hstatus =>
    cases h
    rw [if_neg hstatus]
    exact changed_of_same rfl rfl

theorem linkStep_changed {event : LinkEvent} (h : device.linkStep event = .ok device') :
    Changed device device' (device.changesOf event) := by
  cases event with
  | busEvent notification => exact busEventNotificationRead_changed h
  | createAdapter outcomes =>
    obtain ⟨⟨status, device1⟩, hcreate, rfl⟩ := map_eq_ok.mp h
    exact createAdapter_changed hcreate
  | destroyAdapter outcomes => exact destroyAdapter_changed h

/-- The reports and the notifications of a run are those of its changes. -/
theorem run_changed {events : List LinkEvent} (h : events.foldlM linkStep device = .ok device') :
    Changed device device' (device.linkChanges events) := by
  induction events generalizing device with
  | nil =>
    cases h
    exact changed_of_same rfl rfl
  | cons event events ih =>
    rw [List.foldlM_cons] at h
    obtain ⟨device1, hstep, h⟩ := bind_eq_ok.mp h
    unfold linkChanges
    rw [hstep]
    exact (linkStep_changed hstep).trans (ih h)

end UsbNcmFunctionDevice

end UsbNcm.Function
