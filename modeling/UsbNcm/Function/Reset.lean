import UsbNcm.Function.InputSize

/-!
# Off the bus

What a Reset, UnConfigured or Detach event leaves of the negotiation.
-/

open Exec ByteMemory UsbNcm.Ntb

namespace UsbNcm.Function

/-- The class library gives the interfaces this number, whenever it is asked. -/
def FromLibrary (baseInterfaceNumber : UInt8) (notification : Notification) : Prop :=
  ∀ info, notification.outcomes.destroyClassInformation = some info ∨
      notification.outcomes.createClassInformation = some info →
    info.baseInterfaceNumber = baseInterfaceNumber

namespace Negotiation

variable {negotiation negotiation' : Negotiation} {outcomes : Outcomes} {setupPacket : SetupPacket}
  {notification : Notification}

/-! ## The machine -/

theorem step_leavesBus (h : LeavesBus notification) :
    negotiation.step notification =
      .ok ({ negotiation with configured := false }.destroyAdapter notification.outcomes) := by
  obtain ⟨completionStatus, event, outcomes⟩ := notification
  obtain ⟨hstatus, hevent⟩ := h
  unfold step
  rw [if_pos hstatus]
  cases event with
  | unConfigured | detach | reset => rfl
  | attach | suspend | resume | configured | setupPacket | setInterface => cases hevent

theorem destroyAdapter_configured (negotiation : Negotiation) (outcomes : Outcomes) :
    (negotiation.destroyAdapter outcomes).configured = negotiation.configured := by
  unfold destroyAdapter
  split <;> rfl

/-- What the host does not set. -/
def SameFunction (negotiation negotiation' : Negotiation) : Prop :=
  negotiation'.communicationInterfaceIndex = negotiation.communicationInterfaceIndex ∧
    negotiation'.cdcMacAddress = negotiation.cdcMacAddress

theorem setInterfaceIndex_same {classInformation : Option ClassInformation}
    (h : ∀ info, classInformation = some info →
      info.baseInterfaceNumber = negotiation.communicationInterfaceIndex) :
    SameFunction negotiation (negotiation.setInterfaceIndex classInformation) := by
  cases classInformation with
  | none => exact ⟨rfl, rfl⟩
  | some info => exact ⟨h info rfl, rfl⟩

section Library

variable (h : FromLibrary negotiation.communicationInterfaceIndex notification)

include h

theorem destroyAdapter_same :
    SameFunction negotiation (negotiation.destroyAdapter notification.outcomes) := by
  unfold destroyAdapter
  split
  · exact setInterfaceIndex_same fun info hinfo => h info (Or.inl hinfo)
  · exact ⟨rfl, rfl⟩

theorem createAdapter_same
    (hcreate : negotiation.createAdapter notification.outcomes = .ok negotiation') :
    SameFunction negotiation negotiation' := by
  have hcached := setInterfaceIndex_same fun info hinfo => h info (Or.inr hinfo)
  unfold createAdapter at hcreate
  split at hcreate
  · cases hcreate
  · dsimp only at hcreate
    split at hcreate <;>
      · cases hcreate
        exact hcached

theorem resize_same {ntbInMaxSize : UInt32}
    (hresize : negotiation.resize notification.outcomes ntbInMaxSize = .ok negotiation') :
    SameFunction negotiation negotiation' := by
  let sized : Negotiation := { negotiation with hostSelectedNtbInMaxSize := ntbInMaxSize }
  have hdestroyed : SameFunction sized (sized.destroyAdapter notification.outcomes) :=
    destroyAdapter_same h
  unfold resize at hresize
  dsimp only at hresize
  split at hresize
  · have hcreated := createAdapter_same (by rw [hdestroyed.1]; exact h) hresize
    exact ⟨hcreated.1.trans hdestroyed.1, hcreated.2.trans hdestroyed.2⟩
  · cases hresize
    exact ⟨rfl, rfl⟩

theorem processSetupPacket_same
    (hprocess : negotiation.processSetupPacket setupPacket notification.outcomes =
      .ok negotiation') : SameFunction negotiation negotiation' := by
  obtain rfl | rfl | ⟨ntbInMaxSize, -, -, -, -, -, -, -, hresize⟩ :=
    processSetupPacket_cases hprocess
  · exact ⟨rfl, rfl⟩
  · obtain ⟨use32BitNtb, hformat⟩ := negotiation.setNtbFmt_format setupPacket
    rw [hformat]
    exact ⟨rfl, rfl⟩
  · exact resize_same h hresize

theorem setInterface_same {alternateInterfaceNumber : UInt16}
    (hset : negotiation.setInterface alternateInterfaceNumber notification.outcomes =
      .ok negotiation') : SameFunction negotiation negotiation' := by
  obtain rfl | ⟨-, rfl⟩ | ⟨-, hcreate⟩ | ⟨-, -, rfl⟩ := setInterface_cases hset
  · exact ⟨rfl, rfl⟩
  · exact destroyAdapter_same h
  · have hcreated : SameFunction { negotiation with
        alternateInterfaceNumber := alternateInterfaceNumber } negotiation' :=
      createAdapter_same h hcreate
    exact hcreated
  · exact ⟨rfl, rfl⟩

theorem step_same (hstep : negotiation.step notification = .ok negotiation') :
    SameFunction negotiation negotiation' := by
  unfold step at hstep
  split at hstep
  · cases hevent : notification.event with
    | attach | suspend | resume | configured =>
      rw [hevent] at hstep
      cases hstep
      exact ⟨rfl, rfl⟩
    | unConfigured | detach | reset =>
      rw [hevent] at hstep
      cases hstep
      exact destroyAdapter_same h
    | setupPacket setupPacket =>
      rw [hevent] at hstep
      exact processSetupPacket_same h hstep
    | setInterface interfaceNumber alternateInterfaceNumber =>
      rw [hevent] at hstep
      exact setInterface_same h hstep
  · cases hstep
    exact ⟨rfl, rfl⟩

end Library

end Negotiation

namespace UsbNcmFunctionDevice

variable {device device' initialized : UsbNcmFunctionDevice} {negotiation : Negotiation}
  {notification : Notification} {notifications : List Notification}

/-! ## What is left -/

/-- Nothing that a host negotiated is left. -/
structure Forgotten (device : UsbNcmFunctionDevice) : Prop where
  netAdapter : device.netAdapter = none
  alternateInterfaceNumber : device.alternateInterfaceNumber = 0
  use32BitNtb : device.use32BitNtb = false
  hostSelectedNtbInMaxSize : device.hostSelectedNtbInMaxSize = device.ntbParamters.dwNtbInMaxSize

/-- What is to hold of every event: one that leaves the bus is handled, and forgets. -/
def Forgets (device : UsbNcmFunctionDevice) (notification : Notification) : Prop :=
  LeavesBus notification → ∃ device', device.busEventNotificationRead notification = .ok device' ∧
    Forgotten device'

/-- There is an adapter to destroy, or nothing to forget. -/
def Forgettable (device : UsbNcmFunctionDevice) (notification : Notification) : Prop :=
  LeavesBus notification → device.netAdapter.isSome ∨ (device.alternateInterfaceNumber = 0 ∧
    device.use32BitNtb = false ∧
    device.hostSelectedNtbInMaxSize = device.ntbParamters.dwNtbInMaxSize)

theorem forgotten_iff (h : Refines device negotiation) :
    Forgotten device ↔ negotiation.adapter = none ∧ negotiation.alternateInterfaceNumber = 0 ∧
      negotiation.use32BitNtb = false ∧
      negotiation.hostSelectedNtbInMaxSize = ntbParameters.dwNtbInMaxSize := by
  rw [h.adapter, h.alternateInterfaceNumber, h.use32BitNtb, h.hostSelectedNtbInMaxSize,
    Option.map_eq_none_iff, ← h.ntbParamters]
  constructor
  · rintro ⟨hadapter, halternate, hformat, hsize⟩
    exact ⟨hadapter, halternate, hformat, hsize⟩
  · rintro ⟨hadapter, halternate, hformat, hsize⟩
    exact ⟨hadapter, halternate, hformat, hsize⟩

theorem leavesBus_refines (h : Refines device negotiation) (hleaves : LeavesBus notification) :
    ∃ device', device.busEventNotificationRead notification = .ok device' ∧ Refines device'
      ({ negotiation with configured := false }.destroyAdapter notification.outcomes) :=
  (busEventNotificationRead_refines h notification).ok_right (Negotiation.step_leavesBus hleaves)

theorem forgets_iff_forgettable (h : Refines device negotiation) :
    Forgets device notification ↔ Forgettable device notification := by
  apply imp_congr_right
  intro hleaves
  obtain ⟨device', hread, h'⟩ := leavesBus_refines h hleaves
  have hforgotten := forgotten_iff h'
  have hsome := h.adapter_isSome
  rw [← h.alternateInterfaceNumber, ← h.use32BitNtb, ← h.hostSelectedNtbInMaxSize, h.ntbParamters,
    ← hsome]
  have hread_iff : (∃ device'', device.busEventNotificationRead notification = .ok device'' ∧
      Forgotten device'') ↔ Forgotten device' := by
    constructor
    · rintro ⟨device'', hread', hf⟩
      rw [hread] at hread'
      cases hread'
      exact hf
    · intro hf
      exact ⟨device', hread, hf⟩
  rw [hread_iff, hforgotten]
  by_cases hadapter : negotiation.adapter.isSome
  · obtain ⟨i, hdestroy⟩ := Negotiation.destroyAdapter_spec
      { negotiation with configured := false } notification.outcomes hadapter
    rw [hdestroy]
    simp [hadapter]
  · have hsame := Negotiation.destroyAdapter_none
      { negotiation with configured := false } notification.outcomes hadapter
    rw [hsame]
    simp [Option.not_isSome_iff_eq_none.mp hadapter]

/-! ## The next host -/

/-- The events lead from an initialised device to `device`, with one at the end that leaves the bus
and finds nothing that it would not forget. -/
structure LeftBus (initialized : UsbNcmFunctionDevice) (before : List Notification)
    (notification : Notification) (device : UsbNcmFunctionDevice) : Prop where
  leavesBus : LeavesBus notification
  run : ∃ left, before.foldlM busEventNotificationRead initialized = .ok left ∧
    Forgettable left notification ∧ left.busEventNotificationRead notification = .ok device
  library : ∀ e ∈ before ++ [notification], FromLibrary initialized.communicationInterfaceIndex e

/-- What the next host finds. -/
def unnegotiated (device : UsbNcmFunctionDevice) : Negotiation where
  configured := false
  alternateInterfaceNumber := 0
  use32BitNtb := false
  hostSelectedNtbInMaxSize := ntbParameters.dwNtbInMaxSize
  adapter := none
  communicationInterfaceIndex := device.communicationInterfaceIndex
  cdcMacAddress := device.cdcMacAddress

/-- All that the host negotiates is the same, and the parameters of the adapter. -/
def SameNegotiation (device device' : UsbNcmFunctionDevice) : Prop :=
  device.negotiated = device'.negotiated

theorem run_sameFunction {negotiation' : Negotiation}
    (hlibrary : ∀ e ∈ notifications, FromLibrary negotiation.communicationInterfaceIndex e)
    (hrun : notifications.foldlM Negotiation.step negotiation = .ok negotiation') :
    Negotiation.SameFunction negotiation negotiation' := by
  induction notifications generalizing negotiation with
  | nil =>
    cases hrun
    exact ⟨rfl, rfl⟩
  | cons e es ih =>
    rw [List.foldlM_cons] at hrun
    obtain ⟨negotiation1, hstep, hrest⟩ := bind_eq_ok.mp hrun
    have hsame := Negotiation.step_same (hlibrary e List.mem_cons_self) hstep
    have hnext := ih (fun e' he' => by rw [hsame.1]; exact hlibrary e' (List.mem_cons_of_mem _ he'))
      hrest
    exact ⟨hnext.1.trans hsame.1, hnext.2.trans hsame.2⟩

theorem LeftBus.refines (hinitialized : Refines initialized initialized.negotiated)
    {before : List Notification} (h : LeftBus initialized before notification device) :
    Refines device initialized.unnegotiated := by
  obtain ⟨hleaves, ⟨left, hrun, hforgettable, hread⟩, hlibrary⟩ := h
  have hruns : Agree Refines (before.foldlM busEventNotificationRead initialized)
      (before.foldlM Negotiation.step initialized.negotiated) :=
    Agree.run (fun _ _ e hr => busEventNotificationRead_refines hr e) hinitialized before
  obtain ⟨negotiation, hbefore, hleft⟩ := hruns.ok_left hrun
  obtain ⟨negotiation', hstep, h'⟩ :=
    (busEventNotificationRead_refines hleft notification).ok_left hread
  have hsame : Negotiation.SameFunction negotiation negotiation' ∧
      Negotiation.SameFunction initialized.negotiated negotiation := by
    have hfirst := run_sameFunction (fun e he => hlibrary e (List.mem_append_left _ he)) hbefore
    refine ⟨Negotiation.step_same ?_ hstep, hfirst⟩
    rw [hfirst.1]
    exact hlibrary notification (List.mem_append_right _ (List.mem_singleton_self _))
  obtain ⟨device', hread', hforgotten⟩ := (forgets_iff_forgettable hleft).mpr hforgettable hleaves
  rw [hread] at hread'
  cases hread'
  obtain ⟨hadapter, halternate, hformat, hsize⟩ := (forgotten_iff h').mp hforgotten
  have hconfigured : negotiation'.configured = false := by
    rw [Negotiation.step_leavesBus hleaves] at hstep
    rw [← Except.ok.inj hstep]
    exact Negotiation.destroyAdapter_configured _ _
  have hunnegotiated : negotiation' = initialized.unnegotiated := by
    obtain ⟨⟨hindex, hmac⟩, hindex0, hmac0⟩ := hsame
    rw [hindex0] at hindex
    rw [hmac0] at hmac
    cases negotiation'
    dsimp only at hadapter halternate hformat hsize hconfigured hindex hmac
    rw [hadapter, halternate, hformat, hsize, hconfigured, hindex, hmac]
    rfl
  exact hunnegotiated ▸ h'

/-- Every event that leaves the bus forgets what was negotiated, exactly when each finds an adapter
or nothing to forget. After one that does, the devices of any two runs go on alike. -/
theorem forgets_iff {outcomes : InitializeOutcomes}
    (hdevice : newDevice.initializeDevice outcomes = .ok (.success, initialized)) :
    (∀ notifications, AllSteps busEventNotificationRead Forgets initialized notifications ↔
        AllSteps busEventNotificationRead Forgettable initialized notifications) ∧
      ∀ before1 notification1 device1 before2 notification2 device2,
        LeftBus initialized before1 notification1 device1 →
        LeftBus initialized before2 notification2 device2 →
        ∀ after : List Notification, Agree SameNegotiation
          (after.foldlM busEventNotificationRead device1)
          (after.foldlM busEventNotificationRead device2) := by
  have hinitialized := initializeDevice_refines hdevice
  constructor
  · intro notifications
    apply allSteps_congr (fun device e (h : ∃ n, Refines device n) => ?_) _ ⟨_, hinitialized⟩
    · rintro device e device' ⟨n, hn⟩ hread
      obtain ⟨n', -, hn'⟩ := (busEventNotificationRead_refines hn e).ok_left hread
      exact ⟨n', hn'⟩
    · obtain ⟨n, hn⟩ := h
      exact forgets_iff_forgettable hn
  · intro before1 notification1 device1 before2 notification2 device2 h1 h2 after
    have hrun : ∀ {device}, Refines device initialized.unnegotiated →
        Agree Refines (after.foldlM busEventNotificationRead device)
          (after.foldlM Negotiation.step initialized.unnegotiated) := fun h =>
      Agree.run (fun _ _ e hr => busEventNotificationRead_refines hr e) h after
    refine (hrun (h1.refines hinitialized)).join (hrun (h2.refines hinitialized)) ?_
    intro device device' negotiation hd hd'
    exact hd.negotiation_eq.trans hd'.negotiation_eq.symm

/-- One host has got as far as an adapter, the other has done nothing. -/
theorem forgets_iff_selected :
    (AllSteps busEventNotificationRead Forgets exampleDevice
        (selectEvents ++ [successful (.reset .high)]) ↔
      AllSteps busEventNotificationRead Forgettable exampleDevice
        (selectEvents ++ [successful (.reset .high)])) ∧
      ∃ device1 device2,
        (selectEvents ++ [successful (.reset .high)]).foldlM busEventNotificationRead exampleDevice =
          .ok device1 ∧
        [successful (.reset .super)].foldlM busEventNotificationRead exampleDevice = .ok device2 ∧
        Agree SameNegotiation (selectEvents.foldlM busEventNotificationRead device1)
          (selectEvents.foldlM busEventNotificationRead device2) := by
  have hlibrary : ∀ e, FromLibrary exampleDevice.communicationInterfaceIndex (successful e) := by
    rintro e info (h | h) <;>
      · cases h
        rfl
  have hall : ∀ e ∈ selectEvents ++ [successful (.reset .high)],
      FromLibrary exampleDevice.communicationInterfaceIndex e := by
    intro e he
    simp only [selectEvents, List.cons_append, List.nil_append, List.mem_cons, List.not_mem_nil,
      or_false] at he
    rcases he with rfl | rfl | rfl | rfl <;> exact hlibrary _
  have h1 : ∃ device, (selectEvents ++ [successful (.reset .high)]).foldlM busEventNotificationRead
      exampleDevice = .ok device ∧
      LeftBus exampleDevice selectEvents (successful (.reset .high)) device :=
    ⟨_, rfl, ⟨rfl, trivial⟩, ⟨_, rfl, fun _ => Or.inl rfl, rfl⟩, hall⟩
  have h2 : ∃ device, [successful (.reset .super)].foldlM busEventNotificationRead exampleDevice =
      .ok device ∧ LeftBus exampleDevice [] (successful (.reset .super)) device :=
    ⟨_, rfl, ⟨rfl, trivial⟩, ⟨_, rfl, fun _ => Or.inr ⟨rfl, rfl, rfl⟩, rfl⟩, by
      intro e he
      rw [List.mem_singleton.mp he]
      exact hlibrary _⟩
  obtain ⟨device1, hrun1, hleft1⟩ := h1
  obtain ⟨device2, hrun2, hleft2⟩ := h2
  have hforgets := forgets_iff exampleDevice_initialized
  exact ⟨hforgets.1 _, device1, device2, hrun1, hrun2,
    hforgets.2 _ _ _ _ _ _ hleft1 hleft2 selectEvents⟩

/-- Without an adapter the format that a host selected outlives a reset, and the adapter of the next
host has it. -/
theorem format_survives_reset :
    ∃ device1 device2,
      [successful .configured, successful (.setupPacket ⟨0x84, 1, 0, 0⟩),
        successful (.reset .high)].foldlM busEventNotificationRead exampleDevice = .ok device1 ∧
      [successful (.reset .high)].foldlM busEventNotificationRead exampleDevice = .ok device2 ∧
      device1.use32BitNtb = true ∧
      ¬ AllSteps busEventNotificationRead Forgets exampleDevice
        [successful .configured, successful (.setupPacket ⟨0x84, 1, 0, 0⟩),
          successful (.reset .high)] ∧
      (∃ next, [successful .configured, successful (.setInterface 1 1)].foldlM
          busEventNotificationRead device1 = .ok next ∧
        next.netAdapter.map (·.parameters.use32BitNtb) = some true) ∧
      ∃ next, [successful .configured, successful (.setInterface 1 1)].foldlM
          busEventNotificationRead device2 = .ok next ∧
        next.netAdapter.map (·.parameters.use32BitNtb) = some false := by
  refine ⟨_, _, rfl, rfl, rfl, ?_, ⟨_, rfl, rfl⟩, _, rfl, rfl⟩
  intro h
  obtain ⟨device, hread, hforgotten⟩ := ((h.2 _ rfl).2 _ rfl).1 ⟨rfl, trivial⟩
  cases hread
  exact absurd hforgotten.use32BitNtb (by decide)

end UsbNcmFunctionDevice

end UsbNcm.Function
