import UsbNcm.Function.DeviceSpec
import UsbNcm.Lib.Run

/-!
# The adapter and the alternate setting

There should be an adapter only while the data interface is at alternate setting 1. Which events
break this.
-/

open Exec ByteMemory UsbNcm.Ntb UsbNcm.Adapter

namespace UsbNcm.Function.UsbNcmFunctionDevice

variable {device device' : UsbNcmFunctionDevice} {notification : Notification}

def AdapterAtOne (device : UsbNcmFunctionDevice) : Prop :=
  device.netAdapter.isSome → device.alternateInterfaceNumber = 1

/-- Setup packets and SetInterface come in the configured state only. -/
def InOrder (device : UsbNcmFunctionDevice) (notification : Notification) : Prop :=
  match notification.event with
  | .setupPacket _ | .setInterface _ _ => device.state = .configured
  | _ => True

/-- What is to hold of every event: it leaves an adapter only at alternate setting 1, and no adapter
when it selects alternate setting 0. -/
def KeepsInStep (_ : UsbNcmFunctionDevice) (notification : Notification)
    (device' : UsbNcmFunctionDevice) : Prop :=
  AdapterAtOne device' ∧ ∀ interfaceNumber, notification.completionStatus.ntSuccess →
    notification.event = .setInterface interfaceNumber 0 → device'.netAdapter = none

/-- There is no adapter, or the event is neither a SET_NTB_INPUT_SIZE that the device takes and that
leaves an adapter, nor does it select a third alternate setting. -/
def Harmless (device : UsbNcmFunctionDevice) (notification : Notification) : Prop :=
  notification.completionStatus.ntSuccess → device.netAdapter.isSome →
    match notification.event with
    | .setupPacket setupPacket =>
      LeavesAdapter notification.outcomes →
        ∀ ntbInMaxSize, ¬ Resizes device setupPacket notification.outcomes ntbInMaxSize
    | .setInterface _ alternateInterfaceNumber => alternateInterfaceNumber ≤ 1
    | _ => True

/-- The invariant: also the callbacks are there while there is an adapter. -/
structure Consistent (device : UsbNcmFunctionDevice) : Prop where
  adapterAtOne : AdapterAtOne device
  callbacks : device.netAdapter.isSome → device.ncmAdapterCallbacks = true

/-! ## One event -/

theorem adapterAtOne_of_none (h : device.netAdapter = none) : AdapterAtOne device := by
  unfold AdapterAtOne
  rw [h]
  nofun

theorem consistent_of_none (h : device.netAdapter = none) : Consistent device :=
  ⟨adapterAtOne_of_none h, by rw [h]; nofun⟩

theorem destroyAdapter_ok (h : device.netAdapter.isSome → device.ncmAdapterCallbacks = true)
    (outcomes : Outcomes) :
    ∃ device', device.destroyAdapter outcomes = .ok device' ∧ device'.netAdapter = none := by
  cases hadapter : device.netAdapter with
  | none => exact ⟨device, destroyAdapter_none hadapter, hadapter⟩
  | some netAdapter =>
    obtain ⟨device', hdestroy, hdestroyed⟩ : ∃ device', device.destroyAdapter outcomes = .ok device' ∧
        Destroyed device device' := destroyAdapter_some hadapter (h (by rw [hadapter]; rfl))
    exact ⟨device', hdestroy, hdestroyed.netAdapter⟩

theorem createAdapter_callbacks {outcomes : Outcomes} {status : NtStatus}
    (hnone : device.netAdapter = none)
    (h : device.createAdapter outcomes = .ok (status, device')) :
    device'.alternateInterfaceNumber = device.alternateInterfaceNumber ∧
      (device'.netAdapter.isSome ↔ LeavesAdapter outcomes) ∧
      (device'.netAdapter.isSome → device'.ncmAdapterCallbacks = true) := by
  obtain ⟨status1, device1, hcreate, hcreated, hcases⟩ : ∃ status1 device1,
      device.createAdapter outcomes = .ok (status1, device1) ∧ Created device device1 ∧ _ :=
    createAdapter_none hnone
  rw [hcreate] at h
  cases h
  refine ⟨hcreated.alternateInterfaceNumber, ?_⟩
  rcases hcases with ⟨hnot, hnone'⟩ | ⟨hleaves, netAdapter, hsome, -, hcallbacks⟩
  · rw [hnone']
    exact ⟨⟨nofun, fun hleaves => absurd hleaves hnot⟩, nofun⟩
  · rw [hsome]
    exact ⟨⟨fun _ => hleaves, fun _ => rfl⟩, fun _ => hcallbacks⟩

/-- The event is as it should be, and the state after it is consistent. -/
def Keeps (device : UsbNcmFunctionDevice) (notification : Notification) : Prop :=
  ∃ device', device.busEventNotificationRead notification = .ok device' ∧
    KeepsInStep device notification device' ∧ Consistent device'

/-- The event leads to a state with an adapter and another alternate setting. -/
def Breaks (device : UsbNcmFunctionDevice) (notification : Notification) : Prop :=
  ∃ device', device.busEventNotificationRead notification = .ok device' ∧ ¬ AdapterAtOne device'

theorem keeps_of_none (hread : device.busEventNotificationRead notification = .ok device')
    (h : device'.netAdapter = none) : Keeps device notification :=
  ⟨device', hread, ⟨adapterAtOne_of_none h, fun _ _ _ => h⟩, consistent_of_none h⟩

/-- An event that is not SetInterface and that does not touch the adapter. -/
theorem keeps_of_sameAdapter (hread : device.busEventNotificationRead notification = .ok device')
    (h : SameAdapter device device') (hdevice : Consistent device)
    (hevent : ∀ i, notification.completionStatus.ntSuccess → notification.event ≠ .setInterface i 0) :
    Keeps device notification := by
  have hconsistent : Consistent device' := by
    constructor
    · unfold AdapterAtOne
      rw [h.netAdapter, h.alternateInterfaceNumber]
      exact hdevice.adapterAtOne
    · rw [h.netAdapter, h.ncmAdapterCallbacks]
      exact hdevice.callbacks
  refine ⟨device', hread, ⟨hconsistent.adapterAtOne, ?_⟩, hconsistent⟩
  intro i hstatus heq
  exact absurd heq (hevent i hstatus)

theorem zero_or_one_of_le {n : UInt16} (h : n ≤ 1) : n = 0 ∨ n = 1 := by
  rw [UInt16.le_iff_toNat_le] at h
  rw [← UInt16.toNat_inj, ← UInt16.toNat_inj]
  change n.toNat ≤ 1 at h
  change n.toNat = 0 ∨ n.toNat = 1
  omega

theorem Consistent.netAdapter_none (h : Consistent device)
    (hne : device.alternateInterfaceNumber ≠ 1) : device.netAdapter = none :=
  Option.not_isSome_iff_eq_none.mp fun hsome => hne (h.adapterAtOne hsome)

section SetInterface

variable {interfaceNumber alternateInterfaceNumber : UInt16}
  (hevent : notification.event = .setInterface interfaceNumber alternateInterfaceNumber)
  (h : Consistent device)

include hevent h

theorem keeps_of_sameInterface
    (hread : device.busEventNotificationRead notification = .ok device)
    (hsame : device.alternateInterfaceNumber = alternateInterfaceNumber) :
    Keeps device notification := by
  refine ⟨device, hread, ⟨h.adapterAtOne, ?_⟩, h⟩
  intro i _ heq
  rw [hevent] at heq
  cases heq
  exact h.netAdapter_none (by rw [hsame]; decide)

theorem keeps_of_selectOne {status : NtStatus} (hne : device.alternateInterfaceNumber ≠ 1)
    (hone : alternateInterfaceNumber = 1)
    (hcreate : (device.selected 1).createAdapter notification.outcomes = .ok (status, device'))
    (hread : device.busEventNotificationRead notification = .ok device') :
    Keeps device notification := by
  have hselected : (device.selected 1).netAdapter = none := h.netAdapter_none hne
  obtain ⟨halternate, -, hcallbacks⟩ := createAdapter_callbacks hselected hcreate
  refine ⟨device', hread, ⟨fun _ => halternate, ?_⟩, fun _ => halternate, hcallbacks⟩
  intro i _ heq
  rw [hevent, hone] at heq
  cases heq

end SetInterface

theorem setInterface_spec {interfaceNumber alternateInterfaceNumber : UInt16}
    (hstatus : notification.completionStatus.ntSuccess = true)
    (hevent : notification.event = .setInterface interfaceNumber alternateInterfaceNumber)
    (h : Consistent device) (horder : device.state = .configured) :
    (Harmless device notification ∧ Keeps device notification) ∨
      (¬ Harmless device notification ∧ Breaks device notification) := by
  have hread : device.busEventNotificationRead notification =
      device.setInterface alternateInterfaceNumber notification.outcomes := by
    unfold busEventNotificationRead
    rw [if_pos hstatus, hevent]
  have hharmless : Harmless device notification ↔
      (device.netAdapter.isSome → alternateInterfaceNumber ≤ 1) := by
    unfold Harmless
    rw [hevent]
    exact ⟨fun hh => hh hstatus, fun hh _ => hh⟩
  rw [hharmless]
  by_cases hsame : device.alternateInterfaceNumber = alternateInterfaceNumber
  · rw [setInterface_same horder hsame] at hread
    refine Or.inl ⟨fun hsome => ?_, keeps_of_sameInterface hevent h hread hsame⟩
    rw [← hsame, h.adapterAtOne hsome]
    decide
  · rcases eq_or_ne alternateInterfaceNumber 0 with rfl | hzero
    · have hcallbacks : (device.selected 0).netAdapter.isSome →
          (device.selected 0).ncmAdapterCallbacks = true := h.callbacks
      obtain ⟨device', hdestroy, hnone⟩ := destroyAdapter_ok hcallbacks notification.outcomes
      rw [setInterface_zero horder hsame, hdestroy] at hread
      exact Or.inl ⟨fun _ => by decide, keeps_of_none hread hnone⟩
    · rcases eq_or_ne alternateInterfaceNumber 1 with rfl | hone
      · have hselected : (device.selected 1).netAdapter = none := h.netAdapter_none hsame
        obtain ⟨status, device', hcreate, -⟩ := createAdapter_none hselected
        rw [setInterface_one horder hsame hcreate] at hread
        exact Or.inl ⟨fun _ => by decide, keeps_of_selectOne hevent h hsame rfl hcreate hread⟩
      · rw [setInterface_other horder hsame hzero hone] at hread
        cases hadapter : device.netAdapter with
        | none => exact Or.inl ⟨nofun, keeps_of_none hread hadapter⟩
        | some netAdapter =>
          refine Or.inr ⟨fun hle => ?_, _, hread, fun hat => hone (hat ?_)⟩
          · exact (zero_or_one_of_le (hle rfl)).elim hzero hone
          · change device.netAdapter.isSome
            rw [hadapter]
            rfl

theorem setupPacket_spec {setupPacket : SetupPacket}
    (hstatus : notification.completionStatus.ntSuccess = true)
    (hevent : notification.event = .setupPacket setupPacket) (h : Consistent device)
    (horder : device.state = .configured) :
    (Harmless device notification ∧ Keeps device notification) ∨
      (¬ Harmless device notification ∧ Breaks device notification) := by
  have hread : device.busEventNotificationRead notification =
      device.processSetupPacket setupPacket notification.outcomes := by
    unfold busEventNotificationRead
    rw [if_pos hstatus, hevent]
  have hharmless : Harmless device notification ↔ (device.netAdapter.isSome →
      LeavesAdapter notification.outcomes →
        ∀ ntbInMaxSize, ¬ Resizes device setupPacket notification.outcomes ntbInMaxSize) := by
    unfold Harmless
    rw [hevent]
    exact ⟨fun hh => hh hstatus, fun hh _ => hh⟩
  rw [hharmless]
  by_cases hkeeps : device.netAdapter = none ∨
      ∀ ntbInMaxSize, ¬ Resizes device setupPacket notification.outcomes ntbInMaxSize
  · obtain ⟨device', hprocess, hanswered⟩ := processSetupPacket_answered horder hkeeps
    refine Or.inl ⟨fun hsome _ => ?_,
      keeps_of_sameAdapter (hread.trans hprocess) hanswered.toSameAdapter h ?_⟩
    · rcases hkeeps with hnone | hall
      · rw [hnone] at hsome
        cases hsome
      · exact hall
    · intro i _ heq
      rw [hevent] at heq
      cases heq
  · rw [not_or, not_forall] at hkeeps
    obtain ⟨hadapter, ntbInMaxSize, hresizes⟩ := hkeeps
    obtain ⟨netAdapter, hadapter⟩ := Option.ne_none_iff_exists'.mp hadapter
    have hsome : device.netAdapter.isSome := by
      rw [hadapter]
      rfl
    obtain ⟨device1, status, device', hdestroyed, hcreate, hprocess⟩ :=
      processSetupPacket_resizes horder (not_not.mp hresizes) hadapter (h.callbacks hsome)
    obtain ⟨halternate, hleft, -⟩ := createAdapter_callbacks hdestroyed.netAdapter hcreate
    by_cases hleaves : LeavesAdapter notification.outcomes
    · refine Or.inr ⟨fun hall => hresizes (hall hsome hleaves ntbInMaxSize), device',
        hread.trans hprocess, fun hat => ?_⟩
      have hone := hat (hleft.mpr hleaves)
      rw [halternate, hdestroyed.alternateInterfaceNumber] at hone
      exact absurd hone (by decide)
    · refine Or.inl ⟨fun _ hc => absurd hc hleaves, keeps_of_none (hread.trans hprocess) ?_⟩
      exact Option.not_isSome_iff_eq_none.mp fun hc => hleaves (hleft.mp hc)

theorem keeps_of_destroyAdapter {changed : UsbNcmFunctionDevice}
    (hread : device.busEventNotificationRead notification =
      changed.destroyAdapter notification.outcomes)
    (h : SameAdapter device changed) (hdevice : Consistent device) : Keeps device notification := by
  have hchanged : changed.netAdapter.isSome → changed.ncmAdapterCallbacks = true := by
    rw [h.netAdapter, h.ncmAdapterCallbacks]
    exact hdevice.callbacks
  obtain ⟨device', hdestroy, hnone⟩ := destroyAdapter_ok hchanged notification.outcomes
  exact keeps_of_none (hread.trans hdestroy) hnone

theorem busEventNotificationRead_spec (h : Consistent device) (horder : InOrder device notification) :
    (Harmless device notification ∧ Keeps device notification) ∨
      (¬ Harmless device notification ∧ Breaks device notification) := by
  cases hstatus : notification.completionStatus.ntSuccess with
  | false =>
    have hread : device.busEventNotificationRead notification = .ok device := by
      unfold busEventNotificationRead
      rw [hstatus, if_neg Bool.false_ne_true]
    have hfailed : ¬ notification.completionStatus.ntSuccess = true := by
      rw [hstatus]
      decide
    exact Or.inl ⟨fun hc => absurd hc hfailed,
      keeps_of_sameAdapter hread (.refl device) h fun _ hc => absurd hc hfailed⟩
  | true =>
    obtain ⟨completionStatus, event, outcomes⟩ := notification
    cases event with
    | attach busSpeed =>
      exact Or.inl ⟨fun _ _ => trivial,
        keeps_of_sameAdapter (if_pos hstatus) ⟨rfl, rfl, rfl⟩ h fun _ _ => nofun⟩
    | suspend =>
      exact Or.inl ⟨fun _ _ => trivial,
        keeps_of_sameAdapter (if_pos hstatus) (.refl device) h fun _ _ => nofun⟩
    | resume =>
      exact Or.inl ⟨fun _ _ => trivial,
        keeps_of_sameAdapter (if_pos hstatus) (.refl device) h fun _ _ => nofun⟩
    | configured =>
      exact Or.inl ⟨fun _ _ => trivial,
        keeps_of_sameAdapter (if_pos hstatus) ⟨rfl, rfl, rfl⟩ h fun _ _ => nofun⟩
    | unConfigured =>
      exact Or.inl ⟨fun _ _ => trivial,
        keeps_of_destroyAdapter (if_pos hstatus) ⟨rfl, rfl, rfl⟩ h⟩
    | detach =>
      exact Or.inl ⟨fun _ _ => trivial,
        keeps_of_destroyAdapter (if_pos hstatus) ⟨rfl, rfl, rfl⟩ h⟩
    | reset busSpeed =>
      exact Or.inl ⟨fun _ _ => trivial,
        keeps_of_destroyAdapter (if_pos hstatus) ⟨rfl, rfl, rfl⟩ h⟩
    | setupPacket setupPacket => exact setupPacket_spec hstatus rfl h horder
    | setInterface interfaceNumber alternateInterfaceNumber =>
      exact setInterface_spec hstatus rfl h horder

theorem harmless_iff (h : Consistent device) (horder : InOrder device notification) :
    Harmless device notification ↔ ∃ device',
      device.busEventNotificationRead notification = .ok device' ∧
        KeepsInStep device notification device' := by
  rcases busEventNotificationRead_spec h horder with
    ⟨hharmless, device', hread, hkeeps, -⟩ | ⟨hnot, device', hread, hbreaks⟩
  · exact ⟨fun _ => ⟨device', hread, hkeeps⟩, fun _ => hharmless⟩
  · refine ⟨fun hc => absurd hc hnot, ?_⟩
    rintro ⟨device'', hread', hkeeps⟩
    rw [hread] at hread'
    cases hread'
    exact absurd hkeeps.1 hbreaks

theorem consistent_of_keepsInStep (h : Consistent device) (horder : InOrder device notification)
    (hread : device.busEventNotificationRead notification = .ok device')
    (hkeeps : KeepsInStep device notification device') : Consistent device' := by
  rcases busEventNotificationRead_spec h horder with
    ⟨-, device'', hread', -, hconsistent⟩ | ⟨-, device'', hread', hbreaks⟩
  · rw [hread] at hread'
    cases hread'
    exact hconsistent
  · rw [hread] at hread'
    cases hread'
    exact absurd hkeeps.1 hbreaks

/-! ## Runs -/

/-- The adapter and the alternate setting stay in step throughout a run just when every event of it
is harmless where it comes. -/
theorem throughout_keepsInStep_iff {outcomes : InitializeOutcomes} {notifications : List Notification}
    (hdevice : newDevice.initializeDevice outcomes = .ok (.success, device))
    (horder : AllSteps busEventNotificationRead InOrder device notifications) :
    Throughout busEventNotificationRead KeepsInStep device notifications ↔
      AllSteps busEventNotificationRead Harmless device notifications := by
  apply throughout_iff Consistent InOrder Harmless KeepsInStep _ _ _ horder
  · exact fun _ _ => harmless_iff
  · exact fun _ _ _ => consistent_of_keepsInStep
  · obtain ⟨c, d, e, i, bi, bo, rfl⟩ := initializeDevice_success hdevice
    exact consistent_of_none rfl

/-- Two interfaces from number 0 on, with all pipes. -/
def exampleClassInformation : ClassInformation where
  baseInterfaceNumber := 0
  interfaceCount := 2
  pipeArr := [⟨0, .control⟩, ⟨1, .interruptIn⟩, ⟨2, .bulkIn⟩, ⟨3, .bulkOut⟩]
  interfaceCount_eq := rfl
  pipeArr_known := by decide

/-- Everything outside the driver succeeds, and a size read is 4096. -/
def exampleOutcomes : Outcomes where
  destroyClassInformation := some exampleClassInformation
  createClassInformation := some exampleClassInformation
  adapterCreate := .created
  writeEndPoint0 := .success
  readEndPoint0 := some 4096
  handshake := .success

def exampleInitialize : InitializeOutcomes where
  registerClassDevice := .success
  classInformation := some exampleClassInformation
  cdcMacAddress := [0x22, 0, 0, 0, 0, 1]
  registerString := .success
  createContinuousReaders := .success
  activateBus := .success

def exampleDevice : UsbNcmFunctionDevice :=
  { newDevice.setParameters with
    dataInterfaceIndex := 1
    endPoint0 := some ⟨0, .control⟩
    interrupt := some ⟨1, .interruptIn⟩
    bulkIn := some ⟨2, .bulkIn⟩
    bulkOut := some ⟨3, .bulkOut⟩
    cdcMacAddress := [0x22, 0, 0, 0, 0, 1] }

def successful (event : UsbFnEvent) : Notification := ⟨.success, event, exampleOutcomes⟩

/-- The host configures the device, selects alternate setting 1, sets the input size, and goes back
to the setting. -/
def resizeEvents (alternateInterfaceNumber : UInt16) : List Notification :=
  [successful .configured, successful (.setInterface 1 1), successful (.setupPacket ⟨0x86, 0, 0, 4⟩),
    successful (.setInterface 1 alternateInterfaceNumber)]

theorem exampleDevice_initialized :
    newDevice.initializeDevice exampleInitialize = .ok (.success, exampleDevice) := rfl

theorem inOrder_resizeEvents (alternateInterfaceNumber : UInt16) :
    AllSteps busEventNotificationRead InOrder exampleDevice (resizeEvents alternateInterfaceNumber) :=
  .cons trivial rfl (.cons rfl rfl (.cons rfl rfl (.single rfl)))

theorem throughout_keepsInStep_iff_selected :
    Throughout busEventNotificationRead KeepsInStep exampleDevice
      [successful .configured, successful (.setInterface 1 1)] := by
  have horder : AllSteps busEventNotificationRead InOrder exampleDevice
      [successful .configured, successful (.setInterface 1 1)] := .cons trivial rfl (.single rfl)
  apply (throughout_keepsInStep_iff exampleDevice_initialized horder).mpr
  apply AllSteps.cons (fun _ _ => trivial) rfl
  exact .single nofun

/-- Back at setting 1, `CreateAdapter` finds the adapter that it made before. Back at setting 0, the
adapter stays. -/
theorem createAdapter_asserts_after_resize :
    newDevice.initializeDevice exampleInitialize = .ok (.success, exampleDevice) ∧
      AllSteps busEventNotificationRead InOrder exampleDevice (resizeEvents 1) ∧
      ¬ Throughout busEventNotificationRead KeepsInStep exampleDevice (resizeEvents 1) ∧
      (resizeEvents 1).foldlM busEventNotificationRead exampleDevice = .error .assertion ∧
      ∃ device, (resizeEvents 0).foldlM busEventNotificationRead exampleDevice = .ok device ∧
        device.alternateInterfaceNumber = 0 ∧ device.netAdapter.isSome := by
  have hstop : (resizeEvents 1).foldlM busEventNotificationRead exampleDevice = .error .assertion :=
    rfl
  refine ⟨exampleDevice_initialized, inOrder_resizeEvents 1, fun h => ?_, hstop, _, rfl, rfl, rfl⟩
  obtain ⟨device, hdevice⟩ := h.runs
  rw [hstop] at hdevice
  cases hdevice

end UsbNcm.Function.UsbNcmFunctionDevice
