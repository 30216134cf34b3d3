import UsbNcm.Function.AdapterState
import UsbNcm.Lib.Ledger

/-!
# The function driver over starts and stops (`function/driver.cpp`)

PrepareHardware registers the device with the class library, and ReleaseHardware takes that back. The
framework calls ReleaseHardware also behind a PrepareHardware that failed. Bus events come while they
are subscribed.
-/

open Exec Ledger UsbNcm.Ntb

namespace UsbNcm.Function

/-- Where the framework is with the device. -/
inductive FunctionPhase
  | added
  | prepared
  -- SelfManagedIoInit or SelfManagedIoRestart has returned
  | subscribed
  | suspended
  | failed
  deriving DecidableEq, Repr

structure FunctionPnp where
  device : UsbNcmFunctionDevice
  phase : FunctionPhase
  -- m_UsbFnClassLibHandle
  usbFnClassLibHandle : Option Nat
  -- how many handles the class library has given out
  handles : Nat
  -- the registrations and what was unregistered
  registrations : List (Entry Nat)

inductive FunctionPnpEvent
  | prepareHardware (outcomes : UsbNcmFunctionDevice.InitializeOutcomes)
  | releaseHardware
  -- what DMF_ContinuousRequestTarget_Start returns
  | selfManagedIoInitAndRestart (status : NtStatus)
  | selfManagedIoSuspend
  | busEventNotificationRead (notification : Notification)

namespace FunctionPnp

def added : FunctionPnp where
  device := UsbNcmFunctionDevice.newDevice
  phase := .added
  usbFnClassLibHandle := none
  handles := 0
  registrations := []

/-- `UsbFnKmClassLibRegisterClassDevice`. Where it fails, the handle stays what it was. -/
def registerClassDevice (pnp : FunctionPnp) (status : NtStatus) : FunctionPnp :=
  if status.ntSuccess then
    { pnp with
      usbFnClassLibHandle := some pnp.handles
      handles := pnp.handles + 1
      registrations := pnp.registrations ++ [.take pnp.handles] }
  else pnp

/-- `InitializeDevice` -/
def prepareHardware (pnp : FunctionPnp) (outcomes : UsbNcmFunctionDevice.InitializeOutcomes) :
    Except Stop FunctionPnp := do
  let (status, device) ← pnp.device.initializeDevice outcomes
  return { pnp.registerClassDevice outcomes.registerClassDevice with
    device := device
    phase := if status.ntSuccess then .prepared else .failed }

/-- `UnInitializeDevice`. The handle stays in its member, and the adapter with the device. -/
def releaseHardware (pnp : FunctionPnp) : Except Stop FunctionPnp :=
  match pnp.usbFnClassLibHandle with
  | none => .error .access
  | some handle =>
    .ok { pnp with phase := .added, registrations := pnp.registrations ++ [.give handle] }

/-- An event that the framework does not send in this phase does nothing. -/
def step (pnp : FunctionPnp) : FunctionPnpEvent → Except Stop FunctionPnp
  | .prepareHardware outcomes =>
    if pnp.phase = .added then pnp.prepareHardware outcomes else .ok pnp
  | .releaseHardware =>
    if pnp.phase = .prepared ∨ pnp.phase = .suspended ∨ pnp.phase = .failed then pnp.releaseHardware
    else .ok pnp
  | .selfManagedIoInitAndRestart status =>
    .ok (if pnp.phase = .prepared ∨ pnp.phase = .suspended then
      { pnp with phase := if status.ntSuccess then .subscribed else .failed } else pnp)
  | .selfManagedIoSuspend =>
    .ok (if pnp.phase = .subscribed then { pnp with phase := .suspended } else pnp)
  | .busEventNotificationRead notification =>
    if pnp.phase = .subscribed then do
      let device ← pnp.device.busEventNotificationRead notification
      return { pnp with device := device }
    else .ok pnp

open UsbNcmFunctionDevice

variable {pnp pnp' : FunctionPnp}

/-! ## What holds over the cycles -/

/-- Outside of a cycle nothing is registered. In one there is one registration, and its handle is the
one that is used and that will be unregistered. -/
def Registered (pnp : FunctionPnp) : Prop :=
  if pnp.phase = .added then Kept pnp.registrations []
  else ∃ handle, pnp.usbFnClassLibHandle = some handle ∧ Kept pnp.registrations [handle]

structure Sound (pnp : FunctionPnp) : Prop where
  registered : Registered pnp
  consistent : Consistent pnp.device

/-- An event leaves the registration in order, an adapter only at alternate setting 1, and no adapter
when it selects alternate setting 0. -/
def InStep (pnp : FunctionPnp) (event : FunctionPnpEvent) (pnp' : FunctionPnp) : Prop :=
  Registered pnp' ∧ AdapterAtOne pnp'.device ∧
    ∀ notification, event = .busEventNotificationRead notification → pnp.phase = .subscribed →
      KeepsInStep pnp.device notification pnp'.device

/-- The registration does not fail, and a bus event that has been read is in order and harmless. -/
def Fine (pnp : FunctionPnp) : FunctionPnpEvent → Prop
  | .prepareHardware outcomes => pnp.phase = .added → outcomes.registerClassDevice.ntSuccess
  | .busEventNotificationRead notification =>
    pnp.phase = .subscribed → notification.completionStatus.ntSuccess →
      InOrder pnp.device notification ∧ Harmless pnp.device notification
  | _ => True

theorem added_sound : Sound added := ⟨Kept.nil, consistent_of_none rfl⟩

/-- Initialising the device again does not touch an adapter that it has. -/
theorem initializeDevice_sameAdapter (device : UsbNcmFunctionDevice)
    (outcomes : UsbNcmFunctionDevice.InitializeOutcomes) :
    ∃ status device', device.initializeDevice outcomes = .ok (status, device') ∧
      SameAdapter device device' := by
  unfold initializeDevice
  obtain ⟨status, c, d, e, i, bi, bo, hcache, -⟩ :=
    cacheClassInformation_ok device outcomes.classInformation
  have hrecached : SameAdapter device (device.recached c d e i bi bo) := ⟨rfl, rfl, rfl⟩
  have hset : SameAdapter device { (device.recached c d e i bi bo).setParameters with
      cdcMacAddress := outcomes.cdcMacAddress } := ⟨rfl, rfl, rfl⟩
  simp only [hcache, ok_bind]
  split
  next => exact ⟨_, _, rfl, .refl device⟩
  next =>
    split
    next => exact ⟨_, _, rfl, hrecached⟩
    next =>
      split
      next => exact ⟨_, _, rfl, hset⟩
      next =>
        split
        next => exact ⟨_, _, rfl, hset⟩
        next => exact ⟨_, _, rfl, hset⟩

theorem consistent_of_sameAdapter {device device' : UsbNcmFunctionDevice} (h : Consistent device)
    (hsame : SameAdapter device device') : Consistent device' := by
  constructor
  · unfold AdapterAtOne
    rw [hsame.netAdapter, hsame.alternateInterfaceNumber]
    exact h.adapterAtOne
  · rw [hsame.netAdapter, hsame.ncmAdapterCallbacks]
    exact h.callbacks

/-! ## One event -/

/-- The event is as it should be, and what holds over the cycles holds behind it. -/
def Keeps (pnp : FunctionPnp) (event : FunctionPnpEvent) : Prop :=
  ∃ pnp', pnp.step event = .ok pnp' ∧ InStep pnp event pnp' ∧ Sound pnp'

/-- The event stops the driver, or leaves it out of step. -/
def Breaks (pnp : FunctionPnp) (event : FunctionPnpEvent) : Prop :=
  ∀ pnp', pnp.step event = .ok pnp' → ¬ InStep pnp event pnp'

/-- An event other than a bus event that is read. -/
theorem keeps_of_sound {event : FunctionPnpEvent} (hstep : pnp.step event = .ok pnp')
    (h : Sound pnp') (hevent : ∀ notification, event = .busEventNotificationRead notification →
      pnp.phase ≠ .subscribed) : Keeps pnp event :=
  ⟨pnp', hstep, ⟨h.registered, h.consistent.adapterAtOne,
    fun notification heq hphase => absurd hphase (hevent notification heq)⟩, h⟩

theorem prepareHardware_spec (h : Sound pnp) (outcomes : UsbNcmFunctionDevice.InitializeOutcomes)
    (hphase : pnp.phase = .added) :
    (outcomes.registerClassDevice.ntSuccess ∧ Keeps pnp (.prepareHardware outcomes)) ∨
      (¬ outcomes.registerClassDevice.ntSuccess ∧ Breaks pnp (.prepareHardware outcomes)) := by
  obtain ⟨status, device', hcall, hsame⟩ := initializeDevice_sameAdapter pnp.device outcomes
  have hstep : pnp.step (.prepareHardware outcomes) = .ok
      { pnp.registerClassDevice outcomes.registerClassDevice with
        device := device'
        phase := if status.ntSuccess then .prepared else .failed } := by
    unfold step prepareHardware
    dsimp only
    rw [if_pos hphase, hcall]
    rfl
  have hkept : Kept pnp.registrations [] := by
    have hregistered := h.registered
    unfold Registered at hregistered
    rwa [if_pos hphase] at hregistered
  have hnot : (if status.ntSuccess then FunctionPhase.prepared else .failed) ≠ .added := by
    split <;> nofun
  by_cases hregister : outcomes.registerClassDevice.ntSuccess = true
  · refine Or.inl ⟨hregister, keeps_of_sound hstep ⟨?_, consistent_of_sameAdapter h.consistent hsame⟩
      fun _ heq => nomatch heq⟩
    unfold Registered registerClassDevice
    dsimp only
    rw [if_neg hnot, if_pos hregister]
    exact ⟨pnp.handles, rfl, hkept.take List.not_mem_nil⟩
  · refine Or.inr ⟨hregister, fun pnp' hok hinStep => ?_⟩
    rw [hstep] at hok
    cases hok
    have hregistered := hinStep.1
    unfold Registered registerClassDevice at hregistered
    dsimp only at hregistered
    rw [if_neg hnot, if_neg hregister] at hregistered
    obtain ⟨handle, -, hkept'⟩ := hregistered
    exact absurd (hkept'.nil_iff.mp hkept) (List.cons_ne_nil _ _)

theorem releaseHardware_keeps (h : Sound pnp) : Keeps pnp .releaseHardware := by
  by_cases hphase : pnp.phase = .prepared ∨ pnp.phase = .suspended ∨ pnp.phase = .failed
  · have hnot : pnp.phase ≠ .added := by
      intro hadded
      rw [hadded] at hphase
      rcases hphase with h | h | h <;> cases h
    have hregistered := h.registered
    unfold Registered at hregistered
    rw [if_neg hnot] at hregistered
    obtain ⟨handle, hhandle, hkept⟩ := hregistered
    have hstep : pnp.step .releaseHardware = .ok
        { pnp with phase := .added, registrations := pnp.registrations ++ [.give handle] } := by
      unfold step releaseHardware
      dsimp only
      rw [if_pos hphase, hhandle]
    exact keeps_of_sound hstep ⟨hkept.give, h.consistent⟩ fun _ heq => nomatch heq
  · exact keeps_of_sound (if_neg hphase) h fun _ heq => nomatch heq

/-- A phase of the same cycle. -/
theorem Sound.withPhase (h : Sound pnp) (hnot : pnp.phase ≠ .added) {phase : FunctionPhase}
    (hnot' : phase ≠ .added) : Sound { pnp with phase := phase } := by
  refine ⟨?_, h.consistent⟩
  have hregistered := h.registered
  unfold Registered at hregistered ⊢
  rw [if_neg hnot] at hregistered
  rwa [if_neg hnot']

theorem selfManagedIoInitAndRestart_keeps (h : Sound pnp) (status : NtStatus) :
    Keeps pnp (.selfManagedIoInitAndRestart status) := by
  refine keeps_of_sound rfl ?_ fun _ heq => nomatch heq
  split
  next hphase =>
    apply h.withPhase
    · rcases hphase with h | h <;> rw [h] <;> nofun
    · split <;> nofun
  next => exact h

theorem selfManagedIoSuspend_keeps (h : Sound pnp) : Keeps pnp .selfManagedIoSuspend := by
  refine keeps_of_sound rfl ?_ fun _ heq => nomatch heq
  split
  next hphase => exact h.withPhase (by rw [hphase]; nofun) nofun
  next => exact h

theorem not_inOrder_stops {device : UsbNcmFunctionDevice} {notification : Notification}
    (hstatus : notification.completionStatus.ntSuccess = true) (h : ¬ InOrder device notification) :
    device.busEventNotificationRead notification = .error .assertion := by
  unfold busEventNotificationRead
  rw [if_pos hstatus]
  unfold InOrder at h
  split at h
  next setupPacket hevent =>
    rw [hevent]
    dsimp only
    unfold processSetupPacket
    rw [if_pos h]
    rfl
  next hevent =>
    rw [hevent]
    dsimp only
    unfold setInterface
    rw [if_pos h]
    rfl
  next => exact absurd trivial h

theorem busEvent_spec (h : Sound pnp) (notification : Notification) :
    (Fine pnp (.busEventNotificationRead notification) ∧
        Keeps pnp (.busEventNotificationRead notification)) ∨
      (¬ Fine pnp (.busEventNotificationRead notification) ∧
        Breaks pnp (.busEventNotificationRead notification)) := by
  by_cases hphase : pnp.phase = .subscribed
  swap
  · exact Or.inl ⟨fun hsubscribed => absurd hsubscribed hphase,
      keeps_of_sound (if_neg hphase) h fun _ _ => hphase⟩
  have hstep : pnp.step (.busEventNotificationRead notification) =
      (pnp.device.busEventNotificationRead notification).map fun device =>
        { pnp with device := device } := if_pos hphase
  have hkeeps : ∀ {device' : UsbNcmFunctionDevice},
      pnp.device.busEventNotificationRead notification = .ok device' →
      KeepsInStep pnp.device notification device' → Consistent device' →
        Keeps pnp (.busEventNotificationRead notification) := by
    intro device' hread hinStep hconsistent
    rw [hread] at hstep
    refine ⟨_, hstep, ⟨h.registered, hconsistent.adapterAtOne, ?_⟩, h.registered, hconsistent⟩
    rintro notification' heq -
    cases heq
    exact hinStep
  have hbreaks : (∀ device', pnp.device.busEventNotificationRead notification = .ok device' →
      ¬ AdapterAtOne device') → Breaks pnp (.busEventNotificationRead notification) := by
    intro hall pnp' hok hinStep
    rw [hstep] at hok
    cases hread : pnp.device.busEventNotificationRead notification with
    | error stop =>
      rw [hread] at hok
      cases hok
    | ok device' =>
      rw [hread] at hok
      cases hok
      exact hall device' hread hinStep.2.1
  by_cases hstatus : notification.completionStatus.ntSuccess = true
  swap
  · refine Or.inl ⟨fun _ hsuccess => absurd hsuccess hstatus, hkeeps (if_neg hstatus) ?_ h.consistent⟩
    exact ⟨h.consistent.adapterAtOne, fun _ hsuccess => absurd hsuccess hstatus⟩
  by_cases horder : InOrder pnp.device notification
  · rcases busEventNotificationRead_spec h.consistent horder with
      ⟨hharmless, device', hread, hinStep, hconsistent⟩ | ⟨hnot, device', hread, hbad⟩
    · exact Or.inl ⟨fun _ _ => ⟨horder, hharmless⟩, hkeeps hread hinStep hconsistent⟩
    · refine Or.inr ⟨fun hfine => hnot (hfine hphase hstatus).2, hbreaks fun device'' hread' => ?_⟩
      rw [hread] at hread'
      cases hread'
      exact hbad
  · refine Or.inr ⟨fun hfine => horder (hfine hphase hstatus).1, hbreaks fun device' hread => ?_⟩
    rw [not_inOrder_stops hstatus horder] at hread
    cases hread

theorem step_spec (h : Sound pnp) (event : FunctionPnpEvent) :
    (Fine pnp event ∧ Keeps pnp event) ∨ (¬ Fine pnp event ∧ Breaks pnp event) := by
  cases event with
  | prepareHardware outcomes =>
    by_cases hphase : pnp.phase = .added
    · rcases prepareHardware_spec h outcomes hphase with ⟨hregister, hkeeps⟩ | ⟨hnot, hbreaks⟩
      · exact Or.inl ⟨fun _ => hregister, hkeeps⟩
      · exact Or.inr ⟨fun hfine => hnot (hfine hphase), hbreaks⟩
    · exact Or.inl ⟨fun hadded => absurd hadded hphase, keeps_of_sound (if_neg hphase) h fun _ heq => nomatch heq⟩
  | releaseHardware => exact Or.inl ⟨trivial, releaseHardware_keeps h⟩
  | selfManagedIoInitAndRestart status =>
    exact Or.inl ⟨trivial, selfManagedIoInitAndRestart_keeps h status⟩
  | selfManagedIoSuspend => exact Or.inl ⟨trivial, selfManagedIoSuspend_keeps h⟩
  | busEventNotificationRead notification => exact busEvent_spec h notification

/-! ## Runs -/

/-- Over any number of starts, suspends, restarts and stops, and all bus events in between: each
registration with the class library is unregistered once, the handle in the member is always the one
that is registered, and the adapter and the alternate setting stay in step, also from one start to the
next, exactly when no registration fails and each bus event that is read is in order and harmless. -/
theorem throughout_inStep_iff (events : List FunctionPnpEvent) :
    Throughout step InStep added events ↔ AllSteps step Fine added events := by
  apply throughout_iff Sound (fun _ _ => True)
  · intro pnp event h _
    rcases step_spec h event with ⟨hfine, pnp', hstep, hinStep, -⟩ | ⟨hnot, hbreaks⟩
    · exact iff_of_true hfine ⟨pnp', hstep, hinStep⟩
    · exact iff_of_false hnot fun ⟨pnp', hstep, hinStep⟩ => hbreaks pnp' hstep hinStep
  · intro pnp event pnp' h _ hstep hinStep
    rcases step_spec h event with ⟨-, pnp'', hstep', -, hsound⟩ | ⟨-, hbreaks⟩
    · rw [hstep] at hstep'
      cases hstep'
      exact hsound
    · exact absurd hinStep (hbreaks pnp' hstep)
  · exact added_sound
  · exact allSteps_of_forall (fun _ _ => trivial) added events

/-- Where the first registration fails, ReleaseHardware has no handle. -/
example : [FunctionPnpEvent.prepareHardware { exampleInitialize with registerClassDevice := .unsuccessful },
    .releaseHardware].foldlM step added = .error .access := rfl

end FunctionPnp

end UsbNcm.Function
