import UsbNcm.Lib.Run
import UsbNcm.Ntb.Format

/-!
# The life of the host's adapters (`host/driver.cpp`, `host/device.cpp`)

PrepareHardware creates an adapter and ReleaseHardware destroys it. The framework calls them in pairs,
and ReleaseHardware also behind a PrepareHardware that failed.
-/

open Exec UsbNcm.Ntb

namespace UsbNcm.Host

structure InitializeOutcomes where
  targetDeviceCreate : NtStatus
  setDeviceFriendlyName : NtStatus
  retrieveInformation : NtStatus
  selectConfiguration : NtStatus
  selectSetting : NtStatus
  retrieveInterruptPipe : NtStatus
  retrieveDataBulkPipes : NtStatus
  -- all of the three pipes are there
  pipesFound : Bool
  deriving DecidableEq, Repr

/-- What `NetAdapterCreate` and `NetAdapterStart` return in `UsbNcmAdapterCreate`. The step between
them does not fail. -/
structure AdapterOutcomes where
  netAdapterCreate : NtStatus
  netAdapterStart : NtStatus
  deriving DecidableEq, Repr

/-- A call on a NETADAPTER object. Objects are numbered in the order in which they are created. -/
inductive AdapterCall
  | created (netAdapter : Nat)
  | stopped (netAdapter : Nat)
  | deleted (netAdapter : Nat)
  deriving DecidableEq, Repr

structure UsbNcmHostDevice where
  netAdapter : Option Nat
  -- how many objects have been created
  netAdapters : Nat
  log : List AdapterCall
  deriving DecidableEq, Repr

/-- A PrepareHardware and the ReleaseHardware behind it. -/
structure HardwareCycle where
  initializeOutcomes : InitializeOutcomes
  adapterOutcomes : AdapterOutcomes
  deriving DecidableEq, Repr

namespace UsbNcmHostDevice

def newDevice : UsbNcmHostDevice where
  netAdapter := none
  netAdapters := 0
  log := []

/-- The friendly name may fail. -/
def initializeDevice (outcomes : InitializeOutcomes) : NtStatus :=
  if ¬ outcomes.targetDeviceCreate.ntSuccess then outcomes.targetDeviceCreate
  else if ¬ outcomes.retrieveInformation.ntSuccess then outcomes.retrieveInformation
  else if ¬ outcomes.selectConfiguration.ntSuccess then outcomes.selectConfiguration
  else if ¬ outcomes.selectSetting.ntSuccess then outcomes.selectSetting
  else if ¬ outcomes.retrieveInterruptPipe.ntSuccess then outcomes.retrieveInterruptPipe
  else if ¬ outcomes.retrieveDataBulkPipes.ntSuccess then outcomes.retrieveDataBulkPipes
  else if ¬ outcomes.pipesFound then .deviceHardwareError
  else .success

def usbNcmAdapterCreate (device : UsbNcmHostDevice) (outcomes : AdapterOutcomes) :
    NtStatus × UsbNcmHostDevice :=
  -- *netAdapter = WDF_NO_HANDLE
  let device := { device with netAdapter := none }
  if ¬ outcomes.netAdapterCreate.ntSuccess then (outcomes.netAdapterCreate, device)
  else
    let device :=
      { netAdapter := some device.netAdapters
        netAdapters := device.netAdapters + 1
        log := device.log ++ [.created device.netAdapters] }
    if ¬ outcomes.netAdapterStart.ntSuccess then (outcomes.netAdapterStart, device)
    else (.success, device)

def usbNcmAdapterDestory (device : UsbNcmHostDevice) (netAdapter : Nat) :
    Except Stop UsbNcmHostDevice :=
  -- nothing may be done with an object that has been deleted
  if .deleted netAdapter ∈ device.log then .error .access
  else .ok { device with log := device.log ++ [.stopped netAdapter, .deleted netAdapter] }

/-- The handle stays in m_NetAdapter. -/
def destroyAdapter (device : UsbNcmHostDevice) : Except Stop UsbNcmHostDevice :=
  match device.netAdapter with
  | none => .ok device
  | some netAdapter => device.usbNcmAdapterDestory netAdapter

def prepareHardware (device : UsbNcmHostDevice) (cycle : HardwareCycle) :
    NtStatus × UsbNcmHostDevice :=
  let status := initializeDevice cycle.initializeOutcomes
  if ¬ status.ntSuccess then (status, device) else device.usbNcmAdapterCreate cycle.adapterOutcomes

def step (device : UsbNcmHostDevice) (cycle : HardwareCycle) : Except Stop UsbNcmHostDevice :=
  (device.prepareHardware cycle).2.destroyAdapter

/-! ## Each object once -/

variable {device device' : UsbNcmHostDevice} {cycle : HardwareCycle}

def EachOnce (device : UsbNcmHostDevice) : Prop :=
  ∀ netAdapter, device.log.count (.stopped netAdapter) = device.log.count (.created netAdapter) ∧
    device.log.count (.deleted netAdapter) = device.log.count (.created netAdapter) ∧
    device.log.count (.created netAdapter) = if netAdapter < device.netAdapters then 1 else 0

/-- `InitializeDevice` fails only while there is no handle. -/
def FailsEarly (device : UsbNcmHostDevice) (cycle : HardwareCycle) : Prop :=
  (initializeDevice cycle.initializeOutcomes).ntSuccess = false → device.netAdapter = none

/-- Between the pairs every object is gone, the one with it that m_NetAdapter still names. -/
structure Released (device : UsbNcmHostDevice) : Prop where
  eachOnce : EachOnce device
  deleted : ∀ netAdapter ∈ device.netAdapter, .deleted netAdapter ∈ device.log

theorem newDevice_released : Released newDevice := ⟨fun _ => ⟨rfl, rfl, rfl⟩, nofun⟩

theorem EachOnce.not_deleted (h : EachOnce device) : .deleted device.netAdapters ∉ device.log := by
  obtain ⟨-, hdeleted, hcreated⟩ := h device.netAdapters
  rw [if_neg (Nat.lt_irrefl _)] at hcreated
  apply List.count_eq_zero.mp
  omega

theorem EachOnce.created (h : EachOnce device) :
    EachOnce
      { netAdapter := some device.netAdapters
        netAdapters := device.netAdapters + 1
        log := device.log ++ [.created device.netAdapters] ++
          [.stopped device.netAdapters, .deleted device.netAdapters] } := by
  intro netAdapter
  obtain ⟨hstopped, hdeleted, hcreated⟩ := h netAdapter
  by_cases heq : netAdapter = device.netAdapters
  · subst heq
    simp [List.count_append] at hstopped hdeleted hcreated ⊢
    omega
  · have hne := Ne.symm heq
    have hlt : netAdapter < device.netAdapters + 1 ↔ netAdapter < device.netAdapters := by omega
    simp [List.count_append, hne, hlt] at hstopped hdeleted hcreated ⊢
    omega

/-! ## One pair -/

theorem step_of_failed (h : (initializeDevice cycle.initializeOutcomes).ntSuccess = false) :
    device.step cycle = device.destroyAdapter := by
  unfold step prepareHardware
  simp [h]

theorem step_of_notCreated (h : (initializeDevice cycle.initializeOutcomes).ntSuccess = true)
    (hcreate : cycle.adapterOutcomes.netAdapterCreate.ntSuccess = false) :
    device.step cycle = .ok { device with netAdapter := none } := by
  unfold step prepareHardware usbNcmAdapterCreate
  simp only [h, hcreate]
  rfl

theorem step_of_created (hdevice : EachOnce device)
    (h : (initializeDevice cycle.initializeOutcomes).ntSuccess = true)
    (hcreate : cycle.adapterOutcomes.netAdapterCreate.ntSuccess = true) :
    device.step cycle = .ok
      { netAdapter := some device.netAdapters
        netAdapters := device.netAdapters + 1
        log := device.log ++ [.created device.netAdapters] ++
          [.stopped device.netAdapters, .deleted device.netAdapters] } := by
  have hnot : .deleted device.netAdapters ∉ device.log ++ [.created device.netAdapters] := by
    simpa using hdevice.not_deleted
  unfold step prepareHardware usbNcmAdapterCreate
  simp only [h, hcreate]
  cases cycle.adapterOutcomes.netAdapterStart.ntSuccess <;> exact if_neg hnot

theorem step_released (h : Released device) (hearly : FailsEarly device cycle) :
    ∃ device', device.step cycle = .ok device' ∧ Released device' := by
  by_cases hinitialize : (initializeDevice cycle.initializeOutcomes).ntSuccess = true
  · by_cases hcreate : cycle.adapterOutcomes.netAdapterCreate.ntSuccess = true
    · refine ⟨_, step_of_created h.eachOnce hinitialize hcreate, h.eachOnce.created, ?_⟩
      rintro netAdapter ⟨⟩
      simp
    · exact ⟨_, step_of_notCreated hinitialize (Bool.eq_false_iff.mpr hcreate), h.eachOnce, nofun⟩
  · have hfailed := Bool.eq_false_iff.mpr hinitialize
    refine ⟨device, ?_, h⟩
    rw [step_of_failed hfailed, destroyAdapter, hearly hfailed]

theorem step_of_late (h : Released device) (hlate : ¬ FailsEarly device cycle) :
    device.step cycle = .error .access := by
  unfold FailsEarly at hlate
  rw [Classical.not_imp] at hlate
  obtain ⟨hfailed, hsome⟩ := hlate
  obtain ⟨netAdapter, hnetAdapter⟩ := Option.ne_none_iff_exists'.mp hsome
  rw [step_of_failed hfailed, destroyAdapter, hnetAdapter]
  exact if_pos (h.deleted netAdapter hnetAdapter)

theorem step_eachOnce_iff (h : Released device) (cycle : HardwareCycle) :
    FailsEarly device cycle ↔ ∃ device', device.step cycle = .ok device' ∧ EachOnce device' := by
  constructor
  · intro hearly
    obtain ⟨device', hstep, hreleased⟩ := step_released h hearly
    exact ⟨device', hstep, hreleased.eachOnce⟩
  · rintro ⟨device', hstep, -⟩
    by_contra hlate
    rw [step_of_late h hlate] at hstep
    cases hstep

/-! ## Any number of pairs -/

/-- For every sequence of pairs, each of which may fail anywhere: no handle is destroyed after it was
deleted, and behind each pair every object that was created has been stopped and deleted once, exactly
when `InitializeDevice` never fails with a handle in m_NetAdapter. -/
theorem throughout_eachOnce_iff (cycles : List HardwareCycle) :
    Throughout step (fun _ _ device => EachOnce device) newDevice cycles ↔
      AllSteps step FailsEarly newDevice cycles := by
  apply throughout_iff Released (fun _ _ => True)
  · exact fun device cycle h _ => step_eachOnce_iff h cycle
  · intro device cycle device' h _ hstep heachOnce
    have hearly := (step_eachOnce_iff h cycle).mpr ⟨device', hstep, heachOnce⟩
    obtain ⟨device1, hstep1, h1⟩ := step_released h hearly
    rw [hstep] at hstep1
    cases hstep1
    exact h1
  · exact newDevice_released
  · exact allSteps_of_forall (fun _ _ => trivial) newDevice cycles

def successfulCycle : HardwareCycle :=
  ⟨⟨.success, .success, .success, .success, .success, .success, .success, true⟩, ⟨.success, .success⟩⟩

def failedCycle : HardwareCycle :=
  ⟨⟨.success, .success, .success, .unsuccessful, .success, .success, .success, true⟩,
    ⟨.success, .success⟩⟩

theorem destroyed_twice :
    [successfulCycle, failedCycle].foldlM step newDevice = .error .access ∧
      ¬ Throughout step (fun _ _ device => EachOnce device) newDevice
        [successfulCycle, failedCycle] := by
  have herror : [successfulCycle, failedCycle].foldlM step newDevice = .error .access := by rfl
  refine ⟨herror, fun h => ?_⟩
  obtain ⟨device', hrun⟩ := h.runs
  rw [herror] at hrun
  cases hrun

end UsbNcmHostDevice

end UsbNcm.Host
