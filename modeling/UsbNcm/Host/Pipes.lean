import UsbNcm.Host.Lifecycle
import UsbNcm.Lib.LastMatch

/-!
# The pipes of the host driver (`host/driver.cpp`, `host/device.cpp`)

The framework makes a pipe object for each endpoint of the setting that is selected for an interface,
and deletes those of the setting before. The driver has three of the pipes in its members, from
PrepareHardware on and over low power, and selects the setting of the data interface again when it
comes back.
-/

open Exec LastMatch UsbNcm.Ntb

namespace UsbNcm.Host

/-- `WDF_USB_PIPE_TYPE` -/
inductive PipeType
  | invalid
  | control
  | isochronous
  | bulk
  | interrupt
  deriving DecidableEq, Repr

/-- What the framework says of a pipe. -/
structure PipeInformation where
  pipeType : PipeType
  isInEndpoint : Bool
  isOutEndpoint : Bool
  maximumPacketSize : UInt32
  deriving DecidableEq, Repr

structure UsbPipe where
  handle : Nat
  information : PipeInformation
  deriving DecidableEq, Repr

/-- The endpoints of the two interfaces. That of control has one setting, that of data two. -/
structure InterfaceSettings where
  control : List PipeInformation
  dataZero : List PipeInformation
  dataOne : List PipeInformation
  deriving DecidableEq, Repr

/-- What the operations outside of these functions return, in the order of their calls. -/
structure PipeOutcomes where
  targetDeviceCreate : NtStatus
  setDeviceFriendlyName : NtStatus
  retrieveInformation : NtStatus
  selectConfiguration : NtStatus
  settingZero : NtStatus
  -- SET_NTB_FORMAT and SET_NTB_INPUT_SIZE, if they are sent
  configureNtb : NtStatus
  settingOne : NtStatus
  interruptReader : NtStatus
  bulkInReader : NtStatus
  startPipe : NtStatus
  deriving DecidableEq, Repr

/-- `WDF_POWER_DEVICE_STATE`, as far as it is told apart. -/
inductive PowerState
  | d3Final
  | other
  deriving DecidableEq, Repr

/-- Where the framework is with the device. -/
inductive PnpPhase
  | added
  | prepared
  | failed
  | working
  | suspended
  deriving DecidableEq, Repr

structure HostPipes where
  controlInterface : List UsbPipe
  dataInterface : List UsbPipe
  -- how many pipe objects have been made
  objects : Nat
  -- the pipes that have a continuous reader, and those that were started and not stopped
  readers : List Nat
  running : List Nat
  controlInterruptPipe : Option Nat
  controlInterruptPipeMaxPacket : UInt32
  dataBulkInPipe : Option Nat
  dataBulkOutPipe : Option Nat
  dataBulkOutPipeMaximumPacketSize : UInt32
  phase : PnpPhase
  receiving : Bool
  transmitting : Bool
  deriving DecidableEq, Repr

inductive PipeEvent
  | prepareHardware (outcomes : PipeOutcomes) (createAdapter : NtStatus)
  | releaseHardware
  | d0Entry (previousState : PowerState) (outcomes : PipeOutcomes)
  | d0Exit
  -- the adapter's calls, with what starting the pipe returns
  | startReceive (status : NtStatus)
  | stopReceive
  | startTransmit (status : NtStatus)
  | stopTransmit
  | transmitFrames
  deriving DecidableEq, Repr

namespace HostPipes

def newHost : HostPipes where
  controlInterface := []
  dataInterface := []
  objects := 0
  readers := []
  running := []
  controlInterruptPipe := none
  controlInterruptPipeMaxPacket := 0
  dataBulkInPipe := none
  dataBulkOutPipe := none
  dataBulkOutPipeMaximumPacketSize := 0
  phase := .added
  receiving := false
  transmitting := false

/-! ## The framework -/

def createPipes : Nat → List PipeInformation → List UsbPipe
  | _, [] => []
  | n, information :: informations => ⟨n, information⟩ :: createPipes (n + 1) informations

/-- `WdfUsbInterfaceSelectSetting` for the data interface. -/
def selectData (host : HostPipes) (informations : List PipeInformation) : HostPipes :=
  { host with
    dataInterface := createPipes host.objects informations
    objects := host.objects + informations.length }

/-- `WdfUsbTargetDeviceSelectConfig` with both interfaces at setting 0. -/
def selectConfig (settings : InterfaceSettings) (host : HostPipes) : HostPipes :=
  { host with
    controlInterface := createPipes host.objects settings.control
    objects := host.objects + settings.control.length }.selectData settings.dataZero

/-- The pipe has to be one of the settings that are selected. -/
def target (host : HostPipes) : Option Nat → Except Stop Nat
  | none => .error .access
  | some handle =>
    if handle ∈ (host.controlInterface ++ host.dataInterface).map UsbPipe.handle then .ok handle
    else .error .access

/-- `WdfUsbTargetPipeConfigContinuousReader` -/
def configContinuousReader (host : HostPipes) (pipe : Option Nat) (status : NtStatus) :
    Except Stop (NtStatus × HostPipes) := do
  let handle ← host.target pipe
  if status.ntSuccess then return (.success, { host with readers := host.readers ++ [handle] })
  return (status, host)

/-! ## The driver -/

def startPipe (host : HostPipes) (pipe : Option Nat) (status : NtStatus) :
    Except Stop (NtStatus × HostPipes) := do
  let handle ← host.target pipe
  return (status, if status.ntSuccess then { host with running := host.running ++ [handle] } else host)

def stopPipe (host : HostPipes) (pipe : Option Nat) : Except Stop HostPipes := do
  let handle ← host.target pipe
  return { host with running := host.running.filter (· ≠ handle) }

def selectSetting (host : HostPipes) (settings : InterfaceSettings) (outcomes : PipeOutcomes) :
    NtStatus × HostPipes :=
  if ¬ outcomes.settingZero.ntSuccess then (outcomes.settingZero, host)
  else
    let host := host.selectData settings.dataZero
    if ¬ outcomes.configureNtb.ntSuccess then (outcomes.configureNtb, host)
    else if ¬ outcomes.settingOne.ntSuccess then (outcomes.settingOne, host)
    else (.success, host.selectData settings.dataOne)

def retrieveInterruptPipe (host : HostPipes) (outcomes : PipeOutcomes) :
    Except Stop (NtStatus × HostPipes) :=
  match host.controlInterface with
  | [pipe] =>
    let host := { host with controlInterruptPipe := some pipe.handle }
    if pipe.information.pipeType ≠ .interrupt then .ok (.deviceHardwareError, host)
    else
      { host with
        controlInterruptPipeMaxPacket :=
          pipe.information.maximumPacketSize }.configContinuousReader
            host.controlInterruptPipe outcomes.interruptReader
  | _ => .ok (.deviceHardwareError, host)

/-- The body of the loop in `RetrieveDataBulkPipes`. -/
def retrieveDataBulkPipe (host : HostPipes) (pipe : UsbPipe) : NtStatus × HostPipes :=
  if pipe.information.pipeType ≠ .bulk then (.deviceHardwareError, host)
  else if pipe.information.isInEndpoint then
    (.success, { host with dataBulkInPipe := some pipe.handle })
  else if pipe.information.isOutEndpoint then
    (.success,
      { host with
        dataBulkOutPipeMaximumPacketSize := pipe.information.maximumPacketSize
        dataBulkOutPipe := some pipe.handle })
  else (.deviceHardwareError, host)

def retrieveEach : HostPipes → List UsbPipe → NtStatus × HostPipes
  | host, [] => (.success, host)
  | host, pipe :: pipes =>
    match host.retrieveDataBulkPipe pipe with
    | (status, host) => if ¬ status.ntSuccess then (status, host) else host.retrieveEach pipes

def retrieveDataBulkPipes (host : HostPipes) (outcomes : PipeOutcomes) :
    Except Stop (NtStatus × HostPipes) :=
  if host.dataInterface.length ≠ 2 then .ok (.deviceHardwareError, host)
  else
    match host.retrieveEach host.dataInterface with
    | (status, host) =>
      if ¬ status.ntSuccess then .ok (status, host)
      else host.configContinuousReader host.dataBulkInPipe outcomes.bulkInReader

def pipesFound (host : HostPipes) : Bool :=
  host.controlInterruptPipe.isSome && host.dataBulkInPipe.isSome && host.dataBulkOutPipe.isSome

/-- The last steps of `InitializeDevice`. -/
def retrievePipes (host : HostPipes) (outcomes : PipeOutcomes) :
    Except Stop (NtStatus × HostPipes) := do
  let (status, host) ← host.retrieveInterruptPipe outcomes
  if ¬ status.ntSuccess then return (status, host)
  let (status, host) ← host.retrieveDataBulkPipes outcomes
  if ¬ status.ntSuccess then return (status, host)
  return (if host.pipesFound then .success else .deviceHardwareError, host)

def initializeDevice (host : HostPipes) (settings : InterfaceSettings) (outcomes : PipeOutcomes) :
    Except Stop (NtStatus × HostPipes) :=
  if ¬ outcomes.targetDeviceCreate.ntSuccess then .ok (outcomes.targetDeviceCreate, host)
  else if ¬ outcomes.retrieveInformation.ntSuccess then .ok (outcomes.retrieveInformation, host)
  -- what it has selected before it failed is used by nobody
  else if ¬ outcomes.selectConfiguration.ntSuccess then .ok (outcomes.selectConfiguration, host)
  else
    match (selectConfig settings host).selectSetting settings outcomes with
    | (status, host) =>
      if ¬ status.ntSuccess then .ok (status, host) else host.retrievePipes outcomes

def enterWorkingState (host : HostPipes) (settings : InterfaceSettings) (previousState : PowerState)
    (outcomes : PipeOutcomes) : Except Stop (NtStatus × HostPipes) :=
  if previousState ≠ .d3Final then
    match host.selectSetting settings outcomes with
    | (status, host) =>
      if ¬ status.ntSuccess then .ok (status, host)
      else do
        let (status, host) ← host.retrieveDataBulkPipes outcomes
        if ¬ status.ntSuccess then return (status, host)
        host.startPipe host.controlInterruptPipe outcomes.startPipe
  else host.startPipe host.controlInterruptPipe outcomes.startPipe

def leaveWorkingState (host : HostPipes) : Except Stop HostPipes :=
  host.stopPipe host.controlInterruptPipe

/-- An event that the framework does not send in this phase does nothing. -/
def step (settings : InterfaceSettings) (host : HostPipes) : PipeEvent → Except Stop HostPipes
  | .prepareHardware outcomes createAdapter =>
    if host.phase = .added then do
      let (status, host) ← host.initializeDevice settings outcomes
      return { host with
        phase := if status.ntSuccess ∧ createAdapter.ntSuccess then .prepared else .failed }
    else .ok host
  | .releaseHardware =>
    .ok (if host.phase = .prepared ∨ host.phase = .suspended ∨ host.phase = .failed then
      { host with phase := .added } else host)
  | .d0Entry previousState outcomes =>
    if (host.phase = .prepared ∧ previousState = .d3Final) ∨
        (host.phase = .suspended ∧ previousState ≠ .d3Final) then do
      let (status, host) ← host.enterWorkingState settings previousState outcomes
      return { host with phase := if status.ntSuccess then .working else .failed }
    else .ok host
  | .d0Exit =>
    if host.phase = .working ∧ host.receiving = false ∧ host.transmitting = false then do
      let host ← host.leaveWorkingState
      return { host with phase := .suspended }
    else .ok host
  | .startReceive status =>
    if host.phase = .working ∧ host.receiving = false then do
      let (_, host) ← host.startPipe host.dataBulkInPipe status
      return { host with receiving := true }
    else .ok host
  | .stopReceive =>
    if host.receiving then do
      let host ← host.stopPipe host.dataBulkInPipe
      return { host with receiving := false }
    else .ok host
  | .startTransmit status =>
    if host.phase = .working ∧ host.transmitting = false then do
      let (_, host) ← host.startPipe host.dataBulkOutPipe status
      return { host with transmitting := true }
    else .ok host
  | .stopTransmit =>
    if host.transmitting then do
      let host ← host.stopPipe host.dataBulkOutPipe
      return { host with transmitting := false }
    else .ok host
  | .transmitFrames =>
    if host.transmitting then do
      let _ ← host.target host.dataBulkOutPipe
      return host
    else .ok host

end HostPipes

end UsbNcm.Host
