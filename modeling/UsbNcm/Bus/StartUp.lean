import UsbNcm.Function.Device
import UsbNcm.Host.Parameters

/-!
# The host driver and the function driver on one bus

The host sends its requests one after the other (`SelectConfiguration` and `SelectSetting` in
`host/device.cpp`), and the function handles them. Signals of the bus come in between.
-/

open Exec UsbNcm.Ntb UsbNcm.Host UsbNcm.Function

namespace UsbNcm.Bus

/-- What the bus tells the function driver on its own, not for a request of the host. -/
inductive BusSignal
  | attach (busSpeed : UsbFnBusSpeed)
  | suspend
  | resume
  | unConfigured
  | detach
  | reset (busSpeed : UsbFnBusSpeed)
  deriving DecidableEq, Repr

def BusSignal.event : BusSignal → UsbFnEvent
  | .attach busSpeed => .attach busSpeed
  | .suspend => .suspend
  | .resume => .resume
  | .unConfigured => .unConfigured
  | .detach => .detach
  | .reset busSpeed => .reset busSpeed

def BusSignal.aborts : BusSignal → Bool
  | .unConfigured | .detach | .reset _ => true
  | .attach _ | .suspend | .resume => false

inductive HostTask
  | idle
  | getNtbParameters
  | selectZero
  | setNtbFormat
  | setNtbInputSize
  | selectOne
  deriving DecidableEq, Repr

structure System where
  host : HostConfiguration
  -- of m_ControlInterface
  controlInterfaceNumber : UInt8
  dataInterfaceNumber : UInt8
  task : HostTask
  -- SelectConfiguration has returned success
  selectedConfiguration : Bool
  -- SelectSetting has returned success
  selectedSetting : Bool
  function : UsbNcmFunctionDevice
  -- the BufferOutputSize of the bulk OUT reader of the function
  bufferOutputSize : UInt32

/-- The function driver has been initialised, and the host driver has not done anything. -/
def startedSystem (host : HostConfiguration) (controlInterfaceNumber dataInterfaceNumber : UInt8)
    (function : UsbNcmFunctionDevice) : System where
  host := host
  controlInterfaceNumber := controlInterfaceNumber
  dataInterfaceNumber := dataInterfaceNumber
  task := .idle
  selectedConfiguration := false
  selectedSetting := false
  function := function
  bufferOutputSize := function.ntbParamters.dwNtbOutMaxSize

inductive SystemEvent
  -- SelectConfiguration begins: whether the function is configured, and whether the host learns it
  | selectConfiguration (configured acknowledged : Bool) (outcomes : Outcomes)
  -- SelectSetting begins, at a resume
  | enterWorkingState
  -- the next request gets to the function, and the host learns that it succeeded or it does not
  | request (acknowledged : Bool) (outcomes : Outcomes)
  -- the next request fails, or the host gives up
  | abort
  | signal (signal : BusSignal) (completionStatus : NtStatus) (outcomes : Outcomes)

namespace HostTask

/-- The rest of `SelectSetting` from the test of the input size on. -/
def afterNtbFormat (host : HostConfiguration) : HostTask :=
  if host.hostSelectedNtbInMaxSize < host.ntbParamters.dwNtbInMaxSize then .setNtbInputSize
  else .selectOne

def next (task : HostTask) (host : HostConfiguration) : HostTask :=
  match task with
  | .idle => .idle
  | .getNtbParameters => .selectZero
  | .selectZero => if host.use32BitNtb then .setNtbFormat else afterNtbFormat host
  | .setNtbFormat => afterNtbFormat host
  | .setNtbInputSize => .selectOne
  | .selectOne => .idle

end HostTask

namespace System

def requestEvent (system : System) : Option UsbFnEvent :=
  let wIndex := system.controlInterfaceNumber.toUInt16
  let dataInterface := system.dataInterfaceNumber.toUInt16
  match system.task with
  | .idle => none
  | .getNtbParameters => some (.setupPacket ⟨0x80, 0, wIndex, 0x1C⟩)
  | .selectZero => some (.setInterface dataInterface 0)
  | .setNtbFormat => some (.setupPacket ⟨0x84, 1, wIndex, 0⟩)
  | .setNtbInputSize => some (.setupPacket ⟨0x86, 0, wIndex, 4⟩)
  | .selectOne => some (.setInterface dataInterface 1)

def actions (before after : UsbNcmFunctionDevice) : List DeviceAction :=
  after.log.drop before.log.length

def ntbParametersOf : List DeviceAction → Option NtbParameters
  | [] => none
  | .wroteToEndPoint0 (.ntbParameters ntbParamters) :: _ => some ntbParamters
  | _ :: rest => ntbParametersOf rest

/-- The host goes on behind a request that succeeded. -/
def succeed (system : System) (answer : List DeviceAction) : System :=
  match system.task with
  | .getNtbParameters =>
    match ntbParametersOf answer with
    | none => { system with task := .idle }
    | some ntbParamters =>
      let (status, host) := selectNtbParameters system.host ntbParamters
      { system with
        host := host
        selectedConfiguration := status.ntSuccess
        task := if status.ntSuccess then system.task.next host else .idle }
  | .selectOne => { system with task := .idle, selectedSetting := true }
  | task => { system with task := task.next system.host }

/-- The request is handled by the function. A failed request leaves the host as it was: what a failed
GET_NTB_PARAMETERS has left in m_NtbParamters is written again before it is used. -/
def deliver (system : System) (event : UsbFnEvent) (acknowledged : Bool) (outcomes : Outcomes) :
    Except Stop System := do
  let outcomes :=
    { outcomes with
      readEndPoint0 := outcomes.readEndPoint0.map fun _ => system.host.hostSelectedNtbInMaxSize }
  let function ← system.function.busEventNotificationRead ⟨.success, event, outcomes⟩
  let answer := actions system.function function
  let system := { system with function := function }
  return if acknowledged ∧ .stalledEndPoint0 ∉ answer then system.succeed answer
    else { system with task := .idle }

def step (system : System) : SystemEvent → Except Stop System
  | .selectConfiguration configured acknowledged outcomes => do
    let system := { system with selectedConfiguration := false, task := .idle }
    if configured then
      let function ← system.function.busEventNotificationRead ⟨.success, .configured, outcomes⟩
      return { system with
        function := function
        task := if acknowledged then .getNtbParameters else .idle }
    else return system
  | .enterWorkingState =>
    -- the framework calls EvtDeviceD0Entry only when EvtDevicePrepareHardware has succeeded
    .ok (if system.selectedConfiguration then { system with task := .selectZero } else system)
  | .request acknowledged outcomes =>
    match system.requestEvent with
    | none => .ok system
    | some event =>
      -- a function that is not configured does not get requests
      if system.function.state = .configured then system.deliver event acknowledged outcomes
      else .ok { system with task := .idle }
  | .abort => .ok { system with task := .idle }
  | .signal signal completionStatus outcomes => do
    let function ← system.function.busEventNotificationRead
      ⟨completionStatus, signal.event, outcomes⟩
    return { system with
      function := function
      task := if signal.aborts then .idle else system.task }

end System

end UsbNcm.Bus
