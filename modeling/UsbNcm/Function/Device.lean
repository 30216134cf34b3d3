import UsbNcm.Adapter.Link
import UsbNcm.Function.Parameters
import UsbNcm.Mac

/-!
# The device of the function driver (`function/device.cpp`)

The bus events and setup packets that it handles, and the adapter that it creates and destroys.
What the operations outside the driver return comes in with the event.
-/

open Exec ByteMemory UsbNcm.Ntb UsbNcm.Adapter

namespace UsbNcm.Function

/-! ## What the class library says -/

inductive PipeType
  | control
  | bulkIn
  | bulkOut
  | interruptIn
  | other
  deriving DecidableEq, Repr

/-- A `USBFN_PIPE_INFORMATION`: its PipeId, and the type and direction in its EpDesc. -/
structure PipeInformation where
  pipeId : Nat
  pipeType : PipeType
  deriving DecidableEq, Repr

/-- The `SuperSpeedClassInterfaceEx` of a `USBFN_CLASS_INFORMATION_PACKET_EX`. The class library
hands out what the driver's INF declares: two interfaces, and behind endpoint 0 only pipes of the
three types. -/
structure ClassInformation where
  baseInterfaceNumber : UInt8
  interfaceCount : Nat
  pipeArr : List PipeInformation
  interfaceCount_eq : interfaceCount = 2
  pipeArr_known : ∀ pipe ∈ pipeArr.tail,
    pipe.pipeType = .bulkIn ∨ pipe.pipeType = .bulkOut ∨ pipe.pipeType = .interruptIn

/-! ## The device -/

inductive UsbFnDeviceState
  | minimum
  | default
  | attached
  | configured
  | detached
  deriving DecidableEq, Repr

inductive UsbFnBusSpeed
  | low
  | full
  | high
  | super
  | maximum
  deriving DecidableEq, Repr

/-- `g_UsbFnBusSpeed` -/
def usbFnBusSpeed : UsbFnBusSpeed → UInt64
  | .low => 0
  | .full => 12 * 1000000
  | .high => 480 * 1000000
  | .super => 5000 * 1000000
  | .maximum => 0xFFFFFFFF

structure NetAdapter where
  parameters : AdapterParameters
  link : AdapterLink
  deriving DecidableEq, Repr

inductive EndPoint0Data
  | ntbParameters (ntbParamters : NtbParameters)
  | ntbFormat (ntbFormat : UInt16)
  | ntbInputSize (hostSelectedNtbInMaxSize : UInt32)
  deriving DecidableEq, Repr

inductive DeviceAction
  | wroteToEndPoint0 (data : EndPoint0Data)
  | sentHandshake (status : NtStatus)
  | stalledEndPoint0
  -- handed to the interrupt pipe, whether it gets to the host or not
  | interruptedHost (notification : List UInt8)
  | destroyedAdapter (netAdapter : NetAdapter)
  deriving DecidableEq, Repr

structure UsbNcmFunctionDevice where
  netAdapter : Option NetAdapter
  -- m_NcmAdapterCallbacks is not null
  ncmAdapterCallbacks : Bool
  state : UsbFnDeviceState
  busSpeed : UsbFnBusSpeed
  alternateInterfaceNumber : UInt16
  communicationInterfaceIndex : UInt8
  dataInterfaceIndex : UInt8
  endPoint0 : Option PipeInformation
  interrupt : Option PipeInformation
  bulkIn : Option PipeInformation
  bulkOut : Option PipeInformation
  cdcMacAddress : List UInt8
  use32BitNtb : Bool
  ntbParamters : NtbParameters
  hostSelectedNtbInMaxSize : UInt32
  -- what has been done so far
  log : List DeviceAction
  deriving DecidableEq, Repr

/-- How far `UsbNcmAdapterCreate` gets. When `NetAdapterStart` fails, the handle and the callbacks
have been set all the same. -/
inductive AdapterCreation
  | failed
  | notStarted
  | created
  deriving DecidableEq, Repr

/-- What the operations outside the driver return in the course of one event. -/
structure Outcomes where
  -- none where UsbFnKmClassLibGetClassInformationEx fails, in DestroyAdapter and in CreateAdapter
  destroyClassInformation : Option ClassInformation
  createClassInformation : Option ClassInformation
  adapterCreate : AdapterCreation
  writeEndPoint0 : NtStatus
  -- what ntbInMaxSize holds after a read that succeeds
  readEndPoint0 : Option UInt32
  handshake : NtStatus

/-- A `USB_DEFAULT_PIPE_SETUP_PACKET`. Its bmRequestType is not looked at. -/
structure SetupPacket where
  bRequest : UInt8
  wValue : UInt16
  wIndex : UInt16
  wLength : UInt16
  deriving DecidableEq, Repr

inductive NcmRequestType
  | getNtbParams
  | getNtbFmt
  | setNtbFmt
  | getNtbInputSize
  | setNtbInputSize
  deriving DecidableEq, Repr

/-- The type of a `bRequest`. The other types and unknown values are all stalled. -/
def ncmRequestType (bRequest : UInt8) : Option NcmRequestType :=
  if bRequest = 0x80 then some .getNtbParams
  else if bRequest = 0x83 then some .getNtbFmt
  else if bRequest = 0x84 then some .setNtbFmt
  else if bRequest = 0x85 then some .getNtbInputSize
  else if bRequest = 0x86 then some .setNtbInputSize
  else none

inductive UsbFnEvent
  | attach (busSpeed : UsbFnBusSpeed)
  | suspend
  | resume
  | configured
  | unConfigured
  | detach
  | reset (busSpeed : UsbFnBusSpeed)
  | setupPacket (setupPacket : SetupPacket)
  | setInterface (interfaceNumber alternateInterfaceNumber : UInt16)
  deriving DecidableEq, Repr

structure Notification where
  completionStatus : NtStatus
  event : UsbFnEvent
  outcomes : Outcomes

namespace UsbNcmFunctionDevice

/-! ## Class information and parameters -/

/-- A pipe behind endpoint 0, and whether it was cached. -/
def cachePipe (device : UsbNcmFunctionDevice) (pipe : PipeInformation) : UsbNcmFunctionDevice × Nat :=
  match pipe.pipeType with
  | .bulkIn => ({ device with bulkIn := some pipe }, 1)
  | .bulkOut => ({ device with bulkOut := some pipe }, 1)
  | .interruptIn => ({ device with interrupt := some pipe }, 1)
  | .control | .other => (device, 0)

def cachePipes (device : UsbNcmFunctionDevice) : List PipeInformation → UsbNcmFunctionDevice × Nat
  | [] => (device, 0)
  | pipe :: pipes =>
    let (device, cached) := device.cachePipe pipe
    let (device, rest) := device.cachePipes pipes
    (device, cached + rest)

/-- The loop over the pipes. The first one is always endpoint 0. -/
def cachePipeArr (device : UsbNcmFunctionDevice) : List PipeInformation → UsbNcmFunctionDevice × Nat
  | [] => (device, 0)
  | pipe :: pipes =>
    let (device, cached) := { device with endPoint0 := some pipe }.cachePipes pipes
    (device, cached + 1)

def cacheClassInformation (device : UsbNcmFunctionDevice)
    (classInformation : Option ClassInformation) :
    Except Stop (NtStatus × UsbNcmFunctionDevice) :=
  match classInformation with
  | none => .ok (.unsuccessful, device)
  | some info => do
    if info.interfaceCount ≠ 2 then throw .assertion
    let device :=
      { device with
        communicationInterfaceIndex := info.baseInterfaceNumber
        dataInterfaceIndex := info.baseInterfaceNumber + 1 }
    let (device, cached) := device.cachePipeArr info.pipeArr
    if cached ≠ info.pipeArr.length then throw .assertion
    return (.success, device)

def setParameters (device : UsbNcmFunctionDevice) : UsbNcmFunctionDevice :=
  { device with
    ntbParamters := ntbParameters
    hostSelectedNtbInMaxSize := ntbParameters.dwNtbInMaxSize
    use32BitNtb := false }

/-! ## The adapter -/

def interruptHost (device : UsbNcmFunctionDevice) (notification : List UInt8) :
    UsbNcmFunctionDevice :=
  { device with log := device.log ++ [.interruptedHost notification] }

def notifyConnectionSpeedAndStatusChange (device : UsbNcmFunctionDevice)
    (networkConnectionState : Bool) (linkSpeed : UInt64) : UsbNcmFunctionDevice :=
  let interfaceIndex := leBytes 2 device.dataInterfaceIndex.toNat
  -- both speeds are cut to UINT32
  let speedChange := [0xA1, 0x2A] ++ leBytes 2 0 ++ interfaceIndex ++ leBytes 2 8 ++
    leBytes 4 linkSpeed.toNat ++ leBytes 4 linkSpeed.toNat
  let statusChange := [0xA1, 0x00] ++ leBytes 2 networkConnectionState.toNat ++ interfaceIndex ++
    leBytes 2 0
  let device := if networkConnectionState then device.interruptHost speedChange else device
  device.interruptHost statusChange

def createAdapter (device : UsbNcmFunctionDevice) (outcomes : Outcomes) :
    Except Stop (NtStatus × UsbNcmFunctionDevice) := do
  if device.netAdapter.isSome then throw .assertion
  let (status, device) ← device.cacheClassInformation outcomes.createClassInformation
  if ¬ status.ntSuccess then return (status, device)
  let parameters := adapterParameters device.ntbParamters device.use32BitNtb
    (getNextMACAddress device.cdcMacAddress) device.hostSelectedNtbInMaxSize
  match outcomes.adapterCreate with
  | .failed => return (.unsuccessful, { device with netAdapter := none })
  | .notStarted =>
    return (.unsuccessful,
      { device with netAdapter := some ⟨parameters, startedLink⟩, ncmAdapterCallbacks := true })
  | .created =>
    let speed := usbFnBusSpeed device.busSpeed
    let link := (startedLink.setLinkSpeed speed speed).setLinkState true
    let device := { device with netAdapter := some ⟨parameters, link⟩, ncmAdapterCallbacks := true }
    return (.success, device.notifyConnectionSpeedAndStatusChange true speed)

/-- The calls of `destroyAdapter` on the adapter. -/
def removeAdapter (device : UsbNcmFunctionDevice) (netAdapter : NetAdapter) : UsbNcmFunctionDevice :=
  let link := (netAdapter.link.setLinkSpeed 0 0).setLinkState false
  { device with
    netAdapter := none
    ncmAdapterCallbacks := false
    log := device.log ++ [DeviceAction.destroyedAdapter { netAdapter with link := link }] }

def destroyAdapter (device : UsbNcmFunctionDevice) (outcomes : Outcomes) :
    Except Stop UsbNcmFunctionDevice :=
  match device.netAdapter with
  | none => .ok device
  | some netAdapter => do
    -- SetLinkSpeed and SetLinkState are called through m_NcmAdapterCallbacks
    if ¬ device.ncmAdapterCallbacks then throw .access
    let device := (device.removeAdapter netAdapter).setParameters
    let (_, device) ← device.cacheClassInformation outcomes.destroyClassInformation
    let device := device.notifyConnectionSpeedAndStatusChange false 0
    return { device with alternateInterfaceNumber := 0 }

/-! ## Setup packets -/

def sendHandshake (device : UsbNcmFunctionDevice) (outcomes : Outcomes) :
    NtStatus × UsbNcmFunctionDevice :=
  (outcomes.handshake, { device with log := device.log ++ [.sentHandshake outcomes.handshake] })

/-- The data itself is in `outcomes`. -/
def readFromEndPoint0 (device : UsbNcmFunctionDevice) (outcomes : Outcomes) :
    Option UInt32 × UsbNcmFunctionDevice :=
  match outcomes.readEndPoint0 with
  | none => (none, device)
  | some data => (some data, (device.sendHandshake outcomes).2)

def writeToEndPoint0 (device : UsbNcmFunctionDevice) (outcomes : Outcomes) (data : EndPoint0Data) :
    NtStatus × UsbNcmFunctionDevice :=
  if outcomes.writeEndPoint0.ntSuccess then
    let device := { device with log := device.log ++ [DeviceAction.wroteToEndPoint0 data] }
    (outcomes.writeEndPoint0, (device.sendHandshake outcomes).2)
  else (outcomes.writeEndPoint0, device)

def stallEndPoint0 (device : UsbNcmFunctionDevice) : UsbNcmFunctionDevice :=
  { device with log := device.log ++ [.stalledEndPoint0] }

/-- A request that is answered with data. The first component is `stallEp0`. -/
def getRequest (device : UsbNcmFunctionDevice) (setupPacket : SetupPacket) (outcomes : Outcomes)
    (size : UInt16) (data : EndPoint0Data) : Bool × UsbNcmFunctionDevice :=
  if setupPacket.wValue ≠ 0 ∨ setupPacket.wLength < size then (true, device)
  else
    let (status, device) := device.writeToEndPoint0 outcomes data
    (!status.ntSuccess, device)

def setNtbFmt (device : UsbNcmFunctionDevice) (setupPacket : SetupPacket) (outcomes : Outcomes) :
    Bool × UsbNcmFunctionDevice :=
  if setupPacket.wValue > 1 ∨ setupPacket.wLength ≠ 0 ∨ device.alternateInterfaceNumber ≠ 0 then
    (true, device)
  else
    let device := { device with use32BitNtb := setupPacket.wValue = 1 }
    let (status, device) := device.sendHandshake outcomes
    (!status.ntSuccess, device)

def setNtbInputSize (device : UsbNcmFunctionDevice) (setupPacket : SetupPacket)
    (outcomes : Outcomes) : Except Stop (Bool × UsbNcmFunctionDevice) :=
  if setupPacket.wValue ≠ 0 ∨ setupPacket.wLength ≠ 4 then .ok (true, device)
  else
    match device.readFromEndPoint0 outcomes with
    | (none, device) => .ok (true, device)
    | (some ntbInMaxSize, device) =>
      if ntbInMaxSize ≥ 2048 ∧ ntbInMaxSize ≤ device.ntbParamters.dwNtbInMaxSize then
        let device := { device with hostSelectedNtbInMaxSize := ntbInMaxSize }
        if device.netAdapter.isSome then do
          let device ← device.destroyAdapter outcomes
          let (_, device) ← device.createAdapter outcomes
          return (false, device)
        else .ok (false, device)
      else .ok (false, device)

/-- The `switch` of `processSetupPacket`. -/
def processRequest (device : UsbNcmFunctionDevice) (setupPacket : SetupPacket)
    (outcomes : Outcomes) : Except Stop (Bool × UsbNcmFunctionDevice) :=
  match ncmRequestType setupPacket.bRequest with
  | some .getNtbParams =>
    .ok (device.getRequest setupPacket outcomes 0x1C (.ntbParameters device.ntbParamters))
  | some .getNtbFmt =>
    .ok (device.getRequest setupPacket outcomes 2 (.ntbFormat (if device.use32BitNtb then 1 else 0)))
  | some .setNtbFmt => .ok (device.setNtbFmt setupPacket outcomes)
  | some .getNtbInputSize =>
    .ok (device.getRequest setupPacket outcomes 4 (.ntbInputSize device.hostSelectedNtbInMaxSize))
  | some .setNtbInputSize => device.setNtbInputSize setupPacket outcomes
  | none => .ok (true, device)

def processSetupPacket (device : UsbNcmFunctionDevice) (setupPacket : SetupPacket)
    (outcomes : Outcomes) : Except Stop UsbNcmFunctionDevice := do
  if device.state ≠ .configured then throw .assertion
  let (stallEp0, device) ←
    if setupPacket.wIndex.toNat = device.communicationInterfaceIndex.toNat then
      device.processRequest setupPacket outcomes
    else pure (true, device)
  return if stallEp0 then device.stallEndPoint0 else device

/-! ## Bus events -/

def setInterface (device : UsbNcmFunctionDevice) (alternateInterfaceNumber : UInt16)
    (outcomes : Outcomes) : Except Stop UsbNcmFunctionDevice := do
  if device.state ≠ .configured then throw .assertion
  if device.alternateInterfaceNumber ≠ alternateInterfaceNumber then
    let device := { device with alternateInterfaceNumber := alternateInterfaceNumber }
    if alternateInterfaceNumber = 0 then device.destroyAdapter outcomes
    else if alternateInterfaceNumber = 1 then
      let (_, device) ← device.createAdapter outcomes
      return device
    else return device
  else return device

def busEventNotificationRead (device : UsbNcmFunctionDevice) (notification : Notification) :
    Except Stop UsbNcmFunctionDevice :=
  if notification.completionStatus.ntSuccess then
    match notification.event with
    | .attach busSpeed => .ok { device with busSpeed := busSpeed, state := .attached }
    | .suspend => .ok device
    | .resume => .ok device
    | .configured => .ok { device with state := .configured }
    | .unConfigured => { device with state := .attached }.destroyAdapter notification.outcomes
    | .detach => { device with state := .detached }.destroyAdapter notification.outcomes
    | .reset busSpeed =>
      { device with state := .default, busSpeed := busSpeed }.destroyAdapter notification.outcomes
    | .setupPacket setupPacket => device.processSetupPacket setupPacket notification.outcomes
    | .setInterface _ alternateInterfaceNumber =>
      device.setInterface alternateInterfaceNumber notification.outcomes
  else .ok device

/-! ## Initialisation -/

/-- The members as they are constructed. -/
def newDevice : UsbNcmFunctionDevice where
  netAdapter := none
  ncmAdapterCallbacks := false
  state := .minimum
  busSpeed := .low
  alternateInterfaceNumber := 0
  communicationInterfaceIndex := 0
  dataInterfaceIndex := 0
  endPoint0 := none
  interrupt := none
  bulkIn := none
  bulkOut := none
  cdcMacAddress := [0, 0, 0, 0, 0, 0]
  use32BitNtb := false
  ntbParamters := ⟨0, 0, 0, 0, 0, 0, 0, 0, 0, 0, 0, 0⟩
  hostSelectedNtbInMaxSize := 0
  log := []

/-- What the operations outside the driver return to `InitializeDevice`, in the order of the calls. -/
structure InitializeOutcomes where
  registerClassDevice : NtStatus
  classInformation : Option ClassInformation
  -- from the registry or generated
  cdcMacAddress : List UInt8
  registerString : NtStatus
  createContinuousReaders : NtStatus
  activateBus : NtStatus

def initializeDevice (device : UsbNcmFunctionDevice) (outcomes : InitializeOutcomes) :
    Except Stop (NtStatus × UsbNcmFunctionDevice) := do
  if ¬ outcomes.registerClassDevice.ntSuccess then return (outcomes.registerClassDevice, device)
  let (status, device) ← device.cacheClassInformation outcomes.classInformation
  if ¬ status.ntSuccess then return (status, device)
  let device := { device.setParameters with cdcMacAddress := outcomes.cdcMacAddress }
  if ¬ outcomes.registerString.ntSuccess then return (outcomes.registerString, device)
  if ¬ outcomes.createContinuousReaders.ntSuccess then
    return (outcomes.createContinuousReaders, device)
  return (outcomes.activateBus, device)

end UsbNcmFunctionDevice

end UsbNcm.Function
