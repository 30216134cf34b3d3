import UsbNcm.Function.CdcMacAddress
import UsbNcm.Function.CreatedAdapter
import UsbNcm.Host.MacAddress

/-!
# The address across the bus

The function driver keeps its address in the registry from one start to the next. The host reads it
from the string descriptor, and the adapter of the function gets the one behind it.
-/

open Exec UsbNcm.Ntb UsbNcm.Function UsbNcm.Function.UsbNcmFunctionDevice UsbNcm.Host

namespace UsbNcm.Bus

/-- What the operations outside the driver return at one start of it. -/
structure DriverStart where
  openConfiguration : NtStatus
  -- of a value that is there
  queryBinary : NtStatus
  seed : Int64
  assignBinary : NtStatus
  -- to the rest of InitializeDevice
  others : UsbNcmFunctionDevice.InitializeOutcomes

namespace DriverStart

/-- For `RegisterCdcMacString`, when this is the value in the registry. -/
def registerOutcomes (start : DriverStart) (stored : Option (List UInt8)) : RegisterOutcomes where
  openConfiguration := start.openConfiguration
  queryBinary := if stored.isSome then start.queryBinary else .unsuccessful
  value := stored.getD []
  seed := start.seed
  registerString := start.others.registerString

def macAddress (start : DriverStart) (stored : Option (List UInt8)) : List UInt8 :=
  (start.registerOutcomes stored).cdcMacAddress

def initializeOutcomes (start : DriverStart) (stored : Option (List UInt8)) : UsbNcmFunctionDevice.InitializeOutcomes :=
  { start.others with cdcMacAddress := start.macAddress stored }

/-- The value behind the start. -/
def store (start : DriverStart) (stored : Option (List UInt8)) : Option (List UInt8) :=
  match (start.registerOutcomes stored).assigned with
  | some macAddress => if start.assignBinary.ntSuccess then some macAddress else stored
  | none => stored

def storeAll (stored : Option (List UInt8)) (starts : List DriverStart) : Option (List UInt8) :=
  starts.foldl (fun stored start => start.store stored) stored

/-- The registry can be read and written. -/
structure Works (start : DriverStart) : Prop where
  openConfiguration : start.openConfiguration.ntSuccess
  queryBinary : start.queryBinary.ntSuccess
  assignBinary : start.assignBinary.ntSuccess

variable {start : DriverStart} {stored : Option (List UInt8)} {value : List UInt8}

/-! ## The registry -/

theorem macAddress_length (start : DriverStart) (stored : Option (List UInt8)) :
    (start.macAddress stored).length = 6 :=
  (start.registerOutcomes stored).cdcMacAddress_length

theorem registryMacAddress_some (h : start.Works) (hlength : value.length = 6) :
    (start.registerOutcomes (some value)).registryMacAddress = some value :=
  if_pos ⟨h.openConfiguration, h.queryBinary, hlength⟩

/-- An address in the registry is used, and stays. -/
theorem macAddress_of_stored (h : start.Works) (hlength : value.length = 6) :
    start.macAddress (some value) = value ∧ start.store (some value) = some value := by
  have hregistry := registryMacAddress_some h hlength
  constructor
  · unfold macAddress RegisterOutcomes.cdcMacAddress
    rw [hregistry]
    rfl
  · unfold store RegisterOutcomes.assigned
    rw [hregistry]
    rfl

/-- Whatever there was, behind the start there is the address that it has used. -/
theorem store_of_works (h : start.Works) (stored : Option (List UInt8)) :
    start.store stored = some (start.macAddress stored) := by
  cases hregistry : (start.registerOutcomes stored).registryMacAddress with
  | none =>
    have hassigned : (start.registerOutcomes stored).assigned = some (start.macAddress stored) :=
      if_pos ⟨by rw [hregistry]; rfl, h.openConfiguration⟩
    unfold store
    rw [hassigned]
    exact if_pos h.assignBinary
  | some value =>
    have hvalue : stored = some value := by
      unfold RegisterOutcomes.registryMacAddress at hregistry
      split at hregistry
      · next hquery =>
        cases stored with
        | none => exact absurd hquery.2.1 nofun
        | some value' => exact hregistry
      · cases hregistry
    have hlength := RegisterOutcomes.registryMacAddress_length hregistry
    rw [hvalue, (macAddress_of_stored h hlength).1, (macAddress_of_stored h hlength).2]

theorem storeAll_of_stored {starts : List DriverStart} (h : ∀ start ∈ starts, start.Works)
    (hlength : value.length = 6) : storeAll (some value) starts = some value := by
  induction starts with
  | nil => rfl
  | cons start starts ih =>
    obtain ⟨hfirst, hrest⟩ := List.forall_mem_cons.mp h
    change storeAll (start.store (some value)) starts = some value
    rw [(macAddress_of_stored hfirst hlength).2, ih hrest]

/-- All starts use one address. -/
theorem macAddress_same (stored : Option (List UInt8)) {starts : List DriverStart}
    (h : ∀ start ∈ starts, start.Works) :
    ∃ macAddress : List UInt8, macAddress.length = 6 ∧ ∀ earlier start later,
      starts = earlier ++ start :: later → start.macAddress (storeAll stored earlier) = macAddress := by
  cases starts with
  | nil =>
    refine ⟨List.replicate 6 0, rfl, fun earlier start later hnil => ?_⟩
    simp at hnil
  | cons first starts =>
    obtain ⟨hfirst, hrest⟩ := List.forall_mem_cons.mp h
    have hlength := first.macAddress_length stored
    refine ⟨first.macAddress stored, hlength, fun earlier start later hstarts => ?_⟩
    cases earlier with
    | nil =>
      cases hstarts
      rfl
    | cons _ earlier =>
      obtain ⟨rfl, rfl⟩ := List.cons.inj hstarts
      have hstored : storeAll stored (first :: earlier) = some (first.macAddress stored) := by
        change storeAll (first.store stored) earlier = _
        rw [store_of_works hfirst]
        exact storeAll_of_stored (fun start hmem => hrest start (List.mem_append_left _ hmem)) hlength
      rw [hstored]
      exact (macAddress_of_stored (hrest start (by simp)) hlength).1

/-! ## The two ends -/

/-- The string that the host gets, of the array that `UsbNcmRegisterString` is called with. -/
def stringDescriptor (usbString : List UInt16) : List UInt16 := usbString.takeWhile (· ≠ 0)

/-- With this address the host creates its adapter, and with the next one the function does. -/
structure UsesAddress (start : DriverStart) (stored : Option (List UInt8)) (macAddress : List UInt8) :
    Prop where
  host : ∀ (device : UsbNcmFunctionDevice) (maxUsbStringLength : Nat), 12 ≤ maxUsbStringLength →
    ∃ status registered, device.registerCdcMacString (start.registerOutcomes stored)
        maxUsbStringLength = .ok (status, registered) ∧
      ∀ (queried : QueriedString) (strMacAddress : Vector UInt16 12) (before : List UInt8),
        queried.status = .success → queried.characters = stringDescriptor registered.usbString →
        before.length = 6 →
          queried.queryMacAddress strMacAddress before = (.success, macAddress)
  function : ∀ (device device' : UsbNcmFunctionDevice) (notifications : List Notification)
    (netAdapter : NetAdapter),
    newDevice.initializeDevice (start.initializeOutcomes stored) = .ok (.success, device) →
    notifications.foldlM busEventNotificationRead device = .ok device' →
    device'.netAdapter = some netAdapter →
      netAdapter.parameters.macAddress = getNextMACAddress macAddress ∧
        netAdapter.parameters.macAddress ≠ macAddress

/-- Zero is not a digit. -/
theorem hexCharFromNibble_ne_zero {bits : UInt8} (h : bits < 16) : hexCharFromNibble bits ≠ 0 := by
  intro hzero
  have hnibble := hexNibbleFromChar_hexCharFromNibble h
  rw [hzero] at hnibble
  cases hnibble

theorem stringDescriptor_hexDigits (bytes : List UInt8) (n : Nat) :
    stringDescriptor (hexDigits bytes ++ List.replicate n 0) = hexDigits bytes := by
  unfold stringDescriptor
  induction bytes with
  | nil => cases n <;> rfl
  | cons byte bytes ih =>
    have hhigher := hexCharFromNibble_ne_zero (and_15_lt (byte >>> 4))
    have hlower := hexCharFromNibble_ne_zero (and_15_lt byte)
    rw [hexDigits_cons, List.cons_append, List.cons_append,
      List.takeWhile_cons_of_pos (by simpa using hhigher),
      List.takeWhile_cons_of_pos (by simpa using hlower), ih]

theorem usesAddress (start : DriverStart) (stored : Option (List UInt8)) :
    start.UsesAddress stored (start.macAddress stored) := by
  constructor
  · intro device maxUsbStringLength hroom
    refine ⟨_, _, device.registerCdcMacString_eq _ hroom, ?_⟩
    intro queried strMacAddress before hstatus hcharacters hbefore
    rw [stringDescriptor_hexDigits] at hcharacters
    rw [QueriedString.queryMacAddress_success (by rw [hstatus]; rfl), hcharacters]
    exact hexStringToBytes_hexDigits _ _ (hbefore.trans (start.macAddress_length stored).symm)
  · intro device device' notifications netAdapter hdevice hrun hadapter
    have hmade := run_made hdevice hrun
    have hmem : netAdapter.parameters ∈ device'.negotiated.adapter := by
      unfold negotiated
      rw [hadapter]
      rfl
    obtain ⟨use32BitNtb, hostSelectedNtbInMaxSize, hparameters⟩ := hmade.adapter _ hmem
    rw [hparameters]
    exact ⟨rfl, getNextMACAddress_ne _⟩

/-- However often the driver is started, as long as the registry can be read and written: the host
gets the same address each time, and the function's own adapters have the next one. -/
theorem one_address (stored : Option (List UInt8)) {starts : List DriverStart}
    (h : ∀ start ∈ starts, start.Works) :
    ∃ macAddress : List UInt8, macAddress.length = 6 ∧ ∀ earlier start later,
      starts = earlier ++ start :: later →
        start.UsesAddress (storeAll stored earlier) macAddress := by
  obtain ⟨macAddress, hlength, hsame⟩ := macAddress_same stored h
  refine ⟨macAddress, hlength, fun earlier start later hstarts => ?_⟩
  rw [← hsame earlier start later hstarts]
  exact start.usesAddress _

/-- Two starts, at first without a value in the registry. -/
theorem one_address_twoStarts : ∃ macAddress : List UInt8, macAddress.length = 6 ∧
    UsesAddress ⟨.success, .success, 7, .success, exampleInitialize⟩ none macAddress ∧
    UsesAddress ⟨.success, .success, 8, .success, exampleInitialize⟩
      (storeAll none [⟨.success, .success, 7, .success, exampleInitialize⟩]) macAddress := by
  have hworks : ∀ start ∈ [(⟨.success, .success, 7, .success, exampleInitialize⟩ : DriverStart),
      ⟨.success, .success, 8, .success, exampleInitialize⟩], start.Works := by
    intro start hmem
    simp only [List.mem_cons, List.not_mem_nil, or_false] at hmem
    rcases hmem with rfl | rfl <;> exact ⟨rfl, rfl, rfl⟩
  obtain ⟨macAddress, hlength, huses⟩ := one_address none hworks
  exact ⟨macAddress, hlength, huses [] _ _ rfl, huses [_] _ [] rfl⟩

end DriverStart

end UsbNcm.Bus
