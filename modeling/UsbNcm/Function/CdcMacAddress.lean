import UsbNcm.Function.DeviceSpec
import UsbNcm.MacNumber
import UsbNcm.MacString

/-!
# The MAC addresses of the two ends (`function/device.cpp`)

The address of the host's end comes from the registry, or from the tick count. The address of the
function's own adapter is the next one.
-/

open Exec UsbNcm.Ntb

namespace UsbNcm.Function

structure RegisterOutcomes where
  openConfiguration : NtStatus
  queryBinary : NtStatus
  -- the buffer of the memory that the query returns
  value : List UInt8
  -- from KeQueryTickCount
  seed : Int64
  registerString : NtStatus

structure RegisteredString where
  device : UsbNcmFunctionDevice
  -- what NetConfigurationAssignBinary is called with
  assigned : Option (List UInt8)
  usbString : List UInt16

namespace RegisterOutcomes

/-- The value in the registry, where it can be read and is as long as an address. -/
def registryMacAddress (outcomes : RegisterOutcomes) : Option (List UInt8) :=
  if outcomes.openConfiguration.ntSuccess ∧ outcomes.queryBinary.ntSuccess ∧
      outcomes.value.length = 6 then
    some outcomes.value
  else none

def cdcMacAddress (outcomes : RegisterOutcomes) : List UInt8 :=
  outcomes.registryMacAddress.getD (generateMACAddress outcomes.seed)

def assigned (outcomes : RegisterOutcomes) : Option (List UInt8) :=
  if outcomes.registryMacAddress.isNone ∧ outcomes.openConfiguration.ntSuccess then
    some outcomes.cdcMacAddress
  else none

end RegisterOutcomes

variable {device device' : UsbNcmFunctionDevice} {outcomes : RegisterOutcomes}

/-- `maxUsbStringLength` is the size of the array in `USBFN_USB_STRING`. -/
def UsbNcmFunctionDevice.registerCdcMacString (device : UsbNcmFunctionDevice)
    (outcomes : RegisterOutcomes) (maxUsbStringLength : Nat) :
    Except Stop (NtStatus × RegisteredString) := do
  let device := { device with cdcMacAddress := outcomes.cdcMacAddress }
  let usbString ← bytesToHexString device.cdcMacAddress 12 (List.replicate maxUsbStringLength 0)
  return (outcomes.registerString, ⟨device, outcomes.assigned, usbString⟩)

namespace RegisterOutcomes

theorem registryMacAddress_length {macAddress : List UInt8}
    (h : outcomes.registryMacAddress = some macAddress) : macAddress.length = 6 := by
  unfold registryMacAddress at h
  split at h
  · next hvalue =>
    obtain rfl := Option.some.inj h
    exact hvalue.2.2
  · exact absurd h nofun

theorem cdcMacAddress_length (outcomes : RegisterOutcomes) : outcomes.cdcMacAddress.length = 6 := by
  unfold cdcMacAddress
  cases hregistry : outcomes.registryMacAddress with
  | none => exact numberToMacAddress_length
  | some macAddress => exact registryMacAddress_length hregistry

def RegistryIndividual (outcomes : RegisterOutcomes) : Prop :=
  ∀ macAddress ∈ outcomes.registryMacAddress, Individual macAddress

theorem individual_cdcMacAddress (h : outcomes.RegistryIndividual) :
    Individual outcomes.cdcMacAddress := by
  unfold cdcMacAddress
  cases hregistry : outcomes.registryMacAddress with
  | none => exact individual_generateMACAddress outcomes.seed
  | some macAddress => exact h macAddress hregistry

end RegisterOutcomes

namespace UsbNcmFunctionDevice

theorem registerCdcMacString_eq (device : UsbNcmFunctionDevice) (outcomes : RegisterOutcomes)
    {maxUsbStringLength : Nat} (h : 12 ≤ maxUsbStringLength) :
    device.registerCdcMacString outcomes maxUsbStringLength =
      .ok (outcomes.registerString,
        { device := { device with cdcMacAddress := outcomes.cdcMacAddress }
          assigned := outcomes.assigned
          usbString :=
            hexDigits outcomes.cdcMacAddress ++ List.replicate (maxUsbStringLength - 12) 0 }) := by
  have hroom : 2 * 6 ≤ (List.replicate maxUsbStringLength (0 : UInt16)).length := by
    rw [List.length_replicate]
    exact h
  have hstring := bytesToHexString_eq (by decide) outcomes.cdcMacAddress_length hroom
  rw [List.drop_replicate] at hstring
  unfold registerCdcMacString
  exact congrArg (· >>= _) hstring

theorem createAdapter_macAddress {outcomes : Outcomes} {status : NtStatus} {netAdapter : NetAdapter}
    (hcreate : device.createAdapter outcomes = .ok (status, device'))
    (hadapter : device'.netAdapter = some netAdapter) :
    netAdapter.parameters.macAddress = getNextMACAddress device.cdcMacAddress := by
  cases (createAdapter_cases hcreate).2 with
  | notCached =>
    change device.netAdapter = some netAdapter at hadapter
    rw [(createAdapter_cases hcreate).1] at hadapter
    cases hadapter
  | failed => cases hadapter
  | notStarted | created =>
    obtain rfl := Option.some.inj hadapter
    rfl

end UsbNcmFunctionDevice

/-- The address that `CreateAdapter` derives for the adapter can be used next to the one the host
has. -/
structure Usable (cdcMacAddress : List UInt8) : Prop where
  individual : Individual (getNextMACAddress cdcMacAddress)
  distinct : getNextMACAddress cdcMacAddress ≠ cdcMacAddress

/-- The two ends get distinct individual addresses, unless the address in the registry is the one
before the group addresses. -/
theorem usable_iff (outcomes : RegisterOutcomes) (h : outcomes.RegistryIndividual) :
    Usable outcomes.cdcMacAddress ↔ outcomes.registryMacAddress ≠ some lastBeforeGroup := by
  have hcdc : outcomes.cdcMacAddress = lastBeforeGroup ↔
      outcomes.registryMacAddress = some lastBeforeGroup := by
    unfold RegisterOutcomes.cdcMacAddress
    cases outcomes.registryMacAddress with
    | none => simp [generateMACAddress_ne]
    | some macAddress => simp
  rw [ne_eq, ← hcdc, ← ne_eq,
    ← individual_getNextMACAddress_iff (RegisterOutcomes.individual_cdcMacAddress h)]
  constructor
  · intro husable
    exact husable.individual
  · intro hindividual
    exact ⟨hindividual, getNextMACAddress_ne _⟩

def fromRegistry (value : List UInt8) : RegisterOutcomes where
  openConfiguration := .success
  queryBinary := .success
  value := value
  seed := 0
  registerString := .success

theorem usable_fromRegistry : Usable [0x00, 0x15, 0x5d, 0xff, 0xff, 0xff] := by
  have hindividual : (fromRegistry [0x00, 0x15, 0x5d, 0xff, 0xff, 0xff]).RegistryIndividual := by
    intro macAddress hmem
    obtain rfl := Option.some.inj hmem
    decide
  exact (usable_iff _ hindividual).mpr (by decide)

/-- After 00:ff:ff:ff:ff:ff comes 01:00:00:00:00:00. -/
theorem not_usable_lastBeforeGroup : (fromRegistry lastBeforeGroup).RegistryIndividual ∧
    ¬ Usable (fromRegistry lastBeforeGroup).cdcMacAddress := by
  constructor
  · intro macAddress hmem
    obtain rfl := Option.some.inj hmem
    decide
  · intro husable
    exact absurd husable.individual (by decide)

end UsbNcm.Function
