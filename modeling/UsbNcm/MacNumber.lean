import Mathlib.Data.List.Induction
import Mathlib.Tactic.Ring
import UsbNcm.Mac

/-!
# The next MAC address

An address is the 48-bit number of its bytes. The next one has its group bit clear, unless the
carry goes into the first byte.
-/

namespace UsbNcm

variable {macAddress : List UInt8} {number : Nat}

/-- An address of one receiver: the group bit is clear. -/
structure Individual (macAddress : List UInt8) : Prop where
  length : macAddress.length = 6
  groupBit : macAddress.headD 0 &&& 1 = 0

instance (macAddress : List UInt8) : Decidable (Individual macAddress) :=
  decidable_of_iff (macAddress.length = 6 ∧ macAddress.headD 0 &&& 1 = 0)
    ⟨fun h => ⟨h.1, h.2⟩, fun h => ⟨h.length, h.groupBit⟩⟩

/-! ## Numbers -/

theorem numberToMacAddress_length : (numberToMacAddress number).length = 6 := rfl

theorem macAddressToNumber_append (bytes : List UInt8) (byte : UInt8) :
    macAddressToNumber (bytes ++ [byte]) = macAddressToNumber bytes * 256 + byte.toNat := by
  unfold macAddressToNumber
  rw [List.foldl_append]
  rfl

theorem macAddressToNumber_lt (bytes : List UInt8) :
    macAddressToNumber bytes < 256 ^ bytes.length := by
  induction bytes using List.reverseRecOn with
  | nil => exact Nat.one_pos
  | append_singleton bytes byte ih =>
    have hbyte := byte.toNat_lt
    rw [macAddressToNumber_append, List.length_append, List.length_singleton, Nat.pow_succ]
    omega

theorem macAddressToNumber_cons (byte : UInt8) (bytes : List UInt8) :
    macAddressToNumber (byte :: bytes) =
      byte.toNat * 256 ^ bytes.length + macAddressToNumber bytes := by
  induction bytes using List.reverseRecOn with
  | nil => simp [macAddressToNumber]
  | append_singleton bytes last ih =>
    rw [← List.cons_append, macAddressToNumber_append, macAddressToNumber_append, ih,
      List.length_append, List.length_singleton, Nat.pow_succ]
    ring

theorem macAddressToNumber_numberToMacAddress (h : number < 2 ^ 48) :
    macAddressToNumber (numberToMacAddress number) = number := by
  simp only [macAddressToNumber, numberToMacAddress, List.map_cons, List.map_nil, List.foldl_cons,
    List.foldl_nil, UInt8.toNat_ofNat']
  omega

/-- Two addresses with one number are the same. -/
theorem macAddressToNumber_inj {bytes bytes' : List UInt8} (hlength : bytes.length = bytes'.length)
    (h : macAddressToNumber bytes = macAddressToNumber bytes') : bytes = bytes' := by
  induction bytes generalizing bytes' with
  | nil => exact (List.length_eq_zero_iff.mp hlength.symm).symm
  | cons byte bytes ih =>
    obtain ⟨byte', bytes', rfl⟩ := List.exists_cons_of_length_eq_add_one hlength.symm
    have hlength' := Nat.succ.inj hlength
    rw [macAddressToNumber_cons, macAddressToNumber_cons, ← hlength'] at h
    have hlt := macAddressToNumber_lt bytes
    have hlt' := macAddressToNumber_lt bytes'
    rw [← hlength'] at hlt'
    have hrest : macAddressToNumber bytes = macAddressToNumber bytes' := by
      have hmod := congrArg (· % 256 ^ bytes.length) h
      simpa only [Nat.mul_add_mod', Nat.mod_eq_of_lt hlt, Nat.mod_eq_of_lt hlt'] using hmod
    have hbyte : byte.toNat = byte'.toNat := by
      rw [hrest] at h
      exact Nat.eq_of_mul_eq_mul_right (Nat.pow_pos (by decide)) (Nat.add_right_cancel h)
    rw [UInt8.toNat_inj.mp hbyte, ih hlength' hrest]

/-- The group bit is the lowest bit of the most significant byte. -/
theorem individual_iff (hlength : macAddress.length = 6) :
    Individual macAddress ↔ macAddressToNumber macAddress / 2 ^ 40 % 2 = 0 := by
  obtain ⟨first, rest, rfl⟩ := List.exists_cons_of_length_eq_add_one hlength
  have hrest : rest.length = 5 := Nat.succ.inj hlength
  have hlt := macAddressToNumber_lt rest
  have hbit : (first &&& 1).toNat = first.toNat % 2 := by
    rw [UInt8.toNat_and]
    exact Nat.and_two_pow_sub_one_eq_mod first.toNat 1
  have hdiv : macAddressToNumber (first :: rest) / 2 ^ 40 = first.toNat := by
    rw [macAddressToNumber_cons, hrest]
    rw [hrest] at hlt
    omega
  rw [hdiv, ← hbit]
  constructor
  · intro h
    exact congrArg UInt8.toNat h.groupBit
  · intro h
    exact ⟨hlength, UInt8.toNat_inj.mp h⟩

/-! ## The next address -/

theorem macAddressToNumber_getNextMACAddress (macAddress : List UInt8) :
    macAddressToNumber (getNextMACAddress macAddress) =
      if macAddressToNumber macAddress + 1 > maxMacNumber then minMacNumber
      else macAddressToNumber macAddress + 1 := by
  unfold getNextMACAddress
  apply macAddressToNumber_numberToMacAddress
  split
  · decide
  · next hle =>
    exact lt_of_le_of_lt (not_lt.mp hle) (by decide)

theorem getNextMACAddress_length : (getNextMACAddress macAddress).length = 6 := rfl

theorem getNextMACAddress_ne (macAddress : List UInt8) : getNextMACAddress macAddress ≠ macAddress := by
  intro heq
  have hnumber := macAddressToNumber_getNextMACAddress macAddress
  rw [heq] at hnumber
  split at hnumber
  · next hgt =>
    rw [hnumber] at hgt
    exact absurd hgt (by decide)
  · omega

/-- The one individual address whose successor is a group address. -/
def lastBeforeGroup : List UInt8 := [0x00, 0xff, 0xff, 0xff, 0xff, 0xff]

theorem individual_getNextMACAddress_iff (h : Individual macAddress) :
    Individual (getNextMACAddress macAddress) ↔ macAddress ≠ lastBeforeGroup := by
  have hnumber : macAddressToNumber lastBeforeGroup = 2 ^ 40 - 1 := by decide
  have heq : macAddress = lastBeforeGroup ↔ macAddressToNumber macAddress = 2 ^ 40 - 1 := by
    rw [← hnumber]
    exact ⟨congrArg _, macAddressToNumber_inj h.length⟩
  have hlt := macAddressToNumber_lt macAddress
  have hbit := (individual_iff h.length).mp h
  rw [h.length] at hlt
  rw [individual_iff getNextMACAddress_length, macAddressToNumber_getNextMACAddress, ne_eq, heq]
  unfold maxMacNumber minMacNumber
  -- only from 2 ^ 40 to 2 ^ 41 is the first byte 1
  split
  · omega
  · omega

theorem macAddressToNumber_generateMACAddress (seed : Int64) :
    macAddressToNumber (generateMACAddress seed) =
      seed.toUInt64.toNat % 0xffffff + minMacNumber := by
  have hrange : maxMacNumber - minMacNumber = 0xffffff := rfl
  have hmod : seed.toUInt64.toNat % 0xffffff < 0xffffff := Nat.mod_lt _ (by decide)
  rw [generateMACAddress, hrange]
  apply macAddressToNumber_numberToMacAddress
  unfold minMacNumber
  omega

theorem individual_generateMACAddress (seed : Int64) : Individual (generateMACAddress seed) := by
  have hlength : (generateMACAddress seed).length = 6 := rfl
  rw [individual_iff hlength, macAddressToNumber_generateMACAddress]
  unfold minMacNumber
  omega

theorem generateMACAddress_ne (seed : Int64) : generateMACAddress seed ≠ lastBeforeGroup := by
  intro heq
  have hnumber := macAddressToNumber_generateMACAddress seed
  rw [heq] at hnumber
  have hlt : macAddressToNumber lastBeforeGroup < minMacNumber := by decide
  omega

end UsbNcm
