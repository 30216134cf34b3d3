import UsbNcm.Lib.Exec
import UsbNcm.Ntb.Format

/-! # MAC addresses as numbers and strings (`mac.h`) -/

open Exec UsbNcm.Ntb

namespace UsbNcm

/-- `MAC_ADDRESS_TO_NUMBER`: the first byte is the most significant. -/
def macAddressToNumber (macAddress : List UInt8) : Nat :=
  macAddress.foldl (fun number byte => number * 256 + byte.toNat) 0

/-- `NUMBER_TO_MAC_ADDRESS` -/
def numberToMacAddress (number : Nat) : List UInt8 :=
  [5, 4, 3, 2, 1, 0].map fun i => UInt8.ofNat (number / 256 ^ i)

def minMacNumber : Nat := 0x000002155d000000

def maxMacNumber : Nat := 0x000002155dffffff

/-- The tick count is signed, and converted to `UINT64` before the division. -/
def generateMACAddress (seed : Int64) : List UInt8 :=
  numberToMacAddress (seed.toUInt64.toNat % (maxMacNumber - minMacNumber) + minMacNumber)

def getNextMACAddress (macAddress : List UInt8) : List UInt8 :=
  let currMacNumber := macAddressToNumber macAddress + 1
  numberToMacAddress (if currMacNumber > maxMacNumber then minMacNumber else currMacNumber)

example : getNextMACAddress [0x02, 0x15, 0x5d, 0xff, 0xff, 0xff] = [0x02, 0x15, 0x5d, 0, 0, 0] := by
  decide

/-- The digit that `BytesToHexString` writes for four bits. -/
def hexCharFromNibble (bits : UInt8) : UInt16 :=
  if bits ≥ 0xA then 0x41 + bits.toUInt16 - 0xA else 0x30 + bits.toUInt16

def arrayRead {α : Type} (array : List α) (i : Nat) : Except Stop α :=
  match array[i]? with
  | some x => .ok x
  | none => .error .access

def arrayWrite {α : Type} (array : List α) (i : Nat) (x : α) : Except Stop (List α) :=
  if i < array.length then .ok (array.set i x) else .error .access

/-- The passes that are left of the loop of `BytesToHexString`, from pass `i` on. -/
def writeHexString (bytes : List UInt8) : Nat → List UInt16 → Nat → Except Stop (List UInt16)
  | _, string, 0 => .ok string
  | i, string, passes + 1 => do
    let byte ← arrayRead bytes i
    let lowerBits := byte &&& 0xF
    let higherBits := (byte >>> 4) &&& 0xF
    let string ← arrayWrite string (2 * i) (hexCharFromNibble higherBits)
    let string ← arrayWrite string (2 * i + 1) (hexCharFromNibble lowerBits)
    writeHexString bytes (i + 1) string passes

def bytesToHexString (bytes : List UInt8) (strLength : UInt32) (string : List UInt16) :
    Except Stop (List UInt16) :=
  if strLength.toNat % 2 ≠ 0 then .error .assertion
  else writeHexString bytes 0 string (strLength.toNat / 2)

def hexNibbleFromChar (wch : UInt16) : Option UInt8 :=
  if 0x41 ≤ wch ∧ wch ≤ 0x46 then some (wch - 0x41 + 0xA).toUInt8
  else if 0x30 ≤ wch ∧ wch ≤ 0x39 then some (wch.toUInt8 - 0x30)
  -- some devices use 'a' to 'f'
  else if 0x61 ≤ wch ∧ wch ≤ 0x66 then some (wch - 0x61 + 0xA).toUInt8
  else none

/-- The bytes, with those that two digits were found for overwritten. -/
def hexStringToBytes : List UInt16 → List UInt8 → NtStatus × List UInt8
  | left :: right :: pDigits, b :: pb =>
    match hexNibbleFromChar left, hexNibbleFromChar right with
    | some bLeft, some bRight =>
      let (status, pb) := hexStringToBytes pDigits pb
      (status, (bRight ||| (bLeft <<< 4)) :: pb)
    | _, _ => (.badData, b :: pb)
  | _, [] => (.success, [])
  -- the source would read behind the digits, but its callers have two for each byte
  | _, pb => (.badData, pb)

example : hexStringToBytes [0x30, 0x32, 0x31, 0x41, 0x66, 0x46] [0, 0, 0] =
    (.success, [0x02, 0x1A, 0xFF]) := by decide

end UsbNcm
