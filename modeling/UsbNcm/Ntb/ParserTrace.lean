import UsbNcm.Lib.Traced
import UsbNcm.Ntb.Parse

/-!
# What the parser reads and compares

The same functions once more, with an event for each read and for each comparison of a sum. A
comparison that adds nothing has nothing to wrap, and leaves no event.
-/

open Exec ByteMemory

namespace UsbNcm.Ntb

inductive ParserEvent
  -- `size` bytes at `address` are read, as a part of the first `limit` bytes of the buffer
  | read (address size limit : Nat)
  -- the outcome in the types of the code, and the one over the integers
  | compared (outcome exact : Bool)
  deriving DecidableEq

namespace ParserEvent

def Inside : ParserEvent → Prop
  | read address size limit => address + size ≤ limit
  | compared _ _ => True

def Exact : ParserEvent → Prop
  | read _ _ _ => True
  | compared outcome exact => outcome = exact

end ParserEvent

open ParserEvent Traced

def readField (m : Memory) (address size limit : Nat) : Traced ParserEvent Nat := do
  emit (.read address size limit)
  quiet (readLe m address size)

/-- Compares the sum of `a` and `b` in `w` bits with `bound`, if the evaluation gets there. -/
def compareSum (c : Prop) [Decidable c] (w a b bound : Nat) : Traced ParserEvent Unit :=
  if c then emit (.compared (decide (sizeT w (a + b) > bound)) (decide (a + b > bound)))
  else pure ()

def tracedScanTable (w : Nat) (fmt : NtbFormat) (m : Memory) (blockLength ndp length : Nat) :
    Nat → Nat → Nat → Traced ParserEvent (Option Nat)
  | 0, _, _ => pure none
  | fuel + 1, offset, currentNdpDatagramCount => do
    emit (.compared (decide (sizeT w offset < length)) (decide (offset < length)))
    if offset < length then do
      -- the entry has to lie in its NDP, and in the block
      emit (.read (ndp + offset) fmt.sizeofDpe (ndp + length))
      emit (.read (ndp + offset) fmt.sizeofDpe blockLength)
      let datagramIndex ← quiet (readLe m (ndp + offset) fmt.ptrSize)
      if datagramIndex = 0 then return some currentNdpDatagramCount
      let datagramLength ← quiet (readLe m (ndp + offset + fmt.ptrSize) fmt.ptrSize)
      if datagramLength = 0 then return some currentNdpDatagramCount
      compareSum (¬ (datagramIndex < fmt.sizeofNth ∨ datagramIndex > blockLength)) 64 datagramIndex
        datagramLength blockLength
      if datagramIndex < fmt.sizeofNth ∨ datagramIndex > blockLength ∨
          datagramIndex + datagramLength > blockLength then
        return none
      tracedScanTable w fmt m blockLength ndp length fuel (offset + fmt.sizeofDpe)
        (currentNdpDatagramCount + 1)
    else pure none

def tracedValidateNdp (w : Nat) (fmt : NtbFormat) (m : Memory) (blockLength ndp : Nat) :
    Traced ParserEvent (Option (Nat × Nat)) := do
  compareSum (¬ ndp < fmt.sizeofNth) w ndp fmt.minDptSize blockLength
  if ndp < fmt.sizeofNth ∨ sizeT w (ndp + fmt.minDptSize) > blockLength then return none
  let signature ← readField m ndp 4 blockLength
  if signature ≠ fmt.ndpSignature then return none
  let length ← readField m (ndp + NtbFormat.ndpLengthAt) 2 blockLength
  compareSum (¬ (length < fmt.minDptSize ∨ length % 4 ≠ 0)) 32 ndp length blockLength
  if length < fmt.minDptSize ∨ length % 4 ≠ 0 ∨ (ndp + length) % 2 ^ 32 > blockLength then
    return none
  let nextNdpIndex ← readField m (ndp + fmt.ndpNextNdpIndexAt) fmt.ptrSize blockLength
  compareSum (nextNdpIndex ≠ 0 ∧ ¬ nextNdpIndex < fmt.sizeofNth) w nextNdpIndex fmt.minDptSize
    blockLength
  if nextNdpIndex ≠ 0 ∧
      (nextNdpIndex < fmt.sizeofNth ∨ sizeT w (nextNdpIndex + fmt.minDptSize) > blockLength) then
    return none
  match ← tracedScanTable w fmt m blockLength ndp length length fmt.sizeofNdp 0 with
  | none => return none
  | some currentNdpDatagramCount => return some (nextNdpIndex, currentNdpDatagramCount)

def tracedValidateNth (fmt : NtbFormat) (m : Memory) (bufferLength : Nat) :
    Traced ParserEvent (Option (Nat × Nat)) := do
  if bufferLength < fmt.sizeofNth then return none
  let signature ← readField m 0 4 bufferLength
  if signature ≠ fmt.nthSignature then return none
  let headerLength ← readField m NtbFormat.nthHeaderLengthAt 2 bufferLength
  if headerLength ≠ fmt.sizeofNth then return none
  let blockLength ← readField m NtbFormat.nthBlockLengthAt fmt.ptrSize bufferLength
  if blockLength > bufferLength then return none
  let ndpIndex ← readField m fmt.nthNdpIndexAt fmt.ptrSize bufferLength
  return some
    (if blockLength > 0 then blockLength else bufferLength % 256 ^ fmt.ptrSize, ndpIndex)

namespace NcmTransferBlock

def tracedGetNextNdp (w : Nat) (tb : NcmTransferBlock) :
    Traced ParserEvent (NtStatus × NcmTransferBlock) :=
  if tb.nextNdpIndex = 0 then pure (.noMoreEntries, tb)
  else do
    let tb := { tb with currentNdpDatagramIndex := 0, currentNdpDatagramCount := 0 }
    match ← tracedValidateNdp w tb.format tb.buffer tb.blockLength tb.nextNdpIndex with
    | none => return (.badData, tb)
    | some (nextNdpIndex, currentNdpDatagramCount) =>
      return (.success,
        { tb with
          currentNdpIndex := tb.nextNdpIndex
          nextNdpIndex := nextNdpIndex
          currentNdpDatagramCount := currentNdpDatagramCount })

def tracedPrepareToParse (w : Nat) (tb : NcmTransferBlock) (buffer : Memory) (bufferLength : Nat) :
    Traced ParserEvent (NtStatus × NcmTransferBlock) := do
  let tb := { tb with buffer := buffer, bufferLength := bufferLength }
  match ← tracedValidateNth tb.format buffer bufferLength with
  | none => return (.badData, tb)
  | some (blockLength, ndpIndex) =>
    tracedGetNextNdp w { tb with blockLength := blockLength, nextNdpIndex := ndpIndex }

end NcmTransferBlock

/-! ## Without the events -/

@[simp]
theorem readField_result (m : Memory) (address size limit : Nat) :
    (readField m address size limit).result = readLe m address size := rfl

@[simp]
theorem compareSum_result (c : Prop) [Decidable c] (w a b bound : Nat) :
    (compareSum c w a b bound).result = .ok () := by
  unfold compareSum
  split <;> rfl

@[simp]
theorem tracedScanTable_result (w : Nat) (fmt : NtbFormat) (m : Memory)
    (blockLength ndp length fuel offset count : Nat) :
    (tracedScanTable w fmt m blockLength ndp length fuel offset count).result =
      scanTable fmt m blockLength ndp length fuel offset count := by
  induction fuel generalizing offset count with
  | zero => rfl
  | succ fuel ih =>
    unfold tracedScanTable scanTable
    simp only [bind_result, emit_result, ok_bind, ite_result, quiet_result, pure_result,
      compareSum_result, ih]
    rfl

@[simp]
theorem tracedValidateNdp_result (w : Nat) (fmt : NtbFormat) (m : Memory)
    (blockLength ndp : Nat) :
    (tracedValidateNdp w fmt m blockLength ndp).result = validateNdp w fmt m blockLength ndp := by
  unfold tracedValidateNdp validateNdp
  simp only [bind_result, ite_result, compareSum_result, ok_bind, pure_result, readField_result,
    tracedScanTable_result]
  have hmatch : ∀ (next : Nat) (scanned : Option Nat),
      (match scanned with
        | none => (pure none : Traced ParserEvent (Option (Nat × Nat)))
        | some count => pure (some (next, count))).result =
      match scanned with
        | none => Except.ok none
        | some count => Except.ok (some (next, count)) := by
    intro next scanned
    cases scanned <;> rfl
  simp only [hmatch]
  rfl

@[simp]
theorem tracedValidateNth_result (fmt : NtbFormat) (m : Memory) (bufferLength : Nat) :
    (tracedValidateNth fmt m bufferLength).result = validateNth fmt m bufferLength := by
  unfold tracedValidateNth validateNth
  simp only [bind_result, ite_result, pure_result, readField_result]
  rfl

namespace NcmTransferBlock

@[simp]
theorem tracedGetNextNdp_result (w : Nat) (tb : NcmTransferBlock) :
    (tb.tracedGetNextNdp w).result = getNextNdp w tb := by
  unfold tracedGetNextNdp getNextNdp
  simp only [ite_result, pure_result, bind_result, tracedValidateNdp_result]
  split
  · rfl
  · congr 1
    funext result
    cases result <;> rfl

@[simp]
theorem tracedPrepareToParse_result (w : Nat) (tb : NcmTransferBlock) (buffer : Memory)
    (bufferLength : Nat) :
    (tb.tracedPrepareToParse w buffer bufferLength).result =
      prepareToParse w tb buffer bufferLength := by
  unfold tracedPrepareToParse prepareToParse
  simp only [bind_result, tracedValidateNth_result]
  congr 1
  funext result
  cases result with
  | none => rfl
  | some result => exact tracedGetNextNdp_result w _

end NcmTransferBlock

/-! ## With the events -/

section Events

variable {P : ParserEvent → Prop} {β : Type}

theorem all_compareSum_bind {c : Prop} [Decidable c] {w a b bound : Nat}
    {f : Unit → Traced ParserEvent β} :
    All P (compareSum c w a b bound >>= f) ↔
      (c → P (.compared (decide (sizeT w (a + b) > bound)) (decide (a + b > bound)))) ∧
        All P (f ()) := by
  by_cases h : c
  · simp [compareSum, h]
  · rw [compareSum, if_neg h]
    exact ⟨fun hall => ⟨(absurd · h), hall⟩, fun hall => hall.2⟩

theorem all_readField_bind {m : Memory} {address size limit : Nat}
    {f : Nat → Traced ParserEvent β} :
    All P (readField m address size limit >>= f) ↔
      P (.read address size limit) ∧ ∀ v, readLe m address size = .ok v → All P (f v) := by
  rw [all_bind, readField_result, readField, all_emit_bind]
  simp

end Events

end UsbNcm.Ntb
