import UsbNcm.Lib.AlignUp
import UsbNcm.Ntb.Format
import UsbNcm.Ring

/-!
# The transfer block (`ntb.cpp`)

One class reads the NTBs that arrive and builds those that leave. `w` is the width of `size_t` in
the functions that read; the ones that write are those of the 64-bit build.
-/

open Exec ByteMemory AlignUp UsbNcm.Ring

namespace UsbNcm.Ntb

structure NcmTransferBlock where
  -- m_Is32bitNtb, and with it the template instantiation
  format : NtbFormat
  sequence : UInt16
  ntbMaxDatagrams : UInt16
  ndpAlignment : UInt16
  ndpDivisor : UInt16
  ndpPayloadRemainder : UInt16
  -- the memory at m_Buffer, by offset from m_Buffer
  buffer : Memory
  bufferLength : Nat
  blockLength : Nat
  currentNdpIndex : Nat
  nextNdpIndex : Nat
  currentNdpDatagramIndex : Nat
  currentNdpDatagramCount : Nat
  currentBufferOffset : Nat
  datagramPointerTable : List DatagramPointer

inductive NtbDirection
  | rx
  | tx
  deriving DecidableEq, Repr

/-- A sum in `size_t`. -/
def sizeT (w n : Nat) : Nat := n % 2 ^ w

namespace NcmTransferBlock

def initialBlock (ntbMaxDatagrams ndpAlignment ndpDivisor ndpPayloadRemainder : UInt16)
    (use32bitNtb : Bool) : NcmTransferBlock where
  format := if use32bitNtb then .ntb32 else .ntb16
  sequence := 0
  ntbMaxDatagrams := ntbMaxDatagrams
  ndpAlignment := ndpAlignment
  ndpDivisor := ndpDivisor
  ndpPayloadRemainder := ndpPayloadRemainder
  buffer := fun _ => none
  bufferLength := 0
  blockLength := 0
  currentNdpIndex := 0
  nextNdpIndex := 0
  currentNdpDatagramIndex := 0
  currentNdpDatagramCount := 0
  currentBufferOffset := 0
  datagramPointerTable := List.replicate (ntbMaxDatagrams.toNat + 1) ⟨0, 0⟩

def initializeNtb (ntbMaxDatagrams ndpAlignment ndpDivisor ndpPayloadRemainder : UInt16)
    (use32bitNtb : Bool) : Except Stop NcmTransferBlock :=
  if ntbMaxDatagrams = 0 then .error .assertion
  else .ok (initialBlock ntbMaxDatagrams ndpAlignment ndpDivisor ndpPayloadRemainder use32bitNtb)

/-! ## Reading

The parts of `getNextNdp` and `prepareToParse` that only look at the received bytes come first.
-/

end NcmTransferBlock

/-- `sizeof(NDP) + 2 * sizeof(DPE)` -/
def NtbFormat.minDptSize (fmt : NtbFormat) : Nat := fmt.sizeofNdp + 2 * fmt.sizeofDpe

/-- The scan of `getNextNdp` from `offset` on: how many entries come before the first null entry,
or none where the table is refused. `fuel` bounds the number of entries. -/
def scanTable (fmt : NtbFormat) (m : Memory) (blockLength ndp length : Nat) :
    Nat → Nat → Nat → Except Stop (Option Nat)
  | 0, _, _ => .ok none
  | fuel + 1, offset, currentNdpDatagramCount =>
    if offset < length then do
      let datagramIndex ← readLe m (ndp + offset) fmt.ptrSize
      if datagramIndex = 0 then return some currentNdpDatagramCount
      let datagramLength ← readLe m (ndp + offset + fmt.ptrSize) fmt.ptrSize
      if datagramLength = 0 then return some currentNdpDatagramCount
      if datagramIndex < fmt.sizeofNth ∨ datagramIndex > blockLength ∨
          datagramIndex + datagramLength > blockLength then
        return none
      scanTable fmt m blockLength ndp length fuel (offset + fmt.sizeofDpe)
        (currentNdpDatagramCount + 1)
    else .ok none

/-- The checks of `getNextNdp` on the NDP at `ndp`: its link and its number of entries, or none
where it is refused. -/
def validateNdp (w : Nat) (fmt : NtbFormat) (m : Memory) (blockLength ndp : Nat) :
    Except Stop (Option (Nat × Nat)) := do
  if ndp < fmt.sizeofNth ∨ sizeT w (ndp + fmt.minDptSize) > blockLength then return none
  let signature ← readLe m ndp 4
  if signature ≠ fmt.ndpSignature then return none
  let length ← readLe m (ndp + NtbFormat.ndpLengthAt) 2
  -- m_NextNdpIndex + ndpHeader.Length is a sum in UINT32
  if length < fmt.minDptSize ∨ length % 4 ≠ 0 ∨ (ndp + length) % 2 ^ 32 > blockLength then
    return none
  let nextNdpIndex ← readLe m (ndp + fmt.ndpNextNdpIndexAt) fmt.ptrSize
  if nextNdpIndex ≠ 0 ∧
      (nextNdpIndex < fmt.sizeofNth ∨ sizeT w (nextNdpIndex + fmt.minDptSize) > blockLength) then
    return none
  match ← scanTable fmt m blockLength ndp length length fmt.sizeofNdp 0 with
  | none => return none
  | some currentNdpDatagramCount => return some (nextNdpIndex, currentNdpDatagramCount)

/-- The checks of `prepareToParse` on the NTH: the block length to go on with and the index of the
first NDP, or none where it is refused. -/
def validateNth (fmt : NtbFormat) (m : Memory) (bufferLength : Nat) :
    Except Stop (Option (Nat × Nat)) := do
  if bufferLength < fmt.sizeofNth then return none
  let signature ← readLe m 0 4
  if signature ≠ fmt.nthSignature then return none
  let headerLength ← readLe m NtbFormat.nthHeaderLengthAt 2
  if headerLength ≠ fmt.sizeofNth then return none
  let blockLength ← readLe m NtbFormat.nthBlockLengthAt fmt.ptrSize
  if blockLength > bufferLength then return none
  let ndpIndex ← readLe m fmt.nthNdpIndexAt fmt.ptrSize
  -- an omitted length is (PTR_SIZE) m_BufferLength, which is at most MAXUINT16 or MAXUINT32
  return some
    (if blockLength > 0 then blockLength else bufferLength % 256 ^ fmt.ptrSize, ndpIndex)

namespace NcmTransferBlock

def getNextNdp (w : Nat) (tb : NcmTransferBlock) : Except Stop (NtStatus × NcmTransferBlock) :=
  if tb.nextNdpIndex = 0 then .ok (.noMoreEntries, tb)
  else do
    let tb := { tb with currentNdpDatagramIndex := 0, currentNdpDatagramCount := 0 }
    match ← validateNdp w tb.format tb.buffer tb.blockLength tb.nextNdpIndex with
    | none => return (.badData, tb)
    | some (nextNdpIndex, currentNdpDatagramCount) =>
      return (.success,
        { tb with
          currentNdpIndex := tb.nextNdpIndex
          nextNdpIndex := nextNdpIndex
          currentNdpDatagramCount := currentNdpDatagramCount })

def prepareToParse (w : Nat) (tb : NcmTransferBlock) (buffer : Memory) (bufferLength : Nat) :
    Except Stop (NtStatus × NcmTransferBlock) := do
  let tb := { tb with buffer := buffer, bufferLength := bufferLength }
  match ← validateNth tb.format buffer bufferLength with
  | none => return (.badData, tb)
  | some (blockLength, ndpIndex) =>
    getNextNdp w { tb with blockLength := blockLength, nextNdpIndex := ndpIndex }

def readPtr (tb : NcmTransferBlock) (a : Nat) : Except Stop Nat :=
  readLe tb.buffer a tb.format.ptrSize

/-- The entry at the cursor. `getNextDatagram` does not check it again. -/
def currentDatagram (tb : NcmTransferBlock) : Except Stop DatagramPointer := do
  let entry := tb.currentNdpIndex + tb.format.sizeofNdp +
    tb.currentNdpDatagramIndex * tb.format.sizeofDpe
  let datagramIndex ← tb.readPtr entry
  let datagramLength ← tb.readPtr (entry + tb.format.ptrSize)
  return ⟨datagramIndex, datagramLength⟩

def advanceCursor (tb : NcmTransferBlock) : NcmTransferBlock :=
  { tb with currentNdpDatagramIndex := (tb.currentNdpDatagramIndex + 1) % 2 ^ 32 }

@[simp]
theorem advanceCursor_format (tb : NcmTransferBlock) : tb.advanceCursor.format = tb.format := rfl

@[simp]
theorem advanceCursor_buffer (tb : NcmTransferBlock) : tb.advanceCursor.buffer = tb.buffer := rfl

/-- The status, the datagram when there is one, and the block with its cursor moved on. -/
def getNextDatagram (w : Nat) (tb : NcmTransferBlock) :
    Except Stop (NtStatus × DatagramPointer × NcmTransferBlock) := do
  let (status, tb) ←
    if tb.currentNdpDatagramIndex = tb.currentNdpDatagramCount then getNextNdp w tb
    else pure (.success, tb)
  if status ≠ .success then return (status, ⟨0, 0⟩, tb)
  let datagram ← tb.currentDatagram
  return (.success, datagram, tb.advanceCursor)

/-! ## Writing -/

def prepareToConstruct (tb : NcmTransferBlock) (buffer : Memory) (bufferLength : Nat) :
    NcmTransferBlock :=
  { tb with
    buffer := buffer
    bufferLength := bufferLength
    sequence := tb.sequence + 1
    currentBufferOffset := tb.format.sizeofNth
    datagramPointerTable := List.replicate (tb.ntbMaxDatagrams.toNat + 1) ⟨0, 0⟩ }

def clearBlock (tb : NcmTransferBlock) : NcmTransferBlock :=
  { tb with
    blockLength := 0
    currentNdpIndex := 0
    nextNdpIndex := 0
    currentNdpDatagramIndex := 0
    currentNdpDatagramCount := 0
    currentBufferOffset := 0 }

def reInitializeBuffer (w : Nat) (tb : NcmTransferBlock) (buffer : Memory) (bufferLength : Nat)
    (direction : NtbDirection) : Except Stop (NtStatus × NcmTransferBlock) :=
  match direction with
  | .rx => prepareToParse w tb.clearBlock buffer bufferLength
  | .tx => .ok (.success, prepareToConstruct tb.clearBlock buffer bufferLength)

/-- Where the next datagram starts: the current offset and the padding that puts its payload at
the divisor and remainder. -/
def datagramOffset (tb : NcmTransferBlock) : Nat :=
  (alignUpBy (tb.currentBufferOffset + sizeofEthernetHeader) tb.ndpDivisor.toNat +
    tb.ndpPayloadRemainder.toNat + (2 ^ 64 - sizeofEthernetHeader)) % 2 ^ 64

/-- Where the NDP would start behind a next datagram of this length. -/
def ndpOffsetAfter (tb : NcmTransferBlock) (datagramLength : Nat) : Nat :=
  alignUpBy (tb.datagramOffset + datagramLength) tb.ndpAlignment.toNat

def totalNtbSizeNeeded (tb : NcmTransferBlock) (datagramLength : Nat) : Nat :=
  (tb.ndpOffsetAfter datagramLength + tb.format.sizeofNdp +
    (tb.currentNdpDatagramCount + 1) * tb.format.sizeofDpe) % 2 ^ 64

def copyNextDatagram {p f : Nat} (tb : NcmTransferBlock) (pi : NcmPacketIterator p f) :
    NtStatus × NcmTransferBlock :=
  if tb.currentNdpDatagramCount ≥ tb.ntbMaxDatagrams.toNat then (.bufferTooSmall, tb)
  else
    let datagramLength := ncmGetPacketDataLength pi
    if tb.totalNtbSizeNeeded datagramLength > tb.bufferLength then (.bufferTooSmall, tb)
    else
      (.success,
        { tb with
          buffer := (ncmCopyPacketDataToBuffer tb.buffer tb.datagramOffset pi datagramLength).1
          datagramPointerTable := tb.datagramPointerTable.set tb.currentNdpDatagramCount
            ⟨tb.datagramOffset % 256 ^ tb.format.ptrSize, datagramLength % 256 ^ tb.format.ptrSize⟩
          currentNdpDatagramCount := tb.currentNdpDatagramCount + 1
          currentBufferOffset := (tb.datagramOffset + datagramLength) % 2 ^ 64 })

def entryBytes (fmt : NtbFormat) (d : DatagramPointer) : List UInt8 :=
  leBytes fmt.ptrSize d.datagramIndex ++ leBytes fmt.ptrSize d.datagramLength

def ndpOffset (tb : NcmTransferBlock) : Nat :=
  alignUpBy tb.currentBufferOffset tb.ndpAlignment.toNat

/-- The size of the table with the null entry at its end. -/
def datagramPointerTableSize (tb : NcmTransferBlock) : Nat :=
  (tb.currentNdpDatagramCount + 1) * tb.format.sizeofDpe

/-- The NDP with its table. The reserved words of an NDP32 stay as they are. -/
def writeNdp (tb : NcmTransferBlock) : Memory :=
  let fmt := tb.format
  let m := writeLe tb.buffer tb.ndpOffset 4 fmt.ndpSignature
  let m := writeLe m (tb.ndpOffset + NtbFormat.ndpLengthAt) 2
    (fmt.sizeofNdp + tb.datagramPointerTableSize)
  let m := writeLe m (tb.ndpOffset + fmt.ndpNextNdpIndexAt) fmt.ptrSize 0
  write m (tb.ndpOffset + fmt.sizeofNdp)
    ((tb.datagramPointerTable.take (tb.currentNdpDatagramCount + 1)).flatMap (entryBytes fmt))

/-- The NTH. The block length is computed from the length field of the NDP, which is read back. -/
def writeNth (tb : NcmTransferBlock) (m : Memory) : Except Stop Memory := do
  let fmt := tb.format
  let m := writeLe m 0 4 fmt.nthSignature
  let m := writeLe m NtbFormat.nthHeaderLengthAt 2 fmt.sizeofNth
  let m := writeLe m NtbFormat.nthSequenceAt 2 tb.sequence.toNat
  let ndpLength ← readLe m ((tb.ndpOffset + NtbFormat.ndpLengthAt) % 2 ^ 64) 2
  let m := writeLe m NtbFormat.nthBlockLengthAt fmt.ptrSize (tb.ndpOffset + ndpLength)
  return writeLe m fmt.nthNdpIndexAt fmt.ptrSize tb.ndpOffset

/-- Writes the NDP and the NTH, and returns the transfer length. -/
def setNdp (tb : NcmTransferBlock) : Except Stop (Nat × NcmTransferBlock) := do
  if tb.currentNdpDatagramCount = 0 then throw .assertion
  let m ← tb.writeNth tb.writeNdp
  let transferLength ← readLe m NtbFormat.nthBlockLengthAt tb.format.ptrSize
  return (transferLength, { tb with buffer := m })

end NcmTransferBlock

end UsbNcm.Ntb
