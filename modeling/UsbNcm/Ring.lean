import UsbNcm.Lib.ByteMemory
import UsbNcm.Lib.RingIndex

/-!
# Packet and fragment rings (`ncmringiterator.h`)

A ring has `2 ^ k` slots, so `ElementIndexMask` is `2 ^ k - 1` and an index is a `k`-bit word.
-/

open ByteMemory RingIndex

namespace UsbNcm.Ring

structure NetRing (k : Nat) (α : Type) where
  beginIndex : BitVec k
  endIndex : BitVec k
  elements : BitVec k → α

namespace NetRing

variable {k : Nat} {α : Type}

/-- Puts `x` in slot `i`. -/
def set (ring : NetRing k α) (i : BitVec k) (x : α) : NetRing k α :=
  { ring with elements := fun j => if j = i then x else ring.elements j }

def incrementIndex (i : BitVec k) : BitVec k := i + 1#k

def advanceIndex (i : BitVec k) (n : Nat) : BitVec k := i + BitVec.ofNat k n

def rangeCount (start stop : BitVec k) : Nat := count start stop

end NetRing

/-- A fragment and the memory at its virtual address. The lengths are 26-bit fields. -/
structure NetFragment where
  capacity : BitVec 26
  validLength : BitVec 26
  offset : Nat
  virtualAddress : Nat → UInt8

structure NetPacket (f : Nat) where
  fragmentIndex : BitVec f
  fragmentCount : UInt16
  ignore : Bool

structure NcmOsQueue (p f : Nat) where
  packetRing : NetRing p (NetPacket f)
  fragmentRing : NetRing f NetFragment

structure NcmOsRingIterator (k : Nat) where
  index : BitVec k
  last : BitVec k

namespace NcmOsRingIterator

variable {k : Nat}

def hasAny (it : NcmOsRingIterator k) : Bool := it.index != it.last

def getCount (it : NcmOsRingIterator k) : Nat := count it.index it.last

def advance (it : NcmOsRingIterator k) : NcmOsRingIterator k :=
  { it with index := NetRing.incrementIndex it.index }

variable {it : NcmOsRingIterator k}

theorem hasAny_iff : it.hasAny = true ↔ it.index ≠ it.last := by simp [hasAny]

theorem not_hasAny_iff : it.hasAny = false ↔ it.index = it.last := by simp [hasAny]

theorem getCount_pos_iff : 0 < it.getCount ↔ it.hasAny = true := by
  rw [hasAny_iff, Nat.pos_iff_ne_zero]
  exact not_congr count_eq_zero

theorem getCount_advance (h : it.hasAny = true) : it.getCount = it.advance.getCount + 1 :=
  count_succ (hasAny_iff.mp h)

end NcmOsRingIterator

/-- An iterator over the packets of a queue, with the queue it points into. -/
structure NcmPacketIterator (p f : Nat) extends NcmOsRingIterator p where
  osQueue : NcmOsQueue p f

def ncmGetAllPackets {p f : Nat} (osQueue : NcmOsQueue p f) : NcmPacketIterator p f where
  index := osQueue.packetRing.beginIndex
  last := osQueue.packetRing.endIndex
  osQueue := osQueue

def ncmGetAllFragments {p f : Nat} (osQueue : NcmOsQueue p f) : NcmOsRingIterator f where
  index := osQueue.fragmentRing.beginIndex
  last := osQueue.fragmentRing.endIndex

namespace NcmPacketIterator

variable {p f : Nat}

def getPacket (pi : NcmPacketIterator p f) : NetPacket f :=
  pi.osQueue.packetRing.elements pi.index

def getFragmentIterator (pi : NcmPacketIterator p f) : NcmOsRingIterator f where
  index := pi.getPacket.fragmentIndex
  last := NetRing.advanceIndex pi.getPacket.fragmentIndex pi.getPacket.fragmentCount.toNat

def advance (pi : NcmPacketIterator p f) : NcmPacketIterator p f :=
  { pi with toNcmOsRingIterator := pi.toNcmOsRingIterator.advance }

/-- Gives the packets before the iterator back to the framework, and their fragments. -/
def set (pi : NcmPacketIterator p f) : NcmPacketIterator p f :=
  let packetRing := pi.osQueue.packetRing
  let iteratedCount := NetRing.rangeCount packetRing.beginIndex pi.index
  let fragmentRing :=
    if iteratedCount > 0 then
      let lastPacketIndex := NetRing.advanceIndex packetRing.beginIndex (iteratedCount - 1)
      let packet := packetRing.elements lastPacketIndex
      { pi.osQueue.fragmentRing with
        beginIndex := NetRing.advanceIndex packet.fragmentIndex packet.fragmentCount.toNat }
    else pi.osQueue.fragmentRing
  { pi with osQueue :=
    { packetRing := { packetRing with beginIndex := pi.index }, fragmentRing := fragmentRing } }

def fragments (pi : NcmPacketIterator p f) : List NetFragment :=
  let fi := pi.getFragmentIterator
  (range fi.index fi.last).map pi.osQueue.fragmentRing.elements

end NcmPacketIterator

def NetFragment.data (fragment : NetFragment) : List UInt8 :=
  (List.range fragment.validLength.toNat).map fun i => fragment.virtualAddress (fragment.offset + i)

def packetData {p f : Nat} (pi : NcmPacketIterator p f) : List UInt8 :=
  pi.fragments.flatMap NetFragment.data

def ncmGetPacketDataLength {p f : Nat} (pi : NcmPacketIterator p f) : Nat :=
  pi.fragments.foldl (fun length fragment => length + fragment.validLength.toNat) 0

def copyFragments : List NetFragment → Memory → Nat → Nat → Nat → Memory × Nat
  | [], m, _, _, bytesCopied => (m, bytesCopied)
  | fragment :: rest, m, bufferDest, bufferLength, bytesCopied =>
    if bufferLength > 0 then
      let bytesToCopy :=
        if bufferLength < fragment.validLength.toNat then bufferLength
        else fragment.validLength.toNat
      copyFragments rest (write m bufferDest (fragment.data.take bytesToCopy))
        ((bufferDest + bytesToCopy) % 2 ^ 64) (bufferLength - bytesToCopy) (bytesCopied + bytesToCopy)
    else (m, bytesCopied)

/-- Writes at most `bufferLength` bytes of the packet at `bufferDest`, and counts them. -/
def ncmCopyPacketDataToBuffer {p f : Nat} (m : Memory) (bufferDest : Nat)
    (pi : NcmPacketIterator p f) (bufferLength : Nat) : Memory × Nat :=
  copyFragments pi.fragments m bufferDest bufferLength 0

/-- A queue that holds one packet of `n` bytes, and the iterator at it. -/
def singlePacket (n : BitVec 26) : NcmPacketIterator 1 1 :=
  ncmGetAllPackets
    { packetRing :=
        { beginIndex := 0
          endIndex := 1
          elements := fun _ => { fragmentIndex := 0, fragmentCount := 1, ignore := false } }
      fragmentRing :=
        { beginIndex := 0
          endIndex := 1
          elements := fun _ =>
            { capacity := n, validLength := n, offset := 0, virtualAddress := fun _ => 0 } } }

/-- A queue that holds `count` packets of `n` bytes, each in a fragment of its own. -/
def packetsOf (count : BitVec 5) (n : BitVec 26) : NcmOsQueue 5 5 where
  packetRing :=
    { beginIndex := 0
      endIndex := count
      elements := fun i => { fragmentIndex := i, fragmentCount := 1, ignore := false } }
  fragmentRing :=
    { beginIndex := 0
      endIndex := count
      elements := fun _ =>
        { capacity := n, validLength := n, offset := 0, virtualAddress := fun _ => 0 } }

/-! ## What a packet holds -/

variable {p f : Nat}

theorem NcmPacketIterator.set_packets (pi : NcmPacketIterator p f) :
    pi.set.osQueue.packetRing.elements = pi.osQueue.packetRing.elements := rfl

theorem NcmPacketIterator.set_fragments (pi : NcmPacketIterator p f) :
    pi.set.osQueue.fragmentRing.elements = pi.osQueue.fragmentRing.elements := by
  unfold NcmPacketIterator.set
  dsimp only
  split <;> rfl

@[simp]
theorem NetFragment.data_length (fragment : NetFragment) :
    fragment.data.length = fragment.validLength.toNat := by simp [NetFragment.data]

theorem fragments_length_lt (pi : NcmPacketIterator p f) : pi.fragments.length < 2 ^ 16 := by
  have hcount := count_add pi.getPacket.fragmentIndex
    (BitVec.ofNat f pi.getPacket.fragmentCount.toNat)
  have hle : (BitVec.ofNat f pi.getPacket.fragmentCount.toNat).toNat ≤
      pi.getPacket.fragmentCount.toNat := by
    rw [BitVec.toNat_ofNat]
    exact Nat.mod_le _ _
  have hlt := pi.getPacket.fragmentCount.toNat_lt
  simp only [NcmPacketIterator.fragments, List.length_map, range_length,
    NcmPacketIterator.getFragmentIterator, NetRing.advanceIndex, hcount]
  omega

theorem foldl_length (fragments : List NetFragment) (n : Nat) :
    fragments.foldl (fun length fragment => length + fragment.validLength.toNat) n =
      n + (fragments.flatMap NetFragment.data).length := by
  induction fragments generalizing n with
  | nil => simp
  | cons fragment rest ih =>
    rw [List.foldl_cons, ih, List.flatMap_cons, List.length_append, NetFragment.data_length]
    omega

theorem ncmGetPacketDataLength_eq (pi : NcmPacketIterator p f) :
    ncmGetPacketDataLength pi = (packetData pi).length := by
  rw [ncmGetPacketDataLength, foldl_length, packetData, Nat.zero_add]

theorem flatMap_data_length_le (fragments : List NetFragment) :
    (fragments.flatMap NetFragment.data).length ≤ fragments.length * 2 ^ 26 := by
  induction fragments with
  | nil => simp
  | cons fragment rest ih =>
    have hlt : fragment.validLength.toNat < 2 ^ 26 := fragment.validLength.isLt
    rw [List.flatMap_cons, List.length_append, NetFragment.data_length, List.length_cons]
    omega

/-- A packet has at most 2 ^ 16 fragments of less than 2 ^ 26 bytes. -/
theorem ncmGetPacketDataLength_lt (pi : NcmPacketIterator p f) :
    ncmGetPacketDataLength pi < 2 ^ 42 := by
  have hle := flatMap_data_length_le pi.fragments
  have hcount := fragments_length_lt pi
  rw [ncmGetPacketDataLength_eq, packetData]
  omega

/-- The copy loop writes the first bytes of the fragments, as one write. -/
theorem copyFragments_eq (fragments : List NetFragment) (m : Memory) (dest len copied : Nat)
    (hd : dest < 2 ^ 64) (hsize : (fragments.flatMap NetFragment.data).length ≤ 2 ^ 64) :
    copyFragments fragments m dest len copied =
      (write m dest ((fragments.flatMap NetFragment.data).take len),
        copied + min len (fragments.flatMap NetFragment.data).length) := by
  induction fragments generalizing m dest len copied with
  | nil => simp [copyFragments, write_nil]
  | cons fragment rest ih =>
    have hlen := NetFragment.data_length fragment
    simp only [List.flatMap_cons, List.length_append] at hsize ⊢
    rw [copyFragments]
    split
    · have hk : (fragment.data.take (min len fragment.data.length)).length =
          min len fragment.data.length := by simp
      have hmin : (if len < fragment.validLength.toNat then len else fragment.validLength.toNat) =
          min len fragment.data.length := by
        rw [hlen]
        split <;> omega
      simp only [hmin]
      rw [ih _ _ _ _ (Nat.mod_lt _ (by decide)) (by omega)]
      congr 1
      · have hw := write_write m dest (fragment.data.take (min len fragment.data.length))
          ((rest.flatMap NetFragment.data).take (len - min len fragment.data.length))
          (by rw [hk, List.length_take]; omega)
        rw [hk] at hw
        rw [hw, List.take_append]
        congr 2
        · rw [← List.take_take, List.take_length]
        · congr 1
          omega
      · omega
    · have h0 : len = 0 := by omega
      simp [h0, write_nil]

/-- With room for the whole packet, the copy writes it whole. -/
theorem ncmCopyPacketDataToBuffer_eq (m : Memory) (dest : Nat) (pi : NcmPacketIterator p f)
    (hd : dest < 2 ^ 64) :
    ncmCopyPacketDataToBuffer m dest pi (ncmGetPacketDataLength pi) =
      (write m dest (packetData pi), ncmGetPacketDataLength pi) := by
  have hlt := ncmGetPacketDataLength_lt pi
  have hlen := ncmGetPacketDataLength_eq pi
  rw [ncmCopyPacketDataToBuffer, copyFragments_eq _ _ _ _ _ hd (by rw [← packetData]; omega),
    ← packetData, hlen, List.take_length, Nat.min_self, Nat.zero_add]

end UsbNcm.Ring
