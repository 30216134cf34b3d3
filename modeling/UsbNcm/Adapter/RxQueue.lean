import UsbNcm.Ntb.Parse
import UsbNcm.Parameters

/-!
# The receive queue (`rxqueue.cpp`, `buffers.cpp`)

`GetNextFrame` finds the next frame that the adapter wants, over datagrams and buffers. `Advance`
copies frames into the fragments that the framework has freed.
-/

open Exec ByteMemory UsbNcm.Ring UsbNcm.Ntb

namespace UsbNcm.Adapter

/-- A received buffer. The drivers read at most 0x10000 bytes at a time. -/
structure RxBuffer where
  -- the ContinuousRequestTarget and Buffer, or the BufferWdfMemory, that is given back
  handle : Nat
  useContinuousRequestTarget : Bool
  bytes : List UInt8
  bytes_lt : bytes.length < 2 ^ 31
  deriving DecidableEq

structure NcmAdapter where
  parameters : AdapterParameters
  packetFilters : UInt32
  currentMacAddress : Vector UInt8 6

inductive RxAction
  | copied (data : List UInt8)
  | returned (rxBuffer : RxBuffer)
  deriving DecidableEq

structure NcmRxQueue where
  ncmAdapter : NcmAdapter
  ntb : NcmTransferBlock
  rxBufferQueue : List RxBuffer
  rxBufferInProcessing : Option RxBuffer
  -- what has been done so far
  log : List RxAction

def ndisPacketTypeDirected : UInt32 := 0x1

def ndisPacketTypeAllMulticast : UInt32 := 0x4

def ndisPacketTypeBroadcast : UInt32 := 0x8

def ndisPacketTypePromiscuous : UInt32 := 0x20

namespace NcmAdapter

def hasFilter (ncmAdapter : NcmAdapter) (mask : UInt32) : Bool :=
  ncmAdapter.packetFilters &&& mask != 0

def matchPacketFilter (ncmAdapter : NcmAdapter) (m : Memory) (frame : Nat) : Except Stop Bool := do
  let first ← readByte m frame
  if first &&& 1 ≠ 0 then
    if first = 0xff then
      return ncmAdapter.hasFilter (ndisPacketTypeBroadcast ||| ndisPacketTypePromiscuous)
    else return ncmAdapter.hasFilter (ndisPacketTypeAllMulticast ||| ndisPacketTypePromiscuous)
  else if ncmAdapter.hasFilter ndisPacketTypePromiscuous then return true
  else if ncmAdapter.hasFilter ndisPacketTypeDirected then
    let address ← readBytes m frame 6
    return address = ncmAdapter.currentMacAddress.toList
  else return false

/-- The checks of `getNextFrame` on a datagram. -/
def wantsFrame (ncmAdapter : NcmAdapter) (m : Memory) (frame : DatagramPointer) :
    Except Stop Bool :=
  if frame.datagramLength < sizeofEthernetHeader ∨
      frame.datagramLength > ncmAdapter.parameters.maxDatagramSize.toNat then .ok false
  else ncmAdapter.matchPacketFilter m frame.datagramIndex

end NcmAdapter

namespace NcmRxQueue

/-- A queue with these buffers waiting, and a transfer block in any state. -/
def waitingQueue (ncmAdapter : NcmAdapter) (ntb : NcmTransferBlock) (buffers : List RxBuffer) :
    NcmRxQueue where
  ncmAdapter := ncmAdapter
  ntb := ntb
  rxBufferQueue := buffers
  rxBufferInProcessing := none
  log := []

def rxBufferQueueEnqueueBuffer (q : NcmRxQueue) (rxBuffer : RxBuffer) : NcmRxQueue :=
  { q with rxBufferQueue := q.rxBufferQueue ++ [rxBuffer] }

def rxBufferQueueReturnBuffer (q : NcmRxQueue) (rxBuffer : RxBuffer) : NcmRxQueue :=
  { q with rxBufferInProcessing := none, log := q.log ++ [.returned rxBuffer] }

def setNtb (q : NcmRxQueue) (ntb : NcmTransferBlock) : NcmRxQueue := { q with ntb := ntb }

/-- `rxBuffer` is taken out of the queue and the transfer block set to it. -/
def dequeued (q : NcmRxQueue) (rxBuffer : RxBuffer) (rest : List RxBuffer) (ntb : NcmTransferBlock) :
    NcmRxQueue :=
  { q with ntb := ntb, rxBufferQueue := rest, rxBufferInProcessing := some rxBuffer }

/-- The part of the loop of `getNextFrame` that looks at the next datagram. -/
def nextFrame (q : NcmRxQueue) (rxBuffer : RxBuffer) :
    Except Stop (Pass NcmRxQueue (NtStatus × DatagramPointer × NcmRxQueue)) := do
  let (status, frame, ntb) ← q.ntb.getNextDatagram 64
  if status = .success then
    if ← q.ncmAdapter.wantsFrame ntb.buffer frame then
      return .leave (.success, frame, q.setNtb ntb)
    else return .again (q.setNtb ntb)
  else return .again ((q.setNtb ntb).rxBufferQueueReturnBuffer rxBuffer)

/-- One pass of the loop of `getNextFrame`. A frame is its offset from m_Buffer and its size. -/
def getNextFrameBody (q : NcmRxQueue) :
    Except Stop (Pass NcmRxQueue (NtStatus × DatagramPointer × NcmRxQueue)) :=
  match q.rxBufferInProcessing with
  | some rxBuffer => q.nextFrame rxBuffer
  | none =>
    match q.rxBufferQueue with
    | [] => .ok (.leave (.noMoreEntries, ⟨0, 0⟩, q))
    | rxBuffer :: rest => do
      let (status, ntb) ← q.ntb.reInitializeBuffer 64 (ofBytes rxBuffer.bytes)
        rxBuffer.bytes.length .rx
      let q := q.dequeued rxBuffer rest ntb
      if status.ntSuccess then q.nextFrame rxBuffer
      else return .again (q.rxBufferQueueReturnBuffer rxBuffer)

def getNextFrame (fuel : Nat) (q : NcmRxQueue) :
    Except Stop (NtStatus × DatagramPointer × NcmRxQueue) :=
  loop getNextFrameBody fuel q

/-! ## Into the rings -/

variable {p f : Nat}

/-- The fragment, with a frame copied to its virtual address. -/
def fillFragment (fragment : NetFragment) (data : List UInt8) : NetFragment :=
  { fragment with
    offset := 0
    validLength := BitVec.ofNat 26 data.length
    virtualAddress := fun i => (data[i]?).getD (fragment.virtualAddress i) }

/-- The packet at the iterator gets the fragment at `fi`, with a frame in it. -/
def putFrame (pi : NcmPacketIterator p f) (fi : NcmOsRingIterator f) (data : List UInt8) :
    NcmPacketIterator p f :=
  let fragment := pi.osQueue.fragmentRing.elements fi.index
  { pi with
    osQueue :=
      { packetRing := pi.osQueue.packetRing.set pi.index
          { pi.getPacket with fragmentIndex := fi.index, fragmentCount := 1 }
        fragmentRing := pi.osQueue.fragmentRing.set fi.index (fillFragment fragment data) } }

/-- The loop of `advance`, with `n` fragments left. A copy past the end of the fragment stops the
run. -/
def advanceLoop (fuel : Nat) : Nat → NcmRxQueue → NcmPacketIterator p f → NcmOsRingIterator f →
    Except Stop (NcmRxQueue × NcmPacketIterator p f)
  | 0, q, pi, _ => .ok (q, pi)
  | n + 1, q, pi, fi => do
    let (status, frame, q) ← q.getNextFrame fuel
    if status = .success then
      if frame.datagramLength = 0 then throw .assertion
      let data ← readBytes q.ntb.buffer frame.datagramIndex frame.datagramLength
      if data.length > (pi.osQueue.fragmentRing.elements fi.index).capacity.toNat then
        throw .access
      advanceLoop fuel n { q with log := q.log ++ [.copied data] } (putFrame pi fi data).advance
        fi.advance
    else return (q, pi)

def advance (fuel : Nat) (q : NcmRxQueue) (osQueue : NcmOsQueue p f) :
    Except Stop (NcmRxQueue × NcmOsQueue p f) := do
  let pi := ncmGetAllPackets osQueue
  let fi := ncmGetAllFragments osQueue
  -- fi.hasAny holds as long as fi.getCount is not zero
  let (q, pi) ← advanceLoop fuel fi.getCount q pi fi
  return (q, pi.set.osQueue)

end NcmRxQueue

end UsbNcm.Adapter
