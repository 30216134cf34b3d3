import UsbNcm.Adapter.TxQueue
import UsbNcm.Lib.Packets

/-!
# The bulk pipes

What the two `TransmitFrames` put on the bus, and how the reads at the other end are filled by it. The
function sends a packet of length zero behind a full last packet, and the host a byte more.
-/

open Exec ByteMemory Packets UsbNcm.Ntb UsbNcm.Adapter

namespace UsbNcm

/-- What a controller is asked to send. -/
structure Transfer where
  bytes : List UInt8
  -- a packet of length zero goes behind a full last packet
  appendZeroPkt : Bool
  deriving DecidableEq, Repr

/-- The packets of the transfer, on a pipe with packets of at most `m` bytes. -/
def Transfer.packets (m : Nat) (transfer : Transfer) : List (List UInt8) :=
  Packets.packets m transfer.appendZeroPkt transfer.bytes

/-- Whether `WdfRequestSend` sends the request. Where it does not, the status of the request is that
of a failure. -/
inductive SendOutcome
  | sent
  | refused (status : NtStatus) (failed : ¬ status.ntSuccess)

/-! ## The function driver -/

namespace Function

/-- `STATUS_CANCELLED`, of which only matters that it is an error. -/
def statusCancelled : NtStatus := .unsuccessful

/-- What the framework answers to a `TransmitFrames`. -/
structure TransmitOutcomes where
  acquireRundownProtection : Bool
  pipeIdWdfMemoryFind : NtStatus
  formatRequestForInternalIoctl : NtStatus
  requestSend : SendOutcome

def formatRequestForUsbFnTransferIn (outcomes : TransmitOutcomes) : NtStatus :=
  if ¬ outcomes.pipeIdWdfMemoryFind.ntSuccess then outcomes.pipeIdWdfMemoryFind
  else if ¬ outcomes.formatRequestForInternalIoctl.ntSuccess then
    outcomes.formatRequestForInternalIoctl
  else .success

/-- `TransmitFrames`, with the maximum packet size of `m_BulkIn`. A transfer is what the controller
gets. -/
def transmitFrames (outcomes : TransmitOutcomes) (wMaxPacketSize : UInt16)
    (bufferRequest : TxBufferRequest) (transferLength : Nat) :
    Except Stop (NtStatus × Option Transfer) :=
  if outcomes.acquireRundownProtection then
    if transferLength = 0 then .error .assertion
    -- the remainder of a division by zero
    else if wMaxPacketSize = 0 then .error .access
    else
      let status := formatRequestForUsbFnTransferIn outcomes
      if status.ntSuccess then
        match outcomes.requestSend with
        | .sent => do
          let bytes ← readBytes bufferRequest.buffer 0 transferLength
          return (status, some ⟨bytes, decide (transferLength % wMaxPacketSize.toNat = 0)⟩)
        | .refused status _ => .ok (status, none)
      else .ok (status, none)
  else .ok (statusCancelled, none)

def TransmitOutcomes.status (outcomes : TransmitOutcomes) : NtStatus :=
  if outcomes.acquireRundownProtection then
    let status := formatRequestForUsbFnTransferIn outcomes
    if status.ntSuccess then
      match outcomes.requestSend with
      | .sent => status
      | .refused status _ => status
    else status
  else statusCancelled

/-- It fails or sends what is in the buffer. -/
theorem transmitFrames_ok (outcomes : TransmitOutcomes) {wMaxPacketSize : UInt16}
    (hsize : wMaxPacketSize ≠ 0) {bufferRequest : TxBufferRequest} {transferLength : Nat}
    (hpos : transferLength ≠ 0) {bytes : List UInt8}
    (hbytes : readBytes bufferRequest.buffer 0 transferLength = .ok bytes) :
    transmitFrames outcomes wMaxPacketSize bufferRequest transferLength = .ok (outcomes.status,
      if outcomes.status.ntSuccess then
        some ⟨bytes, decide (transferLength % wMaxPacketSize.toNat = 0)⟩ else none) := by
  unfold transmitFrames TransmitOutcomes.status
  rw [if_neg hpos, if_neg hsize]
  dsimp only
  split
  · split
    · next hstatus =>
      cases outcomes.requestSend with
      | sent =>
        rw [if_pos hstatus]
        simp only [hbytes, ok_bind]
        rfl
      | refused status failed => rw [if_neg failed]
    · rfl
  · rfl

end Function

/-! ## The host driver -/

namespace Host

structure TransmitOutcomes where
  formatRequestForWrite : NtStatus
  requestSend : SendOutcome

/-- The pad byte. A buffer that is full gets none. -/
def padTransfer (maximumPacketSize : UInt32) (bufferLength : Nat) (bufferRequest : TxBufferRequest)
    (transferLength : Nat) : Except Stop (TxBufferRequest × Nat) :=
  if transferLength < bufferLength then
    if maximumPacketSize = 0 then .error .access
    else if transferLength % maximumPacketSize.toNat = 0 then
      .ok ({ bufferRequest with buffer := write bufferRequest.buffer transferLength [0] },
        transferLength + 1)
    else .ok (bufferRequest, transferLength)
  else .ok (bufferRequest, transferLength)

/-- `TransmitFrames`, with the `m_DataBulkOutPipeMaximumPacketSize`. -/
def transmitFrames (outcomes : TransmitOutcomes) (maximumPacketSize : UInt32) (bufferLength : Nat)
    (bufferRequest : TxBufferRequest) (transferLength : Nat) :
    Except Stop (NtStatus × Option Transfer) :=
  if transferLength = 0 then .error .assertion
  else do
    let (bufferRequest, transferLength) ←
      padTransfer maximumPacketSize bufferLength bufferRequest transferLength
    if outcomes.formatRequestForWrite.ntSuccess then
      match outcomes.requestSend with
      | .sent => do
        let bytes ← readBytes bufferRequest.buffer 0 transferLength
        return (outcomes.formatRequestForWrite, some ⟨bytes, false⟩)
      | .refused status _ => .ok (status, none)
    else .ok (outcomes.formatRequestForWrite, none)

def TransmitOutcomes.status (outcomes : TransmitOutcomes) : NtStatus :=
  if outcomes.formatRequestForWrite.ntSuccess then
    match outcomes.requestSend with
    | .sent => outcomes.formatRequestForWrite
    | .refused status _ => status
  else outcomes.formatRequestForWrite

/-- The bytes of a transfer of the host: those of the NTB, and the pad byte. -/
def padded (m bufferLength : Nat) (bytes : List UInt8) : List UInt8 :=
  if bytes.length < bufferLength ∧ bytes.length % m = 0 then bytes ++ [0] else bytes

theorem prefix_padded (m bufferLength : Nat) (bytes : List UInt8) :
    bytes <+: padded m bufferLength bytes := by
  unfold padded
  split
  · exact List.prefix_append bytes [0]
  · exact List.prefix_refl bytes

theorem padTransfer_ok {maximumPacketSize : UInt32} (hsize : maximumPacketSize ≠ 0)
    {bufferLength : Nat} (hbuffer : bufferLength < 2 ^ 32) {bufferRequest : TxBufferRequest}
    {transferLength : Nat} {bytes : List UInt8}
    (hbytes : readBytes bufferRequest.buffer 0 transferLength = .ok bytes) :
    ∃ bufferRequest' transferLength', padTransfer maximumPacketSize bufferLength bufferRequest
        transferLength = .ok (bufferRequest', transferLength') ∧
      readBytes bufferRequest'.buffer 0 transferLength' =
        .ok (padded maximumPacketSize.toNat bufferLength bytes) := by
  obtain ⟨hlen, hheld⟩ := holds_of_readBytes hbytes
  unfold padTransfer padded
  rw [hlen, if_neg hsize]
  by_cases hroom : transferLength < bufferLength
  · by_cases hfull : transferLength % maximumPacketSize.toNat = 0
    · rw [if_pos hroom, if_pos hfull, if_pos ⟨hroom, hfull⟩]
      refine ⟨_, _, rfl, ?_⟩
      have hpad : Holds (write bufferRequest.buffer transferLength [0]) 0 (bytes ++ [0]) := by
        refine holds_append.mpr ⟨?_, ?_⟩
        · have hone : ([0] : List UInt8).length = 1 := rfl
          exact holds_write_outside hheld (by omega) (by omega) (Or.inl (by omega))
        · rw [Nat.zero_add, hlen]
          apply holds_write
          simp only [List.length_singleton]
          omega
      have hread := readBytes_of_holds hpad
      rwa [List.length_append, hlen] at hread
    · rw [if_pos hroom, if_neg hfull, if_neg fun h => hfull h.2]
      exact ⟨_, _, rfl, hbytes⟩
  · rw [if_neg hroom, if_neg fun h => hroom h.1]
    exact ⟨_, _, rfl, hbytes⟩

/-- It fails or sends what is in the buffer, padded. -/
theorem transmitFrames_ok (outcomes : TransmitOutcomes) {maximumPacketSize : UInt32}
    (hsize : maximumPacketSize ≠ 0) {bufferLength : Nat} (hbuffer : bufferLength < 2 ^ 32)
    {bufferRequest : TxBufferRequest} {transferLength : Nat} (hpos : transferLength ≠ 0)
    {bytes : List UInt8} (hbytes : readBytes bufferRequest.buffer 0 transferLength = .ok bytes) :
    transmitFrames outcomes maximumPacketSize bufferLength bufferRequest transferLength =
      .ok (outcomes.status, if outcomes.status.ntSuccess then
        some ⟨padded maximumPacketSize.toNat bufferLength bytes, false⟩ else none) := by
  obtain ⟨bufferRequest', transferLength', hpad, hpadded⟩ := padTransfer_ok hsize hbuffer hbytes
  unfold transmitFrames TransmitOutcomes.status
  rw [if_neg hpos, hpad, ok_bind]
  dsimp only
  split
  · next hstatus =>
    cases outcomes.requestSend with
    | sent =>
      rw [if_pos hstatus]
      simp only [hpadded, ok_bind]
      rfl
    | refused status failed => rw [if_neg failed]
  · rfl

end Host

/-! ## What is read at the other end -/

namespace Bus

variable {size : Nat} {ntbs : List (List UInt8)}

/-- What the function is asked to send with this NTB. -/
def functionTransfer (m : Nat) (ntb : List UInt8) : Transfer :=
  ⟨ntb, decide (ntb.length % m = 0)⟩

def hostTransfer (m bufferLength : Nat) (ntb : List UInt8) : Transfer :=
  ⟨Host.padded m bufferLength ntb, false⟩

theorem functionTransfer_packets (m : Nat) (ntb : List UInt8) :
    (functionTransfer m ntb).packets m = Packets.packets m true ntb := by
  unfold functionTransfer Transfer.packets Packets.packets
  by_cases hfull : ntb.length % m = 0 <;> simp [hfull]

/-- The host reads each NTB of the function whole, and behind one that fills the read an empty one. -/
theorem receiveAll_functionTransfer {m : Nat} (hm : 0 < m) (hsize : 0 < size) (hdvd : m ∣ size)
    (hle : ∀ ntb ∈ ntbs, ntb.length ≤ size) :
    receiveAll m size ⟨[], []⟩ ((ntbs.map (functionTransfer m)).flatMap (Transfer.packets m)) =
      some ⟨[], ntbs.flatMap (readsOf size true)⟩ := by
  have hpackets : (ntbs.map (functionTransfer m)).flatMap (Transfer.packets m) =
      ntbs.flatMap (Packets.packets m true) := by
    rw [List.flatMap_map]
    exact congrArg (ntbs.flatMap ·) (funext (functionTransfer_packets m))
  rw [hpackets, receiveAll_flatMap hm hsize hdvd fun ntb hntb => ⟨hle ntb hntb, fun _ => Or.inr rfl⟩]
  rfl

theorem padded_delimited {m : Nat} (hm : 1 < m) {ntb : List UInt8} (hle : ntb.length ≤ size) :
    Delimited m size false (Host.padded m size ntb) := by
  unfold Host.padded
  split
  · next h =>
    have hmod : (ntb.length + 1) % m = 1 := by
      rw [Nat.add_mod, h.2, Nat.zero_add, Nat.mod_mod, Nat.mod_eq_of_lt hm]
    refine ⟨?_, fun hzero => ?_⟩
    · rw [List.length_append, List.length_singleton]
      exact h.1
    · rw [List.length_append, List.length_singleton, hmod] at hzero
      cases hzero
  · next h =>
    refine ⟨hle, fun hzero => Or.inl (Nat.le_antisymm hle ?_)⟩
    exact Nat.not_lt.mp fun hlt => h ⟨hlt, hzero⟩

/-- The function reads each NTB of the host, and the pad byte, in one read. -/
theorem receiveAll_hostTransfer {m : Nat} (hm : 1 < m) (hsize : 0 < size) (hdvd : m ∣ size)
    (hle : ∀ ntb ∈ ntbs, ntb.length ≤ size) :
    receiveAll m size ⟨[], []⟩ ((ntbs.map (hostTransfer m size)).flatMap (Transfer.packets m)) =
      some ⟨[], ntbs.map (Host.padded m size)⟩ := by
  have hpackets : (ntbs.map (hostTransfer m size)).flatMap (Transfer.packets m) =
      (ntbs.map (Host.padded m size)).flatMap (Packets.packets m false) := by
    rw [List.flatMap_map, List.flatMap_map]
    rfl
  rw [hpackets, receiveAll_flatMap (by omega) hsize hdvd, flatMap_readsOf_iff.mpr (Or.inl rfl)]
  · rfl
  · intro xs hxs
    obtain ⟨ntb, hntb, rfl⟩ := List.mem_map.mp hxs
    exact padded_delimited hm (hle ntb hntb)

end Bus

end UsbNcm
