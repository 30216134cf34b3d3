import UsbNcm.Adapter.Link
import UsbNcm.Adapter.RxLastFrame
import UsbNcm.Function.Parameters
import UsbNcm.Host.Transmit

/-!
# What a completed read of the host does (`host/device.cpp`)

The bulk routine does not pass on how many bytes were transferred, and the interrupt routine checks
their number only against the header of a notification. When the bytes behind the transferred ones,
which are left from an earlier transfer, make no difference.
-/

open Exec ByteMemory UsbNcm.Ntb UsbNcm.Adapter UsbNcm.Adapter.NcmRxQueue

namespace UsbNcm.Host

/-! ## The completion routines -/

/-- A memory object of a continuous reader. -/
structure WdfMemory where
  handle : Nat
  bytes : List UInt8
  bytes_lt : bytes.length < 2 ^ 31

/-- The buffer that `RxBufferQueueEnqueueBuffer` makes of a memory object, of all of it. -/
def WdfMemory.rxBuffer (memory : WdfMemory) : RxBuffer where
  handle := memory.handle
  useContinuousRequestTarget := false
  bytes := memory.bytes
  bytes_lt := memory.bytes_lt

def evtUsbNcmAdapterNotifyReceive (q : NcmRxQueue) (bufferMemory : WdfMemory) : NcmRxQueue :=
  q.rxBufferQueueEnqueueBuffer bufferMemory.rxBuffer

def dataBulkInPipeReadCompletetionRoutine (hostDevice : HostConfiguration) (q : NcmRxQueue)
    (memory : WdfMemory) (numBytesTransferred : Nat) : Except Stop NcmRxQueue :=
  -- the assertion compares with (UINT32)numBytesTransferred
  if hostDevice.hostSelectedNtbInMaxSize.toNat < numBytesTransferred % 2 ^ 32 then .error .assertion
  else .ok (evtUsbNcmAdapterNotifyReceive q memory)

/-- `sizeof(USB_CDC_NOTIFICATION)` -/
def sizeofUsbCdcNotification : Nat := 8

def usbCdcNotificationNetworkConnection : UInt8 := 0x00

def usbCdcNotificationConnectionSpeedChange : UInt8 := 0x2a

-- USB_CDC_NOTIFICATION: bmRequestType at 0, then bNotificationCode, wValue, wIndex, wLength.
-- CDC_CONN_SPEED_CHANGE: USBitRate and DSBITRate come behind it.
def controlInterruptPipeReadCompletetionRoutine (link : AdapterLink) (memory : Memory)
    (numBytesTransfered : Nat) : Except Stop AdapterLink :=
  if numBytesTransfered < sizeofUsbCdcNotification then .ok link
  else do
    let bNotificationCode ← readByte memory 1
    if bNotificationCode = usbCdcNotificationNetworkConnection then
      let wValue ← readLe memory 2 2
      return link.setLinkState (wValue ≠ 0)
    else if bNotificationCode = usbCdcNotificationConnectionSpeedChange then
      let usBitRate ← readLe memory 8 4
      let dsBitRate ← readLe memory 12 4
      return link.setLinkSpeed (UInt64.ofNat usBitRate) (UInt64.ofNat dsBitRate)
    else return link

/-! ## Does it depend on the transferred bytes only -/

/-- The buffer has this size and begins with the transferred bytes. What is behind them was there
before. -/
structure CompletedWith (size : Nat) (transferred bytes : List UInt8) : Prop where
  size : bytes.length = size
  transferred : transferred <+: bytes

/-- The receive queue belongs to the adapter that the device has created. -/
structure Serves (hostDevice : HostConfiguration) (q : NcmRxQueue) : Prop where
  parameters : q.ncmAdapter.parameters = adapterParameters hostDevice
  format : q.ntb.format = if hostDevice.use32BitNtb then .ntb32 else .ntb16

/-- Two completions that differ only behind the transferred bytes deliver the same frames, and those
out of the completed memory end with the transferred bytes. -/
def BulkDependsOnTransfer (hostDevice : HostConfiguration) (q : NcmRxQueue)
    (transferred : List UInt8) : Prop :=
  ∀ memory memory' : WdfMemory, memory.handle = memory'.handle →
    memory.handle ∉ q.pending.map RxBuffer.handle →
    CompletedWith hostDevice.hostSelectedNtbInMaxSize.toNat transferred memory.bytes →
    CompletedWith hostDevice.hostSelectedNtbInMaxSize.toNat transferred memory'.bytes →
    ∃ q1 q2,
      dataBulkInPipeReadCompletetionRoutine hostDevice q memory transferred.length = .ok q1 ∧
      dataBulkInPipeReadCompletetionRoutine hostDevice q memory' transferred.length = .ok q2 ∧
      ∀ frames, Delivers q1 frames → Delivers q2 frames ∧
        ∀ frame ∈ frames, frame.handle = memory.handle →
          frame.pointer.datagramIndex + frame.pointer.datagramLength ≤ transferred.length

/-- Two completions that differ only behind the transferred bytes do the same with the link. -/
def InterruptDependsOnTransfer (size : Nat) (transferred : List UInt8) : Prop :=
  ∀ (link : AdapterLink) (bytes bytes' : List UInt8), CompletedWith size transferred bytes →
    CompletedWith size transferred bytes' →
    ∃ link',
      controlInterruptPipeReadCompletetionRoutine link (ofBytes bytes) transferred.length =
        .ok link' ∧
      controlInterruptPipeReadCompletetionRoutine link (ofBytes bytes') transferred.length =
        .ok link'

/-! ## The interrupt pipe -/

theorem controlInterrupt_below {m m' : Memory} (hm : Extends m m') (link : AdapterLink) (n : Nat) :
    Below (controlInterruptPipeReadCompletetionRoutine link m n)
      (controlInterruptPipeReadCompletetionRoutine link m' n) := by
  unfold controlInterruptPipeReadCompletetionRoutine
  refine .ite (.refl _) ((hm.readByte _).bind fun code => .ite ?_ (.ite ?_ (.refl _)))
  · exact (hm.readLe _ _).bind fun wValue => .refl _
  · exact (hm.readLe _ _).bind fun usBitRate => (hm.readLe _ _).bind fun dsBitRate => .refl _

/-- Where nothing behind the transferred bytes is read, they are enough. -/
theorem controlInterrupt_ok (link : AdapterLink) (transferred : List UInt8)
    (h : transferred.length < 8 ∨ transferred[1]? ≠ some 0x2a ∨ 16 ≤ transferred.length) :
    ∃ link', controlInterruptPipeReadCompletetionRoutine link (ofBytes transferred)
      transferred.length = .ok link' := by
  unfold controlInterruptPipeReadCompletetionRoutine sizeofUsbCdcNotification
  by_cases hshort : transferred.length < 8
  · exact ⟨link, if_pos hshort⟩
  · have hread : ∀ a n, a + n ≤ transferred.length → ∃ v, readLe (ofBytes transferred) a n = .ok v :=
      fun a n hle => readLe_ok fun i _ hi => mapped_ofBytes transferred i (by omega)
    obtain ⟨code, hcode⟩ := readByte_ok (mapped_ofBytes transferred 1 (by omega))
    obtain ⟨wValue, hwValue⟩ := hread 2 2 (by omega)
    rw [if_neg hshort]
    simp only [hcode, hwValue, ok_bind]
    split
    · exact ⟨_, rfl⟩
    · split
      · next hspeed =>
        -- a change of speed, so all of it was transferred
        have hlong : 16 ≤ transferred.length := by
          refine ((h.resolve_left hshort).resolve_left ?_)
          rw [not_not]
          unfold readByte ofBytes at hcode
          split at hcode
          · next b hb =>
            cases hcode
            rw [hb, hspeed]
            rfl
          · cases hcode
        obtain ⟨usBitRate, hus⟩ := hread 8 4 (by omega)
        obtain ⟨dsBitRate, hds⟩ := hread 12 4 (by omega)
        simp only [hus, hds, ok_bind]
        exact ⟨_, rfl⟩
      · exact ⟨_, rfl⟩

/-- The transferred bytes, and these bytes behind them up to the size. -/
def filledUp (size : Nat) (transferred : List UInt8) (b : UInt8) : List UInt8 :=
  transferred ++ List.replicate (size - transferred.length) b

theorem completedWith_filledUp {size : Nat} {transferred : List UInt8} (b : UInt8)
    (h : transferred.length ≤ size) : CompletedWith size transferred (filledUp size transferred b) := by
  refine ⟨?_, List.prefix_append _ _⟩
  rw [filledUp, List.length_append, List.length_replicate]
  omega

theorem filledUp_getElem? {size i : Nat} {transferred : List UInt8} (b : UInt8)
    (hi : transferred.length ≤ i) (hsize : i < size) : (filledUp size transferred b)[i]? = some b := by
  rw [filledUp, List.getElem?_append_right hi, List.getElem?_replicate, if_pos (by omega)]

/-- A change of speed is read up to byte 15, however much of it was transferred. -/
theorem rxLinkSpeed_of_controlInterrupt {link link' : AdapterLink} {m : Memory} {n : Nat}
    (hn : sizeofUsbCdcNotification ≤ n) (hcode : m 1 = some 0x2a)
    (h : controlInterruptPipeReadCompletetionRoutine link m n = .ok link') :
    ∃ dsBitRate, readLe m 12 4 = .ok dsBitRate ∧ link'.rxLinkSpeed = UInt64.ofNat dsBitRate := by
  have hbyte : readByte m 1 = .ok 0x2a := by
    unfold readByte
    rw [hcode]
  unfold controlInterruptPipeReadCompletetionRoutine at h
  rw [if_neg (Nat.not_lt.mpr hn), hbyte, ok_bind, if_neg (by decide), if_pos (by decide)] at h
  obtain ⟨usBitRate, hus, h⟩ := bind_eq_ok.mp h
  obtain ⟨dsBitRate, hds, h⟩ := bind_eq_ok.mp h
  cases h
  exact ⟨dsBitRate, hds, rfl⟩

theorem interrupt_dependsOnTransfer_iff {size : Nat} {transferred : List UInt8}
    (h : transferred.length ≤ size) : InterruptDependsOnTransfer size transferred ↔
      transferred.length < 8 ∨ transferred[1]? ≠ some 0x2a ∨ 16 ≤ transferred.length := by
  constructor
  · intro hdepends
    by_contra hnot
    rw [not_or, not_or, not_not] at hnot
    obtain ⟨hlong, hcode, hshort⟩ := hnot
    obtain ⟨link', hzero, hone⟩ := hdepends startedLink _ _ (completedWith_filledUp 0 h)
      (completedWith_filledUp 1 h)
    have hcode' : ∀ b, ofBytes (filledUp size transferred b) 1 = some 0x2a := by
      intro b
      rw [ofBytes, filledUp, List.getElem?_append_left (by omega), hcode]
    obtain ⟨ds, hds, hspeed⟩ := rxLinkSpeed_of_controlInterrupt (Nat.not_lt.mp hlong) (hcode' 0) hzero
    obtain ⟨ds', hds', hspeed'⟩ := rxLinkSpeed_of_controlInterrupt (Nat.not_lt.mp hlong) (hcode' 1) hone
    have hlt := readLe_lt hds
    have hlt' := readLe_lt hds'
    -- the same speed would need the same byte 15
    have heq : ds' = ds := by
      have hnat := congrArg UInt64.toNat (hspeed'.symm.trans hspeed)
      rw [UInt64.toNat_ofNat', UInt64.toNat_ofNat'] at hnat
      omega
    rw [heq] at hds'
    have hmapped := isSome_of_readLe hds 15 (by omega) (by omega)
    have hsize : 15 < size := by
      have := lt_of_ofBytes_isSome hmapped
      rwa [(completedWith_filledUp 0 h).size] at this
    have hbyte := readLe_inj hds hds' (i := 15) (by omega) (by omega)
    rw [ofBytes, ofBytes, filledUp_getElem? 0 (by omega) hsize,
      filledUp_getElem? 1 (by omega) hsize] at hbyte
    cases hbyte
  · intro hcond link bytes bytes' hbytes hbytes'
    obtain ⟨link', hlink⟩ := controlInterrupt_ok link transferred hcond
    exact ⟨link', controlInterrupt_below (extends_ofBytes hbytes.transferred) _ _ _ hlink,
      controlInterrupt_below (extends_ofBytes hbytes'.transferred) _ _ _ hlink⟩

/-! ## The bulk pipe -/

variable {hostDevice : HostConfiguration} {q : NcmRxQueue} {transferred : List UInt8}

/-- The format that the parser of the device takes the buffers for. -/
def HostConfiguration.format (hostDevice : HostConfiguration) : NtbFormat :=
  if hostDevice.use32BitNtb then .ntb32 else .ntb16

def HostConfiguration.minNtbSize (hostDevice : HostConfiguration) : Nat :=
  hostDevice.format.sizeofNth + hostDevice.format.minDptSize

theorem dataBulkIn_ok (memory : WdfMemory)
    (h : transferred.length ≤ hostDevice.hostSelectedNtbInMaxSize.toNat) :
    dataBulkInPipeReadCompletetionRoutine hostDevice q memory transferred.length =
      .ok (q.rxBufferQueueEnqueueBuffer memory.rxBuffer) := by
  unfold dataBulkInPipeReadCompletetionRoutine
  rw [if_neg]
  · rfl
  · have := Nat.mod_le transferred.length (2 ^ 32)
    omega

/-- It is enough to look at queues with nothing else in them. -/
theorem bulk_dependsOnTransfer_of_alone (hq : Serves hostDevice q)
    (hle : transferred.length ≤ hostDevice.hostSelectedNtbInMaxSize.toNat)
    (halone : ∀ (q : NcmRxQueue) (memory memory' : WdfMemory) frames, q.pending = [] →
      Serves hostDevice q → memory.handle = memory'.handle →
      CompletedWith hostDevice.hostSelectedNtbInMaxSize.toNat transferred memory.bytes →
      CompletedWith hostDevice.hostSelectedNtbInMaxSize.toNat transferred memory'.bytes →
      Delivers (q.rxBufferQueueEnqueueBuffer memory.rxBuffer) frames →
        Delivers (q.rxBufferQueueEnqueueBuffer memory'.rxBuffer) frames ∧ ∀ frame ∈ frames,
          frame.pointer.datagramIndex + frame.pointer.datagramLength ≤ transferred.length) :
    BulkDependsOnTransfer hostDevice q transferred := by
  intro memory memory' hhandle hnew hbytes hbytes'
  refine ⟨_, _, dataBulkIn_ok memory hle, dataBulkIn_ok memory' hle, ?_⟩
  intro frames hdelivers
  obtain ⟨hdelivers', hframes⟩ := delivers_behind (fun q1 frames hnil hadapter hformat =>
    halone q1 memory memory' frames hnil
      ⟨by rw [hadapter]; exact hq.parameters, hformat.trans hq.format⟩ hhandle hbytes hbytes')
    rfl rfl hdelivers
  refine ⟨hdelivers', fun frame hframe hsame => hframes frame hframe ?_⟩
  rwa [hsame]

theorem bulk_dependsOnTransfer_of_full (hq : Serves hostDevice q)
    (h : transferred.length = hostDevice.hostSelectedNtbInMaxSize.toNat) :
    BulkDependsOnTransfer hostDevice q transferred := by
  apply bulk_dependsOnTransfer_of_alone hq (Nat.le_of_eq h)
  intro q memory memory' frames hnil _ hhandle hbytes hbytes' hdelivers
  have hall : ∀ {bytes : List UInt8},
      CompletedWith hostDevice.hostSelectedNtbInMaxSize.toNat transferred bytes →
        bytes = transferred := fun hb =>
    (hb.transferred.eq_of_length (h.trans hb.size.symm)).symm
  have hsame : memory'.rxBuffer = memory.rxBuffer := by
    obtain ⟨handle, bytes, hlt⟩ := memory
    obtain ⟨handle', bytes', hlt'⟩ := memory'
    cases hhandle
    cases hall hbytes
    cases hall hbytes'
    rfl
  rw [hsame]
  refine ⟨hdelivers, fun frame hframe => ?_⟩
  have hin := delivers_alone_inBuffer hnil hdelivers hframe
  rwa [show memory.rxBuffer.bytes = transferred from hall hbytes] at hin

theorem bulk_dependsOnTransfer_of_small (hq : Serves hostDevice q)
    (hle : transferred.length ≤ hostDevice.hostSelectedNtbInMaxSize.toNat)
    (h : hostDevice.hostSelectedNtbInMaxSize.toNat < hostDevice.minNtbSize) :
    BulkDependsOnTransfer hostDevice q transferred := by
  apply bulk_dependsOnTransfer_of_alone hq hle
  intro q memory memory' frames hnil hq _ hbytes _ hdelivers
  have hrejected : Rejected q.ntb.format memory.rxBuffer.bytes := by
    apply rejected_of_small
    rw [hq.format]
    exact lt_of_eq_of_lt hbytes.size h
  rw [delivers_alone_iff hnil (Or.inl ⟨hrejected, rfl⟩)] at hdelivers
  obtain rfl : frames = [] := List.prefix_nil.mp hdelivers
  exact ⟨.nothing, by simp⟩

theorem bulk_dependsOnTransfer_of_noFrames (hq : Serves hostDevice q)
    (hle : transferred.length ≤ hostDevice.hostSelectedNtbInMaxSize.toNat)
    (h : hostDevice.maxDatagramSize.toNat < sizeofEthernetHeader) :
    BulkDependsOnTransfer hostDevice q transferred := by
  apply bulk_dependsOnTransfer_of_alone hq hle
  intro q memory memory' frames _ hq _ _ _ hdelivers
  cases frames with
  | nil => exact ⟨.nothing, by simp⟩
  | cons frame frames =>
    have hsize := hdelivers.size List.mem_cons_self
    have hparameters : (q.rxBufferQueueEnqueueBuffer memory.rxBuffer).ncmAdapter.parameters =
        adapterParameters hostDevice := hq.parameters
    rw [hparameters] at hsize
    exact absurd (Nat.le_trans hsize.1 hsize.2) (Nat.not_le.mpr h)

/-- A transferred NTB that gives its length is not affected by what is behind it. -/
theorem bulk_dependsOnTransfer_of_walk (hq : Serves hostDevice q)
    (hle : transferred.length ≤ hostDevice.hostSelectedNtbInMaxSize.toNat)
    {ds : List DatagramPointer} (hwalk : Walk hostDevice.format transferred ds)
    (hgives : GivesBlockLength hostDevice.format transferred) :
    BulkDependsOnTransfer hostDevice q transferred := by
  apply bulk_dependsOnTransfer_of_alone hq hle
  intro q memory memory' frames hnil hq hhandle hbytes hbytes' hdelivers
  have hin : ∀ d ∈ ds, d.datagramIndex + d.datagramLength ≤ transferred.length :=
    fun d hd => hwalk.inBuffer hd
  have hcontents : ∀ {bytes : List UInt8}, transferred <+: bytes → Contents q.ntb.format bytes ds := by
    intro bytes hlonger
    rw [hq.format]
    exact Or.inr (hwalk.extends hgives hlonger)
  rw [delivers_alone_iff hnil (hcontents hbytes.transferred),
    delivered_of_prefix _ hbytes.transferred hin] at hdelivers
  rw [delivers_alone_iff hnil (hcontents hbytes'.transferred),
    delivered_of_prefix _ hbytes'.transferred hin]
  refine ⟨?_, fun frame hframe => ?_⟩
  · rwa [show memory'.rxBuffer.handle = memory.rxBuffer.handle from hhandle.symm]
  · obtain ⟨d, hd, rfl⟩ := List.mem_map.mp (hdelivers.subset hframe)
    exact hin d (List.mem_of_mem_filter hd)

/-- A frame at the end of the memory is delivered, though the end was not transferred. -/
theorem not_bulkDependsOnTransfer {bytes : List UInt8} {n : Nat}
    (hlast : LastFrame q.ncmAdapter q.ntb.format hostDevice.hostSelectedNtbInMaxSize.toNat bytes)
    (hnil : q.pending = []) (hmin : sizeofEthernetHeader ≤ hostDevice.hostSelectedNtbInMaxSize.toNat)
    (hmax : hostDevice.hostSelectedNtbInMaxSize.toNat < 2 ^ 31)
    (hn : n < hostDevice.hostSelectedNtbInMaxSize.toNat) :
    ¬ BulkDependsOnTransfer hostDevice q (bytes.take n) := by
  intro hdepends
  obtain ⟨hlen, hframe⟩ := hlast
  let memory : WdfMemory := ⟨0, bytes, by rw [hlen]; exact hmax⟩
  have hcompleted : CompletedWith hostDevice.hostSelectedNtbInMaxSize.toNat (bytes.take n)
      memory.bytes := ⟨hlen, List.take_prefix _ _⟩
  have htaken : (bytes.take n).length = n := by
    rw [List.length_take, hlen]
    omega
  obtain ⟨q1, q2, hq1, -, hall⟩ := hdepends memory memory rfl (by rw [hnil]; simp) hcompleted hcompleted
  rw [dataBulkIn_ok memory (by rw [htaken]; omega)] at hq1
  cases hq1
  obtain ⟨data, hdelivers⟩ := hframe q memory.rxBuffer hnil rfl rfl rfl
  have hbound := (hall _ hdelivers).2 _ List.mem_cons_self rfl
  rw [htaken] at hbound
  change hostDevice.hostSelectedNtbInMaxSize.toNat - sizeofEthernetHeader + sizeofEthernetHeader ≤ n
    at hbound
  omega

def promiscuousQueue (hostDevice : HostConfiguration) : NcmRxQueue :=
  waitingQueue
    { exampleAdapter ndisPacketTypePromiscuous with parameters := adapterParameters hostDevice }
    (NcmTransferBlock.initialBlock 16 4 4 0 hostDevice.use32BitNtb) []

/-! ## The result -/

/-- A read of the bulk pipe depends on the transferred bytes only, for all bytes of a length, exactly
when they fill the memory or no memory of its size has a frame. A transferred NTB that gives its
length is safe. A read of the interrupt pipe does unless it is the beginning of a change of speed. -/
theorem completion_dependsOnTransfer_iff (hostDevice : HostConfiguration)
    (hsize : hostDevice.hostSelectedNtbInMaxSize ≤ maxHostNtbSize) :
    (∀ n ≤ hostDevice.hostSelectedNtbInMaxSize.toNat,
      (∀ q transferred, Serves hostDevice q → transferred.length = n →
        BulkDependsOnTransfer hostDevice q transferred) ↔
        n = hostDevice.hostSelectedNtbInMaxSize.toNat ∨
          hostDevice.hostSelectedNtbInMaxSize.toNat < hostDevice.minNtbSize ∨
          hostDevice.maxDatagramSize.toNat < sizeofEthernetHeader) ∧
    (∀ q transferred ds, Serves hostDevice q →
      transferred.length ≤ hostDevice.hostSelectedNtbInMaxSize.toNat →
      Walk hostDevice.format transferred ds → GivesBlockLength hostDevice.format transferred →
        BulkDependsOnTransfer hostDevice q transferred) ∧
    ∀ size transferred, transferred.length ≤ size →
      (InterruptDependsOnTransfer size transferred ↔
        transferred.length < 8 ∨ transferred[1]? ≠ some 0x2a ∨ 16 ≤ transferred.length) := by
  refine ⟨fun n hn => ⟨?_, ?_⟩, ?_, fun size transferred h => interrupt_dependsOnTransfer_iff h⟩
  · intro hdepends
    by_contra hnot
    rw [not_or, not_or] at hnot
    obtain ⟨hne, hmin, hmax⟩ := hnot
    have hle : hostDevice.hostSelectedNtbInMaxSize.toNat ≤ 0x10000 := UInt32.le_iff_toNat_le.mp hsize
    obtain ⟨bytes, hlast⟩ : ∃ bytes, LastFrame (promiscuousQueue hostDevice).ncmAdapter
        hostDevice.format hostDevice.hostSelectedNtbInMaxSize.toNat bytes :=
      exists_lastFrame rfl (Nat.not_lt.mp hmax) (Nat.not_lt.mp hmin) hle
    have h14 : sizeofEthernetHeader ≤ hostDevice.hostSelectedNtbInMaxSize.toNat := by
      unfold HostConfiguration.minNtbSize NtbFormat.minDptSize at hmin
      have hs := hostDevice.format.sizes
      unfold sizeofEthernetHeader
      omega
    refine not_bulkDependsOnTransfer (q := promiscuousQueue hostDevice) hlast rfl h14 (by omega)
      (Nat.lt_of_le_of_ne hn hne) (hdepends _ _ ⟨rfl, rfl⟩ ?_)
    rw [List.length_take, hlast.1]
    omega
  · intro hcond q transferred hq hlen
    subst hlen
    rcases hcond with hfull | hsmall | hnone
    · exact bulk_dependsOnTransfer_of_full hq hfull
    · exact bulk_dependsOnTransfer_of_small hq hn hsmall
    · exact bulk_dependsOnTransfer_of_noFrames hq hn hnone
  · intro q transferred ds hq hle hwalk hgives
    exact bulk_dependsOnTransfer_of_walk hq hle hwalk hgives

def connectedHost : HostConfiguration := (selectNtbParameters newHost Function.ntbParameters).2

theorem completion_dependsOnTransfer_iff_zeroLength :
    connectedHost.hostSelectedNtbInMaxSize ≤ maxHostNtbSize ∧
      ((∀ q transferred, Serves connectedHost q → transferred.length = 0 →
        BulkDependsOnTransfer connectedHost q transferred) ↔
          0 = connectedHost.hostSelectedNtbInMaxSize.toNat ∨
            connectedHost.hostSelectedNtbInMaxSize.toNat < connectedHost.minNtbSize ∨
            connectedHost.maxDatagramSize.toNat < sizeofEthernetHeader) :=
  ⟨hostSelectedNtbInMaxSize_le rfl,
    (completion_dependsOnTransfer_iff connectedHost (hostSelectedNtbInMaxSize_le rfl)).1 0
      (Nat.zero_le _)⟩

/-- After a packet of length zero the NTB that was in the memory before is delivered once more. A
change of speed of which only the header was transferred takes the speeds from what was there. -/
theorem completion_depends_on_stale_bytes :
    ¬ BulkDependsOnTransfer connectedHost (promiscuousQueue connectedHost) [] ∧
      ¬ InterruptDependsOnTransfer 16 [0xA1, 0x2A, 0, 0, 0, 0, 8, 0] := by
  constructor
  · have hlast : LastFrame (promiscuousQueue connectedHost).ncmAdapter .ntb32 0x10000
        (oneTable .ntb32 0x10000 ⟨0x10000 - sizeofEthernetHeader, sizeofEthernetHeader⟩) :=
      lastFrame_oneTable rfl (by decide) (by decide) (by decide)
    exact not_bulkDependsOnTransfer (n := 0) hlast rfl (by decide) (by decide) (by decide)
  · rw [interrupt_dependsOnTransfer_iff (by decide)]
    decide

end UsbNcm.Host
