import UsbNcm.Adapter.RxReceived
import UsbNcm.Adapter.TxSent
import UsbNcm.Bus.Transfers
import UsbNcm.Function.ReceiveBuffers
import UsbNcm.Host.Completion

/-!
# What the two drivers send and receive

`Advance` of one side fills NTBs, and `TransmitFrames` makes transfers of them. The completed reads of
the other side go to its receive queue.
-/

open Exec ByteMemory RingIndex Packets UsbNcm.Ring UsbNcm.Ntb UsbNcm.Ntb.NcmTransferBlock
open UsbNcm.Adapter UsbNcm.Adapter.NcmTxQueue UsbNcm.Host UsbNcm.Function

namespace UsbNcm.Bus

variable {p f : Nat}

/-! ## What goes on the bus -/

/-- What the calls of `EvtUsbNcmTransmitFrames` ask the controller for, from the `n`-th buffer request
on. -/
def transfers (transmit : Nat → TxBufferRequest → Nat → Except Stop (NtStatus × Option Transfer)) :
    Nat → List (TxAction p) → Except Stop (List Transfer)
  | _, [] => .ok []
  | n, .transmitFrames bufferRequest transferLength _ :: log => do
    let (_, transfer) ← transmit n bufferRequest transferLength
    let rest ← transfers transmit (n + 1) log
    return transfer.toList ++ rest
  | n, .drop _ :: log => transfers transmit (n + 1) log
  | n, .returnBufferRequest _ :: log => transfers transmit n log

/-- The packets of each NTB that was sent. -/
def sentNtbs (answers : TxAnswers) : Nat → List (TxAction p) → List (List (BitVec p))
  | _, [] => []
  | n, .transmitFrames _ _ packets :: log =>
    (if (answers.transmitFrames n).ntSuccess then [packets] else []) ++ sentNtbs answers (n + 1) log
  | n, .drop _ :: log => sentNtbs answers (n + 1) log
  | n, .returnBufferRequest _ :: log => sentNtbs answers n log

theorem sentNtbs_subset (answers : TxAnswers) (n : Nat) (log : List (TxAction p)) :
    sentNtbs answers n log ⊆ builtNtbs log := by
  induction log generalizing n with
  | nil => exact List.Subset.refl _
  | cons action log ih =>
    cases action with
    | transmitFrames bufferRequest transferLength packets =>
      unfold sentNtbs
      refine List.append_subset.mpr ⟨?_, List.subset_cons_of_subset packets (ih (n + 1))⟩
      split
      · exact List.cons_subset.mpr ⟨List.mem_cons_self, List.nil_subset _⟩
      · exact List.nil_subset _
    | drop packet => exact ih (n + 1)
    | returnBufferRequest bufferRequest => exact ih n

/-- The buffers of the pool are as long as the adapter takes them to be. -/
def Mapped (parameters : AdapterParameters) (pool : Nat → Option TxBufferRequest) : Prop :=
  ∀ n bufferRequest, pool n = some bufferRequest →
    ∀ a < parameters.txMaxNtbSize.toNat, (bufferRequest.buffer a).isSome

/-- `transmit` gives the answers, and makes a transfer of what is in the buffer where it succeeds. -/
def Transmits (transmit : Nat → TxBufferRequest → Nat → Except Stop (NtStatus × Option Transfer))
    (answers : TxAnswers) (transferOf : List UInt8 → Transfer) : Prop :=
  ∀ n bufferRequest transferLength bytes, transferLength ≠ 0 →
    readBytes bufferRequest.buffer 0 transferLength = .ok bytes →
    transmit n bufferRequest transferLength = .ok (answers.transmitFrames n,
      if (answers.transmitFrames n).ntSuccess then some (transferOf bytes) else none)

section Runs

variable {parameters : AdapterParameters} {osQueue : NcmOsQueue p f} {answers : TxAnswers}
  {transmit : Nat → TxBufferRequest → Nat → Except Stop (NtStatus × Option Transfer)}
  {transferOf : List UInt8 → Transfer}

/-- Every NTB that is sent becomes a transfer, in order. -/
theorem runs_transfers (husual : Usual parameters) (hpool : Mapped parameters answers.getBufferRequest)
    (htransmits : Transmits transmit answers transferOf) {n : Nat} {packets : List (BitVec p)}
    {log : List (TxAction p)} (hruns : Runs answers parameters osQueue n packets log)
    (hpos : ∀ i ∈ packets, 0 < ncmGetPacketDataLength (packetAt osQueue i))
    (hlengths : ∀ packets ∈ builtNtbs log, FitsBuffer parameters (ntbLength parameters osQueue packets)) :
    ∃ ntbs, transfers transmit n log = .ok (ntbs.map transferOf) ∧
      List.Forall₂ (IsNtb parameters osQueue) (sentNtbs answers n log) ntbs := by
  induction hruns with
  | done => exact ⟨[], rfl, .nil⟩
  | drop _ _ ih => exact ih (fun i hi => hpos i (List.mem_cons_of_mem _ hi)) hlengths
  | @ntb n packets rest log bufferRequest tb sent transferLength hbuffer hcreated hntb hset _ ih =>
    have hbuilt : ∀ built ∈ packets :: builtNtbs log,
        FitsBuffer parameters (ntbLength parameters osQueue built) := by
      intro built hmem
      apply hlengths
      rcases List.mem_cons.mp hmem with rfl | hmem
      · exact List.mem_cons_self
      · refine List.mem_cons_of_mem _ ?_
        split <;> exact hmem
    obtain ⟨hfirst, hlater⟩ := List.forall_mem_cons.mp hbuilt
    obtain ⟨ntb, hread, hne, hisNtb⟩ := OneNtb.isNtb husual hcreated hntb hfirst
      (fun i hi => hpos i (List.mem_append_left _ hi)) (hpool n _ hbuffer) hset
    obtain ⟨ntbs, hrest, hall⟩ := ih (fun i hi => hpos i (List.mem_append_right _ hi)) hlater
    have htransmit := htransmits n { bufferRequest with buffer := sent.buffer } transferLength ntb hne hread
    cases hstatus : (answers.transmitFrames n).ntSuccess with
    | true =>
      rw [hstatus] at htransmit
      refine ⟨ntb :: ntbs, ?_, ?_⟩
      · simp only [if_true, List.cons_append, List.nil_append, transfers, htransmit, hrest, ok_bind]
        rfl
      · simp only [if_true, List.cons_append, List.nil_append, sentNtbs, hstatus]
        exact .cons hisNtb hall
    | false =>
      rw [hstatus] at htransmit
      refine ⟨ntbs, ?_, ?_⟩
      · simp only [Bool.false_eq_true, if_false, List.cons_append, List.nil_append, transfers, htransmit,
          hrest, ok_bind]
        rfl
      · simp only [Bool.false_eq_true, if_false, List.cons_append, List.nil_append, sentNtbs, hstatus]
        exact hall

/-- What is sent of the packets: they are in order and none is there twice, and where no buffer is
missing and no transfer fails they are all there. -/
structure InOrder (answers : TxAnswers) (packets : List (BitVec p)) (sent : List (List (BitVec p))) :
    Prop where
  sublist : sent.flatten.Sublist packets
  all : (∀ n, (answers.getBufferRequest n).isSome ∧ (answers.transmitFrames n).ntSuccess = true) →
    sent.flatten = packets

theorem runs_inOrder {n : Nat} {packets : List (BitVec p)} {log : List (TxAction p)}
    (hruns : Runs answers parameters osQueue n packets log) :
    InOrder answers packets (sentNtbs answers n log) := by
  induction hruns with
  | done => exact ⟨List.Sublist.slnil, fun _ => rfl⟩
  | drop hbuffer _ ih =>
    refine ⟨ih.sublist.cons _, fun hall => ?_⟩
    exact absurd hbuffer (Option.isSome_iff_ne_none.mp (hall _).1)
  | @ntb n packets rest log bufferRequest tb sent transferLength hbuffer hcreated hntb hset _ ih =>
    cases hstatus : (answers.transmitFrames n).ntSuccess with
    | true =>
      simp only [if_true, List.cons_append, List.nil_append, sentNtbs, hstatus]
      refine ⟨?_, fun hall => ?_⟩
      · exact List.Sublist.append_left ih.sublist packets
      · exact congrArg (packets ++ ·) (ih.all hall)
    | false =>
      simp only [Bool.false_eq_true, if_false, List.cons_append, List.nil_append, sentNtbs, hstatus]
      refine ⟨ih.sublist.trans (List.sublist_append_right packets rest), fun hall => ?_⟩
      have hsuccess := (hall n).2
      rw [hstatus] at hsuccess
      cases hsuccess

end Runs

/-! ## The two senders -/

def functionAnswers (pool : Nat → Option TxBufferRequest) (outcomes : Nat → Function.TransmitOutcomes) :
    TxAnswers where
  getBufferRequest := pool
  transmitFrames n := (outcomes n).status

def hostAnswers (pool : Nat → Option TxBufferRequest) (outcomes : Nat → Host.TransmitOutcomes) :
    TxAnswers where
  getBufferRequest := pool
  transmitFrames n := (outcomes n).status

theorem function_transmits (pool : Nat → Option TxBufferRequest)
    (outcomes : Nat → Function.TransmitOutcomes) {wMaxPacketSize : UInt16} (hsize : wMaxPacketSize ≠ 0) :
    Transmits (fun n => Function.transmitFrames (outcomes n) wMaxPacketSize)
      (functionAnswers pool outcomes) (functionTransfer wMaxPacketSize.toNat) := by
  intro n bufferRequest transferLength bytes hpos hbytes
  obtain ⟨hlen, -⟩ := holds_of_readBytes hbytes
  unfold functionTransfer
  rw [hlen]
  exact Function.transmitFrames_ok (outcomes n) hsize hpos hbytes

theorem host_transmits (pool : Nat → Option TxBufferRequest)
    (outcomes : Nat → Host.TransmitOutcomes) {maximumPacketSize : UInt32}
    (hsize : maximumPacketSize ≠ 0) (txMaxNtbSize : UInt32) :
    Transmits (fun n => Host.transmitFrames (outcomes n) maximumPacketSize txMaxNtbSize.toNat)
      (hostAnswers pool outcomes) (hostTransfer maximumPacketSize.toNat txMaxNtbSize.toNat) :=
  fun n _ _ _ hpos hbytes =>
    Host.transmitFrames_ok (outcomes n) hsize txMaxNtbSize.toNat_lt hpos hbytes

/-! ## The two receivers -/

/-- The completion of a read of the host hands this buffer to the queue. -/
def CompletedByHost (hostDevice : HostConfiguration) (b : RxBuffer) (read : List UInt8) : Prop :=
  ∃ memory : WdfMemory, CompletedWith hostDevice.hostSelectedNtbInMaxSize.toNat read memory.bytes ∧
    ∀ q, dataBulkInPipeReadCompletetionRoutine hostDevice q memory read.length =
      .ok (q.rxBufferQueueEnqueueBuffer b)

/-- That of the function hands over what was read, and no more. -/
def CompletedByFunction (b : RxBuffer) (read : List UInt8) : Prop :=
  ∃ outputBuffer : RxBuffer, outputBuffer.bytes = read ∧
    b = Function.BulkOut.fromContinuousRequestTarget outputBuffer

theorem CompletedByHost.begins {hostDevice : HostConfiguration} {b : RxBuffer} {read : List UInt8}
    (h : CompletedByHost hostDevice b read) : read <+: b.bytes := by
  obtain ⟨memory, hcompleted, henqueued⟩ := h
  let q := NcmRxQueue.waitingQueue (exampleAdapter 0) (initialBlock 0 0 0 0 false) []
  have hle := hcompleted.transferred.length_le
  rw [hcompleted.size] at hle
  have hsame := (dataBulkIn_ok (q := q) memory hle).symm.trans (henqueued q)
  obtain rfl : memory.rxBuffer = b := by
    have hqueue := congrArg NcmRxQueue.rxBufferQueue (Except.ok.inj hsame)
    exact (List.cons.inj hqueue).1
  exact hcompleted.transferred

theorem CompletedByFunction.begins {b : RxBuffer} {read : List UInt8}
    (h : CompletedByFunction b read) : read <+: b.bytes := by
  obtain ⟨outputBuffer, rfl, rfl⟩ := h
  exact List.prefix_refl _

/-- Whichever of the reads have been completed, and however this is interleaved with `Advance`, the
packets that come out are the wanted ones of these contents. -/
def GetsThrough (fmt : NtbFormat) (completed : RxBuffer → List UInt8 → Prop)
    (reads : List (List UInt8)) (contents : List (List (List UInt8))) : Prop :=
  ∀ (p f : Nat) (ncmAdapter : NcmAdapter) (ntb : NcmTransferBlock) (events : List (NcmRxQueue.RxEvent p f))
    (k : Nat), ntb.format = fmt →
    List.Forall₂ completed (NcmRxQueue.arrivals events) (reads.take k) →
    (∀ osQueue, .advance osQueue ∈ events → NcmRxQueue.Suits ncmAdapter osQueue) →
    ∃ enough q rings, NcmRxQueue.Received ncmAdapter (contents.take k) events rings ∧
      ∀ fuel, enough ≤ fuel →
        NcmRxQueue.run fuel (NcmRxQueue.waitingQueue ncmAdapter ntb []) events = .ok (q, rings)

theorem getsThrough_of_carries {fmt : NtbFormat} {completed : RxBuffer → List UInt8 → Prop}
    {reads : List (List UInt8)} {contents : List (List (List UInt8))}
    (hstarts : ∀ b read, completed b read → read <+: b.bytes)
    (hcarries : List.Forall₂ (Carries fmt) reads contents) :
    GetsThrough fmt completed reads contents := by
  intro p f ncmAdapter ntb events k hformat harrivals hrings
  apply NcmRxQueue.run_received ncmAdapter ntb events ?_ hrings
  rw [hformat]
  have htaken := List.forall₂_take k hcarries
  generalize NcmRxQueue.arrivals events = buffers at harrivals
  generalize reads.take k = taken at harrivals htaken
  generalize contents.take k = given at htaken
  clear hcarries hrings
  induction harrivals generalizing given with
  | nil =>
    cases htaken
    exact .nil
  | cons hfirst _ ih =>
    cases htaken with
    | cons hcarried hrest => exact .cons ⟨_, hstarts _ _ hfirst, hcarried⟩ (ih _ hrest)

end UsbNcm.Bus
