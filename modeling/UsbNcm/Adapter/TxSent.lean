import UsbNcm.Adapter.TxRuns
import UsbNcm.Ntb.Carries
import UsbNcm.Ntb.Disclosure

/-!
# The NTBs that `Advance` sends

The bytes of an NTB carry its packets, and how many there are depends on the packets alone.
-/

open Exec ByteMemory RingIndex UsbNcm.Ring UsbNcm.Ntb UsbNcm.Ntb.NcmTransferBlock

namespace UsbNcm.Adapter.NcmTxQueue

variable {p f : Nat} {parameters : AdapterParameters} {tb tb' sent : NcmTransferBlock}
  {osQueue : NcmOsQueue p f} {packets rest : List (BitVec p)}

/-- The packets of each NTB that was built, whether it was sent or not. -/
def builtNtbs (log : List (TxAction p)) : List (List (BitVec p)) :=
  log.filterMap fun action =>
    match action with
    | .transmitFrames _ _ packets => some packets
    | .drop _ | .returnBufferRequest _ => none

/-! ## The length -/

/-- Where the table of an NTB with these packets ends. -/
def ntbLength (parameters : AdapterParameters) (osQueue : NcmOsQueue p f)
    (packets : List (BitVec p)) : Nat :=
  ((emptyNtb parameters).offers (offered osQueue packets)).ndpEnd

/-- The blocks differ at most in their buffers, their entries and their sequence numbers. -/
structure SameLayout (tb tb' : NcmTransferBlock) : Prop where
  format : tb'.format = tb.format
  ntbMaxDatagrams : tb'.ntbMaxDatagrams = tb.ntbMaxDatagrams
  ndpAlignment : tb'.ndpAlignment = tb.ndpAlignment
  ndpDivisor : tb'.ndpDivisor = tb.ndpDivisor
  ndpPayloadRemainder : tb'.ndpPayloadRemainder = tb.ndpPayloadRemainder
  bufferLength : tb'.bufferLength = tb.bufferLength
  currentNdpDatagramCount : tb'.currentNdpDatagramCount = tb.currentNdpDatagramCount
  currentBufferOffset : tb'.currentBufferOffset = tb.currentBufferOffset

theorem SameLayout.datagramOffset (h : SameLayout tb tb') : tb'.datagramOffset = tb.datagramOffset := by
  unfold NcmTransferBlock.datagramOffset
  rw [h.ndpDivisor, h.ndpPayloadRemainder, h.currentBufferOffset]

theorem SameLayout.accepts_iff (h : SameLayout tb tb') (pi : NcmPacketIterator p f) :
    tb'.Accepts pi ↔ tb.Accepts pi := by
  unfold Accepts totalNtbSizeNeeded ndpOffsetAfter
  rw [h.datagramOffset, h.ndpAlignment, h.format, h.ntbMaxDatagrams, h.bufferLength,
    h.currentNdpDatagramCount]

theorem SameLayout.accept (h : SameLayout tb tb') (pi : NcmPacketIterator p f) :
    SameLayout (tb.accept pi) (tb'.accept pi) := by
  refine ⟨h.format, h.ntbMaxDatagrams, h.ndpAlignment, h.ndpDivisor, h.ndpPayloadRemainder,
    h.bufferLength, congrArg (· + 1) h.currentNdpDatagramCount, ?_⟩
  change (tb'.datagramOffset + _) % 2 ^ 64 = (tb.datagramOffset + _) % 2 ^ 64
  rw [h.datagramOffset]

theorem SameLayout.offers (h : SameLayout tb tb') (pis : List (NcmPacketIterator p f)) :
    SameLayout (tb.offers pis) (tb'.offers pis) := by
  induction pis generalizing tb tb' with
  | nil => exact h
  | cons pi pis ih =>
    by_cases ha : tb.Accepts pi
    · rw [offers_of_accepts ha, offers_of_accepts ((h.accepts_iff pi).mpr ha)]
      exact ih (h.accept pi)
    · rw [offers_of_not_accepts ha, offers_of_not_accepts fun ha' => ha ((h.accepts_iff pi).mp ha')]
      exact ih h

theorem SameLayout.ndpEnd (h : SameLayout tb tb') : tb'.ndpEnd = tb.ndpEnd := by
  unfold NcmTransferBlock.ndpEnd datagramPointerTableSize ndpOffset
  rw [h.currentBufferOffset, h.ndpAlignment, h.format, h.currentNdpDatagramCount]

theorem started_sameLayout (h : CreatedFrom parameters tb) (buffer : Memory) :
    SameLayout (emptyNtb parameters) (tb.started buffer parameters.txMaxNtbSize.toNat) :=
  ⟨h.format, h.ntbMaxDatagrams, h.ndpAlignment, h.ndpDivisor, h.ndpPayloadRemainder, rfl, rfl,
    congrArg NtbFormat.sizeofNth h.format⟩

theorem started_ndpEnd (h : CreatedFrom parameters tb) (buffer : Memory) (osQueue : NcmOsQueue p f)
    (packets : List (BitVec p)) :
    ((tb.started buffer parameters.txMaxNtbSize.toNat).offers (offered osQueue packets)).ndpEnd =
      ntbLength parameters osQueue packets :=
  ((started_sameLayout h buffer).offers (offered osQueue packets)).ndpEnd

/-! ## The bytes -/

def ntbFormat (parameters : AdapterParameters) : NtbFormat :=
  if parameters.use32BitNtb then .ntb32 else .ntb16

/-- What the function driver creates its adapters with, and the host driver for it. -/
structure Usual (parameters : AdapterParameters) : Prop where
  alignment : parameters.txNdpAlignment ≠ 0
  divisor : parameters.txNdpDivisor ≠ 0
  count_le : parameters.txMaxNtbDatagramCount ≤ 16

def datasOf (osQueue : NcmOsQueue p f) (packets : List (BitVec p)) : List (List UInt8) :=
  packets.map fun i => packetData (packetAt osQueue i)

/-- The bytes of an NTB with these packets. -/
structure IsNtb (parameters : AdapterParameters) (osQueue : NcmOsQueue p f)
    (packets : List (BitVec p)) (ntb : List UInt8) : Prop where
  carries : Carries (ntbFormat parameters) ntb (datasOf osQueue packets)
  length : ntb.length = ntbLength parameters osQueue packets

/-- The NTB lies in its buffer, and its length is not cut. -/
def FitsBuffer (parameters : AdapterParameters) (length : Nat) : Prop :=
  length ≤ parameters.txMaxNtbSize.toNat ∧ length < 256 ^ (ntbFormat parameters).ptrSize

theorem OneNtb.length_trace {started : NcmTransferBlock}
    (h : OneNtb parameters osQueue started packets rest) :
    (started.trace (offered osQueue packets)).length = packets.length := by
  have hlen := congrArg List.length h.accepted
  rwa [List.length_map, offered, List.length_map] at hlen

theorem OneNtb.datas {started : NcmTransferBlock}
    (h : OneNtb parameters osQueue started packets rest) :
    (started.trace (offered osQueue packets)).map (fun x => packetData x.2) =
      datasOf osQueue packets := by
  have hmap := congrArg (List.map packetData) h.accepted
  rwa [List.map_map, offered, List.map_map] at hmap

theorem OneNtb.positive {started : NcmTransferBlock}
    (h : OneNtb parameters osQueue started packets rest)
    (hpos : ∀ i ∈ packets, 0 < ncmGetPacketDataLength (packetAt osQueue i)) :
    ∀ x ∈ started.trace (offered osQueue packets), 0 < ncmGetPacketDataLength x.2 := by
  intro x hx
  have hmem := List.mem_map_of_mem (f := Prod.snd) hx
  rw [h.accepted] at hmem
  obtain ⟨i, hi, heq⟩ := List.mem_map.mp hmem
  rw [← heq]
  exact hpos i hi

theorem offers_mapped (tb : NcmTransferBlock) {buffer : Memory} {n : Nat} (hmapped : ∀ a < n, (buffer a).isSome)
    (bufferLength : Nat) (pis : List (NcmPacketIterator p f)) :
    ∀ a < n, (((tb.started buffer bufferLength).offers pis).written a).isSome := by
  have hkept := (offers_invariant (fun tb => ∀ a < n, (tb.buffer a).isSome)
    (fun _ _ h _ a ha => write_isSome (h a ha) _ _)
    (show ∀ a < n, ((tb.started buffer bufferLength).buffer a).isSome from hmapped) pis).1
  exact fun a ha => writeAll_isSome (hkept a ha) _

section OneNtb

variable {buffer : Memory} (husual : Usual parameters) (hcreated : CreatedFrom parameters tb)
  (h : OneNtb parameters osQueue (tb.started buffer parameters.txMaxNtbSize.toNat) packets rest)
  (hlength : FitsBuffer parameters (ntbLength parameters osQueue packets))

include husual hcreated h hlength

theorem OneNtb.fits :
    ((tb.started buffer parameters.txMaxNtbSize.toNat).offers (offered osQueue packets)).Fits := by
  have hfilling := filling_offers hcreated buffer (offered osQueue packets)
  have hcount := hfilling.count.trans h.length_trace
  have hpos := List.length_pos_of_ne_nil h.nonempty
  have hlimit := h.limit
  have hmax : parameters.txMaxNtbDatagramCount.toNat ≤ 16 :=
    UInt16.le_iff_toNat_le.mp husual.count_le
  have hs := (ntbFormat parameters).sizes
  refine ⟨by omega, ?_, ?_⟩
  · rw [started_ndpEnd hcreated, hfilling.created.format]
    exact hlength.2
  · rw [ndpLength_eq, hcount, hfilling.created.format]
    change (ntbFormat parameters).sizeofNdp + _ * (ntbFormat parameters).sizeofDpe < _
    rcases hs with hs | hs <;> (simp only [hs]; omega)

/-- The transfer that `Advance` asks for is the NTB. -/
theorem OneNtb.isNtb (hpos : ∀ i ∈ packets, 0 < ncmGetPacketDataLength (packetAt osQueue i))
    (hmapped : ∀ a < parameters.txMaxNtbSize.toNat, (buffer a).isSome) {transferLength : Nat}
    (hset : ((tb.started buffer parameters.txMaxNtbSize.toNat).offers
      (offered osQueue packets)).setNdp = .ok (transferLength, sent)) :
    ∃ ntb, readBytes sent.buffer 0 transferLength = .ok ntb ∧ transferLength ≠ 0 ∧
      IsNtb parameters osQueue packets ntb := by
  have hfits := OneNtb.fits husual hcreated h hlength
  obtain ⟨hb, hl⟩ := offers_laid tb (by rw [hcreated.ndpAlignment]; exact husual.alignment)
    (by rw [hcreated.ndpDivisor]; exact husual.divisor) buffer parameters.txMaxNtbSize.toNat
    (offered osQueue packets)
  have hlen := started_ndpEnd hcreated buffer osQueue packets
  have hformat := (createdFrom_offers (hcreated.started buffer parameters.txMaxNtbSize.toNat)
    (offered osQueue packets)).format
  rw [hfits.setNdp hb] at hset
  cases hset
  have hwritten := offers_mapped tb hmapped parameters.txMaxNtbSize.toNat
    (offered osQueue packets)
  obtain ⟨ntb, hntb⟩ := readBytes_ok (n := ntbLength parameters osQueue packets)
    fun i (_ : 0 ≤ i) hi => hwritten i (Nat.lt_of_lt_of_le (by rwa [Nat.zero_add] at hi) hlength.1)
  rw [← hlen] at hntb
  have hcarries := hfits.carries hb hl (h.positive hpos) hntb
  rw [h.datas, hformat] at hcarries
  exact ⟨ntb, hntb, Nat.ne_of_gt hfits.ndpEnd_pos, hcarries, (holds_of_readBytes hntb).1.trans hlen⟩

end OneNtb

end UsbNcm.Adapter.NcmTxQueue
