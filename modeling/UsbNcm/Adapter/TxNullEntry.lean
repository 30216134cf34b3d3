import UsbNcm.Adapter.TxQueue
import UsbNcm.Ntb.LayoutInvariant
import UsbNcm.Ntb.Parse

/-!
# The null entry of the table that is sent

A reader takes the first entry with a zero index or a zero length for the end of the table. The
builder keeps such an entry behind the packets, and nothing keeps it from recording one for a packet.
-/

open Exec ByteMemory UsbNcm.Ring UsbNcm.Ntb UsbNcm.Ntb.NcmTransferBlock

namespace UsbNcm.Adapter.NcmTxQueue

variable {p f : Nat} {tb0 tb tb' : NcmTransferBlock} {pi0 pi : NcmPacketIterator p f}
  {acc : List (NcmTransferBlock × NcmPacketIterator p f)}

def IsNull (d : DatagramPointer) : Prop := d.datagramIndex = 0 ∨ d.datagramLength = 0

instance (d : DatagramPointer) : Decidable (IsNull d) := inferInstanceAs (Decidable (_ ∨ _))

/-- The first null entry is entry `k`. -/
structure EndsAt (ds : List DatagramPointer) (k : Nat) : Prop where
  null : ∃ d, ds[k]? = some d ∧ IsNull d
  before : ∀ j < k, ∀ d, ds[j]? = some d → ¬ IsNull d

/-- The table ends behind the packets, so a reader that accepts it finds an entry for each. -/
structure NullTerminated (tb : NcmTransferBlock) : Prop where
  endsAt : EndsAt tb.datagramPointerTable tb.currentNdpDatagramCount
  read : ∀ rx rx' : NcmTransferBlock, rx.format = tb.format →
    Holds rx.buffer (rx.nextNdpIndex + tb.format.sizeofNdp) tb.tableBytes →
      getNextNdp 64 rx = .ok (.success, rx') →
        rx'.currentNdpDatagramCount = tb.currentNdpDatagramCount

/-- The blocks that the inner loop of `advance` goes through, with the packets it has copied. -/
inductive Filled (tb0 : NcmTransferBlock) (pi0 : NcmPacketIterator p f) :
    NcmTransferBlock → NcmPacketIterator p f → List (NcmTransferBlock × NcmPacketIterator p f) → Prop
  | start : Filled tb0 pi0 tb0 pi0 []
  | call {tb tb' : NcmTransferBlock} {pi : NcmPacketIterator p f}
    {acc : List (NcmTransferBlock × NcmPacketIterator p f)} : Filled tb0 pi0 tb pi acc →
    tb.copyNextDatagram pi = (.success, tb') → Filled tb0 pi0 tb' pi.advance (acc ++ [(tb, pi)])

theorem accepts_of_copyNextDatagram (h : tb.copyNextDatagram pi = (.success, tb')) :
    tb.Accepts pi ∧ tb' = tb.accept pi := by
  by_cases ha : tb.Accepts pi
  · rw [copyNextDatagram_of_accepts ha] at h
    cases h
    exact ⟨ha, rfl⟩
  · rw [copyNextDatagram_of_not_accepts ha] at h
    cases h

theorem Filled.recorded (h : Filled tb0 pi0 tb pi acc) (h0 : tb0.Recorded (p := p) (f := f) []) :
    tb.Recorded acc := by
  induction h with
  | start => exact h0
  | call _ hcall ih =>
    obtain ⟨ha, rfl⟩ := accepts_of_copyNextDatagram hcall
    exact ih.accept ha

/-- The inner loop ends in one of these blocks. -/
theorem copyDatagrams_filled (h : Filled tb0 pi0 tb pi acc) (n : Nat) :
    ∃ acc, Filled tb0 pi0 (copyDatagrams n tb pi).1 (copyDatagrams n tb pi).2 acc := by
  induction n generalizing tb pi acc with
  | zero => exact ⟨acc, h⟩
  | succ n ih =>
    unfold copyDatagrams
    by_cases ha : tb.Accepts pi
    · have hcall := copyNextDatagram_of_accepts ha
      rw [hcall]
      exact ih (.call h hcall)
    · rw [copyNextDatagram_of_not_accepts ha]
      exact ⟨acc, h⟩

/-! ## The table -/

theorem endsAt_iff (h : tb.Recorded acc) :
    EndsAt tb.datagramPointerTable tb.currentNdpDatagramCount ↔
      ∀ x ∈ acc, ¬ IsNull ((record x).cut tb.format) := by
  have hmax := h.count_le
  have hget : ∀ j (hj : j < acc.length),
      tb.datagramPointerTable[j]? = some ((record acc[j]).cut tb.format) := by
    intro j hj
    rw [h.table, List.getElem?_append_left (by simpa using hj), List.getElem?_map,
      List.getElem?_eq_getElem hj, Option.map_some]
  constructor
  · intro hends x hx
    obtain ⟨j, hj, rfl⟩ := List.getElem_of_mem hx
    exact hends.before j (by rw [h.count]; exact hj) _ (hget j hj)
  · intro hpackets
    refine ⟨⟨⟨0, 0⟩, ?_, Or.inl rfl⟩, ?_⟩
    · rw [h.table, h.count, List.getElem?_append_right (by simp), List.length_map, Nat.sub_self,
        List.getElem?_replicate_of_lt (by omega)]
    · intro j hj d hd
      rw [h.count] at hj
      rw [hget j hj] at hd
      obtain rfl := Option.some.inj hd
      exact hpackets _ (List.getElem_mem hj)

/-- A reader of the table stops at its first null entry. -/
theorem count_of_scanTable {m : Memory} {blockLength ndp length c : Nat} (h : tb.Recorded acc)
    (hpackets : ∀ x ∈ acc, ¬ IsNull ((record x).cut tb.format))
    (hheld : Holds m (ndp + tb.format.sizeofNdp) tb.tableBytes)
    (hscan : scanTable tb.format m blockLength ndp length length tb.format.sizeofNdp 0 =
      .ok (some c)) : c = acc.length := by
  rw [h.tableBytes_eq] at hheld
  obtain ⟨ds, hds, rfl⟩ := entries_of_scanTable hscan
  rw [Nat.zero_add]
  rcases Nat.lt_trichotomy ds.length acc.length with hlt | heq | hgt
  · have hentry := entryAt_of_holds (i := ds.length) hheld (by simp; omega)
    rw [List.getElem_append_left (by simpa using hlt), List.getElem_map,
      DatagramPointer.cut_cut] at hentry
    obtain ⟨datagramIndex, hindex, hz⟩ := hds.null_at.2
    refine absurd ?_ (hpackets _ (List.getElem_mem hlt))
    obtain ⟨hentryIndex, hentryLength⟩ := hentry
    rw [hentryIndex] at hindex
    obtain rfl := Except.ok.inj hindex
    refine hz.imp_right fun hz => ?_
    rw [hentryLength] at hz
    exact Except.ok.inj hz
  · exact heq
  · have hentry := entryAt_of_holds (i := acc.length) hheld (by simp)
    rw [List.getElem_append_right (by simp)] at hentry
    obtain ⟨hdatagram, hin⟩ := hds.get hgt
    have hs := tb.format.sizes
    have hge := hin.1
    have hzero := hentry.1.symm.trans hdatagram.1
    simp [DatagramPointer.cut] at hzero
    omega

theorem nullTerminated_iff (h : tb.Recorded acc) :
    NullTerminated tb ↔ ∀ x ∈ acc, ¬ IsNull ((record x).cut tb.format) := by
  constructor
  · intro hterminated
    exact (endsAt_iff h).mp hterminated.endsAt
  · intro hpackets
    refine ⟨(endsAt_iff h).mpr hpackets, ?_⟩
    intro rx rx' hfmt hheld hcall
    rcases getNextNdp_cases hcall with ⟨-, hc, -⟩ | ⟨-, hc, -⟩ | ⟨-, -, next, count, hvalidate, rfl⟩
    · cases hc
    · cases hc
    · obtain ⟨length, -, -, hscan⟩ := scan_of_validateNdp hvalidate
      rw [hfmt] at hscan
      rw [h.count]
      exact count_of_scanTable h hpackets hheld hscan

/-- Whatever the queue holds and wherever it has got to, every block that its inner loop goes
through is terminated by its null entry exactly when no packet in it is recorded as one: the length
and the offset of each, cut to the width of the format, are not zero. -/
theorem advance_nullTerminated_iff (q : NcmTxQueue p f) (bufferRequest : TxBufferRequest) :
    (∀ tb pi acc, Filled
        (q.ntb.started bufferRequest.buffer q.parameters.txMaxNtbSize.toNat) q.pi tb pi acc →
      (NullTerminated tb ↔ ∀ x ∈ acc, ¬ IsNull ((record x).cut tb.format))) ∧
    ∃ acc, Filled (q.ntb.started bufferRequest.buffer q.parameters.txMaxNtbSize.toNat) q.pi
      (copyDatagrams q.pi.getCount
        (q.ntb.started bufferRequest.buffer q.parameters.txMaxNtbSize.toNat) q.pi).1
      (copyDatagrams q.pi.getCount
        (q.ntb.started bufferRequest.buffer q.parameters.txMaxNtbSize.toNat) q.pi).2 acc := by
  refine ⟨fun tb pi acc h => ?_, copyDatagrams_filled .start _⟩
  exact nullTerminated_iff (h.recorded (started_recorded _ _ _))

/-- A packet without fragments, and behind it one of 60 bytes. -/
def emptyThenFull : NcmOsQueue 2 1 where
  packetRing :=
    { beginIndex := 0
      endIndex := 2
      elements := fun i =>
        { fragmentIndex := 0, fragmentCount := if i = 0 then 0 else 1, ignore := false } }
  fragmentRing :=
    { beginIndex := 0
      endIndex := 1
      elements := fun _ =>
        { capacity := 60, validLength := 60, offset := 0, virtualAddress := fun _ => 0 } }

def emptyThenFullQueue : NcmTxQueue 2 1 :=
  atRing
    { use32BitNtb := false
      macAddress := []
      maxDatagramSize := 1514
      txMaxNtbDatagramCount := 16
      txMaxNtbSize := 2048
      txNdpAlignment := 4
      txNdpDivisor := 4
      txNdpPayloadRemainder := 0 }
    (initialBlock 16 4 4 0 false) emptyThenFull

/-- The block that `advance` fills with the two packets. -/
def emptyThenFullBlock : NcmTransferBlock :=
  (copyDatagrams emptyThenFullQueue.pi.getCount
    (emptyThenFullQueue.ntb.started (fun _ => none)
      emptyThenFullQueue.parameters.txMaxNtbSize.toNat) emptyThenFullQueue.pi).1

theorem advance_nullTerminated_iff_emptyThenFull :
    ∃ pi acc, Filled (emptyThenFullQueue.ntb.started (fun _ => none)
          emptyThenFullQueue.parameters.txMaxNtbSize.toNat) emptyThenFullQueue.pi
        emptyThenFullBlock pi acc ∧
      (NullTerminated emptyThenFullBlock ↔
        ∀ x ∈ acc, ¬ IsNull ((record x).cut emptyThenFullBlock.format)) := by
  obtain ⟨hiff, acc, hfilled⟩ :=
    advance_nullTerminated_iff emptyThenFullQueue ⟨0, fun _ => none⟩
  exact ⟨_, acc, hfilled, hiff _ _ acc hfilled⟩

/-- Both packets are accepted, and a reader of their table stops before either. -/
theorem emptyThenFull_not_terminated :
    emptyThenFullBlock.currentNdpDatagramCount = 2 ∧
      emptyThenFullBlock.datagramPointerTable.take 3 = [⟨14, 0⟩, ⟨14, 60⟩, ⟨0, 0⟩] ∧
      scanTable .ntb16 (ofBytes (List.replicate 8 0 ++ emptyThenFullBlock.tableBytes)) 2048 0 20 20 8
        0 = .ok (some 0) ∧
      ¬ NullTerminated emptyThenFullBlock := by
  refine ⟨rfl, rfl, rfl, ?_⟩
  intro h
  exact h.endsAt.before 0 (by decide) ⟨14, 0⟩ rfl (Or.inr rfl)

end UsbNcm.Adapter.NcmTxQueue
