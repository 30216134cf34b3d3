import UsbNcm.Ntb.Disclosure
import UsbNcm.Ntb.LayoutInvariant

/-!
# What an NTB has room for

A block that has taken less has room for all that one with more in it takes.
-/

open Exec ByteMemory AlignUp UsbNcm.Ring

namespace UsbNcm.Ntb.NcmTransferBlock

variable {p f : Nat} {tb tb' : NcmTransferBlock} {pi : NcmPacketIterator p f}
  {pis : List (NcmPacketIterator p f)}

/-- Each of the packets is accepted in its turn. -/
def TakesAll (tb : NcmTransferBlock) : List (NcmPacketIterator p f) → Prop
  | [] => True
  | pi :: pis => tb.Accepts pi ∧ (tb.accept pi).TakesAll pis

theorem takesAll_append (tb : NcmTransferBlock) (pis pis' : List (NcmPacketIterator p f)) :
    tb.TakesAll (pis ++ pis') ↔ tb.TakesAll pis ∧ (tb.offers pis).TakesAll pis' := by
  induction pis generalizing tb with
  | nil => exact ⟨fun h => ⟨trivial, h⟩, fun h => h.2⟩
  | cons pi pis ih =>
    by_cases ha : tb.Accepts pi
    · rw [offers_of_accepts ha, List.cons_append]
      change _ ∧ (tb.accept pi).TakesAll (pis ++ pis') ↔ (_ ∧ (tb.accept pi).TakesAll pis) ∧ _
      rw [ih, and_assoc]
    · exact iff_of_false (fun h => ha h.1) fun h => ha h.1.1

theorem length_trace_le (tb : NcmTransferBlock) (pis : List (NcmPacketIterator p f)) :
    (tb.trace pis).length ≤ pis.length := by
  induction pis generalizing tb with
  | nil => exact Nat.le_refl 0
  | cons pi pis ih =>
    by_cases ha : tb.Accepts pi
    · rw [trace_of_accepts ha]
      exact Nat.succ_le_succ (ih _)
    · rw [trace_of_not_accepts ha]
      exact Nat.le_succ_of_le (ih _)

/-- What is accepted has the length of what is offered only when nothing is refused. -/
theorem takesAll_of_trace (h : (tb.trace pis).length = pis.length) : tb.TakesAll pis := by
  induction pis generalizing tb with
  | nil => trivial
  | cons pi pis ih =>
    by_cases ha : tb.Accepts pi
    · rw [trace_of_accepts ha] at h
      exact ⟨ha, ih (Nat.succ.inj h)⟩
    · have hle := length_trace_le tb pis
      rw [trace_of_not_accepts ha, List.length_cons] at h
      omega

/-! ## A block with less in it -/

/-- The blocks were created alike, and the first has taken no more than the second. -/
structure Roomier (tb tb' : NcmTransferBlock) : Prop where
  format : tb'.format = tb.format
  ntbMaxDatagrams : tb'.ntbMaxDatagrams = tb.ntbMaxDatagrams
  ndpAlignment : tb'.ndpAlignment = tb.ndpAlignment
  ndpDivisor : tb'.ndpDivisor = tb.ndpDivisor
  ndpPayloadRemainder : tb'.ndpPayloadRemainder = tb.ndpPayloadRemainder
  bufferLength : tb'.bufferLength = tb.bufferLength
  count_le : tb.currentNdpDatagramCount ≤ tb'.currentNdpDatagramCount
  offset_le : tb.currentBufferOffset ≤ tb'.currentBufferOffset

/-- A block under construction with parameters that the specification allows. -/
structure Constructing (tb : NcmTransferBlock) : Prop where
  bounded : tb.Bounded
  proper : tb.ProperParameters

theorem ProperParameters.started (h : tb.ProperParameters) (buffer : Memory) (bufferLength : Nat) :
    (tb.started buffer bufferLength).Constructing :=
  ⟨h.bounded buffer bufferLength, h.alignment, h.divisor, h.remainder_lt⟩

theorem Constructing.accept (h : tb.Constructing) (ha : tb.Accepts pi) : (tb.accept pi).Constructing :=
  ⟨h.bounded.accept ha, h.proper.alignment, h.proper.divisor, h.proper.remainder_lt⟩

theorem Roomier.refl (tb : NcmTransferBlock) : Roomier tb tb :=
  ⟨rfl, rfl, rfl, rfl, rfl, rfl, Nat.le_refl _, Nat.le_refl _⟩

theorem Roomier.trans {tb1 tb2 tb3 : NcmTransferBlock} (h : Roomier tb1 tb2) (h' : Roomier tb2 tb3) :
    Roomier tb1 tb3 :=
  ⟨h'.format.trans h.format, h'.ntbMaxDatagrams.trans h.ntbMaxDatagrams,
    h'.ndpAlignment.trans h.ndpAlignment, h'.ndpDivisor.trans h.ndpDivisor,
    h'.ndpPayloadRemainder.trans h.ndpPayloadRemainder, h'.bufferLength.trans h.bufferLength,
    Nat.le_trans h.count_le h'.count_le, Nat.le_trans h.offset_le h'.offset_le⟩

theorem roomier_accept (h : tb.Constructing) (pi : NcmPacketIterator p f) : Roomier tb (tb.accept pi) := by
  refine ⟨rfl, rfl, rfl, rfl, rfl, rfl, Nat.le_succ _, ?_⟩
  rw [h.bounded.accept_offset]
  exact Nat.le_add_right_of_le h.bounded.datagramOffset_bounds.1

theorem roomier_offers (h : tb.Constructing) (pis : List (NcmPacketIterator p f)) :
    (tb.offers pis).Constructing ∧ Roomier tb (tb.offers pis) := by
  refine (offers_invariant (fun tb' => tb'.Constructing ∧ Roomier tb tb') ?_ ⟨h, Roomier.refl tb⟩ pis).1
  rintro tb' pi ⟨hconstructing, hroomier⟩ ha
  exact ⟨hconstructing.accept ha, hroomier.trans (roomier_accept hconstructing pi)⟩

theorem Roomier.datagramOffset_le (h : Roomier tb tb') (hb' : tb'.Constructing) :
    tb.datagramOffset ≤ tb'.datagramOffset := by
  obtain ⟨k, hk⟩ := hb'.proper.divisor
  have hlt := hb'.bounded.offset_lt
  have hdivisor := tb'.ndpDivisor.toNat_lt
  have hremainder := tb'.ndpPayloadRemainder.toNat_lt
  have hle := h.offset_le
  have hmono := alignUpBy_mono (x := tb.currentBufferOffset + sizeofEthernetHeader)
    (y := tb'.currentBufferOffset + sizeofEthernetHeader) (uint16_pow_lt hk) (by omega)
    (by rw [← hk]; unfold sizeofEthernetHeader; omega)
  have hpos := Nat.two_pow_pos k
  have hlower := alignUpBy_bounds (x := tb.currentBufferOffset + sizeofEthernetHeader) hpos
    (by rw [← hk]; unfold sizeofEthernetHeader; omega)
  have hupper := alignUpBy_bounds (x := tb'.currentBufferOffset + sizeofEthernetHeader) hpos
    (by rw [← hk]; unfold sizeofEthernetHeader; omega)
  unfold datagramOffset
  rw [← h.ndpDivisor, ← h.ndpPayloadRemainder, hk]
  unfold sizeofEthernetHeader at *
  omega

theorem Roomier.ndpOffsetAfter_le (h : Roomier tb tb') (hb' : tb'.Constructing)
    (pi : NcmPacketIterator p f) :
    tb.ndpOffsetAfter (ncmGetPacketDataLength pi) ≤
      tb'.ndpOffsetAfter (ncmGetPacketDataLength pi) := by
  obtain ⟨k, hk⟩ := hb'.proper.alignment
  have hlt := hb'.bounded.offset_lt
  have halignment := tb'.ndpAlignment.toNat_lt
  have hbounds := hb'.bounded.datagramOffset_bounds
  have hlen := ncmGetPacketDataLength_lt pi
  have hle := h.datagramOffset_le hb'
  unfold ndpOffsetAfter
  rw [← h.ndpAlignment, hk]
  apply alignUpBy_mono (uint16_pow_lt hk) (by omega)
  rw [← hk]
  omega

theorem Roomier.accepts (h : Roomier tb tb') (hb : tb.Constructing) (hb' : tb'.Constructing)
    (ha : tb'.Accepts pi) : tb.Accepts pi := by
  obtain ⟨hcount, hsize⟩ := ha
  have hle := h.count_le
  have hndp := h.ndpOffsetAfter_le hb' pi
  rw [hb'.bounded.totalNtbSizeNeeded_eq, h.format, h.bufferLength] at hsize
  rw [h.ntbMaxDatagrams] at hcount
  refine ⟨by omega, ?_⟩
  rw [hb.bounded.totalNtbSizeNeeded_eq]
  have htable := Nat.mul_le_mul_right tb.format.sizeofDpe (Nat.succ_le_succ hle)
  simp only [Nat.succ_eq_add_one] at htable
  omega

theorem Roomier.accept (h : Roomier tb tb') (hb : tb.Constructing) (hb' : tb'.Constructing)
    (pi : NcmPacketIterator p f) : Roomier (tb.accept pi) (tb'.accept pi) := by
  refine ⟨h.format, h.ntbMaxDatagrams, h.ndpAlignment, h.ndpDivisor, h.ndpPayloadRemainder,
    h.bufferLength, Nat.succ_le_succ h.count_le, ?_⟩
  rw [hb.bounded.accept_offset, hb'.bounded.accept_offset]
  exact Nat.add_le_add_right (h.datagramOffset_le hb') _

/-- The block with less in it takes at least as much. -/
theorem Roomier.takesAll (h : Roomier tb tb') (hb : tb.Constructing) (hb' : tb'.Constructing)
    (htakes : tb'.TakesAll pis) : tb.TakesAll pis := by
  induction pis generalizing tb tb' with
  | nil => trivial
  | cons pi pis ih =>
    obtain ⟨ha', hrest⟩ := htakes
    have ha := h.accepts hb hb' ha'
    exact ⟨ha, ih (h.accept hb hb' pi) (hb.accept ha) (hb'.accept ha') hrest⟩

end UsbNcm.Ntb.NcmTransferBlock
