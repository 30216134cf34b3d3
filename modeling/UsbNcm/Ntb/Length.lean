import UsbNcm.Ntb.Layout

/-!
# How long an NTB gets

Each datagram takes its bytes and the padding before them. So datagrams of a limited size give NTBs
of a limited size.
-/

open Exec ByteMemory AlignUp UsbNcm.Ring

namespace UsbNcm.Ntb.NcmTransferBlock

variable {p f : Nat} {tb : NcmTransferBlock}

theorem Bounded.datagramOffset_le (h : tb.Bounded) : tb.datagramOffset ≤
    tb.currentBufferOffset + tb.ndpDivisor.toNat + tb.ndpPayloadRemainder.toNat := by
  have hlt := h.offset_lt
  have hdiv := tb.ndpDivisor.toNat_lt
  have hrem := tb.ndpPayloadRemainder.toNat_lt
  have hb := alignUpBy_bounds (x := tb.currentBufferOffset + sizeofEthernetHeader) h.divisor
    (by unfold sizeofEthernetHeader; omega)
  unfold datagramOffset
  unfold sizeofEthernetHeader at hb ⊢
  omega

theorem Bounded.ndpOffset_le (h : tb.Bounded) :
    tb.ndpOffset ≤ tb.currentBufferOffset + tb.ndpAlignment.toNat := by
  have hlt := h.offset_lt
  have halign := tb.ndpAlignment.toNat_lt
  have hb := alignUpBy_bounds (x := tb.currentBufferOffset) h.alignment (by omega)
  exact Nat.le_of_lt hb.2

theorem Bounded.totalNtbSizeNeeded_le (h : tb.Bounded) (pi : NcmPacketIterator p f) :
    tb.totalNtbSizeNeeded (ncmGetPacketDataLength pi) ≤
      tb.datagramOffset + ncmGetPacketDataLength pi + tb.ndpAlignment.toNat +
        tb.format.sizeofNdp + (tb.currentNdpDatagramCount + 1) * tb.format.sizeofDpe := by
  have hlt := h.offset_lt
  have hd := h.datagramOffset_bounds
  have hlen := ncmGetPacketDataLength_lt pi
  have halign := tb.ndpAlignment.toNat_lt
  have hb := alignUpBy_bounds (x := tb.datagramOffset + ncmGetPacketDataLength pi) h.alignment
    (by omega)
  rw [h.totalNtbSizeNeeded_eq]
  unfold ndpOffsetAfter
  omega

/-- What a datagram of the limit takes at most, with the padding before it. -/
def paddedSize (tb : NcmTransferBlock) (limit : Nat) : Nat :=
  limit + tb.ndpDivisor.toNat + tb.ndpPayloadRemainder.toNat

/-- The block that `tb` has become with these datagrams. -/
structure Within (tb : NcmTransferBlock) (limit : Nat) (tb' : NcmTransferBlock)
    (acc : List (NcmTransferBlock × NcmPacketIterator p f)) : Prop where
  bounded : tb'.Bounded
  format : tb'.format = tb.format
  ndpAlignment : tb'.ndpAlignment = tb.ndpAlignment
  ndpDivisor : tb'.ndpDivisor = tb.ndpDivisor
  ndpPayloadRemainder : tb'.ndpPayloadRemainder = tb.ndpPayloadRemainder
  count : tb'.currentNdpDatagramCount = acc.length
  offset : (∀ x ∈ acc, ncmGetPacketDataLength x.2 ≤ limit) →
    tb'.currentBufferOffset ≤ tb.format.sizeofNth + acc.length * tb.paddedSize limit

theorem Within.accept {limit : Nat} {tb' : NcmTransferBlock}
    {acc : List (NcmTransferBlock × NcmPacketIterator p f)} (h : Within tb limit tb' acc)
    {pi : NcmPacketIterator p f} (ha : tb'.Accepts pi) :
    Within tb limit (tb'.accept pi) (acc ++ [(tb', pi)]) := by
  refine ⟨h.bounded.accept ha, h.format, h.ndpAlignment, h.ndpDivisor, h.ndpPayloadRemainder, ?_,
    fun hall => ?_⟩
  · rw [List.length_append, List.length_singleton, ← h.count]
    rfl
  · have hbefore := h.offset fun x hx => hall x (List.mem_append_left _ hx)
    have hlast : ncmGetPacketDataLength pi ≤ limit :=
      hall (tb', pi) (List.mem_append_right _ List.mem_cons_self)
    have hoffset := h.bounded.datagramOffset_le
    rw [h.ndpDivisor, h.ndpPayloadRemainder] at hoffset
    rw [h.bounded.accept_offset, List.length_append, List.length_singleton, Nat.succ_mul]
    unfold paddedSize at hbefore ⊢
    omega

theorem started_within (halign : tb.ndpAlignment ≠ 0) (hdivisor : tb.ndpDivisor ≠ 0)
    (buffer : Memory) (bufferLength limit : Nat) (pis : List (NcmPacketIterator p f)) :
    Within tb limit ((tb.started buffer bufferLength).offers pis)
      ((tb.started buffer bufferLength).trace pis) :=
  offers_rule (Within tb limit) (fun _ _ _ h ha => h.accept ha) []
    ⟨started_bounded buffer bufferLength halign hdivisor, rfl, rfl, rfl, rfl, rfl,
      fun _ => Nat.le_add_right _ _⟩ pis

/-- The end of an NTB of at most `n` datagrams of at most this size. -/
theorem started_ndpEnd_le (halign : tb.ndpAlignment ≠ 0) (hdivisor : tb.ndpDivisor ≠ 0)
    (buffer : Memory) (bufferLength : Nat) (pis : List (NcmPacketIterator p f)) {n limit : Nat}
    (hcount : ((tb.started buffer bufferLength).trace pis).length ≤ n)
    (hlimit : ∀ x ∈ (tb.started buffer bufferLength).trace pis,
      ncmGetPacketDataLength x.2 ≤ limit) :
    ((tb.started buffer bufferLength).offers pis).ndpEnd ≤
      tb.format.sizeofNth + n * tb.paddedSize limit + tb.ndpAlignment.toNat + tb.format.sizeofNdp +
        (n + 1) * tb.format.sizeofDpe := by
  have hwithin := started_within halign hdivisor buffer bufferLength limit pis
  have hoffset := hwithin.offset hlimit
  have hndp := hwithin.bounded.ndpOffset_le
  rw [hwithin.ndpAlignment] at hndp
  have hpad := Nat.mul_le_mul_right (tb.paddedSize limit) hcount
  have htable := Nat.mul_le_mul_right tb.format.sizeofDpe (Nat.add_le_add_right hcount 1)
  unfold ndpEnd datagramPointerTableSize
  rw [hwithin.format, hwithin.count]
  omega

/-- A block that holds no datagram yet takes one of a limited size. -/
theorem started_accepts_of_le (halign : tb.ndpAlignment ≠ 0) (hdivisor : tb.ndpDivisor ≠ 0)
    (buffer : Memory) {bufferLength : Nat} (hmax : 0 < tb.ntbMaxDatagrams.toNat)
    {pi : NcmPacketIterator p f} {limit : Nat} (hlimit : ncmGetPacketDataLength pi ≤ limit)
    (hroom : tb.format.sizeofNth + tb.paddedSize limit + tb.ndpAlignment.toNat + tb.format.sizeofNdp +
      tb.format.sizeofDpe ≤ bufferLength) : (tb.started buffer bufferLength).Accepts pi := by
  have hb := started_bounded buffer bufferLength halign hdivisor
  have hneeded := hb.totalNtbSizeNeeded_le pi
  have hoffset := hb.datagramOffset_le
  refine ⟨hmax, ?_⟩
  change _ ≤ bufferLength
  change _ ≤ _ + _ + tb.ndpAlignment.toNat + tb.format.sizeofNdp + (0 + 1) * tb.format.sizeofDpe at hneeded
  change _ ≤ tb.format.sizeofNth + tb.ndpDivisor.toNat + tb.ndpPayloadRemainder.toNat at hoffset
  unfold paddedSize at hroom
  omega

end UsbNcm.Ntb.NcmTransferBlock
