import UsbNcm.Ntb.Layout

/-!
# The layout of the NTB under construction

Where the recorded datagrams and the NDP lie, after any calls of `CopyNextDatagram`.
-/

open Exec ByteMemory AlignUp UsbNcm.Ring

namespace UsbNcm.Ntb.NcmTransferBlock

variable {p f : Nat} {tb : NcmTransferBlock} {pi : NcmPacketIterator p f}
  {acc : List (NcmTransferBlock × NcmPacketIterator p f)}

/-- The parameters that the host may choose. -/
structure ProperParameters (tb : NcmTransferBlock) : Prop where
  alignment : ∃ k, tb.ndpAlignment.toNat = 2 ^ k
  divisor : ∃ k, tb.ndpDivisor.toNat = 2 ^ k
  remainder_lt : tb.ndpPayloadRemainder.toNat < tb.ndpDivisor.toNat

structure LayoutInvariant (tb : NcmTransferBlock) : Prop where
  count_le : tb.currentNdpDatagramCount ≤ tb.ntbMaxDatagrams.toNat
  table_length : tb.datagramPointerTable.length = tb.ntbMaxDatagrams.toNat + 1
  null_entry : tb.datagramPointerTable[tb.currentNdpDatagramCount]? = some ⟨0, 0⟩
  -- disjoint, and in increasing order
  increasing : (tb.datagramPointerTable.take tb.currentNdpDatagramCount).Pairwise fun d e =>
    d.datagramIndex + d.datagramLength ≤ e.datagramIndex
  inside : ∀ d ∈ tb.datagramPointerTable.take tb.currentNdpDatagramCount,
    tb.format.sizeofNth ≤ d.datagramIndex ∧
      d.datagramIndex + d.datagramLength ≤ tb.currentBufferOffset
  payload : ∀ d ∈ tb.datagramPointerTable.take tb.currentNdpDatagramCount,
    (d.datagramIndex + sizeofEthernetHeader) % tb.ndpDivisor.toNat = tb.ndpPayloadRemainder.toNat
  ndp_aligned : tb.ndpAlignment.toNat ∣ tb.ndpOffset
  ndp_behind : tb.currentBufferOffset ≤ tb.ndpOffset

theorem uint16_pow_lt {a : UInt16} {k : Nat} (h : a.toNat = 2 ^ k) : k < 64 := by
  have hlt := a.toNat_lt
  rw [h] at hlt
  have hk : k < 16 := (Nat.pow_lt_pow_iff_right (by decide)).mp hlt
  omega

theorem ProperParameters.ndp_aligned (h : tb.ProperParameters) :
    tb.ndpAlignment.toNat ∣ tb.ndpOffset := by
  obtain ⟨k, hk⟩ := h.alignment
  unfold ndpOffset
  rw [hk]
  exact alignUpBy_dvd _ (uint16_pow_lt hk)

/-- The payload of a next datagram is at the remainder. -/
theorem ProperParameters.payload (h : tb.ProperParameters) (hb : tb.Bounded) :
    (tb.datagramOffset + sizeofEthernetHeader) % tb.ndpDivisor.toNat =
      tb.ndpPayloadRemainder.toNat := by
  obtain ⟨k, hk⟩ := h.divisor
  have hlt := hb.offset_lt
  have hdiv := tb.ndpDivisor.toNat_lt
  have hrem := tb.ndpPayloadRemainder.toNat_lt
  have hbounds := alignUpBy_bounds (x := tb.currentBufferOffset + sizeofEthernetHeader) hb.divisor
    (by unfold sizeofEthernetHeader; omega)
  have hdvd : tb.ndpDivisor.toNat ∣
      alignUpBy (tb.currentBufferOffset + sizeofEthernetHeader) tb.ndpDivisor.toNat := by
    rw [hk]
    exact alignUpBy_dvd _ (uint16_pow_lt hk)
  have hsum : tb.datagramOffset + sizeofEthernetHeader =
      alignUpBy (tb.currentBufferOffset + sizeofEthernetHeader) tb.ndpDivisor.toNat +
        tb.ndpPayloadRemainder.toNat := by
    unfold datagramOffset
    unfold sizeofEthernetHeader at hbounds ⊢
    omega
  rw [hsum, Nat.add_mod, Nat.mod_eq_zero_of_dvd hdvd, Nat.zero_add, Nat.mod_mod]
  exact Nat.mod_eq_of_lt h.remainder_lt

theorem ProperParameters.bounded (h : tb.ProperParameters) (buffer : Memory) (bufferLength : Nat) :
    (tb.started buffer bufferLength).Bounded := by
  obtain ⟨k, hk⟩ := h.alignment
  obtain ⟨j, hj⟩ := h.divisor
  apply started_bounded
  · intro hz
    have hpos := Nat.two_pow_pos k
    rw [hz] at hk
    exact absurd hk (Nat.ne_of_lt hpos)
  · intro hz
    have hpos := Nat.two_pow_pos j
    rw [hz] at hj
    exact absurd hj (Nat.ne_of_lt hpos)

/-- No cast to the width of the format loses anything. -/
def CastsFit (x : NcmTransferBlock × NcmPacketIterator p f) : Prop :=
  x.1.datagramOffset < 256 ^ x.1.format.ptrSize ∧
    ncmGetPacketDataLength x.2 < 256 ^ x.1.format.ptrSize

instance (x : NcmTransferBlock × NcmPacketIterator p f) : Decidable (CastsFit x) :=
  inferInstanceAs (Decidable (_ ∧ _))

/-- The invariant, from the places of the accepted packets. -/
theorem Laid.layoutInvariant (h : tb.Laid acc) (hb : tb.Bounded) (hparams : tb.ProperParameters)
    (hcut : ∀ x ∈ acc, (record x).cut tb.format = record x)
    (hpayload : ∀ x ∈ acc, (x.1.datagramOffset + sizeofEthernetHeader) % tb.ndpDivisor.toNat =
      tb.ndpPayloadRemainder.toNat) :
    tb.LayoutInvariant ∧
      tb.datagramPointerTable.take tb.currentNdpDatagramCount = acc.map record := by
  have hcount := h.count
  have hmax := hb.count_le
  have hmap : acc.map (fun x => (record x).cut tb.format) = acc.map record :=
    List.map_congr_left hcut
  have htable := h.table
  rw [hmap] at htable
  have htake : tb.datagramPointerTable.take tb.currentNdpDatagramCount = acc.map record := by
    rw [htable, hcount, List.take_left' (List.length_map _)]
  have hlength : ∀ x : NcmTransferBlock × NcmPacketIterator p f,
      (record x).datagramIndex + (record x).datagramLength =
        x.1.datagramOffset + (packetData x.2).length := by
    intro x
    rw [← ncmGetPacketDataLength_eq x.2]
    rfl
  refine ⟨⟨hmax, hb.table_length, ?_, ?_, ?_, ?_, hparams.ndp_aligned, hb.ndpOffset_bounds.1⟩, htake⟩
  · rw [htable, hcount, List.getElem?_append_right (by simp), List.length_map, Nat.sub_self,
      List.getElem?_replicate_of_lt (by omega)]
  · rw [htake, List.pairwise_map]
    refine h.increasing.imp fun hxy => ?_
    rw [hlength]
    exact hxy
  · rw [htake]
    rintro d hd
    obtain ⟨x, hx, rfl⟩ := List.mem_map.mp hd
    rw [hlength]
    exact h.inside x hx
  · rw [htake]
    rintro d hd
    obtain ⟨x, hx, rfl⟩ := List.mem_map.mp hd
    exact hpayload x hx

/-- What every accepted packet keeps. -/
structure WellPlaced (tb : NcmTransferBlock) (acc : List (NcmTransferBlock × NcmPacketIterator p f)) :
    Prop where
  bounded : tb.Bounded
  laid : tb.Laid acc
  parameters : tb.ProperParameters
  format_eq : ∀ x ∈ acc, x.1.format = tb.format
  payload : ∀ x ∈ acc, (x.1.datagramOffset + sizeofEthernetHeader) % tb.ndpDivisor.toNat =
    tb.ndpPayloadRemainder.toNat

theorem WellPlaced.accept (h : tb.WellPlaced acc) (ha : tb.Accepts pi) :
    (tb.accept pi).WellPlaced (acc ++ [(tb, pi)]) := by
  refine ⟨h.bounded.accept ha, h.laid.accept h.bounded ha,
    ⟨h.parameters.alignment, h.parameters.divisor, h.parameters.remainder_lt⟩, ?_, ?_⟩
  · intro x hx
    rcases List.mem_append.mp hx with hx | hx
    · exact h.format_eq x hx
    · rw [List.mem_singleton.mp hx]
      rfl
  · intro x hx
    rcases List.mem_append.mp hx with hx | hx
    · exact h.payload x hx
    · rw [List.mem_singleton.mp hx]
      exact h.parameters.payload h.bounded

theorem offers_wellPlaced (h : tb.ProperParameters) (buffer : Memory) (bufferLength : Nat)
    (pis : List (NcmPacketIterator p f)) :
    ((tb.started buffer bufferLength).offers pis).WellPlaced
      ((tb.started buffer bufferLength).trace pis) := by
  refine offers_rule WellPlaced (fun tb acc pi h ha => h.accept ha) [] ?_ pis
  exact ⟨h.bounded buffer bufferLength, started_laid tb buffer bufferLength,
    ⟨h.alignment, h.divisor, h.remainder_lt⟩, by simp, by simp⟩

/-- After any calls that lose nothing to a cast, the block has its layout: the table holds the
places of the packets that were accepted, and the NDP goes where the last of these calls computed. A
call that fails leaves the block as it is. -/
theorem offers_layoutInvariant (tb : NcmTransferBlock) (hparams : tb.ProperParameters)
    (buffer : Memory) (bufferLength : Nat) (pis : List (NcmPacketIterator p f))
    (hcasts : ∀ x ∈ (tb.started buffer bufferLength).trace pis, CastsFit x) :
    ((tb.started buffer bufferLength).offers pis).LayoutInvariant ∧
      ((tb.started buffer bufferLength).offers pis).currentNdpDatagramCount =
        ((tb.started buffer bufferLength).trace pis).length ∧
      ((tb.started buffer bufferLength).offers pis).datagramPointerTable.take
          ((tb.started buffer bufferLength).trace pis).length =
        ((tb.started buffer bufferLength).trace pis).map record ∧
      (∀ tb1 pi, ((tb.started buffer bufferLength).trace pis).getLast? = some (tb1, pi) →
        ((tb.started buffer bufferLength).offers pis).ndpOffset =
          tb1.ndpOffsetAfter (ncmGetPacketDataLength pi)) ∧
      ∀ (pi : NcmPacketIterator p f) status tb',
        copyNextDatagram ((tb.started buffer bufferLength).offers pis) pi = (status, tb') →
          status ≠ .success → tb' = (tb.started buffer bufferLength).offers pis := by
  have hplaced := offers_wellPlaced hparams buffer bufferLength pis
  generalize htrace : (tb.started buffer bufferLength).trace pis = acc at *
  have hcut : ∀ x ∈ acc, (record x).cut ((tb.started buffer bufferLength).offers pis).format =
      record x := by
    intro x hx
    obtain ⟨hoffset, hlength⟩ := hcasts x hx
    rw [← hplaced.format_eq x hx]
    unfold record DatagramPointer.cut
    rw [Nat.mod_eq_of_lt hoffset, Nat.mod_eq_of_lt hlength]
  obtain ⟨hinvariant, htake⟩ := hplaced.laid.layoutInvariant hplaced.bounded hplaced.parameters hcut
    hplaced.payload
  have hcount := hplaced.laid.count
  rw [hcount] at htake
  refine ⟨hinvariant, hcount, htake, ?_, ?_⟩
  · rintro tb1 pi hlast
    rw [offers_eq (by rw [htrace]; exact hlast), accept_ndpOffset]
  · intro pi status tb' hcall hstatus
    by_cases ha : ((tb.started buffer bufferLength).offers pis).Accepts pi
    · rw [copyNextDatagram_of_accepts ha] at hcall
      cases hcall
      exact absurd rfl hstatus
    · rw [copyNextDatagram_of_not_accepts ha] at hcall
      cases hcall
      rfl

/-- Two packets that fit, and between them one that does not. -/
theorem offers_layoutInvariant_three :
    ((((initialBlock 16 4 32 14 false).started (fun _ => none) 2048).offers
      [singlePacket 60, singlePacket 3000, singlePacket 100]).LayoutInvariant) := by
  have hparams : (initialBlock 16 4 32 14 false).ProperParameters :=
    ⟨⟨2, rfl⟩, ⟨5, rfl⟩, by decide⟩
  exact (offers_layoutInvariant (initialBlock 16 4 32 14 false) hparams (fun _ => none) 2048
    [singlePacket 60, singlePacket 3000, singlePacket 100] (by decide)).1

end UsbNcm.Ntb.NcmTransferBlock
