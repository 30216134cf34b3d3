import UsbNcm.Host.Parameters

/-!
# Where the host driver puts datagrams

The alignment, the divisor and the remainder come from the device unchecked, zero included.
-/

open Exec ByteMemory AlignUp UsbNcm.Ring UsbNcm.Ntb UsbNcm.Ntb.NcmTransferBlock

namespace UsbNcm.Host

variable {p f : Nat} {ntbParamters : NtbParameters} {tb : NcmTransferBlock}
  {pi : NcmPacketIterator p f}

def Inside (tb : NcmTransferBlock) (pi : NcmPacketIterator p f) : Prop :=
  tb.format.sizeofNth ≤ tb.datagramOffset ∧ tb.currentBufferOffset ≤ tb.datagramOffset ∧
    tb.datagramOffset + ncmGetPacketDataLength pi ≤ tb.bufferLength

/-- What has to hold where a parameter of the device is zero, which masks the rounded offset to
zero. -/
def ZeroParametersHarmless (ntbParamters : NtbParameters) (tb : NcmTransferBlock)
    (pi : NcmPacketIterator p f) : Prop :=
  (ntbParamters.wNdpOutDivisor = 0 →
      tb.currentBufferOffset + sizeofEthernetHeader ≤
        ntbParamters.wNdpOutPayloadRemainder.toNat) ∧
    (ntbParamters.wNdpOutAlignment = 0 →
      tb.datagramOffset + ncmGetPacketDataLength pi ≤ ntbParamters.dwNtbOutMaxSize.toNat)

/-- A block with these parameters. What has been written lies behind the header and below 4 GiB. -/
structure Filled (ntbParamters : NtbParameters) (tb : NcmTransferBlock) : Prop where
  alignment : tb.ndpAlignment = ntbParamters.wNdpOutAlignment
  divisor : tb.ndpDivisor = ntbParamters.wNdpOutDivisor
  remainder : tb.ndpPayloadRemainder = ntbParamters.wNdpOutPayloadRemainder
  bufferLength : tb.bufferLength = ntbParamters.dwNtbOutMaxSize.toNat
  count_le : tb.currentNdpDatagramCount ≤ tb.ntbMaxDatagrams.toNat
  offset_ge : tb.format.sizeofNth ≤ tb.currentBufferOffset
  offset_lt : tb.currentBufferOffset < 2 ^ 32

theorem Filled.accept (h : Filled ntbParamters tb) (ha : tb.Accepts pi) (hin : Inside tb pi) :
    Filled ntbParamters (tb.accept pi) := by
  obtain ⟨hge, -, hle⟩ := hin
  have hlt := ntbParamters.dwNtbOutMaxSize.toNat_lt
  have hbuffer := h.bufferLength
  have hoffset : (tb.accept pi).currentBufferOffset =
      tb.datagramOffset + ncmGetPacketDataLength pi := Nat.mod_eq_of_lt (by omega)
  refine ⟨h.alignment, h.divisor, h.remainder, hbuffer, ha.1, ?_, ?_⟩
  · rw [hoffset]
    exact Nat.le_trans hge (Nat.le_add_right _ _)
  · rw [hoffset]
    omega

/-- The offset before it is cut to 64 bits, for each kind of divisor. -/
theorem datagramOffset_cases (h : Filled ntbParamters tb) :
    (ntbParamters.wNdpOutDivisor = 0 ∧ tb.datagramOffset =
        (ntbParamters.wNdpOutPayloadRemainder.toNat + (2 ^ 64 - sizeofEthernetHeader)) % 2 ^ 64) ∨
      (ntbParamters.wNdpOutDivisor ≠ 0 ∧ tb.currentBufferOffset ≤ tb.datagramOffset ∧
        tb.datagramOffset < tb.currentBufferOffset + 2 ^ 17) := by
  have hlt := h.offset_lt
  have hrem := tb.ndpPayloadRemainder.toNat_lt
  have hmax := tb.ndpDivisor.toNat_lt
  rw [← h.divisor, ← h.remainder]
  by_cases hz : tb.ndpDivisor = 0
  · refine Or.inl ⟨hz, ?_⟩
    unfold datagramOffset
    rw [hz, UInt16.toNat_zero, alignUpBy_zero, Nat.zero_add]
  · have hpos : 0 < tb.ndpDivisor.toNat :=
      Nat.pos_of_ne_zero fun hzero => hz (UInt16.toNat_inj.mp hzero)
    have hb := alignUpBy_bounds (x := tb.currentBufferOffset + sizeofEthernetHeader) hpos
      (by unfold sizeofEthernetHeader; omega)
    refine Or.inr ⟨hz, ?_⟩
    unfold datagramOffset
    unfold sizeofEthernetHeader at hb ⊢
    omega

theorem inside_iff (h : Filled ntbParamters tb) (ha : tb.Accepts pi) :
    Inside tb pi ↔ ZeroParametersHarmless ntbParamters tb pi := by
  have hlt := h.offset_lt
  have hge := h.offset_ge
  have hbuffer := h.bufferLength
  have hbufferLt := ntbParamters.dwNtbOutMaxSize.toNat_lt
  have hrem := ntbParamters.wNdpOutPayloadRemainder.toNat_lt
  have hlen := ncmGetPacketDataLength_lt pi
  constructor
  · rintro ⟨-, hle, hfits⟩
    refine ⟨?_, fun _ => hbuffer ▸ hfits⟩
    intro hz
    rcases datagramOffset_cases h with ⟨-, hoffset⟩ | ⟨hne, -⟩
    · unfold sizeofEthernetHeader at hoffset ⊢
      omega
    · exact absurd hz hne
  · rintro ⟨hdiv, halign⟩
    have hplaced : tb.currentBufferOffset ≤ tb.datagramOffset ∧ tb.datagramOffset < 2 ^ 33 := by
      rcases datagramOffset_cases h with ⟨hz, hoffset⟩ | ⟨-, hle, hoffset⟩
      · have := hdiv hz
        unfold sizeofEthernetHeader at hoffset this
        omega
      · omega
    refine ⟨by omega, hplaced.1, ?_⟩
    rw [← h.alignment, ← hbuffer] at halign
    by_cases hz : tb.ndpAlignment = 0
    · exact halign hz
    · have hpos : 0 < tb.ndpAlignment.toNat :=
        Nat.pos_of_ne_zero fun hzero => hz (UInt16.toNat_inj.mp hzero)
      have hmax := tb.ndpAlignment.toNat_lt
      have hcount := h.count_le
      have hcountMax := tb.ntbMaxDatagrams.toNat_lt
      have hb := alignUpBy_bounds (x := tb.datagramOffset + ncmGetPacketDataLength pi) hpos
        (by omega)
      have htest := ha.2
      unfold totalNtbSizeNeeded ndpOffsetAfter at htest
      rcases tb.format.sizes with hs | hs <;> (simp only [hs] at *; omega)

/-- Every datagram of an NTB is inside exactly when no zero parameter does harm at any of them. -/
theorem Filled.trace_inside_iff (h : Filled ntbParamters tb) (pis : List (NcmPacketIterator p f)) :
    (∀ x ∈ tb.trace pis, Inside x.1 x.2) ↔
      ∀ x ∈ tb.trace pis, ZeroParametersHarmless ntbParamters x.1 x.2 := by
  induction pis generalizing tb with
  | nil => simp [trace]
  | cons pi rest ih =>
    by_cases ha : tb.Accepts pi
    · simp only [trace, copyNextDatagram_of_accepts ha, List.forall_mem_cons, inside_iff h ha]
      refine and_congr_right fun hharmless => ?_
      exact ih (h.accept ha ((inside_iff h ha).mpr hharmless))
    · simp only [trace, copyNextDatagram_of_not_accepts ha]
      exact ih h

/-- For all parameters that a device can return, accepted by the host or not: every datagram that
is copied is written inside the buffer exactly when no zero parameter does harm. -/
theorem copyNextDatagram_inside_iff (device : HostConfiguration) (ntbParamters : NtbParameters)
    (tb : NcmTransferBlock)
    (hcreated : CreatedFrom (adapterParameters (selectNtbParameters device ntbParamters).2) tb)
    (buffer : Memory) (pis : List (NcmPacketIterator p f)) :
    (∀ x ∈ (tb.started buffer ntbParamters.dwNtbOutMaxSize.toNat).trace pis, Inside x.1 x.2) ↔
      ∀ x ∈ (tb.started buffer ntbParamters.dwNtbOutMaxSize.toNat).trace pis,
        ZeroParametersHarmless ntbParamters x.1 x.2 := by
  have hparams := selectNtbParameters_ntbParamters device ntbParamters
  have hfilled : Filled ntbParamters (tb.started buffer ntbParamters.dwNtbOutMaxSize.toNat) := by
    refine ⟨?_, ?_, ?_, rfl, Nat.zero_le _, Nat.le_refl _, ?_⟩
    · exact hcreated.ndpAlignment.trans (congrArg NtbParameters.wNdpOutAlignment hparams)
    · exact hcreated.ndpDivisor.trans (congrArg NtbParameters.wNdpOutDivisor hparams)
    · exact hcreated.ndpPayloadRemainder.trans
        (congrArg NtbParameters.wNdpOutPayloadRemainder hparams)
    · change tb.format.sizeofNth < 2 ^ 32
      rcases tb.format.sizes with hs | hs <;> omega
  exact hfilled.trace_inside_iff pis

def newHost : HostConfiguration where
  use32BitNtb := false
  ntbParamters := ⟨0, 0, 0, 0, 0, 0, 0, 0, 0, 0, 0, 0⟩
  hostSelectedNtbInMaxSize := 0
  maxDatagramSize := 1514
  macAddress := []

/-- NTB16 only, 2048 bytes in both directions, and no divisor. -/
def zeroDivisor : NtbParameters where
  wLength := 0x1C
  bmNtbFormatsSupported := 0x0001
  dwNtbInMaxSize := 2048
  wNdpInDivisor := 4
  wNdpInPayloadRemainder := 0
  wNdpInAlignment := 4
  wReserved := 0
  dwNtbOutMaxSize := 2048
  wNdpOutDivisor := 0
  wNdpOutPayloadRemainder := 0
  wNdpOutAlignment := 4
  wNtbOutMaxDatagrams := 0

theorem copyNextDatagram_inside_iff_zeroDivisor :
    (∀ x ∈ ((initialBlock 16 4 0 0 false).started (fun _ => none)
        zeroDivisor.dwNtbOutMaxSize.toNat).trace [singlePacket 60], Inside x.1 x.2) ↔
      ∀ x ∈ ((initialBlock 16 4 0 0 false).started (fun _ => none)
        zeroDivisor.dwNtbOutMaxSize.toNat).trace [singlePacket 60],
          ZeroParametersHarmless zeroDivisor x.1 x.2 :=
  copyNextDatagram_inside_iff newHost zeroDivisor (initialBlock 16 4 0 0 false)
    ⟨rfl, rfl, rfl, rfl, rfl⟩ (fun _ => none) [singlePacket 60]

/-- The host accepts the parameters, and the first packet goes 14 bytes below the buffer. -/
theorem copyNextDatagram_below_buffer :
    (selectNtbParameters newHost zeroDivisor).1 = .success ∧
      ((initialBlock 16 4 0 0 false).started (fun _ => none)
        zeroDivisor.dwNtbOutMaxSize.toNat).Accepts (singlePacket 60) ∧
      ((initialBlock 16 4 0 0 false).started (fun _ => none)
        zeroDivisor.dwNtbOutMaxSize.toNat).datagramOffset = 2 ^ 64 - 14 ∧
      ¬ ∀ x ∈ ((initialBlock 16 4 0 0 false).started (fun _ => none)
        zeroDivisor.dwNtbOutMaxSize.toNat).trace [singlePacket 60], Inside x.1 x.2 := by
  refine ⟨by decide, by decide, by decide, ?_⟩
  intro hinside
  have hbad := hinside (_, singlePacket 60) List.mem_cons_self
  exact absurd hbad.2.2 (by decide)

end UsbNcm.Host
