import UsbNcm.Function.Parameters
import UsbNcm.Ntb.Reserve

/-! # The NTBs that the function driver sends -/

open Exec ByteMemory UsbNcm.Ring UsbNcm.Ntb UsbNcm.Ntb.NcmTransferBlock

namespace UsbNcm.Function

variable {p f : Nat} {use32BitNtb : Bool} {adapterMacAddress : List UInt8} {txMaxNtbSize : UInt32}
  {tb tb1 : NcmTransferBlock} {pi : NcmPacketIterator p f}

structure Building (use32BitNtb : Bool) (adapterMacAddress : List UInt8) (txMaxNtbSize : UInt32)
    (tb : NcmTransferBlock) : Prop where
  bounded : tb.Bounded
  created : CreatedFrom
    (adapterParameters ntbParameters use32BitNtb adapterMacAddress txMaxNtbSize) tb
  bufferLength : tb.bufferLength = txMaxNtbSize.toNat

theorem Building.accept (h : Building use32BitNtb adapterMacAddress txMaxNtbSize tb)
    (ha : tb.Accepts pi) : Building use32BitNtb adapterMacAddress txMaxNtbSize (tb.accept pi) :=
  ⟨h.bounded.accept ha, h.created.accept pi, h.bufferLength⟩

theorem alignment_ne (h : CreatedFrom
    (adapterParameters ntbParameters use32BitNtb adapterMacAddress txMaxNtbSize) tb) :
    tb.ndpAlignment ≠ 0 ∧ tb.ndpDivisor ≠ 0 := by
  rw [h.ndpAlignment, h.ndpDivisor]
  exact ⟨(by decide : (4 : UInt16) ≠ 0), (by decide : (4 : UInt16) ≠ 0)⟩

/-- With at most 16 datagrams only the block length can be too large for its field. -/
theorem Building.fields_fit (h : Building use32BitNtb adapterMacAddress txMaxNtbSize tb1)
    (hsize : txMaxNtbSize ≤ 0x10000) (ha : tb1.Accepts pi) :
    (tb1.accept pi).ndpOffset < 256 ^ tb1.format.ptrSize ∧
      (tb1.accept pi).ndpLength < 2 ^ 16 ∧
      (tb1.accept pi).ndpEnd =
        tb1.totalNtbSizeNeeded (ncmGetPacketDataLength pi) + tb1.format.sizeofDpe ∧
      (tb1.accept pi).ndpEnd < 2 ^ 16 + 16 := by
  obtain ⟨hcount, htest⟩ := ha
  have hmax : tb1.ntbMaxDatagrams.toNat = 16 := by
    rw [h.created.ntbMaxDatagrams]
    rfl
  have hle : txMaxNtbSize.toNat ≤ 65536 := UInt32.le_iff_toNat_le.mp hsize
  have hneeded := h.bounded.totalNtbSizeNeeded_eq pi
  have hlen := h.bufferLength
  have hlength : (tb1.accept pi).ndpLength =
      tb1.format.sizeofNdp + (tb1.currentNdpDatagramCount + 2) * tb1.format.sizeofDpe := rfl
  rw [accept_ndpOffset, accept_ndpEnd, hlength]
  rcases tb1.format.sizes with hs | hs <;> (simp only [hs] at *; omega)

theorem building_last {buffer : Memory} {pis : List (NcmPacketIterator p f)}
    (hcreated : CreatedFrom
      (adapterParameters ntbParameters use32BitNtb adapterMacAddress txMaxNtbSize) tb)
    (hlast : ((tb.started buffer txMaxNtbSize.toNat).trace pis).getLast? = some (tb1, pi)) :
    Building use32BitNtb adapterMacAddress txMaxNtbSize tb1 ∧ tb1.Accepts pi := by
  obtain ⟨halign, hdiv⟩ := alignment_ne hcreated
  have hrun := offers_invariant (Building use32BitNtb adapterMacAddress txMaxNtbSize)
    (fun _ _ h ha => h.accept ha)
    ⟨started_bounded buffer _ halign hdiv, hcreated.started buffer _, rfl⟩ pis
  exact hrun.2 (tb1, pi) (List.mem_of_getLast? hlast)

/-- No field of an NTB of the function driver is truncated, exactly when the format is the 32-bit
one or the last accepted packet left the whole table below 64 KiB. -/
theorem setNdp_untruncated_iff (use32BitNtb : Bool) (adapterMacAddress : List UInt8)
    (txMaxNtbSize : UInt32) (hsize : txMaxNtbSize ≤ 0x10000) (tb : NcmTransferBlock)
    (hcreated : CreatedFrom
      (adapterParameters ntbParameters use32BitNtb adapterMacAddress txMaxNtbSize) tb)
    (buffer : Memory) (pis : List (NcmPacketIterator p f))
    (hsome : (tb.started buffer txMaxNtbSize.toNat).trace pis ≠ []) :
    Untruncated ((tb.started buffer txMaxNtbSize.toNat).offers pis)
        ((tb.started buffer txMaxNtbSize.toNat).trace pis) ↔
      use32BitNtb = true ∨ ∀ tb1 pi,
        ((tb.started buffer txMaxNtbSize.toNat).trace pis).getLast? = some (tb1, pi) →
          tb1.totalNtbSizeNeeded (ncmGetPacketDataLength pi) + tb1.format.sizeofDpe < 2 ^ 16 := by
  obtain ⟨halign, hdiv⟩ := alignment_ne hcreated
  obtain ⟨⟨tb1, pi⟩, hlast⟩ := Option.ne_none_iff_exists'.mp
    (fun hnone => hsome (List.getLast?_eq_none_iff.mp hnone))
  obtain ⟨hbuilding, haccepts⟩ := building_last hcreated hlast
  obtain ⟨hndp, hlen, hend, hle⟩ := hbuilding.fields_fit hsize haccepts
  obtain ⟨hbounded, hlaid⟩ := offers_laid tb halign hdiv buffer txMaxNtbSize.toNat pis
  have hformat := hbuilding.created.format
  rw [offers_eq hlast] at hbounded hlaid ⊢
  rw [hlaid.untruncated_iff hbounded hsome hndp hlen, hlast]
  change (tb1.accept pi).ndpEnd < 256 ^ tb1.format.ptrSize ↔ _
  cases use32BitNtb with
  | false =>
    have hptr : tb1.format.ptrSize = 2 := by
      rw [hformat]
      rfl
    rw [hptr, hend]
    simp
  | true =>
    have hptr : tb1.format.ptrSize = 4 := by
      rw [hformat]
      rfl
    rw [hptr]
    exact iff_of_true (by omega) (Or.inl rfl)

/-- The block of a new adapter with 16-bit NTBs, with a buffer of 64 KiB to fill. -/
def emptyNtb : NcmTransferBlock :=
  (initialBlock 16 4 4 0 false).started (fun _ => none) (0x10000 : UInt32).toNat

theorem setNdp_untruncated_iff_60 :
    Untruncated (emptyNtb.offers [singlePacket 60]) (emptyNtb.trace [singlePacket 60]) ↔
      false = true ∨ ∀ tb1 pi, (emptyNtb.trace [singlePacket 60]).getLast? = some (tb1, pi) →
        tb1.totalNtbSizeNeeded (ncmGetPacketDataLength pi) + tb1.format.sizeofDpe < 2 ^ 16 :=
  setNdp_untruncated_iff false [] 0x10000 (by decide) (initialBlock 16 4 4 0 false)
    ⟨rfl, rfl, rfl, rfl, rfl⟩ (fun _ => none) [singlePacket 60] (by decide)

/-- Eight packets that fill the 64 KiB to the last byte. -/
def eightPackets : List (NcmPacketIterator 1 1) :=
  List.replicate 7 (singlePacket 9014) ++ [singlePacket 2366]

/-- Their NTB is 0x10000 bytes long, so its 16-bit block length is stored as zero. -/
theorem setNdp_truncates :
    (emptyNtb.offers eightPackets).currentNdpDatagramCount = 8 ∧
      (emptyNtb.offers eightPackets).ndpEnd = 0x10000 ∧
      (∃ tb', (emptyNtb.offers eightPackets).setNdp = .ok (0, tb')) ∧
      ¬ Untruncated (emptyNtb.offers eightPackets) (emptyNtb.trace eightPackets) := by
  have hend : (emptyNtb.offers eightPackets).ndpEnd = 0x10000 := by decide
  have hbounded := (offers_laid (initialBlock 16 4 4 0 false) (by decide) (by decide)
    (fun _ => none) (0x10000 : UInt32).toNat eightPackets).1
  have hspec := setNdp_spec (show (emptyNtb.offers eightPackets).currentNdpDatagramCount ≠ 0 by
    decide) hbounded.ndpPlaced
  have hzero : ((emptyNtb.offers eightPackets).ndpOffset +
      (emptyNtb.offers eightPackets).ndpLength % 256 ^ 2) %
        256 ^ (emptyNtb.offers eightPackets).format.ptrSize = 0 := by
    decide
  have hset : ∃ tb', (emptyNtb.offers eightPackets).setNdp = .ok (0, tb') :=
    ⟨_, hspec.trans (by rw [hzero])⟩
  refine ⟨by decide, hend, hset, ?_⟩
  rintro ⟨transferLength, tb', hset', -, -, -, -, hlength, -⟩
  obtain ⟨tb0, hset⟩ := hset
  rw [hset] at hset'
  cases hset'
  omega

/-! ## The size that the host selected -/

/-- An NTB is no longer than the buffers of the adapter exactly when its last packet left room for
the null entry, or when its length is cut to 16 bits. -/
theorem setNdp_within_iff (hsize : txMaxNtbSize ≤ 0x10000)
    (hcreated : CreatedFrom
      (adapterParameters ntbParameters use32BitNtb adapterMacAddress txMaxNtbSize) tb)
    {buffer : Memory} {pis : List (NcmPacketIterator p f)}
    (hsome : (tb.started buffer txMaxNtbSize.toNat).trace pis ≠ []) :
    ∃ transferLength tb', ((tb.started buffer txMaxNtbSize.toNat).offers pis).setNdp =
        .ok (transferLength, tb') ∧
      (transferLength ≤ txMaxNtbSize.toNat ↔ ∀ tb1 pi,
        ((tb.started buffer txMaxNtbSize.toNat).trace pis).getLast? = some (tb1, pi) →
          tb1.NullEntryFits pi ∨ (use32BitNtb = false ∧
            2 ^ 16 ≤ tb1.totalNtbSizeNeeded (ncmGetPacketDataLength pi) + tb1.format.sizeofDpe)) := by
  obtain ⟨⟨tb1, pi⟩, hlast⟩ := Option.ne_none_iff_exists'.mp
    (fun hnone => hsome (List.getLast?_eq_none_iff.mp hnone))
  obtain ⟨hbuilding, haccepts⟩ := building_last hcreated hlast
  obtain ⟨hndp, hlen, hend, hle⟩ := hbuilding.fields_fit hsize haccepts
  have hneeded := haccepts.2
  rw [hbuilding.bufferLength] at hneeded
  have hfits : tb1.NullEntryFits pi ↔ (tb1.accept pi).ndpEnd ≤ txMaxNtbSize.toNat := by
    unfold NullEntryFits
    rw [accept_ndpEnd, hbuilding.bufferLength]
  rw [offers_eq hlast, hlast]
  refine ⟨_, _, setNdp_spec (Nat.succ_ne_zero _) (hbuilding.bounded.accept haccepts).ndpPlaced, ?_⟩
  have hlength : (tb1.accept pi).ndpOffset + (tb1.accept pi).ndpLength % 256 ^ 2 =
      (tb1.accept pi).ndpEnd := by
    rw [Nat.mod_eq_of_lt (by omega), ndpEnd, ndpLength, Nat.add_assoc]
  rw [hlength]
  have hlast_iff : (∀ tb2 pi2, some (tb1, pi) = some (tb2, pi2) →
      tb2.NullEntryFits pi2 ∨ (use32BitNtb = false ∧
        2 ^ 16 ≤ tb2.totalNtbSizeNeeded (ncmGetPacketDataLength pi2) + tb2.format.sizeofDpe)) ↔
      (tb1.accept pi).ndpEnd ≤ txMaxNtbSize.toNat ∨
        (use32BitNtb = false ∧ 2 ^ 16 ≤ (tb1.accept pi).ndpEnd) := by
    rw [← hfits, hend]
    constructor
    · intro h
      exact h tb1 pi rfl
    · rintro h tb2 pi2 heq
      cases heq
      exact h
  rw [hlast_iff]
  have hformat := hbuilding.created.format
  have hsame : (tb1.accept pi).format = tb1.format := rfl
  rw [hsame, hformat]
  cases use32BitNtb with
  | false =>
    have hdpe : tb1.format.sizeofDpe = 4 := by
      rw [hformat]
      rfl
    change (tb1.accept pi).ndpEnd % 256 ^ 2 ≤ _ ↔ _
    rw [eq_self, true_and]
    omega
  | true =>
    change (tb1.accept pi).ndpEnd % 256 ^ 4 ≤ _ ↔ _
    rw [Nat.mod_eq_of_lt (by omega)]
    simp

end UsbNcm.Function
