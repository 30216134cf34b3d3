import UsbNcm.Ntb.Chain
import UsbNcm.Ntb.RoundTrip

/-!
# An NTB in a transfer

What the bytes of a transfer carry. A buffer that begins with them holds the same.
-/

open Exec ByteMemory UsbNcm.Ring UsbNcm.Ntb.NcmTransferBlock

namespace UsbNcm.Ntb

def DatagramPointer.dataIn (d : DatagramPointer) (bytes : List UInt8) : List UInt8 :=
  (bytes.drop d.datagramIndex).take d.datagramLength

/-- The bytes are an NTB that gives its length, with these data in their order. -/
def Carries (fmt : NtbFormat) (bytes : List UInt8) (datas : List (List UInt8)) : Prop :=
  ∃ ds, Walk fmt bytes ds ∧ GivesBlockLength fmt bytes ∧ ds.map (·.dataIn bytes) = datas

variable {fmt : NtbFormat} {bytes bytes' data : List UInt8} {datas : List (List UInt8)}
  {d : DatagramPointer} {p f : Nat} {tb : NcmTransferBlock}
  {acc : List (NcmTransferBlock × NcmPacketIterator p f)}

theorem dataIn_prefix (h : bytes <+: bytes')
    (hin : d.datagramIndex + d.datagramLength ≤ bytes.length) : d.dataIn bytes' = d.dataIn bytes := by
  obtain ⟨behind, rfl⟩ := h
  unfold DatagramPointer.dataIn
  rw [List.drop_append_of_le_length (by omega), List.take_append_of_le_length]
  rw [List.length_drop]
  omega

theorem dataIn_length (hin : d.datagramIndex + d.datagramLength ≤ bytes.length) :
    (d.dataIn bytes).length = d.datagramLength := by
  unfold DatagramPointer.dataIn
  rw [List.length_take, List.length_drop]
  omega

/-- Whatever is behind the transfer. -/
theorem Carries.extends (h : Carries fmt bytes datas) (hlonger : bytes <+: bytes') :
    Carries fmt bytes' datas := by
  obtain ⟨ds, hwalk, hgives, rfl⟩ := h
  obtain ⟨stored, hpos, hstored⟩ := hgives
  refine ⟨ds, hwalk.extends ⟨stored, hpos, hstored⟩ hlonger,
    ⟨stored, hpos, (extends_ofBytes hlonger).readLe _ _ _ hstored⟩, ?_⟩
  exact List.map_congr_left fun d hd => dataIn_prefix hlonger (hwalk.inBuffer hd)

theorem Carries.ne_nil (h : Carries fmt bytes datas) : bytes ≠ [] := by
  rintro rfl
  obtain ⟨ds, -, ⟨stored, -, hstored⟩, -⟩ := h
  cases fmt <;> cases hstored

theorem dataIn_of_readBytes (h : readBytes (ofBytes bytes) d.datagramIndex d.datagramLength = .ok data) :
    d.dataIn bytes = data := by
  obtain ⟨hlen, hheld⟩ := holds_of_readBytes h
  unfold DatagramPointer.dataIn
  apply List.ext_getElem?
  intro i
  by_cases hi : i < d.datagramLength
  · rw [List.getElem?_take_of_lt hi, List.getElem?_drop]
    have hbyte := hheld i (by omega)
    unfold ofBytes at hbyte
    rw [hbyte, List.getElem?_eq_getElem]
  · rw [List.getElem?_eq_none (by rw [List.length_take]; omega), List.getElem?_eq_none (by omega)]

/-! ## There is only one reading -/

theorem NcmTransferBlock.Yields.unique {tb : NcmTransferBlock} {ds ds' : List DatagramPointer} (h : Yields tb ds)
    (h' : Yields tb ds') : ds = ds' := by
  induction h generalizing ds' with
  | done hcall hstatus =>
    cases h' with
    | done => rfl
    | datagram hcall' =>
      rw [hcall] at hcall'
      cases hcall'
      exact absurd rfl hstatus
  | datagram hcall _ ih =>
    cases h' with
    | done hcall' hstatus =>
      rw [hcall] at hcall'
      cases hcall'
      exact absurd rfl hstatus
    | datagram hcall' hrest =>
      rw [hcall] at hcall'
      cases hcall'
      rw [ih hrest]

theorem Walk.unique {ds ds' : List DatagramPointer} (hlen : bytes.length < 2 ^ 31)
    (h : Walk fmt bytes ds) (h' : Walk fmt bytes ds') : ds = ds' := by
  let tb : NcmTransferBlock := { initialBlock 0 0 0 0 false with format := fmt }
  have hparses : ∀ ds, Walk tb.format bytes ds → ∃ tb', reInitializeBuffer 64 tb (ofBytes bytes)
      bytes.length .rx = .ok (.success, tb') ∧ Yields tb' ds :=
    fun _ => (walk_iff hlen).mpr
  obtain ⟨tb1, hparse, hyields⟩ := hparses ds h
  obtain ⟨tb2, hparse', hyields'⟩ := hparses ds' h'
  rw [hparse] at hparse'
  cases hparse'
  exact hyields.unique hyields'

theorem Carries.data_of_walk {ds : List DatagramPointer} (h : Carries fmt bytes datas)
    (hlonger : bytes <+: bytes') (hlen : bytes'.length < 2 ^ 31) (hwalk : Walk fmt bytes' ds) :
    ds.map (·.dataIn bytes') = datas := by
  obtain ⟨ds', hwalk', -, hdatas⟩ := h.extends hlonger
  rw [hwalk.unique hlen hwalk', hdatas]

/-! ## What `SetNdp` finishes -/

namespace NcmTransferBlock

theorem Fits.ndpEnd_pos (h : tb.Fits) : 0 < tb.ndpEnd := by
  have hcount := h.count_pos
  rw [ndpEnd_eq, ndpLength_eq]
  rcases tb.format.sizes with hs | hs <;> (simp only [hs]; omega)

theorem Fits.givesBlockLength (h : tb.Fits) (hb : tb.Bounded) (hm : tb.HasNtb (ofBytes bytes)) :
    GivesBlockLength tb.format bytes := by
  -- the header is accepted in a buffer of any length, so it cannot leave its length out
  obtain ⟨-, -, -, ⟨stored, hstored, -, hblock⟩, -⟩ := h.nthHeader hb hm (Nat.le_succ tb.ndpEnd)
  refine ⟨stored, Nat.pos_of_ne_zero ?_, hstored⟩
  rintro rfl
  have hlt := h.ndpEnd_lt
  have hpos := h.ndpEnd_pos
  rw [if_neg (Nat.lt_irrefl 0)] at hblock
  rcases Nat.lt_or_eq_of_le (Nat.succ_le_of_lt hlt) with hsmall | hwraps
  · rw [Nat.mod_eq_of_lt hsmall] at hblock
    omega
  · rw [hwraps, Nat.mod_self] at hblock
    omega

theorem Fits.carries (h : tb.Fits) (hb : tb.Bounded) (hl : tb.Laid acc)
    (hpos : ∀ x ∈ acc, 0 < ncmGetPacketDataLength x.2)
    (hbytes : readBytes tb.written 0 tb.ndpEnd = .ok bytes) :
    Carries tb.format bytes (acc.map fun x => packetData x.2) := by
  obtain ⟨hm, hle⟩ := hasNtb_of_readBytes hbytes []
  rw [List.append_nil] at hm hle
  refine ⟨acc.map record, ⟨tb.ndpEnd, tb.ndpOffset, 0, acc.map record, [], h.nthHeader hb hm hle,
    h.ndpTable hb hl hm hpos, .last, (List.append_nil _).symm⟩, h.givesBlockLength hb hm, ?_⟩
  rw [List.map_map]
  exact List.map_congr_left fun x hx => dataIn_of_readBytes (hm.data hb hl hx)

theorem Fits.setNdp (h : tb.Fits) (hb : tb.Bounded) :
    tb.setNdp = .ok (tb.ndpEnd, { tb with buffer := tb.written }) := by
  have hspec := setNdp_spec (Nat.ne_of_gt h.count_pos) hb.ndpPlaced
  rwa [Nat.mod_eq_of_lt (b := 256 ^ 2) h.ndpLength_lt, ← ndpEnd_eq,
    Nat.mod_eq_of_lt h.ndpEnd_lt] at hspec

end NcmTransferBlock

end UsbNcm.Ntb
