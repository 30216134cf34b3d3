import UsbNcm.Ntb.Chain

/-!
# A block length that is left out

The header may leave the block length zero, and the parser then goes on with the length of the
buffer. Against the same bytes with a length, the parser accepts no less and returns the same
datagrams. The exception is the 16-bit format in a buffer of 0x10000 bytes, whose length cut to 16
bits is zero.
-/

open Exec ByteMemory

namespace UsbNcm.Ntb

def InBlockLength (fmt : NtbFormat) (i : Nat) : Prop :=
  NtbFormat.nthBlockLengthAt ≤ i ∧ i < NtbFormat.nthBlockLengthAt + fmt.ptrSize

instance (fmt : NtbFormat) (i : Nat) : Decidable (InBlockLength fmt i) :=
  inferInstanceAs (Decidable (_ ∧ _))

/-- The bytes, with zeros for the block length in the header. -/
def omitted (fmt : NtbFormat) (bytes : List UInt8) : List UInt8 :=
  bytes.mapIdx fun i b => if InBlockLength fmt i then 0 else b

variable {fmt : NtbFormat} {bytes : List UInt8} {m m' : Memory}

@[simp]
theorem omitted_length : (omitted fmt bytes).length = bytes.length := by simp [omitted]

theorem ofBytes_omitted {i : Nat} (h : ¬ InBlockLength fmt i) :
    ofBytes (omitted fmt bytes) i = ofBytes bytes i := by
  simp [ofBytes, omitted, h]

theorem readLe_zeros {a n : Nat} (h : ∀ i, a ≤ i → i < a + n → m i = some 0) :
    readLe m a n = .ok 0 := by
  induction n generalizing a with
  | zero => rfl
  | succ n ih =>
    rw [readLe, readByte, h a (Nat.le_refl _) (by omega), ok_bind, ih fun i hi hn => h i (by omega) (by omega)]
    rfl

theorem readLe_omitted {a n : Nat}
    (h : a + n ≤ NtbFormat.nthBlockLengthAt ∨ NtbFormat.nthBlockLengthAt + fmt.ptrSize ≤ a) :
    readLe (ofBytes (omitted fmt bytes)) a n = readLe (ofBytes bytes) a n := by
  refine readLe_congr fun i hi hn => ofBytes_omitted ?_
  unfold InBlockLength
  omega

theorem readLe_omitted_blockLength (h : fmt.sizeofNth ≤ bytes.length) :
    readLe (ofBytes (omitted fmt bytes)) NtbFormat.nthBlockLengthAt fmt.ptrSize = .ok 0 := by
  have hs := fmt.sizes
  refine readLe_zeros fun i hi hn => ?_
  have hlt : i < bytes.length := by
    unfold NtbFormat.nthBlockLengthAt at hn
    omega
  simp [ofBytes, omitted, InBlockLength, hi, hn, hlt]

/-- The header without its block length. -/
theorem NthHeader.omitted {blockLength first : Nat}
    (h : NthHeader fmt (ofBytes bytes) bytes.length blockLength first) :
    NthHeader fmt (ofBytes (omitted fmt bytes)) bytes.length (bytes.length % 256 ^ fmt.ptrSize)
      first := by
  obtain ⟨hfits, hsignature, hheaderLength, -, hfirst⟩ := h
  have hs := fmt.sizes
  refine ⟨hfits, ?_, ?_, ⟨0, readLe_omitted_blockLength hfits, Nat.zero_le _, rfl⟩, ?_⟩
  · rw [readLe_omitted (Or.inl (by decide)), hsignature]
  · rw [readLe_omitted (Or.inl (by decide)), hheaderLength]
  · rw [readLe_omitted (Or.inr (by unfold NtbFormat.nthBlockLengthAt; omega)), hfirst]

/-! ## More bytes in the block -/

section Longer

variable {blockLength blockLength' stop a ndp next : Nat} {ds : List DatagramPointer}

/-- The two memories hold the same behind the header. -/
def AgreeBehind (fmt : NtbFormat) (m m' : Memory) : Prop := ∀ a, fmt.sizeofNth ≤ a → m a = m' a

theorem AgreeBehind.readLe (h : AgreeBehind fmt m m') (ha : fmt.sizeofNth ≤ a) (n : Nat) :
    readLe m a n = ByteMemory.readLe m' a n :=
  readLe_congr fun i hi _ => h i (by omega)

theorem AgreeBehind.readBytes (h : AgreeBehind fmt m m') (ha : fmt.sizeofNth ≤ a) (n : Nat) :
    readBytes m a n = ByteMemory.readBytes m' a n := by
  induction n generalizing a with
  | zero => rfl
  | succ n ih => rw [ByteMemory.readBytes, ByteMemory.readBytes, readByte_congr (h a ha), ih (by omega)]

theorem Entries.longer (hm : AgreeBehind fmt m m') (hle : blockLength ≤ blockLength')
    (ha : fmt.sizeofNth ≤ a) (h : Entries fmt m blockLength stop a ds) :
    Entries fmt m' blockLength' stop a ds := by
  induction h with
  | null hlt hnull =>
    obtain ⟨datagramIndex, hindex, hz⟩ := hnull
    rw [hm.readLe ha] at hindex
    rw [hm.readLe (by omega)] at hz
    exact .null hlt ⟨datagramIndex, hindex, hz⟩
  | entry hlt hentry hin _ ih =>
    obtain ⟨hindex, hlength⟩ := hentry
    obtain ⟨hge, hpos, hend⟩ := hin
    rw [hm.readLe ha] at hindex
    rw [hm.readLe (by omega)] at hlength
    exact .entry hlt ⟨hindex, hlength⟩ ⟨hge, hpos, by omega⟩ (ih (by omega))

/-- A table that is accepted stays accepted in a longer block, with the same entries. -/
theorem NdpTable.longer (hm : AgreeBehind fmt m m') (hle : blockLength ≤ blockLength')
    (h : NdpTable fmt m blockLength ndp ds next) : NdpTable fmt m' blockLength' ndp ds next := by
  obtain ⟨⟨hge, hend⟩, hsignature, ⟨length, hfield, hmin, hmod, hlength, hds⟩, hlink, hlinkFits⟩ := h
  rw [hm.readLe hge] at hsignature
  rw [hm.readLe (by omega)] at hfield hlink
  refine ⟨⟨hge, by omega⟩, hsignature, ⟨length, hfield, hmin, hmod, by omega, ?_⟩, hlink, ?_⟩
  · exact hds.longer hm hle (by omega)
  · exact hlinkFits.imp_right fun ⟨hge, hend⟩ => ⟨hge, by omega⟩

end Longer

namespace NcmTransferBlock

/-- The first calls from `tb` on return these datagrams. -/
inductive Gets : NcmTransferBlock → List DatagramPointer → Prop
  | none {tb : NcmTransferBlock} : Gets tb []
  | call {tb tb' : NcmTransferBlock} {d : DatagramPointer} {ds : List DatagramPointer} :
    getNextDatagram 64 tb = .ok (.success, d, tb') → Gets tb' ds → Gets tb (d :: ds)

/-- The same cursor, in a block that agrees behind the header and is not shorter. -/
structure SameCursor (tb tb' : NcmTransferBlock) : Prop where
  format_eq : tb'.format = tb.format
  agree : AgreeBehind tb.format tb.buffer tb'.buffer
  block_le : tb.blockLength ≤ tb'.blockLength
  block_lt : tb'.blockLength < 2 ^ 31
  ndp_eq : tb'.currentNdpIndex = tb.currentNdpIndex
  ndp_ge : tb.format.sizeofNth ≤ tb.currentNdpIndex
  next_eq : tb'.nextNdpIndex = tb.nextNdpIndex
  next_lt : tb.nextNdpIndex < 2 ^ 32
  index_eq : tb'.currentNdpDatagramIndex = tb.currentNdpDatagramIndex
  count_eq : tb'.currentNdpDatagramCount = tb.currentNdpDatagramCount

variable {tb tb' tb1 : NcmTransferBlock} {d : DatagramPointer} {ds : List DatagramPointer}

theorem SameCursor.getNextNdp (h : SameCursor tb tb')
    (hcall : getNextNdp 64 tb = .ok (.success, tb1)) :
    ∃ tb1', getNextNdp 64 tb' = .ok (.success, tb1') ∧ SameCursor tb1 tb1' := by
  obtain ⟨hfmt, hm, hle, hlt, -, -, hnext, hnextLt, -, -⟩ := h
  rcases getNextNdp_cases hcall with ⟨-, hc, -⟩ | ⟨-, hc, -⟩ | ⟨hne, -, next, count, hvalidate, rfl⟩
  · cases hc
  · cases hc
  obtain ⟨ds, hds, rfl⟩ := table_of_validateNdp (by omega) hnextLt hvalidate
  have hds' := hds.longer hm hle
  have hvalidate' := validateNdp_of_table (by omega) hnextLt hds'
  rw [← hfmt, ← hnext] at hvalidate'
  refine ⟨_, getNextNdp_of_some (by rw [hnext]; exact hne) hvalidate', ?_⟩
  exact ⟨hfmt, hm, hle, hlt, hnext, hds.fits.1, rfl, hds.next_lt, rfl, rfl⟩

theorem SameCursor.currentDatagram (h : SameCursor tb tb') :
    tb'.currentDatagram = tb.currentDatagram := by
  obtain ⟨hfmt, hm, -, -, hndp, hge, -, -, hindex, -⟩ := h
  unfold NcmTransferBlock.currentDatagram readPtr
  dsimp only
  rw [hfmt, hndp, hindex, hm.readLe (by omega), hm.readLe (by omega)]

theorem SameCursor.advanceCursor (h : SameCursor tb tb') :
    SameCursor tb.advanceCursor tb'.advanceCursor := by
  obtain ⟨hfmt, hm, hle, hlt, hndp, hge, hnext, hnextLt, hindex, hcount⟩ := h
  refine ⟨hfmt, hm, hle, hlt, hndp, hge, hnext, hnextLt, ?_, hcount⟩
  unfold NcmTransferBlock.advanceCursor
  rw [hindex]

theorem SameCursor.getNextDatagram (h : SameCursor tb tb')
    (hcall : getNextDatagram 64 tb = .ok (.success, d, tb1)) :
    ∃ tb1', getNextDatagram 64 tb' = .ok (.success, d, tb1') ∧ SameCursor tb1 tb1' := by
  unfold NcmTransferBlock.getNextDatagram at hcall ⊢
  rw [h.index_eq, h.count_eq]
  split at hcall
  · next hend =>
    obtain ⟨⟨status, tb2⟩, hnext, hcall⟩ := bind_eq_ok.mp hcall
    dsimp only at hcall
    split at hcall
    · next hstatus =>
      cases hcall
      exact absurd rfl hstatus
    · next hstatus =>
      obtain rfl := not_not.mp hstatus
      obtain ⟨datagram, hdatagram, hcall⟩ := bind_eq_ok.mp hcall
      cases hcall
      obtain ⟨tb2', hnext', hsame⟩ := h.getNextNdp hnext
      refine ⟨tb2'.advanceCursor, ?_, hsame.advanceCursor⟩
      rw [if_pos hend, hnext', ok_bind]
      simp only [ne_eq, not_true_eq_false, if_false, hsame.currentDatagram, hdatagram, ok_bind]
      rfl
  · next hend =>
    simp only [pure, Except.pure, ok_bind, ne_eq, not_true_eq_false, if_false] at hcall
    obtain ⟨datagram, hdatagram, hcall⟩ := bind_eq_ok.mp hcall
    cases hcall
    refine ⟨tb'.advanceCursor, ?_, h.advanceCursor⟩
    rw [if_neg hend]
    simp only [pure, Except.pure, ok_bind, ne_eq, not_true_eq_false, if_false, h.currentDatagram,
      hdatagram]

theorem SameCursor.gets (h : SameCursor tb tb') (hgets : Gets tb ds) : Gets tb' ds := by
  induction hgets generalizing tb' with
  | none => exact .none
  | call hcall _ ih =>
    obtain ⟨tb1', hcall', hsame⟩ := h.getNextDatagram hcall
    exact .call hcall' (ih hsame)

/-! ## An omitted length -/

/-- With its block length left out the buffer is accepted, for a block of `min(2^w - 1, length)`
bytes, and the first calls return the same datagrams with the same bytes. -/
def OmissionKeeps (bytes : List UInt8) (tb tb0 : NcmTransferBlock) : Prop :=
  ∃ tb0', reInitializeBuffer 64 tb (ofBytes (omitted tb.format bytes)) bytes.length .rx =
      .ok (.success, tb0') ∧
    tb0'.blockLength = min (256 ^ tb.format.ptrSize - 1) bytes.length ∧
    tb0.blockLength ≤ tb0'.blockLength ∧
    ∀ ds, Gets tb0 ds → (∀ d ∈ ds, tb.format.sizeofNth ≤ d.datagramIndex ∧
        d.datagramIndex + d.datagramLength ≤ tb0.blockLength) →
      Gets tb0' ds ∧ ∀ d ∈ ds, readBytes tb0'.buffer d.datagramIndex d.datagramLength =
        readBytes tb0.buffer d.datagramIndex d.datagramLength

theorem agreeBehind_omitted : AgreeBehind fmt (ofBytes bytes) (ofBytes (omitted fmt bytes)) := by
  intro a ha
  have hs := fmt.sizes
  refine (ofBytes_omitted ?_).symm
  unfold InBlockLength NtbFormat.nthBlockLengthAt
  omega

theorem blockLength_cut {blockLength first : Nat} (hlen : bytes.length ≤ 0x10000)
    (hok : fmt = .ntb32 ∨ bytes.length ≠ 0x10000) (hgives : GivesBlockLength fmt bytes)
    (hheader : NthHeader fmt (ofBytes bytes) bytes.length blockLength first) :
    bytes.length % 256 ^ fmt.ptrSize = min (256 ^ fmt.ptrSize - 1) bytes.length ∧
      blockLength ≤ bytes.length % 256 ^ fmt.ptrSize := by
  obtain ⟨stored, hstored, hle, rfl⟩ := hheader.block
  obtain ⟨stored', hpos, hstored'⟩ := hgives
  rw [hstored] at hstored'
  cases hstored'
  rw [if_pos hpos]
  cases fmt with
  | ntb16 =>
    have hne : bytes.length ≠ 0x10000 := hok.resolve_left (by decide)
    change bytes.length % 256 ^ 2 = min (256 ^ 2 - 1) bytes.length ∧ stored ≤ bytes.length % 256 ^ 2
    omega
  | ntb32 =>
    change bytes.length % 256 ^ 4 = min (256 ^ 4 - 1) bytes.length ∧ stored ≤ bytes.length % 256 ^ 4
    omega

/-- The 16 low bits of the buffer length are the block length of an NTB16 without one. -/
theorem refused_of_ntb16 {tb0' : NcmTransferBlock} (hfmt : tb.format = .ntb16)
    (hlen : bytes.length = 0x10000) :
    reInitializeBuffer 64 tb (ofBytes (omitted tb.format bytes)) bytes.length .rx ≠
      .ok (.success, tb0') := by
  intro h
  obtain ⟨blockLength, first, ds, next, hheader, htable, -⟩ :=
    table_of_reInitializeBuffer (by omega) h
  obtain ⟨stored, hstored, -, rfl⟩ := hheader.block
  rw [readLe_omitted_blockLength hheader.fits] at hstored
  cases hstored
  rw [if_neg (Nat.lt_irrefl 0), hlen, hfmt] at htable
  have hend := htable.fits.2
  change first + 16 ≤ 0 at hend
  omega

/-- Leaving out the block length keeps the datagrams of an accepted NTB, in all buffers of up to
0x10000 bytes but one: the 16-bit format in a buffer of exactly that length. -/
theorem omissionKeeps_iff (bytes : List UInt8) (hlen : bytes.length ≤ 0x10000)
    (tb tb0 : NcmTransferBlock) (hgives : GivesBlockLength tb.format bytes)
    (haccept : reInitializeBuffer 64 tb (ofBytes bytes) bytes.length .rx = .ok (.success, tb0)) :
    OmissionKeeps bytes tb tb0 ↔ tb.format = .ntb32 ∨ bytes.length ≠ 0x10000 := by
  constructor
  · rintro ⟨tb0', haccept', -⟩
    by_contra hbad
    have hfmt : tb.format = .ntb16 := by
      cases h : tb.format with
      | ntb16 => rfl
      | ntb32 => exact absurd (Or.inl h) hbad
    exact refused_of_ntb16 hfmt (by omega) haccept'
  · intro hok
    obtain ⟨blockLength, first, ds, next, hheader, htable, rfl⟩ :=
      table_of_reInitializeBuffer (by omega) haccept
    obtain ⟨hcut, hle⟩ := blockLength_cut hlen hok hgives hheader
    have hblock : bytes.length % 256 ^ tb.format.ptrSize < 2 ^ 31 :=
      Nat.lt_of_le_of_lt (Nat.mod_le _ _) (by omega)
    have hm : AgreeBehind tb.format (ofBytes bytes) (ofBytes (omitted tb.format bytes)) :=
      agreeBehind_omitted
    have hmapped : ∀ a < bytes.length, (ofBytes (omitted tb.format bytes) a).isSome :=
      fun a ha => mapped_ofBytes _ a (by rwa [omitted_length])
    obtain ⟨haccept', -⟩ := reInitializeBuffer_of_table (by omega) hmapped hheader.omitted
      (htable.longer hm hle)
    refine ⟨_, haccept', hcut, hle, fun ds' hgets hinside => ⟨?_, fun d hd => ?_⟩⟩
    · have hsame : SameCursor
          ((tb.opened (ofBytes bytes) bytes.length blockLength first).atTable next ds.length)
          ((tb.opened (ofBytes (omitted tb.format bytes)) bytes.length
            (bytes.length % 256 ^ tb.format.ptrSize) first).atTable next ds.length) :=
        ⟨rfl, hm, hle, hblock, rfl, htable.fits.1, rfl, htable.next_lt, rfl, rfl⟩
      exact hsame.gets hgets
    · exact (hm.readBytes (hinside d hd).1 _).symm

theorem omissionKeeps_iff_linkedEmptyTable :
    ∃ tb0, reInitializeBuffer 64 (initialBlock 16 4 4 0 false) (ofBytes linkedEmptyTable)
        linkedEmptyTable.length .rx = .ok (.success, tb0) ∧
      (OmissionKeeps linkedEmptyTable (initialBlock 16 4 4 0 false) tb0 ↔
        NtbFormat.ntb16 = .ntb32 ∨ linkedEmptyTable.length ≠ 0x10000) :=
  ⟨_, rfl, omissionKeeps_iff linkedEmptyTable (by decide) (initialBlock 16 4 4 0 false) _
    ⟨44, by decide, rfl⟩ rfl⟩

/-- The same NTB in a buffer of 0x10000 bytes. -/
def paddedTable : List UInt8 := linkedEmptyTable ++ List.replicate 65492 0

/-- It is accepted with its block length, and refused without. -/
theorem paddedTable_refused :
    paddedTable.length = 0x10000 ∧ GivesBlockLength .ntb16 paddedTable ∧
      (∃ tb0, reInitializeBuffer 64 (initialBlock 16 4 4 0 false) (ofBytes paddedTable)
        0x10000 .rx = .ok (.success, tb0)) ∧
      ∀ tb0, ¬ OmissionKeeps paddedTable (initialBlock 16 4 4 0 false) tb0 := by
  have hlen : paddedTable.length = 0x10000 := by
    rw [paddedTable, List.length_append, List.length_replicate]
    rfl
  refine ⟨hlen, ⟨44, by decide, rfl⟩, ⟨_, rfl⟩, ?_⟩
  rintro tb0 ⟨tb0', h, -⟩
  exact refused_of_ntb16 rfl hlen h

end NcmTransferBlock

end UsbNcm.Ntb
