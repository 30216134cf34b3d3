import UsbNcm.Ntb.ParserTrace

/-!
# Where the parser reads

The fields of the headers lie in the bytes they have to lie in. The entries do as well, unless the
length of an NDP ends in the middle of one that the scan gets to.
-/

open Exec ByteMemory

namespace UsbNcm.Ntb

open ParserEvent Traced

/-- The header of an NDP that passes the checks in front of the one on its link. -/
structure NdpHeader (fmt : NtbFormat) (m : Memory) (blockLength ndp length next : Nat) : Prop where
  fits : TableFits fmt blockLength ndp
  signature : readLe m ndp 4 = .ok fmt.ndpSignature
  length_field : readLe m (ndp + NtbFormat.ndpLengthAt) 2 = .ok length
  min_le : fmt.minDptSize ≤ length
  length_mod : length % 4 = 0
  length_le : ndp + length ≤ blockLength
  link : readLe m (ndp + fmt.ndpNextNdpIndexAt) fmt.ptrSize = .ok next

/-- Whole entries from `a` on, none of them null or refused, and behind them a part of one. -/
inductive PartialEntry (fmt : NtbFormat) (m : Memory) (blockLength stop : Nat) : Nat → Prop
  | here {a : Nat} : a < stop → stop < a + fmt.sizeofDpe → PartialEntry fmt m blockLength stop a
  | behind {a : Nat} {d : DatagramPointer} : EntryAt fmt m a d → d.InBlock fmt blockLength →
    PartialEntry fmt m blockLength stop (a + fmt.sizeofDpe) → PartialEntry fmt m blockLength stop a

/-- The scan of the NDP at `ndp` gets to an entry that its length cuts. -/
def Overhangs (fmt : NtbFormat) (m : Memory) (blockLength ndp : Nat) : Prop :=
  ∃ length next, NdpHeader fmt m blockLength ndp length next ∧
    (next = 0 ∨ TableFits fmt blockLength next) ∧
    PartialEntry fmt m blockLength (ndp + length) (ndp + fmt.sizeofNdp)

variable {fmt : NtbFormat} {m : Memory} {blockLength ndp stop a length next : Nat}

theorem PartialEntry.lt (h : PartialEntry fmt m blockLength stop a) : a < stop := by
  induction h with
  | here hlt => exact hlt
  | behind _ _ _ ih => omega

/-- Only an NDP32 has lengths that cut an entry. -/
theorem PartialEntry.ntb32 {offset : Nat}
    (h : PartialEntry fmt m blockLength (ndp + length) (ndp + offset)) (hlength : length % 4 = 0)
    (hoffset : offset % fmt.sizeofDpe = 0) : fmt = .ntb32 ∧ length % 8 = 4 := by
  generalize ha : ndp + offset = a at h
  induction h generalizing offset with
  | here hlt hstop =>
    cases fmt
    · change offset % 4 = 0 at hoffset
      change _ < _ + 4 at hstop
      omega
    · change offset % 8 = 0 at hoffset
      change _ < _ + 8 at hstop
      exact ⟨rfl, by omega⟩
  | behind _ _ _ ih => exact ih (by rwa [Nat.add_mod_right]) (by omega)

theorem Overhangs.ntb32 (h : Overhangs fmt m blockLength ndp) :
    fmt = .ntb32 ∧ ∃ length next, NdpHeader fmt m blockLength ndp length next ∧ length % 8 = 4 := by
  obtain ⟨length, next, hheader, -, hpartial⟩ := h
  have hndp : fmt.sizeofNdp % fmt.sizeofDpe = 0 := by cases fmt <;> rfl
  obtain ⟨hfmt, hmod⟩ := hpartial.ntb32 hheader.length_mod hndp
  exact ⟨hfmt, length, next, hheader, hmod⟩

/-! ## The reads of one call -/

theorem all_inside_scanTable {w fuel offset count : Nat} (hle : ndp + length ≤ blockLength)
    (hfuel : length ≤ offset + fuel) :
    All Inside (tracedScanTable w fmt m blockLength ndp length fuel offset count) ↔
      ¬ PartialEntry fmt m blockLength (ndp + length) (ndp + offset) := by
  have hs := fmt.sizes
  have hno : ∀ {offset}, ¬ offset < length →
      ¬ PartialEntry fmt m blockLength (ndp + length) (ndp + offset) := by
    intro offset hge h
    have := h.lt
    omega
  induction fuel generalizing offset count with
  | zero => simp [tracedScanTable, hno (show ¬ offset < length by omega)]
  | succ fuel ih =>
    unfold tracedScanTable
    by_cases hlt : offset < length
    · rw [if_pos hlt]
      simp only [all_emit_bind, all_quiet_bind, all_ite, all_pure, all_compareSum_bind, Inside,
        implies_true, true_and]
      constructor
      · rintro ⟨hend, -, hrest⟩ hpartial
        cases hpartial with
        | here _ hstop => omega
        | behind hentry hin hbehind =>
          rw [Nat.add_assoc] at hbehind
          obtain ⟨hge, hpos, hblock⟩ := hin
          have hscan := hrest _ hentry.1 (by omega) _ hentry.2 (by omega) (by omega)
          exact (ih (by omega)).mp hscan hbehind
      · intro hwhole
        have hend : offset + fmt.sizeofDpe ≤ length := by
          by_contra hcut
          exact hwhole (.here (by omega) (by omega))
        refine ⟨by omega, by omega, ?_⟩
        intro datagramIndex hindex hne datagramLength hlength hne' hok
        apply (ih (by omega)).mpr
        intro hbehind
        have hin : DatagramPointer.InBlock fmt blockLength ⟨datagramIndex, datagramLength⟩ := by
          refine ⟨?_, ?_, ?_⟩ <;> dsimp only <;> omega
        rw [← Nat.add_assoc] at hbehind
        exact hwhole (.behind ⟨hindex, hlength⟩ hin hbehind)
    · rw [if_neg hlt]
      simp [hno hlt, Inside]

/-- The reads of the NDP at `ndp`: its header always lies in the block. -/
theorem all_inside_validateNdp (hblock : blockLength < 2 ^ 31) (hndp : ndp < 2 ^ 32) :
    All Inside (tracedValidateNdp 64 fmt m blockLength ndp) ↔ ¬ Overhangs fmt m blockLength ndp := by
  have hs := fmt.sizes
  have hblock' : blockLength < 2 ^ 32 := by omega
  unfold tracedValidateNdp
  simp only [all_compareSum_bind, all_readField_bind, all_ite, all_pure, Inside, implies_true,
    true_and, tableFits_iff hblock' hndp]
  constructor
  · rintro hreads ⟨length, next, hheader, hlinkFits, hpartial⟩
    obtain ⟨hfits, hsignature, hfield, hmin, hmod, hle, hlink⟩ := hheader
    obtain ⟨-, hreads⟩ := hreads hfits
    obtain ⟨-, hreads⟩ := hreads _ hsignature (not_not.mpr rfl)
    obtain ⟨-, hreads⟩ := hreads _ hfield
      ((lengthFits_iff hblock hfits (readLe_lt hfield)).mpr ⟨hmin, hmod, hle⟩)
    have hscan := hreads _ hlink ((linkFits_iff hblock' (readLe_ptr_lt hlink)).mpr hlinkFits)
    rw [all_bind_left fun scanned => by cases scanned <;> exact all_pure _] at hscan
    exact (all_inside_scanTable hle (by omega)).mp hscan hpartial
  · intro hno hfits
    have hend := hfits.2
    unfold NtbFormat.minDptSize at hend
    refine ⟨by omega, fun signature hsignature hok => ?_⟩
    refine ⟨by unfold NtbFormat.ndpLengthAt; omega, fun length hfield hlength => ?_⟩
    refine ⟨by omega, fun next hlink hnext => ?_⟩
    obtain ⟨hmin, hmod, hle⟩ := (lengthFits_iff hblock hfits (readLe_lt hfield)).mp hlength
    rw [all_bind_left fun scanned => by cases scanned <;> exact all_pure _]
    apply (all_inside_scanTable hle (by omega)).mpr
    intro hpartial
    refine hno ⟨length, next, ⟨hfits, ?_, hfield, hmin, hmod, hle, hlink⟩, ?_, hpartial⟩
    · rw [hsignature, not_not.mp hok]
    · exact (linkFits_iff hblock' (readLe_ptr_lt hlink)).mp hnext

theorem all_inside_validateNth {bufferLength : Nat} :
    All Inside (tracedValidateNth fmt m bufferLength) := by
  have hs := fmt.sizes
  unfold tracedValidateNth
  simp only [all_readField_bind, all_ite, all_pure, Inside, implies_true, true_and, and_true]
  intro hfits
  refine ⟨by omega, fun signature _ _ => ⟨?_, fun headerLength _ _ => ⟨?_, fun stored _ _ => ?_⟩⟩⟩
  · unfold NtbFormat.nthHeaderLengthAt; omega
  · unfold NtbFormat.nthBlockLengthAt; omega
  · omega

namespace NcmTransferBlock

/-- A block that has been given these bytes to parse, after any calls, successful or not. -/
inductive Parsing (w : Nat) (bytes : List UInt8) : NcmTransferBlock → Prop
  | opened {tb tb' : NcmTransferBlock} {status : NtStatus} :
    reInitializeBuffer w tb (ofBytes bytes) bytes.length .rx = .ok (status, tb') →
      Parsing w bytes tb'
  | ndp {tb tb' : NcmTransferBlock} {status : NtStatus} :
    Parsing w bytes tb → getNextNdp w tb = .ok (status, tb') → Parsing w bytes tb'
  | datagram {tb tb' : NcmTransferBlock} {status : NtStatus} {d : DatagramPointer} :
    Parsing w bytes tb → getNextDatagram w tb = .ok (status, d, tb') → Parsing w bytes tb'

variable {tb tb' : NcmTransferBlock} {bytes : List UInt8} {w : Nat} {status : NtStatus}

/-- What stays true of such a block. -/
structure Received (bytes : List UInt8) (tb : NcmTransferBlock) : Prop where
  buffer_eq : tb.buffer = ofBytes bytes
  blockLength_le : tb.blockLength ≤ bytes.length
  nextNdpIndex_lt : tb.nextNdpIndex < 256 ^ tb.format.ptrSize

theorem Received.getNextNdp (h : tb.Received bytes) (hcall : getNextNdp w tb = .ok (status, tb')) :
    tb'.Received bytes := by
  unfold NcmTransferBlock.getNextNdp at hcall
  split at hcall
  · cases hcall
    exact h
  · obtain ⟨result, hvalidate, hcall⟩ := bind_eq_ok.mp hcall
    cases result with
    | none =>
      cases hcall
      exact ⟨h.buffer_eq, h.blockLength_le, h.nextNdpIndex_lt⟩
    | some result =>
      cases hcall
      obtain ⟨-, -, hlink, -⟩ := scan_of_validateNdp hvalidate
      exact ⟨h.buffer_eq, h.blockLength_le, readLe_lt hlink⟩

theorem Received.getNextDatagram {d : DatagramPointer} (h : tb.Received bytes)
    (hcall : getNextDatagram w tb = .ok (status, d, tb')) : tb'.Received bytes := by
  unfold NcmTransferBlock.getNextDatagram at hcall
  split at hcall
  · obtain ⟨⟨status1, tb1⟩, hnext, hcall⟩ := bind_eq_ok.mp hcall
    have h1 := h.getNextNdp hnext
    dsimp only at hcall
    split at hcall
    · cases hcall
      exact h1
    · obtain ⟨datagram, -, hcall⟩ := bind_eq_ok.mp hcall
      cases hcall
      exact ⟨h1.buffer_eq, h1.blockLength_le, h1.nextNdpIndex_lt⟩
  · simp only [pure, Except.pure, ok_bind, ne_eq, not_true_eq_false, if_false] at hcall
    obtain ⟨datagram, -, hcall⟩ := bind_eq_ok.mp hcall
    cases hcall
    exact ⟨h.buffer_eq, h.blockLength_le, h.nextNdpIndex_lt⟩

/-- The block that `prepareToParse` goes on with behind the header. -/
def headed (tb : NcmTransferBlock) (m : Memory) (bufferLength blockLength first : Nat) :
    NcmTransferBlock :=
  { tb with
    buffer := m
    bufferLength := bufferLength
    blockLength := blockLength
    nextNdpIndex := first }

theorem received_headed {blockLength first : Nat}
    (hheader : NthHeader tb.format (ofBytes bytes) bytes.length blockLength first) :
    (tb.headed (ofBytes bytes) bytes.length blockLength first).Received bytes :=
  ⟨rfl, hheader.block_le, readLe_lt hheader.ndpIndex⟩

theorem received_of_reInitializeBuffer
    (h : reInitializeBuffer w tb (ofBytes bytes) bytes.length .rx = .ok (status, tb')) :
    tb'.Received bytes := by
  unfold reInitializeBuffer prepareToParse at h
  obtain ⟨result, hvalidate, h⟩ := bind_eq_ok.mp h
  cases result with
  | none =>
    cases h
    exact ⟨rfl, Nat.zero_le _, Nat.pow_pos (by decide)⟩
  | some result =>
    exact (@received_headed tb.clearBlock _ _ _ (validateNth_iff.mp hvalidate)).getNextNdp h

theorem Parsing.received (h : Parsing w bytes tb) : tb.Received bytes := by
  induction h with
  | opened hopen => exact received_of_reInitializeBuffer hopen
  | ndp _ hcall ih => exact ih.getNextNdp hcall
  | datagram _ hcall ih => exact ih.getNextDatagram hcall

theorem Received.next_lt (h : tb.Received bytes) : tb.nextNdpIndex < 2 ^ 32 :=
  tb.format.lt_of_ptrSize h.nextNdpIndex_lt

/-! ## Every call -/

theorem all_getNextNdp {P : ParserEvent → Prop} :
    All P (tb.tracedGetNextNdp w) ↔ (tb.nextNdpIndex ≠ 0 →
      All P (tracedValidateNdp w tb.format tb.buffer tb.blockLength tb.nextNdpIndex)) := by
  unfold tracedGetNextNdp
  rw [all_ite]
  simp only [all_pure, implies_true, true_and]
  refine imp_congr_right fun _ => all_bind_left ?_
  rintro (_ | result) <;> exact all_pure _

theorem all_prepareToParse {P : ParserEvent → Prop} {bufferLength : Nat} :
    All P (tb.tracedPrepareToParse w m bufferLength) ↔
      All P (tracedValidateNth tb.format m bufferLength) ∧
        ∀ blockLength first, NthHeader tb.format m bufferLength blockLength first →
          All P ((tb.headed m bufferLength blockLength first).tracedGetNextNdp w) := by
  unfold tracedPrepareToParse
  rw [all_bind, tracedValidateNth_result]
  apply and_congr_right
  intro _
  constructor
  · intro hall blockLength first hheader
    exact hall _ (validateNth_iff.mpr hheader)
  · rintro hall (_ | ⟨blockLength, first⟩) hvalidate
    · exact all_pure _
    · exact hall _ _ (validateNth_iff.mp hvalidate)

theorem not_overhangs_zero : ¬ Overhangs fmt m blockLength 0 := by
  rintro ⟨length, next, hheader, -⟩
  have hge := hheader.fits.1
  have hs := fmt.sizes
  omega

theorem Received.all_inside_getNextNdp (h : tb.Received bytes) (hlen : bytes.length < 2 ^ 31) :
    All Inside (tb.tracedGetNextNdp 64) ↔
      ¬ Overhangs tb.format tb.buffer tb.blockLength tb.nextNdpIndex := by
  have hle := h.blockLength_le
  rw [all_getNextNdp, all_inside_validateNdp (by omega) h.next_lt]
  constructor
  · intro himp hover
    refine himp ?_ hover
    intro hz
    rw [hz] at hover
    exact not_overhangs_zero hover
  · intro hno _
    exact hno

theorem all_inside_prepareToParse (hlen : bytes.length < 2 ^ 31) :
    All Inside (tb.tracedPrepareToParse 64 (ofBytes bytes) bytes.length) ↔
      ∀ blockLength first, NthHeader tb.format (ofBytes bytes) bytes.length blockLength first →
        ¬ Overhangs tb.format (ofBytes bytes) blockLength first := by
  rw [all_prepareToParse, and_iff_right all_inside_validateNth]
  exact forall_congr' fun blockLength => forall_congr' fun first => imp_congr_right fun hheader =>
    (received_headed hheader).all_inside_getNextNdp hlen

/-- The reads of a call lie inside the block, and inside the NDP, exactly when its scan does not get
to an entry that the length of the NDP cuts. -/
theorem parser_reads_inside_iff (bytes : List UInt8) (hlen : bytes.length < 2 ^ 31)
    (tb : NcmTransferBlock) :
    (All Inside (tb.tracedPrepareToParse 64 (ofBytes bytes) bytes.length) ↔
      ∀ blockLength first, NthHeader tb.format (ofBytes bytes) bytes.length blockLength first →
        ¬ Overhangs tb.format (ofBytes bytes) blockLength first) ∧
    (tb.Parsing 64 bytes → (All Inside (tb.tracedGetNextNdp 64) ↔
      ¬ Overhangs tb.format tb.buffer tb.blockLength tb.nextNdpIndex)) :=
  ⟨all_inside_prepareToParse hlen, fun h => h.received.all_inside_getNextNdp hlen⟩

theorem parser_reads_inside_iff_linkedEmptyTable :
    ∃ tb : NcmTransferBlock, tb.Parsing 64 linkedEmptyTable ∧
      (All Inside (tb.tracedGetNextNdp 64) ↔
        ¬ Overhangs tb.format tb.buffer tb.blockLength tb.nextNdpIndex) := by
  have hparsing : Parsing 64 linkedEmptyTable _ :=
    @Parsing.opened _ _ (initialBlock 16 4 4 0 false) _ _ rfl
  exact ⟨_, hparsing, (parser_reads_inside_iff linkedEmptyTable (by decide) _).2 hparsing⟩

/-- An NDP32 at the end of its block: after two entries its length leaves four bytes for a third. -/
def cutEntry : List UInt8 :=
  [0x6E, 0x63, 0x6D, 0x68, 16, 0, 0, 0, 52, 0, 0, 0, 16, 0, 0, 0,
    0x6E, 0x63, 0x6D, 0x30, 36, 0, 0, 0, 0, 0, 0, 0, 0, 0, 0, 0,
    16, 0, 0, 0, 4, 0, 0, 0, 16, 0, 0, 0, 4, 0, 0, 0, 16, 0, 0, 0]

/-- The length of the third entry is read behind the end of the buffer. -/
theorem cutEntry_read_outside :
    cutEntry.length = 52 ∧
      prepareToParse 64 (initialBlock 16 4 4 0 true) (ofBytes cutEntry) 52 = .error .access ∧
      ParserEvent.read 48 8 52 ∈
        (tracedPrepareToParse 64 (initialBlock 16 4 4 0 true) (ofBytes cutEntry) 52).events ∧
      ¬ All Inside (tracedPrepareToParse 64 (initialBlock 16 4 4 0 true) (ofBytes cutEntry) 52) := by
  have hread : ParserEvent.read 48 8 52 ∈
      (tracedPrepareToParse 64 (initialBlock 16 4 4 0 true) (ofBytes cutEntry) 52).events := by
    decide
  refine ⟨rfl, rfl, hread, fun hall => ?_⟩
  have := hall _ hread
  unfold Inside at this
  omega

end NcmTransferBlock

end UsbNcm.Ntb
