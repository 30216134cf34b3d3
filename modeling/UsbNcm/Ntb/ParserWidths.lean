import UsbNcm.Ntb.ParserReads

/-!
# The parser with a 32-bit `size_t`

Where the comparisons of the 32-bit build come out as they do over the integers. The one on the sum
of an NDP index and the size of the smallest table does not, close to the end of the 32-bit range.
-/

open Exec ByteMemory

namespace UsbNcm.Ntb

open ParserEvent Traced

/-- In 32 bits the end of the smallest table at `ndp` goes round, to somewhere in the block. -/
def Wraps (fmt : NtbFormat) (blockLength ndp : Nat) : Prop :=
  2 ^ 32 ≤ ndp + fmt.minDptSize ∧ ndp + fmt.minDptSize ≤ blockLength + 2 ^ 32

/-- The parser gets to a link that does. -/
def LinkWraps (fmt : NtbFormat) (m : Memory) (blockLength ndp : Nat) : Prop :=
  ∃ length next, NdpHeader fmt m blockLength ndp length next ∧ Wraps fmt blockLength next

variable {fmt : NtbFormat} {m : Memory} {blockLength ndp length next : Nat}

/-- Only an NTB32 has indices that large. -/
theorem Wraps.ntb32 (h : Wraps fmt blockLength ndp) (hndp : ndp < 256 ^ fmt.ptrSize) :
    fmt = .ntb32 := by
  cases fmt with
  | ntb16 =>
    change ndp < 256 ^ 2 at hndp
    have hge : 2 ^ 32 ≤ ndp + 16 := h.1
    omega
  | ntb32 => rfl

/-! ## The comparisons -/

theorem exact_tableSum_iff (hblock : blockLength < 2 ^ 31) (hndp : ndp < 2 ^ 32) :
    (¬ ndp < fmt.sizeofNth →
      Exact (.compared (decide (sizeT 32 (ndp + fmt.minDptSize) > blockLength))
        (decide (ndp + fmt.minDptSize > blockLength)))) ↔ ¬ Wraps fmt blockLength ndp := by
  have hs := fmt.sizes
  unfold Wraps sizeT NtbFormat.minDptSize
  simp only [Exact, decide_eq_decide]
  omega

theorem exact_linkSum_iff (hblock : blockLength < 2 ^ 31) (hnext : next < 2 ^ 32) :
    (next ≠ 0 ∧ ¬ next < fmt.sizeofNth →
      Exact (.compared (decide (sizeT 32 (next + fmt.minDptSize) > blockLength))
        (decide (next + fmt.minDptSize > blockLength)))) ↔ ¬ Wraps fmt blockLength next := by
  have hs := fmt.sizes
  rw [show (next ≠ 0 ∧ ¬ next < fmt.sizeofNth) ↔ ¬ next < fmt.sizeofNth by omega]
  exact exact_tableSum_iff hblock hnext

/-- The sum with the length is in 32 bits in both builds, and does not get that far. -/
theorem exact_lengthSum (hfits : TableFits fmt blockLength ndp) (hblock : blockLength < 2 ^ 31)
    (hlength : length < 2 ^ 16) :
    Exact (.compared (decide (sizeT 32 (ndp + length) > blockLength))
      (decide (ndp + length > blockLength))) := by
  have hend := hfits.2
  have hsum : sizeT 32 (ndp + length) = ndp + length := Nat.mod_eq_of_lt (by omega)
  rw [hsum]
  rfl

theorem tableFits_32_iff (hblock : blockLength < 2 ^ 31) (hndp : ndp < 2 ^ 32)
    (hwraps : ¬ Wraps fmt blockLength ndp) :
    ¬ (ndp < fmt.sizeofNth ∨ sizeT 32 (ndp + fmt.minDptSize) > blockLength) ↔
      TableFits fmt blockLength ndp := by
  have hs := fmt.sizes
  unfold Wraps NtbFormat.minDptSize at hwraps
  unfold TableFits sizeT NtbFormat.minDptSize
  omega

theorem all_exact_scanTable {fuel offset count : Nat} (hlength : length < 2 ^ 16)
    (hoffset : offset < 2 ^ 17) :
    All Exact (tracedScanTable 32 fmt m blockLength ndp length fuel offset count) := by
  induction fuel generalizing offset count with
  | zero => exact all_pure _
  | succ fuel ih =>
    have hs := fmt.sizes
    have hsize : sizeT 32 offset = offset := Nat.mod_eq_of_lt (by omega)
    unfold tracedScanTable
    simp only [all_emit_bind, hsize, Exact, true_and]
    rw [all_ite]
    refine ⟨fun hlt => ?_, fun _ => all_pure _⟩
    simp only [all_emit_bind, all_quiet_bind, all_ite, all_pure, all_compareSum_bind, Exact,
      implies_true, true_and]
    intro datagramIndex hindex _ datagramLength hdatagramLength _
    have hindexLt := readLe_ptr_lt hindex
    have hlengthLt := readLe_ptr_lt hdatagramLength
    have hsum : sizeT 64 (datagramIndex + datagramLength) = datagramIndex + datagramLength :=
      Nat.mod_eq_of_lt (by omega)
    exact ⟨fun _ => by rw [hsum], fun _ => ih (by omega)⟩

theorem all_exact_validateNdp_iff (hblock : blockLength < 2 ^ 31) (hndp : ndp < 2 ^ 32) :
    All Exact (tracedValidateNdp 32 fmt m blockLength ndp) ↔
      ¬ Wraps fmt blockLength ndp ∧ ¬ LinkWraps fmt m blockLength ndp := by
  have hs := fmt.sizes
  have hread : ∀ address size limit, Exact (.read address size limit) := fun _ _ _ => trivial
  unfold tracedValidateNdp
  simp only [all_compareSum_bind, all_readField_bind, all_ite, all_pure, hread, implies_true,
    true_and, exact_tableSum_iff hblock hndp]
  apply and_congr_right
  intro hwraps
  rw [tableFits_32_iff hblock hndp hwraps]
  constructor
  · rintro hall ⟨length, next, hheader, hlinkWraps⟩
    obtain ⟨hfits, hsignature, hfield, hmin, hmod, hle, hlink⟩ := hheader
    obtain ⟨-, hall⟩ := hall hfits _ hsignature (not_not.mpr rfl) _ hfield
    obtain ⟨hexact, -⟩ := hall
      ((lengthFits_iff hblock hfits (readLe_lt hfield)).mpr ⟨hmin, hmod, hle⟩) _ hlink
    exact (exact_linkSum_iff hblock (readLe_ptr_lt hlink)).mp hexact hlinkWraps
  · intro hno hfits signature hsignature hok length hfield
    refine ⟨fun _ => exact_lengthSum hfits hblock (readLe_lt hfield), ?_⟩
    intro hlength next hlink
    obtain ⟨hmin, hmod, hle⟩ := (lengthFits_iff hblock hfits (readLe_lt hfield)).mp hlength
    have hlinkWraps : ¬ Wraps fmt blockLength next := by
      refine fun hwraps => hno ⟨length, next, ⟨hfits, ?_, hfield, hmin, hmod, hle, hlink⟩, hwraps⟩
      rw [hsignature, not_not.mp hok]
    refine ⟨(exact_linkSum_iff hblock (readLe_ptr_lt hlink)).mpr hlinkWraps, fun _ => ?_⟩
    refine (all_bind_left ?_).mpr (all_exact_scanTable (readLe_lt hfield) (by omega))
    rintro (_ | count) <;> exact all_pure _

/-- Where no sum goes round, the two builds do the same. -/
theorem validateNdp_widths (hblock : blockLength < 2 ^ 31) (hndp : ndp < 2 ^ 32)
    (hwraps : ¬ Wraps fmt blockLength ndp) (hlink : ¬ LinkWraps fmt m blockLength ndp) :
    validateNdp 32 fmt m blockLength ndp = validateNdp 64 fmt m blockLength ndp := by
  have hblock' : blockLength < 2 ^ 32 := by omega
  have hfitsIff := (tableFits_32_iff hblock hndp hwraps).trans (tableFits_iff hblock' hndp).symm
  unfold validateNdp
  rw [if_congr (not_iff_not.mp hfitsIff) rfl rfl]
  split
  · rfl
  next hfits =>
  have hfits := (tableFits_iff hblock' hndp).mp hfits
  refine bind_congr_ok fun signature hsignature => ?_
  split
  · rfl
  next hok =>
  refine bind_congr_ok fun length hfield => ?_
  split
  · rfl
  next hlength =>
  obtain ⟨hmin, hmod, hle⟩ := (lengthFits_iff hblock hfits (readLe_lt hfield)).mp hlength
  refine bind_congr_ok fun next hnext => ?_
  have hlinkWraps : ¬ Wraps fmt blockLength next := by
    refine fun hwraps => hlink ⟨length, next, ⟨hfits, ?_, hfield, hmin, hmod, hle, hnext⟩, hwraps⟩
    rw [hsignature, not_not.mp hok]
  have hlinkIff := (tableFits_32_iff hblock (readLe_ptr_lt hnext) hlinkWraps).trans
    (tableFits_iff hblock' (readLe_ptr_lt hnext)).symm
  rw [if_congr (and_congr_right fun _ => not_iff_not.mp hlinkIff) rfl rfl]

theorem not_wraps_zero :
    ¬ Wraps fmt blockLength 0 ∧ ¬ LinkWraps fmt m blockLength 0 := by
  have hs := fmt.sizes
  constructor
  · unfold Wraps NtbFormat.minDptSize
    omega
  · rintro ⟨length, next, hheader, -⟩
    have hge := hheader.fits.1
    omega

namespace NcmTransferBlock

variable {tb : NcmTransferBlock} {bytes : List UInt8}

/-- With 32 bits the comparisons come out as over the integers, and the call succeeds when the one
with 64 bits does. -/
def WidthIndependent (call : Nat → Traced ParserEvent (NtStatus × NcmTransferBlock)) : Prop :=
  All Exact (call 32) ∧ ((∃ tb', (call 32).result = .ok (.success, tb')) ↔
    ∃ tb', (call 64).result = .ok (.success, tb'))

theorem getNextNdp_widths (hblock : tb.blockLength < 2 ^ 31) (hndp : tb.nextNdpIndex < 2 ^ 32)
    (hwraps : ¬ Wraps tb.format tb.blockLength tb.nextNdpIndex)
    (hlink : ¬ LinkWraps tb.format tb.buffer tb.blockLength tb.nextNdpIndex) :
    getNextNdp 32 tb = getNextNdp 64 tb := by
  unfold getNextNdp
  simp only [validateNdp_widths hblock hndp hwraps hlink]

theorem Received.all_exact_getNextNdp_iff (h : tb.Received bytes) (hlen : bytes.length < 2 ^ 31) :
    All Exact (tb.tracedGetNextNdp 32) ↔ ¬ Wraps tb.format tb.blockLength tb.nextNdpIndex ∧
      ¬ LinkWraps tb.format tb.buffer tb.blockLength tb.nextNdpIndex := by
  have hle := h.blockLength_le
  rw [all_getNextNdp, all_exact_validateNdp_iff (by omega) h.next_lt]
  constructor
  · intro himp
    by_cases hz : tb.nextNdpIndex = 0
    · rw [hz]
      exact not_wraps_zero
    · exact himp hz
  · intro hno _
    exact hno

theorem Received.widthIndependent_iff (h : tb.Received bytes) (hlen : bytes.length < 2 ^ 31) :
    WidthIndependent tb.tracedGetNextNdp ↔ ¬ Wraps tb.format tb.blockLength tb.nextNdpIndex ∧
      ¬ LinkWraps tb.format tb.buffer tb.blockLength tb.nextNdpIndex := by
  have hle := h.blockLength_le
  unfold WidthIndependent
  rw [h.all_exact_getNextNdp_iff hlen]
  refine and_iff_left_of_imp ?_
  rintro ⟨hwraps, hlink⟩
  rw [tracedGetNextNdp_result, tracedGetNextNdp_result,
    getNextNdp_widths (by omega) h.next_lt hwraps hlink]

theorem all_exact_validateNth {bufferLength : Nat} :
    All Exact (tracedValidateNth fmt m bufferLength) := by
  have hread : ∀ address size limit, Exact (.read address size limit) := fun _ _ _ => trivial
  unfold tracedValidateNth
  simp only [all_readField_bind, all_ite, all_pure, hread, implies_true, and_self]

theorem prepareToParse_of_header {w bufferLength first : Nat}
    (h : NthHeader tb.format m bufferLength blockLength first) :
    prepareToParse w tb m bufferLength =
      getNextNdp w (tb.headed m bufferLength blockLength first) := by
  unfold prepareToParse
  simp only [validateNth_iff.mpr h, ok_bind]
  rfl

theorem header_of_prepareToParse {w bufferLength : Nat} {tb' : NcmTransferBlock}
    (h : prepareToParse w tb m bufferLength = .ok (.success, tb')) :
    ∃ blockLength first, NthHeader tb.format m bufferLength blockLength first := by
  unfold prepareToParse at h
  obtain ⟨result, hvalidate, h⟩ := bind_eq_ok.mp h
  cases result with
  | none => cases h
  | some result => exact ⟨_, _, validateNth_iff.mp hvalidate⟩

theorem widthIndependent_prepareToParse_iff (hlen : bytes.length < 2 ^ 31) :
    WidthIndependent (fun w => tb.tracedPrepareToParse w (ofBytes bytes) bytes.length) ↔
      ∀ blockLength first, NthHeader tb.format (ofBytes bytes) bytes.length blockLength first →
        ¬ Wraps tb.format blockLength first ∧
          ¬ LinkWraps tb.format (ofBytes bytes) blockLength first := by
  constructor
  · rintro ⟨hall, -⟩ blockLength first hheader
    have hcall := (all_prepareToParse.mp hall).2 _ _ hheader
    exact ((received_headed hheader).all_exact_getNextNdp_iff hlen).mp hcall
  · intro hno
    refine ⟨all_prepareToParse.mpr ⟨all_exact_validateNth, fun blockLength first hheader => ?_⟩, ?_⟩
    · exact ((received_headed hheader).all_exact_getNextNdp_iff hlen).mpr (hno _ _ hheader)
    · simp only [tracedPrepareToParse_result]
      by_cases hheader : ∃ blockLength first,
          NthHeader tb.format (ofBytes bytes) bytes.length blockLength first
      · obtain ⟨blockLength, first, hheader⟩ := hheader
        have hreceived : (tb.headed (ofBytes bytes) bytes.length blockLength first).Received bytes :=
          received_headed hheader
        have hle : blockLength ≤ bytes.length := hheader.block_le
        obtain ⟨hwraps, hlink⟩ := hno _ _ hheader
        rw [prepareToParse_of_header hheader, prepareToParse_of_header hheader,
          getNextNdp_widths (Nat.lt_of_le_of_lt hle hlen) hreceived.next_lt hwraps hlink]
      · apply iff_of_false
        · rintro ⟨tb', h⟩
          exact hheader (header_of_prepareToParse h)
        · rintro ⟨tb', h⟩
          exact hheader (header_of_prepareToParse h)

/-- The 32-bit build agrees with the integers, and with the 64-bit build, exactly as long as neither
the index of an NDP nor a link it gets to wraps. -/
theorem parser_widths_iff (bytes : List UInt8) (hlen : bytes.length < 2 ^ 31)
    (tb : NcmTransferBlock) :
    (WidthIndependent (fun w => tb.tracedPrepareToParse w (ofBytes bytes) bytes.length) ↔
      ∀ blockLength first, NthHeader tb.format (ofBytes bytes) bytes.length blockLength first →
        ¬ Wraps tb.format blockLength first ∧
          ¬ LinkWraps tb.format (ofBytes bytes) blockLength first) ∧
    (tb.Parsing 32 bytes → (WidthIndependent tb.tracedGetNextNdp ↔
      ¬ Wraps tb.format tb.blockLength tb.nextNdpIndex ∧
        ¬ LinkWraps tb.format tb.buffer tb.blockLength tb.nextNdpIndex)) :=
  ⟨widthIndependent_prepareToParse_iff hlen, fun h => h.received.widthIndependent_iff hlen⟩

/-- An NDP32 without entries, whose link is 0xFFFFFFF0. -/
def wrappingLink : List UInt8 :=
  [0x6E, 0x63, 0x6D, 0x68, 16, 0, 0, 0, 48, 0, 0, 0, 16, 0, 0, 0,
    0x6E, 0x63, 0x6D, 0x30, 32, 0, 0, 0, 0xF0, 0xFF, 0xFF, 0xFF, 0, 0, 0, 0,
    0, 0, 0, 0, 0, 0, 0, 0, 0, 0, 0, 0, 0, 0, 0, 0]

/-- The 32-bit build has opened the NTB, and goes on to the NDP at 0xFFFFFFF0. -/
theorem parser_widths_iff_wrappingLink :
    ∃ tb : NcmTransferBlock, tb.Parsing 32 wrappingLink ∧ tb.nextNdpIndex = 0xFFFFFFF0 ∧
      (WidthIndependent tb.tracedGetNextNdp ↔ ¬ Wraps tb.format tb.blockLength tb.nextNdpIndex ∧
        ¬ LinkWraps tb.format tb.buffer tb.blockLength tb.nextNdpIndex) := by
  have hparsing : Parsing 32 wrappingLink _ :=
    @Parsing.opened _ _ (initialBlock 16 4 4 0 true) _ _ rfl
  exact ⟨_, hparsing, rfl, (parser_widths_iff wrappingLink (by decide) _).2 hparsing⟩

/-- The 32-bit build accepts the link, the 64-bit build refuses the NTB. -/
theorem wrappingLink_accepted :
    (∃ tb, prepareToParse 32 (initialBlock 16 4 4 0 true) (ofBytes wrappingLink) 48 =
      .ok (.success, tb) ∧ tb.nextNdpIndex = 0xFFFFFFF0) ∧
    (∃ tb, prepareToParse 64 (initialBlock 16 4 4 0 true) (ofBytes wrappingLink) 48 =
      .ok (.badData, tb)) ∧
    ParserEvent.compared false true ∈
      (tracedPrepareToParse 32 (initialBlock 16 4 4 0 true) (ofBytes wrappingLink) 48).events ∧
    ¬ WidthIndependent fun w =>
      tracedPrepareToParse w (initialBlock 16 4 4 0 true) (ofBytes wrappingLink) 48 := by
  have hcompared : ParserEvent.compared false true ∈
      (tracedPrepareToParse 32 (initialBlock 16 4 4 0 true) (ofBytes wrappingLink) 48).events := by
    decide
  refine ⟨⟨_, rfl, rfl⟩, ⟨_, rfl⟩, hcompared, ?_⟩
  rintro ⟨hall, -⟩
  have := hall _ hcompared
  cases this

end NcmTransferBlock

end UsbNcm.Ntb
