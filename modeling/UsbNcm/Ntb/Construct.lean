import UsbNcm.Ntb.TransferBlock

/-!
# The builder (`CopyNextDatagram`, `SetNdp`)

What one accepted datagram does to the block, and from it what a sequence of offers does.
-/

open Exec ByteMemory AlignUp UsbNcm.Ring

namespace UsbNcm.Ntb.NcmTransferBlock

variable {p f : Nat} {tb tb1 : NcmTransferBlock} {pi : NcmPacketIterator p f}
  {pis : List (NcmPacketIterator p f)}

/-! ## One offer -/

/-- The two tests that `copyNextDatagram` makes. -/
def Accepts (tb : NcmTransferBlock) (pi : NcmPacketIterator p f) : Prop :=
  tb.currentNdpDatagramCount < tb.ntbMaxDatagrams.toNat ∧
    tb.totalNtbSizeNeeded (ncmGetPacketDataLength pi) ≤ tb.bufferLength

instance (tb : NcmTransferBlock) (pi : NcmPacketIterator p f) : Decidable (tb.Accepts pi) :=
  inferInstanceAs (Decidable (_ ∧ _))

def accept (tb : NcmTransferBlock) (pi : NcmPacketIterator p f) : NcmTransferBlock :=
  { tb with
    buffer := write tb.buffer tb.datagramOffset (packetData pi)
    datagramPointerTable := tb.datagramPointerTable.set tb.currentNdpDatagramCount
      ⟨tb.datagramOffset % 256 ^ tb.format.ptrSize,
        ncmGetPacketDataLength pi % 256 ^ tb.format.ptrSize⟩
    currentNdpDatagramCount := tb.currentNdpDatagramCount + 1
    currentBufferOffset := (tb.datagramOffset + ncmGetPacketDataLength pi) % 2 ^ 64 }

theorem datagramOffset_lt (tb : NcmTransferBlock) : tb.datagramOffset < 2 ^ 64 :=
  Nat.mod_lt _ (by decide)

theorem copyNextDatagram_of_accepts (h : tb.Accepts pi) :
    copyNextDatagram tb pi = (.success, tb.accept pi) := by
  obtain ⟨hcount, hsize⟩ := h
  unfold copyNextDatagram
  rw [if_neg (by omega)]
  dsimp only
  rw [if_neg (by omega), ncmCopyPacketDataToBuffer_eq _ _ _ tb.datagramOffset_lt]
  rfl

theorem copyNextDatagram_of_not_accepts (h : ¬ tb.Accepts pi) :
    copyNextDatagram tb pi = (.bufferTooSmall, tb) := by
  unfold Accepts at h
  unfold copyNextDatagram
  split
  · rfl
  · dsimp only
    rw [if_pos (by omega)]

/-! ## A sequence of offers -/

def offers (tb : NcmTransferBlock) (pis : List (NcmPacketIterator p f)) : NcmTransferBlock :=
  pis.foldl (fun tb pi => (copyNextDatagram tb pi).2) tb

/-- The packets that were accepted, each with the block that it was offered to. -/
def trace (tb : NcmTransferBlock) :
    List (NcmPacketIterator p f) → List (NcmTransferBlock × NcmPacketIterator p f)
  | [] => []
  | pi :: rest =>
    match copyNextDatagram tb pi with
    | (.success, tb') => (tb, pi) :: tb'.trace rest
    | (_, tb') => tb'.trace rest

theorem offers_of_accepts (h : tb.Accepts pi) (pis : List (NcmPacketIterator p f)) :
    tb.offers (pi :: pis) = (tb.accept pi).offers pis := by
  rw [offers, List.foldl_cons, copyNextDatagram_of_accepts h]
  rfl

theorem trace_of_accepts (h : tb.Accepts pi) (pis : List (NcmPacketIterator p f)) :
    tb.trace (pi :: pis) = (tb, pi) :: (tb.accept pi).trace pis := by
  rw [trace, copyNextDatagram_of_accepts h]

/-- What every accepted packet preserves holds after any offers. -/
theorem offers_rule (I : NcmTransferBlock → List (NcmTransferBlock × NcmPacketIterator p f) → Prop)
    (hstep : ∀ tb acc pi, I tb acc → tb.Accepts pi → I (tb.accept pi) (acc ++ [(tb, pi)]))
    (acc : List (NcmTransferBlock × NcmPacketIterator p f)) (h : I tb acc)
    (pis : List (NcmPacketIterator p f)) : I (tb.offers pis) (acc ++ tb.trace pis) := by
  induction pis generalizing tb acc with
  | nil => simpa [offers, trace] using h
  | cons pi rest ih =>
    by_cases ha : tb.Accepts pi
    · have hnext := ih _ (hstep tb acc pi h ha)
      simpa [offers, trace, copyNextDatagram_of_accepts ha] using hnext
    · have hnext := ih _ h
      simpa [offers, trace, copyNextDatagram_of_not_accepts ha] using hnext

/-- The rule for an invariant of the block alone. -/
theorem offers_invariant (J : NcmTransferBlock → Prop)
    (hstep : ∀ tb (pi : NcmPacketIterator p f), J tb → tb.Accepts pi → J (tb.accept pi))
    (h : J tb) (pis : List (NcmPacketIterator p f)) :
    J (tb.offers pis) ∧ ∀ x ∈ tb.trace pis, J x.1 ∧ x.1.Accepts x.2 := by
  have hrule := offers_rule (fun tb acc => J tb ∧ ∀ x ∈ acc, J x.1 ∧ x.1.Accepts x.2) ?_ []
    ⟨h, by simp⟩ pis
  · simpa using hrule
  · rintro tb acc pi ⟨hJ, hacc⟩ ha
    refine ⟨hstep tb pi hJ ha, ?_⟩
    intro x hx
    rcases List.mem_append.mp hx with hx | hx
    · exact hacc x hx
    · rw [List.mem_singleton.mp hx]
      exact ⟨hJ, ha⟩

theorem offers_eq (h : (tb.trace pis).getLast? = some (tb1, pi)) :
    tb.offers pis = tb1.accept pi := by
  have hrule : ∀ (tb1 : NcmTransferBlock) pi, ([] ++ tb.trace pis).getLast? = some (tb1, pi) →
      tb.offers pis = tb1.accept pi := by
    refine offers_rule (fun tb' acc => ∀ (tb1 : NcmTransferBlock) pi,
      acc.getLast? = some (tb1, pi) → tb' = tb1.accept pi) ?_ [] (by simp) pis
    intro tb' acc pi' _ _ tb1 pi hlast
    simp only [List.getLast?_append, List.getLast?_singleton, Option.some_or, Option.some.injEq,
      Prod.mk.injEq] at hlast
    rw [hlast.1, hlast.2]
  exact hrule tb1 pi h

/-! ## Offsets -/

/-- The NDP goes where the last `copyNextDatagram` computed. -/
theorem accept_ndpOffset (tb : NcmTransferBlock) (pi : NcmPacketIterator p f) :
    (tb.accept pi).ndpOffset = tb.ndpOffsetAfter (ncmGetPacketDataLength pi) := by
  unfold ndpOffset ndpOffsetAfter accept
  exact alignUpBy_mod _ _

/-- Usable parameters, and offsets small enough for no 64-bit sum to wrap. -/
structure Bounded (tb : NcmTransferBlock) : Prop where
  alignment : 0 < tb.ndpAlignment.toNat
  divisor : 0 < tb.ndpDivisor.toNat
  count_le : tb.currentNdpDatagramCount ≤ tb.ntbMaxDatagrams.toNat
  table_length : tb.datagramPointerTable.length = tb.ntbMaxDatagrams.toNat + 1
  offset_ge : tb.format.sizeofNth ≤ tb.currentBufferOffset
  offset_le : tb.currentBufferOffset ≤ 16 + tb.currentNdpDatagramCount * 2 ^ 43

theorem Bounded.offset_lt (h : tb.Bounded) : tb.currentBufferOffset < 2 ^ 60 := by
  have hcount := h.count_le
  have hle := h.offset_le
  have hmax := tb.ntbMaxDatagrams.toNat_lt
  omega

theorem Bounded.datagramOffset_bounds (h : tb.Bounded) :
    tb.currentBufferOffset ≤ tb.datagramOffset ∧
      tb.datagramOffset < tb.currentBufferOffset + 2 ^ 17 := by
  have hlt := h.offset_lt
  have hdiv := tb.ndpDivisor.toNat_lt
  have hrem := tb.ndpPayloadRemainder.toNat_lt
  have hb := alignUpBy_bounds (x := tb.currentBufferOffset + sizeofEthernetHeader) h.divisor
    (by unfold sizeofEthernetHeader; omega)
  unfold datagramOffset
  unfold sizeofEthernetHeader at hb ⊢
  omega

theorem Bounded.ndpOffsetAfter_bounds (h : tb.Bounded) (pi : NcmPacketIterator p f) :
    tb.datagramOffset + ncmGetPacketDataLength pi ≤
        tb.ndpOffsetAfter (ncmGetPacketDataLength pi) ∧
      tb.ndpOffsetAfter (ncmGetPacketDataLength pi) <
        tb.datagramOffset + ncmGetPacketDataLength pi + 2 ^ 16 := by
  have hlt := h.offset_lt
  have hd := h.datagramOffset_bounds
  have hlen := ncmGetPacketDataLength_lt pi
  have halign := tb.ndpAlignment.toNat_lt
  have hb := alignUpBy_bounds (x := tb.datagramOffset + ncmGetPacketDataLength pi) h.alignment
    (by omega)
  unfold ndpOffsetAfter
  omega

theorem Bounded.totalNtbSizeNeeded_eq (h : tb.Bounded) (pi : NcmPacketIterator p f) :
    tb.totalNtbSizeNeeded (ncmGetPacketDataLength pi) =
      tb.ndpOffsetAfter (ncmGetPacketDataLength pi) + tb.format.sizeofNdp +
        (tb.currentNdpDatagramCount + 1) * tb.format.sizeofDpe := by
  have hlt := h.offset_lt
  have hd := h.datagramOffset_bounds
  have hn := h.ndpOffsetAfter_bounds pi
  have hlen := ncmGetPacketDataLength_lt pi
  have hcount := h.count_le
  have hmax := tb.ntbMaxDatagrams.toNat_lt
  unfold totalNtbSizeNeeded
  rcases tb.format.sizes with hs | hs <;> (simp only [hs]; omega)

theorem Bounded.accept_offset (h : tb.Bounded) (pi : NcmPacketIterator p f) :
    (tb.accept pi).currentBufferOffset = tb.datagramOffset + ncmGetPacketDataLength pi := by
  have hlt := h.offset_lt
  have hd := h.datagramOffset_bounds
  have hlen := ncmGetPacketDataLength_lt pi
  unfold accept
  exact Nat.mod_eq_of_lt (by omega)

theorem Bounded.accept (h : tb.Bounded) (ha : tb.Accepts pi) : (tb.accept pi).Bounded := by
  have hoffset := h.accept_offset pi
  have hd := h.datagramOffset_bounds
  have hlen := ncmGetPacketDataLength_lt pi
  have hge := h.offset_ge
  have hle := h.offset_le
  refine ⟨h.alignment, h.divisor, ha.1, ?_, ?_, ?_⟩
  · exact List.length_set.trans h.table_length
  · rw [hoffset]
    exact Nat.le_trans hge (by omega)
  · rw [hoffset, show (tb.accept pi).currentNdpDatagramCount = tb.currentNdpDatagramCount + 1
      from rfl]
    omega

/-- The block that a new buffer to fill starts with. -/
def started (tb : NcmTransferBlock) (buffer : Memory) (bufferLength : Nat) : NcmTransferBlock :=
  prepareToConstruct tb.clearBlock buffer bufferLength

theorem reInitializeBuffer_tx (w : Nat) (tb : NcmTransferBlock) (buffer : Memory)
    (bufferLength : Nat) :
    reInitializeBuffer w tb buffer bufferLength .tx =
      .ok (.success, tb.started buffer bufferLength) := rfl

theorem started_bounded (buffer : Memory) (bufferLength : Nat) (halign : tb.ndpAlignment ≠ 0)
    (hdiv : tb.ndpDivisor ≠ 0) : (tb.started buffer bufferLength).Bounded := by
  refine ⟨?_, ?_, Nat.zero_le _, List.length_replicate, Nat.le_refl _, ?_⟩
  · exact Nat.pos_of_ne_zero fun h => halign (UInt16.toNat_inj.mp h)
  · exact Nat.pos_of_ne_zero fun h => hdiv (UInt16.toNat_inj.mp h)
  · rcases tb.format.sizes with hs | hs <;>
      (simp only [started, prepareToConstruct, clearBlock, hs]; omega)

/-! ## The headers -/

/-- The first byte behind the table of the NDP. -/
def ndpEnd (tb : NcmTransferBlock) : Nat :=
  tb.ndpOffset + tb.format.sizeofNdp + tb.datagramPointerTableSize

/-- The entries that `setNdp` copies, the null entry with them. -/
def tableBytes (tb : NcmTransferBlock) : List UInt8 :=
  (tb.datagramPointerTable.take (tb.currentNdpDatagramCount + 1)).flatMap (entryBytes tb.format)

/-- The `Length` field of the NDP before it is cut to 16 bits. -/
def ndpLength (tb : NcmTransferBlock) : Nat := tb.format.sizeofNdp + tb.datagramPointerTableSize

theorem flatMap_entryBytes_length (fmt : NtbFormat) (ds : List DatagramPointer) :
    (ds.flatMap (entryBytes fmt)).length = ds.length * fmt.sizeofDpe := by
  induction ds with
  | nil => simp
  | cons d ds ih =>
    rw [List.flatMap_cons, List.length_append, ih, List.length_cons, entryBytes]
    rcases fmt.sizes with hs | hs <;> (simp only [hs, List.length_append, leBytes_length]; omega)

theorem Bounded.tableBytes_length (h : tb.Bounded) :
    tb.tableBytes.length = tb.datagramPointerTableSize := by
  have hlen := h.table_length
  have hcount := h.count_le
  rw [tableBytes, flatMap_entryBytes_length, List.length_take, datagramPointerTableSize]
  congr 1
  omega

theorem Bounded.ndpOffset_bounds (h : tb.Bounded) :
    tb.currentBufferOffset ≤ tb.ndpOffset ∧ tb.ndpOffset < tb.currentBufferOffset + 2 ^ 16 := by
  have hlt := h.offset_lt
  have halign := tb.ndpAlignment.toNat_lt
  have hb := alignUpBy_bounds (x := tb.currentBufferOffset) h.alignment (by omega)
  unfold ndpOffset
  omega

theorem accept_ndpEnd (tb : NcmTransferBlock) (pi : NcmPacketIterator p f) :
    (tb.accept pi).ndpEnd = tb.ndpOffsetAfter (ncmGetPacketDataLength pi) + tb.format.sizeofNdp +
      (tb.currentNdpDatagramCount + 2) * tb.format.sizeofDpe := by
  unfold ndpEnd
  rw [accept_ndpOffset]
  rfl

def ndpWrites (tb : NcmTransferBlock) : List (Nat × List UInt8) :=
  [(tb.ndpOffset, leBytes 4 tb.format.ndpSignature),
    (tb.ndpOffset + NtbFormat.ndpLengthAt, leBytes 2 tb.ndpLength),
    (tb.ndpOffset + tb.format.ndpNextNdpIndexAt, leBytes tb.format.ptrSize 0),
    (tb.ndpOffset + tb.format.sizeofNdp, tb.tableBytes),
    (0, leBytes 4 tb.format.nthSignature),
    (NtbFormat.nthHeaderLengthAt, leBytes 2 tb.format.sizeofNth),
    (NtbFormat.nthSequenceAt, leBytes 2 tb.sequence.toNat)]

/-- Its last two. -/
def blockWrites (tb : NcmTransferBlock) : List (Nat × List UInt8) :=
  [(NtbFormat.nthBlockLengthAt,
      leBytes tb.format.ptrSize (tb.ndpOffset + tb.ndpLength % 256 ^ 2)),
    (tb.format.nthNdpIndexAt, leBytes tb.format.ptrSize tb.ndpOffset)]

def written (tb : NcmTransferBlock) : Memory :=
  writeAll tb.buffer (tb.ndpWrites ++ tb.blockWrites)

/-- The NDP lies behind the NTH, and its end is in the address space. -/
structure NdpPlaced (tb : NcmTransferBlock) : Prop where
  ndpOffset_ge : tb.format.sizeofNth ≤ tb.ndpOffset
  ndpEnd_le : tb.ndpEnd ≤ 2 ^ 64
  tableBytes_length : tb.tableBytes.length = tb.datagramPointerTableSize

theorem Bounded.ndpPlaced (h : tb.Bounded) : tb.NdpPlaced := by
  have hlt := h.offset_lt
  have hb := h.ndpOffset_bounds
  have hcount := h.count_le
  have hmax := tb.ntbMaxDatagrams.toNat_lt
  refine ⟨Nat.le_trans h.offset_ge hb.1, ?_, h.tableBytes_length⟩
  unfold ndpEnd datagramPointerTableSize
  rcases tb.format.sizes with hs | hs <;> (simp only [hs]; omega)

theorem NdpPlaced.writes (h : tb.NdpPlaced) :
    (∀ w ∈ tb.ndpWrites ++ tb.blockWrites, w.1 + w.2.length ≤ 2 ^ 64) ∧
      (tb.ndpWrites ++ tb.blockWrites).Pairwise Apart := by
  obtain ⟨hge, hend, hlen⟩ := h
  unfold ndpEnd at hend
  constructor
  · rcases tb.format.sizes with hs | hs <;>
      simp [ndpWrites, blockWrites, NtbFormat.ndpLengthAt, NtbFormat.nthHeaderLengthAt,
        NtbFormat.nthSequenceAt, NtbFormat.nthBlockLengthAt, hs, hlen] at * <;>
      omega
  · rcases tb.format.sizes with hs | hs <;>
      simp [ndpWrites, blockWrites, Apart, NtbFormat.ndpLengthAt, NtbFormat.nthHeaderLengthAt,
        NtbFormat.nthSequenceAt, NtbFormat.nthBlockLengthAt, hs, hlen] at * <;>
      omega

theorem writeNth_spec (h : tb.NdpPlaced) : tb.writeNth tb.writeNdp = .ok tb.written := by
  obtain ⟨hend, hapart⟩ := h.writes
  have hplaced := h.ndpEnd_le
  have hfirst : Holds (writeAll tb.buffer tb.ndpWrites) (tb.ndpOffset + NtbFormat.ndpLengthAt)
      (leBytes 2 tb.ndpLength) := by
    refine holds_writeAll (fun w hw => hend w (List.mem_append_left _ hw))
      (List.pairwise_append.mp hapart).1 (tb.ndpOffset + NtbFormat.ndpLengthAt, leBytes 2 tb.ndpLength) ?_
    exact List.mem_cons_of_mem _ List.mem_cons_self
  have hmod : (tb.ndpOffset + NtbFormat.ndpLengthAt) % 2 ^ 64 =
      tb.ndpOffset + NtbFormat.ndpLengthAt := by
    apply Nat.mod_eq_of_lt
    unfold ndpEnd NtbFormat.ndpLengthAt at *
    rcases tb.format.sizes with hs | hs <;> (rw [hs.2.2.1] at hplaced; omega)
  have hread := readLe_of_holds hfirst
  simp only [writeAll, ndpWrites, List.foldl_cons, List.foldl_nil] at hread
  unfold writeNth writeNdp
  simp only [hmod, writeLe]
  unfold ndpLength at hread
  unfold tableBytes at hread
  rw [hread, ok_bind]
  rfl

/-- With a datagram, `setNdp` writes the two headers and returns the block length it stored. -/
theorem setNdp_spec (hcount : tb.currentNdpDatagramCount ≠ 0) (h : tb.NdpPlaced) :
    tb.setNdp = .ok ((tb.ndpOffset + tb.ndpLength % 256 ^ 2) % 256 ^ tb.format.ptrSize,
      { tb with buffer := tb.written }) := by
  obtain ⟨hend, hapart⟩ := h.writes
  have hblock : Holds tb.written NtbFormat.nthBlockLengthAt
      (leBytes tb.format.ptrSize (tb.ndpOffset + tb.ndpLength % 256 ^ 2)) := by
    refine holds_writeAll hend hapart (NtbFormat.nthBlockLengthAt, _) ?_
    simp [blockWrites]
  unfold setNdp
  simp only [if_neg hcount, writeNth_spec h, ok_bind, readLe_of_holds hblock]
  rfl

theorem written_outside (h : tb.NdpPlaced) {a : Nat} (ha : a < 2 ^ 64)
    (hge : tb.format.sizeofNth ≤ a) (hout : a < tb.ndpOffset ∨ tb.ndpEnd ≤ a) :
    tb.written a = tb.buffer a := by
  have hlen := h.tableBytes_length
  apply writeAll_outside ha h.writes.1
  unfold ndpEnd at hout
  rcases tb.format.sizes with hs | hs <;>
    simp [ndpWrites, blockWrites, NtbFormat.ndpLengthAt, NtbFormat.nthHeaderLengthAt,
      NtbFormat.nthSequenceAt, NtbFormat.nthBlockLengthAt, hs, hlen] at * <;>
    omega

theorem holds_written (h : tb.NdpPlaced) {a : Nat} {bs : List UInt8}
    (hmem : (a, bs) ∈ tb.ndpWrites ++ tb.blockWrites) : Holds tb.written a bs :=
  holds_writeAll h.writes.1 h.writes.2 (a, bs) hmem

/-- A field of `setNdp` whose value its width has room for. -/
theorem readLe_written (h : tb.NdpPlaced) {a n v : Nat}
    (hmem : (a, leBytes n v) ∈ tb.ndpWrites ++ tb.blockWrites) (hlt : v < 256 ^ n) :
    readLe tb.written a n = .ok v := by
  have hread := readLe_of_holds (holds_written h hmem)
  rwa [Nat.mod_eq_of_lt hlt] at hread

end UsbNcm.Ntb.NcmTransferBlock
