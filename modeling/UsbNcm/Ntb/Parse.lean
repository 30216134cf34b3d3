import UsbNcm.Ntb.Grammar

/-!
# The cursor of the parser (`GetNextDatagram`)

`GetNextDatagram` reads entries that `GetNextNdp` has checked earlier. What makes this right is an
invariant that ties the cursor to the table.
-/

open Exec ByteMemory

namespace UsbNcm.Ntb

/-! ## The header -/

/-- The header that `PrepareToParse` accepts, with the block length it goes on with. -/
structure NthHeader (fmt : NtbFormat) (m : Memory) (bufferLength blockLength first : Nat) :
    Prop where
  fits : fmt.sizeofNth ≤ bufferLength
  signature : readLe m 0 4 = .ok fmt.nthSignature
  headerLength : readLe m NtbFormat.nthHeaderLengthAt 2 = .ok fmt.sizeofNth
  block : ∃ stored, readLe m NtbFormat.nthBlockLengthAt fmt.ptrSize = .ok stored ∧
    stored ≤ bufferLength ∧
    blockLength = if stored > 0 then stored else bufferLength % 256 ^ fmt.ptrSize
  ndpIndex : readLe m fmt.nthNdpIndexAt fmt.ptrSize = .ok first

theorem NthHeader.block_le {fmt : NtbFormat} {m : Memory} {bufferLength blockLength first : Nat}
    (h : NthHeader fmt m bufferLength blockLength first) : blockLength ≤ bufferLength := by
  obtain ⟨stored, -, hle, rfl⟩ := h.block
  split
  · exact hle
  · exact Nat.mod_le _ _

theorem NthHeader.first_lt {fmt : NtbFormat} {m : Memory} {bufferLength blockLength first : Nat}
    (h : NthHeader fmt m bufferLength blockLength first) : first < 2 ^ 32 :=
  readLe_ptr_lt h.ndpIndex

theorem validateNth_iff {fmt : NtbFormat} {m : Memory} {bufferLength blockLength first : Nat} :
    validateNth fmt m bufferLength = .ok (some (blockLength, first)) ↔
      NthHeader fmt m bufferLength blockLength first := by
  constructor
  · intro h
    unfold validateNth at h
    split at h
    next => cases h
    next hfits =>
      obtain ⟨signature, hsig, h⟩ := bind_eq_ok.mp h
      split at h
      next => cases h
      next hsigEq =>
        obtain ⟨headerLength, hhl, h⟩ := bind_eq_ok.mp h
        split at h
        next => cases h
        next hhlEq =>
          obtain ⟨stored, hstored, h⟩ := bind_eq_ok.mp h
          split at h
          next => cases h
          next hle =>
            obtain ⟨first, hfirst, h⟩ := bind_eq_ok.mp h
            cases h
            refine ⟨by omega, ?_, ?_, ⟨stored, hstored, by omega, rfl⟩, hfirst⟩
            · rw [hsig, not_ne_iff.mp hsigEq]
            · rw [hhl, not_ne_iff.mp hhlEq]
  · rintro ⟨hfits, hsig, hhl, ⟨stored, hstored, hle, rfl⟩, hfirst⟩
    unfold validateNth
    rw [if_neg (by omega), hsig, ok_bind, if_neg (not_not.mpr rfl), hhl, ok_bind,
      if_neg (not_not.mpr rfl), hstored, ok_bind, if_neg (by omega), hfirst, ok_bind]
    rfl

namespace NcmTransferBlock

variable {tb tb' : NcmTransferBlock}

/-- The block once its header has been read. -/
def opened (tb : NcmTransferBlock) (m : Memory) (bufferLength blockLength first : Nat) :
    NcmTransferBlock :=
  { tb.clearBlock with
    buffer := m
    bufferLength := bufferLength
    blockLength := blockLength
    nextNdpIndex := first }

/-- The block after `getNextNdp` has moved on to the table at `nextNdpIndex`. -/
def atTable (tb : NcmTransferBlock) (next count : Nat) : NcmTransferBlock :=
  { tb with
    currentNdpIndex := tb.nextNdpIndex
    nextNdpIndex := next
    currentNdpDatagramIndex := 0
    currentNdpDatagramCount := count }

@[simp]
theorem opened_format (m : Memory) (bufferLength blockLength first : Nat) :
    (tb.opened m bufferLength blockLength first).format = tb.format := rfl

@[simp]
theorem opened_buffer (m : Memory) (bufferLength blockLength first : Nat) :
    (tb.opened m bufferLength blockLength first).buffer = m := rfl

@[simp]
theorem atTable_format (next count : Nat) : (tb.atTable next count).format = tb.format := rfl

@[simp]
theorem atTable_buffer (next count : Nat) : (tb.atTable next count).buffer = tb.buffer := rfl

theorem getNextNdp_of_zero (h : tb.nextNdpIndex = 0) :
    getNextNdp 64 tb = .ok (.noMoreEntries, tb) := by
  unfold getNextNdp
  rw [if_pos h]

theorem getNextNdp_of_none (hne : tb.nextNdpIndex ≠ 0)
    (h : validateNdp 64 tb.format tb.buffer tb.blockLength tb.nextNdpIndex = .ok none) :
    ∃ tb', getNextNdp 64 tb = .ok (.badData, tb') := by
  unfold getNextNdp
  simp only [if_neg hne, h, ok_bind]
  exact ⟨_, rfl⟩

theorem getNextNdp_of_some (hne : tb.nextNdpIndex ≠ 0) {next count : Nat}
    (h : validateNdp 64 tb.format tb.buffer tb.blockLength tb.nextNdpIndex =
      .ok (some (next, count))) :
    getNextNdp 64 tb = .ok (.success, tb.atTable next count) := by
  unfold getNextNdp
  simp only [if_neg hne, h, ok_bind]
  rfl

/-- What `getNextNdp` does: nothing without a link, else it refuses the table or moves to it. -/
theorem getNextNdp_cases {status : NtStatus} (h : getNextNdp 64 tb = .ok (status, tb')) :
    (tb.nextNdpIndex = 0 ∧ status = .noMoreEntries ∧ tb' = tb) ∨
      (tb.nextNdpIndex ≠ 0 ∧ status = .badData ∧
        validateNdp 64 tb.format tb.buffer tb.blockLength tb.nextNdpIndex = .ok none) ∨
      (tb.nextNdpIndex ≠ 0 ∧ status = .success ∧ ∃ next count,
        validateNdp 64 tb.format tb.buffer tb.blockLength tb.nextNdpIndex =
          .ok (some (next, count)) ∧ tb' = tb.atTable next count) := by
  unfold getNextNdp at h
  split at h
  next hz => cases h; exact Or.inl ⟨hz, rfl, rfl⟩
  next hne =>
    obtain ⟨result, hvalidate, h⟩ := bind_eq_ok.mp h
    cases result with
    | none => cases h; exact Or.inr (Or.inl ⟨hne, rfl, hvalidate⟩)
    | some result =>
      cases h
      exact Or.inr (Or.inr ⟨hne, rfl, result.1, result.2, hvalidate, rfl⟩)

/-- Either the header is refused, or the parser goes on to the first table. -/
theorem reInitializeBuffer_rx_cases {m : Memory} {bufferLength : Nat} {status : NtStatus}
    (h : reInitializeBuffer 64 tb m bufferLength .rx = .ok (status, tb')) :
    (status = .badData ∧ validateNth tb.format m bufferLength = .ok none) ∨
      ∃ blockLength first, NthHeader tb.format m bufferLength blockLength first ∧
        getNextNdp 64 (tb.opened m bufferLength blockLength first) = .ok (status, tb') := by
  unfold reInitializeBuffer prepareToParse at h
  obtain ⟨result, hvalidate, h⟩ := bind_eq_ok.mp h
  cases result with
  | none => cases h; exact Or.inl ⟨rfl, hvalidate⟩
  | some result => exact Or.inr ⟨result.1, result.2, validateNth_iff.mp hvalidate, h⟩

theorem reInitializeBuffer_of_header {m : Memory} {bufferLength blockLength first : Nat}
    (h : NthHeader tb.format m bufferLength blockLength first) :
    reInitializeBuffer 64 tb m bufferLength .rx =
      getNextNdp 64 (tb.opened m bufferLength blockLength first) := by
  have hvalidate : validateNth tb.clearBlock.format m bufferLength =
      .ok (some (blockLength, first)) := validateNth_iff.mpr h
  unfold reInitializeBuffer prepareToParse
  simp only [hvalidate, ok_bind]
  rfl

/-! ## The cursor -/

/-- The cursor is in a table of the block that was checked, and not past the last of its entries. -/
structure AtTable (fmt : NtbFormat) (m : Memory) (blockLength : Nat) (ds : List DatagramPointer)
    (tb : NcmTransferBlock) : Prop where
  format_eq : tb.format = fmt
  buffer_eq : tb.buffer = m
  blockLength_eq : tb.blockLength = blockLength
  blockLength_lt : blockLength < 2 ^ 32
  mapped : ∀ a < blockLength, (m a).isSome
  table : NdpTable fmt m blockLength tb.currentNdpIndex ds tb.nextNdpIndex
  count : tb.currentNdpDatagramCount = ds.length
  index_le : tb.currentNdpDatagramIndex ≤ ds.length

variable {fmt : NtbFormat} {m : Memory} {blockLength : Nat} {ds : List DatagramPointer}
  {d : DatagramPointer}

theorem currentDatagram_of_entry
    (h : EntryAt tb.format tb.buffer (tb.currentNdpIndex + tb.format.sizeofNdp +
      tb.currentNdpDatagramIndex * tb.format.sizeofDpe) d) :
    tb.currentDatagram = .ok d := by
  obtain ⟨hi, hl⟩ := h
  unfold currentDatagram readPtr
  simp only [hi, hl, ok_bind]
  rfl

/-- Where the index is not at the count, the entry is returned as it is. -/
theorem getNextDatagram_of_entry (hne : tb.currentNdpDatagramIndex ≠ tb.currentNdpDatagramCount)
    (h : EntryAt tb.format tb.buffer (tb.currentNdpIndex + tb.format.sizeofNdp +
      tb.currentNdpDatagramIndex * tb.format.sizeofDpe) d) :
    getNextDatagram 64 tb = .ok (.success, d, tb.advanceCursor) := by
  unfold getNextDatagram
  rw [if_neg hne]
  simp only [pure, Except.pure, ok_bind, ne_eq, not_true_eq_false, if_false,
    currentDatagram_of_entry h]

theorem AtTable.getNextDatagram_entry (h : tb.AtTable fmt m blockLength ds)
    (hlt : tb.currentNdpDatagramIndex < ds.length) :
    getNextDatagram 64 tb = .ok (.success, ds[tb.currentNdpDatagramIndex], tb.advanceCursor) ∧
      tb.advanceCursor.currentNdpDatagramIndex = tb.currentNdpDatagramIndex + 1 ∧
      tb.advanceCursor.AtTable fmt m blockLength ds := by
  obtain ⟨rfl, rfl, rfl, hblock, hmapped, htable, hcount, -⟩ := h
  have hlen := htable.length_lt
  have hindex : tb.advanceCursor.currentNdpDatagramIndex = tb.currentNdpDatagramIndex + 1 := by
    unfold advanceCursor
    dsimp only
    rcases tb.format.sizes with hs | hs <;> (rw [hs.2.2.2.1] at hlen; omega)
  refine ⟨?_, hindex, rfl, rfl, rfl, hblock, hmapped, htable, hcount, by omega⟩
  exact getNextDatagram_of_entry (by omega) (htable.entry hlt).1

/-- Behind the last entry the call moves on to the next table, if there is one. -/
theorem AtTable.getNextDatagram_link (h : tb.AtTable fmt m blockLength ds)
    (hindex : tb.currentNdpDatagramIndex = ds.length) {ds' : List DatagramPointer} {next : Nat}
    (htable : NdpTable fmt m blockLength tb.nextNdpIndex ds' next) :
    getNextDatagram 64 tb = (do
      let datagram ← (tb.atTable next ds'.length).currentDatagram
      return (.success, datagram, (tb.atTable next ds'.length).advanceCursor)) := by
  obtain ⟨rfl, rfl, rfl, hblock, -, hcurrent, hcount, -⟩ := h
  have hne : tb.nextNdpIndex ≠ 0 := by
    have hge := htable.fits.1
    have hs := tb.format.sizes
    omega
  have hnext := getNextNdp_of_some hne (validateNdp_of_table hblock hcurrent.next_lt htable)
  unfold getNextDatagram
  simp only [if_pos (hindex.trans hcount.symm), hnext, ok_bind, ne_eq, not_true_eq_false, if_false]

/-- Behind the last entry a call fails when there is no further table. -/
theorem AtTable.getNextDatagram_fails (h : tb.AtTable fmt m blockLength ds)
    (hindex : tb.currentNdpDatagramIndex = ds.length) {status : NtStatus}
    (hnext : getNextNdp 64 tb = .ok (status, tb')) (hstatus : status ≠ .success) :
    getNextDatagram 64 tb = .ok (status, ⟨0, 0⟩, tb') := by
  unfold getNextDatagram
  rw [if_pos (hindex.trans h.count.symm), hnext, ok_bind]
  simp only [hstatus, ne_eq, not_false_eq_true, if_true]
  rfl

theorem AtTable.getNextDatagram_next (h : tb.AtTable fmt m blockLength ds)
    (hindex : tb.currentNdpDatagramIndex = ds.length) {ds' : List DatagramPointer} {next : Nat}
    (htable : NdpTable fmt m blockLength tb.nextNdpIndex (d :: ds') next) :
    getNextDatagram 64 tb =
        .ok (.success, d, (tb.atTable next (d :: ds').length).advanceCursor) ∧
      (tb.atTable next (d :: ds').length).advanceCursor.currentNdpDatagramIndex = 1 ∧
      (tb.atTable next (d :: ds').length).advanceCursor.AtTable fmt m blockLength (d :: ds') := by
  have hlink := h.getNextDatagram_link hindex htable
  obtain ⟨rfl, rfl, rfl, hblock, hmapped, -, -, -⟩ := h
  have hentry : (tb.atTable next (d :: ds').length).currentDatagram = .ok d := by
    apply currentDatagram_of_entry
    exact (htable.entry (Nat.zero_lt_succ _)).1
  refine ⟨?_, rfl, rfl, rfl, rfl, hblock, hmapped, htable, rfl, ?_⟩
  · rw [hlink, hentry]
    rfl
  · exact Nat.succ_le_succ (Nat.zero_le _)

/-- A table that is moved to and that has no entry: its null entry is returned unchecked, and the
index is then past the count. -/
theorem AtTable.getNextDatagram_empty (h : tb.AtTable fmt m blockLength ds)
    (hindex : tb.currentNdpDatagramIndex = ds.length) {next : Nat}
    (htable : NdpTable fmt m blockLength tb.nextNdpIndex [] next) :
    ∃ d, getNextDatagram 64 tb = .ok (.success, d, (tb.atTable next 0).advanceCursor) := by
  have hlink := h.getNextDatagram_link hindex htable
  obtain ⟨rfl, rfl, rfl, hblock, hmapped, -, -, -⟩ := h
  have hfits := htable.fits.2
  have hs := tb.format.sizes
  unfold NtbFormat.minDptSize at hfits
  obtain ⟨datagramIndex, hi⟩ := readLe_ok (m := tb.buffer) (a := tb.nextNdpIndex + tb.format.sizeofNdp)
    (n := tb.format.ptrSize) (fun i _ hlt => hmapped i (by omega))
  obtain ⟨datagramLength, hl⟩ := readLe_ok (m := tb.buffer)
    (a := tb.nextNdpIndex + tb.format.sizeofNdp + tb.format.ptrSize) (n := tb.format.ptrSize)
    (fun i _ hlt => hmapped i (by omega))
  have hentry : (tb.atTable next 0).currentDatagram = .ok ⟨datagramIndex, datagramLength⟩ := by
    apply currentDatagram_of_entry
    simpa [EntryAt, atTable] using ⟨hi, hl⟩
  refine ⟨⟨datagramIndex, datagramLength⟩, ?_⟩
  rw [hlink, List.length_nil, hentry]
  rfl

/-- Behind the last entry a call succeeds only by moving to a table. -/
theorem AtTable.table_of_getNextDatagram (h : tb.AtTable fmt m blockLength ds)
    (hblock : blockLength < 2 ^ 31) (hindex : tb.currentNdpDatagramIndex = ds.length)
    (hcall : getNextDatagram 64 tb = .ok (.success, d, tb')) :
    ∃ ds' next, NdpTable fmt m blockLength tb.nextNdpIndex ds' next := by
  obtain ⟨rfl, rfl, rfl, -, -, hcurrent, hcount, -⟩ := h
  unfold getNextDatagram at hcall
  rw [if_pos (hindex.trans hcount.symm)] at hcall
  obtain ⟨⟨status, tb1⟩, hnext, hcall⟩ := bind_eq_ok.mp hcall
  rcases getNextNdp_cases hnext with ⟨-, rfl, -⟩ | ⟨-, rfl, -⟩ | ⟨-, -, next, count, hvalid, -⟩
  · cases hcall
  · cases hcall
  · obtain ⟨ds', htable, -⟩ := table_of_validateNdp hblock hcurrent.next_lt hvalid
    exact ⟨ds', next, htable⟩

/-- One successful call either stays within checked tables, and returns one of their entries, or
has moved to a table without entries. -/
theorem AtTable.getNextDatagram_step (h : tb.AtTable fmt m blockLength ds)
    (hblock : blockLength < 2 ^ 31) (hcall : getNextDatagram 64 tb = .ok (.success, d, tb')) :
    (∃ ds', tb'.AtTable fmt m blockLength ds' ∧ d ∈ ds') ∨
      (tb.currentNdpDatagramIndex = ds.length ∧
        ∃ next, NdpTable fmt m blockLength tb.nextNdpIndex [] next) := by
  rcases Nat.lt_or_eq_of_le h.index_le with hlt | hindex
  · obtain ⟨hcall', -, hat⟩ := h.getNextDatagram_entry hlt
    rw [hcall'] at hcall
    cases hcall
    exact Or.inl ⟨ds, hat, List.getElem_mem _⟩
  · obtain ⟨ds', next, htable⟩ := h.table_of_getNextDatagram hblock hindex hcall
    cases ds' with
    | nil => exact Or.inr ⟨hindex, next, htable⟩
    | cons d' ds' =>
      obtain ⟨hcall', -, hat⟩ := h.getNextDatagram_next hindex htable
      rw [hcall'] at hcall
      cases hcall
      exact Or.inl ⟨d :: ds', hat, List.mem_cons_self⟩

theorem reInitializeBuffer_of_table {bufferLength first next : Nat} (hblock : blockLength < 2 ^ 32)
    (hmapped : ∀ a < bufferLength, (m a).isSome)
    (hheader : NthHeader tb.format m bufferLength blockLength first)
    (htable : NdpTable tb.format m blockLength first ds next) :
    reInitializeBuffer 64 tb m bufferLength .rx =
        .ok (.success, (tb.opened m bufferLength blockLength first).atTable next ds.length) ∧
      ((tb.opened m bufferLength blockLength first).atTable next ds.length).AtTable tb.format m
        blockLength ds := by
  have hne : (tb.opened m bufferLength blockLength first).nextNdpIndex ≠ 0 := by
    have hge := htable.fits.1
    have hs := tb.format.sizes
    change first ≠ 0
    omega
  have hle := hheader.block_le
  refine ⟨?_, rfl, rfl, rfl, hblock, fun a ha => hmapped a (by omega), htable, rfl, Nat.zero_le _⟩
  rw [reInitializeBuffer_of_header hheader]
  exact getNextNdp_of_some hne (validateNdp_of_table hblock hheader.first_lt htable)

theorem table_of_reInitializeBuffer {bufferLength : Nat} (hlen : bufferLength < 2 ^ 31)
    (h : reInitializeBuffer 64 tb m bufferLength .rx = .ok (.success, tb')) :
    ∃ blockLength first ds next, NthHeader tb.format m bufferLength blockLength first ∧
      NdpTable tb.format m blockLength first ds next ∧
      tb' = (tb.opened m bufferLength blockLength first).atTable next ds.length := by
  rcases reInitializeBuffer_rx_cases h with ⟨hbad, -⟩ | ⟨blockLength, first, hheader, hnext⟩
  · cases hbad
  · have hle := hheader.block_le
    rcases getNextNdp_cases hnext with ⟨-, hc, -⟩ | ⟨-, hc, -⟩ | ⟨-, -, next, count, hvalid, rfl⟩
    · cases hc
    · cases hc
    · obtain ⟨ds, htable, rfl⟩ := table_of_validateNdp (Nat.lt_of_le_of_lt hle hlen)
        hheader.first_lt hvalid
      exact ⟨blockLength, first, ds, next, hheader, htable, rfl⟩

/-! ## Any number of calls -/

/-- `n` successful calls lead from `tb` to the last block. -/
inductive Calls (tb : NcmTransferBlock) : Nat → NcmTransferBlock → Prop
  | none : Calls tb 0 tb
  | call {n : Nat} {tb1 tb2 : NcmTransferBlock} {d : DatagramPointer} :
    Calls tb n tb1 → getNextDatagram 64 tb1 = .ok (.success, d, tb2) → Calls tb (n + 1) tb2

/-- What a successful call that returned `d` and left `tb` promises about a received buffer. -/
structure Sound (bytes : List UInt8) (d : DatagramPointer) (tb : NcmTransferBlock) : Prop where
  inBlock : d.InBlock tb.format tb.blockLength
  block_le : tb.blockLength ≤ bytes.length
  entry : ∃ ds next,
    NdpTable tb.format (ofBytes bytes) tb.blockLength tb.currentNdpIndex ds next ∧ d ∈ ds
  index_le : tb.currentNdpDatagramIndex ≤ tb.currentNdpDatagramCount

/-- The next call moves to a table whose first entry is a null entry. -/
def EntersEmptyTable (bytes : List UInt8) (tb : NcmTransferBlock) : Prop :=
  tb.currentNdpDatagramIndex = tb.currentNdpDatagramCount ∧
    ∃ next, NdpTable tb.format (ofBytes bytes) tb.blockLength tb.nextNdpIndex [] next

variable {bytes : List UInt8} {tb0 : NcmTransferBlock} {n : Nat}

theorem AtTable.entersEmptyTable (h : tb.AtTable fmt (ofBytes bytes) blockLength ds) :
    tb.EntersEmptyTable bytes ↔ tb.currentNdpDatagramIndex = ds.length ∧
      ∃ next, NdpTable fmt (ofBytes bytes) blockLength tb.nextNdpIndex [] next := by
  obtain ⟨rfl, -, rfl, -, -, -, hcount, -⟩ := h
  unfold EntersEmptyTable
  rw [hcount]

theorem Calls.atTable (h : Calls tb0 n tb) (h0 : tb0.AtTable fmt (ofBytes bytes) blockLength ds)
    (hblock : blockLength < 2 ^ 31)
    (hno : ∀ k < n, ∀ tb, Calls tb0 k tb → ¬ tb.EntersEmptyTable bytes) :
    ∃ ds, tb.AtTable fmt (ofBytes bytes) blockLength ds := by
  induction h with
  | none => exact ⟨ds, h0⟩
  | @call k tb1 tb2 d hcalls hcall ih =>
    obtain ⟨ds1, hat⟩ := ih fun j hj => hno j (by omega)
    rcases hat.getNextDatagram_step hblock hcall with ⟨ds2, hat', -⟩ | henters
    · exact ⟨ds2, hat'⟩
    · exact absurd (hat.entersEmptyTable.mpr henters) (hno k (by omega) tb1 hcalls)

theorem AtTable.sound (h : tb.AtTable fmt (ofBytes bytes) blockLength ds) (hd : d ∈ ds)
    (hle : blockLength ≤ bytes.length) : Sound bytes d tb := by
  obtain ⟨rfl, -, rfl, -, -, htable, hcount, hindex⟩ := h
  obtain ⟨i, hi, rfl⟩ := List.getElem_of_mem hd
  exact ⟨(htable.entry hi).2, hle, ⟨ds, _, htable, hd⟩, by omega⟩

/-- The calls on an accepted buffer are sound exactly as long as none of them moves to a table
without entries. -/
theorem getNextDatagram_sound_iff (tb : NcmTransferBlock) (bytes : List UInt8)
    (hlen : bytes.length < 2 ^ 31) (tb0 : NcmTransferBlock)
    (h : reInitializeBuffer 64 tb (ofBytes bytes) bytes.length .rx = .ok (.success, tb0)) (n : Nat) :
    (∀ k < n, ∀ tb1 d tb2, Calls tb0 k tb1 →
        getNextDatagram 64 tb1 = .ok (.success, d, tb2) → Sound bytes d tb2) ↔
      ∀ k < n, ∀ tb1, Calls tb0 k tb1 → ¬ tb1.EntersEmptyTable bytes := by
  obtain ⟨blockLength, first, ds, next, hheader, htable, rfl⟩ := table_of_reInitializeBuffer hlen h
  have hblock : blockLength < 2 ^ 31 := Nat.lt_of_le_of_lt hheader.block_le hlen
  have h0 := (reInitializeBuffer_of_table (Nat.lt_trans hblock (by decide)) (mapped_ofBytes bytes)
    hheader htable).2
  constructor
  · intro hsound k
    -- the first call that enters an empty table leaves the index past the count
    induction k using Nat.strongRecOn with
    | ind k ih =>
      intro hk tb1 hcalls henters
      obtain ⟨ds1, hat⟩ := hcalls.atTable h0 hblock fun j hj => ih j hj (by omega)
      obtain ⟨hindex, next1, htable⟩ := hat.entersEmptyTable.mp henters
      obtain ⟨d, hcall⟩ := hat.getNextDatagram_empty hindex htable
      have hle := (hsound k hk tb1 d _ hcalls hcall).index_le
      simp [advanceCursor, atTable] at hle
  · intro hno k hk tb1 d tb2 hcalls hcall
    obtain ⟨ds1, hat⟩ := hcalls.atTable h0 hblock fun j hj => hno j (by omega)
    rcases hat.getNextDatagram_step hblock hcall with ⟨ds2, hat', hd⟩ | henters
    · exact hat'.sound hd hheader.block_le
    · exact absurd (hat.entersEmptyTable.mpr henters) (hno k hk tb1 hcalls)

/-- A table at 12 with one entry, and a link to a table at 28 that starts with a null entry. -/
def linkedEmptyTable : List UInt8 :=
  [0x4E, 0x43, 0x4D, 0x48, 12, 0, 0, 0, 44, 0, 12, 0,
    0x4E, 0x43, 0x4D, 0x30, 16, 0, 28, 0, 12, 0, 1, 0, 0, 0, 0, 0,
    0x4E, 0x43, 0x4D, 0x30, 16, 0, 0, 0, 0, 0, 0, 0, 0, 0, 0, 0]

theorem getNextDatagram_sound_iff_linkedEmptyTable :
    ∃ tb0, reInitializeBuffer 64 (initialBlock 16 4 4 0 false) (ofBytes linkedEmptyTable)
        linkedEmptyTable.length .rx = .ok (.success, tb0) ∧
      ((∀ k < 2, ∀ tb1 d tb2, Calls tb0 k tb1 →
          getNextDatagram 64 tb1 = .ok (.success, d, tb2) → Sound linkedEmptyTable d tb2) ↔
        ∀ k < 2, ∀ tb1, Calls tb0 k tb1 → ¬ tb1.EntersEmptyTable linkedEmptyTable) :=
  ⟨_, rfl, getNextDatagram_sound_iff (initialBlock 16 4 4 0 false) linkedEmptyTable (by decide) _ rfl 2⟩

/-- The second call returns the null entry, and leaves the index past the count. -/
theorem getNextDatagram_returns_null_entry :
    ∃ tb0 tb1 tb2, reInitializeBuffer 64 (initialBlock 16 4 4 0 false) (ofBytes linkedEmptyTable)
        linkedEmptyTable.length .rx = .ok (.success, tb0) ∧ Calls tb0 1 tb1 ∧
      getNextDatagram 64 tb1 = .ok (.success, ⟨0, 0⟩, tb2) ∧
      ¬ Sound linkedEmptyTable ⟨0, 0⟩ tb2 ∧
      tb2.currentNdpDatagramIndex = 1 ∧ tb2.currentNdpDatagramCount = 0 := by
  refine ⟨_, _, _, rfl, .call .none rfl, rfl, ?_, rfl, rfl⟩
  intro hsound
  exact absurd hsound.inBlock.2.1 (by decide)

end NcmTransferBlock

end UsbNcm.Ntb
