import UsbNcm.Ntb.Parse

/-!
# All the datagrams of a received buffer

`GetNextDatagram` follows the links from table to table. Which datagrams it returns before it
returns none, said about the bytes of the buffer.
-/

open Exec ByteMemory

namespace UsbNcm.Ntb

/-! ## The tables behind a link -/

/-- The links from `ndp` on end, at a null link or at a table that is refused, and the tables before
that, none of them empty, have the entries `ds`. -/
inductive Chain (fmt : NtbFormat) (m : Memory) (blockLength : Nat) :
    Nat → List DatagramPointer → Prop
  | last : Chain fmt m blockLength 0 []
  | refused {ndp : Nat} : ndp ≠ 0 → validateNdp 64 fmt m blockLength ndp = .ok none →
    Chain fmt m blockLength ndp []
  | table {ndp next : Nat} {ds rest : List DatagramPointer} :
    NdpTable fmt m blockLength ndp ds next → ds ≠ [] → Chain fmt m blockLength next rest →
      Chain fmt m blockLength ndp (ds ++ rest)

variable {fmt : NtbFormat} {m : Memory} {blockLength : Nat} {ds rest : List DatagramPointer}
  {d : DatagramPointer} {bytes : List UInt8}

theorem NdpTable.inBlock {ndp next : Nat} (h : NdpTable fmt m blockLength ndp ds next)
    (hd : d ∈ ds) : d.InBlock fmt blockLength := by
  obtain ⟨i, hi, rfl⟩ := List.getElem_of_mem hd
  exact (h.entry hi).2

theorem Chain.inBlock {ndp : Nat} (h : Chain fmt m blockLength ndp ds) (hd : d ∈ ds) :
    d.InBlock fmt blockLength := by
  induction h with
  | last => simp at hd
  | refused => simp at hd
  | table htable _ _ ih =>
    rcases List.mem_append.mp hd with hd | hd
    · exact htable.inBlock hd
    · exact ih hd

def Rejected (fmt : NtbFormat) (bytes : List UInt8) : Prop :=
  validateNth fmt (ofBytes bytes) bytes.length = .ok none ∨
    ∃ blockLength first, NthHeader fmt (ofBytes bytes) bytes.length blockLength first ∧
      (first = 0 ∨ validateNdp 64 fmt (ofBytes bytes) blockLength first = .ok none)

/-- The buffer holds an NTB with these datagrams, over all of its tables. -/
def Walk (fmt : NtbFormat) (bytes : List UInt8) (ds : List DatagramPointer) : Prop :=
  ∃ blockLength first next ds0 rest,
    NthHeader fmt (ofBytes bytes) bytes.length blockLength first ∧
    NdpTable fmt (ofBytes bytes) blockLength first ds0 next ∧
    Chain fmt (ofBytes bytes) blockLength next rest ∧ ds = ds0 ++ rest

/-- What there is to get out of a received buffer. -/
def Contents (fmt : NtbFormat) (bytes : List UInt8) (ds : List DatagramPointer) : Prop :=
  (Rejected fmt bytes ∧ ds = []) ∨ Walk fmt bytes ds

theorem Walk.inBuffer (h : Walk fmt bytes ds) (hd : d ∈ ds) :
    d.datagramIndex + d.datagramLength ≤ bytes.length := by
  obtain ⟨blockLength, first, next, ds0, rest, hheader, htable, hchain, rfl⟩ := h
  have hle := hheader.block_le
  rcases List.mem_append.mp hd with hd | hd
  · have := (htable.inBlock hd).2.2
    omega
  · have := (hchain.inBlock hd).2.2
    omega

theorem Contents.inBuffer (h : Contents fmt bytes ds) (hd : d ∈ ds) :
    d.datagramIndex + d.datagramLength ≤ bytes.length := by
  rcases h with ⟨-, rfl⟩ | h
  · simp at hd
  · exact h.inBuffer hd

/-! ## A buffer too small for a table -/

theorem validateNth_ok {n : Nat} (h : ∀ a < n, (m a).isSome) :
    ∃ result, validateNth fmt m n = .ok result := by
  by_cases hfits : n < fmt.sizeofNth
  · exact ⟨none, by unfold validateNth; rw [if_pos hfits]; rfl⟩
  · have hs := fmt.sizes
    have hread : ∀ a k, a + k ≤ fmt.sizeofNth → ∃ v, readLe m a k = .ok v :=
      fun a k hle => readLe_ok fun i _ hi => h i (by omega)
    obtain ⟨signature, hsignature⟩ := hread 0 4 (by omega)
    obtain ⟨headerLength, hheaderLength⟩ := hread NtbFormat.nthHeaderLengthAt 2
      (by unfold NtbFormat.nthHeaderLengthAt; omega)
    obtain ⟨stored, hstored⟩ := hread NtbFormat.nthBlockLengthAt fmt.ptrSize
      (by unfold NtbFormat.nthBlockLengthAt; omega)
    obtain ⟨first, hfirst⟩ := hread fmt.nthNdpIndexAt fmt.ptrSize (by omega)
    unfold validateNth
    simp only [hsignature, hheaderLength, hstored, hfirst, ok_bind]
    repeat' split
    all_goals exact ⟨_, rfl⟩

theorem rejected_of_small (h : bytes.length < fmt.sizeofNth + fmt.minDptSize) : Rejected fmt bytes := by
  obtain ⟨result, hresult⟩ : ∃ result, validateNth fmt (ofBytes bytes) bytes.length = .ok result :=
    validateNth_ok (mapped_ofBytes bytes)
  cases result with
  | none => exact Or.inl hresult
  | some result =>
    have hheader := validateNth_iff.mp hresult
    refine Or.inr ⟨result.1, result.2, hheader, Or.inr ?_⟩
    have hle := hheader.block_le
    have hlt := hheader.first_lt
    have hunfit : result.2 < fmt.sizeofNth ∨ sizeT 64 (result.2 + fmt.minDptSize) > result.1 := by
      by_cases hfirst : result.2 < fmt.sizeofNth
      · exact Or.inl hfirst
      · refine Or.inr ?_
        have hs := fmt.sizes
        unfold sizeT NtbFormat.minDptSize at *
        omega
    unfold validateNdp
    rw [if_pos hunfit]
    rfl

/-! ## A longer buffer -/

section Longer

variable {m' : Memory} {ndp next : Nat}

theorem scanTable_below (h : Extends m m') (length fuel offset count : Nat) :
    Below (scanTable fmt m blockLength ndp length fuel offset count)
      (scanTable fmt m' blockLength ndp length fuel offset count) := by
  induction fuel generalizing offset count with
  | zero => exact .refl _
  | succ fuel ih =>
    unfold scanTable
    refine .ite ((h.readLe _ _).bind fun datagramIndex => .ite (.refl _) ?_) (.refl _)
    refine (h.readLe _ _).bind fun datagramLength => .ite (.refl _) ?_
    exact .ite (.refl _) (ih _ _)

theorem validateNdp_below (h : Extends m m') :
    Below (validateNdp 64 fmt m blockLength ndp) (validateNdp 64 fmt m' blockLength ndp) := by
  unfold validateNdp
  refine .ite (.refl _) ((h.readLe _ _).bind fun signature => .ite (.refl _) ?_)
  refine (h.readLe _ _).bind fun length => .ite (.refl _) ?_
  refine (h.readLe _ _).bind fun nextNdpIndex => .ite (.refl _) ?_
  exact (scanTable_below h _ _ _ _).bind fun scanned => .refl _

theorem Entries.extends {stop a : Nat} (hm : Extends m m') (h : Entries fmt m blockLength stop a ds) :
    Entries fmt m' blockLength stop a ds := by
  induction h with
  | null hlt hnull =>
    obtain ⟨datagramIndex, hi, hz⟩ := hnull
    exact .null hlt ⟨datagramIndex, hm.readLe _ _ _ hi, hz.imp_right (hm.readLe _ _ _)⟩
  | entry hlt hentry hin _ ih =>
    exact .entry hlt ⟨hm.readLe _ _ _ hentry.1, hm.readLe _ _ _ hentry.2⟩ hin ih

theorem NdpTable.extends (hm : Extends m m') (h : NdpTable fmt m blockLength ndp ds next) :
    NdpTable fmt m' blockLength ndp ds next := by
  obtain ⟨hfits, hsignature, ⟨length, hlength, hmin, hmod, hle, hds⟩, hlink, hlinkFits⟩ := h
  exact ⟨hfits, hm.readLe _ _ _ hsignature, ⟨length, hm.readLe _ _ _ hlength, hmin, hmod, hle,
    hds.extends hm⟩, hm.readLe _ _ _ hlink, hlinkFits⟩

theorem Chain.extends (hm : Extends m m') (h : Chain fmt m blockLength ndp ds) :
    Chain fmt m' blockLength ndp ds := by
  induction h with
  | last => exact .last
  | refused hne hvalidate => exact .refused hne (validateNdp_below hm _ hvalidate)
  | table htable hne _ ih => exact .table (htable.extends hm) hne ih

/-- The header gives the block length, it is not left out. -/
def GivesBlockLength (fmt : NtbFormat) (bytes : List UInt8) : Prop :=
  ∃ stored, 0 < stored ∧ readLe (ofBytes bytes) NtbFormat.nthBlockLengthAt fmt.ptrSize = .ok stored

/-- An NTB that gives its length keeps its datagrams when there are more bytes behind it. -/
theorem Walk.extends {bytes' : List UInt8} (h : Walk fmt bytes ds) (hgives : GivesBlockLength fmt bytes)
    (hlonger : bytes <+: bytes') : Walk fmt bytes' ds := by
  obtain ⟨blockLength, first, next, ds0, rest, hheader, htable, hchain, rfl⟩ := h
  have hm := extends_ofBytes hlonger
  have hlen := hlonger.length_le
  obtain ⟨stored, hpos, hgiven⟩ := hgives
  obtain ⟨hfits, hsignature, hheaderLength, ⟨stored', hstored, hle, hblock⟩, hfirst⟩ := hheader
  rw [hgiven] at hstored
  cases hstored
  refine ⟨blockLength, first, next, ds0, rest, ⟨by omega, hm.readLe _ _ _ hsignature,
    hm.readLe _ _ _ hheaderLength, ⟨stored, hm.readLe _ _ _ hgiven, by omega, ?_⟩,
    hm.readLe _ _ _ hfirst⟩, htable.extends hm, hchain.extends hm, rfl⟩
  rw [hblock, if_pos hpos, if_pos hpos]

end Longer

namespace NcmTransferBlock

variable {tb tb' : NcmTransferBlock}

/-! ## What the calls return -/

/-- The calls from `tb` on return these datagrams, and then one returns none. -/
inductive Yields : NcmTransferBlock → List DatagramPointer → Prop
  | done {tb tb' : NcmTransferBlock} {status : NtStatus} {d : DatagramPointer} :
    getNextDatagram 64 tb = .ok (status, d, tb') → status ≠ .success → Yields tb []
  | datagram {tb tb' : NcmTransferBlock} {d : DatagramPointer} {ds : List DatagramPointer} :
    getNextDatagram 64 tb = .ok (.success, d, tb') → Yields tb' ds → Yields tb (d :: ds)

theorem getNextNdp_buffer {status : NtStatus} (h : getNextNdp 64 tb = .ok (status, tb')) :
    tb'.format = tb.format ∧ tb'.buffer = tb.buffer := by
  unfold getNextNdp at h
  split at h
  · cases h; exact ⟨rfl, rfl⟩
  · obtain ⟨result, -, h⟩ := bind_eq_ok.mp h
    split at h <;> (cases h; exact ⟨rfl, rfl⟩)

theorem getNextDatagram_buffer {status : NtStatus}
    (h : getNextDatagram 64 tb = .ok (status, d, tb')) :
    tb'.format = tb.format ∧ tb'.buffer = tb.buffer := by
  unfold getNextDatagram at h
  split at h
  · obtain ⟨⟨status1, tb1⟩, h1, h⟩ := bind_eq_ok.mp h
    have heq := getNextNdp_buffer h1
    dsimp only at h
    split at h
    · cases h; exact heq
    · obtain ⟨datagram, -, h⟩ := bind_eq_ok.mp h
      cases h; exact heq
  · simp only [pure, Except.pure, ok_bind, ne_eq, not_true_eq_false, if_false] at h
    obtain ⟨datagram, -, h⟩ := bind_eq_ok.mp h
    cases h; exact ⟨rfl, rfl⟩

/-- `Yields` from the end of a table is what the links lead to, so from inside it the entries that
are left come first. -/
theorem AtTable.yields_drop (h : tb.AtTable fmt m blockLength ds)
    (hend : ∀ tb' : NcmTransferBlock, tb'.AtTable fmt m blockLength ds →
      tb'.currentNdpDatagramIndex = ds.length → tb'.nextNdpIndex = tb.nextNdpIndex →
        Yields tb' rest) :
    Yields tb (ds.drop tb.currentNdpDatagramIndex ++ rest) := by
  generalize hn : ds.length - tb.currentNdpDatagramIndex = n
  have hle := h.index_le
  induction n generalizing tb with
  | zero =>
    have hindex : tb.currentNdpDatagramIndex = ds.length := by omega
    rw [hindex, List.drop_length, List.nil_append]
    exact hend tb h hindex rfl
  | succ n ih =>
    obtain ⟨hcall, hindex, hat⟩ := h.getNextDatagram_entry (by omega)
    rw [List.drop_eq_getElem_cons (by omega), List.cons_append]
    refine .datagram hcall ?_
    rw [← hindex]
    exact ih hat hend (by omega) hat.index_le

/-- From inside a checked table, links that end give the entries of all tables. -/
theorem AtTable.yields_of_chain (h : tb.AtTable fmt m blockLength ds)
    (hchain : Chain fmt m blockLength tb.nextNdpIndex rest) :
    Yields tb (ds.drop tb.currentNdpDatagramIndex ++ rest) := by
  generalize hndp : tb.nextNdpIndex = ndp at hchain
  induction hchain generalizing tb ds with
  | last =>
    apply h.yields_drop
    intro tb' hat hindex hnext
    exact .done (hat.getNextDatagram_fails hindex
      (getNextNdp_of_zero (hnext.trans hndp)) (by decide)) (by decide)
  | refused hne hvalidate =>
    apply h.yields_drop
    intro tb' hat hindex hnext
    have hlink := hnext.trans hndp
    obtain ⟨tb2, hbad⟩ : ∃ tb2, getNextNdp 64 tb' = .ok (.badData, tb2) :=
      getNextNdp_of_none (by rw [hlink]; exact hne)
        (by rw [hat.format_eq, hat.buffer_eq, hat.blockLength_eq, hlink]; exact hvalidate)
    exact .done (hat.getNextDatagram_fails hindex hbad (by decide)) (by decide)
  | @table ndp next ds' rest htable hne _ ih =>
    apply h.yields_drop
    intro tb' hat hindex hnext
    obtain ⟨d, ds', rfl⟩ := List.exists_cons_of_ne_nil hne
    rw [← hndp, ← hnext] at htable
    obtain ⟨hcall, hone, hat'⟩ := hat.getNextDatagram_next hindex htable
    have hrest := ih hat' rfl
    rw [hone] at hrest
    exact .datagram hcall hrest

/-! ## Past the end of a table -/

/-- Once the index is past the count, no call ends the table any more. -/
structure Runaway (m : Memory) (tb : NcmTransferBlock) : Prop where
  buffer_eq : tb.buffer = m
  index_gt : tb.currentNdpDatagramCount < tb.currentNdpDatagramIndex

theorem Runaway.not_yields (hm : ∀ a, (m a).isSome → a < 2 ^ 31) (h : tb.Runaway m) :
    ¬ Yields tb ds := by
  intro hyields
  induction hyields with
  | @done tb tb' status d hcall hstatus =>
    unfold getNextDatagram at hcall
    rw [if_neg (Nat.ne_of_gt h.index_gt)] at hcall
    simp only [pure, Except.pure, ok_bind, ne_eq, not_true_eq_false, if_false] at hcall
    obtain ⟨datagram, -, hcall⟩ := bind_eq_ok.mp hcall
    cases hcall
    exact hstatus rfl
  | @datagram tb tb' d ds hcall _ ih =>
    unfold getNextDatagram at hcall
    rw [if_neg (Nat.ne_of_gt h.index_gt)] at hcall
    simp only [pure, Except.pure, ok_bind, ne_eq, not_true_eq_false, if_false] at hcall
    obtain ⟨datagram, hdatagram, hcall⟩ := bind_eq_ok.mp hcall
    cases hcall
    -- an entry that could be read is in the buffer, so the index does not wrap
    obtain ⟨datagramIndex, hread, -⟩ := bind_eq_ok.mp hdatagram
    have hs := tb.format.sizes
    have hmapped := isSome_of_readLe hread _ (Nat.le_refl _) (by omega)
    rw [h.buffer_eq] at hmapped
    have hlt := hm _ hmapped
    have hindex : (tb.currentNdpDatagramIndex + 1) % 2 ^ 32 = tb.currentNdpDatagramIndex + 1 := by
      rcases hs with hs | hs <;> (rw [hs.2.2.2.1] at hlt; omega)
    apply ih
    have hgt := h.index_gt
    refine ⟨h.buffer_eq, ?_⟩
    unfold advanceCursor
    dsimp only
    omega

/-- The calls return none at last only when the links end. -/
theorem AtTable.chain_of_yields (hm : ∀ a, (m a).isSome → a < 2 ^ 31)
    (hblock : blockLength < 2 ^ 31) (h : tb.AtTable fmt m blockLength ds)
    {all : List DatagramPointer} (hyields : Yields tb all) :
    ∃ rest, Chain fmt m blockLength tb.nextNdpIndex rest ∧
      all = ds.drop tb.currentNdpDatagramIndex ++ rest := by
  induction hyields generalizing ds with
  | @done tb tb' status d hcall hstatus =>
    rcases Nat.lt_or_eq_of_le h.index_le with hlt | hindex
    · rw [(h.getNextDatagram_entry hlt).1] at hcall
      cases hcall
      exact absurd rfl hstatus
    · rw [hindex, List.drop_length]
      unfold getNextDatagram at hcall
      rw [if_pos (hindex.trans h.count.symm)] at hcall
      obtain ⟨⟨status1, tb1⟩, hnext, hcall⟩ := bind_eq_ok.mp hcall
      obtain ⟨rfl, rfl, rfl, -, -, -, -, -⟩ := h
      rcases getNextNdp_cases hnext with ⟨hz, -, -⟩ | ⟨hne, -, hvalidate⟩ | ⟨-, rfl, -⟩
      · exact ⟨[], hz ▸ .last, rfl⟩
      · exact ⟨[], .refused hne hvalidate, rfl⟩
      · simp only [ne_eq, not_true_eq_false, if_false] at hcall
        obtain ⟨datagram, -, hcall⟩ := bind_eq_ok.mp hcall
        cases hcall
        exact absurd rfl hstatus
  | @datagram tb tb' d all hcall hyields ih =>
    rcases Nat.lt_or_eq_of_le h.index_le with hlt | hindex
    · obtain ⟨hcall', hnext, hat⟩ := h.getNextDatagram_entry hlt
      rw [hcall'] at hcall
      cases hcall
      obtain ⟨rest, hchain, rfl⟩ := ih hat
      refine ⟨rest, hchain, ?_⟩
      rw [hnext, List.drop_eq_getElem_cons hlt, List.cons_append]
    · obtain ⟨ds', next, htable⟩ := h.table_of_getNextDatagram hblock hindex hcall
      cases ds' with
      | nil =>
        obtain ⟨d', hcall'⟩ := h.getNextDatagram_empty hindex htable
        rw [hcall'] at hcall
        cases hcall
        exact absurd hyields (Runaway.not_yields hm ⟨h.buffer_eq, Nat.zero_lt_one⟩)
      | cons d' ds' =>
        obtain ⟨hcall', hone, hat⟩ := h.getNextDatagram_next hindex htable
        rw [hcall'] at hcall
        cases hcall
        obtain ⟨rest, hchain, rfl⟩ := ih hat
        rw [hone, hindex, List.drop_length]
        exact ⟨d :: ds' ++ rest, .table htable (List.cons_ne_nil _ _) hchain, rfl⟩

/-! ## A received buffer -/

theorem reInitializeBuffer_buffer {status : NtStatus} {bufferLength : Nat}
    (h : reInitializeBuffer 64 tb m bufferLength .rx = .ok (status, tb')) :
    tb'.format = tb.format ∧ tb'.buffer = m := by
  unfold reInitializeBuffer prepareToParse at h
  obtain ⟨result, -, h⟩ := bind_eq_ok.mp h
  cases result with
  | none => cases h; exact ⟨rfl, rfl⟩
  | some result => exact getNextNdp_buffer h

theorem reInitializeBuffer_rejects_iff {bytes : List UInt8} :
    (∃ status tb', reInitializeBuffer 64 tb (ofBytes bytes) bytes.length .rx = .ok (status, tb') ∧
      status ≠ .success) ↔ Rejected tb.format bytes := by
  constructor
  · rintro ⟨status, tb', h, hstatus⟩
    rcases reInitializeBuffer_rx_cases h with ⟨-, hnone⟩ | ⟨blockLength, first, hheader, hnext⟩
    · exact Or.inl hnone
    · rcases getNextNdp_cases hnext with ⟨hz, -, -⟩ | ⟨-, -, hvalidate⟩ | ⟨-, hc, -⟩
      · exact Or.inr ⟨blockLength, first, hheader, Or.inl hz⟩
      · exact Or.inr ⟨blockLength, first, hheader, Or.inr hvalidate⟩
      · exact absurd hc hstatus
  · rintro (hnone | ⟨blockLength, first, hheader, hfirst⟩)
    · have hclear : validateNth tb.clearBlock.format (ofBytes bytes) bytes.length = .ok none := hnone
      unfold reInitializeBuffer prepareToParse
      simp only [hclear, ok_bind]
      exact ⟨_, _, rfl, by decide⟩
    · rw [reInitializeBuffer_of_header hheader]
      by_cases hz : first = 0
      · exact ⟨_, _, getNextNdp_of_zero hz, by decide⟩
      · obtain ⟨tb', hbad⟩ : ∃ tb', getNextNdp 64
            (tb.opened (ofBytes bytes) bytes.length blockLength first) = .ok (.badData, tb') :=
          getNextNdp_of_none hz (hfirst.resolve_left hz)
        exact ⟨_, _, hbad, by decide⟩

theorem walk_iff {bytes : List UInt8} (hlen : bytes.length < 2 ^ 31) :
    (∃ tb', reInitializeBuffer 64 tb (ofBytes bytes) bytes.length .rx = .ok (.success, tb') ∧
      Yields tb' ds) ↔ Walk tb.format bytes ds := by
  constructor
  · rintro ⟨tb', h, hyields⟩
    obtain ⟨blockLength, first, ds0, next, hheader, htable, rfl⟩ :=
      table_of_reInitializeBuffer hlen h
    have hblock : blockLength < 2 ^ 31 := Nat.lt_of_le_of_lt hheader.block_le hlen
    have hat := (reInitializeBuffer_of_table (Nat.lt_trans hblock (by decide))
      (mapped_ofBytes bytes) hheader htable).2
    obtain ⟨rest, hchain, rfl⟩ := hat.chain_of_yields
      (fun a ha => Nat.lt_trans (lt_of_ofBytes_isSome ha) hlen) hblock hyields
    exact ⟨blockLength, first, next, ds0, rest, hheader, htable, hchain, rfl⟩
  · rintro ⟨blockLength, first, next, ds0, rest, hheader, htable, hchain, rfl⟩
    have hblock : blockLength < 2 ^ 32 :=
      Nat.lt_trans (Nat.lt_of_le_of_lt hheader.block_le hlen) (by decide)
    obtain ⟨h, hat⟩ := reInitializeBuffer_of_table hblock (mapped_ofBytes bytes) hheader htable
    exact ⟨_, h, hat.yields_of_chain hchain⟩

end NcmTransferBlock

end UsbNcm.Ntb
