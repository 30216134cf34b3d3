import UsbNcm.Ntb.ParserReads

/-!
# `GetNextNdp` accepts the well-formed tables

A well-formed table in plain terms: a first null entry within the length of the NDP, and only
datagrams of the block in front of it. Where the length cuts no entry, the call never runs out of
the buffer, and it succeeds on these tables alone.
-/

open Exec ByteMemory

namespace UsbNcm.Ntb

def entryAddress (fmt : NtbFormat) (ndp k : Nat) : Nat := ndp + fmt.sizeofNdp + k * fmt.sizeofDpe

/-- Entry `k` is the first null entry of a table of `length` bytes, and those in front of it are
datagrams of the block. -/
structure FirstNull (fmt : NtbFormat) (m : Memory) (blockLength ndp length k : Nat) : Prop where
  in_table : fmt.sizeofNdp + (k + 1) * fmt.sizeofDpe ≤ length
  null : ∃ d, EntryAt fmt m (entryAddress fmt ndp k) d ∧
    (d.datagramIndex = 0 ∨ d.datagramLength = 0)
  before : ∀ j < k, ∃ d, EntryAt fmt m (entryAddress fmt ndp j) d ∧
    d.datagramIndex ≠ 0 ∧ d.datagramLength ≠ 0 ∧ fmt.sizeofNth ≤ d.datagramIndex ∧
    d.datagramIndex + d.datagramLength ≤ blockLength

structure WellFormedTable (fmt : NtbFormat) (m : Memory) (blockLength ndp next k : Nat) :
    Prop where
  index_ge : fmt.sizeofNth ≤ ndp
  smallest_le : ndp + fmt.minDptSize ≤ blockLength
  signature : readLe m ndp 4 = .ok fmt.ndpSignature
  table : ∃ length, readLe m (ndp + NtbFormat.ndpLengthAt) 2 = .ok length ∧
    fmt.minDptSize ≤ length ∧ 4 ∣ length ∧ ndp + length ≤ blockLength ∧
    FirstNull fmt m blockLength ndp length k
  link : readLe m (ndp + fmt.ndpNextNdpIndexAt) fmt.ptrSize = .ok next
  link_fits : next = 0 ∨ fmt.sizeofNth ≤ next ∧ next + fmt.minDptSize ≤ blockLength

variable {fmt : NtbFormat} {m : Memory} {blockLength ndp length next k : Nat}

theorem exists_list_of_forall {α : Type} {P : Nat → α → Prop} (h : ∀ j < k, ∃ a, P j a) :
    ∃ as : List α, as.length = k ∧ ∀ j, (hj : j < as.length) → P j as[j] := by
  induction k with
  | zero => exact ⟨[], rfl, fun j hj => absurd hj (Nat.not_lt_zero j)⟩
  | succ k ih =>
    obtain ⟨as, hlen, has⟩ := ih fun j hj => h j (by omega)
    obtain ⟨a, ha⟩ := h k (by omega)
    refine ⟨as ++ [a], by simp [hlen], fun j hj => ?_⟩
    rw [List.length_append, List.length_singleton] at hj
    rcases Nat.lt_or_ge j as.length with hlt | hge
    · rw [List.getElem_append_left hlt]
      exact has j hlt
    · obtain rfl : j = as.length := by omega
      rw [List.getElem_concat_length rfl, hlen]
      exact ha

/-- The table in plain terms, against the entries that the scan goes over. -/
theorem firstNull_iff (hmapped : ∀ a < ndp + length, (m a).isSome)
    (hlength : length % fmt.sizeofDpe = 0) :
    FirstNull fmt m blockLength ndp length k ↔
      ∃ ds, Entries fmt m blockLength (ndp + length) (ndp + fmt.sizeofNdp) ds ∧ ds.length = k := by
  have hs := fmt.sizes
  constructor
  · rintro ⟨hin, ⟨d, hentry, hz⟩, hbefore⟩
    obtain ⟨ds, rfl, hds⟩ := exists_list_of_forall hbefore
    rw [Nat.succ_mul] at hin
    refine ⟨ds, .of_get (fun j hj => ?_) ?_ (by omega), rfl⟩
    · obtain ⟨hentry, -, hne, hge, hle⟩ := hds j hj
      exact ⟨hentry, hge, Nat.pos_of_ne_zero hne, hle⟩
    · exact ⟨_, hentry.1, hz.imp_right fun h => by rw [← h]; exact hentry.2⟩
  · rintro ⟨ds, hds, rfl⟩
    obtain ⟨hlt, datagramIndex, hindex, hz⟩ := hds.null_at
    have hin : fmt.sizeofNdp + (ds.length + 1) * fmt.sizeofDpe ≤ length := by
      rw [Nat.succ_mul]
      rcases hs with hs | hs <;>
        (simp only [hs.2.2.1, hs.2.2.2.1] at hlt hlength ⊢; omega)
    have hend : (ds.length + 1) * fmt.sizeofDpe = ds.length * fmt.sizeofDpe + fmt.sizeofDpe :=
      Nat.succ_mul _ _
    refine ⟨hin, ?_, fun j hj => ?_⟩
    · obtain ⟨datagramLength, hread⟩ := readLe_ok (m := m)
        (a := entryAddress fmt ndp ds.length + fmt.ptrSize) (n := fmt.ptrSize)
        (fun i _ hi => hmapped i (by unfold entryAddress at hi; omega))
      refine ⟨⟨datagramIndex, datagramLength⟩, ⟨hindex, hread⟩, hz.imp_right fun h => ?_⟩
      exact Except.ok.inj (hread.symm.trans h)
    · obtain ⟨hentry, hge, hpos, hle⟩ := hds.get hj
      exact ⟨ds[j], hentry, by omega, by omega, hge, hle⟩

theorem wellFormedTable_iff (hmapped : ∀ a < blockLength, (m a).isSome)
    (hlength : ∀ length, readLe m (ndp + NtbFormat.ndpLengthAt) 2 = .ok length →
      length % 4 = 0 → length % fmt.sizeofDpe = 0) :
    WellFormedTable fmt m blockLength ndp next k ↔
      ∃ ds, NdpTable fmt m blockLength ndp ds next ∧ ds.length = k := by
  constructor
  · rintro ⟨hge, hsmallest, hsignature, ⟨length, hfield, hmin, hmod, hle, hnull⟩, hlink, hlinkFits⟩
    have hmod := Nat.mod_eq_zero_of_dvd hmod
    obtain ⟨ds, hds, hcount⟩ := (firstNull_iff (fun a ha => hmapped a (by omega))
      (hlength length hfield hmod)).mp hnull
    exact ⟨ds, ⟨⟨hge, hsmallest⟩, hsignature, ⟨length, hfield, hmin, hmod, hle, hds⟩, hlink,
      hlinkFits⟩, hcount⟩
  · rintro ⟨ds, ⟨hfits, hsignature, ⟨length, hfield, hmin, hmod, hle, hds⟩, hlink, hlinkFits⟩, hcount⟩
    have hnull := (firstNull_iff (fun a ha => hmapped a (by omega))
      (hlength length hfield hmod)).mpr ⟨ds, hds, hcount⟩
    exact ⟨hfits.1, hfits.2, hsignature,
      ⟨length, hfield, hmin, Nat.dvd_of_mod_eq_zero hmod, hle, hnull⟩, hlink, hlinkFits⟩

/-! ## The call returns -/

theorem scanTable_ok {fuel offset count : Nat} (hmapped : ∀ a < ndp + length, (m a).isSome)
    (hwhole : ∀ offset', offset' < length → offset' % fmt.sizeofDpe = offset % fmt.sizeofDpe →
      offset' + fmt.sizeofDpe ≤ length) :
    ∃ scanned, scanTable fmt m blockLength ndp length fuel offset count = .ok scanned := by
  have hs := fmt.sizes
  induction fuel generalizing offset count with
  | zero => exact ⟨none, rfl⟩
  | succ fuel ih =>
    unfold scanTable
    split
    · next hlt =>
      have hend := hwhole offset hlt rfl
      obtain ⟨datagramIndex, hindex⟩ := readLe_ok (m := m) (a := ndp + offset) (n := fmt.ptrSize)
        (fun i _ hi => hmapped i (by omega))
      obtain ⟨datagramLength, hread⟩ := readLe_ok (m := m) (a := ndp + offset + fmt.ptrSize)
        (n := fmt.ptrSize) (fun i _ hi => hmapped i (by omega))
      simp only [hindex, hread, ok_bind]
      have hnext := @ih (offset + fmt.sizeofDpe) (count + 1)
        (fun offset' hlt hmod => hwhole offset' hlt (by rw [hmod, Nat.add_mod_right]))
      repeat' split
      · exact ⟨_, rfl⟩
      · exact ⟨_, rfl⟩
      · exact ⟨_, rfl⟩
      · exact hnext
    · exact ⟨none, rfl⟩

theorem validateNdp_ok (hblock : blockLength < 2 ^ 31) (hndp : ndp < 2 ^ 32)
    (hmapped : ∀ a < blockLength, (m a).isSome)
    (hlength : ∀ length, readLe m (ndp + NtbFormat.ndpLengthAt) 2 = .ok length →
      length % 4 = 0 → length % fmt.sizeofDpe = 0) :
    ∃ result, validateNdp 64 fmt m blockLength ndp = .ok result := by
  have hs := fmt.sizes
  have hblock' : blockLength < 2 ^ 32 := by omega
  unfold validateNdp
  split
  · exact ⟨none, rfl⟩
  next hfits =>
  have hfits := (tableFits_iff hblock' hndp).mp hfits
  have hend := hfits.2
  unfold NtbFormat.minDptSize at hend
  have hread : ∀ a n, a + n ≤ 16 → a + n ≤ fmt.sizeofNdp + fmt.sizeofDpe →
      ∃ v, readLe m (ndp + a) n = .ok v :=
    fun a n _ hle => readLe_ok fun i _ hi => hmapped i (by omega)
  obtain ⟨signature, hsignature⟩ := hread 0 4 (by omega) (by omega)
  obtain ⟨length, hfield⟩ := hread NtbFormat.ndpLengthAt 2 (by decide)
    (by unfold NtbFormat.ndpLengthAt; omega)
  obtain ⟨next, hlink⟩ := hread fmt.ndpNextNdpIndexAt fmt.ptrSize (by omega) (by omega)
  simp only [Nat.add_zero] at hsignature
  simp only [hsignature, hfield, hlink, ok_bind]
  split
  · exact ⟨none, rfl⟩
  split
  · exact ⟨none, rfl⟩
  next hok =>
  obtain ⟨hmin, hmod, hle⟩ := (lengthFits_iff hblock hfits (readLe_lt hfield)).mp hok
  split
  · exact ⟨none, rfl⟩
  have hmod' := hlength length hfield hmod
  obtain ⟨scanned, hscan⟩ : ∃ scanned,
      scanTable fmt m blockLength ndp length length fmt.sizeofNdp 0 = .ok scanned := by
    apply scanTable_ok fun a ha => hmapped a (by omega)
    intro offset' hlt hoffset
    rcases hs with hs | hs <;>
      (simp only [hs.2.2.1, hs.2.2.2.1] at hmod' hoffset ⊢; omega)
  rw [hscan]
  cases scanned with
  | none => exact ⟨_, rfl⟩
  | some count => exact ⟨_, rfl⟩

namespace NcmTransferBlock

variable {tb : NcmTransferBlock} {bytes : List UInt8}

theorem getNextNdp_refused (hne : tb.nextNdpIndex ≠ 0)
    (h : validateNdp 64 tb.format tb.buffer tb.blockLength tb.nextNdpIndex = .ok none) :
    getNextNdp 64 tb =
      .ok (.badData, { tb with currentNdpDatagramIndex := 0, currentNdpDatagramCount := 0 }) := by
  unfold getNextNdp
  simp only [if_neg hne, h, ok_bind]
  rfl

/-- The call succeeds on the well-formed tables, with the first null entry as its count, and fails
on all others. It then exposes no datagram, and fails again. -/
theorem getNextNdp_wellFormed (bytes : List UInt8) (hlen : bytes.length < 2 ^ 31)
    (tb : NcmTransferBlock) (hbuffer : tb.buffer = ofBytes bytes)
    (hblock : tb.blockLength ≤ bytes.length) (hne : tb.nextNdpIndex ≠ 0)
    (hndp : tb.nextNdpIndex < 2 ^ 32)
    (hlength : tb.format = .ntb32 → ∀ length,
      readLe tb.buffer (tb.nextNdpIndex + NtbFormat.ndpLengthAt) 2 = .ok length → length % 8 = 0) :
    ∃ status tb', getNextNdp 64 tb = .ok (status, tb') ∧
      (status = .success ↔ ∃ next k,
        WellFormedTable tb.format tb.buffer tb.blockLength tb.nextNdpIndex next k) ∧
      (∀ next k, WellFormedTable tb.format tb.buffer tb.blockLength tb.nextNdpIndex next k →
        tb' = { tb with
          currentNdpIndex := tb.nextNdpIndex
          nextNdpIndex := next
          currentNdpDatagramIndex := 0
          currentNdpDatagramCount := k }) ∧
      (status ≠ .success → status = .badData ∧
        tb' = { tb with currentNdpDatagramIndex := 0, currentNdpDatagramCount := 0 } ∧
        getNextNdp 64 tb' = .ok (.badData, tb')) := by
  have hlt : tb.blockLength < 2 ^ 31 := by omega
  have hmapped : ∀ a < tb.blockLength, (tb.buffer a).isSome := by
    intro a ha
    rw [hbuffer]
    exact mapped_ofBytes bytes a (by omega)
  have hmod : ∀ length,
      readLe tb.buffer (tb.nextNdpIndex + NtbFormat.ndpLengthAt) 2 = .ok length →
      length % 4 = 0 → length % tb.format.sizeofDpe = 0 := by
    intro length hfield hmod
    cases hfmt : tb.format with
    | ntb16 => exact hmod
    | ntb32 => exact hlength hfmt length hfield
  have htable : ∀ next k,
      WellFormedTable tb.format tb.buffer tb.blockLength tb.nextNdpIndex next k ↔
      ∃ ds, NdpTable tb.format tb.buffer tb.blockLength tb.nextNdpIndex ds next ∧ ds.length = k :=
    fun next k => wellFormedTable_iff hmapped hmod
  obtain ⟨result, hvalidate⟩ := validateNdp_ok hlt hndp hmapped hmod
  cases result with
  | none =>
    have hno : ∀ next k,
        ¬ WellFormedTable tb.format tb.buffer tb.blockLength tb.nextNdpIndex next k := by
      intro next k h
      obtain ⟨ds, hds, -⟩ := (htable next k).mp h
      rw [validateNdp_of_table (by omega) hndp hds] at hvalidate
      cases hvalidate
    refine ⟨_, _, getNextNdp_refused hne hvalidate, ?_, ?_, fun _ => ⟨rfl, rfl, ?_⟩⟩
    · exact iff_of_false (by decide) fun ⟨next, k, h⟩ => hno next k h
    · exact fun next k h => absurd h (hno next k)
    · exact getNextNdp_refused hne hvalidate
  | some result =>
    obtain ⟨next, count⟩ := result
    obtain ⟨ds, hds, rfl⟩ := table_of_validateNdp hlt hndp hvalidate
    refine ⟨_, _, getNextNdp_of_some hne hvalidate, ?_, ?_, fun h => absurd rfl h⟩
    · exact iff_of_true rfl ⟨next, ds.length, (htable next _).mpr ⟨ds, hds, rfl⟩⟩
    · intro next' k h
      obtain ⟨ds', hds', rfl⟩ := (htable next' k).mp h
      obtain ⟨rfl, rfl⟩ := hds.unique hds'
      rfl

/-- The first table of `linkedEmptyTable`, which has one entry. -/
theorem getNextNdp_wellFormed_linkedEmptyTable :
    ∃ status tb', getNextNdp 64 ((initialBlock 16 4 4 0 false).headed (ofBytes linkedEmptyTable)
        44 44 12) = .ok (status, tb') ∧
      (status = .success ↔ ∃ next k, WellFormedTable .ntb16 (ofBytes linkedEmptyTable) 44 12 next k) := by
  obtain ⟨status, tb', hcall, hiff, -⟩ := getNextNdp_wellFormed linkedEmptyTable (by decide)
    ((initialBlock 16 4 4 0 false).headed (ofBytes linkedEmptyTable) 44 44 12) rfl (by decide)
    (by decide) (by decide) (by intro h; cases h)
  exact ⟨status, tb', hcall, hiff⟩

end NcmTransferBlock

end UsbNcm.Ntb
