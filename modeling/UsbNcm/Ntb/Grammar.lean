import UsbNcm.Ntb.TransferBlock

/-!
# The tables that `GetNextNdp` accepts

What a well-formed datagram pointer table is, said about the bytes of a block, and the parser
against it.
-/

open Exec ByteMemory

namespace UsbNcm.Ntb

variable {fmt : NtbFormat} {m : Memory} {blockLength stop a ndp next : Nat}
  {d : DatagramPointer} {ds ds' : List DatagramPointer}

def EntryAt (fmt : NtbFormat) (m : Memory) (a : Nat) (d : DatagramPointer) : Prop :=
  readLe m a fmt.ptrSize = .ok d.datagramIndex ∧
    readLe m (a + fmt.ptrSize) fmt.ptrSize = .ok d.datagramLength

/-- An entry that ends the table. Its length is not looked at when its index is zero. -/
def NullAt (fmt : NtbFormat) (m : Memory) (a : Nat) : Prop :=
  ∃ datagramIndex, readLe m a fmt.ptrSize = .ok datagramIndex ∧
    (datagramIndex = 0 ∨ readLe m (a + fmt.ptrSize) fmt.ptrSize = .ok 0)

/-- A datagram that is not empty and lies in the block, behind the header. -/
def DatagramPointer.InBlock (fmt : NtbFormat) (blockLength : Nat) (d : DatagramPointer) : Prop :=
  fmt.sizeofNth ≤ d.datagramIndex ∧ 0 < d.datagramLength ∧
    d.datagramIndex + d.datagramLength ≤ blockLength

/-- The entries from `a` on, up to a null entry. Each of them, the null entry too, starts before
`stop`. -/
inductive Entries (fmt : NtbFormat) (m : Memory) (blockLength stop : Nat) :
    Nat → List DatagramPointer → Prop
  | null {a : Nat} : a < stop → NullAt fmt m a → Entries fmt m blockLength stop a []
  | entry {a : Nat} {d : DatagramPointer} {ds : List DatagramPointer} :
    a < stop → EntryAt fmt m a d → d.InBlock fmt blockLength →
      Entries fmt m blockLength stop (a + fmt.sizeofDpe) ds →
      Entries fmt m blockLength stop a (d :: ds)

def TableFits (fmt : NtbFormat) (blockLength ndp : Nat) : Prop :=
  fmt.sizeofNth ≤ ndp ∧ ndp + fmt.minDptSize ≤ blockLength

/-- The table at `ndp`: its header, the entries before the first null entry, and its link. -/
structure NdpTable (fmt : NtbFormat) (m : Memory) (blockLength ndp : Nat)
    (ds : List DatagramPointer) (next : Nat) : Prop where
  fits : TableFits fmt blockLength ndp
  signature : readLe m ndp 4 = .ok fmt.ndpSignature
  body : ∃ length, readLe m (ndp + NtbFormat.ndpLengthAt) 2 = .ok length ∧
    fmt.minDptSize ≤ length ∧ length % 4 = 0 ∧ ndp + length ≤ blockLength ∧
    Entries fmt m blockLength (ndp + length) (ndp + fmt.sizeofNdp) ds
  link : readLe m (ndp + fmt.ndpNextNdpIndexAt) fmt.ptrSize = .ok next
  link_fits : next = 0 ∨ TableFits fmt blockLength next

/-! ## What a table determines -/

theorem EntryAt.not_null (h : EntryAt fmt m a d) (hd : d.InBlock fmt blockLength) :
    ¬ NullAt fmt m a := by
  rintro ⟨datagramIndex, hi, hz⟩
  obtain ⟨h1, h2⟩ := h
  obtain ⟨hge, hpos, -⟩ := hd
  have hs := fmt.sizes
  rw [h1] at hi
  cases hi
  rcases hz with hz | hz
  · omega
  · rw [h2] at hz
    have := Except.ok.inj hz
    omega

theorem Entries.unique (h : Entries fmt m blockLength stop a ds)
    (h' : Entries fmt m blockLength stop a ds') : ds = ds' := by
  induction h generalizing ds' with
  | null _ hnull =>
    cases h' with
    | null _ _ => rfl
    | entry _ he hd _ => exact absurd hnull (he.not_null hd)
  | entry _ he hd _ ih =>
    cases h' with
    | null _ hnull => exact absurd hnull (he.not_null hd)
    | entry _ he' _ hrest =>
      obtain ⟨h1, h2⟩ := he
      obtain ⟨h1', h2'⟩ := he'
      rw [h1] at h1'
      rw [h2] at h2'
      rw [ih hrest]
      congr 1
      exact DatagramPointer.ext (Except.ok.inj h1') (Except.ok.inj h2')

theorem NdpTable.unique {next' : Nat} (h : NdpTable fmt m blockLength ndp ds next)
    (h' : NdpTable fmt m blockLength ndp ds' next') : ds = ds' ∧ next = next' := by
  obtain ⟨length, hl, -, -, -, hds⟩ := h.body
  obtain ⟨length', hl', -, -, -, hds'⟩ := h'.body
  have hlink := h.link
  rw [hl] at hl'
  cases hl'
  rw [h'.link] at hlink
  cases hlink
  exact ⟨hds.unique hds', rfl⟩

theorem Entries.get (h : Entries fmt m blockLength stop a ds) {i : Nat} (hi : i < ds.length) :
    EntryAt fmt m (a + i * fmt.sizeofDpe) ds[i] ∧ ds[i].InBlock fmt blockLength := by
  induction h generalizing i with
  | null => simp at hi
  | @entry a d ds _ he hd _ ih =>
    cases i with
    | zero => simpa using ⟨he, hd⟩
    | succ i =>
      have := ih (i := i) (by simpa using hi)
      rw [List.getElem_cons_succ, show a + (i + 1) * fmt.sizeofDpe =
        a + fmt.sizeofDpe + i * fmt.sizeofDpe by rw [Nat.succ_mul]; omega]
      exact this

/-- The null entry comes behind the others, and before the end of the table. -/
theorem Entries.null_at (h : Entries fmt m blockLength stop a ds) :
    a + ds.length * fmt.sizeofDpe < stop ∧ NullAt fmt m (a + ds.length * fmt.sizeofDpe) := by
  induction h with
  | null hlt hnull => simpa using ⟨hlt, hnull⟩
  | @entry a d ds _ _ _ _ ih =>
    rw [List.length_cons, show a + (ds.length + 1) * fmt.sizeofDpe =
      a + fmt.sizeofDpe + ds.length * fmt.sizeofDpe by rw [Nat.succ_mul]; omega]
    exact ih

theorem Entries.of_get (hentry : ∀ i, (h : i < ds.length) →
      EntryAt fmt m (a + i * fmt.sizeofDpe) ds[i] ∧ ds[i].InBlock fmt blockLength)
    (hnull : NullAt fmt m (a + ds.length * fmt.sizeofDpe))
    (hstop : a + ds.length * fmt.sizeofDpe < stop) : Entries fmt m blockLength stop a ds := by
  induction ds generalizing a with
  | nil =>
    simp only [List.length_nil, Nat.zero_mul, Nat.add_zero] at hnull hstop
    exact .null hstop hnull
  | cons d ds ih =>
    obtain ⟨hfirst, hin⟩ := hentry 0 (Nat.succ_pos _)
    simp only [Nat.zero_mul, Nat.add_zero, List.getElem_cons_zero] at hfirst hin
    have hnext : ∀ i, a + (i + 1) * fmt.sizeofDpe = a + fmt.sizeofDpe + i * fmt.sizeofDpe := by
      intro i
      rw [Nat.succ_mul]
      omega
    rw [List.length_cons, hnext] at hnull hstop
    refine .entry (by omega) hfirst hin (ih ?_ hnull hstop)
    intro i hi
    have := hentry (i + 1) (by simpa using hi)
    rwa [hnext, List.getElem_cons_succ] at this

theorem NdpTable.entry (h : NdpTable fmt m blockLength ndp ds next) {i : Nat} (hi : i < ds.length) :
    EntryAt fmt m (ndp + fmt.sizeofNdp + i * fmt.sizeofDpe) ds[i] ∧
      ds[i].InBlock fmt blockLength := by
  obtain ⟨length, -, -, -, -, hds⟩ := h.body
  exact hds.get hi

/-- The length field has 16 bits, which bounds the number of entries. -/
theorem NdpTable.length_lt (h : NdpTable fmt m blockLength ndp ds next) :
    fmt.sizeofNdp + ds.length * fmt.sizeofDpe < 2 ^ 16 ∧
      ndp + fmt.sizeofNdp + ds.length * fmt.sizeofDpe < blockLength := by
  obtain ⟨length, hl, -, -, hle, hds⟩ := h.body
  have hlt := readLe_lt hl
  have hnull := hds.null_at.1
  omega

theorem readLe_ptr_lt (h : readLe m a fmt.ptrSize = .ok next) : next < 2 ^ 32 :=
  fmt.lt_of_ptrSize (readLe_lt h)

theorem NdpTable.next_lt (h : NdpTable fmt m blockLength ndp ds next) : next < 2 ^ 32 :=
  readLe_ptr_lt h.link

/-! ## The checks of the parser -/

theorem entries_of_scanTable {length fuel offset c k : Nat}
    (h : scanTable fmt m blockLength ndp length fuel offset c = .ok (some k)) :
    ∃ ds, Entries fmt m blockLength (ndp + length) (ndp + offset) ds ∧ k = c + ds.length := by
  induction fuel generalizing offset c with
  | zero => cases h
  | succ fuel ih =>
    unfold scanTable at h
    split at h
    next hlt =>
      obtain ⟨datagramIndex, hi, h⟩ := bind_eq_ok.mp h
      split at h
      next hz =>
        cases h
        exact ⟨[], .null (by omega) ⟨_, hi, Or.inl hz⟩, rfl⟩
      next hnz =>
        obtain ⟨datagramLength, hl, h⟩ := bind_eq_ok.mp h
        split at h
        next hz =>
          cases h
          exact ⟨[], .null (by omega) ⟨_, hi, Or.inr (hz ▸ hl)⟩, rfl⟩
        next hnz' =>
          split at h
          next => cases h
          next hok =>
            obtain ⟨ds, hds, hk⟩ := ih h
            have hin : DatagramPointer.InBlock fmt blockLength
                ⟨datagramIndex, datagramLength⟩ := by
              refine ⟨?_, ?_, ?_⟩ <;> dsimp only <;> omega
            rw [← Nat.add_assoc] at hds
            exact ⟨⟨datagramIndex, datagramLength⟩ :: ds, .entry (by omega) ⟨hi, hl⟩ hin hds,
              by simp; omega⟩
    next => cases h

theorem scanTable_of_entries {length fuel offset c : Nat}
    (hds : Entries fmt m blockLength (ndp + length) (ndp + offset) ds)
    (hfuel : length ≤ offset + fuel) :
    scanTable fmt m blockLength ndp length fuel offset c = .ok (some (c + ds.length)) := by
  have hs := fmt.sizes
  induction fuel generalizing offset c ds with
  | zero =>
    have := hds.null_at.1
    omega
  | succ fuel ih =>
    unfold scanTable
    cases hds with
    | null hlt hnull =>
      obtain ⟨datagramIndex, hi, hz⟩ := hnull
      rw [if_pos (by omega), hi, ok_bind]
      split
      next => rfl
      next hnz =>
        rw [hz.resolve_left hnz, ok_bind, if_pos rfl]
        rfl
    | @entry _ d ds hlt he hin hrest =>
      obtain ⟨hi, hl⟩ := he
      obtain ⟨hge, hpos, hle⟩ := hin
      rw [Nat.add_assoc] at hrest
      rw [if_pos (by omega), hi, ok_bind, if_neg (by omega), hl, ok_bind, if_neg (by omega),
        if_neg (by omega), ih hrest (by omega), List.length_cons]
      congr 2
      omega

/-- What an accepted NDP has at least: a link, and a scan that came to an end. -/
theorem scan_of_validateNdp {w count : Nat}
    (h : validateNdp w fmt m blockLength ndp = .ok (some (next, count))) :
    ∃ length, readLe m (ndp + NtbFormat.ndpLengthAt) 2 = .ok length ∧
      readLe m (ndp + fmt.ndpNextNdpIndexAt) fmt.ptrSize = .ok next ∧
      scanTable fmt m blockLength ndp length length fmt.sizeofNdp 0 = .ok (some count) := by
  unfold validateNdp at h
  split at h
  · cases h
  obtain ⟨signature, -, h⟩ := bind_eq_ok.mp h
  split at h
  · cases h
  obtain ⟨length, hlength, h⟩ := bind_eq_ok.mp h
  split at h
  · cases h
  obtain ⟨link, hlink, h⟩ := bind_eq_ok.mp h
  split at h
  · cases h
  obtain ⟨scanned, hscan, h⟩ := bind_eq_ok.mp h
  cases scanned with
  | none => cases h
  | some k =>
    cases h
    exact ⟨length, hlength, hlink, hscan⟩

/-- The 64-bit range check does not wrap. -/
theorem tableFits_iff (hblock : blockLength < 2 ^ 32) (hndp : ndp < 2 ^ 32) :
    ¬ (ndp < fmt.sizeofNth ∨ sizeT 64 (ndp + fmt.minDptSize) > blockLength) ↔
      TableFits fmt blockLength ndp := by
  have hs := fmt.sizes
  unfold TableFits sizeT NtbFormat.minDptSize
  omega

theorem lengthFits_iff (hblock : blockLength < 2 ^ 31) (hfits : TableFits fmt blockLength ndp)
    (hlength : length < 2 ^ 16) :
    ¬ (length < fmt.minDptSize ∨ length % 4 ≠ 0 ∨ (ndp + length) % 2 ^ 32 > blockLength) ↔
      fmt.minDptSize ≤ length ∧ length % 4 = 0 ∧ ndp + length ≤ blockLength := by
  have hndp := hfits.2
  omega

theorem linkFits_iff (hblock : blockLength < 2 ^ 32) (hnext : next < 2 ^ 32) :
    ¬ (next ≠ 0 ∧ (next < fmt.sizeofNth ∨ sizeT 64 (next + fmt.minDptSize) > blockLength)) ↔
      next = 0 ∨ TableFits fmt blockLength next := by
  rw [not_and_or, not_not, tableFits_iff hblock hnext]

/-- Below 2 ^ 31 bytes the sum with the NDP length does not wrap, and only well-formed tables are
accepted. -/
theorem table_of_validateNdp {count : Nat} (hblock : blockLength < 2 ^ 31) (hndp : ndp < 2 ^ 32)
    (h : validateNdp 64 fmt m blockLength ndp = .ok (some (next, count))) :
    ∃ ds, NdpTable fmt m blockLength ndp ds next ∧ count = ds.length := by
  have hblock' : blockLength < 2 ^ 32 := by omega
  unfold validateNdp at h
  split at h
  · cases h
  next hfits =>
  have hfits := (tableFits_iff hblock' hndp).mp hfits
  obtain ⟨signature, hsignature, h⟩ := bind_eq_ok.mp h
  split at h
  · cases h
  next hok =>
  obtain ⟨length, hfield, h⟩ := bind_eq_ok.mp h
  split at h
  · cases h
  next hlength =>
  obtain ⟨hmin, hmod, hle⟩ := (lengthFits_iff hblock hfits (readLe_lt hfield)).mp hlength
  obtain ⟨link, hlink, h⟩ := bind_eq_ok.mp h
  split at h
  · cases h
  next hlinkFits =>
  obtain ⟨scanned, hscan, h⟩ := bind_eq_ok.mp h
  cases scanned with
  | none => cases h
  | some k =>
    cases h
    obtain ⟨ds, hds, hcount⟩ := entries_of_scanTable hscan
    refine ⟨ds, ⟨hfits, ?_, ⟨length, hfield, hmin, hmod, hle, hds⟩, hlink, ?_⟩, ?_⟩
    · rw [hsignature, not_ne_iff.mp hok]
    · exact (linkFits_iff hblock' (readLe_ptr_lt hlink)).mp hlinkFits
    · omega

theorem validateNdp_of_table (hblock : blockLength < 2 ^ 32) (hndp : ndp < 2 ^ 32)
    (h : NdpTable fmt m blockLength ndp ds next) :
    validateNdp 64 fmt m blockLength ndp = .ok (some (next, ds.length)) := by
  have hs := fmt.sizes
  have hnextLt := h.next_lt
  obtain ⟨hfits, hsig, ⟨length, hlen, hmin, hmod, hle, hds⟩, hnext, hnextFits⟩ := h
  have hscan : scanTable fmt m blockLength ndp length length fmt.sizeofNdp 0 =
      .ok (some (0 + ds.length)) := scanTable_of_entries hds (by omega)
  unfold validateNdp
  rw [if_neg ((tableFits_iff hblock hndp).mpr hfits), hsig, ok_bind, if_neg (not_not.mpr rfl), hlen,
    ok_bind, if_neg (by omega), hnext, ok_bind, if_neg ((linkFits_iff hblock hnextLt).mpr hnextFits),
    hscan, ok_bind, Nat.zero_add]
  rfl

end UsbNcm.Ntb
