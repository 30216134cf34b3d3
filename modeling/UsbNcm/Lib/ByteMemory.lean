import UsbNcm.Lib.Exec

/-!
# Byte memory

A 64-bit address space in which some addresses are mapped and hold a byte. Addresses are relative
to the start of a buffer. A read outside the mapped bytes stops the run. A write lands where it is
aimed, modulo the size of the address space.
-/

open Exec

namespace ByteMemory

/-- The byte at each address, or none where nothing is mapped. -/
abbrev Memory := Nat → Option UInt8

/-- The memory that maps exactly these bytes, from address 0 on. -/
def ofBytes (bs : List UInt8) : Memory := fun a => bs[a]?

/-! ## Reading -/

def readByte (m : Memory) (a : Nat) : Except Stop UInt8 :=
  match m a with
  | some b => .ok b
  | none => .error .access

def readBytes (m : Memory) (a : Nat) : Nat → Except Stop (List UInt8)
  | 0 => .ok []
  | n + 1 => do
    let b ← readByte m a
    let bs ← readBytes m (a + 1) n
    pure (b :: bs)

/-- The little-endian number in the `n` bytes from `a` on. -/
def readLe (m : Memory) (a : Nat) : Nat → Except Stop Nat
  | 0 => .ok 0
  | n + 1 => do
    let b ← readByte m a
    let v ← readLe m (a + 1) n
    pure (b.toNat + 256 * v)

def leBytes : Nat → Nat → List UInt8
  | 0, _ => []
  | n + 1, v => UInt8.ofNat v :: leBytes n (v / 256)

@[simp]
theorem leBytes_length (n v : Nat) : (leBytes n v).length = n := by
  induction n generalizing v with
  | zero => rfl
  | succ n ih => simp [leBytes, ih]

def Holds (m : Memory) (a : Nat) (bs : List UInt8) : Prop :=
  ∀ i, (h : i < bs.length) → m (a + i) = some bs[i]

theorem holds_nil (m : Memory) (a : Nat) : Holds m a [] := by
  intro i h
  simp at h

theorem holds_cons {m : Memory} {a : Nat} {b : UInt8} {bs : List UInt8} :
    Holds m a (b :: bs) ↔ m a = some b ∧ Holds m (a + 1) bs := by
  constructor
  · intro h
    refine ⟨h 0 (Nat.succ_pos _), fun i hi => ?_⟩
    have := h (i + 1) (by simpa using hi)
    rw [show a + 1 + i = a + (i + 1) by omega, this, List.getElem_cons_succ]
  · rintro ⟨h0, ht⟩ i hi
    cases i with
    | zero => simpa using h0
    | succ i =>
      have := ht i (by simpa using hi)
      rw [show a + (i + 1) = a + 1 + i by omega, this, List.getElem_cons_succ]

theorem holds_append {m : Memory} {a : Nat} {xs ys : List UInt8} :
    Holds m a (xs ++ ys) ↔ Holds m a xs ∧ Holds m (a + xs.length) ys := by
  induction xs generalizing a with
  | nil => simp [holds_nil]
  | cons x xs ih =>
    rw [List.cons_append, holds_cons, holds_cons, ih, and_assoc]
    rw [show a + 1 + xs.length = a + (x :: xs).length by simp; omega]

theorem holds_congr {m m' : Memory} {a : Nat} {bs : List UInt8}
    (hm : ∀ i, a ≤ i → i < a + bs.length → m i = m' i) (h : Holds m a bs) : Holds m' a bs := by
  intro i hi
  rw [← hm (a + i) (by omega) (by omega)]
  exact h i hi

theorem mapped_ofBytes (bytes : List UInt8) : ∀ a < bytes.length, (ofBytes bytes a).isSome := by
  intro a ha
  simp [ofBytes, ha]

theorem lt_of_ofBytes_isSome {bytes : List UInt8} {a : Nat} (h : (ofBytes bytes a).isSome) :
    a < bytes.length := by
  unfold ofBytes at h
  by_contra hge
  rw [List.getElem?_eq_none (Nat.not_lt.mp hge)] at h
  cases h

/-- The byte at an index, or 0 behind the end. -/
def byteAt (bytes : List UInt8) (i : Nat) : UInt8 := (bytes[i]?).getD 0

theorem readByte_ofBytes {bytes : List UInt8} {i : Nat} (h : i < bytes.length) :
    readByte (ofBytes bytes) i = .ok (byteAt bytes i) := by
  unfold readByte ofBytes byteAt
  rw [List.getElem?_eq_getElem h]
  rfl

theorem readByte_outside {bytes : List UInt8} {i : Nat} (h : ¬ i < bytes.length) :
    readByte (ofBytes bytes) i = .error .access := by
  unfold readByte ofBytes
  rw [List.getElem?_eq_none (Nat.not_lt.mp h)]

theorem readLe_two_ofBytes {bytes : List UInt8} {a : Nat} (h : a + 2 ≤ bytes.length) :
    readLe (ofBytes bytes) a 2 =
      .ok ((byteAt bytes a).toNat + 256 * (byteAt bytes (a + 1)).toNat) := by
  unfold readLe readLe readLe
  rw [readByte_ofBytes (by omega), readByte_ofBytes (by omega)]
  rfl

theorem holds_ofBytes (bs : List UInt8) : Holds (ofBytes bs) 0 bs := by
  intro i hi
  rw [ofBytes, Nat.zero_add, List.getElem?_eq_getElem hi]

theorem readBytes_of_holds {m : Memory} {a : Nat} {bs : List UInt8} (h : Holds m a bs) :
    readBytes m a bs.length = .ok bs := by
  induction bs generalizing a with
  | nil => rfl
  | cons b bs ih =>
    obtain ⟨h0, ht⟩ := holds_cons.mp h
    simp [readBytes, readByte, h0, ih ht, pure, Except.pure]

theorem holds_of_readBytes {m : Memory} {a n : Nat} {bs : List UInt8}
    (h : readBytes m a n = .ok bs) : bs.length = n ∧ Holds m a bs := by
  induction n generalizing a bs with
  | zero => cases h; exact ⟨rfl, holds_nil m a⟩
  | succ n ih =>
    rw [readBytes] at h
    obtain ⟨b, hb, h⟩ := bind_eq_ok.mp h
    obtain ⟨rest, hr, h⟩ := bind_eq_ok.mp h
    cases h
    obtain ⟨hlen, hrest⟩ := ih hr
    refine ⟨by simp [hlen], holds_cons.mpr ⟨?_, hrest⟩⟩
    unfold readByte at hb
    split at hb
    · cases hb; assumption
    · cases hb

theorem le_of_readBytes {bytes bs : List UInt8} {a n : Nat}
    (h : readBytes (ofBytes bytes) a n = .ok bs) (hn : 0 < n) : a + n ≤ bytes.length := by
  obtain ⟨hlen, hholds⟩ := holds_of_readBytes h
  have hlast := hholds (n - 1) (by omega)
  unfold ofBytes at hlast
  obtain ⟨hlt, -⟩ := List.getElem?_eq_some_iff.mp hlast
  omega

/-- Reading the bytes of a number gives back the number, cut to their count. -/
theorem readLe_of_holds {m : Memory} {a n v : Nat} (h : Holds m a (leBytes n v)) :
    readLe m a n = .ok (v % 256 ^ n) := by
  induction n generalizing a v with
  | zero => simp [readLe, Nat.mod_one]
  | succ n ih =>
    obtain ⟨h0, ht⟩ := holds_cons.mp h
    simp only [readLe, readByte, h0, ok_bind, ih ht, pure, Except.pure, UInt8.toNat_ofNat']
    rw [show 256 ^ (n + 1) = 256 * 256 ^ n from Nat.pow_succ', Nat.mod_mul]

theorem readByte_congr {m m' : Memory} {a : Nat} (h : m a = m' a) :
    readByte m a = readByte m' a := by
  rw [readByte, h, readByte]

theorem readLe_congr {m m' : Memory} {a n : Nat} (h : ∀ i, a ≤ i → i < a + n → m i = m' i) :
    readLe m a n = readLe m' a n := by
  induction n generalizing a with
  | zero => rfl
  | succ n ih =>
    rw [readLe, readLe, readByte_congr (h a (by omega) (by omega)),
      ih (fun i h1 h2 => h i (by omega) (by omega))]

/-- `m'` maps all that `m` maps, to the same bytes. -/
def Extends (m m' : Memory) : Prop := ∀ a b, m a = some b → m' a = some b

theorem extends_ofBytes {xs ys : List UInt8} (h : xs <+: ys) : Extends (ofBytes xs) (ofBytes ys) := by
  intro a b hb
  obtain ⟨zs, rfl⟩ := h
  unfold ofBytes at hb ⊢
  obtain ⟨hlt, -⟩ := List.getElem?_eq_some_iff.mp hb
  rw [List.getElem?_append_left hlt, hb]

theorem Extends.readByte {m m' : Memory} (h : Extends m m') (a : Nat) :
    Below (readByte m a) (readByte m' a) := by
  intro b hb
  unfold ByteMemory.readByte at hb ⊢
  split at hb
  · next hm =>
    cases hb
    rw [h a _ hm]
  · cases hb

theorem Extends.readLe {m m' : Memory} (h : Extends m m') (a n : Nat) :
    Below (readLe m a n) (readLe m' a n) := by
  induction n generalizing a with
  | zero => exact .refl _
  | succ n ih => exact (h.readByte a).bind fun b => (ih (a + 1)).bind fun v => .refl _

theorem Extends.readBytes {m m' : Memory} (h : Extends m m') (a n : Nat) :
    Below (readBytes m a n) (readBytes m' a n) := by
  induction n generalizing a with
  | zero => exact .refl _
  | succ n ih => exact (h.readByte a).bind fun b => (ih (a + 1)).bind fun bs => .refl _

theorem readByte_ok {m : Memory} {a : Nat} (h : (m a).isSome) : ∃ b, readByte m a = .ok b := by
  obtain ⟨b, hb⟩ := Option.isSome_iff_exists.mp h
  exact ⟨b, by rw [readByte, hb]⟩

theorem readLe_ok {m : Memory} {a n : Nat} (h : ∀ i, a ≤ i → i < a + n → (m i).isSome) :
    ∃ v, readLe m a n = .ok v := by
  induction n generalizing a with
  | zero => exact ⟨0, rfl⟩
  | succ n ih =>
    obtain ⟨b, hb⟩ := readByte_ok (h a (by omega) (by omega))
    obtain ⟨v, hv⟩ := ih (a := a + 1) (fun i h1 h2 => h i (by omega) (by omega))
    exact ⟨b.toNat + 256 * v, by rw [readLe, hb, ok_bind, hv]; rfl⟩

theorem readBytes_ok {m : Memory} {a n : Nat} (h : ∀ i, a ≤ i → i < a + n → (m i).isSome) :
    ∃ bs, readBytes m a n = .ok bs := by
  induction n generalizing a with
  | zero => exact ⟨[], rfl⟩
  | succ n ih =>
    obtain ⟨b, hb⟩ := readByte_ok (h a (by omega) (by omega))
    obtain ⟨bs, hbs⟩ := ih (a := a + 1) (fun i h1 h2 => h i (by omega) (by omega))
    exact ⟨b :: bs, by rw [readBytes, hb, ok_bind, hbs]; rfl⟩

/-- A number determines the bytes it is read from. -/
theorem readLe_inj {m m' : Memory} {a n v : Nat} (h : readLe m a n = .ok v)
    (h' : readLe m' a n = .ok v) {i : Nat} (hi : a ≤ i) (hin : i < a + n) : m i = m' i := by
  induction n generalizing a v with
  | zero => omega
  | succ n ih =>
    unfold readLe at h h'
    obtain ⟨b, hb, h⟩ := bind_eq_ok.mp h
    obtain ⟨w, hw, h⟩ := bind_eq_ok.mp h
    obtain ⟨b', hb', h'⟩ := bind_eq_ok.mp h'
    obtain ⟨w', hw', h'⟩ := bind_eq_ok.mp h'
    cases h
    have heq : b'.toNat + 256 * w' = b.toNat + 256 * w := Except.ok.inj h'
    have hlt := b.toNat_lt
    have hlt' := b'.toNat_lt
    rcases Nat.eq_or_lt_of_le hi with rfl | hgt
    · have hbyte : b' = b := UInt8.toNat_inj.mp (by omega)
      subst hbyte
      unfold readByte at hb hb'
      split at hb <;> split at hb' <;> cases hb <;> cases hb'
      next h1 h2 => rw [h1, h2]
    · rw [show w' = w by omega] at hw'
      exact ih hw hw' hgt (by omega)

theorem readLe_lt {m : Memory} {a n v : Nat} (h : readLe m a n = .ok v) : v < 256 ^ n := by
  induction n generalizing a v with
  | zero => cases h; simp
  | succ n ih =>
    rw [readLe] at h
    obtain ⟨b, -, h⟩ := bind_eq_ok.mp h
    obtain ⟨w, hw, h⟩ := bind_eq_ok.mp h
    cases h
    have hb : b.toNat < 256 := b.toNat_lt
    have hw' := ih hw
    rw [Nat.pow_succ]
    omega

/-- A number that was read lies in mapped bytes. -/
theorem isSome_of_readLe {m : Memory} {a n v : Nat} (h : readLe m a n = .ok v) :
    ∀ i, a ≤ i → i < a + n → (m i).isSome := by
  induction n generalizing a v with
  | zero => intro i h1 h2; omega
  | succ n ih =>
    rw [readLe] at h
    obtain ⟨b, hb, h⟩ := bind_eq_ok.mp h
    obtain ⟨w, hw, h⟩ := bind_eq_ok.mp h
    intro i h1 h2
    by_cases hi : i = a
    · subst hi
      unfold readByte at hb
      split at hb
      · simp [*]
      · cases hb
    · exact ih hw i (by omega) (by omega)

/-! ## Writing -/

/-- How far `a` lies past `dst`, going round the end of the address space. -/
def distance (dst a : Nat) : Nat := (a + (2 ^ 64 - dst % 2 ^ 64)) % 2 ^ 64

def write (m : Memory) (dst : Nat) (bs : List UInt8) : Memory :=
  fun a => (bs[distance dst a]?).or (m a)

/-- Puts the `n` low bytes of a number at `dst`. -/
def writeLe (m : Memory) (dst n v : Nat) : Memory := write m dst (leBytes n v)

theorem distance_of_le {dst a : Nat} (h : dst ≤ a) (ha : a < 2 ^ 64) : distance dst a = a - dst := by
  unfold distance
  omega

theorem distance_of_lt {dst a : Nat} (h : a < dst) (hd : dst < 2 ^ 64) :
    distance dst a = a + 2 ^ 64 - dst := by
  unfold distance
  omega

theorem write_outside {m : Memory} {dst a : Nat} {bs : List UInt8} (ha : a < 2 ^ 64)
    (hd : dst + bs.length ≤ 2 ^ 64) (h : a < dst ∨ dst + bs.length ≤ a) : write m dst bs a = m a := by
  have hnone : bs[distance dst a]? = none := by
    rw [List.getElem?_eq_none_iff]
    rcases h with h | h
    · by_cases hlt : dst < 2 ^ 64
      · rw [distance_of_lt h hlt]; omega
      · have : bs.length = 0 := by omega
        omega
    · rw [distance_of_le (by omega) ha]; omega
  rw [write, hnone, Option.none_or]

theorem holds_write (m : Memory) (dst : Nat) (bs : List UInt8) (hd : dst + bs.length ≤ 2 ^ 64) :
    Holds (write m dst bs) dst bs := by
  intro i hi
  rw [write, distance_of_le (by omega) (by omega), show dst + i - dst = i by omega,
    List.getElem?_eq_getElem hi, Option.some_or]

/-- A write elsewhere leaves the bytes as they are. -/
theorem holds_write_outside {m : Memory} {a dst : Nat} {xs bs : List UInt8} (h : Holds m a xs)
    (ha : a + xs.length ≤ 2 ^ 64) (hd : dst + bs.length ≤ 2 ^ 64)
    (hout : a + xs.length ≤ dst ∨ dst + bs.length ≤ a) : Holds (write m dst bs) a xs := by
  intro i hi
  rw [write_outside (by omega) hd (by omega)]
  exact h i hi

theorem write_isSome {m : Memory} {a : Nat} (h : (m a).isSome) (dst : Nat) (bs : List UInt8) :
    (write m dst bs a).isSome := by
  unfold write
  simp [h]

theorem distance_add (dst : Nat) {i : Nat} (h : i < 2 ^ 64) : distance dst ((dst + i) % 2 ^ 64) = i := by
  unfold distance
  omega

theorem add_distance (dst : Nat) {a : Nat} (h : a < 2 ^ 64) : (dst + distance dst a) % 2 ^ 64 = a := by
  unfold distance
  omega

/-- `m'` has the bytes at `dst`, going round the end of the address space, and is `m` elsewhere. -/
structure Written (m m' : Memory) (dst : Nat) (bs : List UInt8) : Prop where
  inside : ∀ i, (h : i < bs.length) → m' ((dst + i) % 2 ^ 64) = some bs[i]
  outside : ∀ a < 2 ^ 64, (∀ i < bs.length, a ≠ (dst + i) % 2 ^ 64) → m' a = m a

theorem written_write (m : Memory) (dst : Nat) {bs : List UInt8} (h : bs.length ≤ 2 ^ 64) :
    Written m (write m dst bs) dst bs := by
  constructor
  · intro i hi
    rw [write, distance_add dst (by omega), List.getElem?_eq_getElem hi, Option.some_or]
  · intro a ha hout
    have hnone : bs[distance dst a]? = none := by
      rw [List.getElem?_eq_none_iff]
      by_contra hlt
      exact hout _ (Nat.not_le.mp hlt) (add_distance dst ha).symm
    rw [write, hnone, Option.none_or]

/-! ## Several writes -/

/-- The writes, one after the other. -/
def writeAll (m : Memory) (ws : List (Nat × List UInt8)) : Memory :=
  ws.foldl (fun m w => write m w.1 w.2) m

/-- Two writes that touch no address in common. -/
def Apart (w w' : Nat × List UInt8) : Prop :=
  w.1 + w.2.length ≤ w'.1 ∨ w'.1 + w'.2.length ≤ w.1

theorem writeAll_outside {m : Memory} {ws : List (Nat × List UInt8)} {a : Nat} (ha : a < 2 ^ 64)
    (hend : ∀ w ∈ ws, w.1 + w.2.length ≤ 2 ^ 64)
    (hout : ∀ w ∈ ws, a < w.1 ∨ w.1 + w.2.length ≤ a) : writeAll m ws a = m a := by
  induction ws generalizing m with
  | nil => rfl
  | cons w ws ih =>
    simp only [List.mem_cons, forall_eq_or_imp] at hend hout
    have hrest := ih (m := write m w.1 w.2) hend.2 hout.2
    unfold writeAll at hrest ⊢
    rw [List.foldl_cons, hrest]
    exact write_outside ha hend.1 hout.1

def Covered (ws : List (Nat × List UInt8)) (a : Nat) : Prop :=
  ∃ w ∈ ws, w.1 ≤ a ∧ a < w.1 + w.2.length

@[simp]
theorem covered_nil (a : Nat) : ¬ Covered [] a := by simp [Covered]

@[simp]
theorem covered_cons {w : Nat × List UInt8} {ws : List (Nat × List UInt8)} {a : Nat} :
    Covered (w :: ws) a ↔ (w.1 ≤ a ∧ a < w.1 + w.2.length) ∨ Covered ws a := by
  simp [Covered]

@[simp]
theorem covered_append {ws ws' : List (Nat × List UInt8)} {a : Nat} :
    Covered (ws ++ ws') a ↔ Covered ws a ∨ Covered ws' a := by
  simp only [Covered, List.mem_append, or_and_right, exists_or]

theorem writeAll_append (m : Memory) (ws ws' : List (Nat × List UInt8)) :
    writeAll m (ws ++ ws') = writeAll (writeAll m ws) ws' := List.foldl_append

theorem writeAll_congr {m m' : Memory} {a : Nat} (h : m a = m' a) (ws : List (Nat × List UInt8)) :
    writeAll m ws a = writeAll m' ws a := by
  induction ws generalizing m m' with
  | nil => exact h
  | cons w ws ih =>
    have hwrite : write m w.1 w.2 a = write m' w.1 w.2 a := by
      unfold write
      rw [h]
    exact ih hwrite

/-- A byte that is written does not depend on what was there. -/
theorem writeAll_covered {ws : List (Nat × List UInt8)} {a : Nat} (ha : a < 2 ^ 64)
    (h : Covered ws a) (m m' : Memory) : writeAll m ws a = writeAll m' ws a := by
  induction ws generalizing m m' with
  | nil => exact absurd h (covered_nil a)
  | cons w ws ih =>
    rcases covered_cons.mp h with ⟨hge, hlt⟩ | h
    · have hwrite : write m w.1 w.2 a = write m' w.1 w.2 a := by
        unfold write
        rw [distance_of_le hge ha, List.getElem?_eq_getElem (by omega), Option.some_or,
          Option.some_or]
      exact writeAll_congr hwrite ws
    · exact ih h _ _

theorem writeAll_not_covered {ws : List (Nat × List UInt8)} {a : Nat} (ha : a < 2 ^ 64)
    (hend : ∀ w ∈ ws, w.1 + w.2.length ≤ 2 ^ 64) (h : ¬ Covered ws a) (m : Memory) :
    writeAll m ws a = m a := by
  apply writeAll_outside ha hend
  intro w hw
  by_contra hin
  exact h ⟨w, hw, by omega⟩

theorem writeAll_isSome {m : Memory} {a : Nat} (h : (m a).isSome) (ws : List (Nat × List UInt8)) :
    (writeAll m ws a).isSome := by
  induction ws generalizing m with
  | nil => exact h
  | cons w ws ih => exact ih (write_isSome h w.1 w.2)

/-- What was written can be read, wherever it went and whatever was written after it. -/
theorem isSome_writeAll {m : Memory} {ws : List (Nat × List UInt8)} {dst : Nat} {bs : List UInt8}
    (h : (dst, bs) ∈ ws) (hlen : bs.length ≤ 2 ^ 64) :
    ∀ i, dst % 2 ^ 64 ≤ i → i < dst % 2 ^ 64 + bs.length → (writeAll m ws i).isSome := by
  intro i hge hlt
  induction ws generalizing m with
  | nil => simp at h
  | cons w ws ih =>
    rcases List.mem_cons.mp h with rfl | h
    · apply writeAll_isSome (m := write m dst bs)
      have hd : distance dst i = i - dst % 2 ^ 64 := by
        unfold distance
        omega
      rw [write, hd, List.getElem?_eq_getElem (by omega)]
      rfl
    · exact ih h

theorem holds_writeAll_outside {m : Memory} {ws : List (Nat × List UInt8)} {a : Nat}
    {bs : List UInt8} (h : Holds m a bs) (hend : ∀ w ∈ (a, bs) :: ws, w.1 + w.2.length ≤ 2 ^ 64)
    (hapart : ∀ w ∈ ws, Apart (a, bs) w) : Holds (writeAll m ws) a bs := by
  simp only [List.mem_cons, forall_eq_or_imp] at hend
  intro i hi
  rw [writeAll_outside (by omega) hend.2 ?_]
  · exact h i hi
  · intro w hw
    have := hapart w hw
    unfold Apart at this
    dsimp only at this
    omega

/-- When no two writes touch the same address, all of them are there at the end. -/
theorem holds_writeAll {m : Memory} {ws : List (Nat × List UInt8)}
    (hend : ∀ w ∈ ws, w.1 + w.2.length ≤ 2 ^ 64) (hapart : ws.Pairwise Apart) :
    ∀ w ∈ ws, Holds (writeAll m ws) w.1 w.2 := by
  induction ws generalizing m with
  | nil => simp
  | cons w ws ih =>
    have hend' := hend
    simp only [List.mem_cons, forall_eq_or_imp] at hend
    obtain ⟨hfirst, hrest⟩ := List.pairwise_cons.mp hapart
    rintro w' hw'
    rcases List.mem_cons.mp hw' with rfl | hw'
    · show Holds (writeAll (write m w'.1 w'.2) ws) w'.1 w'.2
      exact holds_writeAll_outside (holds_write m w'.1 w'.2 hend.1) hend' hfirst
    · exact ih hend.2 hrest w' hw'

theorem write_nil (m : Memory) (dst : Nat) : write m dst [] = m := by
  funext a
  simp [write]

/-- Two writes side by side are one. -/
theorem write_write (m : Memory) (dst : Nat) (xs ys : List UInt8)
    (h : xs.length + ys.length ≤ 2 ^ 64) :
    write (write m dst xs) ((dst + xs.length) % 2 ^ 64) ys = write m dst (xs ++ ys) := by
  funext a
  unfold write
  by_cases hx : distance dst a < xs.length
  · have hnone : ys[distance ((dst + xs.length) % 2 ^ 64) a]? = none := by
      rw [List.getElem?_eq_none_iff]
      unfold distance at hx ⊢
      omega
    rw [hnone, Option.none_or, List.getElem?_append_left hx]
  · have hd : ys[distance ((dst + xs.length) % 2 ^ 64) a]? = ys[distance dst a - xs.length]? := by
      by_cases hy : distance dst a < xs.length + ys.length
      · congr 1
        unfold distance at hx hy ⊢
        omega
      · rw [List.getElem?_eq_none_iff.mpr, List.getElem?_eq_none_iff.mpr] <;>
          (unfold distance at hx hy ⊢; omega)
    rw [hd, List.getElem?_append_right (by omega), List.getElem?_eq_none_iff.mpr (show
      xs.length ≤ distance dst a by omega), Option.none_or]

end ByteMemory
