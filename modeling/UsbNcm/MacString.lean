import Mathlib.Tactic.IntervalCases
import UsbNcm.Mac

/-!
# Hexadecimal strings of bytes

`BytesToHexString` and `HexStringToBytes` undo each other, up to the case of the digits.
-/

open Exec UsbNcm.Ntb

namespace UsbNcm

variable {bytes pb : List UInt8} {digits rest : List UInt16}

/-! ## Digits -/

def IsHexDigit (wch : UInt16) : Prop :=
  (0x30 ≤ wch ∧ wch ≤ 0x39) ∨ (0x41 ≤ wch ∧ wch ≤ 0x46) ∨ (0x61 ≤ wch ∧ wch ≤ 0x66)

instance (wch : UInt16) : Decidable (IsHexDigit wch) := inferInstanceAs (Decidable (_ ∨ _))

/-- A digit from a to f in upper case. -/
def upperCase (wch : UInt16) : UInt16 := if 0x61 ≤ wch ∧ wch ≤ 0x66 then wch - 0x20 else wch

theorem hexNibbleFromChar_isSome_iff (wch : UInt16) :
    (hexNibbleFromChar wch).isSome ↔ IsHexDigit wch := by
  unfold hexNibbleFromChar IsHexDigit
  split_ifs with hupper hdigit hlower
  · simp [hupper]
  · simp [hdigit]
  · simp [hlower]
  · simp [hupper, hdigit, hlower]

theorem IsHexDigit.nibble {wch : UInt16} (h : IsHexDigit wch) :
    ∃ bits, hexNibbleFromChar wch = some bits :=
  Option.isSome_iff_exists.mp ((hexNibbleFromChar_isSome_iff wch).mpr h)

theorem hexNibbleFromChar_hexCharFromNibble {bits : UInt8} (h : bits < 16) :
    hexNibbleFromChar (hexCharFromNibble bits) = some bits := by
  have hlt : bits.toNat < 16 := UInt8.lt_iff_toNat_lt.mp h
  rw [← UInt8.ofNat_toNat (x := bits)]
  interval_cases bits.toNat <;> rfl

/-- What a digit stands for, and what it is written as. -/
theorem hexNibbleFromChar_some {wch : UInt16} {bits : UInt8} (h : hexNibbleFromChar wch = some bits) :
    bits < 16 ∧ hexCharFromNibble bits = upperCase wch := by
  have hdigit := (hexNibbleFromChar_isSome_iff wch).mp (by rw [h]; rfl)
  have hrange : 0x30 ≤ wch.toNat ∧ wch.toNat ≤ 0x66 := by
    unfold IsHexDigit at hdigit
    simp only [UInt16.le_iff_toNat_le, UInt16.reduceToNat] at hdigit
    omega
  obtain ⟨hge, hle⟩ := hrange
  rw [← UInt16.ofNat_toNat (x := wch)] at h ⊢
  have hall : ∀ n < 0x67, ∀ x ∈ hexNibbleFromChar (UInt16.ofNat n),
      x < 16 ∧ hexCharFromNibble x = upperCase (UInt16.ofNat n) := by decide +kernel
  exact hall _ (by omega) bits h

/-! ## Bytes -/

theorem and_15_toNat (bits : UInt8) : (bits &&& 0xF).toNat = bits.toNat % 16 := by
  rw [UInt8.toNat_and]
  exact Nat.and_two_pow_sub_one_eq_mod bits.toNat 4

theorem and_15_lt (bits : UInt8) : bits &&& (0xF : UInt8) < 16 := by
  rw [UInt8.lt_iff_toNat_lt, and_15_toNat]
  exact Nat.mod_lt _ (by decide)

theorem shiftRight_4_toNat (bits : UInt8) : (bits >>> 4).toNat = bits.toNat / 16 := by
  rw [UInt8.toNat_shiftRight]
  exact Nat.shiftRight_eq_div_pow bits.toNat 4

theorem or_shiftLeft_4_toNat {lower higher : UInt8} (hlower : lower < 16) (hhigher : higher < 16) :
    (lower ||| (higher <<< 4)).toNat = 16 * higher.toNat + lower.toNat := by
  have hlower' : lower.toNat < 2 ^ 4 := UInt8.lt_iff_toNat_lt.mp hlower
  have hhigher' : higher.toNat < 16 := UInt8.lt_iff_toNat_lt.mp hhigher
  have hshift : (higher <<< 4).toNat = 2 ^ 4 * higher.toNat := by
    rw [UInt8.toNat_shiftLeft]
    change higher.toNat <<< 4 % 2 ^ 8 = _
    rw [Nat.shiftLeft_eq]
    omega
  rw [UInt8.toNat_or, hshift, Nat.or_comm, ← Nat.two_pow_add_eq_or_of_lt hlower']

/-- The halves of a byte make it up again. -/
theorem or_halves (byte : UInt8) :
    (byte &&& (0xF : UInt8)) ||| (((byte >>> 4) &&& (0xF : UInt8)) <<< 4) = byte := by
  have hlt := byte.toNat_lt
  apply UInt8.toNat_inj.mp
  rw [or_shiftLeft_4_toNat (and_15_lt _) (and_15_lt _), and_15_toNat, and_15_toNat,
    shiftRight_4_toNat]
  omega

theorem lower_of_or {lower higher : UInt8} (hlower : lower < 16) (hhigher : higher < 16) :
    (lower ||| (higher <<< 4)) &&& 0xF = lower := by
  have hlower' : lower.toNat < 16 := UInt8.lt_iff_toNat_lt.mp hlower
  apply UInt8.toNat_inj.mp
  rw [and_15_toNat, or_shiftLeft_4_toNat hlower hhigher]
  omega

theorem higher_of_or {lower higher : UInt8} (hlower : lower < 16) (hhigher : higher < 16) :
    ((lower ||| (higher <<< 4)) >>> 4) &&& 0xF = higher := by
  have hlower' : lower.toNat < 16 := UInt8.lt_iff_toNat_lt.mp hlower
  have hhigher' : higher.toNat < 16 := UInt8.lt_iff_toNat_lt.mp hhigher
  apply UInt8.toNat_inj.mp
  rw [and_15_toNat, shiftRight_4_toNat, or_shiftLeft_4_toNat hlower hhigher]
  omega

/-! ## Writing -/

/-- The two digits of each byte, the higher half first. -/
def hexDigits (bytes : List UInt8) : List UInt16 :=
  bytes.flatMap fun byte : UInt8 =>
    [hexCharFromNibble ((byte >>> 4) &&& 0xF), hexCharFromNibble (byte &&& 0xF)]

@[simp]
theorem hexDigits_cons (byte : UInt8) (bytes : List UInt8) :
    hexDigits (byte :: bytes) = hexCharFromNibble ((byte >>> 4) &&& 0xF) ::
      hexCharFromNibble (byte &&& 0xF) :: hexDigits bytes := rfl

@[simp]
theorem hexDigits_length (bytes : List UInt8) : (hexDigits bytes).length = 2 * bytes.length := by
  induction bytes with
  | nil => rfl
  | cons byte bytes ih => simp [ih]; omega

theorem exists_pair {α : Type} {l : List α} (h : 2 ≤ l.length) :
    ∃ left right rest, l = left :: right :: rest := by
  rcases l with _ | ⟨left, _ | ⟨right, rest⟩⟩
  · simp at h
  · simp at h
  · exact ⟨left, right, rest, rfl⟩

@[simp]
theorem arrayRead_append {α : Type} (front back : List α) (x : α) :
    arrayRead (front ++ x :: back) front.length = .ok x := by
  simp [arrayRead]

@[simp]
theorem arrayWrite_append {α : Type} (front back : List α) (x y : α) :
    arrayWrite (front ++ x :: back) front.length y = .ok (front ++ y :: back) := by
  simp [arrayWrite]

/-- The loop has written the digits of the bytes before `i`, and writes those of the rest. -/
theorem writeHexString_eq (before bytes : List UInt8) (rest : List UInt16)
    (hrest : 2 * bytes.length ≤ rest.length) (more : List UInt8) :
    writeHexString (before ++ bytes ++ more) before.length (hexDigits before ++ rest) bytes.length =
      .ok (hexDigits (before ++ bytes) ++ rest.drop (2 * bytes.length)) := by
  induction bytes generalizing before rest with
  | nil => simp [writeHexString]
  | cons byte bytes ih =>
    obtain ⟨left, right, rest, rfl⟩ := exists_pair (show 2 ≤ rest.length by simp at hrest; omega)
    have hread : arrayRead (before ++ byte :: bytes ++ more) before.length = .ok byte := by
      rw [List.append_assoc, List.cons_append]
      exact arrayRead_append _ _ _
    have hhigher : ∀ wch, arrayWrite (hexDigits before ++ left :: right :: rest) (2 * before.length)
        wch = .ok (hexDigits before ++ wch :: right :: rest) := by
      intro wch
      rw [← hexDigits_length]
      exact arrayWrite_append _ _ _ _
    have hlower : ∀ higher lower, arrayWrite (hexDigits before ++ higher :: right :: rest)
        (2 * before.length + 1) lower =
          .ok (hexDigits before ++ higher :: lower :: rest) := by
      intro higher lower
      have hwrite := arrayWrite_append (hexDigits before ++ [higher]) rest right lower
      simpa using hwrite
    have hnext := ih (before ++ [byte]) rest (by simp at hrest; omega)
    simp only [writeHexString, List.length_cons, hread, hhigher, hlower, ok_bind]
    have hdrop : (left :: right :: rest).drop (2 * (bytes.length + 1)) =
        rest.drop (2 * bytes.length) := rfl
    rw [hdrop]
    simpa [hexDigits] using hnext

theorem bytesToHexString_eq {n : Nat} (hn : n < 2 ^ 31) (hbytes : bytes.length = n)
    {string : List UInt16} (hstring : 2 * n ≤ string.length) :
    bytesToHexString bytes (UInt32.ofNat (2 * n)) string =
      .ok (hexDigits bytes ++ string.drop (2 * n)) := by
  obtain rfl := hbytes
  have hlength : (UInt32.ofNat (2 * bytes.length)).toNat = 2 * bytes.length :=
    UInt32.toNat_ofNat_of_lt' (show 2 * bytes.length < 2 ^ 32 by omega)
  unfold bytesToHexString
  rw [hlength, if_neg (by omega), Nat.mul_div_cancel_left _ (by decide)]
  simpa [hexDigits] using writeHexString_eq [] bytes string hstring []

/-! ## Reading -/

@[simp]
theorem hexStringToBytes_nil (digits : List UInt16) : hexStringToBytes digits [] = (.success, []) := by
  rcases digits with _ | ⟨left, _ | ⟨right, digits⟩⟩ <;> rfl

section Pair

variable {left right : UInt16} {b lower higher : UInt8}

theorem hexStringToBytes_digits (hleft : hexNibbleFromChar left = some higher)
    (hright : hexNibbleFromChar right = some lower) :
    hexStringToBytes (left :: right :: digits) (b :: pb) =
      ((hexStringToBytes digits pb).1,
        (lower ||| (higher <<< 4)) :: (hexStringToBytes digits pb).2) := by
  rw [hexStringToBytes, hleft, hright]

theorem hexStringToBytes_other (h : ¬ (IsHexDigit left ∧ IsHexDigit right)) :
    hexStringToBytes (left :: right :: digits) (b :: pb) = (.badData, b :: pb) := by
  rw [hexStringToBytes]
  split
  · next higher lower hleft hright =>
    refine absurd ⟨?_, ?_⟩ h
    · rw [← hexNibbleFromChar_isSome_iff, hleft]
      rfl
    · rw [← hexNibbleFromChar_isSome_iff, hright]
      rfl
  · rfl

end Pair

theorem hexStringToBytes_hexDigits (bytes : List UInt8) (rest : List UInt16)
    (hlength : pb.length = bytes.length) :
    hexStringToBytes (hexDigits bytes ++ rest) pb = (.success, bytes) := by
  induction bytes generalizing pb with
  | nil =>
    rw [List.length_eq_zero_iff.mp hlength]
    exact hexStringToBytes_nil _
  | cons byte bytes ih =>
    obtain ⟨b, pb, rfl⟩ := List.exists_cons_of_length_eq_add_one hlength
    simp only [List.length_cons, Nat.add_right_cancel_iff] at hlength
    simp only [hexDigits_cons, List.cons_append]
    rw [hexStringToBytes_digits (hexNibbleFromChar_hexCharFromNibble (and_15_lt _))
      (hexNibbleFromChar_hexCharFromNibble (and_15_lt _)), ih hlength, or_halves]

/-- All digits are looked at, and those that are accepted can be written again. -/
theorem hexStringToBytes_accepts (hlength : digits.length = 2 * pb.length) :
    ((hexStringToBytes digits pb).1 = .success ↔ ∀ wch ∈ digits, IsHexDigit wch) ∧
      ((hexStringToBytes digits pb).1 = .success →
        hexDigits (hexStringToBytes digits pb).2 = digits.map upperCase) := by
  induction pb generalizing digits with
  | nil =>
    rw [List.length_eq_zero_iff.mp hlength]
    exact ⟨by simp, fun _ => rfl⟩
  | cons b pb ih =>
    obtain ⟨left, right, digits, rfl⟩ :=
      exists_pair (show 2 ≤ digits.length by simp at hlength; omega)
    have hrest := ih (show digits.length = 2 * pb.length by simp at hlength; omega)
    by_cases hpair : IsHexDigit left ∧ IsHexDigit right
    · obtain ⟨higher, hleft⟩ := hpair.1.nibble
      obtain ⟨lower, hright⟩ := hpair.2.nibble
      obtain ⟨hhigher, hleft'⟩ := hexNibbleFromChar_some hleft
      obtain ⟨hlower, hright'⟩ := hexNibbleFromChar_some hright
      rw [hexStringToBytes_digits hleft hright]
      constructor
      · simp [hrest.1, hpair]
      · intro hsuccess
        simp [lower_of_or hlower hhigher, higher_of_or hlower hhigher, hleft', hright',
          hrest.2 hsuccess]
    · rw [hexStringToBytes_other hpair]
      constructor
      · refine iff_of_false nofun fun hall => hpair ⟨hall left ?_, hall right ?_⟩
        · simp
        · simp
      · nofun

/-- Nothing behind a character that is no digit matters. -/
theorem hexStringToBytes_of_other {front back back' : List UInt16}
    (hother : ∃ wch ∈ front, ¬ IsHexDigit wch)
    (hlength : (front ++ back).length = 2 * pb.length)
    (hlength' : (front ++ back').length = 2 * pb.length) :
    hexStringToBytes (front ++ back) pb = hexStringToBytes (front ++ back') pb := by
  induction pb generalizing front with
  | nil => simp
  | cons b pb ih =>
    rcases front with _ | ⟨left, _ | ⟨right, front⟩⟩
    · simp at hother
    · have hleft : ¬ IsHexDigit left := by simpa using hother
      obtain ⟨right, back, rfl⟩ :=
        List.exists_cons_of_length_pos (l := back) (by simp at hlength; omega)
      obtain ⟨right', back', rfl⟩ :=
        List.exists_cons_of_length_pos (l := back') (by simp at hlength'; omega)
      have hother' : ∀ wch, ¬ (IsHexDigit left ∧ IsHexDigit wch) := fun _ h => hleft h.1
      simp only [List.cons_append, List.nil_append]
      rw [hexStringToBytes_other (hother' right), hexStringToBytes_other (hother' right')]
    · simp only [List.cons_append, List.length_cons] at hlength hlength' ⊢
      by_cases hpair : IsHexDigit left ∧ IsHexDigit right
      · have hrest : ∃ wch ∈ front, ¬ IsHexDigit wch := by
          obtain ⟨wch, hmem, hwch⟩ := hother
          simp only [List.mem_cons] at hmem
          rcases hmem with rfl | rfl | hmem
          · exact absurd hpair.1 hwch
          · exact absurd hpair.2 hwch
          · exact ⟨wch, hmem, hwch⟩
        obtain ⟨higher, hleft⟩ := hpair.1.nibble
        obtain ⟨lower, hright⟩ := hpair.2.nibble
        rw [hexStringToBytes_digits hleft hright, hexStringToBytes_digits hleft hright,
          ih hrest (by omega) (by omega)]
      · rw [hexStringToBytes_other hpair, hexStringToBytes_other hpair]

/-- What one of the two writes the other one reads back, and any string of digits is written again
in upper case. -/
theorem hexString_roundTrip (n : Nat) (hn : n < 2 ^ 31) :
    (∀ bytes string pb, bytes.length = n → 2 * n ≤ string.length → pb.length = n →
      ∃ digits, bytesToHexString bytes (UInt32.ofNat (2 * n)) string = .ok digits ∧
        hexStringToBytes digits pb = (.success, bytes)) ∧
    ∀ digits pb, digits.length = 2 * n → pb.length = n →
      ((hexStringToBytes digits pb).1 = .success ↔ ∀ wch ∈ digits, IsHexDigit wch) ∧
      ((hexStringToBytes digits pb).1 = .success → ∀ string, 2 * n ≤ string.length →
        bytesToHexString (hexStringToBytes digits pb).2 (UInt32.ofNat (2 * n)) string =
          .ok (digits.map upperCase ++ string.drop (2 * n))) := by
  constructor
  · intro bytes string pb hbytes hstring hpb
    refine ⟨_, bytesToHexString_eq hn hbytes hstring, ?_⟩
    exact hexStringToBytes_hexDigits bytes _ (hpb.trans hbytes.symm)
  · intro digits pb hdigits hpb
    obtain ⟨haccepts, hwritten⟩ := hexStringToBytes_accepts (hdigits.trans (by rw [hpb]))
    refine ⟨haccepts, fun hsuccess string hstring => ?_⟩
    have hagain := hwritten hsuccess
    have hlength : (hexStringToBytes digits pb).2.length = n := by
      have hlengths := congrArg List.length hagain
      simp only [hexDigits_length, List.length_map] at hlengths
      omega
    rw [bytesToHexString_eq hn hlength hstring, hagain]

theorem hexString_roundTrip_6 :
    (∃ digits, bytesToHexString [0x02, 0x15, 0x5d, 0xab, 0xcd, 0xef] (UInt32.ofNat (2 * 6))
        (List.replicate 12 0) = .ok digits ∧
      hexStringToBytes digits [0, 0, 0, 0, 0, 0] =
        (.success, [0x02, 0x15, 0x5d, 0xab, 0xcd, 0xef])) ∧
    (hexStringToBytes [0x30, 0x32, 0x31, 0x35, 0x35, 0x64, 0x41, 0x62, 0x43, 0x64, 0x45, 0x46]
      [0, 0, 0, 0, 0, 0]).1 = .success :=
  ⟨(hexString_roundTrip 6 (by decide)).1 _ _ _ rfl (by decide) rfl,
    ((hexString_roundTrip 6 (by decide)).2 _ _ rfl rfl).1.mpr (by simp [IsHexDigit])⟩

end UsbNcm
