import Mathlib.Algebra.Group.Nat.Defs
import Mathlib.Tactic.Common

/-! # Rounding up to an alignment, in 64-bit words -/

namespace AlignUp

/-- `(x + a - 1) & ~(a - 1)` in 64-bit unsigned arithmetic. -/
def alignUpBy (x a : Nat) : Nat :=
  ((BitVec.ofNat 64 x + BitVec.ofNat 64 a - 1#64) &&& ~~~(BitVec.ofNat 64 a - 1#64)).toNat

/-- Masking off `m` takes away at most `m`. -/
theorem toNat_and_not (y m : BitVec 64) :
    (y &&& ~~~m).toNat ≤ y.toNat ∧ y.toNat ≤ (y &&& ~~~m).toNat + m.toNat := by
  have hdis : (y &&& ~~~m) &&& (y &&& m) = 0#64 := by
    ext i hi
    simp only [BitVec.getElem_and, BitVec.getElem_not, BitVec.getElem_zero]
    cases y[i] <;> cases m[i] <;> rfl
  have hor : (y &&& ~~~m) ||| (y &&& m) = y := by
    ext i hi
    simp only [BitVec.getElem_and, BitVec.getElem_or, BitVec.getElem_not]
    cases y[i] <;> cases m[i] <;> rfl
  have hadd := BitVec.toNat_add_of_and_eq_zero hdis
  rw [BitVec.add_eq_or_of_and_eq_zero _ _ hdis, hor] at hadd
  have hle : (y &&& m).toNat ≤ m.toNat := by
    rw [BitVec.toNat_and]
    exact Nat.and_le_right
  omega

/-- No bit survives the mask of alignment zero. -/
theorem alignUpBy_zero (x : Nat) : alignUpBy x 0 = 0 := by
  have hmask : ~~~(BitVec.ofNat 64 0 - 1#64) = 0#64 := by decide
  rw [alignUpBy, hmask, BitVec.and_zero]
  rfl

theorem alignUpBy_bounds {x a : Nat} (ha : 0 < a) (h : x + a ≤ 2 ^ 64) :
    x ≤ alignUpBy x a ∧ alignUpBy x a < x + a := by
  have hm : (BitVec.ofNat 64 a - 1#64).toNat = a - 1 := by
    simp only [BitVec.toNat_sub, BitVec.toNat_ofNat]
    omega
  have hy : (BitVec.ofNat 64 x + BitVec.ofNat 64 a - 1#64).toNat = x + a - 1 := by
    simp only [BitVec.toNat_sub, BitVec.toNat_add, BitVec.toNat_ofNat]
    omega
  have hb := toNat_and_not (BitVec.ofNat 64 x + BitVec.ofNat 64 a - 1#64) (BitVec.ofNat 64 a - 1#64)
  rw [hm, hy] at hb
  unfold alignUpBy
  omega

/-- A power of two is what the mask leaves multiples of. -/
theorem alignUpBy_dvd (x : Nat) {k : Nat} (hk : k < 64) : 2 ^ k ∣ alignUpBy x (2 ^ k) := by
  have hpow : 2 ^ k < 2 ^ 64 := Nat.pow_lt_pow_right (by decide) hk
  have hpos : 0 < 2 ^ k := Nat.two_pow_pos k
  have hm : (BitVec.ofNat 64 (2 ^ k) - 1#64).toNat = 2 ^ k - 1 := by
    simp only [BitVec.toNat_sub, BitVec.toNat_ofNat]
    omega
  have hdis : ∀ y m : BitVec 64, (y &&& ~~~m) &&& m = 0#64 := by
    intro y m
    ext i hi
    simp only [BitVec.getElem_and, BitVec.getElem_not, BitVec.getElem_zero]
    cases y[i] <;> cases m[i] <;> rfl
  apply Nat.dvd_of_mod_eq_zero
  rw [← Nat.and_two_pow_sub_one_eq_mod, ← hm]
  unfold alignUpBy
  rw [← BitVec.toNat_and, hdis]
  rfl

/-- With a power of two, rounding up keeps the order. -/
theorem alignUpBy_mono {x y k : Nat} (hk : k < 64) (hle : x ≤ y) (h : y + 2 ^ k ≤ 2 ^ 64) :
    alignUpBy x (2 ^ k) ≤ alignUpBy y (2 ^ k) := by
  have hpos : 0 < 2 ^ k := Nat.two_pow_pos k
  obtain ⟨m, hm⟩ := alignUpBy_dvd x hk
  obtain ⟨n, hn⟩ := alignUpBy_dvd y hk
  have hx := alignUpBy_bounds (x := x) hpos (by omega)
  have hy := alignUpBy_bounds (x := y) hpos h
  rw [hm, hn]
  apply Nat.mul_le_mul_left
  apply Nat.le_of_lt_succ
  apply Nat.lt_of_mul_lt_mul_left (a := 2 ^ k)
  rw [Nat.mul_succ]
  omega

theorem alignUpBy_mod (x a : Nat) : alignUpBy (x % 2 ^ 64) a = alignUpBy x a := by
  have hx : BitVec.ofNat 64 (x % 2 ^ 64) = BitVec.ofNat 64 x :=
    BitVec.eq_of_toNat_eq (by simp)
  rw [alignUpBy, hx, alignUpBy]

end AlignUp
