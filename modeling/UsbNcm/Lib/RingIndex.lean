import Mathlib.Algebra.Group.Nat.Defs
import Mathlib.Data.List.Nodup
import Mathlib.Tactic.Common

/-!
# Indices of a ring of `2 ^ k` slots

An index is a `k`-bit word, so adding to it goes round the ring.
-/

namespace RingIndex

variable {k : Nat}

def indicesFrom (i : BitVec k) : Nat → List (BitVec k)
  | 0 => []
  | n + 1 => i :: indicesFrom (i + 1#k) n

/-- How many steps lead from `i` to `last`. -/
def count (i last : BitVec k) : Nat := (last - i).toNat

/-- The indices from `i` up to `last`, without `last`. -/
def range (i last : BitVec k) : List (BitVec k) := indicesFrom i (count i last)

@[simp]
theorem count_self (i : BitVec k) : count i i = 0 := by simp [count]

theorem count_eq_zero {i last : BitVec k} : count i last = 0 ↔ i = last := by
  constructor
  · intro h
    have hz : last - i = 0#k := BitVec.eq_of_toNat_eq (by simpa [count] using h)
    grind
  · rintro rfl
    exact count_self i

theorem count_lt (i last : BitVec k) : count i last < 2 ^ k := BitVec.isLt _

theorem count_succ {i last : BitVec k} (h : i ≠ last) :
    count i last = count (i + 1#k) last + 1 := by
  have hpos : count i last ≠ 0 := fun h0 => h (count_eq_zero.mp h0)
  have hlt := count_lt i last
  have hone : (1#k).toNat = 1 := by
    rw [BitVec.toNat_ofNat, Nat.mod_eq_of_lt (by omega)]
  have hle : 1#k ≤ last - i := by
    rw [BitVec.le_def, hone]
    exact Nat.pos_of_ne_zero hpos
  have hsub : count (i + 1#k) last = count i last - 1 := by
    rw [count, ← BitVec.sub_sub, BitVec.toNat_sub_of_le hle, hone, count]
  omega

theorem range_of_ne {i last : BitVec k} (h : i ≠ last) :
    range i last = i :: range (i + 1#k) last := by
  rw [range, count_succ h, indicesFrom, range]

@[simp]
theorem indicesFrom_length (i : BitVec k) (n : Nat) : (indicesFrom i n).length = n := by
  induction n generalizing i with
  | zero => rfl
  | succ n ih => simp [indicesFrom, ih]

@[simp]
theorem range_length (i last : BitVec k) : (range i last).length = count i last :=
  indicesFrom_length i _

theorem count_add (i n : BitVec k) : count i (i + n) = n.toNat := by
  have : i + n - i = n := by
    rw [BitVec.add_comm, BitVec.add_sub_cancel]
  rw [count, this]

/-! ## Slots -/

def slot (i : BitVec k) (n : Nat) : BitVec k := i + BitVec.ofNat k n

theorem slot_zero (i : BitVec k) : slot i 0 = i := by simp [slot]

theorem slot_succ (i : BitVec k) (n : Nat) : slot (i + 1#k) n = slot i (n + 1) := by
  unfold slot
  rw [BitVec.ofNat_add, BitVec.add_assoc, BitVec.add_comm (1#k)]

theorem slot_slot (i : BitVec k) (m n : Nat) : slot (slot i m) n = slot i (m + n) := by
  unfold slot
  rw [BitVec.ofNat_add, BitVec.add_assoc]

/-- Less than one round leads to the slot back. -/
theorem count_slot (i : BitVec k) {n : Nat} (h : n < 2 ^ k) : count i (slot i n) = n := by
  rw [slot, count_add, BitVec.toNat_ofNat, Nat.mod_eq_of_lt h]

theorem slot_count (i last : BitVec k) : slot i (count i last) = last := by
  unfold slot count
  rw [BitVec.ofNat_toNat, BitVec.setWidth_eq]
  grind

theorem slot_inj {i : BitVec k} {m n : Nat} (hm : m < 2 ^ k) (hn : n < 2 ^ k)
    (h : slot i m = slot i n) : m = n := by
  rw [← count_slot i hm, h, count_slot i hn]

theorem indicesFrom_eq (i : BitVec k) (n : Nat) : indicesFrom i n = (List.range n).map (slot i) := by
  induction n generalizing i with
  | zero => rfl
  | succ n ih =>
    rw [indicesFrom, ih, List.range_succ_eq_map, List.map_cons, List.map_map, slot_zero]
    congr 1
    apply List.map_congr_left
    intro m _
    exact slot_succ i m

theorem indicesFrom_add (i : BitVec k) (m n : Nat) :
    indicesFrom i (m + n) = indicesFrom i m ++ indicesFrom (slot i m) n := by
  induction m generalizing i with
  | zero => simp [indicesFrom, slot_zero]
  | succ m ih =>
    rw [Nat.succ_add, indicesFrom, indicesFrom, ih, slot_succ]
    rfl

theorem range_slot {i last : BitVec k} {n : Nat} (h : n ≤ count i last) :
    range (slot i n) last = (range i last).drop n := by
  induction n generalizing i with
  | zero => rw [slot_zero, List.drop_zero]
  | succ n ih =>
    have hne : i ≠ last := by
      rintro rfl
      rw [count_self] at h
      omega
    rw [count_succ hne] at h
    rw [← slot_succ, ih (by omega), range_of_ne hne, List.drop_succ_cons]

/-- A range is its first indices and the range behind them. -/
theorem range_eq_append {i last : BitVec k} {n : Nat} (h : n ≤ count i last) :
    range i last = indicesFrom i n ++ range (slot i n) last := by
  induction n generalizing i with
  | zero =>
    rw [slot_zero]
    rfl
  | succ n ih =>
    have hne : i ≠ last := by
      rintro rfl
      rw [count_self] at h
      omega
    rw [count_succ hne] at h
    rw [range_of_ne hne, ih (by omega), slot_succ]
    rfl

theorem count_slot_of_le {i last : BitVec k} {n : Nat} (h : n ≤ count i last) :
    count (slot i n) last = count i last - n := by
  rw [← range_length, range_slot h, List.length_drop, range_length]

theorem getElem_range {i last : BitVec k} {n : Nat} (h : n < (range i last).length) :
    (range i last)[n] = slot i n := by
  simp [range, indicesFrom_eq]

end RingIndex
