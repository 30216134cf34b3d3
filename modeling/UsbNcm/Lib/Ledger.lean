import Mathlib.Data.List.Perm.Basic
import Mathlib.Tactic.Common

/-!
# Taking and giving back

A log of items that are taken and given back, one at a time. It is kept when no item is taken that is
out, and none is given back that is not.
-/

namespace Ledger

inductive Entry (α : Type)
  | take (a : α)
  | give (a : α)
  deriving DecidableEq, Repr

variable {α : Type} {log : List (Entry α)} {out out' : List α} {a : α}

/-- The log is kept, and these are out at its end. -/
inductive Kept : List (Entry α) → List α → Prop
  | nil : Kept [] []
  | take {log : List (Entry α)} {out : List α} {a : α} (h : Kept log out) (hnot : a ∉ out) :
      Kept (log ++ [.take a]) (a :: out)
  | give {log : List (Entry α)} {out : List α} {a : α} (h : Kept log (a :: out)) :
      Kept (log ++ [.give a]) out
  | perm {log : List (Entry α)} {out out' : List α} (h : Kept log out) (hperm : out.Perm out') :
      Kept log out'

/-- The first of these are given back, in their order. -/
theorem Kept.giveAll {first : List α} (h : Kept log (first ++ out)) :
    Kept (log ++ first.map .give) out := by
  induction first generalizing log with
  | nil => rwa [List.map_nil, List.append_nil]
  | cons a first ih =>
    rw [List.map_cons, List.append_cons]
    exact ih h.give

variable [DecidableEq α]

theorem count_cons' (b : α) (out : List α) (a : α) :
    (b :: out).count a = [b].count a + out.count a := by
  rw [← List.count_append, List.singleton_append]

/-- Each item has been given back once for each time it was taken, but for those that are out. -/
theorem Kept.count (h : Kept log out) (a : α) :
    log.count (.take a) = log.count (.give a) + out.count a := by
  induction h with
  | nil => rfl
  | @take log out b _ _ ih =>
    have htake : [Entry.take b].count (.take a) = [b].count a := by simp [List.count_singleton]
    have hgive : [Entry.take b].count (.give a) = 0 := by simp
    have hout := count_cons' b out a
    rw [List.count_append, List.count_append, htake, hgive, ih]
    omega
  | @give log out b _ ih =>
    have htake : [Entry.give b].count (.take a) = 0 := by simp
    have hgive : [Entry.give b].count (.give a) = [b].count a := by simp [List.count_singleton]
    have hout := count_cons' b out a
    rw [List.count_append, List.count_append, htake, hgive, ih]
    omega
  | perm _ hperm ih => rw [← hperm.count_eq, ih]

/-- The log says what is out. -/
theorem Kept.unique (h : Kept log out) (h' : Kept log out') : out.Perm out' := by
  rw [List.perm_iff_count]
  intro a
  have hcount := h.count a
  rw [h'.count a] at hcount
  omega

theorem Kept.nil_iff (h : Kept log out) : Kept log [] ↔ out = [] := by
  constructor
  · exact fun hnil => (h.unique hnil).eq_nil
  · rintro rfl
    exact h

end Ledger
