import Mathlib.Algebra.Group.Nat.Defs
import Mathlib.Tactic.Common

/-!
# Cutting a list into blocks

The blocks are consecutive parts of the list, and each must fit. The greedy way closes a block only
when the next item does not fit any more.
-/

namespace Greedy

variable {α : Type} {Fits : List α → Prop} {items block : List α} {blocks : List (List α)}

/-- A block that fits still fits without its last items, and without its first ones. -/
structure PartsFit (Fits : List α → Prop) : Prop where
  front : ∀ xs ys, Fits (xs ++ ys) → Fits xs
  back : ∀ xs ys, Fits (xs ++ ys) → Fits ys

structure IsCut (Fits : List α → Prop) (items : List α) (blocks : List (List α)) : Prop where
  flatten : blocks.flatten = items
  fits : ∀ block ∈ blocks, Fits block

/-- Items between two blocks may be left out. -/
inductive IsGreedy (Fits : List α → Prop) : List α → List (List α) → Prop
  | done : IsGreedy Fits [] []
  | skip {item : α} {items : List α} {blocks : List (List α)} (hrest : IsGreedy Fits items blocks) :
      IsGreedy Fits (item :: items) blocks
  | block {block items : List α} {blocks : List (List α)} (hne : block ≠ [])
      (hclosed : ∀ item ∈ items.head?, ¬ Fits (block ++ [item]))
      (hrest : IsGreedy Fits items blocks) : IsGreedy Fits (block ++ items) (block :: blocks)

theorem IsCut.nil : IsCut Fits [] [] := ⟨rfl, fun _ h => absurd h List.not_mem_nil⟩

theorem IsCut.cons (hfits : Fits block) (h : IsCut Fits items blocks) :
    IsCut Fits (block ++ items) (block :: blocks) := by
  refine ⟨?_, List.forall_mem_cons.mpr ⟨hfits, h.fits⟩⟩
  rw [List.flatten_cons, h.flatten]

/-- A cut has used up one block at least where a greedy block ends. -/
theorem IsCut.behind (hparts : PartsFit Fits) (hne : block ≠ [])
    (hclosed : ∀ item ∈ items.head?, ¬ Fits (block ++ [item])) {front : List α}
    (hcut : IsCut Fits (front ++ (block ++ items)) blocks) :
    ∃ front' blocks', IsCut Fits (front' ++ items) blocks' ∧ blocks'.length < blocks.length := by
  induction blocks generalizing front with
  | nil =>
    have hnil := hcut.flatten.symm
    rw [List.flatten_nil, List.append_eq_nil_iff, List.append_eq_nil_iff] at hnil
    exact absurd hnil.2.1 hne
  | cons first rest ih =>
    obtain ⟨hfirst, hfits⟩ := List.forall_mem_cons.mp hcut.fits
    have hflatten := hcut.flatten
    rw [List.flatten_cons] at hflatten
    rcases List.append_eq_append_iff.mp hflatten with ⟨more, hfront, hrest⟩ | ⟨part, hpart, hrest⟩
    · -- the first block ends before the greedy one begins
      obtain ⟨front', blocks', hcut', hlt⟩ := ih ⟨hrest, hfits⟩
      exact ⟨front', blocks', hcut', Nat.lt_succ_of_lt hlt⟩
    · -- it reaches into it, with a part that fits
      have hpartFits := hparts.back front part (hpart ▸ hfirst)
      rcases List.append_eq_append_iff.mp hrest with ⟨more, rfl, hitems⟩ | ⟨more, -, hrest'⟩
      · cases more with
        | nil => exact ⟨[], rest, ⟨hitems.symm, hfits⟩, Nat.lt_succ_self _⟩
        | cons item more =>
          rw [hitems] at hclosed
          refine absurd ?_ (hclosed item rfl)
          apply hparts.front _ more
          rwa [List.append_assoc, List.singleton_append]
      · exact ⟨more, rest, ⟨hrest', hfits⟩, Nat.lt_succ_self _⟩

/-- No cut has fewer blocks, not even of a longer list that ends with these items. -/
theorem IsGreedy.length_le (hparts : PartsFit Fits) (h : IsGreedy Fits items blocks) {front : List α}
    {blocks' : List (List α)} (hcut : IsCut Fits (front ++ items) blocks') :
    blocks.length ≤ blocks'.length := by
  induction h generalizing front blocks' with
  | done => exact Nat.zero_le _
  | @skip item items blocks _ ih =>
    have hlonger : IsCut Fits ((front ++ [item]) ++ items) blocks' := by
      rwa [List.append_assoc, List.singleton_append]
    exact ih hlonger
  | block hne hclosed _ ih =>
    obtain ⟨front', blocks'', hcut', hlt⟩ := hcut.behind hparts hne hclosed
    exact Nat.lt_of_le_of_lt (ih hcut') hlt

end Greedy
