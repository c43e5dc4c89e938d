import Mathlib.Data.List.Basic

namespace Virtualization.Library

open List

variable {α : Type} {inside : α → Prop} [DecidablePred inside]

def SameRegion (inside : α → Prop) [DecidablePred inside] (left right : List α) : Prop :=
  left.filter inside = right.filter inside

variable {f : α → α}

theorem filter_map_kept {list : List α} (kept : ∀ x ∈ list, inside (f x) ↔ inside x) :
    (list.map f).filter inside = (list.filter inside).map f := by
  rw [filter_map]
  congr 1
  exact filter_congr fun x member => by simp [kept x member]

theorem find?_map_kept (kept : ∀ x, inside (f x) ↔ inside x) (list : List α) :
    (list.map f).find? (inside ·) = (list.find? (inside ·)).map f := by
  simp only [find?_map, Function.comp_def, kept]

theorem find?_map_update {chosen : α → Prop} [DecidablePred chosen] {here : Prop} [Decidable here]
    (kept : ∀ x, inside (f x) ↔ inside x) (settled : ∀ x, inside x → (chosen x ↔ here)) (list : List α) :
    (list.map fun x => if chosen x then f x else x).find? (inside ·) =
      (list.find? (inside ·)).map fun x => if here then f x else x := by
  have read : (list.map fun x => if chosen x then f x else x).find? (inside ·) =
      (list.find? (inside ·)).map fun x => if chosen x then f x else x := by
    refine find?_map_kept (fun x => ?_) list
    split
    · exact kept x
    · rfl
  rw [read]
  refine Option.map_congr fun x found => ?_
  have holds : inside x := by simpa using find?_some found
  simp only [settled x holds]

namespace SameRegion

variable {left right : List α}

section

variable (same : SameRegion inside left right)
include same

theorem find?_eq (test : α → Prop) [DecidablePred test] :
    left.find? (fun x => inside x ∧ test x) = right.find? (fun x => inside x ∧ test x) := by
  have local_ : ∀ list : List α, list.find? (fun x => inside x ∧ test x) = (list.filter inside).find? (test ·) := by
    intro list
    simp
  rw [local_, local_, show left.filter inside = right.filter inside from same]

theorem any_eq (test : α → Prop) [DecidablePred test] :
    left.any (fun x => inside x ∧ test x) = right.any (fun x => inside x ∧ test x) := by
  have local_ : ∀ list : List α, list.any (fun x => inside x ∧ test x) = (list.filter inside).any (test ·) := by
    intro list
    simp
  rw [local_, local_, show left.filter inside = right.filter inside from same]

theorem filter_eq (test : α → Prop) [DecidablePred test]
    (leftInside : ∀ x ∈ left, test x → inside x) (rightInside : ∀ x ∈ right, test x → inside x) :
    left.filter test = right.filter test := by
  have local_ : ∀ list : List α, (∀ x ∈ list, test x → inside x) →
      list.filter test = (list.filter inside).filter test := by
    intro list contained
    rw [filter_filter]
    refine filter_congr fun x member => ?_
    by_cases holds : test x
    · simp [holds, contained x member holds]
    · simp [holds]
  rw [local_ left leftInside, local_ right rightInside, show left.filter inside = right.filter inside from same]

theorem map (f g : α → α) (leftKept : ∀ x ∈ left, inside (f x) ↔ inside x)
    (rightKept : ∀ x ∈ right, inside (g x) ↔ inside x) (alike : ∀ x ∈ left, inside x → f x = g x) :
    SameRegion inside (left.map f) (right.map g) := by
  unfold SameRegion
  rw [filter_map_kept leftKept, filter_map_kept rightKept, ← show left.filter inside = right.filter inside from same]
  refine map_congr_left fun x member => ?_
  obtain ⟨present, holds⟩ := mem_filter.mp member
  exact alike x present (by simpa using holds)

end

end SameRegion

end Virtualization.Library
