import Mathlib.Data.List.Dedup
import Mathlib.Data.List.Infix

namespace Virtualization.Library

open List

variable {α : Type} [DecidableEq α]

def next? : List α → List α → Option α
  | [], [] => none
  | [], name :: _ => some name
  | _ :: _, [] => none
  | first :: dir, second :: path => if first = second then next? dir path else none

theorem next?_eq_some {dir path : List α} {name : α} : next? dir path = some name ↔ dir ++ [name] <+: path := by
  induction dir generalizing path with
  | nil =>
    cases path with
    | nil => simp [next?]
    | cons => simp [next?, cons_prefix_cons, eq_comm]
  | cons _ _ ih =>
    cases path with
    | nil => simp [next?]
    | cons =>
      rw [next?, cons_append, cons_prefix_cons]
      split
      · rename_i same
        rw [ih]
        exact ⟨fun below => ⟨same, below⟩, (·.2)⟩
      rename_i different
      exact ⟨nofun, fun both => absurd both.1 different⟩

/-- The entries of a directory, in a tree that is given by its leaves. There are none in a directory that is not
    there. -/
def readDir (leaves : List (List α)) (dir : List α) : List α := (leaves.filterMap (next? dir)).dedup

theorem mem_readDir {leaves : List (List α)} {dir : List α} {name : α} :
    name ∈ readDir leaves dir ↔ ∃ leaf ∈ leaves, dir ++ [name] <+: leaf := by
  rw [readDir, mem_dedup, mem_filterMap]
  exact exists_congr fun leaf => and_congr_right fun _ => next?_eq_some

/-- Removes paths one after the other, each with what is below it, up to one that is not there. Tells what is left,
    and if all were there. -/
def removeEach : List (List α) → List (List α) → List (List α) × Bool
  | [], leaves => (leaves, true)
  | path :: rest, leaves =>
    if leaves.any (path <+: ·) then removeEach rest (leaves.filter (¬ path <+: ·)) else (leaves, false)

theorem removeEach_apart {paths leaves : List (List α)}
    (apart : paths.Pairwise fun first second => ¬ first <+: second ∧ ¬ second <+: first)
    (there : ∀ path ∈ paths, ∃ leaf ∈ leaves, path <+: leaf) : (removeEach paths leaves).2 ∧
      ∀ leaf, leaf ∈ (removeEach paths leaves).1 ↔ leaf ∈ leaves ∧ ∀ path ∈ paths, ¬ path <+: leaf := by
  induction paths generalizing leaves with
  | nil => exact ⟨rfl, fun leaf => by simp [removeEach]⟩
  | cons path rest ih =>
    obtain ⟨others, apart⟩ := pairwise_cons.mp apart
    have kept : ∀ other ∈ rest, ∃ leaf ∈ leaves.filter (¬ path <+: ·), other <+: leaf := by
      intro other member
      obtain ⟨leaf, isLeaf, below⟩ := there other (mem_cons_of_mem _ member)
      refine ⟨leaf, mem_filter.mpr ⟨isLeaf, decide_eq_true fun above => ?_⟩, below⟩
      -- Both paths lead to the leaf, so one is below the other.
      rcases prefix_or_prefix_of_prefix above below with one | two
      · exact (others other member).1 one
      · exact (others other member).2 two
    obtain ⟨removed, remaining⟩ := ih apart kept
    obtain ⟨leaf, isLeaf, below⟩ := there path (mem_cons_self ..)
    have present : leaves.any (path <+: ·) :=
      any_eq_true.mpr ⟨leaf, isLeaf, decide_eq_true below⟩
    rw [removeEach, if_pos present]
    refine ⟨removed, fun _ => ?_⟩
    rw [remaining, mem_filter, decide_eq_true_eq, forall_mem_cons, and_assoc]

end Virtualization.Library
