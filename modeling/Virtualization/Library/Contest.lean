import Mathlib.Data.List.MinMax

/-!
Entrants of a contest are ranked by a key, and some of them have started. An entrant may go
ahead when nobody else has started and everybody else ranks behind it.
-/

namespace Virtualization.Library

open List

variable {α κ : Type} [LinearOrder κ] {key : α → κ} {started : α → Prop} {entries : List α}

def Ahead (key : α → κ) (started : α → Prop) (entries : List α) (x : α) : Prop :=
  ∀ y ∈ entries, key y ≠ key x → ¬ started y ∧ key x < key y

structure Contest (key : α → κ) (started : α → Prop) (entries : List α) : Prop where
  distinct : ∀ x ∈ entries, ∀ y ∈ entries, key x = key y → x = y
  first : ∀ x ∈ entries, started x → ∀ y ∈ entries, key x ≤ key y

namespace Contest

section

variable (contest : Contest key started entries)
include contest

variable {x : α}

theorem ahead_of_started (member : x ∈ entries) (running : started x) : Ahead key started entries x := by
  intro y present other
  refine ⟨fun alsoStarted => other ?_, ?_⟩
  · exact le_antisymm (contest.first y present alsoStarted x member) (contest.first x member running y present)
  · exact lt_of_le_of_ne (contest.first x member running y present) other.symm

theorem ahead_of_least (member : x ∈ entries) (least : ∀ y ∈ entries, key x ≤ key y) : Ahead key started entries x := by
  intro y present other
  refine ⟨fun running => other ?_, lt_of_le_of_ne (least y present) other.symm⟩
  exact le_antisymm (contest.first y present running x member) (least y present)

theorem existsUnique_ahead (inhabited : entries ≠ []) : ∃! x, x ∈ entries ∧ Ahead key started entries x := by
  obtain ⟨x, least⟩ := Option.ne_none_iff_exists'.mp (mt (argmin_eq_none (f := key)).mp inhabited)
  have member : x ∈ entries := argmin_mem least
  have minimal : ∀ y ∈ entries, key x ≤ key y := fun y present => le_of_mem_argmin present least
  refine ⟨x, ⟨member, contest.ahead_of_least member minimal⟩, ?_⟩
  rintro y ⟨present, ahead⟩
  by_contra other
  have behind := (ahead x member fun same => other (contest.distinct y present x member same.symm)).2
  exact absurd (minimal y present) (not_le.mpr behind)

theorem enter (fresh : ∀ y ∈ entries, key y ≠ key x) (ahead : Ahead key started entries x) :
    Contest key started (entries ++ [x]) := by
  have behind : ∀ y ∈ entries, key x ≤ key y := fun y present => (ahead y present (fresh y present)).2.le
  constructor
  · intro y present z other same
    rw [mem_append, mem_singleton] at present other
    rcases present with present | rfl <;> rcases other with other | rfl
    · exact contest.distinct y present z other same
    · exact absurd same (fresh y present)
    · exact absurd same.symm (fresh z other)
    · rfl
  intro y present running z other
  rw [mem_append, mem_singleton] at present other
  rcases present with present | rfl
  · exact absurd running (ahead y present (fresh y present)).1
  rcases other with other | rfl
  · exact behind z other
  · exact le_rfl

theorem map {f : α → α} (ranked : ∀ x ∈ entries, key (f x) = key x)
    (starts : ∀ x ∈ entries, started (f x) → started x ∨ Ahead key started entries x) :
    Contest key started (entries.map f) := by
  constructor
  · intro y present z other same
    obtain ⟨y, yMember, rfl⟩ := mem_map.mp present
    obtain ⟨z, zMember, rfl⟩ := mem_map.mp other
    rw [ranked y yMember, ranked z zMember] at same
    rw [contest.distinct y yMember z zMember same]
  intro y present running z other
  obtain ⟨y, yMember, rfl⟩ := mem_map.mp present
  obtain ⟨z, zMember, rfl⟩ := mem_map.mp other
  rw [ranked y yMember, ranked z zMember]
  rcases starts y yMember running with before | ahead
  · exact contest.first y yMember before z zMember
  by_cases same : key z = key y
  · exact same.ge
  · exact (ahead z zMember same).2.le

end

end Contest

end Virtualization.Library
