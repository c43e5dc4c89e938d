import Mathlib.Data.List.Basic

namespace Virtualization.Library

open List

variable {α δ : Type}

/-- A copy that follows its source through a log of edits it has not taken yet, oldest first. -/
structure Replica (α δ : Type) where
  (source copy : α)
  log : List δ

namespace Replica

def synced (value : α) : Replica α δ := { source := value, copy := value, log := [] }

variable (apply : α → δ → α)

def write (edit : δ) (replica : Replica α δ) : Replica α δ :=
  { replica with source := apply replica.source edit, log := replica.log ++ [edit] }

def deliver (replica : Replica α δ) : Option (δ × Replica α δ) :=
  match replica.log with
  | [] => none
  | edit :: rest => some (edit, { replica with copy := apply replica.copy edit, log := rest })

/-- Taking the whole log would bring the copy up to the source. -/
def InStep (replica : Replica α δ) : Prop :=
  replica.log.foldl apply replica.copy = replica.source

variable {apply : α → δ → α} {replica : Replica α δ}

theorem InStep.write (inStep : InStep apply replica) (edit : δ) : InStep apply (replica.write apply edit) := by
  unfold InStep at inStep ⊢
  simp only [Replica.write, foldl_append, foldl_cons, foldl_nil, inStep]

theorem deliver_some {result : Replica α δ} {edit : δ} (delivered : replica.deliver apply = some (edit, result)) :
    replica.log = edit :: result.log ∧ result.source = replica.source ∧
      result.copy = apply replica.copy edit := by
  unfold Replica.deliver at delivered
  split at delivered
  · cases delivered
  rename_i pending
  cases delivered
  exact ⟨pending, rfl, rfl⟩

theorem InStep.deliver {result : Replica α δ} {edit : δ} (inStep : InStep apply replica)
    (delivered : replica.deliver apply = some (edit, result)) : InStep apply result := by
  obtain ⟨pending, source, copy⟩ := deliver_some delivered
  unfold InStep at inStep ⊢
  rw [pending, foldl_cons] at inStep
  rw [copy, inStep, source]

theorem InStep.measure_le (inStep : InStep apply replica) (measure : α → Nat) (raises : δ → Bool)
    (raised : ∀ value edit, measure (apply value edit) ≤ measure value + if raises edit then 1 else 0) :
    measure replica.source ≤ measure replica.copy + replica.log.countP raises := by
  rw [← inStep]
  generalize replica.copy = value
  induction replica.log generalizing value with
  | nil => simp
  | cons edit _ ih =>
    have first := raised value edit
    have tail := ih (apply value edit)
    rw [foldl_cons, countP_cons]
    omega

end Replica

end Virtualization.Library
