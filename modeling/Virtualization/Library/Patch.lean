import Mathlib.Logic.Function.Basic

namespace Virtualization.Library

open Function

inductive PatchOp where
  | test | add | replace | remove

/-- An operation of a JSON patch on a document whose fields are known. A value of `none` is null. -/
structure PatchOperation (φ : Type) (ν : φ → Type) where
  op : PatchOp
  path : φ
  value : Option (ν path)

variable {φ : Type} {ν : φ → Type} [DecidableEq φ] [∀ f, DecidableEq (ν f)]

/-- A `replace` of a field that is not there is taken as an `add`. -/
def PatchOperation.apply (o : PatchOperation φ ν) (d : (f : φ) → Option (ν f)) : Option ((f : φ) → Option (ν f)) :=
  match o.op with
  | .test => if (d o.path).isSome ∧ d o.path = o.value then some d else none
  | .add | .replace => some (update d o.path o.value)
  | .remove => if (d o.path).isSome then some (update d o.path none) else none

def applyPatch (d : (f : φ) → Option (ν f)) : List (PatchOperation φ ν) → Option ((f : φ) → Option (ν f))
  | [] => some d
  | o :: rest => (o.apply d).bind fun d => applyPatch d rest

variable {d e : (f : φ) → Option (ν f)} {o : PatchOperation φ ν}

open PatchOperation

theorem PatchOperation.apply_other (applied : o.apply d = some e) {f : φ} (other : f ≠ o.path) : e f = d f := by
  unfold apply at applied
  split at applied
  · split at applied <;> cases applied
    rfl
  · cases applied
    exact update_of_ne other ..
  · cases applied
    exact update_of_ne other ..
  split at applied <;> cases applied
  exact update_of_ne other ..

theorem applyPatch_append (d : (f : φ) → Option (ν f)) (first second : List (PatchOperation φ ν)) :
    applyPatch d (first ++ second) = (applyPatch d first).bind fun d => applyPatch d second := by
  induction first generalizing d with
  | nil => rfl
  | cons o _ ih =>
    simp only [List.cons_append, applyPatch]
    cases o.apply d with
    | none => rfl
    | some e => exact ih e

theorem applyPatch_other {ops : List (PatchOperation φ ν)} (applied : applyPatch d ops = some e) {f p : φ}
    (paths : ∀ o ∈ ops, o.path = p) (other : f ≠ p) : e f = d f := by
  induction ops generalizing d with
  | nil =>
    cases applied
    rfl
  | cons _ _ ih =>
    obtain ⟨_, first, second⟩ := Option.bind_eq_some_iff.mp applied
    obtain ⟨path, paths⟩ := List.forall_mem_cons.mp paths
    rw [ih second paths]
    exact apply_other first (path ▸ other)

theorem PatchOperation.apply_set (applied : o.apply d = some e) (sets : o.op = .add ∨ o.op = .replace) :
    e o.path = o.value := by
  unfold apply at applied
  rcases sets with set | set <;> rw [set] at applied <;> cases applied <;> exact update_self ..

theorem PatchOperation.apply_test (applied : o.apply d = some e) (tests : o.op = .test) :
    e = d ∧ d o.path = o.value := by
  unfold apply at applied
  rw [tests] at applied
  obtain ⟨same, ⟨⟩⟩ := Option.ite_none_right_eq_some.mp applied
  exact ⟨rfl, same.2⟩

end Virtualization.Library
