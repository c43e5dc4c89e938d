import Mathlib
import Virtualization.Operation.Service

namespace Virtualization.Operation.GC

open List Function

section Count

variable {α : Type} (indexFunc : α → String) (maxCount : Int)

/-- The loop over the sorted objects, with the number of those seen of each index. -/
def beyond : List α → (String → Nat) → List α
  | [], _ => []
  | obj :: rest, indexed =>
    let index := indexFunc obj
    let later := beyond rest (update indexed index (indexed index + 1))
    if indexed index ≥ maxCount then obj :: later else later

/-- What the loop leaves: of each index the first `maxCount` objects, those seen before included. -/
theorem beyond_spec {R : α → α → Prop} {objs : List α} (sorted : objs.Pairwise R) (indexed : String → Nat) :
    ∃ kept, kept ++ beyond indexFunc maxCount objs indexed ~ objs ∧ ∀ index,
      kept.countP (indexFunc · = index) = min (maxCount.toNat - indexed index) (objs.countP (indexFunc · = index)) ∧
      ∀ new ∈ kept, ∀ old ∈ beyond indexFunc maxCount objs indexed,
        indexFunc new = index → indexFunc old = index → R new old := by
  induction sorted generalizing indexed with
  | nil => exact ⟨[], .rfl, fun index => ⟨by simp, nofun⟩⟩
  | @cons obj rest least _ ih =>
    obtain ⟨kept, perm, counts⟩ := ih (update indexed (indexFunc obj) (indexed (indexFunc obj) + 1))
    simp only [beyond]
    split
    · refine ⟨kept, perm_middle.trans (perm.cons obj), fun index => ?_⟩
      obtain ⟨count, younger⟩ := counts index
      by_cases here : indexFunc obj = index
      · -- none of this index is kept after it
        subst here
        have none : kept.countP (indexFunc · = indexFunc obj) = 0 := by
          rw [count, update_self]
          omega
        refine ⟨by omega, fun new isNew _ _ same _ => ?_⟩
        exact absurd (decide_eq_true same) (countP_eq_zero.mp none new isNew)
      · rw [update_of_ne (Ne.symm here)] at count
        refine ⟨by simpa [countP_cons, here] using count, fun new isNew old isOld same same' => ?_⟩
        obtain rfl | later := mem_cons.mp isOld
        · exact absurd same' here
        · exact younger new isNew old later same same'
    · refine ⟨obj :: kept, perm.cons obj, fun index => ?_⟩
      obtain ⟨count, younger⟩ := counts index
      refine ⟨?_, fun new isNew old isOld same same' => ?_⟩
      · rw [countP_cons, countP_cons, count]
        by_cases here : indexFunc obj = index
        · subst here
          simp only [update_self, decide_true, if_true]
          omega
        · simp [here, update_of_ne (Ne.symm here)]
      · obtain rfl | later := mem_cons.mp isNew
        · exact least old (perm.subset (mem_append_right _ isOld))
        · exact younger new later old isOld same same'

end Count

/-- What the collection reads of a `client.Object`. Times are in nanoseconds. -/
class ClientObject (α : Type) where
  getCreationTimestamp : α → Int
  isTerminating : α → Bool

open ClientObject

variable {α : Type} [ClientObject α] (now : Int)

/-- `Time.Sub` stops at the ends of a `Duration`, and `Truncate` drops the part below a second. -/
def getAge (obj : α) : Int :=
  let age := max (-2 ^ 63) (min (2 ^ 63 - 1) (now - getCreationTimestamp obj))
  age - age.tmod 1000000000

/-- `slices.SortFunc` puts objects of one age in any order. -/
structure Sorting (α : Type) [ClientObject α] (now : Int) where
  sort : List α → List α
  perm : ∀ objs, sort objs ~ objs
  sorted : ∀ objs, (sort objs).Pairwise fun a b => getAge now a ≤ getAge now b

instance : Inhabited (Sorting α now) where
  default :=
    { sort := fun objs => objs.mergeSort fun a b => getAge now a ≤ getAge now b
      perm := fun objs => mergeSort_perm objs _
      sorted := fun objs => (pairwise_mergeSort (by grind) (by grind) objs).imp of_decide_eq_true }

variable (isCandidate : α → Bool) (ttl : Int) (indexFunc : α → String) (maxCount : Int) (objs : List α)

def candidates : List α := objs.filter fun obj => isCandidate obj && !isTerminating obj

def expired : List α := (candidates isCandidate objs).filter (getAge now · > ttl)

def nonExpired : List α := (candidates isCandidate objs).filter fun obj => !decide (getAge now obj > ttl)

def defaultFilter (sorting : Sorting α now) : List α :=
  let result := expired now isCandidate ttl objs
  if maxCount ≤ 0 then result
  else result ++ beyond indexFunc maxCount (sorting.sort (nonExpired now isCandidate ttl objs)) fun _ => 0

instance : ClientObject VirtualMachineOperation where
  getCreationTimestamp vmop := vmop.creationTimestamp * 1000000000
  isTerminating vmop := vmop.deleting

def listForDelete (vmops : List VirtualMachineOperation) (sorting : Sorting VirtualMachineOperation now) :
    List VirtualMachineOperation :=
  defaultFilter now (·.isFinished) ttl (·.virtualMachine) maxCount vmops sorting

/-- An age in whole seconds, within the range of a `Duration`. -/
def wholeSeconds (age : Int) : Int := (max (-2 ^ 63) (min (2 ^ 63 - 1) age)).tdiv 1000000000

def Old (obj : α) : Prop := ttl < wholeSeconds (now - getCreationTimestamp obj) * 1000000000
deriving Decidable

/-- What a collection is to return: the candidates that are old and, of each index, those of the others that are not
    among the `maxCount` youngest, which are kept. -/
structure Collected (result : List α) : Prop where
  candidates : result <+~ objs.filter fun obj => isCandidate obj ∧ isTerminating obj = false
  parts : ∃ kept older, result ~ objs.filter (fun obj => (isCandidate obj ∧ isTerminating obj = false) ∧
        Old now ttl obj) ++ older ∧
      kept ++ older ~ objs.filter (fun obj => (isCandidate obj ∧ isTerminating obj = false) ∧ ¬Old now ttl obj) ∧
      (maxCount ≤ 0 → older = []) ∧
      (0 < maxCount → ∀ index, kept.countP (indexFunc · = index) = min maxCount.toNat
          (objs.countP fun obj => ((isCandidate obj ∧ isTerminating obj = false) ∧ ¬Old now ttl obj) ∧
            indexFunc obj = index) ∧
        ∀ new ∈ kept, ∀ old ∈ older, indexFunc new = index → indexFunc old = index →
          wholeSeconds (now - getCreationTimestamp new) ≤ wholeSeconds (now - getCreationTimestamp old))

theorem getAge_eq (obj : α) : getAge now obj = wholeSeconds (now - getCreationTimestamp obj) * 1000000000 := by
  unfold getAge wholeSeconds
  dsimp only
  rw [Int.tmod_def]
  omega

theorem expired_eq : expired now isCandidate ttl objs =
    objs.filter fun obj => (isCandidate obj ∧ isTerminating obj = false) ∧ Old now ttl obj := by
  unfold expired GC.candidates
  rw [filter_filter]
  refine filter_congr fun obj _ => Bool.eq_iff_iff.mpr ?_
  simp [getAge_eq, Old, and_comm]

theorem nonExpired_eq : nonExpired now isCandidate ttl objs =
    objs.filter fun obj => (isCandidate obj ∧ isTerminating obj = false) ∧ ¬Old now ttl obj := by
  unfold nonExpired GC.candidates
  rw [filter_filter]
  refine filter_congr fun obj _ => Bool.eq_iff_iff.mpr ?_
  simp [getAge_eq, Old, and_comm]

theorem candidates_eq : candidates isCandidate objs =
    objs.filter fun obj => isCandidate obj ∧ isTerminating obj = false :=
  filter_congr fun obj _ => by simp

theorem Collected.defaultFilter (sorting : Sorting α now) :
    Collected now isCandidate ttl indexFunc maxCount objs
      (defaultFilter now isCandidate ttl indexFunc maxCount objs sorting) := by
  have parts : expired now isCandidate ttl objs ++ nonExpired now isCandidate ttl objs ~
      GC.candidates isCandidate objs :=
    filter_append_perm _ _
  unfold GC.defaultFilter
  split
  · rename_i unlimited
    refine ⟨candidates_eq isCandidate objs ▸ filter_sublist.subperm, nonExpired now isCandidate ttl objs, [], ?_⟩
    rw [expired_eq, append_nil, append_nil, nonExpired_eq]
    exact ⟨.rfl, .rfl, fun _ => rfl, fun limited => absurd unlimited (not_le.mpr limited)⟩
  · rename_i limited
    have sorted := sorting.perm (nonExpired now isCandidate ttl objs)
    obtain ⟨kept, perm, counts⟩ := beyond_spec indexFunc maxCount (sorting.sorted (nonExpired now isCandidate ttl objs))
      fun _ => 0
    have all := perm.trans sorted
    refine ⟨?_, kept, _, by rw [← expired_eq], by rw [← nonExpired_eq]; exact all,
      fun unlimited => absurd unlimited limited, fun _ index => ⟨?_, fun new isNew old isOld same same' => ?_⟩⟩
    · have older := (sublist_append_right kept _).subperm.trans all.subperm
      exact candidates_eq isCandidate objs ▸ ((subperm_append_left _).mpr older).trans parts.subperm
    · rw [(counts index).1, sorted.countP_eq, nonExpired_eq, countP_filter]
      simp [and_comm]
    · have younger := (counts index).2 new isNew old isOld same same'
      rw [getAge_eq, getAge_eq] at younger
      omega

def finishedOperation : VirtualMachineOperation :=
  { name := "stop", uid := 1, resourceVersion := 1, creationTimestamp := 0, deleting := false, virtualMachine := "vm"
    type := .stop, force := none, restore := false, nodeSelector := false
    status := { Status.new with phase := .completed } }

end Virtualization.Operation.GC
