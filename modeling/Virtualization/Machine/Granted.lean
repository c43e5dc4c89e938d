import Virtualization.Machine.BlockDevices

namespace Virtualization.Machine

open Virtualization.Core Disk List

def deviceReady (c : Cluster) (vm : VirtualMachine) (bd : BlockDeviceRef) : Bool :=
  match bd.kind with
  | .imageDevice => (c.fetchVI vm.ns bd.name).any (·.phase = .ready)
  | .clusterImageDevice => (c.fetchCVI bd.name).any (·.phase = .ready)
  | .diskDevice => (c.fetchVD vm.ns bd.name).any fun vd =>
      vd.target ≠ "" ∧ vd.deletionTimestamp = none ∧ (getCondition .ready vd.conditions).1.status = .conditionTrue

def diskGranted (vm : VirtualMachine) (vd : VirtualDisk) : Bool :=
  let condition := (getCondition .inUse vd.conditions).1
  isLastUpdated condition vd.generation ∧
    (condition.status = .conditionTrue ∧ condition.reason = .attachedToVirtualMachine ∧ checkVMToMountVD vd vm ∨
      condition.status ≠ .conditionTrue ∧ vm.phase = .stopped ∧ checkVDToUseVM vd vm)

section

variable {order : MapOrder} {c : Cluster} {vm : VirtualMachine}

theorem countReadyDevice_ready (wffc : Bool) (count : ReadyCount) (bd : BlockDeviceRef) :
    (countReadyDevice c vm wffc count bd).ready = count.ready + if deviceReady c vm bd then 1 else 0 := by
  unfold countReadyDevice deviceReady
  cases bd.kind with
  | imageDevice | clusterImageDevice => dsimp only; split <;> rfl
  | diskDevice =>
    cases c.fetchVD vm.ns bd.name with
    | none => rfl
    | some vd =>
      by_cases noTarget : vd.target = ""
      · simp [noTarget]
      cases deleted : vd.deletionTimestamp with
      | some => simp [noTarget, deleted]
      | none =>
        by_cases ready : (getCondition .ready vd.conditions).1.status = .conditionTrue
        all_goals simp [noTarget, deleted, ready]

theorem countReadyBlockDevices_ready (wffc : Bool) :
    (countReadyBlockDevices c vm wffc).ready = vm.blockDeviceRefs.countP (deviceReady c vm) := by
  have counted : ∀ (refs : List BlockDeviceRef) (count : ReadyCount),
      (refs.foldl (countReadyDevice c vm wffc) count).ready = count.ready + refs.countP (deviceReady c vm) := by
    intro refs
    induction refs with
    | nil => intro count; rfl
    | cons _ _ ih =>
      intro count
      rw [foldl_cons, ih, countReadyDevice_ready, countP_cons]
      omega
  simp [countReadyBlockDevices, counted]

theorem deviceReady_of_ready (ready : handleBlockDevicesReady order c vm = .ready) :
    ∀ bd ∈ vm.blockDeviceRefs, deviceReady c vm bd := by
  unfold handleBlockDevicesReady at ready
  dsimp only at ready
  rw [countReadyBlockDevices_ready] at ready
  split at ready
  · rename_i all
    exact countP_eq_length.mp all.symm
  · split at ready <;> cases ready

theorem handleDisk_readyToUse (state : VirtualDisksState) (vd : VirtualDisk) :
    (handleDisk vm state vd).readyToUse = state.readyToUse + if diskGranted vm vd then 1 else 0 := by
  unfold handleDisk diskGranted
  by_cases current : isLastUpdated (getCondition .inUse vd.conditions).1 vd.generation = true
  · unfold handleReadyForUseDisk handleAttachedDisk handleImageCreationDisk
    by_cases used : (getCondition .inUse vd.conditions).1.status = .conditionTrue
    · by_cases attached : (getCondition .inUse vd.conditions).1.reason = .attachedToVirtualMachine
      · by_cases mounts : checkVMToMountVD vd vm = true
        · simp [current, used, attached, mounts]
        · simp [current, used, attached, mounts]
      simp [current, used, attached]
      split <;> rfl
    simp [current, used]
    split <;> simp_all
  · simp [current]

theorem getVirtualDisksState_readyToUse (vds : List VirtualDisk) :
    (getVirtualDisksState vm vds).readyToUse = vds.countP (diskGranted vm) := by
  have counted : ∀ (vds : List VirtualDisk) (state : VirtualDisksState),
      (vds.foldl (handleDisk vm) state).readyToUse = state.readyToUse + vds.countP (diskGranted vm) := by
    intro vds
    induction vds with
    | nil => intro state; rfl
    | cons _ _ ih =>
      intro state
      rw [foldl_cons, ih, handleDisk_readyToUse, countP_cons]
      omega
  simp [getVirtualDisksState, counted]

theorem diskGranted_of_readyForUse (ready : handleVirtualDisksReadyForUse order c vm = none) :
    ∀ vd ∈ virtualDisksByName order c vm, diskGranted vm vd := by
  unfold handleVirtualDisksReadyForUse at ready
  dsimp only at ready
  rw [getVirtualDisksState_readyToUse] at ready
  split at ready
  · rename_i all
    exact countP_eq_length.mp all.symm
  · cases ready

theorem mem_virtualDisksByName {bd : BlockDeviceRef} {vd : VirtualDisk} (specified : bd ∈ vm.blockDeviceRefs)
    (disk : bd.kind = .diskDevice) (found : c.fetchVD vm.ns bd.name = some vd) :
    vd ∈ virtualDisksByName order c vm := by
  have named : bd.name ∈ diskNames vm := by
    refine mem_map_of_mem (mem_filter.mpr ⟨?_, by simp [disk]⟩)
    exact mem_dedup.mpr (mem_append_left _ specified)
  exact mem_filterMap.mpr ⟨bd.name, (order.perm _).mem_iff.mpr named, found⟩

theorem no_conflict_of_warnings (quiet : getBlockDeviceWarnings c vm = "") {bd : BlockDeviceRef}
    (specified : bd ∈ vm.blockDeviceRefs) :
    ∀ vmbda ∈ virtualMachineBlockDeviceAttachments c vm, vmbda.blockDeviceRef ≠ bd := by
  intro vmbda member same
  have conflicted : bd ∈ conflictedRefs c vm := by
    refine mem_filter.mpr ⟨specified, any_eq_true.mpr ⟨vmbda, member, by simpa using same⟩⟩
  unfold getBlockDeviceWarnings at quiet
  split at quiet
  · rename_i none_
    rw [none_] at conflicted
    cases conflicted
  have text := congrArg String.toList quiet
  simp at text

def BlockDevicesGranted (order : MapOrder) (c : Cluster) (vm : VirtualMachine) : Prop :=
  countBlockDevicesAttachedToVM c vm ≤ vmBlockDeviceAttachedLimit ∧
    (blockDevicesVerdict order c vm).status = .conditionTrue
deriving Decidable

theorem blockDevicesVerdict_true (granted : (blockDevicesVerdict order c vm).status = .conditionTrue) :
    getBlockDeviceWarnings c vm = "" ∧ handleBlockDevicesReady order c vm = .ready ∧
      handleVirtualDisksReadyForUse order c vm = none := by
  unfold blockDevicesVerdict at granted
  dsimp only at granted
  split at granted
  · cases granted
  rename_i quiet
  split at granted
  · cases granted
  · cases granted
  · cases granted
  rename_i ready free
  exact ⟨not_not.mp quiet, ready, free⟩

end

end Virtualization.Machine
