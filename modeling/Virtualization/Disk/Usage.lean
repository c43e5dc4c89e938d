import Virtualization.Disk.InUse

namespace Virtualization.Disk

open Virtualization.Core List

structure MountedBy (vd : VirtualDisk) (name : String) : Prop where
  mounted : checkUsageByVM vd
  only : ∀ attached ∈ vd.attachedToVirtualMachines, attached.mounted → attached.name = name

def SingleMount (vd : VirtualDisk) : Prop :=
  ∀ one ∈ vd.attachedToVirtualMachines, ∀ other ∈ vd.attachedToVirtualMachines,
    one.mounted → other.mounted → one.name = other.name

section

variable {order : MapOrder} {vd : VirtualDisk} {usage : List (String × Bool)}

def ranged (order : MapOrder) (usage : List (String × Bool)) : List (String × Bool) :=
  (order.keys (usage.map Prod.fst)).filterMap fun name => (usage.lookup name).map fun mounted => (name, mounted)

theorem attachedVirtualMachines_eq (order : MapOrder) (vd : VirtualDisk) (usage : List (String × Bool)) :
    attachedVirtualMachines order vd usage =
      if usage.lookup (getCurrentlyMountedVMName vd) = some true then
        (ranged order usage).map fun entry => { name := entry.1, mounted := entry.1 = getCurrentlyMountedVMName vd }
      else mountFirst (ranged order usage) := rfl

variable {name : String} {mounted : Bool}

theorem mem_of_lookup (found : usage.lookup name = some mounted) : (name, mounted) ∈ usage := by
  obtain ⟨_, _, rfl, -⟩ := lookup_eq_some_iff.mp found
  simp

theorem mem_ranged (found : usage.lookup name = some mounted) : (name, mounted) ∈ ranged order usage := by
  have key : name ∈ usage.map Prod.fst := mem_map_of_mem (mem_of_lookup found)
  exact mem_filterMap.mpr ⟨name, (order.perm _).mem_iff.mpr key, by rw [found]; rfl⟩

theorem lookup_of_mem_ranged {entry : String × Bool} (member : entry ∈ ranged order usage) :
    usage.lookup entry.1 = some entry.2 := by
  obtain ⟨_, -, found⟩ := mem_filterMap.mp member
  obtain ⟨_, looked, rfl⟩ := Option.map_eq_some_iff.mp found
  exact looked

theorem mountFirst_any {entries : List (String × Bool)} (member : (name, true) ∈ entries) :
    (mountFirst entries).any AttachedVirtualMachine.mounted := by
  induction entries with
  | nil => cases member
  | cons entry rest ih =>
    obtain ⟨_, mounted⟩ := entry
    cases mounted with
    | true => rfl
    | false =>
      have later : (name, true) ∈ rest := by simpa using member
      simpa [mountFirst] using ih later

theorem mountFirst_none {entries : List (String × Bool)} (idle : ∀ entry ∈ entries, entry.2 = false) :
    (mountFirst entries).any AttachedVirtualMachine.mounted = false := by
  induction entries with
  | nil => rfl
  | cons entry _ ih =>
    obtain ⟨key, mounted⟩ := entry
    obtain rfl : mounted = false := idle (key, mounted) (.head _)
    simpa [mountFirst] using ih fun other member => idle other (.tail _ member)

theorem mountFirst_single (entries : List (String × Bool)) : ∀ one ∈ mountFirst entries, ∀ other ∈ mountFirst entries,
      one.mounted → other.mounted → one.name = other.name := by
  induction entries with
  | nil =>
    intro one member
    cases member
  | cons entry rest ih =>
    obtain ⟨key, mounted⟩ := entry
    cases mounted with
    | true =>
      have first : ∀ one ∈ mountFirst ((key, true) :: rest), one.mounted → one.name = key := by
        intro one member mounts
        rcases mem_cons.mp member with rfl | later
        · rfl
        obtain ⟨_, -, rfl⟩ := mem_map.mp later
        cases mounts
      intro one oneMember other otherMember oneMounts otherMounts
      rw [first one oneMember oneMounts, first other otherMember otherMounts]
    | false =>
      intro one oneMember other otherMember oneMounts otherMounts
      rcases mem_cons.mp oneMember with rfl | oneLater
      · cases oneMounts
      rcases mem_cons.mp otherMember with rfl | otherLater
      · cases otherMounts
      · exact ih one oneLater other otherLater oneMounts otherMounts

theorem any_attachedVirtualMachines (used : usage.lookup name = some true) :
    (attachedVirtualMachines order vd usage).any AttachedVirtualMachine.mounted := by
  rw [attachedVirtualMachines_eq]
  split
  · rename_i kept
    exact any_eq_true.mpr ⟨_, mem_map_of_mem (mem_ranged kept), by simp⟩
  · exact mountFirst_any (mem_ranged used)

theorem any_attachedVirtualMachines_idle (idle : ∀ name, usage.lookup name ≠ some true) :
    (attachedVirtualMachines order vd usage).any AttachedVirtualMachine.mounted = false := by
  rw [attachedVirtualMachines_eq, if_neg (idle _)]
  refine mountFirst_none fun entry member => ?_
  have found := lookup_of_mem_ranged member
  cases mounted : entry.2 with
  | false => rfl
  | true => exact absurd (mounted ▸ found) (idle entry.1)

theorem MountedBy.current (mounted : MountedBy vd name) : getCurrentlyMountedVMName vd = name := by
  unfold getCurrentlyMountedVMName
  obtain ⟨attached, member, mounts⟩ := any_eq_true.mp mounted.mounted
  split
  · rename_i first found
    exact mounted.only first (mem_of_find?_eq_some found) (find?_some found)
  rename_i absent
  exact absurd mounts (by simpa using find?_eq_none.mp absent attached member)

theorem MountedBy.unique {other : String} (one : MountedBy vd name) (two : MountedBy vd other) : other = name := by
  obtain ⟨attached, member, mounts⟩ := any_eq_true.mp one.mounted
  rw [← one.only attached member mounts, ← two.only attached member mounts]

theorem SingleMount.of_free (free : checkUsageByVM vd = false) : SingleMount vd := by
  intro one member _ _ mounts
  exact absurd mounts (by simpa using any_eq_false.mp free one member)

variable {c : Cluster}

theorem updateAttachedVirtualMachines_single (order : MapOrder) (c : Cluster) (vd : VirtualDisk) :
    SingleMount (updateAttachedVirtualMachines order c vd) := by
  intro one oneMember other otherMember oneMounts otherMounts
  simp only [updateAttachedVirtualMachines, attachedVirtualMachines_eq] at oneMember otherMember
  split at oneMember
  · rename_i kept
    rw [if_pos kept] at otherMember
    obtain ⟨_, -, rfl⟩ := mem_map.mp oneMember
    obtain ⟨_, -, rfl⟩ := mem_map.mp otherMember
    exact (of_decide_eq_true oneMounts).trans (of_decide_eq_true otherMounts).symm
  rename_i free
  rw [if_neg free] at otherMember
  exact mountFirst_single _ one oneMember other otherMember oneMounts otherMounts

theorem MountedBy.updateAttachedVirtualMachines (mounted : MountedBy vd name)
    (used : (virtualMachineUsageMap c vd).lookup name = some true) :
    MountedBy (Disk.updateAttachedVirtualMachines order c vd) name := by
  refine ⟨any_attachedVirtualMachines used, fun _ member mounts => ?_⟩
  simp only [Disk.updateAttachedVirtualMachines, attachedVirtualMachines_eq, mounted.current, used, if_true] at member
  obtain ⟨_, -, rfl⟩ := mem_map.mp member
  exact of_decide_eq_true mounts

variable {vm : VirtualMachine}

theorem usageEntry_name {entry : String × Bool} (listed : usageEntry c vd vm = some entry) : entry.1 = vm.name := by
  unfold usageEntry at listed
  split at listed
  · cases listed
  cases listed
  rfl

theorem lookup_filterMap_usageEntry {vms : List VirtualMachine}
    (stored : vms.find? (fun other => other.ns = vd.ns ∧ other.name = vm.name) = some vm)
    (used : usageEntry c vd vm = some (vm.name, mounted)) :
    ((vms.filter (·.ns = vd.ns)).filterMap (usageEntry c vd)).lookup vm.name = some mounted := by
  induction vms with
  | nil => cases stored
  | cons other _ ih =>
    by_cases inside : other.ns = vd.ns
    · by_cases here : other.name = vm.name
      · rw [find?_cons_of_pos (by simp [inside, here])] at stored
        cases stored
        simp [inside, used]
      rw [find?_cons_of_neg (by simp [here])] at stored
      rw [filter_cons_of_pos (by simpa using inside), filterMap_cons]
      split
      · exact ih stored
      rename_i entry listed
      have different : (vm.name == entry.1) = false := by
        rw [usageEntry_name listed]
        simpa using Ne.symm here
      rw [lookup_cons, different]
      exact ih stored
    rw [find?_cons_of_neg (by simp [inside])] at stored
    rw [filter_cons_of_neg (by simpa using inside)]
    exact ih stored

theorem getCondition_inUseHandler (order : MapOrder) (c : Cluster) (vd : VirtualDisk) :
    getCondition .inUse (inUseHandler order c vd).conditions =
      (inUseCondition c (updateAttachedVirtualMachines order c vd), true) := by
  have type : (inUseCondition c (updateAttachedVirtualMachines order c vd)).type = .inUse := by
    unfold inUseCondition
    repeat' split
    all_goals rfl
  have set := getCondition_setCondition (inUseCondition c (updateAttachedVirtualMachines order c vd)) vd.conditions
  rwa [type] at set

theorem protectionHandler_key (vd : VirtualDisk) :
    (protectionHandler vd).ns = vd.ns ∧ (protectionHandler vd).name = vd.name := by
  unfold protectionHandler
  repeat' split
  all_goals exact ⟨rfl, rfl⟩

end

end Virtualization.Disk
