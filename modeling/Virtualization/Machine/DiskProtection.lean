import Virtualization.Attachment.Service
import Virtualization.Disk.Usage
import Virtualization.Library.Run
import Virtualization.Machine.BlockDevices

namespace Virtualization.Machine

open Attachment Virtualization.Core Disk Library Option

section

variable {update : Finalizer → Option Int → List Finalizer → List Finalizer} {ns : String}

def withFinalizers (update : Finalizer → Option Int → List Finalizer → List Finalizer) (vd : VirtualDisk) :
    VirtualDisk :=
  { vd with finalizers := update .vdProtection vd.deletionTimestamp vd.finalizers }

theorem fetchVD_updateDeviceFinalizers (c : Cluster) (bd : BlockDeviceRef) (ns' name' : String) :
    (updateDeviceFinalizers update ns c bd).fetchVD ns' name' =
      (c.fetchVD ns' name').map fun vd =>
        if bd = ⟨.diskDevice, name'⟩ ∧ ns' = ns then withFinalizers update vd else vd := by
  obtain ⟨kind, name⟩ := bd
  cases kind with
  | imageDevice | clusterImageDevice => simp [updateDeviceFinalizers, Cluster.fetchVD]
  | diskDevice =>
    have keyed : ∀ vd, (withFinalizers update vd).ns = vd.ns ∧ (withFinalizers update vd).name = vd.name :=
      fun _ => ⟨rfl, rfl⟩
    rw [show updateDeviceFinalizers update ns c ⟨.diskDevice, name⟩ = c.updateVD ns name (withFinalizers update)
      from rfl, Cluster.fetchVD_updateVD keyed]
    refine map_congr fun _ _ => ?_
    simp only [BlockDeviceRef.mk.injEq, true_and]
    by_cases here : ns' = ns ∧ name' = name
    · rw [if_pos here, if_pos ⟨here.2.symm, here.1⟩]
    · rw [if_neg here, if_neg fun other => here ⟨other.2, other.1.symm⟩]

theorem foldl_updateDeviceFinalizers_keeps {ns' name' : String} {refs : List BlockDeviceRef}
    (keeps : ∀ bd ∈ refs, bd = ⟨.diskDevice, name'⟩ → ns' = ns → ∀ since finalizers,
      .vdProtection ∈ finalizers → .vdProtection ∈ update .vdProtection since finalizers)
    {c : Cluster} (before : ∀ vd, c.fetchVD ns' name' = some vd → .vdProtection ∈ vd.finalizers) {after : VirtualDisk}
    (found : (refs.foldl (updateDeviceFinalizers update ns) c).fetchVD ns' name' = some after) :
    .vdProtection ∈ after.finalizers := by
  induction refs generalizing c with
  | nil => exact before after found
  | cons bd _ ih =>
    refine ih (fun other member => keeps other (.tail _ member)) (fun _ read => ?_) found
    rw [fetchVD_updateDeviceFinalizers] at read
    obtain ⟨old, stored, rfl⟩ := map_eq_some_iff.mp read
    split
    · rename_i here
      exact keeps bd (.head _) here.1 here.2 _ _ (before old stored)
    · exact before old stored

end

variable {order : MapOrder}

theorem blockDeviceHandler_keeps {faults : Faults} {c : Cluster} {vm : VirtualMachine} {name : String} {ns : String}
    {vd after : VirtualDisk} (stored : c.fetchVD ns name = some vd) (protected_ : .vdProtection ∈ vd.finalizers)
    (spared : vm.deletionTimestamp.isSome → vm.ns = ns → ⟨.diskDevice, name⟩ ∉ vm.blockDeviceRefs)
    (found : (blockDeviceHandler order faults c vm).1.fetchVD ns name = some after) :
    .vdProtection ∈ after.finalizers := by
  have before : ∀ vd, c.fetchVD ns name = some vd → .vdProtection ∈ vd.finalizers := by
    intro other same
    rw [stored] at same
    cases same
    exact protected_
  unfold blockDeviceHandler at found
  dsimp only at found
  generalize copy : (if (getCondition .blockDevicesReady vm.conditions).2 then vm
    else setBlockDevicesCondition (blockDevicesCondition vm .conditionUnknown .unknown "") vm) = changed at found
  have kept : changed.ns = vm.ns ∧ changed.blockDeviceRefs = vm.blockDeviceRefs := by
    rw [← copy]
    split <;> exact ⟨rfl, rfl⟩
  split at found
  · rename_i deleted
    refine foldl_updateDeviceFinalizers_keeps (fun _ member same inside => ?_) before found
    rw [same, kept.2] at member
    exact absurd member (spared deleted (inside.trans kept.1).symm)
  have added : ∀ vd, (setFinalizersOnBlockDevices c changed).fetchVD ns name = some vd →
      .vdProtection ∈ vd.finalizers := by
    intro other read
    refine foldl_updateDeviceFinalizers_keeps (fun _ _ _ _ _ _ member => ?_) before read
    unfold addFinalizer
    split
    · exact member
    · exact List.mem_append_left _ member
  split at found <;> exact added after found

namespace DiskProtection

def Working (vm : VirtualMachine) : Prop := vm.phase ≠ .unset ∧ vm.phase ≠ .stopped
deriving Decidable

def holdsVolume (c : Cluster) (vm : VirtualMachine) (disk : String) : Bool :=
  (c.fetchKVVM vm.ns vm.name).any fun kvvm => (templateVolume kvvm (generateDiskName .diskDevice disk)).isSome

def Holds (c : Cluster) (vd : VirtualDisk) (vm : VirtualMachine) : Prop :=
  c.fetchVM vd.ns vm.name = some vm ∧ Working vm ∧ holdsVolume c vm vd.name
deriving Decidable

inductive Action where
  | blockDevices (ns name : String) (order : MapOrder) (faults : Faults)
  | inUse (ns name : String) (order : MapOrder)
  | protect (ns name : String)
  | edit (c : Cluster)

def step (c : Cluster) : Action → Option Cluster
  | .blockDevices ns name order faults =>
    (c.fetchVM ns name).map fun vm =>
      (blockDeviceHandler order faults c vm).1.updateVM ns name fun _ => (blockDeviceHandler order faults c vm).2
  | .inUse ns name order => some (c.updateVD ns name (inUseHandler order c))
  | .protect ns name => some (c.updateVD ns name protectionHandler)
  | .edit c => some c

def KeepsProtection (c c' : Cluster) : Prop :=
  ∀ vd ∈ c.vds, c.fetchVD vd.ns vd.name = some vd → .vdProtection ∈ vd.finalizers → (∃ vm ∈ c.vms, Holds c vd vm) →
    ∀ after ∈ c'.fetchVD vd.ns vd.name, .vdProtection ∈ after.finalizers
deriving Decidable

def InUseByVM (vd : VirtualDisk) : Prop :=
  (getCondition .inUse vd.conditions).1.status = .conditionTrue ∧
    (getCondition .inUse vd.conditions).1.reason = .attachedToVirtualMachine
deriving Decidable

def Lawful (c : Cluster) : Action → Prop
  | .blockDevices ns name order faults => ∀ c' ∈ step c (.blockDevices ns name order faults), KeepsProtection c c'
  | .protect ns name => ∀ c' ∈ step c (.protect ns name), KeepsProtection c c'
  | .inUse ns name order =>
      (∀ c' ∈ step c (.inUse ns name order), KeepsProtection c c') ∧
      ∀ vd ∈ c.fetchVD ns name, (∃ vm ∈ c.vms, Holds c vd vm) → InUseByVM (inUseHandler order c vd)
  | .edit _ => True

instance (c : Cluster) (action : Action) : Decidable (Lawful c action) := by
  cases action <;> unfold Lawful <;> infer_instance

def StatusNames (c : Cluster) (vd : VirtualDisk) : Prop :=
  ∀ vm ∈ c.vms, Holds c vd vm → hasBlockDeviceStatusRef vm .diskDevice vd.name
deriving Decidable

def DeletableVM (c : Cluster) (vm : VirtualMachine) : Prop :=
  ¬ Working vm ∧ ∀ bd ∈ vm.blockDeviceRefs, bd.kind = .diskDevice → ∀ vd ∈ c.fetchVD vm.ns bd.name,
    StatusNames c vd ∧ ∀ other ∈ c.vms, other.ns = vm.ns → other.name ≠ vm.name →
      hasBlockDeviceStatusRef other .diskDevice bd.name = false
deriving Decidable

/-- Statuses are current when they are used: those of the VMs, the list of VMs of a disk, and a
    VM that is being deleted has come to rest. -/
def Careful (c : Cluster) : Action → Prop
  | .blockDevices ns name _ _ => ∀ vm ∈ c.fetchVM ns name, vm.deletionTimestamp.isSome → DeletableVM c vm
  | .inUse ns name _ => ∀ vd ∈ c.fetchVD ns name, StatusNames c vd
  | .protect ns name => ∀ vd ∈ c.fetchVD ns name, StatusNames c vd ∧ vd.phase ≠ .pending ∧
      checkUsageByVM vd = (virtualMachineUsageMap c vd).any Prod.snd
  | .edit _ => True

instance (c : Cluster) (action : Action) : Decidable (Careful c action) := by
  cases action <;> unfold Careful <;> infer_instance

section

variable {c : Cluster} {vd : VirtualDisk}

theorem StatusNames.lookup (named : StatusNames c vd) {vm : VirtualMachine} (member : vm ∈ c.vms)
    (holds : Holds c vd vm) : (virtualMachineUsageMap c vd).lookup vm.name = some true := by
  have shown := named vm member holds
  obtain ⟨stored, ⟨_, _⟩, -⟩ := holds
  refine lookup_filterMap_usageEntry stored ?_
  unfold usageEntry blockDeviceUsage
  cases phase : vm.phase <;> simp_all

theorem inUse_lawful {ns name : String} (careful : Careful c (.inUse ns name order)) :
    Lawful c (.inUse ns name order) := by
  constructor
  · rintro c' taken vd - stored protected_ - after found
    cases taken
    rw [mem_def, Cluster.fetchVD_updateVD (f := inUseHandler order c) fun _ => ⟨rfl, rfl⟩, stored] at found
    cases found
    split <;> exact protected_
  rintro vd stored ⟨vm, member, holds⟩
  have used := (careful vd stored).lookup member holds
  have mounted : checkUsageByVM (updateAttachedVirtualMachines order c vd) := any_attachedVirtualMachines used
  unfold InUseByVM
  rw [getCondition_inUseHandler]
  rw [inUseCondition, if_pos mounted]
  exact ⟨rfl, rfl⟩

theorem protect_lawful {ns name : String} (careful : Careful c (.protect ns name)) : Lawful c (.protect ns name) := by
  rintro c' taken vd - stored protected_ ⟨vm, member, holds⟩ after found
  cases taken
  rw [mem_def, Cluster.fetchVD_updateVD protectionHandler_key, stored] at found
  cases found
  split
  · rename_i here
    obtain ⟨rfl, rfl⟩ := here
    obtain ⟨named, settled, current⟩ := careful vd stored
    have used : (virtualMachineUsageMap c vd).any Prod.snd :=
      List.any_eq_true.mpr ⟨_, mem_of_lookup (named.lookup member holds), rfl⟩
    unfold protectionHandler
    dsimp only
    rw [if_neg (by simp [current.trans used, settled])]
    split
    · exact List.mem_append_left _ protected_
    · exact protected_
  · exact protected_

theorem blockDevices_lawful {ns name : String} {faults : Faults}
    (careful : Careful c (.blockDevices ns name order faults)) : Lawful c (.blockDevices ns name order faults) := by
  rintro c' taken vd - stored protected_ ⟨holder, member, holds⟩ after found
  obtain ⟨vm, machine, rfl⟩ := map_eq_some_iff.mp taken
  obtain ⟨vmNs, vmName⟩ := Cluster.fetchVM_key machine
  refine blockDeviceHandler_keeps stored protected_ (fun deleted inside specified => ?_) found
  obtain ⟨resting, free⟩ := careful vm machine deleted
  obtain ⟨named, unshared⟩ := free _ specified rfl vd (inside ▸ stored)
  have listed := named holder member holds
  by_cases same : holder.name = vm.name
  · have twice := holds.1
    rw [same, ← inside, vmNs, vmName, machine] at twice
    cases twice
    exact resting holds.2.1
  have holderNs : holder.ns = vm.ns := (Cluster.fetchVM_key holds.1).1.trans inside.symm
  rw [unshared holder member holderNs same] at listed
  cases listed

end

/-- In every run with current statuses a disk that is plugged into a VM keeps its protection. -/
theorem plugged_disk_protected {c : Cluster} {actions : List Action} (along : Along step Careful c actions) :
    Along step Lawful c actions := by
  refine along.mono fun _ action careful => ?_
  cases action with
  | blockDevices => exact blockDevices_lawful careful
  | inUse => exact inUse_lawful careful
  | protect => exact protect_lawful careful
  | edit => exact True.intro

def runningVM (deletionTimestamp : Option Int) (blockDeviceRefs : List BlockDeviceRef) (disk : String) :
    VirtualMachine :=
  { ns := "default", name := "web", generation := 1, deletionTimestamp, runPolicy := .alwaysOn
    paravirtualizationEnabled := true, blockDeviceRefs, phase := .running
    statusRefs := [⟨.diskDevice, disk, "1Gi", true, true, ""⟩], conditions := [] }

def holding (vm : VirtualMachine) (disk : String) : Cluster :=
  { vms := [vm]
    kvvms := [{ ns := "default", name := "web"
                template := some [⟨generateDiskName .diskDevice disk, .persistentVolumeClaim "pvc-data" true⟩]
                runStrategy := some .always, vmStartRequested := false, vmRestartRequested := false
                printableStatus := .running, synchronizedReason := .unset, stateChangeRequests := []
                volumeRequests := [] }]
    kvvmis := []
    pods := []
    pvcs := []
    vds := [{ ns := "default", name := disk, generation := 1, observedGeneration := 1, deletionTimestamp := none
              finalizers := [.vdProtection], phase := .ready, target := "pvc-data", capacity := "1Gi"
              attachedToVirtualMachines := [⟨"web", true⟩], conditions := [] }]
    vis := []
    cvis := []
    vmbdas := [] }

theorem plugged_disk_protected_running :
    Along step Lawful (holding (runningVM none [⟨.diskDevice, "data"⟩] "data") "data")
      [.blockDevices "default" "web" .asListed faultless, .inUse "default" "data" .asListed,
        .protect "default" "data"] :=
  plugged_disk_protected (by decide)

/-- A VM that is deleted while it runs gives its disk up. A disk with a hashed volume name is lost
    from the status once the specification does not name it any more. -/
theorem running_disk_unprotected :
    ¬ Along step Lawful (holding (runningVM (some 9) [⟨.diskDevice, "data"⟩] "data") "data")
      [.blockDevices "default" "web" .asListed faultless] ∧
    ¬ Along step Lawful (holding (runningVM none [] "a.b") "a.b")
      [.blockDevices "default" "web" .asListed faultless, .inUse "default" "a.b" .asListed] ∧
    (run step (holding (runningVM none [] "a.b") "a.b")
      [.blockDevices "default" "web" .asListed faultless, .inUse "default" "a.b" .asListed,
        .protect "default" "a.b"]).any (fun c => c.vds.all fun vd => .vdProtection ∉ vd.finalizers) := by
  refine ⟨?_, ?_, ?_⟩ <;> decide

end DiskProtection

end Virtualization.Machine
