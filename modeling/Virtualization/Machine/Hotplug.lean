import Virtualization.Attachment.Service
import Virtualization.Library.Run
import Virtualization.Machine.DiskProtection
import Virtualization.Machine.Granted

namespace Virtualization.Machine

open Attachment Virtualization.Core Disk Library

inductive HotplugRequest where
  | plug (bd : BlockDeviceRef) (volume : Volume)
  | unplug (volumeName : String)

structure HotplugFaults where
  (fetchKVVMI fetchKVVM listAttachments : Bool)
  fetchDevice : BlockDeviceRef → Bool
  refused : HotplugRequest → Bool

def kvvmDevices (seeds : List BlockDeviceRef) (kvvm : KVVM) : List (BlockDeviceRef × String) :=
  (kvvm.template.getD []).foldl (fun devices volume =>
    match resolve seeds volume.name with
    | none => devices
    | some bd => devices.filter (·.1 ≠ bd) ++ [(bd, volume.name)]) []

def requestedVolume : VolumeRequest → String
  | .addVolume volume => volume.name
  | .removeVolume name => name

def pendingVolumes (kvvm : KVVM) : List String := kvvm.volumeRequests.map requestedVolume

def buildAttachmentDisk (c : Cluster) (ns : String) (bd : BlockDeviceRef) : Option AttachmentDisk :=
  match bd.kind with
  | .diskDevice => ((c.fetchVD ns bd.name).filter (·.target ≠ "")).map newAttachmentDiskFromVirtualDisk
  | .imageDevice => (c.fetchVI ns bd.name).map newAttachmentDiskFromVirtualImage
  | .clusterImageDevice => (c.fetchCVI bd.name).map newAttachmentDiskFromClusterVirtualImage

def plugRequest (faults : HotplugFaults) (c : Cluster) (vm : VirtualMachine) (kvvm : KVVM) (bd : BlockDeviceRef) :
    Option HotplugRequest :=
  if bd ∈ (kvvmDevices (resolverSeeds c vm) kvvm).map Prod.fst then none
  else if generateDiskName bd.kind bd.name ∈ pendingVolumes kvvm then none
  else if faults.fetchDevice bd then none
  else ((buildAttachmentDisk c vm.ns bd).bind hotPlugVolume).map (.plug bd)

def unplugRequest (c : Cluster) (vm : VirtualMachine) (kvvm : KVVM) (device : BlockDeviceRef × String) :
    Option HotplugRequest :=
  if device.1 ∈ vm.blockDeviceRefs then none
  else if device.1 ∈ (virtualMachineBlockDeviceAttachments c vm).map
      VirtualMachineBlockDeviceAttachment.blockDeviceRef then none
  else if device.2 ∈ pendingVolumes kvvm then none
  else some (.unplug device.2)

def heldBack (vm : VirtualMachine) : Bool :=
  (getCondition .blockDevicesReady vm.conditions).2 ∧
    (getCondition .blockDevicesReady vm.conditions).1.status ≠ .conditionTrue

def hotplugHandler (faults : HotplugFaults) (c : Cluster) (current : VirtualMachine) : List HotplugRequest :=
  if current.deletionTimestamp.isSome ∨ faults.fetchKVVMI ∨ c.fetchKVVMI current.ns current.name = none ∨
      current.paravirtualizationEnabled = false ∨ current.phase = .migrating ∨ heldBack current ∨ faults.fetchKVVM then
    []
  else
    match c.fetchKVVM current.ns current.name with
    | none => []
    | some kvvm =>
      if faults.listAttachments then []
      else
        (current.blockDeviceRefs.filterMap (plugRequest faults c current kvvm) ++
          (kvvmDevices (resolverSeeds c current) kvvm).filterMap (unplugRequest c current kvvm)).filter fun request =>
            !faults.refused request

def GrantedForPlug (c : Cluster) (vm : VirtualMachine) (bd : BlockDeviceRef) : Prop :=
  (∃ vd ∈ c.fetchVD vm.ns bd.name,
    (getCondition .ready vd.conditions).1.status = .conditionTrue ∧ vd.deletionTimestamp = none ∧
    (getCondition .inUse vd.conditions).1.status = .conditionTrue ∧
    isLastUpdated (getCondition .inUse vd.conditions).1 vd.generation ∧ checkVMToMountVD vd vm) ∧
  (∀ vmbda ∈ virtualMachineBlockDeviceAttachments c vm, vmbda.blockDeviceRef ≠ bd) ∧
  countBlockDevicesAttachedToVM c vm ≤ vmBlockDeviceAttachedLimit
deriving Decidable

section

variable {order : MapOrder} {faults : HotplugFaults} {c : Cluster} {vm : VirtualMachine} {bd : BlockDeviceRef}

theorem BlockDevicesGranted.forPlug (granted : BlockDevicesGranted order c vm) (working : vm.phase ≠ .stopped)
    (specified : bd ∈ vm.blockDeviceRefs) (disk : bd.kind = .diskDevice) : GrantedForPlug c vm bd := by
  obtain ⟨quiet, ready, free⟩ := blockDevicesVerdict_true granted.2
  have prepared := deviceReady_of_ready ready bd specified
  simp only [deviceReady, disk] at prepared
  obtain ⟨vd, found, usable⟩ := (Option.any_eq_true _ _).mp prepared
  obtain ⟨-, alive, isReady⟩ := of_decide_eq_true usable
  have mounted := of_decide_eq_true (diskGranted_of_readyForUse free vd (mem_virtualDisksByName specified disk found))
  obtain ⟨current, ⟨used, -, mounts⟩ | ⟨-, stopped, -⟩⟩ := mounted
  · exact ⟨⟨vd, found, isReady, alive, used, current, mounts⟩, no_conflict_of_warnings quiet specified, granted.1⟩
  · exact absurd stopped working

def onKVVM (c : Cluster) (vm : VirtualMachine) (bd : BlockDeviceRef) : Bool :=
  (c.fetchKVVM vm.ns vm.name).any fun kvvm => bd ∈ (kvvmDevices (resolverSeeds c vm) kvvm).map Prod.fst

theorem hotplugHandler_plug {volume : Volume} (sent : .plug bd volume ∈ hotplugHandler faults c vm) :
    heldBack vm = false ∧ bd ∈ vm.blockDeviceRefs ∧ onKVVM c vm bd = false := by
  unfold hotplugHandler at sent
  split at sent
  · cases sent
  rename_i willing
  split at sent
  · cases sent
  rename_i kvvm found
  split at sent
  · cases sent
  refine ⟨by simp_all, ?_⟩
  rcases List.mem_append.mp (List.mem_of_mem_filter sent) with plugged | unplugged
  · obtain ⟨_, listed, request⟩ := List.mem_filterMap.mp plugged
    unfold plugRequest at request
    split at request
    · cases request
    rename_i absent
    iterate 2
      split at request
      · cases request
    obtain ⟨_, -, ⟨⟩⟩ := Option.map_eq_some_iff.mp request
    exact ⟨listed, by rw [onKVVM, found]; exact decide_eq_false absent⟩
  obtain ⟨_, -, request⟩ := List.mem_filterMap.mp unplugged
  unfold unplugRequest at request
  repeat' split at request
  all_goals cases request

/-- What counts of a disk when it is plugged. -/
structure DiskState where
  (ready inUse : ConditionStatus)
  deletionTimestamp : Option Int
  (observed mounted : Bool)
deriving DecidableEq

def diskState (vm : VirtualMachine) (vd : VirtualDisk) : DiskState where
  ready := (getCondition .ready vd.conditions).1.status
  inUse := (getCondition .inUse vd.conditions).1.status
  deletionTimestamp := vd.deletionTimestamp
  observed := isLastUpdated (getCondition .inUse vd.conditions).1 vd.generation
  mounted := checkVMToMountVD vd vm

def namedByAttachment (c : Cluster) (vm : VirtualMachine) (bd : BlockDeviceRef) : Bool :=
  (virtualMachineBlockDeviceAttachments c vm).any (·.blockDeviceRef = bd)

/-- Since another look at the cluster and the machine, the device is still listed, its disk is in the same state, no
    attachment has come to name it, and the devices have not become more. -/
@[mk_iff] structure Unchanged (c₀ : Cluster) (vm₀ : VirtualMachine) (c : Cluster) (vm : VirtualMachine)
    (bd : BlockDeviceRef) : Prop where
  listed : bd ∈ vm₀.blockDeviceRefs
  working : vm₀.phase ≠ .stopped
  disk : (c.fetchVD vm.ns bd.name).map (diskState vm) = (c₀.fetchVD vm₀.ns bd.name).map (diskState vm₀)
  attachments : namedByAttachment c vm bd → namedByAttachment c₀ vm₀ bd
  count : countBlockDevicesAttachedToVM c vm ≤ countBlockDevicesAttachedToVM c₀ vm₀

instance (c₀ : Cluster) (vm₀ : VirtualMachine) (c : Cluster) (vm : VirtualMachine) (bd : BlockDeviceRef) :
    Decidable (Unchanged c₀ vm₀ c vm bd) := decidable_of_iff' _ (unchanged_iff ..)

theorem grantedForPlug_iff : GrantedForPlug c vm bd ↔
    (∃ state ∈ (c.fetchVD vm.ns bd.name).map (diskState vm), state.ready = .conditionTrue ∧
      state.deletionTimestamp = none ∧ state.inUse = .conditionTrue ∧ state.observed = true ∧ state.mounted = true) ∧
    namedByAttachment c vm bd = false ∧ countBlockDevicesAttachedToVM c vm ≤ vmBlockDeviceAttachedLimit := by
  refine and_congr ?_ (and_congr ?_ Iff.rfl)
  · simp only [Option.mem_def, Option.map_eq_some_iff, exists_exists_and_eq_and]
    rfl
  · simp [namedByAttachment]

theorem GrantedForPlug.of_unchanged {c₀ : Cluster} {vm₀ : VirtualMachine} (granted : GrantedForPlug c₀ vm₀ bd)
    (same : Unchanged c₀ vm₀ c vm bd) : GrantedForPlug c vm bd := by
  rw [grantedForPlug_iff] at granted ⊢
  obtain ⟨disk, unnamed, within⟩ := granted
  refine ⟨same.disk ▸ disk, ?_, same.count.trans within⟩
  refine Bool.eq_false_iff.mpr fun named => ?_
  exact Bool.false_ne_true (unnamed.symm.trans (same.attachments named))

theorem GrantedForPlug.congr {c' : Cluster} (granted : GrantedForPlug c vm bd) (attachments : c'.vmbdas = c.vmbdas)
    (disk : (c'.fetchVD vm.ns bd.name).map (diskState vm) = (c.fetchVD vm.ns bd.name).map (diskState vm)) :
    GrantedForPlug c' vm bd := by
  rw [grantedForPlug_iff, namedByAttachment, countBlockDevicesAttachedToVM, virtualMachineBlockDeviceAttachments]
    at granted ⊢
  rwa [attachments, disk]

/-- The handler changes finalizers and the protection of claims. -/
structure Framed (vm : VirtualMachine) (c c' : Cluster) : Prop where
  vms : c'.vms = c.vms
  kvvms : c'.kvvms = c.kvvms
  vmbdas : c'.vmbdas = c.vmbdas
  disk : ∀ name, (c'.fetchVD vm.ns name).map (diskState vm) = (c.fetchVD vm.ns name).map (diskState vm)

theorem framed_foldl_updateDeviceFinalizers {update : Finalizer → Option Int → List Finalizer → List Finalizer}
    (ns : String) (refs : List BlockDeviceRef) (c : Cluster) :
    Framed vm c (refs.foldl (updateDeviceFinalizers update ns) c) := by
  induction refs generalizing c with
  | nil => exact ⟨rfl, rfl, rfl, fun _ => rfl⟩
  | cons bd _ ih =>
    obtain ⟨vms, kvvms, vmbdas, disk⟩ := ih (updateDeviceFinalizers update ns c bd)
    obtain ⟨sameVMs, sameKVVMs, sameAttachments⟩ : (updateDeviceFinalizers update ns c bd).vms = c.vms ∧
        (updateDeviceFinalizers update ns c bd).kvvms = c.kvvms ∧
        (updateDeviceFinalizers update ns c bd).vmbdas = c.vmbdas := by
      unfold updateDeviceFinalizers
      split <;> exact ⟨rfl, rfl, rfl⟩
    refine ⟨vms.trans sameVMs, kvvms.trans sameKVVMs, vmbdas.trans sameAttachments, fun name => (disk name).trans ?_⟩
    rw [fetchVD_updateDeviceFinalizers, Option.map_map]
    refine Option.map_congr fun _ _ => ?_
    simp only [Function.comp_apply]
    split <;> rfl

/-- The handler gets as far as setting the condition. -/
def judges (faults : Faults) (c : Cluster) (vm : VirtualMachine) : Bool :=
  vm.deletionTimestamp = none ∧ (reconcilePVCProtection faults (setFinalizersOnBlockDevices c vm) vm.ns).2 = none ∧
    (vmBlockDeviceAttachedLimit < countBlockDevicesAttachedToVM c vm ∨
      (c.fetchKVVM vm.ns vm.name).all (·.template.isSome))

def approved (vm : VirtualMachine) : Bool :=
  (getCondition .blockDevicesReady vm.conditions).2 ∧
    (getCondition .blockDevicesReady vm.conditions).1.status = .conditionTrue

/-- The copy that the handler starts from. -/
def withCondition (vm : VirtualMachine) : VirtualMachine :=
  if (getCondition .blockDevicesReady vm.conditions).2 then vm
  else setBlockDevicesCondition (blockDevicesCondition vm .conditionUnknown .unknown "") vm

theorem approved_setBlockDevicesCondition {condition : Condition VMConditionType VMConditionReason}
    (type : condition.type = .blockDevicesReady) :
    approved (setBlockDevicesCondition condition vm) = true ↔ condition.status = .conditionTrue := by
  rw [approved, setBlockDevicesCondition, ← type, getCondition_setCondition]
  simp

theorem approved_withCondition (approves : approved (withCondition vm) = true) : approved vm = true := by
  unfold withCondition at approves
  split at approves
  · exact approves
  · cases (approved_setBlockDevicesCondition rfl).mp approves

theorem withCondition_devices (vm : VirtualMachine) :
    (withCondition vm).ns = vm.ns ∧ (withCondition vm).name = vm.name ∧
      (withCondition vm).blockDeviceRefs = vm.blockDeviceRefs := by
  unfold withCondition
  split <;> exact ⟨rfl, rfl, rfl⟩

theorem blockDevicesVerdict_type (order : MapOrder) (c : Cluster) (vm : VirtualMachine) :
    (blockDevicesVerdict order c vm).type = .blockDevicesReady := by
  unfold blockDevicesVerdict
  dsimp only
  split
  · rfl
  · split <;> rfl

section Handler

variable {protection : Faults}

theorem setFinalizersOnBlockDevices_framed (c : Cluster) (vm : VirtualMachine) :
    Framed vm c (setFinalizersOnBlockDevices c (withCondition vm)) := framed_foldl_updateDeviceFinalizers ..

theorem blockDeviceHandler_eq (order : MapOrder) (protection : Faults) (c : Cluster) (vm : VirtualMachine) :
    blockDeviceHandler order protection c vm =
      if vm.deletionTimestamp.isSome then
        (removeFinalizersOnBlockDevices c (withCondition vm), withCondition vm)
      else
        match reconcilePVCProtection protection (setFinalizersOnBlockDevices c (withCondition vm))
          (withCondition vm).ns with
        | (pvcs, some _) => ({ setFinalizersOnBlockDevices c (withCondition vm) with pvcs }, withCondition vm)
        | (pvcs, none) => ({ setFinalizersOnBlockDevices c (withCondition vm) with pvcs },
            blockDevicesStatus order { setFinalizersOnBlockDevices c (withCondition vm) with pvcs } vm
              (withCondition vm)) := rfl

theorem blockDeviceHandler_framed (order : MapOrder) (protection : Faults) (c : Cluster) (vm : VirtualMachine) :
    Framed vm c (blockDeviceHandler order protection c vm).1 := by
  rw [blockDeviceHandler_eq]
  split
  · exact framed_foldl_updateDeviceFinalizers ..
  have framed := setFinalizersOnBlockDevices_framed c vm
  split <;> exact ⟨framed.vms, framed.kvvms, framed.vmbdas, framed.disk⟩

theorem blockDeviceHandler_key : (blockDeviceHandler order protection c vm).2.ns = vm.ns ∧
    (blockDeviceHandler order protection c vm).2.name = vm.name := by
  have copied : (withCondition vm).ns = vm.ns ∧ (withCondition vm).name = vm.name :=
    ⟨(withCondition_devices vm).1, (withCondition_devices vm).2.1⟩
  rw [blockDeviceHandler_eq]
  split
  · exact copied
  split
  · exact copied
  unfold blockDevicesStatus
  dsimp only
  split
  · exact copied
  · split <;> exact copied

theorem approved_blockDevicesStatus {changed : VirtualMachine}
    (approves : approved (blockDevicesStatus order c vm changed) = true) :
    if vmBlockDeviceAttachedLimit < countBlockDevicesAttachedToVM c vm ∨
        (c.fetchKVVM vm.ns vm.name).all (·.template.isSome) then BlockDevicesGranted order c vm
    else approved changed = true := by
  unfold blockDevicesStatus at approves
  dsimp only at approves
  split at approves
  · cases (approved_setBlockDevicesCondition rfl).mp approves
  rename_i within
  have refs : (getBlockDeviceStatusRefs c vm).isSome = (c.fetchKVVM vm.ns vm.name).all (·.template.isSome) := by
    unfold getBlockDeviceStatusRefs
    cases c.fetchKVVM vm.ns vm.name with
    | none => rfl
    | some kvvm => exact Option.isSome_map
  rw [← refs]
  split at approves
  · rename_i failed
    rwa [failed, if_neg (by simpa using within)]
  · rename_i found
    rw [found, if_pos (.inr rfl)]
    exact ⟨not_lt.mp within, (approved_setBlockDevicesCondition (blockDevicesVerdict_type ..)).mp approves⟩

theorem approved_blockDeviceHandler (approves : approved (blockDeviceHandler order protection c vm).2 = true) :
    if judges protection c vm then BlockDevicesGranted order (blockDeviceHandler order protection c vm).1 vm
    else approved vm = true := by
  have framed := setFinalizersOnBlockDevices_framed c vm
  have same : setFinalizersOnBlockDevices c vm = setFinalizersOnBlockDevices c (withCondition vm) := by
    rw [setFinalizersOnBlockDevices, setFinalizersOnBlockDevices, (withCondition_devices vm).1,
      (withCondition_devices vm).2.2]
  rw [blockDeviceHandler_eq] at approves ⊢
  unfold judges
  rw [same]
  rw [(withCondition_devices vm).1] at approves ⊢
  generalize setFinalizersOnBlockDevices c (withCondition vm) = after at *
  split at approves
  · rename_i deleting
    rw [if_neg (by simp [Option.isSome_iff_ne_none.mp deleting])]
    exact approved_withCondition approves
  rename_i alive
  rw [if_neg alive]
  cases protect : reconcilePVCProtection protection after vm.ns with
  | mk pvcs failure =>
    rw [protect] at approves
    cases failure with
    | some =>
      rw [if_neg (by simp)]
      exact approved_withCondition approves
    | none =>
      have status := approved_blockDevicesStatus approves
      have count : countBlockDevicesAttachedToVM { after with pvcs } vm = countBlockDevicesAttachedToVM c vm := by
        rw [countBlockDevicesAttachedToVM, virtualMachineBlockDeviceAttachments, framed.vmbdas]
        rfl
      have kvvm : Cluster.fetchKVVM { after with pvcs } vm.ns vm.name = c.fetchKVVM vm.ns vm.name := by
        rw [Cluster.fetchKVVM, framed.kvvms]
        rfl
      rw [count, kvvm] at status
      have undeleted : vm.deletionTimestamp = none := by simpa using alive
      simp only [undeleted, true_and, decide_eq_true_eq]
      split at status
      · rename_i judged
        rw [if_pos judged]
        exact status
      · rename_i unjudged
        rw [if_neg unjudged]
        exact approved_withCondition status

end Handler

end

namespace Hotplug

inductive Action where
  | specify (ns name : String) (blockDeviceRefs : List BlockDeviceRef)
  /-- A reconcile of a VM: `kvvms` is what the handlers between the two have made of the KVVMs, and
      `written` whether the status gets through. -/
  | reconcileVM (ns name : String) (order : MapOrder) (faults : Faults) (kvvms : List KVVM)
      (hotplugFaults : HotplugFaults) (written : Bool)
  | reconcileVD (ns name : String) (order : MapOrder)
  | edit (c : Cluster)

def toVolumeRequest : HotplugRequest → VolumeRequest
  | .plug _ volume => .addVolume volume
  | .unplug volumeName => .removeVolume volumeName

def beforeHotplug (order : MapOrder) (faults : Faults) (kvvms : List KVVM) (c : Cluster) (vm : VirtualMachine) :
    Cluster :=
  { (blockDeviceHandler order faults c vm).1 with kvvms }

/-- Both handlers read the VM as it was stored: `HotplugHandler` does not see the condition that
    `BlockDeviceHandler` has set in the copy. -/
def reconcileVM (order : MapOrder) (faults : Faults) (kvvms : List KVVM) (hotplugFaults : HotplugFaults)
    (written : Bool) (c : Cluster) (vm : VirtualMachine) : Cluster :=
  let changed := (blockDeviceHandler order faults c vm).2
  let during := beforeHotplug order faults kvvms c vm
  let requests := (hotplugHandler hotplugFaults during vm).map toVolumeRequest
  let asked := during.updateKVVM vm.ns vm.name fun kvvm =>
    { kvvm with volumeRequests := kvvm.volumeRequests ++ requests }
  if written then asked.updateVM vm.ns vm.name fun _ => changed else asked

/-- The cluster, and for each VM the cluster and the VM as they were when `BlockDeviceHandler` last judged them and its
    verdict was stored. -/
structure World where
  cluster : Cluster
  judged : String → String → Option (Cluster × VirtualMachine)

def World.start (cluster : Cluster) : World := ⟨cluster, fun _ _ => none⟩

/-- The verdict is nobody else's to give. -/
def keepsVerdicts (c c' : Cluster) : Bool :=
  c'.vms.all fun vm => !approved vm || c.vms.any fun old => old.ns = vm.ns && old.name = vm.name && approved old

def World.judge (ns name : String) (look : Cluster × VirtualMachine) (w : World) (ns' name' : String) :
    Option (Cluster × VirtualMachine) := if ns' = ns ∧ name' = name then some look else w.judged ns' name'

def step (w : World) : Action → Option World
  | .specify ns name blockDeviceRefs =>
    some { w with cluster := w.cluster.updateVM ns name fun vm =>
      { vm with blockDeviceRefs, generation := vm.generation + 1 } }
  | .reconcileVM ns name order faults kvvms hotplugFaults written =>
    (w.cluster.fetchVM ns name).map fun vm =>
      { cluster := reconcileVM order faults kvvms hotplugFaults written w.cluster vm
        judged := if written && judges faults w.cluster vm then w.judge ns name (w.cluster, vm) else w.judged }
  | .reconcileVD ns name order =>
    some { w with cluster.vds := w.cluster.vds.map fun vd =>
      if vd.ns = ns ∧ vd.name = name then protectionHandler (inUseHandler order w.cluster vd) else vd }
  | .edit c => if keepsVerdicts w.cluster c then some { w with cluster := c } else none

def RequestLawful (c : Cluster) (vm : VirtualMachine) : HotplugRequest → Prop
  | .plug bd _ => bd.kind = .diskDevice → GrantedForPlug c vm bd
  | .unplug _ => True

def Lawful (w : World) : Action → Prop
  | .reconcileVM ns name order faults kvvms hotplugFaults _ => ∀ vm ∈ w.cluster.fetchVM ns name, vm.phase ≠ .stopped →
      ∀ request ∈ hotplugHandler hotplugFaults (beforeHotplug order faults kvvms w.cluster vm) vm,
        RequestLawful (beforeHotplug order faults kvvms w.cluster vm) vm request
  | _ => True

/-- Where the stored condition holds nothing back, the disks that the KVVM has not got yet are those, and are as, they
    were when the condition was set. -/
def Steady (w : World) : Action → Prop
  | .reconcileVM ns name _ _ kvvms _ _ => ∀ vm ∈ w.cluster.fetchVM ns name, vm.phase ≠ .stopped → heldBack vm = false →
      ∀ bd ∈ vm.blockDeviceRefs, bd.kind = .diskDevice → onKVVM { w.cluster with kvvms } vm bd = false →
        approved vm = true ∧ (w.judged ns name).any fun look => Unchanged look.1 look.2 w.cluster vm bd
  | _ => True

instance (c : Cluster) (vm : VirtualMachine) (request : HotplugRequest) : Decidable (RequestLawful c vm request) := by
  cases request <;> unfold RequestLawful <;> infer_instance

instance (w : World) (action : Action) : Decidable (Lawful w action) := by
  cases action <;> unfold Lawful <;> infer_instance

instance (w : World) (action : Action) : Decidable (Steady w action) := by
  cases action <;> unfold Steady <;> infer_instance

section Run

variable {w : World} {order : MapOrder} {faults : Faults} {kvvms : List KVVM} {hotplugFaults : HotplugFaults}
  {c : Cluster} {vm : VirtualMachine} {bd : BlockDeviceRef}

/-- What was granted when a VM was judged. -/
def Grants (look : Cluster × VirtualMachine) : Prop :=
  look.2.phase ≠ .stopped → ∀ bd ∈ look.2.blockDeviceRefs, bd.kind = .diskDevice → GrantedForPlug look.1 look.2 bd

/-- A condition that is true was true when the VM was last judged. -/
def Inv (w : World) : Prop :=
  ∀ vm ∈ w.cluster.vms, approved vm = true → ∀ look ∈ w.judged vm.ns vm.name, Grants look

theorem grants_of_approved (judged : judges faults c vm = true)
    (approves : approved (blockDeviceHandler order faults c vm).2 = true) : Grants (c, vm) := by
  intro working bd listed disk
  have granted := approved_blockDeviceHandler approves
  rw [if_pos judged] at granted
  have framed := blockDeviceHandler_framed order faults c vm
  exact (granted.forPlug working listed disk).congr framed.vmbdas.symm (framed.disk bd.name).symm

theorem reconcileVM_vms (written : Bool) :
    (reconcileVM order faults kvvms hotplugFaults written c vm).vms = if written then
      c.vms.map fun other => if other.ns = vm.ns ∧ other.name = vm.name then (blockDeviceHandler order faults c vm).2
        else other
    else c.vms := by
  have framed := blockDeviceHandler_framed order faults c vm
  unfold reconcileVM
  cases written with
  | false => exact framed.vms
  | true =>
    change (blockDeviceHandler order faults c vm).1.vms.map _ = _
    rw [framed.vms]
    rfl

theorem Inv.start (c : Cluster) : Inv (.start c) := by
  intro vm _ _ look isLook
  cases isLook

theorem Inv.reconcileVM {ns name : String} {written : Bool} (inv : Inv w)
    (found : w.cluster.fetchVM ns name = some vm) : Inv
      { cluster := Hotplug.reconcileVM order faults kvvms hotplugFaults written w.cluster vm
        judged := if written && judges faults w.cluster vm then w.judge ns name (w.cluster, vm) else w.judged } := by
  intro new member approves look isLook
  obtain ⟨rfl, rfl⟩ := Cluster.fetchVM_key found
  rw [reconcileVM_vms] at member
  cases written with
  | false => exact inv new member approves look isLook
  | true =>
    rw [Bool.true_and] at isLook
    obtain ⟨old, before, rfl⟩ := List.mem_map.mp member
    by_cases own : old.ns = vm.ns ∧ old.name = vm.name
    · rw [if_pos own] at approves isLook
      rw [blockDeviceHandler_key.1, blockDeviceHandler_key.2] at isLook
      have verdict := approved_blockDeviceHandler approves
      split at isLook
      · rename_i judged
        dsimp only [World.judge] at isLook
        rw [if_pos ⟨rfl, rfl⟩] at isLook
        cases isLook
        exact grants_of_approved judged approves
      · rename_i unjudged
        rw [if_neg unjudged] at verdict
        exact inv vm (List.mem_of_find?_eq_some found) verdict look isLook
    · rw [if_neg own] at approves isLook
      refine inv old before approves look ?_
      split at isLook
      · dsimp only [World.judge] at isLook
        rwa [if_neg own] at isLook
      · exact isLook

theorem Inv.step {action : Action} {t : World} (inv : Inv w) (taken : step w action = some t) : Inv t := by
  cases action with
  | specify ns name refs =>
    cases taken
    intro vm member approves
    obtain ⟨old, before, rfl⟩ := List.mem_map.mp member
    by_cases edited : old.ns = ns ∧ old.name = name
    · rw [if_pos edited] at approves ⊢
      exact inv old before approves
    · rw [if_neg edited] at approves ⊢
      exact inv old before approves
  | reconcileVD =>
    cases taken
    exact inv
  | edit c =>
    dsimp only [Hotplug.step] at taken
    split at taken <;> cases taken
    rename_i keeps
    intro vm member approves
    have known := List.all_eq_true.mp keeps vm member
    rw [approves] at known
    obtain ⟨old, before, same⟩ := List.any_eq_true.mp known
    simp only [Bool.and_eq_true, decide_eq_true_eq] at same
    rw [← same.1.1, ← same.1.2]
    exact inv old before same.2
  | reconcileVM ns name order faults kvvms hotplugFaults written =>
    obtain ⟨vm, found, rfl⟩ := Option.map_eq_some_iff.mp taken
    exact inv.reconcileVM found

theorem Inv.lawful {action : Action} (inv : Inv w) (steady : Steady w action) : Lawful w action := by
  cases action with
  | specify | reconcileVD | edit => exact True.intro
  | reconcileVM ns name order faults kvvms =>
    intro vm found working request sent
    cases request with
    | unplug => exact True.intro
    | plug bd =>
      intro disk
      obtain ⟨willing, specified, missing⟩ := hotplugHandler_plug sent
      have framed := blockDeviceHandler_framed order faults w.cluster vm
      have attachments : (beforeHotplug order faults kvvms w.cluster vm).vmbdas = w.cluster.vmbdas := framed.vmbdas
      rw [onKVVM, resolverSeeds, virtualMachineBlockDeviceAttachments, attachments] at missing
      obtain ⟨approves, judged⟩ := steady vm found working willing bd specified disk missing
      obtain ⟨look, isLook, unchanged⟩ := (Option.any_eq_true _ _).mp judged
      replace unchanged := of_decide_eq_true unchanged
      obtain ⟨rfl, rfl⟩ := Cluster.fetchVM_key found
      have grants := inv vm (List.mem_of_find?_eq_some found) approves look isLook
      have granted := (grants unchanged.working bd unchanged.listed disk).of_unchanged unchanged
      exact granted.congr attachments (framed.disk bd.name)

end Run

theorem plugged_after_grant {c : Cluster} {actions : List Action} (along : Along step Steady (.start c) actions) :
    Along step Lawful (.start c) actions :=
  Along.of_invariant (fun _ _ _ inv _ taken => Inv.step inv taken) (fun _ _ inv steady => Inv.lawful inv steady)
    (Inv.start c) along

def readyDisk (name : String) : VirtualDisk :=
  { ns := "default", name, generation := 1, observedGeneration := 1, deletionTimestamp := none, finalizers := []
    phase := .ready, target := "pvc-" ++ name, capacity := "1Gi", attachedToVirtualMachines := []
    conditions := [⟨.ready, .conditionTrue, .other, "", 1⟩, ⟨.inUse, .conditionFalse, .notInUse, "", 1⟩] }

def mountedDisk (name machine : String) : VirtualDisk :=
  { readyDisk name with
    attachedToVirtualMachines := [⟨machine, true⟩]
    conditions := [⟨.ready, .conditionTrue, .other, "", 1⟩,
      ⟨.inUse, .conditionTrue, .attachedToVirtualMachine, "", 1⟩] }

def rootVolume : Volume := ⟨"vd-root", .persistentVolumeClaim "pvc-root" false⟩

def webKVVM : KVVM :=
  { ns := "default", name := "web", template := some [rootVolume], runStrategy := some .always
    vmStartRequested := false, vmRestartRequested := false, printableStatus := .running, synchronizedReason := .unset
    stateChangeRequests := [], volumeRequests := [] }

def runningVM (name disk : String) : VirtualMachine :=
  { ns := "default", name, generation := 1, deletionTimestamp := none, runPolicy := .alwaysOn
    paravirtualizationEnabled := true, blockDeviceRefs := [⟨.diskDevice, disk⟩], phase := .running
    statusRefs := [⟨.diskDevice, disk, "1Gi", true, false, ""⟩], conditions := [] }

def twoDisks (vms : List VirtualMachine) (data : VirtualDisk) : Cluster :=
  { vms
    kvvms := [webKVVM]
    kvvmis := [{ ns := "default", name := "web", phase := .running, nodeName := "node-1", volumes := [rootVolume]
                 volumeStatus := [] }]
    pods := []
    pvcs := []
    vds := [mountedDisk "root" "web", data]
    vis := []
    cvis := []
    vmbdas := [] }

def noHotplugFaults : HotplugFaults :=
  { fetchKVVMI := false, fetchKVVM := false, listAttachments := false, fetchDevice := fun _ => false
    refused := fun _ => false }

def plainReconcile : Action :=
  .reconcileVM "default" "web" .asListed faultless [webKVVM] noHotplugFaults true

def addDisk : Action := .specify "default" "web" [⟨.diskDevice, "root"⟩, ⟨.diskDevice, "data"⟩]

/-- The devices of the VM were not ready when its specification was edited. -/
def waitingVM : VirtualMachine :=
  { runningVM "web" "root" with conditions := [⟨.blockDevicesReady, .conditionFalse, .blockDevicesNotReady, "", 1⟩] }

/-- The disk is given to the VM between its first two reconciles, and is plugged in the third. -/
def addDiskInTurn : List Action :=
  [addDisk, plainReconcile, .reconcileVD "default" "data" .asListed, plainReconcile, plainReconcile]

theorem plugged_after_grant_in_turn :
    Along step Lawful (.start (twoDisks [waitingVM] (readyDisk "data"))) addDiskInTurn ∧
      (run step (.start (twoDisks [waitingVM] (readyDisk "data"))) addDiskInTurn).any fun w =>
        w.cluster.kvvms.any fun kvvm => kvvm.volumeRequests ≠ [] :=
  ⟨plugged_after_grant (by decide), by decide⟩

/-- The condition that was set for the specification before the edit lets a disk through that another VM mounts. -/
theorem stale_condition_plugs :
    ¬ Along step Lawful (.start (twoDisks [runningVM "web" "root", runningVM "db" "data"] (mountedDisk "data" "db")))
      [plainReconcile, addDisk, plainReconcile] := by
  decide

end Hotplug

end Virtualization.Machine
