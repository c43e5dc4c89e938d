import Virtualization.Machine.BlockDevices

namespace Virtualization.Machine

open Virtualization.Core Disk Library List

def SourcedIn (ns : String) (cvi : ClusterVirtualImage) : Prop :=
  cvi.objectRef.any fun ref => ref.kind = .virtualDisk ∧ ref.ns = ns

instance (ns : String) : DecidablePred (SourcedIn ns) := fun cvi => by
  unfold SourcedIn
  infer_instance

structure Agree (ns : String) (a b : Cluster) : Prop where
  vms : SameRegion (·.ns = ns) a.vms b.vms
  kvvms : SameRegion (·.ns = ns) a.kvvms b.kvvms
  kvvmis : SameRegion (·.ns = ns) a.kvvmis b.kvvmis
  pods : SameRegion (·.ns = ns) a.pods b.pods
  pvcs : SameRegion (·.ns = ns) a.pvcs b.pvcs
  vds : SameRegion (·.ns = ns) a.vds b.vds
  vis : SameRegion (·.ns = ns) a.vis b.vis
  cvis : SameRegion (SourcedIn ns) a.cvis b.cvis
  vmbdas : SameRegion (·.ns = ns) a.vmbdas b.vmbdas

/-- No image under creation from a disk of another namespace has a disk of this name as its source. -/
def OwnNameOnly (c : Cluster) (vd : VirtualDisk) : Prop :=
  ∀ cvi ∈ c.cvis, cvi.phase ∈ imagePhasesUsingDisk →
    ∀ ref ∈ cvi.objectRef, ref.kind = .virtualDisk → ref.name = vd.name → ref.ns = vd.ns
deriving Decidable

section InUse

variable {ns : String} {a b : Cluster}

theorem Agree.isVMActive_eq (agree : Agree ns a b) {vm : VirtualMachine} (inside : vm.ns = ns) :
    isVMActive a vm = isVMActive b vm := by
  subst inside
  have kvvm : a.fetchKVVM vm.ns vm.name = b.fetchKVVM vm.ns vm.name := agree.kvvms.find?_eq _
  have pods : isVMActive.podRunning a vm = isVMActive.podRunning b vm := agree.pods.any_eq _
  unfold isVMActive
  rw [kvvm, pods]

variable {vd : VirtualDisk}

theorem Agree.virtualMachineUsageMap_eq (agree : Agree ns a b) (inside : vd.ns = ns) :
    virtualMachineUsageMap a vd = virtualMachineUsageMap b vd := by
  subst inside
  unfold virtualMachineUsageMap
  rw [show a.vms.filter (·.ns = vd.ns) = b.vms.filter (·.ns = vd.ns) from agree.vms]
  refine filterMap_congr fun _ member => ?_
  have active := agree.isVMActive_eq (by simpa using (mem_filter.mp member).2)
  simp only [usageEntry, blockDeviceUsage, active]

theorem Agree.checkUsageByVI_eq (agree : Agree ns a b) (inside : vd.ns = ns) :
    checkUsageByVI a vd = checkUsageByVI b vd := by
  subst inside
  unfold checkUsageByVI
  rw [show a.vis.filter (·.ns = vd.ns) = b.vis.filter (·.ns = vd.ns) from agree.vis]

theorem OwnNameOnly.sourcedIn {c : Cluster} (own : OwnNameOnly c vd) :
    ∀ cvi ∈ c.cvis, (cvi.phase ∈ imagePhasesUsingDisk ∧
      cvi.objectRef.any fun ref => ref.kind = .virtualDisk ∧ ref.name = vd.name) → SourcedIn vd.ns cvi := by
  intro cvi member using_
  obtain ⟨phase, found⟩ := using_
  unfold SourcedIn
  cases source : cvi.objectRef with
  | none => simp [source] at found
  | some ref =>
    have kindName : ref.kind = .virtualDisk ∧ ref.name = vd.name := by simpa [source] using found
    simpa [kindName.1] using own cvi member phase ref (by simp [source]) kindName.1 kindName.2

variable (agree : Agree ns a b) (inside : vd.ns = ns) (left : OwnNameOnly a vd) (right : OwnNameOnly b vd)
include agree inside left right

theorem Agree.checkUsageByCVI_eq : checkUsageByCVI a vd = checkUsageByCVI b vd := by
  subst inside
  unfold checkUsageByCVI
  rw [agree.cvis.filter_eq _ left.sourcedIn right.sourcedIn]

theorem Agree.inUseCondition_eq : inUseCondition a vd = inUseCondition b vd := by
  have images : checkImageUsage a vd = checkImageUsage b vd := by
    unfold checkImageUsage
    rw [agree.checkUsageByVI_eq inside, agree.checkUsageByCVI_eq inside left right]
  have claim : a.fetchPVC vd.ns vd.target = b.fetchPVC vd.ns vd.target := by
    subst inside
    exact agree.pvcs.find?_eq _
  have exported : checkDataExportUsage a vd = checkDataExportUsage b vd := by
    unfold checkDataExportUsage
    rw [claim]
  unfold inUseCondition
  rw [images, exported]

theorem Agree.inUseHandler_eq (order : MapOrder) : inUseHandler order a vd = inUseHandler order b vd := by
  have attached : updateAttachedVirtualMachines order a vd = updateAttachedVirtualMachines order b vd := by
    unfold updateAttachedVirtualMachines
    rw [agree.virtualMachineUsageMap_eq inside]
  have condition : inUseCondition a (updateAttachedVirtualMachines order b vd) =
      inUseCondition b (updateAttachedVirtualMachines order b vd) := agree.inUseCondition_eq inside left right
  unfold inUseHandler setInUseCondition
  rw [attached, condition]

end InUse

structure SameReads (vm : VirtualMachine) (a b : Cluster) : Prop where
  vd : ∀ name, a.fetchVD vm.ns name = b.fetchVD vm.ns name
  vi : ∀ name, a.fetchVI vm.ns name = b.fetchVI vm.ns name
  cvi : ∀ bd ∈ vm.blockDeviceRefs, bd.kind = .clusterImageDevice → a.fetchCVI bd.name = b.fetchCVI bd.name
  kvvm : a.fetchKVVM vm.ns vm.name = b.fetchKVVM vm.ns vm.name
  vmbdas : virtualMachineBlockDeviceAttachments a vm = virtualMachineBlockDeviceAttachments b vm

section Verdict

variable {vm : VirtualMachine} {a b : Cluster} (same : SameReads vm a b)
include same

theorem SameReads.virtualDisksByName_eq (order : MapOrder) :
    virtualDisksByName order a vm = virtualDisksByName order b vm := by
  exact filterMap_congr fun name _ => same.vd name

theorem SameReads.countReadyBlockDevices_eq (wffc : Bool) :
    countReadyBlockDevices a vm wffc = countReadyBlockDevices b vm wffc := by
  have device : ∀ count, ∀ bd ∈ vm.blockDeviceRefs,
      countReadyDevice a vm wffc count bd = countReadyDevice b vm wffc count bd := by
    intro count bd member
    unfold countReadyDevice
    cases kind : bd.kind with
    | diskDevice => rw [same.vd]
    | imageDevice => rw [same.vi]
    | clusterImageDevice => rw [same.cvi bd member kind]
  exact foldl_ext _ _ _ fun count bd member => device count bd member

theorem SameReads.blockDevicesVerdict_eq (order : MapOrder) :
    blockDevicesVerdict order a vm = blockDevicesVerdict order b vm := by
  have warnings : getBlockDeviceWarnings a vm = getBlockDeviceWarnings b vm := by
    simp only [getBlockDeviceWarnings, conflictedRefs, same.vmbdas]
  have readiness : handleBlockDevicesReady order a vm = handleBlockDevicesReady order b vm := by
    simp only [handleBlockDevicesReady, same.virtualDisksByName_eq, same.countReadyBlockDevices_eq]
  have granted : handleVirtualDisksReadyForUse order a vm = handleVirtualDisksReadyForUse order b vm := by
    simp only [handleVirtualDisksReadyForUse, same.virtualDisksByName_eq]
  unfold blockDevicesVerdict
  rw [warnings, readiness, granted]

theorem SameReads.conditions_eq (order : MapOrder) (changed : VirtualMachine) :
    (blockDevicesStatus order a vm changed).conditions = (blockDevicesStatus order b vm changed).conditions := by
  have count : countBlockDevicesAttachedToVM a vm = countBlockDevicesAttachedToVM b vm := by
    unfold countBlockDevicesAttachedToVM
    rw [same.vmbdas]
  unfold blockDevicesStatus
  rw [count, same.blockDevicesVerdict_eq]
  dsimp only
  split
  · rfl
  unfold getBlockDeviceStatusRefs
  rw [same.kvvm]
  cases b.fetchKVVM vm.ns vm.name with
  | none => rfl
  | some kvvm =>
    cases template : kvvm.template with
    | none => simp only [template, Option.map_none]
    | some => simp only [template, Option.map_some]; rfl

end Verdict

theorem reconcileClaims_error_local (claims : List String) (faults : Faults) (ns : String)
    (pvcs : List PersistentVolumeClaim) : (reconcileClaims claims faults ns pvcs).2 =
      (reconcileClaims claims faults ns (pvcs.filter (·.ns = ns))).2 := by
  induction pvcs with
  | nil => rfl
  | cons pvc _ ih =>
    by_cases inside : pvc.ns = ns
    · rw [filter_cons_of_pos (by simpa using inside)]
      unfold reconcileClaims
      simp only [inside, if_true]
      cases reconcileClaim claims (faults.patch pvc.name) pvc with
      | error => rfl
      | ok => exact ih
    rw [filter_cons_of_neg (by simpa using inside), ← ih]
    simp only [reconcileClaims, inside, if_false]

variable {a b : Cluster} {ns : String}

theorem Agree.protectedClaimNames_eq (agree : Agree ns a b) (faults : Faults) :
    protectedClaimNames faults a ns = protectedClaimNames faults b ns := by
  have collected : ∀ vms : List VirtualMachine, (∀ vm ∈ vms, vm.ns = ns) →
      collectClaimNames faults a vms = collectClaimNames faults b vms := by
    intro vms inside
    induction vms with
    | nil => rfl
    | cons vm _ ih =>
      have here := inside vm (.head _)
      have tail := ih fun other member => inside other (.tail _ member)
      have kvvm : a.fetchKVVM vm.ns vm.name = b.fetchKVVM vm.ns vm.name := by
        subst here
        exact agree.kvvms.find?_eq _
      have kvvmi : a.fetchKVVMI vm.ns vm.name = b.fetchKVVMI vm.ns vm.name := by
        subst here
        exact agree.kvvmis.find?_eq _
      unfold collectClaimNames
      rw [tail, kvvm, kvvmi]
  unfold protectedClaimNames
  rw [show a.vms.filter (·.ns = ns) = b.vms.filter (·.ns = ns) from agree.vms,
    collected _ fun vm member => by simpa using (mem_filter.mp member).2]

theorem Agree.reconcilePVCProtection_error (agree : Agree ns a b) (faults : Faults) :
    (reconcilePVCProtection faults a ns).2 = (reconcilePVCProtection faults b ns).2 := by
  unfold reconcilePVCProtection
  rw [agree.protectedClaimNames_eq]
  cases protectedClaimNames faults b ns with
  | error => rfl
  | ok =>
    dsimp only
    split
    · rfl
    rw [reconcileClaims_error_local, reconcileClaims_error_local _ _ _ b.pvcs,
      show a.pvcs.filter (·.ns = ns) = b.pvcs.filter (·.ns = ns) from agree.pvcs]

structure AgreeFor (vm : VirtualMachine) (a b : Cluster) : Prop where
  agree : Agree vm.ns a b
  images : ∀ bd ∈ vm.blockDeviceRefs, bd.kind = .clusterImageDevice → a.fetchCVI bd.name = b.fetchCVI bd.name

variable {vm : VirtualMachine}

theorem AgreeFor.sameReads (same : AgreeFor vm a b) : SameReads vm a b where
  vd _ := same.agree.vds.find?_eq _
  vi _ := same.agree.vis.find?_eq _
  cvi := same.images
  kvvm := same.agree.kvvms.find?_eq _
  vmbdas := by
    exact same.agree.vmbdas.filter_eq _ (fun _ _ found => found.1) (fun _ _ found => found.1)

theorem fetchCVI_updateDeviceFinalizers (update : Finalizer → Option Int → List Finalizer → List Finalizer)
    (ns name : String) (c : Cluster) (bd : BlockDeviceRef) : (updateDeviceFinalizers update ns c bd).fetchCVI name =
      (c.fetchCVI name).map fun cvi =>
        if bd.kind = .clusterImageDevice ∧ cvi.name = bd.name then
          { cvi with finalizers := update .cviProtection cvi.deletionTimestamp cvi.finalizers }
        else cvi := by
  unfold updateDeviceFinalizers Cluster.fetchCVI
  cases bd.kind with
  | diskDevice | imageDevice => simp
  | clusterImageDevice =>
    simp only [true_and, find?_map]
    congr 2
    funext cvi
    simp only [Function.comp_apply]
    split <;> rfl

theorem AgreeFor.updateDeviceFinalizers (same : AgreeFor vm a b)
    (update : Finalizer → Option Int → List Finalizer → List Finalizer) (bd : BlockDeviceRef) :
    AgreeFor vm (updateDeviceFinalizers update vm.ns a bd) (updateDeviceFinalizers update vm.ns b bd) := by
  refine ⟨?_, fun other member cluster => ?_⟩
  · unfold Machine.updateDeviceFinalizers
    cases bd.kind with
    | diskDevice =>
      refine { same.agree with vds := same.agree.vds.map _ _ ?_ ?_ fun _ _ _ => rfl }
      all_goals
        intro vd _
        split <;> rfl
    | imageDevice =>
      refine { same.agree with vis := same.agree.vis.map _ _ ?_ ?_ fun _ _ _ => rfl }
      all_goals
        intro vi _
        split <;> rfl
    | clusterImageDevice =>
      refine { same.agree with cvis := same.agree.cvis.map _ _ ?_ ?_ fun _ _ _ => rfl }
      all_goals
        intro cvi _
        split <;> rfl
  · rw [fetchCVI_updateDeviceFinalizers, fetchCVI_updateDeviceFinalizers, same.images other member cluster]

theorem AgreeFor.foldl_updateDeviceFinalizers (same : AgreeFor vm a b)
    (update : Finalizer → Option Int → List Finalizer → List Finalizer) (refs : List BlockDeviceRef) :
    AgreeFor vm (refs.foldl (Machine.updateDeviceFinalizers update vm.ns) a)
      (refs.foldl (Machine.updateDeviceFinalizers update vm.ns) b) := by
  induction refs generalizing a b with
  | nil => exact same
  | cons bd _ ih => exact ih (same.updateDeviceFinalizers update bd)

theorem AgreeFor.blockDeviceHandler_conditions (same : AgreeFor vm a b) (order : MapOrder) (faults : Faults) :
    (blockDeviceHandler order faults a vm).2.conditions = (blockDeviceHandler order faults b vm).2.conditions := by
  unfold blockDeviceHandler
  dsimp only
  generalize copy : (if (getCondition .blockDevicesReady vm.conditions).2 then vm
    else setBlockDevicesCondition (blockDevicesCondition vm .conditionUnknown .unknown "") vm) = changed
  have kept : changed.ns = vm.ns ∧ changed.blockDeviceRefs = vm.blockDeviceRefs := by
    rw [← copy]
    split <;> exact ⟨rfl, rfl⟩
  split
  · rfl
  have protected_ : AgreeFor vm (setFinalizersOnBlockDevices a changed) (setFinalizersOnBlockDevices b changed) := by
    unfold setFinalizersOnBlockDevices
    rw [kept.1]
    exact same.foldl_updateDeviceFinalizers _ _
  have failure := protected_.agree.reconcilePVCProtection_error faults
  rw [← kept.1] at failure
  cases left : reconcilePVCProtection faults (setFinalizersOnBlockDevices a changed) changed.ns with
  | mk _ failureA =>
    cases right : reconcilePVCProtection faults (setFinalizersOnBlockDevices b changed) changed.ns with
    | mk =>
      rw [left, right] at failure
      subst failure
      cases failureA with
      | some => rfl
      | none =>
        have reads := protected_.sameReads
        exact SameReads.conditions_eq { reads with } order changed

def observed (order : MapOrder) (ns : String) (c : Cluster) : Cluster :=
  { c with vds := c.vds.map fun vd => if vd.ns = ns then inUseHandler order c vd else vd }

theorem Agree.observed (agree : Agree ns a b) (own : ∀ vd ∈ a.vds, vd.ns = ns → OwnNameOnly a vd ∧ OwnNameOnly b vd)
    (order : MapOrder) : Agree ns (observed order ns a) (observed order ns b) := by
  refine { agree with vds := agree.vds.map _ _ ?_ ?_ ?_ }
  · intro vd _
    split <;> rfl
  · intro vd _
    split <;> rfl
  intro vd member inside
  simp only [inside, if_true]
  exact agree.inUseHandler_eq inside (own vd member inside).1 (own vd member inside).2 order

def verdict (order : MapOrder) (faults : Faults) (c : Cluster) (vm : VirtualMachine) :
    Condition VMConditionType VMConditionReason × Bool :=
  getCondition .blockDevicesReady (blockDeviceHandler order faults c vm).2.conditions

/-- What happens outside a namespace does not show in its disks and VMs, but for the cluster
    images its VMs name and the images under creation from a foreign disk of the same name. -/
theorem foreign_images_do_not_lock {ns : String} {a b : Cluster} (agree : Agree ns a b)
    (own : ∀ vd ∈ a.vds, vd.ns = ns → OwnNameOnly a vd ∧ OwnNameOnly b vd)
    (named : ∀ vm ∈ a.vms, vm.ns = ns → ∀ bd ∈ vm.blockDeviceRefs, bd.kind = .clusterImageDevice →
      a.fetchCVI bd.name = b.fetchCVI bd.name) (order : MapOrder) (faults : Faults) :
    (∀ vd ∈ a.vds, vd.ns = ns → inUseHandler order a vd = inUseHandler order b vd) ∧
    (∀ vm ∈ a.vms, vm.ns = ns →
      verdict order faults (observed order ns a) vm = verdict order faults (observed order ns b) vm) := by
  constructor
  · intro vd member inside
    exact agree.inUseHandler_eq inside (own vd member inside).1 (own vd member inside).2 order
  intro vm member inside
  have same : AgreeFor vm (observed order ns a) (observed order ns b) :=
    ⟨inside ▸ agree.observed own order, named vm member inside⟩
  unfold verdict
  rw [same.blockDeviceHandler_conditions order faults]

def readyDisk (ns name : String) : VirtualDisk :=
  { ns, name, generation := 1, observedGeneration := 1, deletionTimestamp := none, finalizers := []
    phase := .ready, target := "pvc-" ++ name, capacity := "1Gi", attachedToVirtualMachines := [], conditions := [
      { type := .ready, status := .conditionTrue, reason := .other, message := "", observedGeneration := 1 }] }

def tenantVM : VirtualMachine :=
  { ns := "tenant", name := "web", generation := 1, deletionTimestamp := none, runPolicy := .manual
    paravirtualizationEnabled := true, blockDeviceRefs := [⟨.clusterImageDevice, "tools"⟩], phase := .stopped
    statusRefs := [], conditions := [] }

def tenantWith (cvis : List ClusterVirtualImage) : Cluster :=
  { vms := [tenantVM], kvvms := [], kvvmis := [], pods := [], pvcs := [], vds := [readyDisk "tenant" "data"]
    vis := [], cvis, vmbdas := [] }

def imageOf (name ns : String) (disk : String) (phase : ImagePhase) : ClusterVirtualImage :=
  { name, generation := 1, observedGeneration := 1, registryURL := "", cdrom := false, finalizers := []
    deletionTimestamp := none, objectRef := some ⟨.virtualDisk, disk, ns⟩, phase, sizeUnpacked := ""
    conditions := [] }

theorem foreign_images_do_not_lock_other_disk : inUseHandler .asListed (tenantWith []) (readyDisk "tenant" "data") =
      inUseHandler .asListed (tenantWith [imageOf "golden" "other" "root" .provisioning])
        (readyDisk "tenant" "data") ∧
    verdict .asListed faultless (observed .asListed "tenant" (tenantWith [])) tenantVM =
      verdict .asListed faultless
        (observed .asListed "tenant" (tenantWith [imageOf "golden" "other" "root" .provisioning])) tenantVM := by
  have agree : Agree "tenant" (tenantWith []) (tenantWith [imageOf "golden" "other" "root" .provisioning]) :=
    ⟨rfl, rfl, rfl, rfl, rfl, rfl, rfl, rfl, rfl⟩
  have same := foreign_images_do_not_lock agree (by decide) (by decide) .asListed faultless
  exact ⟨same.1 _ (.head _) rfl, same.2 _ (.head _) rfl⟩

/-- An image made from another tenant's disk of the same name locks the disk. The phase of a
    cluster image that a VM names decides on the VM, wherever the image comes from. -/
theorem foreign_image_locks_namesake :
    (¬ ∀ (ns : String) (a b : Cluster) (order : MapOrder), Agree ns a b → ∀ vd ∈ a.vds, vd.ns = ns →
      inUseHandler order a vd = inUseHandler order b vd) ∧
    (¬ ∀ (ns : String) (a b : Cluster) (order : MapOrder) (faults : Faults), Agree ns a b →
      ∀ vm ∈ a.vms, vm.ns = ns →
        verdict order faults (observed order ns a) vm = verdict order faults (observed order ns b) vm) := by
  constructor
  · intro isolated
    have same := isolated "tenant" (tenantWith []) (tenantWith [imageOf "golden" "other" "data" .provisioning])
      .asListed ⟨rfl, rfl, rfl, rfl, rfl, rfl, rfl, rfl, rfl⟩ (readyDisk "tenant" "data") (.head _) rfl
    exact absurd same (by decide)
  intro isolated
  have same := isolated "tenant" (tenantWith [imageOf "tools" "other" "root" .ready])
    (tenantWith [imageOf "tools" "other" "root" .failed]) .asListed faultless
    ⟨rfl, rfl, rfl, rfl, rfl, rfl, rfl, rfl, rfl⟩ tenantVM (.head _) rfl
  exact absurd same (by decide)

end Virtualization.Machine
