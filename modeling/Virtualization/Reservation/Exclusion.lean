import Virtualization.Reservation.World

namespace Virtualization.Reservation

open Attachment Virtualization.Core Disk Image Library List Machine Option
open Attachment.Detach (changeVolumes fetchAttachment storeAttachment takeUpRequest)

def UsedForImage (vd : VirtualDisk) : Prop :=
  (getCondition .inUse vd.conditions).1.status = .conditionTrue ∧
    (getCondition .inUse vd.conditions).1.reason = .usedForImageCreation

structure ReservedDisk (w : World) (vd : VirtualDisk) : Prop where
  single : SingleMount vd
  image : UsedForImage vd → checkUsageByVM vd = false
  instances : ∀ kvvmi ∈ w.cluster.kvvmis, usesClaim vd kvvmi → MountedBy vd kvvmi.name
  copies : ∀ copy ∈ w.copies, copiesFrom vd copy → checkUsageByVM vd = false

def Reserved (ns disk : String) (w : World) : Prop :=
  ∀ vd, w.cluster.fetchVD ns disk = some vd → ReservedDisk w vd

section

variable {ns disk : String} {w : World} {vd vd' : VirtualDisk}

theorem Reserved.exclusive (reserved : Reserved ns disk w) : Exclusive ns disk w := by
  intro vd found one member _ uses
  have mounted := (reserved vd found).instances one member uses
  refine ⟨fun other otherMember _ otherUses => ?_, fun copy started => ?_⟩
  · exact mounted.unique ((reserved vd found).instances other otherMember otherUses)
  by_contra copied
  have free := (reserved vd found).copies copy started (by simpa using copied)
  rw [mounted.mounted] at free
  cases free

theorem Unused.reserved (unused : Unused ns disk w) : Reserved ns disk w := by
  intro vd found
  obtain ⟨free, idle, _⟩ := unused vd found
  refine ⟨.of_free free, fun _ => free, fun kvvmi member uses => ?_, fun _ _ _ => free⟩
  rw [idle kvvmi member] at uses
  cases uses

theorem ReservedDisk.congr {w' : World} (reserved : ReservedDisk w vd) (key : vd'.ns = vd.ns ∧ vd'.name = vd.name)
    (same : records vd = records vd')
    (instances : ∀ kvvmi ∈ w'.cluster.kvvmis, usesClaim vd kvvmi → MountedBy vd kvvmi.name)
    (copies : ∀ copy ∈ w'.copies, copiesFrom vd copy → checkUsageByVM vd = false) : ReservedDisk w' vd' := by
  simp only [records, Prod.mk.injEq] at same
  obtain ⟨target, attached, inUse⟩ := same
  have usage : checkUsageByVM vd' = checkUsageByVM vd := by
    unfold checkUsageByVM
    rw [attached]
  refine ⟨?_, fun used => ?_, fun kvvmi member uses => ?_, fun copy member copied => ?_⟩
  · unfold SingleMount
    rw [← attached]
    exact reserved.single
  · unfold UsedForImage at used
    rw [← inUse] at used
    exact usage.trans (reserved.image used)
  · have mounted := instances kvvmi member (by simpa [usesClaim, key.1, target] using uses)
    exact ⟨usage.trans mounted.mounted, attached ▸ mounted.only⟩
  · exact usage.trans (copies copy member (by simpa [copiesFrom, key.1, key.2] using copied))

variable {c : Cluster}

open Cluster

theorem Reserved.undisturbed {copies : List Copy} (reserved : Reserved ns disk w)
    (same : Undisturbed ns disk w.cluster c)
    (still : ∀ vd, w.cluster.fetchVD ns disk = some vd → ∀ copy ∈ copies, copiesFrom vd copy →
      checkUsageByVM vd = false) :
    Reserved ns disk { cluster := c, copies } := by
  intro vd' found'
  obtain ⟨vd, found, equal⟩ := map_eq_some_iff.mp (same.recorded vd' found')
  obtain ⟨vdNs, vdName⟩ := fetchVD_key found
  obtain ⟨vdNs', vdName'⟩ := fetchVD_key found'
  refine (reserved vd found).congr ⟨vdNs'.trans vdNs.symm, vdName'.trans vdName.symm⟩ equal ?_ (still vd found)
  intro kvvmi' member uses
  obtain ⟨kvvmi, old, usedBefore, name⟩ := same.users vd found kvvmi' member uses
  exact name ▸ (reserved vd found).instances kvvmi old usedBefore

theorem Undisturbed.of_same {c' : Cluster} (disks : (c'.fetchVD ns disk).map records = (c.fetchVD ns disk).map records)
    (instances : c'.kvvmis = c.kvvmis) : Undisturbed ns disk c c' where
  recorded := by
    intro vd' found
    rw [← disks, found]
    rfl
  users := by
    intro vd _ kvvmi member uses
    exact ⟨kvvmi, instances ▸ member, uses, rfl⟩

theorem Reserved.kept (reserved : Reserved ns disk w) (same : Undisturbed ns disk w.cluster c) :
    Reserved ns disk { w with cluster := c } :=
  reserved.undisturbed same fun vd found => (reserved vd found).copies

theorem Reserved.withInstances (reserved : Reserved ns disk w) (disks : c.vds = w.cluster.vds)
    (instances : ∀ vd, w.cluster.fetchVD ns disk = some vd → ∀ kvvmi ∈ c.kvvmis, usesClaim vd kvvmi →
      MountedBy vd kvvmi.name) :
    Reserved ns disk { w with cluster := c } := by
  intro vd found
  have before : w.cluster.fetchVD ns disk = some vd := by
    unfold fetchVD at found ⊢
    rwa [← disks]
  exact ⟨(reserved vd before).single, (reserved vd before).image, instances vd before, (reserved vd before).copies⟩

theorem mountedBy_of_checkVMToMountVD {vm : VirtualMachine} (single : SingleMount vd)
    (recorded : checkVMToMountVD vd vm) : MountedBy vd vm.name := by
  unfold checkVMToMountVD at recorded
  split at recorded
  · rename_i attached found
    have member := mem_of_find?_eq_some found
    have named : attached.name = vm.name := by simpa using find?_some found
    refine ⟨any_eq_true.mpr ⟨attached, member, recorded⟩, fun other otherMember mounts => ?_⟩
    exact (single other otherMember attached member mounts recorded).trans named
  · cases recorded

theorem MountRecorded.mountedBy {vmNs vmName : String} {claims : List String} (reserved : Reserved ns disk w)
    (recorded : MountRecorded ns disk w.cluster vmNs vmName claims) (found : w.cluster.fetchVD ns disk = some vd)
    (inside : vmNs = ns) (listed : vd.target ∈ claims) : MountedBy vd vmName := by
  obtain ⟨_, machine, mounts⟩ := (any_eq_true _ _).mp (recorded vd found inside listed)
  rw [← (fetchVM_key machine).2]
  exact mountedBy_of_checkVMToMountVD (reserved vd found).single mounts

end

section Frames

variable {update : Finalizer → Option Int → List Finalizer → List Finalizer} {vmNs ns disk : String}

theorem foldl_updateDeviceFinalizers_undisturbed (refs : List BlockDeviceRef) (c : Cluster) :
    ((refs.foldl (updateDeviceFinalizers update vmNs) c).fetchVD ns disk).map records =
        (c.fetchVD ns disk).map records ∧
      (refs.foldl (updateDeviceFinalizers update vmNs) c).kvvmis = c.kvvmis := by
  induction refs generalizing c with
  | nil => exact ⟨rfl, rfl⟩
  | cons bd _ ih =>
    obtain ⟨disks, instances⟩ := ih (updateDeviceFinalizers update vmNs c bd)
    refine ⟨disks.trans ?_, instances.trans (by unfold updateDeviceFinalizers; split <;> rfl)⟩
    rw [fetchVD_updateDeviceFinalizers, Option.map_map]
    refine map_congr fun _ _ => ?_
    split <;> rfl

theorem blockDeviceHandler_undisturbed (order : MapOrder) (faults : Faults) (c : Cluster) (vm : VirtualMachine) :
    ((blockDeviceHandler order faults c vm).1.fetchVD ns disk).map records = (c.fetchVD ns disk).map records ∧
      (blockDeviceHandler order faults c vm).1.kvvmis = c.kvvmis := by
  unfold blockDeviceHandler
  dsimp only
  split
  · exact foldl_updateDeviceFinalizers_undisturbed _ c
  · split <;> exact foldl_updateDeviceFinalizers_undisturbed _ c

theorem reconciledAttachment_undisturbed (vmbda : VMBDA) (result : VMBDA × List VolumeRequest) (c : Cluster) :
    Undisturbed ns disk c (reconciledAttachment vmbda result c) := by
  unfold reconciledAttachment storeAttachment
  repeat' split
  all_goals exact .of_same rfl rfl

end Frames

section Steps

variable {ns disk : String} {w : World} {vd : VirtualDisk}

theorem ReservedDisk.inUseHandler (order : MapOrder) (phase : DiskPhase) (reserved : ReservedDisk w vd)
    (current : UsageCurrent w vd) : ReservedDisk w (Disk.inUseHandler order w.cluster { vd with phase }) where
  single := updateAttachedVirtualMachines_single order w.cluster { vd with phase }
  image used := by
    unfold UsedForImage at used
    rw [getCondition_inUseHandler] at used
    obtain ⟨-, reason⟩ := used
    unfold inUseCondition at reason
    split at reason
    · cases reason
    rename_i free
    exact Bool.eq_false_iff.mpr free
  instances kvvmi member uses := by
    have mounted := reserved.instances kvvmi member uses
    have same : MountedBy { vd with phase } kvvmi.name := ⟨mounted.mounted, mounted.only⟩
    have kept : MountedBy (updateAttachedVirtualMachines order w.cluster { vd with phase }) kvvmi.name :=
      same.updateAttachedVirtualMachines (current.1 kvvmi member uses)
    exact ⟨kept.mounted, kept.only⟩
  copies copy member copied := by
    -- nobody counts as mounting during a copy, so the handler records nobody
    refine any_attachedVirtualMachines_idle fun _ used => ?_
    have idle := current.2 ⟨copy, member, copied⟩ _ (mem_of_lookup used)
    cases idle

open Cluster

theorem Reserved.reconcileVD {vdNs vdName : String} {order : MapOrder} {phase : DiskPhase}
    (reserved : Reserved ns disk w) (careful : Careful ns disk w (.reconcileVD vdNs vdName order phase)) :
    Reserved ns disk { w with cluster := w.cluster.updateVD vdNs vdName (reconcileDisk order phase w.cluster) } := by
  intro vd' found'
  rw [fetchVD_updateVD (f := reconcileDisk order phase w.cluster) fun _ => protectionHandler_key _] at found'
  obtain ⟨vd, found, rfl⟩ := map_eq_some_iff.mp found'
  have before := reserved vd found
  split
  · rename_i here
    have after := before.inUseHandler order phase (careful here.1.symm here.2.symm vd found)
    refine after.congr (protectionHandler_key _) ?_ after.instances after.copies
    unfold reconcileDisk protectionHandler
    repeat' split
    all_goals rfl
  · exact { before with }

theorem mem_claimNames_changeVolumes {volumes : List Volume} {request : VolumeRequest} {claim : String}
    (listed : claim ∈ claimNames (changeVolumes volumes request)) :
    claim ∈ claimNames volumes ∨ claim ∈ requestedClaims request := by
  unfold changeVolumes at listed
  split at listed
  · split at listed
    · exact .inl listed
    rw [claimNames, filterMap_append] at listed
    exact mem_append.mp listed
  obtain ⟨volume, kept, source⟩ := mem_filterMap.mp listed
  exact .inl (mem_filterMap.mpr ⟨volume, mem_of_mem_filter kept, source⟩)

section

variable (reserved : Reserved ns disk w)
include reserved

theorem Reserved.start {vmNs vmName nodeName : String} {kvvm : KVVM}
    (careful : Careful ns disk w (.start vmNs vmName nodeName)) (found : w.cluster.fetchKVVM vmNs vmName = some kvvm) :
    Reserved ns disk
      { w with cluster.kvvmis := w.cluster.kvvmis ++ [newInstance nodeName kvvm] } := by
  refine reserved.withInstances rfl fun vd stored kvvmi member uses => ?_
  rcases mem_append.mp member with old | new
  · exact (reserved vd stored).instances kvvmi old uses
  obtain rfl := mem_singleton.mp new
  obtain ⟨inside, -, listed⟩ := of_decide_eq_true uses
  obtain ⟨kvvmNs, kvvmName⟩ : kvvm.ns = vmNs ∧ kvvm.name = vmName := by simpa using find?_some found
  have vmInside : vmNs = ns := kvvmNs.symm.trans (inside.trans (fetchVD_key stored).1)
  have mounted := (careful kvvm found).mountedBy reserved stored vmInside listed
  rwa [← kvvmName] at mounted

theorem Reserved.takeUp {vmNs vmName : String} {request : VolumeRequest}
    (careful : Careful ns disk w (.takeUp vmNs vmName request)) : Reserved ns disk
      { w with
        cluster := updateInstances (w.cluster.updateKVVM vmNs vmName (takeUpRequest request)) vmNs vmName
          (withVolumes request) } := by
  refine reserved.withInstances rfl fun vd stored _ member uses => ?_
  obtain ⟨kvvmi, old, rfl⟩ := mem_map.mp member
  split at uses
  · rename_i here
    obtain ⟨kvvmiNs, kvvmiName, -⟩ := of_decide_eq_true here
    obtain ⟨inside, lasting, listed⟩ := of_decide_eq_true uses
    rw [if_pos here]
    -- the instance had the claim before, or gets it with this request
    rcases mem_claimNames_changeVolumes listed with before | requested
    · exact (reserved vd stored).instances kvvmi old (decide_eq_true ⟨inside, lasting, before⟩)
    have vmInside : vmNs = ns := kvvmiNs.symm.trans (inside.trans (fetchVD_key stored).1)
    have mounted := MountRecorded.mountedBy reserved careful stored vmInside requested
    exact kvvmiName.symm ▸ mounted
  rename_i elsewhere
  rw [if_neg elsewhere]
  exact (reserved vd stored).instances kvvmi old uses

theorem Reserved.stop (vmNs vmName : String) :
    Reserved ns disk { w with cluster := updateInstances w.cluster vmNs vmName stopped } := by
  refine reserved.withInstances rfl fun vd stored _ member uses => ?_
  obtain ⟨kvvmi, old, rfl⟩ := mem_map.mp member
  split at uses
  · obtain ⟨-, lasting, -⟩ := of_decide_eq_true uses
    cases lasting
  rename_i elsewhere
  rw [if_neg elsewhere]
  exact (reserved vd stored).instances kvvmi old uses

end

theorem copiesFrom_of_moveCopy {image : ImageKey} {next : Option CopyPhase} {copies : List Copy} {copy' : Copy}
    (member : copy' ∈ moveCopy image next copies) (copied : copiesFrom vd copy') :
    ∃ copy ∈ copies, copiesFrom vd copy := by
  cases next with
  | none => exact ⟨copy', mem_of_mem_filter member, copied⟩
  | some =>
    obtain ⟨copy, old, rfl⟩ := mem_map.mp member
    refine ⟨copy, old, ?_⟩
    split at copied
    · rename_i moving
      obtain ⟨copyNs, copyDisk, -⟩ := of_decide_eq_true copied
      exact decide_eq_true ⟨copyNs, copyDisk, by rw [moving.2]; decide⟩
    · exact copied

section

variable (reserved : Reserved ns disk w)
include reserved

theorem Reserved.moveCopy (image : ImageKey) (next : Option CopyPhase) :
    Reserved ns disk { w with copies := Reservation.moveCopy image next w.copies } := by
  refine reserved.undisturbed (.of_same rfl rfl) fun vd stored _ member copied => ?_
  obtain ⟨before, old, copiedBefore⟩ := copiesFrom_of_moveCopy member copied
  exact (reserved vd stored).copies before old copiedBefore

theorem Reserved.withCopy {c : Cluster} {starts : Bool} {image : ImageKey} {diskNs diskName : String}
    {phase : ImagePhase} {condition : ImageCondition} (same : Undisturbed ns disk w.cluster c)
    (settled : phase = .ready → isImageProvisioningFinished condition) (valid : starts →
      validate w.cluster diskNs diskName phase = none ∧ isImageProvisioningFinished condition = false) :
    Reserved ns disk
      { cluster := c
        copies := if starts then w.copies ++ [⟨image, diskNs, diskName, .working⟩] else w.copies } := by
  refine reserved.undisturbed same fun vd stored copy member copied => ?_
  split at member
  · rename_i begun
    rcases mem_append.mp member with old | new
    · exact (reserved vd stored).copies copy old copied
    -- the copy that begins here: its source is recorded as used for an image, so no VM mounts it
    obtain rfl := mem_singleton.mp new
    obtain ⟨source, unfinished⟩ := valid begun
    have unready : phase ≠ .ready := fun ready => absurd (settled ready) (by simp [unfinished])
    obtain ⟨copyNs, copyDisk, -⟩ := of_decide_eq_true copied
    obtain ⟨vdNs, vdName⟩ := fetchVD_key stored
    obtain ⟨sourceDisk, read, used⟩ := validate_none source unready
    have same : some sourceDisk = some vd := by
      rw [← read, ← stored]
      exact congrArg₂ w.cluster.fetchVD (copyNs.trans vdNs) (copyDisk.trans vdName)
    cases same
    obtain ⟨inUse, -, reason⟩ := of_decide_eq_true used
    exact (reserved vd stored).image ⟨inUse, reason⟩
  · exact (reserved vd stored).copies copy member copied

theorem Reserved.reconcileVI {vi : VirtualImage} {ref : ImageObjectRef} {answers : Image.Answers}
    {copy : Option CopyPhase}
    (settled : vi.phase = .ready → isImageProvisioningFinished (readyCondition vi.conditions)) :
    Reserved ns disk (reconciledImage w vi (reconcileImage answers w.cluster ref copy vi).1
      (reconcileImage answers w.cluster ref copy vi).2 ref) :=
  reserved.withCopy (.of_same rfl rfl) settled reconcileImage_starts

theorem Reserved.reconcileCVI {cvi : ClusterVirtualImage} {ref : ImageObjectRef} {answers : Image.Answers}
    {copy : Option CopyPhase}
    (settled : cvi.phase = .ready → isImageProvisioningFinished (readyCondition cvi.conditions)) :
    Reserved ns disk (reconciledClusterImage w cvi (reconcileClusterImage answers w.cluster ref copy cvi).1
      (reconcileClusterImage answers w.cluster ref copy cvi).2 ref) :=
  reserved.withCopy (.of_same rfl rfl) settled reconcileClusterImage_starts

theorem Reserved.step {w' : World} {action : Action}
    (careful : Careful ns disk w action) (taken : Reservation.step ns disk w action = some w') :
    Reserved ns disk w' := by
  cases action with
  | reconcileVM _ _ order faults =>
    obtain ⟨vm, -, rfl⟩ := map_eq_some_iff.mp taken
    obtain ⟨disks, instances⟩ := @blockDeviceHandler_undisturbed ns disk order faults w.cluster vm
    exact reserved.kept (.of_same disks instances)
  | reconcileVD =>
    cases taken
    exact reserved.reconcileVD careful
  | reconcileAttachment =>
    obtain ⟨vmbda, -, rfl⟩ := map_eq_some_iff.mp taken
    exact reserved.kept (reconciledAttachment_undisturbed vmbda _ w.cluster)
  | reconcileVI =>
    obtain ⟨vi, found, started⟩ := bind_eq_some_iff.mp taken
    obtain ⟨_, -, rfl⟩ := map_eq_some_iff.mp started
    exact reserved.reconcileVI (careful vi found)
  | reconcileCVI =>
    obtain ⟨cvi, found, started⟩ := bind_eq_some_iff.mp taken
    obtain ⟨_, -, rfl⟩ := map_eq_some_iff.mp started
    exact reserved.reconcileCVI (careful cvi found)
  | createVM =>
    cases taken
    exact reserved.kept (.of_same rfl rfl)
  | start =>
    obtain ⟨_, found, started⟩ := bind_eq_some_iff.mp taken
    obtain ⟨-, ⟨⟩⟩ := ite_none_left_eq_some.mp started
    exact reserved.start careful found
  | stop vmNs name =>
    cases taken
    exact reserved.stop vmNs name
  | takeUp =>
    obtain ⟨-, ⟨⟩⟩ := ite_none_right_eq_some.mp taken
    exact reserved.takeUp careful
  | moveCopy image next =>
    cases taken
    exact reserved.moveCopy image next
  | edit =>
    obtain ⟨same, ⟨⟩⟩ := ite_none_right_eq_some.mp taken
    exact reserved.kept same

end

end Steps

/-- In every run in which the records are made before the disk is taken into use, it has one user
    at a time. -/
theorem disk_has_one_user {ns disk : String} {w w' : World} {actions : List Action} (unused : Unused ns disk w)
    (along : Along (step ns disk) (Careful ns disk) w actions) (reached : run (step ns disk) w actions = some w') :
    Exclusive ns disk w' :=
  (run_invariant (fun _ _ _ reserved careful taken => Reserved.step reserved careful taken) unused.reserved along
    reached).exclusive

def machine (name : String) (blockDeviceRefs : List BlockDeviceRef) (phase : MachinePhase) (disks : List String) :
    VirtualMachine :=
  { ns := "default", name, generation := 1, deletionTimestamp := none, runPolicy := .alwaysOn
    paravirtualizationEnabled := true, blockDeviceRefs, phase
    statusRefs := disks.map fun disk => ⟨.diskDevice, disk, "1Gi", false, false, ""⟩, conditions := [] }

def dataVolume : Volume := ⟨"vd-data", .persistentVolumeClaim "pvc-data" false⟩

def kvvmOf (name : String) (volumes : List Volume) : KVVM :=
  { ns := "default", name, template := some volumes, runStrategy := some .always, vmStartRequested := false
    vmRestartRequested := false, printableStatus := .running, synchronizedReason := .unset, stateChangeRequests := []
    volumeRequests := [] }

def idleDisk (attached : List String) : VirtualDisk :=
  { ns := "default", name := "data", generation := 1, observedGeneration := 1, deletionTimestamp := none
    finalizers := [], phase := .ready, target := "pvc-data", capacity := "1Gi"
    attachedToVirtualMachines := attached.map fun name => ⟨name, false⟩
    conditions := [⟨.ready, .conditionTrue, .other, "", 1⟩, ⟨.inUse, .conditionFalse, .notInUse, "", 1⟩] }

def withDisk (vms : List VirtualMachine) (kvvms : List KVVM) (vis : List VirtualImage) (vmbdas : List VMBDA) : World :=
  { cluster :=
      { vms, kvvms, kvvmis := [], pods := []
        pvcs := [{ ns := "default", name := "pvc-data", phase := .bound, deletionTimestamp := none, finalizers := []
                   dataExportRequested := false, volumeName := "pv-1" }]
        vds := [idleDisk (vms.map VirtualMachine.name)], vis, cvis := [], vmbdas }
    copies := [] }

def goldenImage (phase : ImagePhase) (conditions : List ImageCondition) : VirtualImage :=
  { ns := "default", name := "golden", generation := 1, observedGeneration := 1, storage := .containerRegistry
    target := "", registryURL := "", cdrom := false, finalizers := [], deletionTimestamp := none
    objectRef := some ⟨.virtualDisk, "data", ""⟩, phase, sizeUnpacked := "", conditions }

def willing : Image.Answers :=
  { failing := [], start := .started, storageError := none, recent := true, podError := none
    incompatibleProvisioner := none, importerFailed := false, storageClassReady := true, storageClassName := "local"
    targetClaimName := "", registryURL := "", cdrom := false, sizeUnpacked := "" }

def reconcileWeb (kvvms : List KVVM) (phase : MachinePhase) : Action :=
  .reconcileVM "default" "web" .asListed faultless kvvms Hotplug.noHotplugFaults phase

def reconcileData (phase : DiskPhase) : Action := .reconcileVD "default" "data" .asListed phase

def reconcileGolden : Action := .reconcileVI "default" "golden" willing

def startingWeb : VirtualMachine := machine "web" [⟨.diskDevice, "data"⟩] .starting ["data"]

def inTurn : List Action :=
  [reconcileData .ready, .start "default" "web" "node-1", reconcileGolden, .stop "default" "web",
    reconcileWeb [kvvmOf "web" [dataVolume]] .stopped, reconcileData .ready, reconcileGolden]

theorem disk_has_one_user_in_turn :
    (∀ w ∈ run (step "default" "data") (withDisk [startingWeb] [kvvmOf "web" [dataVolume]] [goldenImage .pending []] [])
        inTurn, Exclusive "default" "data" w) ∧
      (run (step "default" "data") (withDisk [startingWeb] [kvvmOf "web" [dataVolume]] [goldenImage .pending []] [])
        inTurn).any fun w => w.cluster.kvvmis.length = 1 ∧ w.copies.length = 1 :=
  ⟨fun _ reached => disk_has_one_user (by decide) (by decide) reached, by decide⟩

def shares (w : World) (actions : List Action) : Bool :=
  Unused "default" "data" w ∧ (run (step "default" "data") w actions).any fun after =>
    ¬ Exclusive "default" "data" after

def stoppedPair : World :=
  withDisk [machine "web" [⟨.diskDevice, "data"⟩] .stopped ["data"],
    machine "db" [⟨.diskDevice, "data"⟩] .stopped ["data"]]
    [kvvmOf "web" [dataVolume], kvvmOf "db" [dataVolume]] [] []

def bothStart : List Action := [.start "default" "web" "node-1", .start "default" "db" "node-1"]

def heldByDb : World :=
  withDisk [machine "db" [⟨.diskDevice, "data"⟩] .starting ["data"], machine "web" [] .running []]
    [kvvmOf "db" [dataVolume], kvvmOf "web" []] [] [newAttachment "first"]

def attached : List Action :=
  [.start "default" "web" "node-1", reconcileData .ready, .start "default" "db" "node-1", reconcileData .ready,
    .reconcileAttachment "default" "first" (answering true),
    .takeUp "default" "web" (.addVolume ⟨"vd-data", .persistentVolumeClaim "pvc-data" true⟩)]

/-- A VM is created while an image is made from the disk: the Pending VM is taken for a user. -/
def untilGranted : List Action :=
  [reconcileData .ready, reconcileGolden, .createVM (machine "web" [⟨.diskDevice, "data"⟩] .unset []),
    reconcileWeb [] .pending, reconcileData .ready]

def grantedDuringCopy : List Action :=
  untilGranted ++ [reconcileWeb [kvvmOf "web" [dataVolume]] .starting, .start "default" "web" "node-1"]

/-- The disk of a ready image is resized while a VM runs with it: the image is made again. -/
def copiedAgain : List Action :=
  [reconcileData .ready, .start "default" "web" "node-1", reconcileData .resizing, reconcileGolden,
    reconcileData .ready, reconcileGolden]

/-- Two stopped VMs are both granted the free disk. An attachment does not look at who mounts the
    disk. A VM is granted a disk from which an image is being made. An image that was ready is made
    again without regard to the VM that mounts the disk. -/
theorem disk_shared : ((∀ vm ∈ stoppedPair.cluster.vms, BlockDevicesGranted .asListed stoppedPair.cluster vm) ∧
      shares stoppedPair bothStart) ∧
    shares heldByDb attached ∧
    ((run (step "default" "data") (withDisk [] [] [goldenImage .pending []] []) untilGranted).any (fun w =>
        w.copies.length = 1 ∧ ∀ vm ∈ w.cluster.vms, BlockDevicesGranted .asListed w.cluster vm) ∧
      shares (withDisk [] [] [goldenImage .pending []] []) grantedDuringCopy) ∧
    shares (withDisk [startingWeb] [kvvmOf "web" [dataVolume]]
      [goldenImage .ready [⟨.ready, .conditionTrue, .ready, "", 1⟩]] []) copiedAgain := by
  refine ⟨⟨?_, ?_⟩, ?_, ⟨?_, ?_⟩, ?_⟩ <;> decide

end Virtualization.Reservation
