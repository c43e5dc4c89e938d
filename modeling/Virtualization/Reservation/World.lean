import Virtualization.Attachment.Detach
import Virtualization.Attachment.Reconcile
import Virtualization.Image.LifeCycle
import Virtualization.Machine.DiskProtection
import Virtualization.Machine.Hotplug

namespace Virtualization.Reservation

open Attachment Virtualization.Core Disk Image Library Machine
open Attachment.Detach (changeVolumes fetchAttachment storeAttachment takeUpRequest)

inductive ImageKey where
  | virtualImage (ns name : String)
  | clusterVirtualImage (name : String)
deriving DecidableEq

structure Copy where
  image : ImageKey
  (ns disk : String)
  phase : CopyPhase

structure World where
  cluster : Cluster
  copies : List Copy

def World.copyOf (w : World) (image : ImageKey) : Option CopyPhase :=
  (w.copies.find? (·.image = image)).map Copy.phase

def usesClaim (vd : VirtualDisk) (kvvmi : KVVMI) : Bool :=
  kvvmi.ns = vd.ns ∧ !kvvmi.finished ∧ vd.target ∈ claimNames kvvmi.volumes

def copiesFrom (vd : VirtualDisk) (copy : Copy) : Bool :=
  copy.ns = vd.ns ∧ copy.disk = vd.name ∧ copy.phase ≠ .complete

inductive Action where
  | reconcileVM (ns name : String) (order : MapOrder) (faults : Faults) (kvvms : List KVVM)
      (hotplugFaults : HotplugFaults) (phase : MachinePhase)
  | reconcileVD (ns name : String) (order : MapOrder) (phase : DiskPhase)
  | reconcileAttachment (ns name : String) (answers : Attachment.Answers)
  | reconcileVI (ns name : String) (answers : Image.Answers)
  | reconcileCVI (name : String) (answers : Image.Answers)
  | createVM (vm : VirtualMachine)
  | start (ns name nodeName : String)
  | stop (ns name : String)
  | takeUp (ns name : String) (request : VolumeRequest)
  | moveCopy (image : ImageKey) (next : Option CopyPhase)
  /-- Anything else happens, but to the records of the disk, and nobody else gets its claim. -/
  | edit (c : Cluster)

def moveCopy (image : ImageKey) : Option CopyPhase → List Copy → List Copy
  | none, copies => copies.filter (·.image ≠ image)
  | some phase, copies => copies.map fun copy =>
      if copy.image = image ∧ copy.phase = .working then { copy with phase } else copy

def records (vd : VirtualDisk) : String × List AttachedVirtualMachine × Condition VDConditionType VDConditionReason :=
  (vd.target, vd.attachedToVirtualMachines, (getCondition .inUse vd.conditions).1)

structure Undisturbed (ns disk : String) (c c' : Cluster) : Prop where
  recorded : ∀ vd' ∈ c'.fetchVD ns disk, (c.fetchVD ns disk).map records = some (records vd')
  users : ∀ vd ∈ c.fetchVD ns disk, ∀ kvvmi' ∈ c'.kvvmis, usesClaim vd kvvmi' →
    ∃ kvvmi ∈ c.kvvmis, usesClaim vd kvvmi ∧ kvvmi.name = kvvmi'.name

instance (ns disk : String) (c c' : Cluster) : Decidable (Undisturbed ns disk c c') :=
  decidable_of_iff
    ((∀ vd' ∈ c'.fetchVD ns disk, (c.fetchVD ns disk).map records = some (records vd')) ∧
      ∀ vd ∈ c.fetchVD ns disk, ∀ kvvmi' ∈ c'.kvvmis, usesClaim vd kvvmi' = true →
        ∃ kvvmi ∈ c.kvvmis, usesClaim vd kvvmi = true ∧ kvvmi.name = kvvmi'.name)
    ⟨fun both => ⟨both.1, both.2⟩, fun same => ⟨same.recorded, same.users⟩⟩

def isInstanceOf (ns name : String) (kvvmi : KVVMI) : Bool := kvvmi.ns = ns ∧ kvvmi.name = name ∧ !kvvmi.finished

def newInstance (nodeName : String) (kvvm : KVVM) : KVVMI :=
  { ns := kvvm.ns, name := kvvm.name, phase := .running, nodeName, volumes := kvvm.template.getD []
    volumeStatus := [] }

def updateInstances (c : Cluster) (ns name : String) (f : KVVMI → KVVMI) : Cluster :=
  { c with kvvmis := c.kvvmis.map fun kvvmi => if isInstanceOf ns name kvvmi then f kvvmi else kvvmi }

def withVolumes (request : VolumeRequest) (kvvmi : KVVMI) : KVVMI :=
  { kvvmi with volumes := changeVolumes kvvmi.volumes request }

def stopped (kvvmi : KVVMI) : KVVMI := { kvvmi with phase := .succeeded }

def reconcileDisk (order : MapOrder) (phase : DiskPhase) (c : Cluster) (vd : VirtualDisk) : VirtualDisk :=
  protectionHandler (inUseHandler order c { vd with phase })

def reconciledAttachment (vmbda : VMBDA) (result : VMBDA × List VolumeRequest) (c : Cluster) : Cluster :=
  (storeAttachment vmbda result.1 c).updateKVVM vmbda.ns vmbda.virtualMachineName fun kvvm =>
    { kvvm with volumeRequests := kvvm.volumeRequests ++ result.2 }

def reconciledImage (w : World) (vi after : VirtualImage) (starts : Bool) (ref : ImageObjectRef) : World :=
  { cluster := { w.cluster with vis := w.cluster.vis.map fun other => if other = vi then after else other }
    copies := if starts then w.copies ++ [⟨.virtualImage vi.ns vi.name, vi.ns, ref.name, .working⟩] else w.copies }

def reconciledClusterImage (w : World) (cvi after : ClusterVirtualImage) (starts : Bool) (ref : ImageObjectRef) :
    World :=
  { cluster := { w.cluster with cvis := w.cluster.cvis.map fun other => if other = cvi then after else other }
    copies := if starts then w.copies ++ [⟨.clusterVirtualImage cvi.name, ref.ns, ref.name, .working⟩] else w.copies }

def step (ns disk : String) (w : World) : Action → Option World
  | .reconcileVM ns name order faults kvvms hotplugFaults phase =>
    (w.cluster.fetchVM ns name).map fun vm =>
      { w with
        cluster := (Hotplug.reconcileVM order faults kvvms hotplugFaults true w.cluster vm).updateVM ns name fun vm =>
          { vm with phase } }
  | .reconcileVD ns name order phase =>
    some { w with cluster := w.cluster.updateVD ns name (reconcileDisk order phase w.cluster) }
  | .reconcileAttachment ns name answers =>
    (fetchAttachment w.cluster ns name).map fun vmbda =>
      { w with cluster := reconciledAttachment vmbda (reconcileAttachment answers w.cluster vmbda) w.cluster }
  | .reconcileVI ns name answers =>
    (w.cluster.fetchVI ns name).bind fun vi => (diskRef vi.objectRef).map fun ref =>
      let result := reconcileImage answers w.cluster ref (w.copyOf (.virtualImage ns name)) vi
      reconciledImage w vi result.1 result.2 ref
  | .reconcileCVI name answers =>
    (w.cluster.fetchCVI name).bind fun cvi => (diskRef cvi.objectRef).map fun ref =>
      let result := reconcileClusterImage answers w.cluster ref (w.copyOf (.clusterVirtualImage name)) cvi
      reconciledClusterImage w cvi result.1 result.2 ref
  | .createVM vm => some { w with cluster.vms := w.cluster.vms ++ [vm] }
  | .start ns name nodeName =>
    (w.cluster.fetchKVVM ns name).bind fun kvvm =>
      if w.cluster.kvvmis.any (isInstanceOf ns name) then none
      else some { w with cluster.kvvmis := w.cluster.kvvmis ++ [newInstance nodeName kvvm] }
  | .stop ns name => some { w with cluster := updateInstances w.cluster ns name stopped }
  | .takeUp ns name request =>
    if (w.cluster.fetchKVVM ns name).any fun kvvm => request ∈ kvvm.volumeRequests then
      some { w with
        cluster := updateInstances (w.cluster.updateKVVM ns name (takeUpRequest request)) ns name
          (withVolumes request) }
    else none
  | .moveCopy image next => some { w with copies := moveCopy image next w.copies }
  | .edit c => if Undisturbed ns disk w.cluster c then some { w with cluster := c } else none

def requestedClaims : VolumeRequest → List String
  | .addVolume volume => claimNames [volume]
  | .removeVolume _ => []

/-- The VM may have these claims as far as the disk goes: the disk is not among them, or its
    status names the VM as the one that mounts it. -/
def MountRecorded (ns disk : String) (c : Cluster) (vmNs vmName : String) (claims : List String) : Prop :=
  ∀ vd ∈ c.fetchVD ns disk, vmNs = ns → vd.target ∈ claims →
    (c.fetchVM vmNs vmName).any (checkVMToMountVD vd)
deriving Decidable

/-- What `InUseHandler` finds is current: the VMs whose instances have the claim count as mounting
    it, and nobody does while a copy is made. -/
def UsageCurrent (w : World) (vd : VirtualDisk) : Prop :=
  (∀ kvvmi ∈ w.cluster.kvvmis, usesClaim vd kvvmi →
      (virtualMachineUsageMap w.cluster vd).lookup kvvmi.name = some true) ∧
    ((∃ copy ∈ w.copies, copiesFrom vd copy) → ∀ entry ∈ virtualMachineUsageMap w.cluster vd, entry.2 = false)
deriving Decidable

/-- The records are made before the disk is taken into use. -/
def Careful (ns disk : String) (w : World) : Action → Prop
  | .start vmNs vmName _ => ∀ kvvm ∈ w.cluster.fetchKVVM vmNs vmName,
      MountRecorded ns disk w.cluster vmNs vmName (claimNames (kvvm.template.getD []))
  | .takeUp vmNs vmName request => MountRecorded ns disk w.cluster vmNs vmName (requestedClaims request)
  | .reconcileVD vdNs vdName _ _ => vdNs = ns → vdName = disk → ∀ vd ∈ w.cluster.fetchVD ns disk, UsageCurrent w vd
  | .reconcileVI viNs viName _ => ∀ vi ∈ w.cluster.fetchVI viNs viName, vi.phase = .ready →
      isImageProvisioningFinished (readyCondition vi.conditions)
  | .reconcileCVI name _ => ∀ cvi ∈ w.cluster.fetchCVI name, cvi.phase = .ready →
      isImageProvisioningFinished (readyCondition cvi.conditions)
  | _ => True

instance (ns disk : String) (w : World) (action : Action) : Decidable (Careful ns disk w action) := by
  cases action <;> unfold Careful <;> infer_instance

/-- One user at a time: the instances that run with the claim of the disk belong to one VM, and
    there is none while a copy is made. -/
def Exclusive (ns disk : String) (w : World) : Prop :=
  ∀ vd ∈ w.cluster.fetchVD ns disk, ∀ one ∈ w.cluster.kvvmis, one.phase = .running → usesClaim vd one →
    (∀ other ∈ w.cluster.kvvmis, other.phase = .running → usesClaim vd other → other.name = one.name) ∧
      ∀ copy ∈ w.copies, copiesFrom vd copy = false
deriving Decidable

def Unused (ns disk : String) (w : World) : Prop :=
  ∀ vd ∈ w.cluster.fetchVD ns disk, checkUsageByVM vd = false ∧
    (∀ kvvmi ∈ w.cluster.kvvmis, usesClaim vd kvvmi = false) ∧ ∀ copy ∈ w.copies, copiesFrom vd copy = false
deriving Decidable

end Virtualization.Reservation
