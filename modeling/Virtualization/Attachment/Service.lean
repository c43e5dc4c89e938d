import Virtualization.Machine.VolumeNames

namespace Virtualization.Attachment

open Virtualization.Core Machine

abbrev VMBDA := VirtualMachineBlockDeviceAttachment

/-- Serial numbers are left out: nothing reads them back. -/
structure AttachmentDisk where
  kind : BlockDeviceKind
  (name ns generateName pvcName image : String)
  isCdrom : Bool

def newAttachmentDiskFromVirtualDisk (vd : VirtualDisk) : AttachmentDisk :=
  { kind := .diskDevice, name := vd.name, ns := vd.ns, generateName := generateDiskName .diskDevice vd.name
    pvcName := vd.target, image := "", isCdrom := false }

def newAttachmentDiskFromVirtualImage (vi : VirtualImage) : AttachmentDisk :=
  { kind := .imageDevice, name := vi.name, ns := vi.ns, generateName := generateDiskName .imageDevice vi.name
    pvcName := if vi.storage = .containerRegistry then "" else vi.target
    image := if vi.storage = .containerRegistry then vi.registryURL else "", isCdrom := vi.cdrom }

def newAttachmentDiskFromClusterVirtualImage (cvi : ClusterVirtualImage) : AttachmentDisk :=
  { kind := .clusterImageDevice, name := cvi.name, ns := "",
    generateName := generateDiskName .clusterImageDevice cvi.name
    pvcName := "", image := cvi.registryURL, isCdrom := cvi.cdrom }

def attachmentDisk (c : Cluster) (ns : String) (ref : BlockDeviceRef) : Option AttachmentDisk :=
  match ref.kind with
  | .diskDevice => (c.fetchVD ns ref.name).map newAttachmentDiskFromVirtualDisk
  | .imageDevice => (c.fetchVI ns ref.name).map newAttachmentDiskFromVirtualImage
  | .clusterImageDevice => (c.fetchCVI ref.name).map newAttachmentDiskFromClusterVirtualImage

variable {ad : AttachmentDisk}

theorem attachmentDisk_names {c : Cluster} {ns : String} {ref : BlockDeviceRef}
    (found : attachmentDisk c ns ref = some ad) :
    ad.kind = ref.kind ∧ ad.name = ref.name ∧ ad.generateName = generateVMBDADiskName ref := by
  unfold attachmentDisk at found
  unfold generateVMBDADiskName
  split at found <;> rename_i kind <;> obtain ⟨object, fetched, rfl⟩ := Option.map_eq_some_iff.mp found
  · have key : object.ns = ns ∧ object.name = ref.name := by simpa using List.find?_some fetched
    rw [kind, ← key.2]
    exact ⟨rfl, rfl, rfl⟩
  · have key : object.ns = ns ∧ object.name = ref.name := by simpa using List.find?_some fetched
    rw [kind, ← key.2]
    exact ⟨rfl, rfl, rfl⟩
  have key : object.name = ref.name := by simpa using List.find?_some fetched
  rw [kind, ← key]
  exact ⟨rfl, rfl, rfl⟩

inductive HotPlugError where
  | volumeStatusNotReady (message : String)
  | blockDeviceIsSpecAttached
  | hotPlugRequestAlreadySent
  | noVolumeSource (ns name volume : String)

def HotPlugError.text : HotPlugError → String
  | .volumeStatusNotReady message => "hotplug is not ready: " ++ message
  | .blockDeviceIsSpecAttached => "block device is already attached to the virtual machine spec: " ++
    "virtual machine has a block device reference, but it is not a hot-plugged volume"
  | .hotPlugRequestAlreadySent => "attachment request is already sent"
  | .noVolumeSource ns name volume => "kvvm " ++ ns ++ "/" ++ name ++ " spec volume " ++ volume ++
    " does not have a pvc or container disk reference"

def isHotPlugged (ad : AttachmentDisk) (kvvmi : KVVMI) : Except HotPlugError Bool :=
  match kvvmi.volumeStatus.find? fun vs => vs.hotplugVolume ∧ vs.name = ad.generateName with
  | none => .ok false
  | some vs =>
    match vs.phase with
    | .ready => .ok true
    | .hotplugUnMounted => .ok false
    | .other => .error (.volumeStatusNotReady vs.message)

def templateVolumeError (kvvm : KVVM) (vs : Volume) : HotPlugError :=
  match vs.source with
  | .persistentVolumeClaim _ hotpluggable | .containerDisk hotpluggable =>
    if hotpluggable then .hotPlugRequestAlreadySent else .blockDeviceIsSpecAttached
  | .memoryDump _ | .other => .noVolumeSource kvvm.ns kvvm.name vs.name

def requestAdds (name : String) : VolumeRequest → Bool
  | .addVolume volume => volume.name = name
  | .removeVolume _ => false

def templateVolume (kvvm : KVVM) (name : String) : Option Volume :=
  (kvvm.template.getD []).find? (·.name = name)

def pendingAdd (kvvm : KVVM) (name : String) : Bool := kvvm.volumeRequests.any (requestAdds name)

def canHotPlug (ad : AttachmentDisk) (vm : VirtualMachine) (kvvm : KVVM) : Except HotPlugError Unit :=
  if vm.blockDeviceRefs.any fun bdr => bdr.kind = ad.kind ∧ bdr.name = ad.name then
    .error .blockDeviceIsSpecAttached
  else
    match templateVolume kvvm ad.generateName with
    | some vs => .error (templateVolumeError kvvm vs)
    | none => if pendingAdd kvvm ad.generateName then .error .hotPlugRequestAlreadySent else .ok ()

theorem canHotPlug_ok {vm : VirtualMachine} {kvvm : KVVM} (free : canHotPlug ad vm kvvm = .ok ()) :
    (∀ bdr ∈ vm.blockDeviceRefs, ¬ (bdr.kind = ad.kind ∧ bdr.name = ad.name)) ∧
      templateVolume kvvm ad.generateName = none ∧ pendingAdd kvvm ad.generateName = false := by
  unfold canHotPlug at free
  split at free
  · cases free
  rename_i unnamed
  split at free
  · cases free
  rename_i absent
  split at free
  · cases free
  rename_i idle
  exact ⟨by simpa using unnamed, absent, by simpa using idle⟩

/-- The volume that the AddVolume subresource asks KubeVirt for; `none` where it refuses. -/
def hotPlugVolume (ad : AttachmentDisk) : Option Volume :=
  match ad.kind with
  | .diskDevice =>
    if ad.pvcName = "" then none else some ⟨ad.generateName, .persistentVolumeClaim ad.pvcName true⟩
  | .imageDevice =>
    if ad.pvcName ≠ "" ∧ ad.image ≠ "" then none
    else if ad.pvcName ≠ "" then some ⟨ad.generateName, .persistentVolumeClaim ad.pvcName true⟩
    else if ad.image ≠ "" then some ⟨ad.generateName, .containerDisk true⟩
    else none
  | .clusterImageDevice => if ad.image = "" then none else some ⟨ad.generateName, .containerDisk true⟩

def Hotpluggable (volume : Volume) : Prop :=
  match volume.source with
  | .persistentVolumeClaim _ hotpluggable | .containerDisk hotpluggable => hotpluggable
  | .memoryDump _ | .other => False

theorem hotPlugVolume_spec {volume : Volume} (asked : hotPlugVolume ad = some volume) :
    volume.name = ad.generateName ∧ Hotpluggable volume := by
  unfold hotPlugVolume at asked
  split at asked <;> repeat' split at asked
  all_goals cases asked
  all_goals exact ⟨rfl, rfl⟩

def isAttached (vm : Option VirtualMachine) (kvvm : Option KVVM) (vmbda : VMBDA) : Bool :=
  match vm, kvvm with
  | some vm, some _ =>
    match vm.statusRefs.find? fun bdRef =>
        bdRef.kind = vmbda.blockDeviceRef.kind ∧ bdRef.name = vmbda.blockDeviceRef.name with
    | some bdRef => bdRef.hotplugged ∧ bdRef.virtualMachineBlockDeviceAttachmentName = vmbda.name
    | none => false
  | _, _ => false

def Started (vmbda : VMBDA) : Prop := vmbda.phase ≠ .unset ∧ vmbda.phase ≠ .failed
deriving Decidable

def conflictsWith (vmbda other : VMBDA) : Bool :=
  Started other ∨ other.creationTimestamp < vmbda.creationTimestamp ∨
    other.creationTimestamp = vmbda.creationTimestamp ∧ other.name < vmbda.name

def isConflictedAttachment (c : Cluster) (vmbda : VMBDA) : Option String :=
  if vmbda.blockDeviceRef.kind = .clusterImageDevice ∨ vmbda.blockDeviceRef.kind = .imageDevice then none
  else
    (c.vmbdas.find? fun other =>
      other.ns = vmbda.ns ∧ ¬ (other.name = vmbda.name ∨ other.blockDeviceRef ≠ vmbda.blockDeviceRef) ∧
        conflictsWith vmbda other).map (·.name)

/-- `AttachmentConflictValidator.ValidateCreate`; a list that cannot be read lets the attachment pass. -/
def validateCreate (listFails : Bool) (c : Cluster) (vmbda : VMBDA) : Option String :=
  if listFails then none
  else
    (isConflictedAttachment c vmbda).map fun conflictWithName =>
      "another VirtualMachineBlockDeviceAttachment " ++ vmbda.ns ++ "/" ++ conflictWithName ++
        " already exists with the same block device " ++ vmbda.blockDeviceRef.name ++ " for hot-plugging"

end Virtualization.Attachment
