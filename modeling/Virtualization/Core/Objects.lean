import Virtualization.Core.Conditions
import Virtualization.Library.Region

namespace Virtualization.Core

structure NamespacedName where
  (ns name : String)
deriving DecidableEq

inductive BlockDeviceKind where
  | diskDevice | imageDevice | clusterImageDevice
deriving DecidableEq

structure BlockDeviceRef where
  kind : BlockDeviceKind
  name : String
deriving DecidableEq

structure BlockDeviceStatusRef where
  kind : BlockDeviceKind
  (name size : String)
  (attached hotplugged : Bool)
  virtualMachineBlockDeviceAttachmentName : String
deriving DecidableEq

inductive MachinePhase where
  | unset | pending | running | terminating | stopped | stopping | starting | migrating | pause | degraded
deriving DecidableEq

inductive RunPolicy where
  | alwaysOn | alwaysOff | manual | alwaysOnUnlessStoppedManually
deriving DecidableEq

inductive VMConditionType where
  | ipAddressReady | macAddressReady | classReady | blockDevicesReady | provisioningReady
  | sizingPolicyMatched | snapshotting | networkReady
deriving DecidableEq

inductive VMConditionReason where
  | unset | unknown | blockDevicesReady | blockDevicesNotReady | blockDeviceLimitExceeded
  | waitingForWaitForFirstConsumerBlockDevicesToBeReady | snapshottingInProgress | ipAddressNotAssigned
  | sdnModuleDisabled | other
deriving DecidableEq

instance : Inhabited VMConditionReason := ⟨.unset⟩

structure VirtualMachine where
  (ns name : String)
  generation : Int
  deletionTimestamp : Option Int
  runPolicy : RunPolicy
  paravirtualizationEnabled : Bool
  blockDeviceRefs : List BlockDeviceRef
  phase : MachinePhase
  statusRefs : List BlockDeviceStatusRef
  conditions : List (Condition VMConditionType VMConditionReason)
deriving DecidableEq

inductive VolumeSource where
  | persistentVolumeClaim (claimName : String) (hotpluggable : Bool)
  | containerDisk (hotpluggable : Bool)
  | memoryDump (claimName : String)
  | other
deriving DecidableEq

structure Volume where
  name : String
  source : VolumeSource
deriving DecidableEq

inductive VolumeRequest where
  | addVolume (volume : Volume)
  | removeVolume (name : String)
deriving DecidableEq

inductive PrintableStatus where
  | stopped | provisioning | starting | running | paused | stopping | terminating | crashLoopBackOff
  | migrating | unknown | unschedulable | errImagePull | imagePullBackOff | pvcNotFound | dataVolumeError
  | waitingForVolumeBinding | waitingForReceiver | unset | unmapped
deriving DecidableEq

inductive RunStrategy where
  | always | halted | manual | rerunOnFailure | once | waitAsReceiver
deriving DecidableEq

inductive SynchronizedReason where
  | unset | failedCreatePod | failedBackendStorageCreate | other
deriving DecidableEq

structure KVVM where
  (ns name : String)
  template : Option (List Volume)
  runStrategy : Option RunStrategy
  (vmStartRequested vmRestartRequested : Bool)
  printableStatus : PrintableStatus
  synchronizedReason : SynchronizedReason
  stateChangeRequests : List Unit
  volumeRequests : List VolumeRequest
deriving DecidableEq

inductive VolumePhase where
  | ready | hotplugUnMounted | other

structure VolumeStatus where
  name : String
  phase : VolumePhase
  message : String
  hotplugVolume : Bool
  claimName : Option String

inductive InstancePhase where
  | pending | scheduling | scheduled | running | succeeded | failed | unknown
deriving DecidableEq

structure KVVMI where
  (ns name : String)
  phase : InstancePhase
  nodeName : String
  volumes : List Volume
  volumeStatus : List VolumeStatus

def KVVMI.finished (kvvmi : KVVMI) : Bool := kvvmi.phase = .succeeded ∨ kvvmi.phase = .failed

inductive PodPhase where
  | pending | running | succeeded | failed | unknown
deriving DecidableEq

structure Pod where
  (ns virtualMachineName : String)
  phase : PodPhase
deriving DecidableEq

inductive Finalizer where
  | cviProtection | viProtection | vdProtection | pvcProtection | vmbdaCleanup | other (name : String)
deriving DecidableEq

inductive ClaimPhase where
  | unset | pending | bound | lost
deriving DecidableEq

structure PersistentVolumeClaim where
  (ns name : String)
  phase : ClaimPhase
  deletionTimestamp : Option Int
  finalizers : List Finalizer
  dataExportRequested : Bool
  volumeName : String
deriving DecidableEq

inductive DiskPhase where
  | unset | pending | provisioning | waitForUserUpload | waitForFirstConsumer | ready | resizing | failed | lost
  | exporting | terminating | migrating
deriving DecidableEq

structure AttachedVirtualMachine where
  name : String
  mounted : Bool
deriving DecidableEq

inductive VDConditionType where
  | ready | inUse
deriving DecidableEq

inductive VDConditionReason where
  | unset | unknown | attachedToVirtualMachine | usedForImageCreation | usedForDataExport | notInUse | other
deriving DecidableEq

instance : Inhabited VDConditionReason := ⟨.unset⟩

structure VirtualDisk where
  (ns name : String)
  (generation observedGeneration : Int)
  deletionTimestamp : Option Int
  finalizers : List Finalizer
  phase : DiskPhase
  (target capacity : String)
  attachedToVirtualMachines : List AttachedVirtualMachine
  conditions : List (Condition VDConditionType VDConditionReason)
deriving DecidableEq

inductive ImagePhase where
  | unset | pending | waitForUserUpload | provisioning | ready | failed | terminating | lost | pvcLost
deriving DecidableEq

inductive ImageSourceKind where
  | virtualDisk | virtualImage | clusterVirtualImage | virtualDiskSnapshot
deriving DecidableEq

/-- The object an image is created from, when its data source is of type ObjectRef. A
    VirtualImage names an object of its own namespace, so it leaves `ns` empty. -/
structure ImageObjectRef where
  kind : ImageSourceKind
  (name ns : String)
deriving DecidableEq

inductive ImageStorage where
  | containerRegistry | kubernetes | persistentVolumeClaim
deriving DecidableEq

inductive ImageConditionType where
  | datasourceReady | ready | storageClassReady
deriving DecidableEq

inductive ImageConditionReason where
  | unset | unknown | datasourceReady | virtualDiskNotReady | virtualDiskNotReadyForUse
  | virtualDiskAttachedToVirtualMachine | provisioning | provisioningNotStarted | provisioningFailed
  | storageClassReady | storageClassNotReady | ready | datasourceNotReady | pvcLost | other
deriving DecidableEq

instance : Inhabited ImageConditionReason := ⟨.unset⟩

structure VirtualImage where
  (ns name : String)
  (generation observedGeneration : Int)
  storage : ImageStorage
  (target registryURL : String)
  cdrom : Bool
  finalizers : List Finalizer
  deletionTimestamp : Option Int
  objectRef : Option ImageObjectRef
  phase : ImagePhase
  sizeUnpacked : String
  conditions : List (Condition ImageConditionType ImageConditionReason)
deriving DecidableEq

structure ClusterVirtualImage where
  name : String
  (generation observedGeneration : Int)
  registryURL : String
  cdrom : Bool
  finalizers : List Finalizer
  deletionTimestamp : Option Int
  objectRef : Option ImageObjectRef
  phase : ImagePhase
  sizeUnpacked : String
  conditions : List (Condition ImageConditionType ImageConditionReason)
deriving DecidableEq

inductive AttachmentPhase where
  | unset | pending | inProgress | attached | failed | terminating
deriving DecidableEq

inductive AttachmentConditionType where
  | blockDeviceReady | virtualMachineReady | diskAttachmentCapacityAvailable | attached | terminating
deriving DecidableEq

inductive AttachmentConditionReason where
  | unset | unknown | blockDeviceReady | blockDeviceNotReady | virtualMachineReady | virtualMachineNotReady
  | attached | notAttached | attachmentRequestSent | conflict | deviceNotAvailableOnNode
  | capacityAvailable | capacityReached | capacityUnknown | detachPending
deriving DecidableEq

instance : Inhabited AttachmentConditionReason := ⟨.unset⟩

structure VirtualMachineBlockDeviceAttachment where
  (ns name : String)
  (generation creationTimestamp : Int)
  deletionTimestamp : Option Int
  finalizers : List Finalizer
  virtualMachineName : String
  blockDeviceRef : BlockDeviceRef
  phase : AttachmentPhase
  attachedVirtualMachineName : String
  conditions : List (Condition AttachmentConditionType AttachmentConditionReason)
deriving DecidableEq

structure Cluster where
  vms : List VirtualMachine
  kvvms : List KVVM
  kvvmis : List KVVMI
  pods : List Pod
  pvcs : List PersistentVolumeClaim
  vds : List VirtualDisk
  vis : List VirtualImage
  cvis : List ClusterVirtualImage
  vmbdas : List VirtualMachineBlockDeviceAttachment

namespace Cluster

variable (c : Cluster) (ns name : String)

def fetchVM : Option VirtualMachine :=
  c.vms.find? fun vm => vm.ns = ns ∧ vm.name = name

def fetchKVVM : Option KVVM :=
  c.kvvms.find? fun kvvm => kvvm.ns = ns ∧ kvvm.name = name

def fetchKVVMI : Option KVVMI :=
  c.kvvmis.find? fun kvvmi => kvvmi.ns = ns ∧ kvvmi.name = name

def fetchPVC : Option PersistentVolumeClaim :=
  c.pvcs.find? fun pvc => pvc.ns = ns ∧ pvc.name = name

def fetchVD : Option VirtualDisk :=
  c.vds.find? fun vd => vd.ns = ns ∧ vd.name = name

def fetchVI : Option VirtualImage :=
  c.vis.find? fun vi => vi.ns = ns ∧ vi.name = name

def fetchCVI (name : String) : Option ClusterVirtualImage :=
  c.cvis.find? (·.name = name)

def updateKVVM (f : KVVM → KVVM) : Cluster :=
  { c with kvvms := c.kvvms.map fun kvvm => if kvvm.ns = ns ∧ kvvm.name = name then f kvvm else kvvm }

def updateVM (f : VirtualMachine → VirtualMachine) : Cluster :=
  { c with vms := c.vms.map fun vm => if vm.ns = ns ∧ vm.name = name then f vm else vm }

def updateVD (f : VirtualDisk → VirtualDisk) : Cluster :=
  { c with vds := c.vds.map fun vd => if vd.ns = ns ∧ vd.name = name then f vd else vd }

variable {c : Cluster} {ns name : String}

theorem fetchVD_key {vd : VirtualDisk} (found : c.fetchVD ns name = some vd) : vd.ns = ns ∧ vd.name = name := by
  simpa using List.find?_some found

theorem fetchVM_key {vm : VirtualMachine} (found : c.fetchVM ns name = some vm) : vm.ns = ns ∧ vm.name = name := by
  simpa using List.find?_some found

theorem fetchKVVM_updateKVVM {f : KVVM → KVVM} (keyed : ∀ kvvm, (f kvvm).ns = kvvm.ns ∧ (f kvvm).name = kvvm.name)
    (ns' name' : String) : (c.updateKVVM ns name f).fetchKVVM ns' name' =
      (c.fetchKVVM ns' name').map fun kvvm => if ns' = ns ∧ name' = name then f kvvm else kvvm := by
  refine Library.find?_map_update (fun kvvm => ?_) (fun kvvm read => ?_) c.kvvms
  · rw [(keyed kvvm).1, (keyed kvvm).2]
  · rw [read.1, read.2]

theorem fetchVD_updateVD {f : VirtualDisk → VirtualDisk} (keyed : ∀ vd, (f vd).ns = vd.ns ∧ (f vd).name = vd.name)
    (ns' name' : String) : (c.updateVD ns name f).fetchVD ns' name' =
      (c.fetchVD ns' name').map fun vd => if ns' = ns ∧ name' = name then f vd else vd := by
  refine Library.find?_map_update (fun vd => ?_) (fun vd read => ?_) c.vds
  · rw [(keyed vd).1, (keyed vd).2]
  · rw [read.1, read.2]

end Cluster

end Virtualization.Core
