import Virtualization.Disk.InUse
import Virtualization.Machine.VolumeNames

namespace Virtualization.Migration

open Virtualization.Core

inductive MigrationResult where
  | unset | succeeded | failed
deriving DecidableEq

structure MachineMigrationState where
  startTimestamp : Option Int
  result : MigrationResult

inductive MachineMigratingReason where
  | migratingPending | other
deriving DecidableEq

inductive MigratableReason where
  | unset | disksShouldBeMigrating | other
deriving DecidableEq

structure VirtualMachine extends Core.VirtualMachine where
  running : ConditionStatus
  migrating : Option MachineMigratingReason
  migratable : MigratableReason
  migrationState : Option MachineMigrationState

structure InstanceMigrationState where
  (completed failed : Bool)
  endTimestamp : Option Int

structure KVVMI extends Core.KVVMI where
  migrationState : Option InstanceMigrationState
  migratedVolumes : List String
  volumesChange : ConditionStatus
  volumeSizes : List (String × Nat)

structure Pod extends Core.Pod where
  claims : List String
deriving DecidableEq

inductive AccessMode where
  | readWriteOnce | readOnlyMany | readWriteMany | readWriteOncePod
deriving DecidableEq

structure PersistentVolumeClaim extends Core.PersistentVolumeClaim where
  owners : List Nat
  accessModes : List AccessMode
  storageClassName : Option String
  (requested capacity : Nat)
  quotaExcluded : Bool

inductive VolumeBindingMode where
  | immediate | waitForFirstConsumer

structure StorageClass where
  name : String
  deletionTimestamp : Option Int
  volumeBindingMode : Option VolumeBindingMode

inductive OperationType where
  | migrate | evict | other
deriving DecidableEq

inductive OperationPhase where
  | unset | pending | inProgress | completed | failed | superseded | terminating
deriving DecidableEq

structure VirtualMachineOperation where
  (ns name virtualMachine : String)
  type : OperationType
  phase : OperationPhase
  creationTimestamp : Int
  waitingForVirtualMachineToBeReadyToMigrate : Bool

structure DiskMigrationState where
  (sourcePVC targetPVC : String)
  (startTimestamp endTimestamp : Option Int)
  result : MigrationResult
  message : String

def DiskMigrationState.empty : DiskMigrationState :=
  { sourcePVC := "", targetPVC := "", startTimestamp := none, endTimestamp := none, result := .unset, message := "" }

inductive DiskMigratingReason where
  | resizingInProgress | snapshottingInProgress | storageClassNotFound | waitForTargetReady | inProgress
  | waitForTargetVolumeRelease | waitForSourceVolumeRelease | other
deriving DecidableEq

structure MigratingCondition where
  status : ConditionStatus
  reason : DiskMigratingReason
  message : String
  observedGeneration : Int

/-- A VirtualDisk with what a migration reads and writes. `specStorageClass` is the wanted class,
    `storageClassName` that of the status. -/
structure VirtualDisk extends Core.VirtualDisk where
  uid : Nat
  specStorageClass : Option String
  storageClassName : String
  migrationState : DiskMigrationState
  migrating : Option MigratingCondition
  (resizing snapshotting : ConditionStatus)

/-- What the API server holds. `others` carries the kinds that only the usage of a disk depends on. -/
structure Cluster where
  vms : List VirtualMachine
  kvvms : List KVVM
  kvvmis : List KVVMI
  pods : List Pod
  pvcs : List PersistentVolumeClaim
  storageClasses : List StorageClass
  operations : List VirtualMachineOperation
  others : Core.Cluster

namespace Cluster

variable (c : Cluster) (ns name : String)

def toCore : Core.Cluster :=
  { c.others with
    vms := c.vms.map VirtualMachine.toVirtualMachine
    kvvms := c.kvvms
    kvvmis := c.kvvmis.map KVVMI.toKVVMI
    pods := c.pods.map Pod.toPod
    pvcs := c.pvcs.map PersistentVolumeClaim.toPersistentVolumeClaim }

def fetchVM : Option VirtualMachine :=
  c.vms.find? fun vm => vm.ns = ns ∧ vm.name = name

def fetchKVVM : Option KVVM :=
  c.kvvms.find? fun kvvm => kvvm.ns = ns ∧ kvvm.name = name

def fetchKVVMI : Option KVVMI :=
  c.kvvmis.find? fun kvvmi => kvvmi.ns = ns ∧ kvvmi.name = name

def fetchPVC : Option PersistentVolumeClaim :=
  if name = "" then none else c.pvcs.find? fun pvc => pvc.ns = ns ∧ pvc.name = name

def fetchStorageClass (name : String) : Option StorageClass :=
  c.storageClasses.find? (·.name = name)

end Cluster

theorem fetchPVC_some {c : Cluster} {ns name : String} {pvc : PersistentVolumeClaim}
    (found : c.fetchPVC ns name = some pvc) : name ≠ "" ∧ pvc.name = name := by
  unfold Cluster.fetchPVC at found
  split at found
  · cases found
  rename_i named
  have matched := List.find?_some found
  simp only [decide_eq_true_eq] at matched
  exact ⟨named, matched.2⟩

variable (vd : VirtualDisk)

def isMigrating : Bool :=
  vd.migrationState.startTimestamp.isSome ∧ vd.migrationState.endTimestamp.isNone

def storageClassChanged : Bool :=
  match vd.specStorageClass with
  | none => false
  | some wanted => wanted ≠ vd.storageClassName ∧ wanted ≠ "" ∧ vd.storageClassName ≠ ""

def currentlyMountedVMName : String := Disk.getCurrentlyMountedVMName vd.toVirtualDisk

def after (time : Int) : Option Int → Bool
  | none => true
  | some reference => time > reference

def setPVCName (name : String) : VirtualDisk :=
  if name = "" then vd else { vd with target := name }

def setMigrating (status : ConditionStatus) (reason : DiskMigratingReason) (message : String) : VirtualDisk :=
  { vd with migrating := some { status, reason, message, observedGeneration := vd.generation } }

def inUseHandler (order : Disk.MapOrder) (c : Cluster) (vd : VirtualDisk) : VirtualDisk :=
  { vd with toVirtualDisk := Disk.inUseHandler order c.toCore vd.toVirtualDisk }

end Virtualization.Migration
