import Virtualization.Migration.Objects

namespace Virtualization.Migration

open Virtualization.Core

inductive Call where
  | virtualMachine | guestInstance | previousInstance | operations | localClaim | storageClass | actualClaim
  | volumeAndAccessModes | provisionedInstance | ownedClaims | createClaim | targetClaim | targetStorageClass
  | releasedClaim | machines | pods | deletedTarget | sourceClaim | deleteClaim | finalizers | quotaLabel
deriving DecidableEq

inductive Failure where
  | api (call : Call)
  | virtualMachineNotFound
  | noMountedVM
  | instanceNotFound
  | sameClaim
deriving DecidableEq

/-- What a pass is given besides the objects: the feature gate, the storage class rules, the calls that fail, the
    clock and the name the API server generates for a new claim. -/
structure Env where
  volumeMigration : Bool
  isStorageClassAllowed : String → Bool
  isStorageClassDeprecated : StorageClass → Bool
  accessMode : AccessMode
  failing : List Call
  now : Int
  generatedName : String

inductive Action where
  | none | migratePrepareTarget | migrateSync | revert | complete | delayNewRound
deriving DecidableEq

/-- `issued` are the claims a `Delete` was sent for, `deleted` those for which it was accepted. -/
structure Outcome where
  vd : VirtualDisk
  (issued deleted : List String)
  created : Option PersistentVolumeClaim
  requeueAfter : Option Nat
  error : Option Failure

def Outcome.of (vd : VirtualDisk) : Outcome :=
  { vd, issued := [], deleted := [], created := none, requeueAfter := none, error := none }

def Outcome.failing (vd : VirtualDisk) (failure : Failure) : Outcome := { Outcome.of vd with error := some failure }

def finalizeMigrationRequeueAfter : Nat := 5

section Decision

variable (env : Env) (c : Cluster)

def kvvmiSpecHasPVC (volumes : List Volume) (claim : String) : Bool :=
  volumes.any fun volume =>
    match volume.source with
    | .persistentVolumeClaim claimName _ => claimName = claim
    | _ => false

def kvvmHasPVC (kvvm : Option KVVM) (claim : String) : Bool :=
  kvvm.any fun kvvm => kvvmiSpecHasPVC (kvvm.template.getD []) claim

def kvvmiHasPVC (kvvmi : Option KVVMI) (claim : String) : Bool :=
  kvvmi.any fun kvvmi => kvvmiSpecHasPVC kvvmi.volumes claim

variable (vd : VirtualDisk) (vm : VirtualMachine)

def getActivePods : List Pod :=
  c.pods.filter fun pod =>
    (pod.ns = vm.ns ∧ pod.virtualMachineName = vm.name) ∧ ¬ (pod.phase = .failed ∨ pod.phase = .succeeded)

/-- The volume of the disk in the instance is on the claim. Only the first volume of that name counts. -/
def volumeOnClaim (kvvmi : KVVMI) (vd : VirtualDisk) (claim : String) : Bool :=
  match kvvmi.volumes.find? (·.name = Machine.generateDiskName .diskDevice vd.name) with
  | some ⟨_, .persistentVolumeClaim claimName _⟩ => claimName = claim
  | _ => false

def completedAfter (kvvmi : KVVMI) (start : Option Int) : Bool :=
  match kvvmi.migrationState with
  | some ⟨true, false, some finished⟩ => after finished start
  | _ => false

def isGuestSwitchedToTargetPVC : Except Failure Bool :=
  if vd.migrationState.targetPVC = "" then .ok false
  else if .guestInstance ∈ env.failing then .error (.api .guestInstance)
  else
    match c.fetchKVVMI vm.ns vm.name with
    | none => .ok false
    | some kvvmi =>
      .ok (completedAfter kvvmi vd.migrationState.startTimestamp ∧ volumeOnClaim kvvmi vd vd.migrationState.targetPVC)

def isKVVMIHasUnfinalizedVolumeMigration : Except Failure Bool :=
  if .previousInstance ∈ env.failing then .error (.api .previousInstance)
  else
    match c.fetchKVVMI vd.ns vm.name with
    | none => .ok false
    | some kvvmi => .ok (kvvmi.migratedVolumes ≠ [] ∨ kvvmi.volumesChange = .conditionTrue)

def isInProgressMigration (operation : VirtualMachineOperation) : Bool :=
  operation.ns = vm.ns ∧ operation.virtualMachine = vm.name ∧
    (operation.type = .migrate ∨ operation.type = .evict) ∧
    (operation.phase = .unset ∨ operation.phase = .pending ∨ operation.phase = .inProgress)

def oldest : List VirtualMachineOperation → Option VirtualMachineOperation
  | [] => none
  | operation :: rest =>
    rest.foldl (fun candidate other =>
      candidate.map fun best => if other.creationTimestamp < best.creationTimestamp then other else best)
      (some operation)

def getInProgressMigratingVMOP : Except Failure (Option VirtualMachineOperation) :=
  if .operations ∈ env.failing then .error (.api .operations)
  else .ok (oldest (c.operations.filter (isInProgressMigration vm)))

def migratingIsWaitingForDisks : Except Failure Bool := do
  match ← getInProgressMigratingVMOP env c vm with
  | none => .ok false
  | some operation => .ok operation.waitingForVirtualMachineToBeReadyToMigrate

def isMigrationStarted (vd : VirtualDisk) : Bool :=
  match vm.migrationState with
  | some ⟨some started, _⟩ => after started vd.migrationState.startTimestamp
  | _ => false

def isRunningOrMigratingPhase : Bool := vm.phase = .running ∨ vm.phase = .migrating

def migrationResult : MigrationResult :=
  match vm.migrationState with
  | some state => state.result
  | none => .unset

def getActionIfMigrationInProgress : Except Failure Action :=
  if isMigrationStarted vm vd then
    match migrationResult vm with
    | .failed => .ok .revert
    | .succeeded => .ok .complete
    | .unset => .ok .migrateSync
  else if vm.running ≠ .conditionTrue ∧ isRunningOrMigratingPhase vm = false then .ok .revert
  else do
    if ← isGuestSwitchedToTargetPVC env c vd vm then .ok .complete
    else if vm.migrating = none then .ok .revert
    else
      match ← getInProgressMigratingVMOP env c vm with
      | none => .ok .revert
      | some _ => .ok .migrateSync

def getActionIfDisksShouldBeMigrating : Except Failure Action :=
  if .localClaim ∈ env.failing then .error (.api .localClaim)
  else
    match c.fetchPVC vd.ns vd.target with
    | none => .ok .none
    | some pvc => if .readWriteMany ∈ pvc.accessModes then .ok .none else .ok .migratePrepareTarget

/-- A round that could start is put off while the instance still carries the volume changes of the last one. -/
def unlessUnfinalized (next : Except Failure Action) : Except Failure Action := do
  if ← isKVVMIHasUnfinalizedVolumeMigration env c vd vm then .ok .delayNewRound else next

def getActionIfNotMigrating : Except Failure Action :=
  if vm.migrating ≠ some .migratingPending then .ok .none
  else
    let ready := (getCondition .ready vd.conditions).1
    if ready.status ≠ .conditionTrue ∧ isLastUpdated ready vd.generation then .ok .none
    else if storageClassChanged vd then unlessUnfinalized env c vd vm (.ok .migratePrepareTarget)
    else if vm.migratable ≠ .disksShouldBeMigrating then .ok .none
    else do
      if ← migratingIsWaitingForDisks env c vm then
        unlessUnfinalized env c vd vm (getActionIfDisksShouldBeMigrating env c vd)
      else .ok .none

def getAction : Except Failure Action :=
  let inUse := (getCondition .inUse vd.conditions).1
  let notAttached : Action := if isMigrating vd then .revert else .none
  if inUse.reason ≠ .attachedToVirtualMachine ∧ isLastUpdated inUse vd.generation then .ok notAttached
  else if currentlyMountedVMName vd = "" then .ok notAttached
  else if .virtualMachine ∈ env.failing then .error (.api .virtualMachine)
  else
    match c.fetchVM vd.ns (currentlyMountedVMName vd) with
    | none => if isMigrating vd then .ok .revert else .error .virtualMachineNotFound
    | some vm =>
      if isMigrating vd then getActionIfMigrationInProgress env c vd vm else getActionIfNotMigrating env c vd vm

end Decision

section Prepare

variable (env : Env) (c : Cluster) (vd : VirtualDisk) (sc : StorageClass)

def handleNone : VirtualDisk :=
  if vd.migrating.any (·.reason = .storageClassNotFound) ∧ storageClassChanged vd = false then
    { vd with migrating := none }
  else vd

def failedRound (message : String) : DiskMigrationState :=
  { DiskMigrationState.empty with
    startTimestamp := some env.now, endTimestamp := some env.now, result := .failed, message }

def withState (state : DiskMigrationState) : VirtualDisk := { vd with migrationState := state }

def getTargetPersistentVolumeClaim : Except Failure (Option PersistentVolumeClaim) :=
  if .targetClaim ∈ env.failing then .error (.api .targetClaim)
  else .ok (c.fetchPVC vd.ns vd.migrationState.targetPVC)

def waitForTarget (message : String) : VirtualDisk :=
  setMigrating vd .conditionFalse .waitForTargetReady message

def isWaitForFirstConsumer : Bool :=
  match sc.volumeBindingMode with
  | none | some .waitForFirstConsumer => true
  | some .immediate => false

def handleMigrateSync : Outcome :=
  match getTargetPersistentVolumeClaim env c vd with
  | .error failure => .failing vd failure
  | .ok none => .of (waitForTarget vd "The target PersistentVolumeClaim is not found.")
  | .ok (some pvc) =>
    let provisioning := waitForTarget vd "Waiting for the target PersistentVolumeClaim to be provisioned."
    match pvc.phase with
    | .bound => .of (setMigrating vd .conditionTrue .inProgress "The target PersistentVolumeClaim is Bound.")
    | .pending =>
      if pvc.storageClassName.getD "" = "" then
        .of (waitForTarget vd "The target PersistentVolumeClaim is pending.")
      else if .targetStorageClass ∈ env.failing then .failing vd (.api .targetStorageClass)
      else
        match c.fetchStorageClass (pvc.storageClassName.getD "") with
        | none =>
          .of (waitForTarget vd "The target PersistentVolumeClaim is pending; the StorageClass is not found.")
        | some sc =>
          if isWaitForFirstConsumer sc then
            .of (setMigrating vd .conditionTrue .inProgress
              "The target PersistentVolumeClaim is waiting for the first consumer.")
          else .of provisioning
    | _ => .of provisioning

def getProvisionedCapacity : Except Failure Nat :=
  if currentlyMountedVMName vd = "" then .error .noMountedVM
  else if .provisionedInstance ∈ env.failing then .error (.api .provisionedInstance)
  else
    match c.fetchKVVMI vd.ns (currentlyMountedVMName vd) with
    | none => .error .instanceNotFound
    | some kvvmi => .ok ((kvvmi.volumeSizes.lookup (Machine.generateDiskName .diskDevice vd.name)).getD 0)

def calculateTargetSize (size realSize : Nat) : Nat :=
  if realSize = 0 then size else if size > realSize then size else realSize

/-- The loop over the owned claims: whether the source was seen, the target and the last other claim seen. It ends
    at the target, so a source listed behind it is not seen. -/
def scanClaims (source target : String) : List PersistentVolumeClaim → Option PersistentVolumeClaim → Bool →
      Bool × Option PersistentVolumeClaim × Option PersistentVolumeClaim
  | [], fallback, seen => (seen, none, fallback)
  | pvc :: rest, fallback, seen =>
    if pvc.name = source then scanClaims source target rest fallback true
    else if target = "" ∨ pvc.name = target then (seen, some pvc, some pvc)
    else scanClaims source target rest (some pvc) seen

inductive TargetChoice where
  | skip
  | existing (pvc : PersistentVolumeClaim)
  | create

def chooseTarget (pvcs : List PersistentVolumeClaim) (target source : String) : TargetChoice :=
  let owned := pvcs.filter fun pvc => ¬ (pvc.name ≠ source ∧ pvc.deletionTimestamp.isSome)
  let target := if target = source ∧ target ≠ "" then "" else target
  match owned with
  | [pvc] => if pvc.name ≠ source then .skip else .create
  | [_, _] =>
    match scanClaims source target owned none false with
    | (false, _, _) => .skip
    | (true, some pvc, _) => .existing pvc
    | (true, none, some pvc) => .existing pvc
    | (true, none, none) => .create
  | _ => .skip

def newClaim (size : Nat) : PersistentVolumeClaim :=
  { ns := vd.ns, name := env.generatedName, phase := .unset, deletionTimestamp := none, finalizers := []
    dataExportRequested := false, volumeName := "", owners := [vd.uid], accessModes := [env.accessMode]
    storageClassName := some sc.name, requested := size, capacity := 0, quotaExcluded := true }

def createTargetPersistentVolumeClaim (size : Nat) (target source : String) :
    Except Failure (Option (PersistentVolumeClaim × Bool)) :=
  if .ownedClaims ∈ env.failing then .error (.api .ownedClaims)
  else
    match chooseTarget (c.pvcs.filter fun pvc => pvc.ns = vd.ns ∧ vd.uid ∈ pvc.owners) target source with
    | .skip => .ok none
    | .existing pvc => .ok (some (pvc, false))
    | .create =>
      if .createClaim ∈ env.failing then .error (.api .createClaim) else .ok (some (newClaim env vd sc size, true))

def prepareClaim (oldTarget : String) : Outcome :=
  if .actualClaim ∈ env.failing then .failing vd (.api .actualClaim)
  else
    match c.fetchPVC vd.ns vd.target with
    | none => .of (withState vd (failedRound env "Actual PersistentVolumeClaim is not found."))
    | some actual =>
      if actual.capacity = 0 then
        .of (withState vd (failedRound env ("Failed to parse capacity " ++ quoted vd.capacity ++ ": zero value")))
      else if .volumeAndAccessModes ∈ env.failing then .failing vd (.api .volumeAndAccessModes)
      else
        match getProvisionedCapacity env c vd with
        | .error failure => .failing vd failure
        | .ok provisioned =>
          match createTargetPersistentVolumeClaim env c vd sc (calculateTargetSize actual.capacity provisioned)
            oldTarget vd.target with
          | .error failure => .failing vd failure
          | .ok none => .of vd
          | .ok (some (pvc, fresh)) =>
            let created := if fresh then some pvc else none
            if vd.target = pvc.name then { Outcome.of vd with created }
            else
              let started := withState vd { DiskMigrationState.empty with
                sourcePVC := vd.target, targetPVC := pvc.name, startTimestamp := some env.now }
              let cluster := { c with pvcs := c.pvcs ++ created.toList }
              { handleMigrateSync env cluster (waitForTarget started "Migration started.") with created }

def handleMigratePrepareTarget : Outcome :=
  if isMigrating vd then .of vd
  else if vd.resizing = .conditionTrue then
    .of (setMigrating vd .conditionFalse .resizingInProgress
      "Migration is not allowed while the disk is being resized.")
  else if vd.snapshotting = .conditionTrue then
    .of (setMigrating vd .conditionFalse .snapshottingInProgress
      "Migration is not allowed while the disk is being snapshotted.")
  else
    let oldTarget := vd.migrationState.targetPVC
    let reset := withState vd .empty
    let wanted := vd.specStorageClass.getD ""
    if .storageClass ∈ env.failing then .failing reset (.api .storageClass)
    else
      match c.fetchStorageClass (if wanted ≠ "" then wanted else vd.storageClassName) with
      | none =>
        .of (setMigrating reset .conditionFalse .storageClassNotFound "StorageClass not found, waiting for creation.")
      | some sc =>
        if wanted ≠ "" ∧ env.isStorageClassAllowed sc.name = false then
          .of (withState vd (failedRound env ("StorageClass " ++ sc.name ++ " is not allowed for use.")))
        else if wanted ≠ "" ∧ env.isStorageClassDeprecated sc then
          .of (withState vd (failedRound env
            ("StorageClass " ++ sc.name ++ " is deprecated, please use a different one.")))
        -- A terminating storage class is recorded as a failed round, and the preparation goes on.
        else if sc.deletionTimestamp.isSome then
          prepareClaim env c (withState vd (failedRound env
            ("StorageClass " ++ sc.name ++ " is terminating and cannot be used."))) sc oldTarget
        else prepareClaim env c reset sc oldTarget

end Prepare

section Finish

variable (env : Env) (c : Cluster)

inductive Release where
  | released
  | held (reason : String)

def stillInUse (role claim vm running : String) : String :=
  "The " ++ role ++ " PersistentVolumeClaim " ++ quoted claim ++ " is still in use by the " ++ running ++
    "VirtualMachine " ++ quoted vm ++ "."

variable (vd : VirtualDisk)

def canDeletePersistentVolumeClaim (claim role : String) : Except Failure Release :=
  let mounted := currentlyMountedVMName vd
  if .releasedClaim ∈ env.failing then .error (.api .releasedClaim)
  else if c.fetchPVC vd.ns claim = none then .ok .released
  else if mounted = "" then .ok .released
  else if .machines ∈ env.failing then .error (.api .machines)
  else if kvvmHasPVC (c.fetchKVVM vd.ns mounted) claim ∨ kvvmiHasPVC (c.fetchKVVMI vd.ns mounted) claim then
    .ok (.held (stillInUse role claim mounted ""))
  else
    match c.fetchVM vd.ns mounted with
    | none => .ok .released
    | some vm =>
      if .pods ∈ env.failing then .error (.api .pods)
      else if (getActivePods c vm).any fun pod => claim ∈ pod.claims then
        .ok (.held (stillInUse role claim mounted "running "))
      else .ok .released

def targetPVCRole : String := "target"
def sourcePVCRole : String := "source"

structure Deletion where
  (issued deleted : List String)
  error : Option Failure

def patchFinalizers (pvc : PersistentVolumeClaim) : Option Failure :=
  if .vdProtection ∈ pvc.finalizers ∧ .finalizers ∈ env.failing then some (.api .finalizers) else none

def deletePersistentVolumeClaim (pvc : PersistentVolumeClaim) : Deletion :=
  if pvc.deletionTimestamp.isSome then { issued := [], deleted := [], error := patchFinalizers env pvc }
  else if .deleteClaim ∈ env.failing then
    { issued := [pvc.name], deleted := [], error := some (.api .deleteClaim) }
  else { issued := [pvc.name], deleted := [pvc.name], error := patchFinalizers env pvc }

def deleteFetched (call : Call) (fetched : Option PersistentVolumeClaim) : Deletion :=
  if call ∈ env.failing then { issued := [], deleted := [], error := some (.api call) }
  else
    match fetched with
    | none => { issued := [], deleted := [], error := none }
    | some pvc => deletePersistentVolumeClaim env pvc

def deleteTargetPersistentVolumeClaim : Deletion :=
  deleteFetched env .deletedTarget (c.fetchPVC vd.ns vd.migrationState.targetPVC)

def deleteSourcePersistentVolumeClaim : Deletion :=
  deleteFetched env .sourceClaim (c.fetchPVC vd.ns vd.migrationState.sourcePVC)

def endRound (result : MigrationResult) (message : String) : VirtualDisk :=
  { vd with
    migrationState := { vd.migrationState with endTimestamp := some env.now, result, message }
    migrating := none }

def Deletion.outcome (deletion : Deletion) (vd finished : VirtualDisk) : Outcome :=
  { vd := if deletion.error.isSome then vd else finished
    issued := deletion.issued, deleted := deletion.deleted, created := none
    requeueAfter := none, error := deletion.error }

def waitForRelease (reason : DiskMigratingReason) (prologue message : String) : Outcome :=
  { Outcome.of (setMigrating vd .conditionTrue reason
      (if message = "" then prologue else prologue ++ " " ++ message)) with
    requeueAfter := some finalizeMigrationRequeueAfter }

def handleRevert : Outcome :=
  if vd.migrationState.targetPVC = vd.target then .failing vd .sameClaim
  else
    match canDeletePersistentVolumeClaim env c vd vd.migrationState.targetPVC targetPVCRole with
    | .error failure => .failing vd failure
    | .ok (.held reason) => waitForRelease vd .waitForTargetVolumeRelease "Cannot revert the migration." reason
    | .ok .released =>
      (deleteTargetPersistentVolumeClaim env c vd).outcome vd (endRound env vd .failed "Migration reverted.")

def finishComplete (target : PersistentVolumeClaim) : Outcome :=
  let deletion := deleteSourcePersistentVolumeClaim env c vd
  let unlabelled : Deletion :=
    if deletion.error = none ∧ target.quotaExcluded ∧ .quotaLabel ∈ env.failing then
      { deletion with error := some (.api .quotaLabel) }
    else deletion
  let wanted := vd.specStorageClass.getD ""
  let classed := if wanted ≠ "" then { vd with storageClassName := wanted } else vd
  unlabelled.outcome vd
    (setPVCName (endRound env classed .succeeded "Migration completed.") vd.migrationState.targetPVC)

def handleComplete : Outcome :=
  match getTargetPersistentVolumeClaim env c vd with
  | .error failure => .failing vd failure
  | .ok none =>
    .of (setPVCName (endRound env vd .failed "Migration failed: target PVC is not found.") vd.migrationState.sourcePVC)
  | .ok (some target) =>
    if target.phase ≠ .bound then
      (deleteTargetPersistentVolumeClaim env c vd).outcome vd
        (setPVCName (endRound env vd .failed "Migration failed: target PVC is not bound.")
          vd.migrationState.sourcePVC)
    else
      match canDeletePersistentVolumeClaim env c vd vd.migrationState.sourcePVC sourcePVCRole with
      | .error failure => .failing vd failure
      | .ok (.held reason) => waitForRelease vd .waitForSourceVolumeRelease "Cannot complete the migration." reason
      | .ok .released => finishComplete env c vd target

def migrationHandler : Outcome :=
  if vd.deletionTimestamp.isSome then .of vd
  else if env.volumeMigration = false ∧ isMigrating vd = false then .of vd
  else
    match getAction env c vd with
    | .error failure => .failing vd failure
    | .ok .none => .of (handleNone vd)
    | .ok .migratePrepareTarget => handleMigratePrepareTarget env c vd
    | .ok .migrateSync => handleMigrateSync env c vd
    | .ok .revert => handleRevert env c vd
    | .ok .complete => handleComplete env c vd
    | .ok .delayNewRound => { Outcome.of vd with requeueAfter := some 5 }

end Finish

end Virtualization.Migration
