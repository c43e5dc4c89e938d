import Virtualization.Operation.Service

namespace Virtualization.Operation

open Virtualization.Core (ConditionStatus MachinePhase RunPolicy)

inductive Next where
  | finish (status : Status) (deleted : Bool)
  | consider (status : Status) (vm : VirtualMachine)

namespace PowerState

def ensureAnnotation (present served : Bool) : Bool := present ∨ served

variable (vmop : VirtualMachineOperation) (status : Status) (force : Bool) (served : Call → Bool) (c : Cluster)

def addStartAnnotation (kvvm : KVVM) : Cluster × Bool :=
  if ensureAnnotation kvvm.startRequested (served .patch) then
    ({ c with kvvm := some { kvvm with startRequested := true } }, true)
  else (c, false)

def addRestartAnnotation (kvvm : KVVM) : Cluster × Bool :=
  if ensureAnnotation kvvm.restartRequested (served .patch) then
    ({ c with kvvm := some { kvvm with restartRequested := true } }, true)
  else (c, false)

def startExecute : Cluster × Bool :=
  match c.kvvm with
  | none => (c, false)
  | some kvvm => if served .getKVVM then addStartAnnotation served c kvvm else (c, false)

def stopVM (kvvmi : KVVMI) : Cluster × Bool :=
  if force ∧ ¬served .patch then (c, false)
  else
    let kvvmi := if force then { kvvmi with gracePeriodZero := true } else kvvmi
    if served .delete then ({ c with kvvmi := some { kvvmi with deleting := true } }, true)
    else ({ c with kvvmi := some kvvmi }, false)

def stopExecute : Cluster × Bool :=
  if ¬served .getKVVMI then (c, false)
  else
    match c.kvvmi with
    | none => (c, true)
    | some kvvmi => stopVM force served c kvvmi

def getVMPod (kvvmi : KVVMI) (podList : List Pod) : Option Pod :=
  let pods := podList.filter fun pod =>
    ((kvvmi.completed ∧ kvvmi.nodeName = "") ∨ kvvmi.nodeName = pod.nodeName) ∧ pod.uid ∈ kvvmi.activePods
  match pods with
  | [] => none
  | [pod] => some pod
  | pods =>
    let pods := pods.mergeSort (·.creationTimestamp ≤ ·.creationTimestamp)
    (pods.find? (·.running)).or pods.head?

def findPodByKVVMI (kvvmi : KVVMI) : Option Pod := getVMPod kvvmi (c.pods.filter (·.createdBy = kvvmi.uid))

/-- A pod that is terminating already is left alone. -/
def deletePodByKVVMI (kvvmi : KVVMI) : Cluster × Bool :=
  if ¬served .getPod then (c, false)
  else
    match findPodByKVVMI c kvvmi with
    | none => (c, true)
    | some pod =>
      if pod.deleting then (c, true)
      else if ¬served .delete then (c, false)
      else
        ({ c with
          pods := c.pods.map fun other => if other.uid = pod.uid then { other with deleting := true } else other
          killed := c.killed ++ [pod.uid] }, true)

def restartVM (kvvm : KVVM) (kvvmi : KVVMI) : Cluster × Bool :=
  let changes := [.stopRequest kvvmi.uid, .startRequest]
  if kvvm.stateChangeRequests = changes then (c, true)
  else if kvvm.stateChangeRequests ≠ [] then (c, false)
  else if ¬served .patch then (c, false)
  else
    deletePodByKVVMI served { c with kvvm := some { kvvm with stateChangeRequests := changes } } kvvmi

def restartExecute : Cluster × Bool :=
  match c.kvvm with
  | none => (c, false)
  | some kvvm =>
    if ¬served .getKVVM then (c, false)
    else if force then
      if ¬served .getKVVMI then (c, false)
      else
        match c.kvvmi with
        | none => addStartAnnotation served c kvvm
        | some kvvmi => restartVM served c kvvm kvvmi
    else addRestartAnnotation served c kvvm

def svcOpExecute (type : OperationType) (force : Bool) (served : Call → Bool) (c : Cluster) : Cluster × Bool :=
  match type with
  | .start => startExecute served c
  | .stop => stopExecute force served c
  | .restart => restartExecute force served c
  | .migrate | .evict | .restore | .clone => (c, false)

def isAfterSignalSentOrCreation (timestamp : Nat) (vmop : VirtualMachineOperation) (status : Status) : Bool :=
  let signalSentTime := match status.signalSent with
    | none => vmop.creationTimestamp
    | some condition =>
      if condition.status = .conditionTrue ∧ condition.lastTransitionTime > vmop.creationTimestamp then
        condition.lastTransitionTime
      else vmop.creationTimestamp
  timestamp > signalSentTime

def isComplete : Option Bool :=
  match vmop.type with
  | .start => if served .getVMAgain then some (c.vm.any (·.phase = .running)) else none
  | .stop => if served .getVMAgain then some (c.vm.any (·.phase = .stopped)) else none
  | .restart =>
    if ¬served .getKVVMI then none
    else
      match c.kvvmi with
      | none => some false
      | some kvvmi =>
        match c.vm with
        | none => none
        | some vm =>
          if ¬served .getVMAgain then none
          else some (vm.phase = .running ∧ isAfterSignalSentOrCreation kvvmi.creationTimestamp vmop status)
  | .migrate | .evict | .restore | .clone => none

def syncOperationComplete (now : Nat) : Status :=
  match isComplete vmop status served c with
  | none => status
  | some true => { status with phase := .completed }.setCompleted .conditionTrue .operationCompleted now
  | some false => status.setCompleted .conditionFalse (getInProgressReason vmop.type) now

def isOperationInProgress : Bool := status.sent ∧ ¬status.isCompleted

def handle (now : Nat) : Next :=
  if vmop.isTerminating then .finish { vmop.status with phase := .terminating } false
  else if vmop.isFinished then .finish vmop.status false
  else
    let status := initStatus vmop.status now
    if ¬served .getVM then .finish status false
    else
      match c.vm with
      | none => .finish (setVirtualMachineNotFound status now) false
      | some vm =>
        if isOperationInProgress status then .finish (syncOperationComplete vmop status served c now) false
        else .consider status vm

def execute (now : Nat) : Status × Cluster × Bool :=
  let (c, sent) := svcOpExecute vmop.type vmop.isForceRequested served c
  let status :=
    if sent then status
    else ({ status with phase := .failed }.setCompleted .conditionFalse .operationFailed now).setSignalSent
      .conditionFalse .signalSentError now
  let status := { status with phase := .inProgress }
  let status := status.setCompleted .conditionFalse (getInProgressReason vmop.type) now
  (status.setSignalSent .conditionTrue .signalSentSuccess now, c, sent)

end PowerState

namespace Migrate

inductive Shown where
  | failed (reason : ReasonCompleted)
  | succeeded
  | inProgress (reason : ReasonCompleted) (stalled : Bool)

def inProgressPhase (reason : ReasonCompleted) : OperationPhase :=
  if reason = .migrationPending ∨ reason = .waitingForSyncSlot then .pending else .inProgress

def syncOperationComplete (status : Status) (migration : Option Shown) (served : Call → Bool) (now : Nat) : Next :=
  match migration with
  | none =>
    if served .getKVVMI then
      .finish ({ status with phase := .failed }.setCompleted .conditionFalse .operationFailed now) false
    else .finish status false
  | some (.failed reason) => .finish ({ status with phase := .failed }.setCompleted .conditionFalse reason now) false
  | some .succeeded =>
    .finish ({ status with phase := .completed }.setCompleted .conditionTrue .migrationCompleted now) false
  | some (.inProgress reason stalled) =>
    if ¬served .getPod then .finish status false
    else if stalled then
      if ¬served .delete then .finish status false
      else .finish ({ status with phase := .failed }.setCompleted .conditionFalse .operationFailed now) true
    else .finish ({ status with phase := inProgressPhase reason }.setCompleted .conditionFalse reason now) false

/-- `migration` is the migration of the operation if there is one, and `rejected` says that it exceeds the quota. -/
def handle (vmop : VirtualMachineOperation) (targetMigrationEnabled : Bool) (migration : Option Shown) (rejected : Bool)
    (served : Call → Bool) (c : Cluster) (now : Nat) : Next :=
  if vmop.isTerminating then
    .finish { vmop.status with phase := .terminating } (vmop.deleting ∧ served .getMigration ∧ served .delete)
  else if vmop.isFinished then .finish vmop.status false
  else
    let status := if vmop.status.phase = .unset then vmop.status.setSignalSent .conditionUnknown .unknown now
      else vmop.status
    let status := initStatus status now
    if ¬targetMigrationEnabled ∧ vmop.nodeSelector then
      .finish ({ status with phase := .failed }.setCompleted .conditionFalse .operationFailed now) false
    else if ¬served .getMigration then .finish status false
    else if migration.isSome ∧ rejected then .finish (status.setCompleted .conditionFalse .quotaExceeded now) false
    else if ¬served .getVM then .finish status false
    else
      match c.vm with
      | none => .finish (setVirtualMachineNotFound status now) false
      | some vm =>
        if status.sent ∧ status.phase.isFinished = false then syncOperationComplete status migration served now
        else
          match migration with
          | some shown =>
            syncOperationComplete (status.setSignalSent .conditionTrue .signalSentSuccess now) (some shown) served now
          | none => .consider status vm

def waitForVMReadyToMigrateTimeout : Nat := 5 * 60

def canExecute (status : Status) (vm : VirtualMachine) (now : Nat) : Status × Bool :=
  if vm.readyToMigrate then (status, true)
  else if vm.migratable then
    let late := status.completed.any fun condition =>
      condition.reason = .waitingForVirtualMachineToBeReadyToMigrate ∧
        now - condition.lastTransitionTime > waitForVMReadyToMigrateTimeout
    if late then ({ status with phase := .failed }.setCompleted .conditionFalse .operationFailed now, false)
    else ({ status with phase := .pending }.setCompleted .conditionFalse
      .waitingForVirtualMachineToBeReadyToMigrate now, false)
  else ({ status with phase := .failed }.setCompleted .conditionFalse .operationFailed now, false)

structure Checks where
  (networkReady policyApplicable : Bool)
  othersInProgress : Option Bool

/-- The status after a migration was asked for, and whether it was created. `shown` is the reason for which it is in
    progress, unless it cannot be read. -/
def execute (status : Status) (checks : Checks) (served : Call → Bool) (shown : Option ReasonCompleted)
    (vm : VirtualMachine) (now : Nat) : Status × Bool :=
  let fail (reason : ReasonCompleted) : Status × Bool :=
    ({ status with phase := .failed }.setCompleted .conditionFalse reason now, false)
  if ¬checks.networkReady then fail .migrationNetworkUnavailable
  else if ¬checks.policyApplicable then fail .notApplicableForLiveMigrationPolicy
  else
    match checks.othersInProgress with
    | none => (status, false)
    | some true => fail .otherMigrationInProgress
    | some false =>
      let (status, can) := canExecute status vm now
      if ¬can then (status, false)
      else if ¬served .create then (status, false)
      else
        match shown with
        | none => (status, true)
        | some reason =>
          let status := { status with phase := inProgressPhase reason }.setCompleted .conditionFalse reason now
          (status.setSignalSent .conditionTrue .signalSentSuccess now, true)

end Migrate

namespace Snapshot

inductive Outcome where
  | waiting (disks : Bool)
  | failed
  | completed

def setMaintenanceMode (type : OperationType) (status : Status) (maintenanceMode : Option ConditionStatus) : Status :=
  match type, maintenanceMode with
  | .restore, some mode => { status with maintenanceMode := some mode }
  | _, _ => status

variable (vmop : VirtualMachineOperation)

def execute (status : Status) (outcome : Outcome) (maintenanceMode : Option ConditionStatus) (now : Nat) : Status :=
  let status := setMaintenanceMode vmop.type { status with phase := .inProgress } maintenanceMode
  match outcome with
  | .waiting false => status
  | .waiting true => status.setCompleted .conditionFalse (getInProgressReason vmop.type) now
  | .failed => { status with phase := .failed }.setCompleted .conditionFalse .operationFailed now
  | .completed => { status with phase := .completed }.setCompleted .conditionTrue .operationCompleted now

def leavesAlone : Bool :=
  vmop.isFinished ∧ (vmop.restore = false ∨ vmop.status.maintenanceMode = none ∨
    vmop.status.maintenanceMode = some .conditionFalse)

def handle (outcome : Outcome) (maintenanceMode : Option ConditionStatus)
    (served : Call → Bool) (c : Cluster) (now : Nat) : Next :=
  if vmop.isTerminating then .finish { vmop.status with phase := .terminating } false
  else if leavesAlone vmop then .finish vmop.status false
  else if vmop.status.isCompleted then
    .finish { vmop.status with phase :=
      if vmop.status.completed.any (·.reason = .superseded) then .superseded
      else .completed } false
  else
    let status := initStatus vmop.status now
    if ¬served .getVM then .finish status false
    else
      match c.vm with
      | none => .finish (setVirtualMachineNotFound status now) false
      | some vm =>
        if status.phase = .inProgress then .finish (execute vmop status outcome maintenanceMode now) false
        else .consider status vm

end Snapshot

end Virtualization.Operation
