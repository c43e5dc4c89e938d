import Mathlib.Data.List.Sort
import Virtualization.Library.Store
import Virtualization.Operation.Objects

namespace Virtualization.Operation

open Virtualization.Core (ConditionStatus MachinePhase RunPolicy)
open Library

structure TimedCondition (ρ : Type) where
  status : ConditionStatus
  reason : ρ
  lastTransitionTime : Nat
deriving DecidableEq

def TimedCondition.set {ρ : Type} [DecidableEq ρ] (existing : Option (TimedCondition ρ)) (status : ConditionStatus)
    (reason : ρ) (now : Nat) : TimedCondition ρ :=
  match existing with
  | none => { status, reason, lastTransitionTime := now }
  | some prev =>
    { status, reason
      lastTransitionTime := if prev.status ≠ status ∨ prev.reason ≠ reason then now else prev.lastTransitionTime }

inductive ReasonSignalSent where
  | unknown | signalSentError | signalSentSuccess
deriving DecidableEq

structure Status where
  phase : OperationPhase
  completed : Option (TimedCondition ReasonCompleted)
  signalSent : Option (TimedCondition ReasonSignalSent)
  maintenanceMode : Option ConditionStatus
deriving DecidableEq

def Status.new : Status := { phase := .unset, completed := none, signalSent := none, maintenanceMode := none }

def Status.setCompleted (s : Status) (status : ConditionStatus) (reason : ReasonCompleted) (now : Nat) : Status :=
  { s with completed := some (TimedCondition.set s.completed status reason now) }

def Status.setSignalSent (s : Status) (status : ConditionStatus) (reason : ReasonSignalSent) (now : Nat) : Status :=
  { s with signalSent := some (TimedCondition.set s.signalSent status reason now) }

def Status.sent (s : Status) : Bool := s.signalSent.any (·.status = .conditionTrue)

def Status.isCompleted (s : Status) : Bool := s.completed.any (·.status = .conditionTrue)

/-- `deleting` says that the deletion timestamp is set, and `restore` and `nodeSelector` that the parts of the spec are
    there. -/
structure VirtualMachineOperation where
  name : String
  (uid resourceVersion creationTimestamp : Nat)
  deleting : Bool
  virtualMachine : String
  type : OperationType
  force : Option Bool
  (restore nodeSelector : Bool)
  status : Status
deriving DecidableEq

instance : Object VirtualMachineOperation String where
  key vmop := vmop.name
  version vmop := vmop.resourceVersion
  stamp n vmop := { vmop with resourceVersion := n }
  key_stamp _ _ := rfl
  version_stamp _ _ := rfl

namespace VirtualMachineOperation

variable (vmop : VirtualMachineOperation)

def isFinished : Bool := vmop.status.phase.isFinished

def isTerminating : Bool := vmop.status.phase = .terminating ∨ vmop.deleting

def isForceRequested : Bool := vmop.force.getD false

end VirtualMachineOperation

def canSupersede (oldVMOP newVMOP : VirtualMachineOperation) : Bool :=
  if oldVMOP.virtualMachine ≠ newVMOP.virtualMachine then false
  else
    let oldForce := oldVMOP.force.getD false
    let newForce := newVMOP.force.getD false
    match oldVMOP.type with
    | .start => newVMOP.type = .stop
    | .stop => if oldForce then false else newVMOP.type = .stop ∧ newForce ∨ newVMOP.type = .restart ∧ newForce
    | .migrate | .evict => newVMOP.type = .stop ∨ newVMOP.type = .restart
    | .restart => if oldForce then false else newVMOP.type = .stop ∧ newForce ∨ newVMOP.type = .restart ∧ newForce
    | .restore | .clone => false

def validateCreate (vmopList : List VirtualMachineOperation) (vmop : VirtualMachineOperation) : Bool :=
  vmopList.all fun other =>
    other.virtualMachine ≠ vmop.virtualMachine ∨ other.isFinished ∨ canSupersede other vmop

def isOlderVMOP (a b : VirtualMachineOperation) : Bool :=
  if a.creationTimestamp ≠ b.creationTimestamp then a.creationTimestamp < b.creationTimestamp else a.name < b.name

def findOlderActiveVMOPs (vmopList : List VirtualMachineOperation) (vmop : VirtualMachineOperation) :
    List VirtualMachineOperation :=
  (vmopList.filter fun other =>
    other.virtualMachine = vmop.virtualMachine ∧ other.isFinished = false ∧ other.uid ≠ vmop.uid ∧
      isOlderVMOP other vmop).insertionSort fun a b => isOlderVMOP b a = false

variable (type : OperationType) (vmop : VirtualMachineOperation) (status : Status)

def setNotReadyToBeExecuted (now : Nat) : Status :=
  { status with phase := .failed }.setCompleted .conditionFalse .notReadyToBeExecuted now

def initStatus (now : Nat) : Status :=
  if status.phase = .unset then { status with phase := .pending }.setCompleted .conditionUnknown .unknown now
  else status

def setVirtualMachineNotFound (now : Nat) : Status :=
  { status with phase := .failed }.setCompleted .conditionFalse .virtualMachineNotFound now

def supersededStatus (now : Nat) : Status :=
  { status with phase := .superseded }.setCompleted .conditionTrue .superseded now

/-- The patch carries the phase and the whole list of conditions of the copy that it was made from, and no version. -/
def mergePatch (stored copy : VirtualMachineOperation) (now : Nat) : VirtualMachineOperation :=
  { stored with status := supersededStatus copy.status now }

structure VirtualMachine where
  runPolicy : RunPolicy
  phase : MachinePhase
  (readyToMigrate migratable : Bool)
deriving DecidableEq

inductive StateChangeRequest where
  | stopRequest (uid : Nat)
  | startRequest
deriving DecidableEq

structure KVVM where
  (startRequested restartRequested : Bool)
  stateChangeRequests : List StateChangeRequest

structure KVVMI where
  (uid creationTimestamp : Nat)
  (deleting gracePeriodZero completed : Bool)
  nodeName : String
  activePods : List Nat

structure Pod where
  (uid createdBy creationTimestamp : Nat)
  nodeName : String
  (running deleting : Bool)

/-- The VM with what KubeVirt has for it. `pods` are the virt-launcher pods, and `killed` those that were deleted with
    no grace period, in order. -/
structure Cluster where
  vm : Option VirtualMachine
  kvvm : Option KVVM
  kvvmi : Option KVVMI
  pods : List Pod
  killed : List Nat

inductive Call where
  | getVM | getVMAgain | getKVVM | getKVVMI | getMigration | getPod | patch | patchAgain | delete | create
deriving DecidableEq

def cleanupSupersededOperation (served : Call → Bool) (c : Cluster) : Cluster × Bool × Bool :=
  match type with
  | .start =>
    match c.kvvm with
    | none => (c, false, served .getKVVM)
    | some kvvm =>
      if ¬served .getKVVM then (c, false, false)
      else if kvvm.startRequested = false then (c, false, true)
      else if ¬served .patch then (c, false, false)
      else ({ c with kvvm := some { kvvm with startRequested := false } }, false, true)
  | .restart =>
    match c.kvvm with
    | none => (c, false, served .getKVVM)
    | some kvvm =>
      if ¬served .getKVVM then (c, false, false)
      else if kvvm.restartRequested ∧ ¬served .patch then (c, false, false)
      else
        let kvvm := { kvvm with restartRequested := false }
        if kvvm.startRequested ∧ ¬served .patchAgain then ({ c with kvvm := some kvvm }, false, false)
        else ({ c with kvvm := some { kvvm with startRequested := false } }, false, true)
  | .migrate | .evict =>
    if ¬served .getMigration ∨ ¬served .delete then (c, false, false) else (c, true, true)
  | .stop | .restore | .clone => (c, false, true)

def isApplicableForRunPolicy (runPolicy : RunPolicy) : Bool :=
  match type with
  | .start | .stop => runPolicy = .manual ∨ runPolicy = .alwaysOnUnlessStoppedManually
  | .restart | .migrate | .evict =>
    runPolicy = .manual ∨ runPolicy = .alwaysOnUnlessStoppedManually ∨ runPolicy = .alwaysOn
  | .restore | .clone => true

def isApplicableForVMPhase (force : Bool) (phase : MachinePhase) : Bool :=
  match type with
  | .start => phase = .stopped ∨ phase = .stopping
  | .stop =>
    phase = .running ∨ phase = .degraded ∨ phase = .starting ∨ phase = .pause ∨ phase = .pending ∨
      phase = .stopping ∧ force
  | .restart =>
    phase = .running ∨ phase = .degraded ∨ phase = .starting ∨ phase = .pause ∨ phase = .stopping ∧ force
  | .migrate | .evict => phase = .running
  | .restore => phase = .stopped ∨ phase = .running ∨ phase = .pending
  | .clone => phase = .stopped ∨ phase = .running

def VirtualMachineOperation.isApplicable (vm : VirtualMachine) : Bool :=
  isApplicableForRunPolicy vmop.type vm.runPolicy ∧ isApplicableForVMPhase vmop.type vmop.isForceRequested vm.phase

def setNotApplicable (vm : VirtualMachine) (now : Nat) : Status :=
  { status with phase := .failed }.setCompleted .conditionFalse
    (if isApplicableForRunPolicy vmop.type vm.runPolicy then .notApplicableForVMPhase
      else .notApplicableForRunPolicy) now

def getInProgressReason : OperationType → ReasonCompleted
  | .start => .startInProgress
  | .stop => .stopInProgress
  | .restart => .restartInProgress
  | .restore => .restoreInProgress
  | .clone => .cloneInProgress
  | .migrate | .evict => .migrationPending

end Virtualization.Operation
