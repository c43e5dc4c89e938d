import Virtualization.Core.Objects

namespace Virtualization.Operation

open Virtualization.Core

inductive OperationType where
  | start | stop | restart | migrate | evict | restore | clone
deriving DecidableEq

inductive OperationPhase where
  | unset | pending | inProgress | completed | failed | superseded | terminating
deriving DecidableEq

inductive ReasonCompleted where
  | unset | unknown | virtualMachineNotFound | notApplicableForRunPolicy | notApplicableForVMPhase
  | notApplicableForLiveMigrationPolicy | notReadyToBeExecuted | superseded | restartInProgress | startInProgress
  | stopInProgress | restoreInProgress | cloneInProgress | migrationPending | targetScheduling | targetUnschedulable
  | targetDiskError | targetPreparing | syncing | waitingForSyncSlot | notConverging | sourceSuspended | targetResumed
  | migrationCompleted | aborted | failed | otherMigrationInProgress | quotaExceeded
  | waitingForVirtualMachineToBeReadyToMigrate | operationFailed | operationCompleted | migrationNetworkUnavailable
deriving DecidableEq

def OperationPhase.isFinished (phase : OperationPhase) : Bool :=
  phase = .failed ∨ phase = .completed ∨ phase = .superseded

def OperationType.isMigration (type : OperationType) : Bool := type = .migrate ∨ type = .evict

end Virtualization.Operation
