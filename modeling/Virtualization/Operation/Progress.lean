import Mathlib.Algebra.Order.Floor.Ring
import Virtualization.Library.Run
import Virtualization.Operation.Objects

namespace Virtualization.Operation.Progress

open Virtualization.Core Library

inductive MigrationPhase where
  | unset | pending | scheduling | scheduled | preparingTarget | targetReady | waitingForSync | synchronizing | running
  | succeeded | failed
deriving DecidableEq

structure TransferStatus where
  (iteration autoConvergeThrottle dataTotalBytes dataProcessedBytes dataRemainingBytes : Option Nat)

structure MigrationState (R : Type) where
  (startTimestamp targetNodeDomainReadyTimestamp : Option R)
  (completed abortRequested abortSucceeded : Bool)
  failureReason : String
  allowAutoConverge : Option Bool
  transferStatus : Option TransferStatus

structure FailedCondition where
  (reason message : String)

structure Migration (R : Type) where
  phase : MigrationPhase
  migrationState : Option (MigrationState R)
  failed : Option FailedCondition

structure CompletedCondition (R : Type) where
  status : ConditionStatus
  reason : ReasonCompleted
  lastTransitionTime : R

structure VMOP (R : Type) where
  creationTimestamp : R
  phase : OperationPhase
  completed : Option (CompletedCondition R)
  progress : Option Int

structure Record (R : Type) where
  (now startedAt : R)
  previousProgress : Int
  iteration : Option Nat
  throttle : R
  (hasThrottle autoConverge : Bool)
  (dataTotalMiB dataProcessedMiB dataRemainingMiB : R)

structure State (R : Type) where
  progress : Int
  iterative : Bool
  iterativeSince : Option R
  (initialTotal initialRemaining smoothedRemaining threshold : R)
  lastIncreaseAt : Option R
  minRemaining : R
  minRemainingAt : Option R

def syncRangeMin : Int := 10
def syncRangeMax : Int := 90

def clampSyncRange (v : Int) : Int :=
  if v < syncRangeMin then syncRangeMin else if v > syncRangeMax then syncRangeMax else v

def parsePercent : Option Int → Int
  | none => syncRangeMin
  | some v => v

section Arithmetic

variable {R : Type} [Field R] [LinearOrder R] [FloorRing R]

def unknownMetric : R := -1

def clampFloat (v minV maxV : R) : R := if v < minV then minV else if v > maxV then maxV else v

def truncate (v : R) : Int := if 0 ≤ v then ⌊v⌋ else ⌈v⌉

def clampPercent (v : R) : Int := clampSyncRange (truncate v)

def mapBytesToMiB : Option Nat → R
  | none => unknownMetric
  | some v => (v : R) / (1024 * 1024)

def normalizeThrottle : Option Nat → R
  | none => 0
  | some raw => clampFloat ((raw : R) / 100) 0 1

def buildRecord (vmop : VMOP R) (mig : Migration R) (now : R) : Record R :=
  let metric (read : TransferStatus → Option Nat) : R :=
    mapBytesToMiB ((mig.migrationState.bind (·.transferStatus)).bind read)
  let throttle := (mig.migrationState.bind (·.transferStatus)).bind (·.autoConvergeThrottle)
  { now
    startedAt := ((mig.migrationState.bind (·.startTimestamp)).getD vmop.creationTimestamp)
    previousProgress := parsePercent vmop.progress
    iteration := (mig.migrationState.bind (·.transferStatus)).bind (·.iteration)
    throttle := normalizeThrottle throttle
    hasThrottle := throttle.isSome
    autoConverge := (mig.migrationState.bind (·.allowAutoConverge)).getD false
    dataTotalMiB := metric (·.dataTotalBytes)
    dataProcessedMiB := metric (·.dataProcessedBytes)
    dataRemainingMiB := metric (·.dataRemainingBytes) }

variable (stored : Option (State R)) (record : Record R) (state : State R)

def isIterative : Bool := record.iteration.any fun iteration => 0 < iteration

def getState : State R :=
  stored.getD
    { progress := clampSyncRange record.previousProgress, iterative := false, iterativeSince := none, initialTotal := 0,
      initialRemaining := 0, smoothedRemaining := 0, threshold := 0, lastIncreaseAt := none, minRemaining := 0,
      minRemainingAt := none }

def maxRemaining : R :=
  if record.dataRemainingMiB > 0 then record.dataRemainingMiB
  else if record.dataTotalMiB > 0 ∧ record.dataProcessedMiB ≥ 0 ∧ record.dataTotalMiB - record.dataProcessedMiB > 0 then
    record.dataTotalMiB - record.dataProcessedMiB
  else 0

def thresholdFactor : R := 5 / 100

def initIterative : State R :=
  let total := if record.dataTotalMiB ≤ 0 then 1 else record.dataTotalMiB
  let initialTotal := if total > state.initialTotal then total else state.initialTotal
  let initialTotal := if initialTotal ≤ 0 then total else initialTotal
  let remaining := if maxRemaining record ≤ 0 then initialTotal else maxRemaining record
  let threshold : R := max (⌈initialTotal * thresholdFactor⌉ : R) 1
  { state with
    initialTotal, threshold, initialRemaining := max remaining threshold, smoothedRemaining := max remaining threshold }

def observeRemaining : State R :=
  let remaining := maxRemaining record
  if remaining ≤ 0 then state
  else
    let alpha : R := if remaining < state.smoothedRemaining then 34 / 100 else 18 / 100
    let alpha := if record.throttle ≥ 80 / 100 then alpha + 8 / 100 else alpha
    let alpha := if alpha > 90 / 100 then 90 / 100 else alpha
    if state.smoothedRemaining ≤ 0 then { state with smoothedRemaining := remaining }
    else { state with smoothedRemaining := alpha * remaining + (1 - alpha) * state.smoothedRemaining }

def stageCap (iterative : Bool) : Int := if iterative then 90 else 45

def stallWindow (iterative : Bool) : R :=
  if ¬iterative then 10
  else if state.progress ≥ 90 - 2 then 24
  else if state.progress ≥ 90 - 5 then 14
  else if state.smoothedRemaining > 0 ∧ state.smoothedRemaining ≤ state.threshold then 6
  else if 8 - 3 * record.throttle < 6 then 6
  else 8 - 3 * record.throttle

def updateMinRemaining : State R :=
  let remaining := maxRemaining record
  if remaining ≤ 0 then state
  else if state.minRemaining ≤ 0 ∨ remaining < state.minRemaining then
    { state with minRemaining := remaining, minRemainingAt := some record.now }
  else state

structure Targets (R : Type) where
  bulk : Record R → R → R
  iterative : Record R → State R → R → R

def maxStep (iterative : Bool) : Int := if iterative then 5 else 10

def limitStep (prev maxStep next : Int) : Int :=
  let next := if next < prev then prev else next
  if next > prev + maxStep then prev + maxStep else next

/-- The percentage after `prev`: towards the target, by a limited step, and by one after a stall. -/
def nextProgress (prev : Int) (iterative : Bool) (target : R) (stalled : Bool) : Int :=
  let cap := stageCap iterative
  let next := limitStep prev (maxStep iterative) (clampPercent (max (prev : R) (min target (cap : R))))
  let next := if next = prev ∧ next < cap ∧ stalled then next + 1 else next
  if next > cap then cap else next

def enterIterative : State R :=
  let state := if isIterative record ∧ ¬state.iterative then
    initIterative record { state with iterative := true, iterativeSince := some record.now } else state
  if isIterative record then observeRemaining record state else state

def syncProgress (targets : Targets R) (stored : Option (State R)) (record : Record R) : State R :=
  let previous := clampSyncRange record.previousProgress
  let prev := if (getState stored record).progress > previous then (getState stored record).progress else previous
  let elapsedSec := max (record.now - record.startedAt) 0
  let iterative := isIterative record
  let state := enterIterative record (getState stored record)
  let target := if iterative then targets.iterative record state elapsedSec else targets.bulk record elapsedSec
  let stalled : Bool :=
    record.now - state.lastIncreaseAt.getD record.startedAt ≥ stallWindow record state iterative
  let next := nextProgress prev iterative target stalled
  let state := updateMinRemaining record state
  { state with
    progress := next, iterative, lastIncreaseAt := if next > prev then some record.now else state.lastIncreaseAt }

def isAtMaxThrottle : Bool :=
  ¬record.autoConverge ∨ record.hasThrottle ∧ record.throttle ≥ 99 / 100

def notConvergingWindow : R := 10

def isNotConverging : Bool :=
  stored.any fun state => state.iterative ∧ isAtMaxThrottle record ∧ state.minRemaining > 0 ∧
    state.minRemainingAt.any fun since => record.now - since ≥ notConvergingWindow

end Arithmetic

inductive TargetPod where
  | healthy | unschedulable | diskError
deriving DecidableEq

inductive SlotWait where
  | none | inbound | sync
deriving DecidableEq

section Handler

variable {R : Type} [Field R] [LinearOrder R] [FloorRing R]

def contains (text part : String) : Bool := text.toLower.toList.tails.any fun rest => part.toList.isPrefixOf rest

section

variable (targets : Targets R) (mig : Migration R)

def Migration.resumed : Bool :=
  mig.migrationState.any (·.targetNodeDomainReadyTimestamp.isSome)

def Migration.completed : Bool := mig.migrationState.any (·.completed)

def getFailedReason : ReasonCompleted :=
  if mig.migrationState.any fun state => state.abortRequested ∨ state.abortSucceeded then .aborted
  else if mig.migrationState.any fun state =>
    contains state.failureReason "converg" ∨ contains state.failureReason "progress" then .notConverging
  else match mig.failed with
    | none => .failed
    | some condition =>
      let reason := condition.reason ++ " " ++ condition.message
      if contains reason "schedul" ∨ contains reason "unschedul" then .targetUnschedulable
      else if contains reason "csi" ∨ contains reason "attach" ∨ contains reason "volume" ∨ contains reason "disk" then
        .targetDiskError
      else .failed

def phaseReason : MigrationPhase → ReasonCompleted
  | .unset | .pending => .migrationPending
  | .scheduling => .targetScheduling
  | .scheduled | .preparingTarget => .targetPreparing
  | .targetReady | .waitingForSync | .synchronizing | .running | .succeeded | .failed => .syncing

def getInProgressReason (target : TargetPod) (slot : SlotWait) : ReasonCompleted :=
  match target, slot with
  | .unschedulable, _ => .targetUnschedulable
  | .diskError, _ => .targetDiskError
  | .healthy, .inbound => .migrationPending
  | .healthy, .sync => .waitingForSyncSlot
  | .healthy, .none =>
    if mig.completed then .sourceSuspended else if mig.resumed then .targetResumed else phaseReason mig.phase

def prepareTargetTimeout : R := 5 * 60

def isTargetPreparationStalled (reason : ReasonCompleted) (completed : Option (CompletedCondition R))
    (now : R) : Bool :=
  match reason with
  | .targetScheduling | .targetUnschedulable | .targetPreparing | .targetDiskError =>
    completed.any fun prev => prev.reason = reason ∧ now - prev.lastTransitionTime > prepareTargetTimeout
  | _ => false

def VMOP.completedReason (vmop : VMOP R) : ReasonCompleted :=
  match vmop.completed with
  | none => .unset
  | some condition => condition.reason

def VMOP.setCompleted (vmop : VMOP R) (status : ConditionStatus) (reason : ReasonCompleted) (now : R) : VMOP R :=
  let lastTransitionTime := match vmop.completed with
    | none => now
    | some prev => if prev.status = status ∧ prev.reason = reason then prev.lastTransitionTime else now
  { vmop with completed := some { status, reason, lastTransitionTime } }

structure World (R : Type) where
  migration : Option (Migration R)
  vmop : VMOP R
  store : Option (State R)

def World.calculateMigrationProgress (w : World R) (mig : Migration R) (reason : ReasonCompleted)
    (now : R) : Int × Option (State R) :=
  match reason with
  | .migrationPending => (0, w.store)
  | .targetScheduling | .targetUnschedulable => (2, w.store)
  | .targetPreparing | .targetDiskError => (3, w.store)
  | .waitingForSyncSlot => (4, w.store)
  | .syncing | .notConverging =>
    let state := syncProgress targets w.store (buildRecord w.vmop mig now)
    (state.progress, some state)
  | .sourceSuspended => (91, none)
  | .targetResumed => (92, none)
  | .migrationCompleted => (100, none)
  | _ => (parsePercent w.vmop.progress, none)

def World.failedReason (w : World R) (mig : Migration R) : ReasonCompleted :=
  if getFailedReason mig = .failed ∧ w.vmop.completedReason = .notConverging then .notConverging
  else getFailedReason mig

def World.inProgressReason (w : World R) (mig : Migration R) (now : R) (target : TargetPod) (slot : SlotWait) :
    ReasonCompleted :=
  let reason := getInProgressReason mig target slot
  if reason = .syncing ∧ isNotConverging w.store (buildRecord w.vmop mig now) then .notConverging else reason

def World.report (w : World R) (mig : Migration R) (phase : OperationPhase)
    (measured reason : ReasonCompleted) (now : R) : World R :=
  let (progress, store) := w.calculateMigrationProgress targets mig measured now
  { w with
    vmop := { w.vmop.setCompleted .conditionFalse reason now with phase, progress := some progress }, store }

def World.syncOperationComplete (w : World R) (now : R) (target : TargetPod) (slot : SlotWait) : World R :=
  match w.migration with
  | none => { w with vmop := { w.vmop.setCompleted .conditionFalse .operationFailed now with phase := .failed } }
  | some mig =>
    match mig.phase with
    | .failed => w.report targets mig .failed (w.failedReason mig) (w.failedReason mig) now
    | .succeeded =>
      { w with vmop :=
          { w.vmop.setCompleted .conditionTrue .migrationCompleted now with
            phase := .completed, progress := some 100 } }
    | _ =>
      let reason := w.inProgressReason mig now target slot
      if isTargetPreparationStalled reason w.vmop.completed now then
        { w.report targets mig .failed reason .operationFailed now with migration := none }
      else if reason = .migrationPending ∨ reason = .waitingForSyncSlot then
        w.report targets mig .pending reason reason now
      else w.report targets mig .inProgress reason reason now

end

inductive Event (R : Type) where
  | changed (migration : Option (Migration R))
  | restarted
  | pass (now : R) (target : TargetPod) (slot : SlotWait)

def World.step (targets : Targets R) (w : World R) : Event R → Option (World R)
  | .changed migration => some { w with migration }
  | .restarted => some { w with store := none }
  | .pass now target slot =>
    if w.vmop.phase.isFinished then some { w with store := none }
    else some (w.syncOperationComplete targets now target slot)

def World.start (creationTimestamp : R) (mig : Migration R) : World R where
  migration := some mig
  vmop := { creationTimestamp, phase := .inProgress, completed := none, progress := none }
  store := none

end Handler

end Virtualization.Operation.Progress
