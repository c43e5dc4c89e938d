import Virtualization.Library.Run
import Virtualization.Migration.ClaimUse

namespace Virtualization.Migration

open Virtualization.Core Deletion Disk Library List Option

/-- One disk among everything else. `reported` names the VM whose KVVMI has reported the compute migration of the
    present round as completed with the guest on the target claim. -/
structure World where
  cluster : Cluster
  disk : VirtualDisk
  reported : Option String

inductive Move where
  | pass (env : Env) (order : Disk.MapOrder)
  | change (cluster : Cluster)

variable (c : Cluster) (vd : VirtualDisk) (w : World)

def reportsSwitch (vm : String) : Bool :=
  isMigrating vd ∧ vm ≠ "" ∧ vd.migrationState.targetPVC ≠ "" ∧
    (c.fetchKVVMI vd.ns vm).any fun kvvmi =>
      completedAfter kvvmi vd.migrationState.startTimestamp ∧ volumeOnClaim kvvmi vd vd.migrationState.targetPVC

def reportedAfter (c : Cluster) : Option String :=
  if w.reported.isSome then w.reported else (c.kvvmis.map (·.name)).find? (reportsSwitch c w.disk)

def targetBound : Bool :=
  (c.fetchPVC vd.ns vd.migrationState.targetPVC).any (·.phase = .bound)

def markDeleted (deleted : List String) (ns : String) (now : Int) (pvc : PersistentVolumeClaim) :
    PersistentVolumeClaim :=
  if pvc.ns = ns ∧ pvc.name ∈ deleted then { pvc with deletionTimestamp := some now } else pvc

def afterPass (env : Env) (vd : VirtualDisk) (outcome : Outcome) (c : Cluster) : Cluster :=
  { c with pvcs := c.pvcs.map (markDeleted outcome.deleted vd.ns env.now) ++ outcome.created.toList }

def sameRound (before later : VirtualDisk) : Bool :=
  isMigrating later ∧ later.migrationState.startTimestamp = before.migrationState.startTimestamp ∧
    later.migrationState.targetPVC = before.migrationState.targetPVC

def reconcile (env : Env) (order : Disk.MapOrder) (w : World) : Outcome :=
  migrationHandler env w.cluster (inUseHandler order w.cluster w.disk)

def worldStep : Move → Option World
  | .pass env order =>
    let outcome := reconcile env order w
    some { cluster := afterPass env w.disk outcome w.cluster, disk := outcome.vd
           reported := if sameRound w.disk outcome.vd then w.reported else none }
  | .change cluster =>
    -- The target of a reported round stays Bound.
    if (reportedAfter w cluster).isSome → targetBound cluster w.disk then
      some { w with cluster, reported := reportedAfter w cluster }
    else none

/-- The VM shows a migration since the start of the round that has not failed, or none, and then it runs with the
    KVVMI that reported it. -/
def showsEnd (machine : VirtualMachine) : Bool :=
  if isMigrationStarted machine vd then migrationResult machine ≠ .failed
  else (machine.running = .conditionTrue ∨ isRunningOrMigratingPhase machine) ∧ reportsSwitch c vd machine.name

def Visible : Move → Prop
  | .pass _ order =>
    ∀ vm ∈ w.reported, currentlyMountedVMName (inUseHandler order w.cluster w.disk) = vm ∧
      (w.cluster.fetchVM w.disk.ns vm).any (showsEnd w.cluster w.disk)
  | .change _ => True

def Outcome.KeepsClaim (outcome : Outcome) (claim : String) : Prop :=
  claim ∉ outcome.issued ∧ (outcome.vd.migrationState.endTimestamp.isSome → outcome.vd.target = claim)
deriving Decidable

def KeepsTarget : Move → Prop
  | .pass env order =>
    w.reported.isSome → (reconcile env order w).KeepsClaim w.disk.migrationState.targetPVC
  | .change _ => True

instance (w : World) (move : Move) : Decidable (Visible w move) := by
  cases move <;> unfold Visible <;> infer_instance

instance (w : World) (move : Move) : Decidable (KeepsTarget w move) := by
  cases move <;> unfold KeepsTarget <;> infer_instance

section Handler

variable {env : Env} {c : Cluster} {vd : VirtualDisk}

structure KeepsRound (before later : VirtualDisk) : Prop where
  source : later.migrationState.sourcePVC = before.migrationState.sourcePVC
  target : later.migrationState.targetPVC = before.migrationState.targetPVC
  start : later.migrationState.startTimestamp = before.migrationState.startTimestamp
  ended : before.migrationState.endTimestamp.isSome → later.migrationState.endTimestamp.isSome
  ns : later.ns = before.ns

variable {before later : VirtualDisk}

theorem KeepsRound.of_state (same : later.migrationState = before.migrationState) (ns : later.ns = before.ns) :
    KeepsRound before later := by
  refine ⟨?_, ?_, ?_, ?_, ns⟩ <;> rw [same]
  exact id

theorem KeepsRound.migrating (keeps : KeepsRound before later) (migrating : isMigrating later) :
    isMigrating before := by
  obtain ⟨started, running⟩ := of_decide_eq_true migrating
  refine decide_eq_true ⟨keeps.start ▸ started, ?_⟩
  cases finished : before.migrationState.endTimestamp with
  | none => rfl
  | some =>
    have ended := keeps.ended (by rw [finished]; rfl)
    rw [isNone_iff_eq_none.mp running] at ended
    cases ended

theorem handleMigrateSync_state (env : Env) (c : Cluster) (vd : VirtualDisk) :
    (handleMigrateSync env c vd).vd.migrationState = vd.migrationState ∧
      (handleMigrateSync env c vd).vd.ns = vd.ns := by
  unfold handleMigrateSync
  repeat' split
  all_goals exact ⟨rfl, rfl⟩

theorem setPVCName_keeps {finished : VirtualDisk} (keeps : KeepsRound vd finished) (name : String) :
    KeepsRound vd (setPVCName finished name) := by
  obtain ⟨source, target, start, ended, ns⟩ := keeps
  unfold setPVCName
  split <;> exact ⟨source, target, start, ended, ns⟩

theorem endRound_keeps (env : Env) (vd : VirtualDisk) (result : MigrationResult) (message : String) :
    KeepsRound vd (endRound env vd result message) := ⟨rfl, rfl, rfl, fun _ => rfl, rfl⟩

theorem Deletion.outcome_vd (deletion : Deletion) (vd finished : VirtualDisk) :
    (deletion.outcome vd finished).vd = vd ∨ (deletion.outcome vd finished).vd = finished := by
  unfold outcome
  split
  · exact .inl rfl
  · exact .inr rfl

theorem Deletion.outcome_keeps {deletion : Deletion} {finished : VirtualDisk} (keeps : KeepsRound vd finished) :
    KeepsRound vd (deletion.outcome vd finished).vd := by
  rcases deletion.outcome_vd vd finished with same | same <;> rw [same]
  · exact .of_state rfl rfl
  · exact keeps

theorem handleRevert_keeps (env : Env) (c : Cluster) (vd : VirtualDisk) : KeepsRound vd (handleRevert env c vd).vd := by
  unfold handleRevert
  split
  · exact .of_state rfl rfl
  split
  · exact .of_state rfl rfl
  · exact .of_state rfl rfl
  · exact outcome_keeps (endRound_keeps env vd _ _)

theorem handleComplete_keeps (env : Env) (c : Cluster) (vd : VirtualDisk) :
    KeepsRound vd (handleComplete env c vd).vd := by
  unfold handleComplete
  split
  · exact .of_state rfl rfl
  · exact setPVCName_keeps (endRound_keeps env vd _ _) _
  split
  · exact outcome_keeps (setPVCName_keeps (endRound_keeps env vd _ _) _)
  split
  · exact .of_state rfl rfl
  · exact .of_state rfl rfl
  · refine outcome_keeps (setPVCName_keeps ?_ _)
    split <;> exact ⟨rfl, rfl, rfl, fun _ => rfl, rfl⟩

theorem migrationHandler_keeps (env : Env) (c : Cluster) (vd : VirtualDisk) :
    KeepsRound vd (migrationHandler env c vd).vd ∨ migrationHandler env c vd = handleMigratePrepareTarget env c vd := by
  unfold migrationHandler
  iterate 3
    split
    · exact .inl (.of_state rfl rfl)
  · left
    unfold handleNone
    split <;> exact .of_state rfl rfl
  · exact .inr rfl
  · exact .inl (.of_state (handleMigrateSync_state env c vd).1 (handleMigrateSync_state env c vd).2)
  · exact .inl (handleRevert_keeps env c vd)
  · exact .inl (handleComplete_keeps env c vd)
  · exact .inl (.of_state rfl rfl)

theorem migrationHandler_ns (migrating : isMigrating vd) (env : Env) (c : Cluster) :
    (migrationHandler env c vd).vd.ns = vd.ns := by
  rcases migrationHandler_keeps env c vd with keeps | prepares
  · exact keeps.ns
  rw [prepares, handleMigratePrepareTarget, if_pos migrating]
  rfl

def DistinctClaims (vd : VirtualDisk) : Prop :=
  isMigrating vd → vd.migrationState.sourcePVC ≠ vd.migrationState.targetPVC

theorem KeepsRound.distinct (keeps : KeepsRound before later) (distinct : DistinctClaims before) :
    DistinctClaims later := by
  intro migrating
  rw [keeps.source, keeps.target]
  exact distinct (keeps.migrating migrating)

theorem failedRound_distinct (vd : VirtualDisk) (env : Env) (message : String) :
    DistinctClaims (withState vd (failedRound env message)) := by
  intro migrating
  cases migrating

section

variable (distinct : DistinctClaims vd)
include distinct

theorem prepareClaim_distinct (env : Env) (c : Cluster) (sc : StorageClass) (oldTarget : String) :
    DistinctClaims (prepareClaim env c vd sc oldTarget).vd := by
  unfold prepareClaim
  split
  · exact distinct
  split
  · exact failedRound_distinct vd env _
  split
  · exact failedRound_distinct vd env _
  iterate 3
    split
    · exact distinct
  · exact distinct
  dsimp only
  split
  · exact distinct
  rename_i other
  intro _
  rw [(handleMigrateSync_state _ _ _).1]
  exact other

theorem handleMigratePrepareTarget_distinct (env : Env) (c : Cluster) :
    DistinctClaims (handleMigratePrepareTarget env c vd).vd := by
  have reset : DistinctClaims (withState vd .empty) := fun migrating => nomatch migrating
  unfold handleMigratePrepareTarget
  dsimp only
  iterate 3
    split
    · exact distinct
  split
  · exact reset
  split
  · exact reset
  split
  · exact failedRound_distinct vd env _
  split
  · exact failedRound_distinct vd env _
  split
  · exact prepareClaim_distinct (failedRound_distinct vd env _) env c _ _
  · exact prepareClaim_distinct reset env c _ _

theorem migrationHandler_distinct (env : Env) (c : Cluster) : DistinctClaims (migrationHandler env c vd).vd := by
  rcases migrationHandler_keeps env c vd with keeps | prepares
  · exact keeps.distinct distinct
  rw [prepares]
  exact handleMigratePrepareTarget_distinct distinct env c

end

theorem mounted_attached (order : Disk.MapOrder) (c : Cluster) (vd : VirtualDisk)
    (mounted : currentlyMountedVMName (inUseHandler order c vd) ≠ "") :
    (getCondition .inUse (inUseHandler order c vd).conditions).1.reason = .attachedToVirtualMachine := by
  have used : checkUsageByVM (updateAttachedVirtualMachines order c.toCore vd.toVirtualDisk) := by
    unfold currentlyMountedVMName getCurrentlyMountedVMName at mounted
    split at mounted
    · rename_i entry found
      exact any_eq_true.mpr ⟨entry, mem_of_find?_eq_some found, by simpa using find?_some found⟩
    · exact absurd rfl mounted
  have condition : (inUseHandler order c vd).conditions =
      setCondition (inUseCondition c.toCore (updateAttachedVirtualMachines order c.toCore vd.toVirtualDisk))
        vd.conditions := rfl
  have type : (inUseCondition c.toCore
      (updateAttachedVirtualMachines order c.toCore vd.toVirtualDisk)).type = .inUse := by
    simp [inUseCondition, used]
  rw [condition, ← type, getCondition_setCondition]
  simp [inUseCondition, used]

theorem isGuestSwitched_of_reports {machine : VirtualMachine} (reports : reportsSwitch c vd machine.name)
    (ns : machine.ns = vd.ns) (env : Env) : isGuestSwitchedToTargetPVC env c vd machine = .ok true ∨
      isGuestSwitchedToTargetPVC env c vd machine = .error (.api .guestInstance) := by
  obtain ⟨-, -, target, reported⟩ := of_decide_eq_true reports
  obtain ⟨_, found, switched⟩ := (any_eq_true _ _).mp reported
  unfold isGuestSwitchedToTargetPVC
  rw [if_neg target]
  split
  · exact .inr rfl
  rw [ns, found]
  exact .inl (congrArg Except.ok switched)

section

variable (migrating : isMigrating vd)
include migrating

theorem getAction_visible {vm : String} {machine : VirtualMachine}
    (attached : (getCondition .inUse vd.conditions).1.reason = .attachedToVirtualMachine)
    (mounted : currentlyMountedVMName vd = vm) (named : vm ≠ "") (found : c.fetchVM vd.ns vm = some machine)
    (visible : showsEnd c vd machine) {action : Action} (decided : getAction env c vd = .ok action) :
    action = .complete ∨ action = .migrateSync := by
  unfold getAction at decided
  simp only [attached, ne_eq, not_true, false_and, if_false, mounted, named, found, migrating, if_true] at decided
  split at decided
  · cases decided
  unfold getActionIfMigrationInProgress at decided
  split at decided
  · rename_i started
    split at decided
    · rename_i failed
      rw [showsEnd, if_pos started] at visible
      exact absurd failed (of_decide_eq_true visible)
    · cases decided
      exact .inl rfl
    cases decided
    exact .inr rfl
  rename_i early
  rw [showsEnd, if_neg early] at visible
  obtain ⟨running, switched⟩ := of_decide_eq_true visible
  have ns := (fetchVM_some found).1
  split at decided
  · rename_i stopped
    rcases running with running | running
    · exact absurd running stopped.1
    rw [stopped.2] at running
    cases running
  rcases isGuestSwitched_of_reports switched ns env with answer | answer
  · rw [answer] at decided
    cases decided
    exact .inl rfl
  rw [answer] at decided
  cases decided

theorem open_keepsClaim {outcome : Outcome} (quiet : outcome.Quiet)
    (same : outcome.vd.migrationState = vd.migrationState) (claim : String) : outcome.KeepsClaim claim := by
  refine ⟨by simp [quiet.1], fun ended => ?_⟩
  have running : vd.migrationState.endTimestamp = none := isNone_iff_eq_none.mp (of_decide_eq_true migrating).2
  rw [same, running] at ended
  cases ended

variable (distinct : vd.migrationState.sourcePVC ≠ vd.migrationState.targetPVC)
include distinct

theorem finishComplete_keepsClaim (named : vd.migrationState.targetPVC ≠ "") (target : PersistentVolumeClaim) :
    (finishComplete env c vd target).KeepsClaim vd.migrationState.targetPVC := by
  have running : vd.migrationState.endTimestamp = none := isNone_iff_eq_none.mp (of_decide_eq_true migrating).2
  unfold finishComplete
  dsimp only
  constructor
  · intro issued
    have sent : vd.migrationState.targetPVC ∈ (deleteSourcePersistentVolumeClaim env c vd).issued := by
      revert issued
      split <;> exact id
    exact distinct (deleteFetched_issued.mp sent).1.symm
  -- An error leaves the round open, so an ended round has its claim set.
  intro ended
  rcases outcome_vd _ vd _ with same | same
  · rw [same, running] at ended
    cases ended
  rw [same]
  simp [setPVCName, named]

theorem handleComplete_keepsClaim
    (bound : (c.fetchPVC vd.ns vd.migrationState.targetPVC).any (·.phase = .bound)) :
    (handleComplete env c vd).KeepsClaim vd.migrationState.targetPVC := by
  obtain ⟨target, found, isBound⟩ := (any_eq_true _ _).mp bound
  unfold handleComplete getTargetPersistentVolumeClaim
  rw [found]
  split
  · exact open_keepsClaim migrating (quiet_failing _ _) rfl _
  · rename_i fetched
    split at fetched <;> cases fetched
  rename_i claim fetched
  have same : claim = target := by
    split at fetched
    · cases fetched
    cases fetched
    rfl
  subst same
  rw [if_neg (not_not.mpr (of_decide_eq_true isBound))]
  split
  · exact open_keepsClaim migrating (quiet_failing _ _) rfl _
  · exact open_keepsClaim migrating ⟨rfl, rfl⟩ rfl _
  · exact finishComplete_keepsClaim migrating distinct (fetchPVC_some found).1 _

theorem migrationHandler_keepsClaim
    (bound : (c.fetchPVC vd.ns vd.migrationState.targetPVC).any (·.phase = .bound))
    (actions : ∀ action, getAction env c vd = .ok action → action = .complete ∨ action = .migrateSync) :
    (migrationHandler env c vd).KeepsClaim vd.migrationState.targetPVC := by
  unfold migrationHandler
  split
  · exact open_keepsClaim migrating (quiet_of _) rfl _
  split
  · exact open_keepsClaim migrating (quiet_of _) rfl _
  cases decided : getAction env c vd with
  | error => exact open_keepsClaim migrating (quiet_failing _ _) rfl _
  | ok action =>
    rcases actions action decided with rfl | rfl
    · exact handleComplete_keepsClaim migrating distinct bound
    · exact open_keepsClaim migrating (handleMigrateSync_quiet _ _ _) (handleMigrateSync_state _ _ _).1 _

end

end Handler

structure Tracked (w : World) : Prop where
  distinct : DistinctClaims w.disk
  migrating : w.reported.isSome → isMigrating w.disk
  named : ∀ vm ∈ w.reported, vm ≠ ""
  bound : w.reported.isSome → targetBound w.cluster w.disk

variable {w : World}

theorem keepsTarget_of_visible {move : Move} (tracked : Tracked w) (visible : Visible w move) : KeepsTarget w move := by
  cases move with
  | change => exact True.intro
  | pass _ order =>
    intro reported
    obtain ⟨vm, isVM⟩ := isSome_iff_exists.mp reported
    have named := tracked.named vm isVM
    obtain ⟨mounted, seen⟩ := visible vm isVM
    obtain ⟨_, found, seen⟩ := (any_eq_true _ _).mp seen
    -- `InUseHandler` changes neither the round nor the identity of the disk.
    have migrating : isMigrating (inUseHandler order w.cluster w.disk) := tracked.migrating reported
    have attached := mounted_attached order w.cluster w.disk (mounted ▸ named)
    exact migrationHandler_keepsClaim migrating (tracked.distinct migrating) (tracked.bound reported)
      fun action decided => getAction_visible migrating attached mounted named found seen decided

theorem markDeleted_key (deleted : List String) (ns : String) (now : Int) (pvc : PersistentVolumeClaim) :
    (markDeleted deleted ns now pvc).ns = pvc.ns ∧ (markDeleted deleted ns now pvc).name = pvc.name ∧
      (markDeleted deleted ns now pvc).phase = pvc.phase := by
  unfold markDeleted
  split <;> exact ⟨rfl, rfl, rfl⟩

theorem afterPass_bound {env : Env} {vd : VirtualDisk} {outcome : Outcome} {c : Cluster} {ns name : String}
    (bound : (c.fetchPVC ns name).any (·.phase = .bound)) :
    ((afterPass env vd outcome c).fetchPVC ns name).any (·.phase = .bound) := by
  obtain ⟨pvc, found, isBound⟩ := (any_eq_true _ _).mp bound
  have named := (fetchPVC_some found).1
  unfold Cluster.fetchPVC at found ⊢
  rw [if_neg named] at found ⊢
  have key : (fun other : PersistentVolumeClaim => decide (other.ns = ns ∧ other.name = name)) ∘
      markDeleted outcome.deleted vd.ns env.now = fun other => decide (other.ns = ns ∧ other.name = name) := by
    funext other
    obtain ⟨sameNs, sameName, _⟩ := markDeleted_key outcome.deleted vd.ns env.now other
    simp only [Function.comp_apply, sameNs, sameName]
  simp only [afterPass, find?_append, find?_map, key, found, map_some, some_or,
    any_some, (markDeleted_key outcome.deleted vd.ns env.now pvc).2.2]
  exact isBound

theorem reportedAfter_cases {cluster : Cluster} {vm : String} (reported : reportedAfter w cluster = some vm) :
    w.reported = some vm ∨ (isMigrating w.disk ∧ vm ≠ "") := by
  unfold reportedAfter at reported
  split at reported
  · exact .inl reported
  have reports := find?_some reported
  obtain ⟨migrating, named, -⟩ := of_decide_eq_true reports
  exact .inr ⟨migrating, named⟩

theorem tracked_change {cluster : Cluster} (tracked : Tracked w)
    (allowed : (reportedAfter w cluster).isSome → targetBound cluster w.disk) :
    Tracked { w with cluster, reported := reportedAfter w cluster } := by
  refine ⟨tracked.distinct, fun reported => ?_, fun vm isVM => ?_, allowed⟩
  · obtain ⟨_, isVM⟩ := isSome_iff_exists.mp reported
    rcases reportedAfter_cases isVM with before | ⟨migrating, _⟩
    · exact tracked.migrating (by rw [before]; rfl)
    · exact migrating
  rcases reportedAfter_cases isVM with before | ⟨_, named⟩
  · exact tracked.named vm before
  · exact named

theorem tracked_pass {t : World} {env : Env} {order : Disk.MapOrder} (tracked : Tracked w)
    (moved : worldStep w (.pass env order) = some t) : Tracked t := by
  cases moved
  have distinct : DistinctClaims (inUseHandler order w.cluster w.disk) := tracked.distinct
  have kept : ∀ vm, (if sameRound w.disk (reconcile env order w).vd then w.reported else none) = some vm →
      sameRound w.disk (reconcile env order w).vd = true ∧ w.reported = some vm := by
    intro vm isVM
    split at isVM
    · rename_i same
      exact ⟨same, isVM⟩
    · cases isVM
  refine ⟨migrationHandler_distinct distinct env w.cluster, fun reported => ?_,
    fun vm isVM => tracked.named vm (kept vm isVM).2, fun reported => ?_⟩
  · obtain ⟨vm, isVM⟩ := isSome_iff_exists.mp reported
    exact (of_decide_eq_true (kept vm isVM).1).1
  obtain ⟨vm, isVM⟩ := isSome_iff_exists.mp reported
  obtain ⟨same, before⟩ := kept vm isVM
  obtain ⟨-, -, target⟩ := of_decide_eq_true same
  have migrating : isMigrating (inUseHandler order w.cluster w.disk) :=
    tracked.migrating (by rw [before]; rfl)
  have ns : (reconcile env order w).vd.ns = w.disk.ns := migrationHandler_ns migrating env w.cluster
  unfold targetBound
  rw [ns, target]
  exact afterPass_bound (tracked.bound (by rw [before]; rfl))

theorem tracked_step {t : World} {move : Move} (tracked : Tracked w) (moved : worldStep w move = some t) :
    Tracked t := by
  cases move with
  | change =>
    simp only [worldStep] at moved
    split at moved
    · cases moved
      rename_i allowed
      exact tracked_change tracked allowed
    · cases moved
  | pass => exact tracked_pass tracked moved

/-- In every run whose passes after the report can see how the round ended, no pass of the round deletes the target
    claim, and the round ends with the disk on it. -/
theorem migrated_data_kept {w : World} {moves : List Move} (unreported : w.reported = none)
    (distinct : isMigrating w.disk = true → w.disk.migrationState.sourcePVC ≠ w.disk.migrationState.targetPVC)
    (along : Along worldStep Visible w moves) : Along worldStep KeepsTarget w moves := by
  refine Along.of_invariant (fun _ _ _ tracked _ => tracked_step tracked) (fun _ _ => keepsTarget_of_visible)
    ⟨distinct, ?_, ?_, ?_⟩ along
  all_goals
    rw [unreported]
    intros
    contradiction

def unpropagated : Cluster :=
  { switchedCluster .unset with vms := [{ runningMachine .unset with migrationState := none }] }

def stoppedGuest : Cluster :=
  { unpropagated with
    vms := [{ runningMachine .unset with phase := .stopped, running := .conditionFalse, migrationState := none }]
    kvvmis := [], pods := [] }

def copying : Cluster :=
  { unpropagated with
    kvvmis := [{ machineInstance "pvc-s" with migrationState := none }], pods := [launcher "pvc-s"] }

theorem migrated_data_kept_completed :
    (run worldStep ⟨copying, movingDisk, none⟩ [.change unpropagated, .pass permissive .asListed]).any
        (fun t => t.disk.target = "pvc-t" ∧ t.disk.migrationState.endTimestamp.isSome = true) = true ∧
      Along worldStep KeepsTarget ⟨copying, movingDisk, none⟩
        [.change unpropagated, .pass permissive .asListed] :=
  ⟨by decide, migrated_data_kept rfl (by decide) (by decide)⟩

theorem stopped_guest_target_deleted : ¬ Along worldStep KeepsTarget ⟨copying, movingDisk, none⟩
      [.change unpropagated, .change stoppedGuest, .pass permissive .asListed] := by
  decide

end Virtualization.Migration
