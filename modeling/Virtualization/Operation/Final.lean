import Virtualization.Operation.Copies

namespace Virtualization.Operation

open Virtualization.Core (ConditionStatus)
open Bool Library Option Status VirtualMachineOperation

structure Coherent (s : Status) : Prop where
  completed : s.phase = .completed → ∃ c, s.completed = some c ∧ c.status = .conditionTrue ∧ c.reason ≠ .superseded
  superseded : s.phase = .superseded → ∃ c, s.completed = some c ∧ c.status = .conditionTrue ∧ c.reason = .superseded
  finished : s.isCompleted → s.phase = .completed ∨ s.phase = .superseded ∨ s.phase = .terminating

def Undone (s : Status) : Prop := s.phase ≠ .completed ∧ s.phase ≠ .superseded ∧ s.isCompleted = false

variable {s : Status}

theorem Undone.coherent (undone : Undone s) : Coherent s := by
  obtain ⟨completed, superseded, condition⟩ := undone
  refine ⟨fun phase => absurd phase completed, fun phase => absurd phase superseded, fun done => ?_⟩
  rw [condition] at done
  cases done

theorem setCompleted_isCompleted (s : Status) {status : ConditionStatus} (unmet : status ≠ .conditionTrue)
    (reason : ReasonCompleted) (now : Nat) : (s.setCompleted status reason now).isCompleted = false := by
  unfold setCompleted isCompleted TimedCondition.set
  cases s.completed <;> simp [unmet]

theorem undone_setCompleted {status : ConditionStatus} (unmet : status ≠ .conditionTrue) (reason : ReasonCompleted)
    (now : Nat) (completed : s.phase ≠ .completed) (superseded : s.phase ≠ .superseded) :
    Undone (s.setCompleted status reason now) :=
  ⟨completed, superseded, setCompleted_isCompleted s unmet reason now⟩

theorem coherent_completed (s : Status) (reason : ReasonCompleted) (other : reason ≠ .superseded) (now : Nat) :
    Coherent ({ s with phase := .completed }.setCompleted .conditionTrue reason now) := by
  refine ⟨fun _ => ⟨_, rfl, ?_, ?_⟩, nofun, fun _ => .inl rfl⟩ <;> unfold TimedCondition.set <;> split
  · rfl
  · rfl
  · exact other
  · exact other

theorem coherent_supersededStatus (s : Status) (now : Nat) : Coherent (supersededStatus s now) := by
  refine ⟨nofun, fun _ => ⟨_, rfl, ?_, ?_⟩, fun _ => .inr (.inl rfl)⟩ <;> unfold TimedCondition.set <;> split <;> rfl

theorem Coherent.undone (coherent : Coherent s) (unfinished : s.phase.isFinished = false)
    (staying : s.phase ≠ .terminating) : Undone s := by
  have completed : s.phase ≠ .completed := by
    intro phase
    rw [phase] at unfinished
    exact absurd unfinished (by decide)
  have superseded : s.phase ≠ .superseded := by
    intro phase
    rw [phase] at unfinished
    exact absurd unfinished (by decide)
  refine ⟨completed, superseded, eq_false_of_not_eq_true fun done => ?_⟩
  rcases coherent.finished done with phase | phase | phase
  · exact completed phase
  · exact superseded phase
  · exact staying phase

theorem Undone.initStatus (undone : Undone s) (now : Nat) : Undone (initStatus s now) := by
  unfold Operation.initStatus
  split
  · exact undone_setCompleted (by decide) _ _ (by simp) (by simp)
  · exact undone

theorem Undone.setSignalSent (undone : Undone s) (status : ConditionStatus) (reason : ReasonSignalSent) (now : Nat) :
    Undone (s.setSignalSent status reason now) := undone

theorem undone_failed (s : Status) (reason : ReasonCompleted) (now : Nat) :
    Undone ({ s with phase := .failed }.setCompleted .conditionFalse reason now) :=
  undone_setCompleted (by decide) _ _ (by simp) (by simp)

theorem Coherent.terminating : Coherent { s with phase := .terminating } :=
  ⟨nofun, nofun, fun _ => .inr (.inr rfl)⟩

variable {vmop : VirtualMachineOperation}

theorem not_terminating (staying : vmop.isTerminating ≠ true) :
    vmop.status.phase ≠ .terminating ∧ vmop.deleting = false := by
  unfold isTerminating at staying
  simpa using staying

/-- A restore that has failed in the maintenance mode: its handler takes it up again. -/
def Reopened (vmop : VirtualMachineOperation) : Prop :=
  vmop.status.phase = .failed ∧ vmop.restore ∧
    ∃ mode, vmop.status.maintenanceMode = some mode ∧ mode ≠ .conditionFalse

structure Handled (vmop : VirtualMachineOperation) (status : Status) : Prop where
  coherent : Coherent status
  stays : vmop.isFinished → Reopened vmop ∨ status.phase = vmop.status.phase ∨
    status.phase = .terminating ∧ vmop.deleting

theorem Handled.terminating (terminating : vmop.isTerminating) :
    Handled vmop { vmop.status with phase := .terminating } := by
  refine ⟨.terminating, fun finished => .inr (.inr ⟨rfl, ?_⟩)⟩
  by_contra staying
  unfold isTerminating at terminating
  have phase : vmop.status.phase = .terminating := by simpa [staying] using terminating
  rw [isFinished, phase] at finished
  exact absurd finished (by decide)

theorem Handled.same (coherent : Coherent vmop.status) : Handled vmop vmop.status :=
  ⟨coherent, fun _ => .inr (.inl rfl)⟩

variable {status : Status}

theorem Handled.of_unfinished (unfinished : ¬vmop.isFinished) (coherent : Coherent status) :
    Handled vmop status := ⟨coherent, fun finished => absurd finished unfinished⟩

def Answered (vmop : VirtualMachineOperation) : Next → Prop
  | .finish status _ => Handled vmop status
  | .consider status _ => Undone status ∧ (vmop.isFinished → Reopened vmop)

theorem powerState_syncOperationComplete (undone : Undone status) (served : Call → Bool) (c : Cluster) (now : Nat) :
    Coherent (PowerState.syncOperationComplete vmop status served c now) := by
  unfold PowerState.syncOperationComplete
  split
  · exact undone.coherent
  · exact coherent_completed _ _ (by decide) _
  · exact (undone_setCompleted (by decide) _ _ undone.1 undone.2.1).coherent

theorem powerState_answered (coherent : Coherent vmop.status) (served : Call → Bool) (c : Cluster) (now : Nat) :
    Answered vmop (PowerState.handle vmop served c now) := by
  unfold PowerState.handle
  split
  · exact .terminating ‹_›
  rename_i staying
  split
  · exact .same coherent
  rename_i unfinished
  have undone := (coherent.undone (eq_false_of_not_eq_true unfinished) (not_terminating staying).1).initStatus now
  dsimp only
  split
  · exact .of_unfinished unfinished undone.coherent
  split
  · exact .of_unfinished unfinished (undone_failed _ _ _).coherent
  split
  · exact .of_unfinished unfinished (powerState_syncOperationComplete undone served c now)
  · exact ⟨undone, fun finished => absurd finished unfinished⟩

theorem inProgressPhase_ne (reason : ReasonCompleted) :
    Migrate.inProgressPhase reason ≠ .completed ∧ Migrate.inProgressPhase reason ≠ .superseded := by
  unfold Migrate.inProgressPhase
  split <;> decide

theorem migrate_syncOperationComplete (unfinished : ¬vmop.isFinished) (undone : Undone status)
    (migration : Option Migrate.Shown) (served : Call → Bool) (now : Nat) :
    Answered vmop (Migrate.syncOperationComplete status migration served now) := by
  unfold Migrate.syncOperationComplete
  split
  · split
    · exact .of_unfinished unfinished (undone_failed _ _ _).coherent
    · exact .of_unfinished unfinished undone.coherent
  · exact .of_unfinished unfinished (undone_failed _ _ _).coherent
  · exact .of_unfinished unfinished (coherent_completed _ _ (by decide) _)
  rename_i reason _
  split
  · exact .of_unfinished unfinished undone.coherent
  split
  · split
    · exact .of_unfinished unfinished undone.coherent
    · exact .of_unfinished unfinished (undone_failed _ _ _).coherent
  obtain ⟨completed, superseded⟩ := inProgressPhase_ne reason
  exact .of_unfinished unfinished (undone_setCompleted (by decide) _ _ completed superseded).coherent

theorem migrate_answered (coherent : Coherent vmop.status) (enabled : Bool) (migration : Option Migrate.Shown)
    (rejected : Bool) (served : Call → Bool) (c : Cluster) (now : Nat) :
    Answered vmop (Migrate.handle vmop enabled migration rejected served c now) := by
  unfold Migrate.handle
  split
  · exact .terminating ‹_›
  rename_i staying
  split
  · exact .same coherent
  rename_i unfinished
  have before := coherent.undone (eq_false_of_not_eq_true unfinished) (not_terminating staying).1
  have undone : Undone (initStatus (if vmop.status.phase = .unset then
      vmop.status.setSignalSent .conditionUnknown .unknown now else vmop.status) now) := by
    refine Undone.initStatus ?_ now
    split
    · exact before.setSignalSent _ _ _
    · exact before
  dsimp only
  generalize initStatus _ now = status at undone ⊢
  split
  · exact .of_unfinished unfinished (undone_failed _ _ _).coherent
  split
  · exact .of_unfinished unfinished undone.coherent
  split
  · exact .of_unfinished unfinished (undone_setCompleted (by decide) _ _ undone.1 undone.2.1).coherent
  split
  · exact .of_unfinished unfinished undone.coherent
  split
  · exact .of_unfinished unfinished (undone_failed _ _ _).coherent
  split
  · exact migrate_syncOperationComplete unfinished undone _ served now
  split
  · exact migrate_syncOperationComplete unfinished (undone.setSignalSent _ _ _) _ served now
  · exact ⟨undone, fun finished => absurd finished unfinished⟩

theorem snapshot_execute (undone : Undone status) (outcome : Snapshot.Outcome)
    (maintenanceMode : Option ConditionStatus) (now : Nat) :
    Coherent (Snapshot.execute vmop status outcome maintenanceMode now) := by
  unfold Snapshot.execute
  have running :
      Undone (Snapshot.setMaintenanceMode vmop.type { status with phase := .inProgress } maintenanceMode) := by
    unfold Snapshot.setMaintenanceMode
    split <;> exact ⟨by simp, by simp, undone.2.2⟩
  split
  · exact running.coherent
  · exact (undone_setCompleted (by decide) _ _ running.1 running.2.1).coherent
  · exact (undone_failed _ _ _).coherent
  · exact coherent_completed _ _ (by decide) _

theorem not_leavesAlone (taken : ¬Snapshot.leavesAlone vmop) (undone : vmop.status.isCompleted = false)
    (coherent : Coherent vmop.status) (finished : vmop.isFinished) : Reopened vmop := by
  unfold Snapshot.leavesAlone at taken
  have phase : vmop.status.phase = .failed := by
    rcases of_decide_eq_true finished with failed | completed | superseded
    · exact failed
    · obtain ⟨_, found, done, -⟩ := coherent.completed completed
      simp [isCompleted, found, done] at undone
    obtain ⟨_, found, done, -⟩ := coherent.superseded superseded
    simp [isCompleted, found, done] at undone
  have left : ¬(vmop.restore = false ∨ vmop.status.maintenanceMode = none ∨
      vmop.status.maintenanceMode = some .conditionFalse) := by
    simpa [finished] using taken
  obtain ⟨restore, left⟩ := not_or.mp left
  obtain ⟨found, on⟩ := not_or.mp left
  obtain ⟨mode, is⟩ := ne_none_iff_exists'.mp found
  refine ⟨phase, eq_true_of_not_eq_false restore, mode, is, fun off => on ?_⟩
  rw [is, off]

theorem snapshot_answered (coherent : Coherent vmop.status) (outcome : Snapshot.Outcome)
    (maintenanceMode : Option ConditionStatus) (served : Call → Bool) (c : Cluster) (now : Nat) :
    Answered vmop (Snapshot.handle vmop outcome maintenanceMode served c now) := by
  unfold Snapshot.handle
  split
  · exact .terminating ‹_›
  rename_i staying
  split
  · exact .same coherent
  rename_i taken
  split
  · rename_i done
    -- The condition is True, so the phase is written as it is.
    have phase : vmop.status.phase = if vmop.status.completed.any (·.reason = .superseded)
        then .superseded else .completed := by
      rcases coherent.finished done with completed | superseded | terminating
      · obtain ⟨_, found, -, other⟩ := coherent.completed completed
        simp [found, other, completed]
      · obtain ⟨_, found, -, reason⟩ := coherent.superseded superseded
        simp [found, reason, superseded]
      · exact absurd terminating (not_terminating staying).1
    rw [← phase]
    exact .same coherent
  rename_i undone
  have open' := eq_false_of_not_eq_true undone
  have reopened := not_leavesAlone taken open' coherent
  have status : Undone vmop.status := by
    by_cases finished : vmop.isFinished = true
    · obtain ⟨failed, -⟩ := reopened finished
      exact ⟨by simp [failed], by simp [failed], open'⟩
    · exact coherent.undone (eq_false_of_not_eq_true finished) (not_terminating staying).1
  have started := status.initStatus now
  have handled {status : Status} (coherent : Coherent status) : Handled vmop status :=
    ⟨coherent, fun finished => .inl (reopened finished)⟩
  dsimp only
  split
  · exact handled started.coherent
  split
  · exact handled (undone_failed _ _ _).coherent
  split
  · exact handled (snapshot_execute started outcome maintenanceMode now)
  · exact ⟨started, reopened⟩

theorem handle_answered (coherent : Coherent vmop.status) (migration : Bool) (reads : Reads) (c : Cluster) :
    Answered vmop (vmop.handle migration reads c) := by
  unfold handle
  cases vmop.type
  case start | stop | restart => exact powerState_answered coherent reads.served c reads.now
  case migrate | evict => exact migrate_answered coherent _ _ _ _ c reads.now
  case restore | clone => exact snapshot_answered coherent _ _ _ c reads.now

theorem canExecute_undone (undone : Undone status) (vm : VirtualMachine) (now : Nat) :
    Undone (Migrate.canExecute status vm now).1 := by
  unfold Migrate.canExecute
  split
  · exact undone
  split
  · dsimp only
    split
    · exact undone_failed _ _ _
    · exact undone_setCompleted (by decide) _ _ (by simp) (by simp)
  · exact undone_failed _ _ _

theorem migrate_execute (undone : Undone status) (checks : Migrate.Checks) (served : Call → Bool)
    (shown : Option ReasonCompleted) (vm : VirtualMachine) (now : Nat) :
    Undone (Migrate.execute status checks served shown vm now).1 := by
  unfold Migrate.execute
  dsimp only
  split
  · exact undone_failed _ _ _
  split
  · exact undone_failed _ _ _
  split
  · exact undone
  · exact undone_failed _ _ _
  have can := canExecute_undone undone vm now
  split
  · exact can
  split
  · exact can
  split
  · exact can
  rename_i reason
  obtain ⟨completed, superseded⟩ := inProgressPhase_ne reason
  exact (undone_setCompleted (by decide) _ _ completed superseded).setSignalSent _ _ _

theorem powerState_execute (vmop : VirtualMachineOperation) (status : Status) (served : Call → Bool) (c : Cluster)
    (now : Nat) : Undone (PowerState.execute vmop status served c now).1 :=
  (undone_setCompleted (by decide) _ _ (by simp) (by simp)).setSignalSent _ _ _

theorem execute_coherent (undone : Undone status) (vm : VirtualMachine) (reads : Reads) (c : Cluster) :
    Coherent (vmop.execute status vm reads c).status := by
  unfold execute
  split
  · exact (undone_failed _ _ _).coherent
  cases vmop.type
  case start | stop | restart => exact (powerState_execute vmop status reads.served c reads.now).coherent
  case migrate | evict => exact (migrate_execute undone _ _ _ vm reads.now).coherent
  case restore | clone =>
    refine snapshot_execute ?_ _ _ _
    exact undone_setCompleted (by decide) _ _ (by simp) (by simp)

structure Sound (pass : Pass) : Prop where
  coherent : Coherent pass.status
  open' : pass.stage ≠ .fetched → pass.stage ≠ .updating →
    Undone pass.status ∧ (pass.base.isFinished → Reopened pass.base)
  fetched : pass.stage = .fetched → pass.status = pass.base.status
  handled : pass.stage = .updating → Handled pass.base pass.status
  marking : ∀ vm copy rest, pass.stage = .marking vm copy rest → copy.isFinished = false

structure Final (w : World) : Prop where
  tracked : Tracked w
  seen : ∀ copy ∈ w.seen, Coherent copy.status
  passes : ∀ name pass, w.passes name = some pass → Sound pass

theorem Sound.giveUp {pass : Pass} (sound : Sound pass) (started : pass.stage ≠ .fetched)
    (running : pass.stage ≠ .updating) (coherent : Coherent status) (sent : Option Bool) (cancelled : List String) :
    Sound { pass with status, stage := .updating, sent, cancelled } := by
  obtain ⟨-, reopened⟩ := sound.open' started running
  exact ⟨coherent, fun _ last => absurd rfl last, nofun, fun _ => ⟨coherent, fun finished => .inl (reopened finished)⟩,
    fun _ _ _ other => Stage.noConfusion other⟩

theorem Sound.goOn {pass : Pass} (sound : Sound pass) (started : pass.stage ≠ .fetched)
    (running : pass.stage ≠ .updating) {stage : Stage} (fetched : stage ≠ .fetched) (updating : stage ≠ .updating)
    (marking : ∀ vm copy rest, stage = .marking vm copy rest → copy.isFinished = false) (cancelled : List String) :
    Sound { pass with stage, cancelled } :=
  ⟨sound.coherent, fun _ _ => sound.open' started running, fun same => absurd same fetched,
    fun same => absurd same updating, marking⟩

theorem Sound.advance {w : World} {name : String} {pass next : Pass} {m : Move} (sound : Sound pass)
    (coherent : Coherent pass.base.status) (advance : Advance w name pass m next) : Sound next := by
  cases advance with
  | finished stage handled =>
    rename_i reads status deleted
    have answered := handle_answered coherent (name ∈ w.migrations) reads (w.machines pass.base.virtualMachine)
    rw [handled] at answered
    exact ⟨answered.coherent, fun _ last => absurd rfl last, nofun, fun _ => answered,
      fun _ _ _ other => Stage.noConfusion other⟩
  | considered stage handled =>
    rename_i reads status vm
    have answered := handle_answered coherent (name ∈ w.migrations) reads (w.machines pass.base.virtualMachine)
    rw [handled] at answered
    exact ⟨answered.1.coherent, fun _ _ => answered, nofun, nofun, fun _ _ _ other => Stage.noConfusion other⟩
  | listFailed stage | cleanupFailed stage | readFailed stage | patchFailed stage =>
    exact sound.giveUp (by simp [stage]) (by simp [stage]) sound.coherent _ _
  | refused stage => exact sound.giveUp (by simp [stage]) (by simp [stage]) (undone_failed _ _ _).coherent _ _
  | listed stage | cleaned stage | skipped stage | again stage =>
    exact sound.goOn (by simp [stage]) (by simp [stage]) (by simp) (by simp)
      (fun _ _ _ other => Stage.noConfusion other) _
  | reading stage known same unfinished =>
    refine sound.goOn (by simp [stage]) (by simp [stage]) (by simp) (by simp) (fun _ _ _ marking => ?_) _
    cases marking
    exact unfinished

def Stage.read : Stage → Option VirtualMachineOperation
  | .marking _ copy _ => some copy
  | _ => none

/-- The operation is as the pass has read it, when it is marked. -/
def AsRead (w : World) : Event → Prop
  | .pass name (.patch _ _) => ∀ pass ∈ w.passes name, ∀ copy ∈ pass.stage.read, w.store.get? copy.name = some copy
  | _ => True

def StaysFinished (w t : World) : Prop :=
  ∀ name, ∀ old ∈ w.store.get? name, ∀ new ∈ t.store.get? name, old.isFinished →
    new.status.phase = old.status.phase ∨ new.status.phase = .terminating ∧ new.deleting ∨ Reopened old

theorem Final.step {w t : World} {event : Event} (inv : Final w) (stepped : Stepped w event t) : Final t := by
  have tracked := inv.tracked.step stepped
  have sound : ∀ name pass, t.passes name = some pass → Sound pass := by
    intro name pass running
    cases stepped.ran running with
    | same before => exact inv.passes name pass before
    | fetched _ known =>
      exact ⟨inv.seen _ known, fun first => absurd rfl first, fun _ => rfl, nofun,
        fun _ _ _ other => Stage.noConfusion other⟩
    | advanced there advance =>
      obtain ⟨known, -⟩ := inv.tracked.base _ _ there
      exact (inv.passes _ _ there).advance (inv.seen _ known) advance
    | marked there marking _ _ next =>
      have sound := inv.passes _ _ there
      rcases next with ⟨-, rfl⟩ | ⟨-, rfl⟩
      · exact sound.goOn (by simp [marking]) (by simp [marking]) (by simp) (by simp)
          (fun _ _ _ other => Stage.noConfusion other) _
      · exact sound.giveUp (by simp [marking]) (by simp [marking]) sound.coherent _ _
    | executed there ready outcome =>
      have sound := inv.passes _ _ there
      obtain ⟨undone, -⟩ := sound.open' (by simp [ready]) (by simp [ready])
      subst outcome
      exact sound.giveUp (by simp [ready]) (by simp [ready]) (execute_coherent undone _ _ _) _ _
  have written : ∀ name new, t.store.get? name = some new → Coherent new.status := by
    intro name new found
    cases inv.tracked.written stepped found with
    | same found => exact inv.seen _ (inv.tracked.stored _ _ found)
    | born =>
      cases stepped with
      | created new =>
        rw [new]
        exact Undone.coherent ⟨by decide, by decide, by decide⟩
    | amended found _ status =>
      rw [status]
      exact inv.seen _ (inv.tracked.stored _ _ found)
    | marked => exact coherent_supersededStatus _ _
    | updated _ running => exact (inv.passes _ _ running).coherent
  refine ⟨tracked, fun copy known => ?_, sound⟩
  exact ((seen_step stepped).2 copy known).elim (inv.seen copy) (written copy.name copy)

theorem Final.stays {w t : World} {event : Event} (inv : Final w) (asRead : AsRead w event)
    (stepped : Stepped w event t) :
    StaysFinished w t := by
  intro name old before new after finished
  cases inv.tracked.written stepped after with
  | same found =>
    cases (mem_def.mp before).symm.trans found
    exact .inl rfl
  | born revision fresh =>
    rw [fresh] at before
    cases before
  | amended found _ status =>
    cases (mem_def.mp before).symm.trans found
    exact .inl (congrArg phase status)
  | marked revision running marking found =>
    -- The copy was not finished when it was read, and it is what is stored.
    rename_i worker pass vm copy current rest answer now
    have same := asRead pass running copy (by rw [marking]; rfl)
    cases (mem_def.mp before).symm.trans same
    have unfinished := (inv.passes _ _ running).marking _ _ _ marking
    rw [finished] at unfinished
    cases unfinished
  | updated revision running updating changed found =>
    cases (mem_def.mp before).symm.trans found
    rcases ((inv.passes _ _ running).handled updating).stays finished with reopened | phase | terminating
    · exact .inr (.inr reopened)
    · exact .inl phase
    · exact .inr (.inl terminating)

open World

/-- In every run in which a mark meets the operation as it was read, a finished operation stays as it finished, but for
    its deletion and for a restore that has failed in the maintenance mode. -/
theorem finished_stays_finished {machines : String → Cluster} {events : List Event}
    (along : Along World.step AsRead (World.start machines) events) :
    Along World.step (fun w event => ∀ t, w.step event = some t → StaysFinished w t) (World.start machines) events := by
  have start : Final (start machines) :=
    ⟨.start machines, fun _ => nofun, fun _ _ => nofun⟩
  have preserved : ∀ w event t, Final w → AsRead w event → w.step event = some t → Final t :=
    fun _ _ _ inv _ moved => inv.step (step_ok moved)
  have follows : ∀ w event, Final w → AsRead w event → ∀ t, w.step event = some t → StaysFinished w t :=
    fun _ _ inv asRead _ moved => inv.stays asRead (step_ok moved)
  exact Along.of_invariant preserved follows start along

/-- Whatever calls fail and however the passes interleave, the phase of an operation agrees with its condition, and two
    states with one uid are of one operation. -/
theorem operations_coherent (machines : String → Cluster) (events : List Event) :
    Along World.step (fun w _ => (∀ copy ∈ w.seen, Coherent copy.status) ∧ Identified w ∧
      ∀ name vmop, w.store.get? name = some vmop → vmop ∈ w.seen) (World.start machines) events := by
  have preserved : ∀ w event t, Final w ∧ Identified w → w.step event = some t → Final t ∧ Identified t :=
    fun _ _ _ inv moved => ⟨inv.1.step (step_ok moved), inv.2.step (step_ok moved) inv.1.tracked⟩
  have start : Final (start machines) ∧ Identified (start machines) :=
    ⟨⟨.start machines, fun _ => nofun, fun _ _ => nofun⟩, fun _ => nofun⟩
  exact (Along.of_preserved preserved start events).mono fun _ _ inv => ⟨inv.1.seen, inv.2, inv.1.tracked.stored⟩

instance (w : World) (event : Event) : Decidable (AsRead w event) := by
  unfold AsRead
  split <;> infer_instance

def operationOf (type : OperationType) (name : String) (uid creationTimestamp : Nat) : VirtualMachineOperation :=
  { name, uid, resourceVersion := 0, creationTimestamp, deleting := false, virtualMachine := "vm", type, force := none,
    restore := type = .restore, nodeSelector := false, status := .new }

def runningMachine (runPolicy : Core.RunPolicy) : String → Cluster := fun _ =>
  { vm := some { runPolicy, phase := .running, readyToMigrate := true, migratable := true }
    kvvm := some { startRequested := false, restartRequested := false, stateChangeRequests := [] }
    kvvmi := some
      { uid := 0, creationTimestamp := 0, deleting := false, gracePeriodZero := false, completed := false
        nodeName := "node-1", activePods := [7] }
    pods := [⟨7, 0, 0, "node-1", true, false⟩]
    killed := [] }

def calm : Reads :=
  { served := fun _ => true, targetMigrationEnabled := true, migration := .inProgress .syncing false, rejected := false
    checks := ⟨true, true, some false⟩, shown := some .syncing, outcome := .waiting false, maintenanceMode := none
    now := 0 }

def fetchNow (name : String) (w : World) : Event :=
  .pass name (.fetch ((w.store.get? name).getD (operationOf .start name 0 0)))

def listNow (name : String) (w : World) : Event := .pass name (.list (some w.store.objects) 0)

def readNow (name old : String) (w : World) : Event := .pass name (.read (some (w.store.get? old)))

def always (event : Event) (_ : World) : Event := event

def signalPass (name : String) : List (World → Event) :=
  [fetchNow name, always (.pass name (.handle calm)), listNow name, always (.pass name (.execute calm)),
    always (.pass name (.update .ok))]

def phaseOf (name : String) (w : World) : Option OperationPhase := (w.store.get? name).map (·.status.phase)

def supersedingRun : List (World → Event) :=
  [always (.create (operationOf .migrate "migrate" 1 1))] ++ signalPass "migrate" ++
    [always (.create (operationOf .stop "stop" 2 2)), fetchNow "stop", always (.pass "stop" (.handle calm)),
      listNow "stop", always (.pass "stop" (.cleanup fun _ => true)), readNow "stop" "migrate",
      always (.pass "stop" (.patch .ok 0)), always (.pass "stop" (.execute calm)), always (.pass "stop" (.update .ok)),
      always (.machine "vm" { runningMachine .manual "vm" with
        vm := some { runPolicy := .manual, phase := .stopped, readyToMigrate := false, migratable := false } }),
      fetchNow "stop", always (.pass "stop" (.handle calm)), always (.pass "stop" (.update .ok)),
      always (.delete "stop"), fetchNow "stop", always (.pass "stop" (.handle calm)),
      always (.pass "stop" (.update .ok))]

theorem finished_stays_finished_supersedingRun :
    let start := World.start (runningMachine .manual)
    let events := script World.step start supersedingRun
    ((run World.step start events).map fun w => (phaseOf "migrate" w, phaseOf "stop" w)) =
        some (some .superseded, some .terminating) ∧
      Along World.step (fun w event => ∀ t, w.step event = some t → StaysFinished w t) start events :=
  ⟨by decide +kernel, finished_stays_finished (by decide +kernel)⟩

def lateMark : List (World → Event) :=
  [always (.create (operationOf .migrate "migrate" 1 1))] ++ signalPass "migrate" ++
    [always (.create (operationOf .stop "stop" 2 2)), fetchNow "migrate",
      always (.pass "migrate" (.handle { calm with migration := .succeeded })), fetchNow "stop",
      always (.pass "stop" (.handle calm)), listNow "stop", always (.pass "stop" (.cleanup fun _ => true)),
      readNow "stop" "migrate", always (.pass "migrate" (.update .ok))]

def failedRestore : List (World → Event) :=
  [always (.create (operationOf .restore "restore" 1 1)), fetchNow "restore", always (.pass "restore" (.handle calm)),
    listNow "restore",
    always (.pass "restore" (.execute { calm with outcome := .failed, maintenanceMode := some .conditionTrue })),
    always (.pass "restore" (.update .ok))]

theorem finished_changes :
    let start := World.start (runningMachine .manual)
    let after (name : String) (script' : List (World → Event)) :=
      (run step start (script step start script')).bind (phaseOf name)
    (after "migrate" lateMark = some .completed ∧
        after "migrate" (lateMark ++ [always (.pass "stop" (.patch .ok 0))]) = some .superseded) ∧
      after "restore" failedRestore = some .failed ∧
        after "restore" (failedRestore ++ signalPass "restore") = some .inProgress := by
  decide +kernel

end Virtualization.Operation
