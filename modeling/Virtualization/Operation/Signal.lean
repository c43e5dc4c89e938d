import Mathlib
import Virtualization.Operation.Final

namespace Virtualization.Operation

open Library List PowerState

def OperationType.isPower (type : OperationType) : Bool := type = .start ∨ type = .stop ∨ type = .restart

def Settled (vmop : VirtualMachineOperation) (status : Status) : Prop :=
  status.phase = .terminating ∨ vmop.deleting ∨ status.phase.isFinished ∨
    PowerState.isOperationInProgress status

theorem inProgress_setCompleted {s : Status} (sent : s.sent) {status : Core.ConditionStatus}
    (unmet : status ≠ .conditionTrue) (reason : ReasonCompleted) (now : Nat) :
    isOperationInProgress (s.setCompleted status reason now) := by
  unfold isOperationInProgress
  rw [show (s.setCompleted status reason now).sent = s.sent from rfl, setCompleted_isCompleted s unmet, sent]
  decide

theorem inProgress_initStatus {s : Status} (running : isOperationInProgress s) (now : Nat) :
    isOperationInProgress (initStatus s now) := by
  unfold initStatus
  split
  · have sent : s.sent := (of_decide_eq_true running).1
    exact inProgress_setCompleted (s := { s with phase := .pending }) sent (by decide) _ _
  · exact running

variable {vmop : VirtualMachineOperation}

theorem settled_syncOperationComplete {status : Status} (running : isOperationInProgress status)
    (served : Call → Bool) (c : Cluster) (now : Nat) :
    Settled vmop (syncOperationComplete vmop status served c now) := by
  unfold syncOperationComplete
  split
  · exact .inr (.inr (.inr running))
  · exact .inr (.inr (.inl rfl))
  · exact .inr (.inr (.inr (inProgress_setCompleted (of_decide_eq_true running).1 (by decide) _ _)))

theorem settled_handle (settled : Settled vmop vmop.status) (served : Call → Bool) (c : Cluster) (now : Nat) :
    ∃ status, handle vmop served c now = .finish status false ∧ Settled vmop status := by
  unfold handle
  split
  · exact ⟨_, rfl, .inl rfl⟩
  rename_i staying
  split
  · exact ⟨_, rfl, settled⟩
  rename_i unfinished
  have running : isOperationInProgress vmop.status := by
    obtain ⟨phase, kept⟩ := not_terminating staying
    rcases settled with terminating | deleting | finished | running
    · exact absurd terminating phase
    · rw [kept] at deleting
      cases deleting
    · exact absurd finished unfinished
    · exact running
  have started := inProgress_initStatus running now
  dsimp only
  split
  · exact ⟨_, rfl, .inr (.inr (.inr started))⟩
  split
  · exact ⟨_, rfl, .inr (.inr (.inl rfl))⟩
  · exact ⟨_, rfl, settled_syncOperationComplete started served c now⟩

theorem inProgress_execute (vmop : VirtualMachineOperation) (status : Status) (served : Call → Bool) (c : Cluster)
    (now : Nat) : isOperationInProgress (execute vmop status served c now).1 := by
  obtain ⟨-, -, undone⟩ := powerState_execute vmop status served c now
  have sent : (execute vmop status served c now).1.sent := by
    unfold execute Status.setSignalSent Status.sent TimedCondition.set
    dsimp only [Option.any_some]
    split <;> rfl
  unfold isOperationInProgress
  rw [sent, undone]
  decide

theorem execute_sent {status : Status} {vm : VirtualMachine} {reads : Reads} {c : Cluster} {sent : Bool}
    (tried : (vmop.execute status vm reads c).sent = some sent) :
    vmop.type.isPower ∧ isOperationInProgress (vmop.execute status vm reads c).status := by
  unfold VirtualMachineOperation.execute at tried ⊢
  split at tried
  · cases tried
  rename_i applicable
  rw [if_neg applicable]
  cases type : vmop.type <;> rw [type] at tried
  case start | stop | restart => exact ⟨by decide, inProgress_execute vmop status reads.served c reads.now⟩
  case migrate | evict | restore | clone => cases tried

def Stage.ready : Stage → Option VirtualMachine
  | .superseding vm [] => some vm
  | _ => none

/-- What the API server does at a step, when nothing is lost between a signal and the status that tells of it:
    - a pass fetches the operation as it is stored;
    - a signal is sent without an error;
    - the status update after a signal is served, and nothing else was written to the operation. -/
def Attended (w : World) : Event → Prop
  | .pass name (.fetch copy) => w.store.get? name = some copy
  | .pass name (.execute reads) => ∀ pass ∈ w.passes name, ∀ vm ∈ pass.stage.ready,
      (pass.base.execute pass.status vm reads (w.machines pass.base.virtualMachine)).sent ≠ some false
  | .pass name (.update answer) => ∀ pass ∈ w.passes name, pass.sent.isSome →
      answer = .ok ∧ w.store.get? name = some pass.base
  | _ => True

structure Once (w : World) : Prop where
  final : Final w
  identified : Identified w
  known : ∀ s ∈ w.signals, ∃ copy ∈ w.seen, copy.uid = s.1 ∧ copy.type.isPower
  clean : ∀ s ∈ w.signals, s.2
  nodup : (w.signals.map Prod.fst).Nodup
  sent : ∀ name pass, w.passes name = some pass → pass.sent.isSome →
    pass.stage = .updating ∧ PowerState.isOperationInProgress pass.status
  stored : ∀ s ∈ w.signals, ∀ name vmop, w.store.get? name = some vmop → vmop.uid = s.1 →
    Settled vmop vmop.status ∨ ∃ pass, w.passes name = some pass ∧ pass.base.uid = s.1 ∧ pass.sent.isSome
  running : ∀ s ∈ w.signals, ∀ name pass, w.passes name = some pass → pass.base.uid = s.1 →
    pass.sent.isSome ∨ Settled pass.base pass.base.status ∧
      (pass.stage = .fetched ∨ pass.stage = .updating ∧ Settled pass.base pass.status)

theorem Settled.amended {old new : VirtualMachineOperation} (settled : Settled old old.status)
    (status : new.status = old.status) (deleting : new.deleting ∨ new.deleting = old.deleting) :
    Settled new new.status := by
  rw [status]
  refine settled.imp_right (Or.imp_left fun before => ?_)
  rcases deleting with now | same
  · exact now
  rw [same]
  exact before

variable {w : World} {name : String} {pass : Pass}

theorem Once.unsignalled (once : Once w) (there : w.passes name = some pass) (started : pass.stage ≠ .fetched)
    (open' : pass.stage ≠ .updating) : ∀ s ∈ w.signals, pass.base.uid ≠ s.1 := by
  intro s signalled uid
  rcases once.running s signalled name pass there uid with sent | ⟨-, fetched | updating⟩
  · exact open' (once.sent name pass there sent).1
  · exact started fetched
  · exact open' updating.1

theorem Advance.stages {next : Pass} {m : Move} (advance : Advance w name pass m next) :
    pass.stage ≠ .updating ∧ next.sent = pass.sent ∧
      (pass.stage = .fetched → ∃ reads, (∃ status deleted, pass.base.handle (name ∈ w.migrations) reads
        (w.machines pass.base.virtualMachine) = .finish status deleted ∧
        next.stage = .updating ∧ next.status = status) ∨
        ∃ status vm, pass.base.handle (name ∈ w.migrations) reads (w.machines pass.base.virtualMachine) =
          .consider status vm) := by
  cases advance with
  | finished stage handled =>
    exact ⟨by simp [stage], rfl, fun _ => ⟨_, .inl ⟨_, _, handled, rfl, rfl⟩⟩⟩
  | considered stage handled => exact ⟨by simp [stage], rfl, fun _ => ⟨_, .inr ⟨_, _, handled⟩⟩⟩
  | listFailed stage | refused stage | listed stage | cleanupFailed stage | cleaned stage | readFailed stage
  | skipped stage | reading stage | again stage | patchFailed stage =>
    exact ⟨by simp [stage], rfl, fun fetched => by simp [stage] at fetched⟩

variable {t : World} {event : Event}

theorem Once.sent_step (once : Once w) (stepped : Stepped w event t) :
    ∀ name pass, t.passes name = some pass → pass.sent.isSome →
      pass.stage = .updating ∧ isOperationInProgress pass.status := by
  intro name pass there sent
  cases stepped.ran there with
  | same before => exact once.sent name pass before sent
  | fetched => cases sent
  | advanced running advance =>
    obtain ⟨open', kept, -⟩ := advance.stages
    rw [kept] at sent
    exact absurd (once.sent _ _ running sent).1 open'
  | marked running marking =>
    have last := (once.sent _ _ running sent).1
    simp [marking] at last
  | executed _ _ outcome =>
    obtain ⟨_, tried⟩ := Option.isSome_iff_exists.mp sent
    subst outcome
    exact ⟨rfl, (execute_sent tried).2⟩

theorem Once.running_step (once : Once w) (attended : Attended w event) (stepped : Stepped w event t) {s : Nat × Bool}
    (signalled : s ∈ w.signals) (there : t.passes name = some pass) (uid : pass.base.uid = s.1) :
    pass.sent.isSome ∨ Settled pass.base pass.base.status ∧
      (pass.stage = .fetched ∨ pass.stage = .updating ∧ Settled pass.base pass.status) := by
  cases stepped.ran there with
  | same before => exact once.running s signalled name pass before uid
  | fetched free =>
    rcases once.stored s signalled _ _ attended uid with settled | ⟨_, busy, -⟩
    · exact .inr ⟨settled, .inl rfl⟩
    rw [free] at busy
    cases busy
  | @advanced _ old m _ running advance =>
    obtain ⟨open', kept, first⟩ := advance.stages
    have base := advance_base advance
    rw [base] at uid
    rcases once.running s signalled _ _ running uid with sent | ⟨settled, fetched | updating⟩
    · rw [kept]
      exact .inl sent
    · -- A settled operation is only handled to its status update.
      obtain ⟨_, seen, same, power⟩ := once.known s signalled
      obtain ⟨known, -⟩ := once.final.tracked.base _ _ running
      have type : old.base.type.isPower := by
        rw [(once.identified _ known _ seen (uid.trans same.symm)).type]
        exact power
      have power (reads : Reads) : ∃ status, old.base.handle (name ∈ w.migrations) reads
          (w.machines old.base.virtualMachine) = .finish status false ∧ Settled old.base status := by
        obtain ⟨status, handled, after⟩ := settled_handle settled reads.served
          (w.machines old.base.virtualMachine) reads.now
        refine ⟨status, ?_, after⟩
        unfold VirtualMachineOperation.handle
        revert type
        cases old.base.type <;> intro type <;> first
          | exact handled
          | exact absurd type (by decide)
      obtain ⟨reads, ⟨_, _, handled, last, written⟩ | ⟨_, _, handled⟩⟩ := first fetched
      · obtain ⟨_, finished, after⟩ := power reads
        rw [finished] at handled
        cases handled
        rw [base]
        exact .inr ⟨settled, .inr ⟨last, written ▸ after⟩⟩
      obtain ⟨_, finished, -⟩ := power reads
      rw [finished] at handled
      cases handled
    · exact absurd updating.1 open'
  | marked running ready | executed running ready =>
    exact absurd uid (once.unsignalled running (by simp [ready]) (by simp [ready]) s signalled)

theorem Once.told {answer : Answer} (once : Once w) (attended : Attended w (.pass name (.update answer)))
    (stepped : Stepped w (.pass name (.update answer)) t) (there : w.passes name = some pass)
    (sent : pass.sent.isSome) (found : t.store.get? name = some vmop) : Settled vmop vmop.status := by
  obtain ⟨rfl, stored⟩ := attended pass there sent
  obtain ⟨-, inProgress⟩ := once.sent name pass there sent
  cases stepped with
  | advanced _ advance => cases advance
  | kept running _ same =>
    cases running.symm.trans there
    cases (show w.store.get? name = some vmop from found).symm.trans stored
    rw [← same]
    exact .inr (.inr (.inr inProgress))
  | updated running _ changed =>
    cases running.symm.trans there
    have named := (once.final.tracked.base name pass there).2
    have current : w.store.get? pass.base.name = some pass.base := by rwa [named]
    have written : w.store.update { pass.base with status := pass.status } =
        .ok (w.store.write { pass.base with status := pass.status }) :=
      Store.update_of_current current rfl fun same => changed (congrArg VirtualMachineOperation.status same).symm
    rw [setPass_store, stored_store, written] at found
    rcases Store.found_write found with ⟨-, rfl⟩ | ⟨other, -⟩
    · exact .inr (.inr (.inr inProgress))
    · exact absurd named.symm other

theorem Once.stored_step (once : Once w) (attended : Attended w event) (stepped : Stepped w event t) {s : Nat × Bool}
    (signalled : s ∈ w.signals) (found : t.store.get? name = some vmop) (uid : vmop.uid = s.1) :
    Settled vmop vmop.status ∨
      ∃ pass, t.passes name = some pass ∧ pass.base.uid = s.1 ∧ pass.sent.isSome := by
  have tracked := once.final.tracked
  -- The pass that has sent the signal is still there, or has just written its status.
  have pending {pass : Pass} (there : w.passes name = some pass) (same : pass.base.uid = s.1)
      (sent : pass.sent.isSome = true) : Settled vmop vmop.status ∨
        ∃ pass, t.passes name = some pass ∧ pass.base.uid = s.1 ∧ pass.sent.isSome = true := by
    rcases stepped.keeps there (once.sent name pass there sent).1 with kept | ⟨_, rfl⟩
    · exact .inr ⟨pass, kept, same, sent⟩
    · exact .inl (once.told attended stepped there sent found)
  cases tracked.written stepped found with
  | same before =>
    rcases once.stored s signalled name vmop before uid with settled | ⟨_, there, same, sent⟩
    · exact .inl settled
    · exact pending there same sent
  | born =>
    obtain ⟨copy, seen, same, -⟩ := once.known s signalled
    cases stepped with
    | created _ _ fresh => exact absurd (same.trans uid.symm) (fresh copy seen)
  | amended before kept status deleting =>
    rcases once.stored s signalled name _ before (kept.uid.symm.trans uid) with settled | ⟨_, there, same, sent⟩
    · exact .inl (settled.amended status (deleting.imp And.right And.right))
    · exact pending there same sent
  | marked => exact .inl (.inr (.inr (.inl rfl)))
  | updated _ running updating =>
    rcases once.running s signalled _ _ running uid with sent | ⟨-, fetched | ⟨-, settled⟩⟩
    · exact .inl (.inr (.inr (.inr (once.sent _ _ running sent).2)))
    · rw [updating] at fetched
      cases fetched
    · exact .inl settled

open World

theorem Stepped.signals (stepped : Stepped w event t) :
    t.signals = w.signals ∨ ∃ name pass vm reads sent, event = .pass name (.execute reads) ∧
      w.passes name = some pass ∧ pass.stage = .superseding vm [] ∧
      (pass.base.execute pass.status vm reads (w.machines pass.base.virtualMachine)).sent = some sent ∧
      t.signals = (pass.base.uid, sent) :: w.signals ∧
      ∃ next, t.passes name = some next ∧ next.base = pass.base ∧ next.sent = some sent := by
  cases stepped with
  | created | deleted | removed | touched | machine | migrationGone | fetched | advanced | marked | kept | updated =>
    exact .inl rfl
  | executed running ready outcome =>
    rename_i name pass vm reads done _ _ _
    cases tried : done.sent with
    | none => exact .inl (by simp [setPass])
    | some sent =>
      refine .inr ⟨name, pass, vm, reads, sent, rfl, running, ready, by rw [outcome, tried], by simp [setPass],
        _, Function.update_self .., rfl, rfl⟩

theorem Once.step (once : Once w) (attended : Attended w event) (stepped : Stepped w event t) : Once t := by
  have final := once.final.step stepped
  have identified := once.identified.step stepped once.final.tracked
  have older := (seen_step stepped).1
  have sent := once.sent_step stepped
  rcases stepped.signals with
    same | ⟨name, pass, vm, _, result, rfl, running, ready, tried, same, next, there, base, told⟩
  · refine ⟨final, identified, ?_, ?_, ?_, sent, ?_, ?_⟩ <;> rw [same]
    · intro s signalled
      obtain ⟨copy, seen, known⟩ := once.known s signalled
      exact ⟨copy, older copy seen, known⟩
    · exact once.clean
    · exact once.nodup
    · exact fun s signalled name vmop found uid => once.stored_step attended stepped signalled found uid
    · exact fun s signalled name pass there uid => once.running_step attended stepped signalled there uid
  -- The operation of the new signal has had none, and its pass is the only one of it.
  have unsignalled := once.unsignalled running (by simp [ready]) (by simp [ready])
  obtain ⟨known, named⟩ := once.final.tracked.base name pass running
  have ofPass {other : String} {copy : VirtualMachineOperation} (seen : copy ∈ t.seen) (at' : copy.name = other)
      (uid : copy.uid = pass.base.uid) : other = name :=
    at'.symm.trans ((identified copy seen pass.base (older _ known) uid).name.trans named)
  refine ⟨final, identified, ?_, ?_, ?_, sent, ?_, ?_⟩ <;> rw [same]
  · intro s signalled
    rcases mem_cons.mp signalled with rfl | before
    · exact ⟨pass.base, older _ known, rfl, (execute_sent tried).1⟩
    obtain ⟨copy, seen, power⟩ := once.known s before
    exact ⟨copy, older copy seen, power⟩
  · intro s signalled
    rcases mem_cons.mp signalled with rfl | before
    · have unfailed := attended pass running vm (by rw [ready]; rfl)
      rw [tried] at unfailed
      cases result
      · exact absurd rfl unfailed
      · rfl
    · exact once.clean s before
  · rw [map_cons, nodup_cons]
    refine ⟨fun member => ?_, once.nodup⟩
    obtain ⟨s, signalled, uid⟩ := mem_map.mp member
    exact unsignalled s signalled uid.symm
  · intro s signalled other vmop found uid
    rcases mem_cons.mp signalled with rfl | before
    · have only := ofPass (final.tracked.stored other vmop found) (Store.key_of_get? found) uid
      subst only
      exact .inr ⟨next, there, congrArg _ base, by rw [told]; rfl⟩
    · exact once.stored_step attended stepped before found uid
  intro s signalled other pass' there' uid
  rcases mem_cons.mp signalled with rfl | before
  · obtain ⟨seen, at'⟩ := final.tracked.base other pass' there'
    have only := ofPass seen at' uid
    subst only
    cases there'.symm.trans there
    exact .inl (by rw [told]; rfl)
  · exact once.running_step attended stepped before there' uid

def FailureIsFinal (w : World) : Prop :=
  ∀ uid, (uid, false) ∈ w.signals → ∀ name vmop, w.store.get? name = some vmop → vmop.uid = uid →
    w.passes name = none → vmop.status.phase = .failed ∧ vmop.status.sent = false

/-- In every run in which nothing is lost between a signal and its status, a power operation sends its signal at most
    once, and no signal fails. -/
theorem signal_sent_once {machines : String → Cluster} {events : List Event} {w : World}
    (along : Along World.step Attended (World.start machines) events)
    (reached : run World.step (World.start machines) events = some w) :
    (∀ uid, w.signals.count (uid, true) ≤ 1) ∧ FailureIsFinal w := by
  have start : Once (start machines) := by
    refine ⟨⟨.start machines, fun _ => nofun, fun _ _ => nofun⟩, fun _ => nofun, fun _ => nofun, fun _ => nofun,
      nodup_nil, fun _ _ => nofun, fun _ => nofun, fun _ => nofun⟩
  have once : Once w := run_invariant (fun _ _ _ once attended moved => once.step attended (step_ok moved)) start along
    reached
  refine ⟨fun uid => nodup_iff_count_le_one.mp (List.Nodup.of_map _ once.nodup) _, fun _ failed => ?_⟩
  exact absurd (once.clean _ failed) Bool.false_ne_true

instance (w : World) (event : Event) : Decidable (Attended w event) := by
  unfold Attended
  induction event using Event.casesOn with
  | pass _ move => induction move using Move.casesOn <;> infer_instance
  | _ => infer_instance

def restartedMachine : Cluster :=
  { runningMachine .manual "vm" with
    kvvmi := some
      { uid := 1, creationTimestamp := 9, deleting := false, gracePeriodZero := false, completed := false
        nodeName := "node-1", activePods := [8] }
    pods := [⟨8, 1, 9, "node-1", true, false⟩] }

def restartRun : List (World → Event) :=
  [always (.create (operationOf .restart "restart" 1 1))] ++ signalPass "restart" ++
    [always (.machine "vm" restartedMachine), fetchNow "restart", always (.pass "restart" (.handle calm)),
      always (.pass "restart" (.update .ok))]

theorem signal_sent_once_restartRun :
    let start := World.start (runningMachine .manual)
    let events := script World.step start restartRun
    (run World.step start events).bind (phaseOf "restart") = some .completed ∧
      ∀ w, run World.step start events = some w → (∀ uid, w.signals.count (uid, true) ≤ 1) ∧ FailureIsFinal w :=
  ⟨by decide +kernel, fun _ reached => signal_sent_once (by decide +kernel) reached⟩

def lostStatus : List (World → Event) :=
  [always (.create (operationOf .restart "restart" 1 1)), fetchNow "restart", always (.pass "restart" (.handle calm)),
    listNow "restart", always (.pass "restart" (.execute calm)), always (.pass "restart" (.update .error)),
    always (.machine "vm" restartedMachine)] ++ signalPass "restart"

def failedSignal : List (World → Event) :=
  [always (.machine "vm" { runningMachine .manual "vm" with
      vm := some { runPolicy := .manual, phase := .stopped, readyToMigrate := false, migratable := false } }),
    always (.create (operationOf .start "start" 1 1)), fetchNow "start", always (.pass "start" (.handle calm)),
    listNow "start", always (.pass "start" (.execute { calm with served := fun call => call ≠ .patch })),
    always (.pass "start" (.update .ok)), always (.machine "vm" (runningMachine .manual "vm"))]

/-- One restart is asked of the virtual machine twice, and a start whose signal failed is in progress and then
    completed. -/
theorem signal_sent_twice :
    let start := World.start (runningMachine .manual)
    let after (script' : List (World → Event)) := run World.step start (script World.step start script')
    ((after lostStatus).map fun w => (w.signals.count (1, true),
        (w.machines "vm").kvvm.map fun kvvm => kvvm.restartRequested)) = some (2, some true) ∧
      ((after failedSignal).map fun w => (w.signals, phaseOf "start" w)) = some ([(1, false)], some .inProgress) ∧
      (after (failedSignal ++ [fetchNow "start", always (.pass "start" (.handle calm)),
        always (.pass "start" (.update .ok))])).bind (phaseOf "start") = some .completed := by
  decide +kernel

end Virtualization.Operation
