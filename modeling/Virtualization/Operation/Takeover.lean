import Mathlib
import Virtualization.Operation.Final

namespace Virtualization.Operation

open Library

/-- No call fails that the pass for this operation makes from the first operation it cancels on. A restart finds the
    KVVM that it patches. -/
def Served (name : String) (w : World) : Event → Prop
  | .pass worker (.cleanup served) => worker = name → ∀ call, served call
  | .pass worker (.read none) => worker ≠ name
  | .pass worker (.patch answer _) => worker = name →
      answer = .conflict ∨ answer = .ok ∧ ∀ pass ∈ w.passes name, ∀ copy ∈ pass.stage.read,
        (w.store.get? copy.name).isSome
  | .pass worker (.execute reads) => worker = name →
      (∀ call, reads.served call) ∧ ∀ pass ∈ w.passes name, pass.base.type = .restart →
        (w.machines pass.base.virtualMachine).kvvm.isSome
  | _ => True

def Stage.considered : Stage → Option VirtualMachine
  | .considering vm => some vm
  | _ => none

def NoOtherRequest (c : Cluster) : Prop :=
  ∀ kvvm ∈ c.kvvm, ∀ kvvmi ∈ c.kvvmi,
    kvvm.stateChangeRequests = [] ∨ kvvm.stateChangeRequests = [.stopRequest kvvmi.uid, .startRequest]
deriving Decidable

def Unhindered (name : String) (w : World) : Event → Prop
  | .pass worker (.list _ _) => worker = name → ∀ pass ∈ w.passes name, ∀ vm ∈ pass.stage.considered,
      pass.base.isApplicable vm
  | .pass worker (.execute _) => worker = name → ∀ pass ∈ w.passes name,
      pass.base.type = .restart → pass.base.isForceRequested →
        NoOtherRequest (w.machines pass.base.virtualMachine)
  | _ => True

theorem canSupersede_type {old new : VirtualMachineOperation} (can : canSupersede old new) :
    new.type = .stop ∨ new.type = .restart := by
  unfold canSupersede at can
  split at can
  · cases can
  dsimp only at can
  split at can
  · exact .inl (of_decide_eq_true can)
  · split at can
    · cases can
    · exact (of_decide_eq_true can).imp And.left And.left
  · exact of_decide_eq_true can
  · exact of_decide_eq_true can
  · split at can
    · cases can
    · exact (of_decide_eq_true can).imp And.left And.left
  · cases can
  · cases can

namespace PowerState

variable {served : Call → Bool} {c : Cluster}

theorem stopExecute_sent (all : ∀ call, served call) (force : Bool) : (stopExecute force served c).2 := by
  unfold stopExecute
  simp only [all, not_true_eq_false, if_false]
  split
  · rfl
  · simp [stopVM, all]

theorem deletePodByKVVMI_sent (all : ∀ call, served call) (kvvmi : KVVMI) : (deletePodByKVVMI served c kvvmi).2 := by
  unfold deletePodByKVVMI
  simp only [all, not_true_eq_false, if_false]
  split
  · rfl
  · split <;> rfl

theorem restartExecute_sent (all : ∀ call, served call) (there : c.kvvm.isSome) {force : Bool}
    (free : force → NoOtherRequest c) : (restartExecute force served c).2 := by
  obtain ⟨kvvm, found⟩ := Option.isSome_iff_exists.mp there
  unfold restartExecute
  rw [found]
  simp only [all, not_true_eq_false, if_false]
  split
  · rename_i forced
    split
    · unfold addStartAnnotation
      simp [all, ensureAnnotation]
    rename_i kvvmi running
    unfold restartVM
    rcases free forced kvvm found kvvmi running with none | own
    · simp [none, all, deletePodByKVVMI_sent all]
    · simp [own]
  · unfold addRestartAnnotation
    simp [all, ensureAnnotation]

end PowerState

structure Signalled (pass : Pass) : Prop where
  sent : pass.sent = some true
  shown : pass.status.sent
  phase : pass.status.phase = .inProgress

/-- A pass that cancels older operations is one for a stop or for a restart, and goes on to the signal. -/
def Replaces (pass : Pass) : Prop :=
  match pass.stage with
  | .fetched | .considering _ => pass.cancelled = []
  | .superseding vm blockers => pass.base.isApplicable vm ∧
      (blockers ≠ [] ∨ pass.cancelled ≠ [] → pass.base.type = .stop ∨ pass.base.type = .restart)
  | .cleaned vm _ _ | .marking vm _ _ =>
    pass.base.isApplicable vm ∧ (pass.base.type = .stop ∨ pass.base.type = .restart)
  | .updating => pass.cancelled ≠ [] → Signalled pass

section Step

variable {w : World} {name : String} {pass : Pass}

theorem Replaces.advance {m : Move} {next : Pass} (replaces : Replaces pass) (running : w.passes name = some pass)
    (served : Served name w (.pass name m)) (unhindered : Unhindered name w (.pass name m))
    (advance : Advance w name pass m next) : Replaces next := by
  unfold Replaces at replaces
  cases advance with
  | finished stage | listFailed stage | refused stage =>
    rw [stage] at replaces
    exact fun some => absurd replaces some
  | considered stage | reading stage | again stage =>
    rw [stage] at replaces
    exact replaces
  | listed stage known can =>
    rename_i vm items now
    rw [stage] at replaces
    refine ⟨unhindered rfl pass running vm (by rw [stage]; rfl), fun some => ?_⟩
    rcases some with blockers | cancelled
    · obtain ⟨old, member⟩ := List.exists_mem_of_ne_nil _ blockers
      exact canSupersede_type (can old member)
    · exact absurd replaces cancelled
  | cleanupFailed stage failed =>
    rename_i vm old rest answered
    have all : ∀ call, answered call := served rfl
    refine absurd failed ?_
    unfold cleanupSupersededOperation
    split
    · split <;> simp [all]
      split <;> simp
    · split <;> simp [all]
    · simp [all]
    · simp [all]
    all_goals simp
  | cleaned stage =>
    rw [stage] at replaces
    exact ⟨replaces.1, replaces.2 (.inl (List.cons_ne_nil _ _))⟩
  | readFailed => exact absurd rfl served
  | skipped stage =>
    rw [stage] at replaces
    exact ⟨replaces.1, fun _ => replaces.2⟩
  | patchFailed stage final failed =>
    rename_i vm copy rest answer now
    rcases served rfl with again | ⟨rfl, there⟩
    · exact absurd again final
    have found := there pass running copy (by rw [stage]; rfl)
    rw [failed rfl] at found
    cases found

theorem Replaces.execute {vm : VirtualMachine} {reads : Reads} (replaces : Replaces pass)
    (running : w.passes name = some pass) (ready : pass.stage = .superseding vm [])
    (served : Served name w (.pass name (.execute reads)))
    (unhindered : Unhindered name w (.pass name (.execute reads))) (cancelled : pass.cancelled ≠ []) :
    let done := pass.base.execute pass.status vm reads (w.machines pass.base.virtualMachine)
    done.sent = some true ∧ done.status.sent = true ∧ done.status.phase = .inProgress := by
  unfold Replaces at replaces
  rw [ready] at replaces
  obtain ⟨applicable, type⟩ := replaces
  obtain ⟨all, there⟩ := served rfl
  have free := unhindered rfl pass running
  have sent : (PowerState.svcOpExecute pass.base.type pass.base.isForceRequested reads.served
      (w.machines pass.base.virtualMachine)).2 = true := by
    rcases type (.inr cancelled) with stop | restart
    · rw [stop]
      exact PowerState.stopExecute_sent all _
    rw [restart]
    exact PowerState.restartExecute_sent all (there pass running restart) (free restart)
  unfold VirtualMachineOperation.execute
  rw [if_neg (by simp [applicable])]
  rcases type (.inr cancelled) with type | type
  all_goals
    rw [type] at sent
    simp [type, PowerState.execute, sent, Status.setSignalSent, Status.setCompleted, Status.sent, TimedCondition.set]
    split <;> simp

theorem Replaces.step {t : World} {event : Event} (replaces : ∀ pass, w.passes name = some pass → Replaces pass)
    (served : Served name w event) (unhindered : Unhindered name w event) (stepped : Stepped w event t) :
    ∀ pass, t.passes name = some pass → Replaces pass := by
  intro pass there
  cases stepped.ran there with
  | same before => exact replaces pass before
  | fetched => exact rfl
  | advanced running advance => exact (replaces _ running).advance running served unhindered advance
  | marked running marking _ _ next =>
    have before := replaces _ running
    unfold Replaces at before
    rw [marking] at before
    rcases next with ⟨rfl, rfl⟩ | ⟨rfl, rfl⟩
    · exact ⟨before.1, fun _ => before.2⟩
    -- The answer of a patch that is served is not lost.
    rcases served rfl with lost | ⟨lost, -⟩ <;> cases lost
  | executed running ready outcome =>
    cases outcome
    intro cancelled
    obtain ⟨sent, shown, phase⟩ := (replaces _ running).execute running ready served unhindered cancelled
    exact ⟨sent, shown, phase⟩

end Step

/-- A pass that has cancelled older operations, and whose own operation is applicable, ends with its signal sent. -/
theorem superseding_pass_sends_signal {w t : World} {name : String} {events : List Event} {pass : Pass}
    (idle : w.passes name = none)
    (along : Along World.step (fun w event => Served name w event ∧ Unhindered name w event) w events)
    (reached : run World.step w events = some t) (running : t.passes name = some pass)
    (last : pass.stage = .updating) (cancelled : pass.cancelled ≠ []) : Signalled pass := by
  have start : ∀ pass, w.passes name = some pass → Replaces pass := by
    intro pass there
    rw [idle] at there
    cases there
  have replaces := run_invariant (fun _ _ _ replaces lawful moved =>
    Replaces.step replaces lawful.1 lawful.2 (World.step_ok moved)) start along reached
  have ends := replaces pass running
  unfold Replaces at ends
  rw [last] at ends
  exact ends cancelled

instance : Fintype Call where
  elems := {.getVM, .getVMAgain, .getKVVM, .getKVVMI, .getMigration, .getPod, .patch, .patchAgain, .delete, .create}
  complete call := by cases call <;> decide

instance (name : String) (w : World) (event : Event) : Decidable (Served name w event) := by
  unfold Served
  induction event using Event.casesOn with
  | pass _ move =>
    induction move using Move.casesOn with
    | read copy => induction copy using Option.casesOn <;> infer_instance
    | _ => infer_instance
  | _ => infer_instance

instance (name : String) (w : World) (event : Event) : Decidable (Unhindered name w event) := by
  unfold Unhindered
  induction event using Event.casesOn with
  | pass _ move => induction move using Move.casesOn <;> infer_instance
  | _ => infer_instance

def stopOverMigration : List (World → Event) :=
  [always (.create (operationOf .migrate "migrate" 1 1))] ++ signalPass "migrate" ++
    [always (.create (operationOf .stop "stop" 2 2)), fetchNow "stop", always (.pass "stop" (.handle calm)),
      listNow "stop", always (.pass "stop" (.cleanup fun _ => true)), readNow "stop" "migrate",
      always (.pass "stop" (.patch .ok 0)), always (.pass "stop" (.execute calm))]

theorem superseding_pass_sends_signal_stopOverMigration :
    let start := World.start (runningMachine .manual)
    let events := script World.step start stopOverMigration
    ((run World.step start events).bind fun w => (w.passes "stop").map fun pass => (pass.stage, pass.cancelled)) =
        some (.updating, ["migrate"]) ∧
      ∀ w pass, run World.step start events = some w → w.passes "stop" = some pass → pass.stage = .updating →
        pass.cancelled ≠ [] → Signalled pass :=
  ⟨by decide +kernel, fun _ _ reached running => superseding_pass_sends_signal rfl (by decide +kernel) reached running⟩

theorem superseding_pass_fails :
    let start := World.start (runningMachine .alwaysOn)
    let events := script World.step start stopOverMigration
    Along World.step (Served "stop") start events ∧
      ((run World.step start events).map fun w => (w.migrations, phaseOf "migrate" w)) = some ([], some .superseded) ∧
      ((run World.step start events).bind fun w => (w.passes "stop").map fun pass =>
        (pass.cancelled, pass.sent, pass.status.phase)) = some (["migrate"], none, .failed) := by
  decide +kernel

end Virtualization.Operation
