import Mathlib.Data.String.Basic
import Virtualization.Operation.Final

namespace Virtualization.Operation

open Library List Option Store VirtualMachineOperation

def OperationType.signals (type : OperationType) : Bool := type ≠ .restore ∧ type ≠ .clone

def VirtualMachineOperation.inFlight (vmop : VirtualMachineOperation) : Bool :=
  vmop.isFinished = false ∧ vmop.status.sent

variable {a b : VirtualMachineOperation}

theorem isOlderVMOP_trichotomy (different : a.name ≠ b.name) : isOlderVMOP a b ∨ isOlderVMOP b a := by
  unfold isOlderVMOP
  by_cases time : a.creationTimestamp = b.creationTimestamp
  · rcases lt_or_gt_of_ne different with before | after
    · exact .inl (by simp [time, before])
    · exact .inr (by simp [time, after])
  rcases lt_or_gt_of_ne time with before | after
  · exact .inl (by simp [time, before])
  · exact .inr (by simp [Ne.symm time, after])

theorem isOlderVMOP_congr {c d : VirtualMachineOperation} (first : SameOperation a b) (second : SameOperation c d) :
    isOlderVMOP a c = isOlderVMOP b d := by
  unfold isOlderVMOP
  rw [first.creationTimestamp, first.name, second.creationTimestamp, second.name]

theorem isOlderVMOP_irrefl (same : SameOperation a b) : isOlderVMOP a b = false := by
  unfold isOlderVMOP
  simp [same.creationTimestamp, same.name]

structure Ahead (x y : VirtualMachineOperation) : Prop where
  signals : x.type.signals
  unfinished : x.isFinished = false
  virtualMachine : x.virtualMachine = y.virtualMachine
  older : isOlderVMOP x y

def Alone (w : World) (y : VirtualMachineOperation) (names : List String) : Prop :=
  ∀ name x, w.store.get? name = some x → Ahead x y → name ∈ names

def Stage.left : Stage → Option (List String)
  | .superseding _ blockers => some (blockers.map VirtualMachineOperation.name)
  | .cleaned _ old rest => some (old.name :: rest.map VirtualMachineOperation.name)
  | .marking _ copy rest => some (copy.name :: rest.map VirtualMachineOperation.name)
  | .fetched | .considering _ | .updating => none

def Stage.head : Stage → Option String
  | .cleaned _ old _ => some old.name
  | _ => none

/-- What every read shows is stored, and nothing is deleted. -/
def FreshReads (w : World) : Event → Prop
  | .delete _ | .removed _ => False
  | .pass name (.fetch copy) => w.store.get? name = some copy
  | .pass _ (.list (some items) _) => items = w.store.objects
  | .pass name (.read (some current)) => ∀ pass ∈ w.passes name, ∀ old ∈ pass.stage.head, current = w.store.get? old
  | _ => True

/-- A new operation is not older than one that is not finished. -/
def InOrder (w : World) : Event → Prop
  | .create vmop => ∀ other ∈ w.store.objects, other.virtualMachine = vmop.virtualMachine → other.isFinished = false →
      isOlderVMOP vmop other = false
  | _ => True

theorem sent_initStatus (s : Status) (now : Nat) : (initStatus s now).sent = s.sent := by
  unfold initStatus
  split <;> rfl

def Next.status : Next → Status
  | .finish status _ => status
  | .consider status _ => status

theorem powerState_sent (vmop : VirtualMachineOperation) (served : Call → Bool) (c : Cluster) (now : Nat) :
    (PowerState.handle vmop served c now).status.sent = vmop.status.sent := by
  have started := sent_initStatus vmop.status now
  unfold PowerState.handle
  split
  · rfl
  split
  · rfl
  dsimp only
  split
  · exact started
  split
  · exact started
  split
  · unfold PowerState.syncOperationComplete
    split <;> exact started
  · exact started

variable {vmop : VirtualMachineOperation} {c : Cluster}

theorem migrate_sent {enabled : Bool} {migration : Option Migrate.Shown} {rejected : Bool} {served : Call → Bool}
    {now : Nat} (sent : (Migrate.handle vmop enabled migration rejected served c now).status.sent) :
    vmop.status.sent ∨ migration.isSome := by
  have started : (initStatus (if vmop.status.phase = .unset then
      vmop.status.setSignalSent .conditionUnknown .unknown now else vmop.status) now).sent = true →
      vmop.status.sent = true := by
    rw [sent_initStatus]
    split
    · intro unknown
      unfold Status.setSignalSent Status.sent TimedCondition.set at unknown
      split at unknown <;> simp at unknown
    · exact id
  unfold Migrate.handle at sent
  split at sent
  · exact .inl sent
  split at sent
  · exact .inl sent
  dsimp only at sent
  generalize initStatus _ now = status at started sent
  iterate 5
    split at sent
    · exact .inl (started sent)
  split at sent
  · unfold Migrate.syncOperationComplete at sent
    repeat' split at sent
    all_goals exact .inl (started sent)
  split at sent
  · exact .inr rfl
  · exact .inl (started sent)

theorem snapshot_sent_execute (vmop : VirtualMachineOperation) (status : Status) (outcome : Snapshot.Outcome)
    (maintenanceMode : Option Core.ConditionStatus) (now : Nat) :
    (Snapshot.execute vmop status outcome maintenanceMode now).sent = status.sent := by
  have maintained : (Snapshot.setMaintenanceMode vmop.type { status with phase := .inProgress } maintenanceMode).sent =
      status.sent := by
    unfold Snapshot.setMaintenanceMode
    split <;> rfl
  unfold Snapshot.execute
  split <;> exact maintained

theorem snapshot_sent (vmop : VirtualMachineOperation) (outcome : Snapshot.Outcome)
    (maintenanceMode : Option Core.ConditionStatus) (served : Call → Bool) (c : Cluster) (now : Nat) :
    (Snapshot.handle vmop outcome maintenanceMode served c now).status.sent = vmop.status.sent := by
  have started := sent_initStatus vmop.status now
  unfold Snapshot.handle
  split
  · rfl
  split
  · rfl
  split
  · rfl
  dsimp only
  split
  · exact started
  split
  · exact started
  split
  · exact (snapshot_sent_execute vmop _ outcome maintenanceMode now).trans started
  · exact started

variable {reads : Reads}

theorem handle_sent {migration : Bool} (sent : (vmop.handle migration reads c).status.sent) :
    vmop.status.sent ∨ migration ∧ vmop.type.signals := by
  unfold handle at sent
  cases type : vmop.type <;> rw [type] at sent
  case start | stop | restart => exact .inl ((powerState_sent ..).symm.trans sent)
  case migrate | evict =>
    refine (migrate_sent sent).imp_right fun there => ⟨?_, by decide⟩
    cases migration
    · cases there
    · rfl
  case restore | clone => exact .inl ((snapshot_sent ..).symm.trans sent)

theorem execute_unsignalled {status : Status} {vm : VirtualMachine}
    (sent : (vmop.execute status vm reads c).status.sent) : status.sent ∨ vmop.type.signals := by
  unfold execute at sent
  split at sent
  · exact .inl sent
  cases type : vmop.type <;> rw [type] at sent
  case start | stop | restart | migrate | evict => exact .inr (by decide)
  case restore | clone =>
    rw [snapshot_sent_execute] at sent
    exact .inl sent

theorem handle_finished (finished : vmop.isFinished) (staying : vmop.deleting = false)
    (signals : vmop.type.signals) (migration : Bool) (reads : Reads) (c : Cluster) :
    vmop.handle migration reads c = .finish vmop.status false := by
  have notTerminating : ¬vmop.isTerminating := by
    unfold isTerminating
    have phase : vmop.status.phase ≠ .terminating := by
      intro phase
      rw [isFinished, phase] at finished
      exact absurd finished (by decide)
    simp [phase, staying]
  unfold handle
  cases type : vmop.type
  case start | stop | restart =>
    unfold PowerState.handle
    rw [if_neg notTerminating, if_pos finished]
  case migrate | evict =>
    unfold Migrate.handle
    rw [if_neg notTerminating, if_pos finished]
  case restore | clone =>
    rw [type] at signals
    exact absurd signals (by decide)

structure InTurn (w : World) (name : String) (pass : Pass) : Prop where
  typed : pass.status.sent → pass.base.type.signals
  idle : pass.base.isFinished → pass.base.type.signals →
    (pass.stage = .fetched ∨ pass.stage = .updating) ∧ pass.status = pass.base.status
  first : pass.stage = .fetched → pass.status = pass.base.status
  copies : ∀ copy ∈ pass.stage.read, copy ∈ w.seen
  sending : ∀ y, w.store.get? name = some y → y.isFinished = false → pass.status.sent → Alone w y []
  marking : ∀ y, w.store.get? name = some y → y.isFinished = false → y.type.signals →
    ∀ names ∈ pass.stage.left, Alone w y names

/-- Mutual exclusion by age: an operation that is signalled, or has a migration, has nothing ahead. -/
structure Ordered (w : World) : Prop where
  tracked : Tracked w
  identified : Identified w
  staying : ∀ copy ∈ w.seen, copy.deleting = false
  named : ∀ copy ∈ w.seen, ∃ vmop, w.store.get? copy.name = some vmop ∧ SameOperation copy vmop
  typed : ∀ copy ∈ w.seen, copy.status.sent → copy.type.signals
  owned : ∀ name ∈ w.migrations, ∃ vmop, w.store.get? name = some vmop
  flight : ∀ name y, w.store.get? name = some y → y.isFinished = false → y.status.sent → Alone w y []
  migration : ∀ name ∈ w.migrations, ∀ y, w.store.get? name = some y → y.isFinished = false →
    y.type.signals → Alone w y []
  passes : ∀ name pass, w.passes name = some pass → InTurn w name pass

variable {event : Event}

theorem Ordered.unfinished {w t : World} (ordered : Ordered w) (stepped : Stepped w event t) {name : String}
    {x : VirtualMachineOperation} (found : t.store.get? name = some x) (unfinished : x.isFinished = false)
    (signals : x.type.signals) : (∃ old, w.store.get? name = some old ∧ old.isFinished = false ∧ SameOperation x old) ∨
      ∃ vmop, event = .create vmop ∧ SameOperation x vmop ∧ w.store.get? name = none ∧ x.status = vmop.status := by
  cases ordered.tracked.written stepped found with
  | same before => exact .inl ⟨x, before, unfinished, .refl x⟩
  | born revision fresh => exact .inr ⟨_, rfl, ⟨rfl, rfl, rfl, rfl, rfl, rfl, rfl⟩, fresh, rfl⟩
  | amended before kept status =>
    refine .inl ⟨_, before, ?_, kept⟩
    rw [isFinished, ← status]
    exact unfinished
  | marked => exact Bool.noConfusion (show true = false from unfinished)
  | updated revision running updating changed before =>
    rename_i pass answer
    refine .inl ⟨pass.base, before, Bool.eq_false_of_not_eq_true fun finished => ?_,
      ⟨rfl, rfl, rfl, rfl, rfl, rfl, rfl⟩⟩
    exact changed ((ordered.passes _ pass running).idle finished signals).2

theorem Ordered.alone {w t : World} (ordered : Ordered w) (stepped : Stepped w event t) (inOrder : InOrder w event)
    {name : String} {y y' : VirtualMachineOperation} (found : w.store.get? name = some y)
    (unfinished : y.isFinished = false) (same : SameOperation y' y) {names : List String} (alone : Alone w y names) :
    Alone t y' names := by
  intro other x there ahead
  have older : isOlderVMOP x y := by
    rw [← isOlderVMOP_congr (.refl x) same]
    exact ahead.older
  have virtualMachine := ahead.virtualMachine.trans same.virtualMachine
  rcases ordered.unfinished stepped there ahead.unfinished ahead.signals with
    ⟨old, before, open', kept⟩ | ⟨vmop, rfl, kept, -⟩
  · refine alone other old before ⟨?_, open', kept.virtualMachine.symm.trans virtualMachine, ?_⟩
    · rw [← kept.type]
      exact ahead.signals
    rw [← isOlderVMOP_congr kept (.refl y)]
    exact older
  have order := inOrder y (mem_of_get? found) (virtualMachine.symm.trans kept.virtualMachine) unfinished
  rw [← isOlderVMOP_congr kept (.refl y), older] at order
  cases order

section Step

variable {w t : World} {event : Event}

theorem Ordered.named_step (ordered : Ordered w) (fresh : FreshReads w event) (stepped : Stepped w event t) :
    ∀ copy ∈ t.seen, ∃ vmop, t.store.get? copy.name = some vmop ∧ SameOperation copy vmop := by
  intro copy known
  rcases (seen_step stepped).2 copy known with before | found
  · obtain ⟨_, found, same⟩ := ordered.named copy before
    have staying : event ≠ .removed copy.name := by
      rintro rfl
      exact fresh
    obtain ⟨new, after, kept⟩ := ordered.tracked.kept stepped found staying
    exact ⟨new, after, same.trans kept.symm⟩
  · exact ⟨copy, found, .refl copy⟩

variable {name : String} {pass : Pass}

theorem Ordered.inTurn (ordered : Ordered w) (fresh : FreshReads w event) (inOrder : InOrder w event)
    (stepped : Stepped w event t) (known : pass.base ∈ w.seen) (named : pass.base.name = name)
    (turn : InTurn w name pass) : InTurn t name pass := by
  have older := (seen_step stepped).1
  -- The operation of the pass was stored before, and can be signalled if the pass finds it so.
  have before {y : VirtualMachineOperation} (found : t.store.get? name = some y) (unfinished : y.isFinished = false)
      (signals : y.type.signals = true) {names : List String}
      (alone : ∀ old, w.store.get? name = some old → old.isFinished = false → old.type.signals = true →
        Alone w old names) : Alone t y names := by
    rcases ordered.unfinished stepped found unfinished signals with ⟨old, there, open', same⟩ | ⟨-, -, -, missing, -⟩
    · refine ordered.alone stepped inOrder there open' same (alone old there open' ?_)
      rw [← same.type]
      exact signals
    obtain ⟨_, there, -⟩ := ordered.named _ known
    rw [named, missing] at there
    cases there
  refine ⟨turn.typed, turn.idle, turn.first, fun copy read => older copy (turn.copies copy read), ?_, ?_⟩
  · intro y found unfinished sent
    have signals : y.type.signals := by
      obtain ⟨_, there, same⟩ := ordered.named_step fresh stepped _ (older _ known)
      rw [named] at there
      cases found.symm.trans there
      rw [← same.type]
      exact turn.typed sent
    exact before found unfinished signals fun old there open' _ => turn.sending old there open' sent
  intro y found unfinished signals names left
  exact before found unfinished signals fun old there open' can => turn.marking old there open' can names left

variable {y : VirtualMachineOperation}

theorem Ordered.stored (ordered : Ordered w) (running : w.passes name = some pass)
    (found : w.store.get? name = some y) : SameOperation pass.base y := by
  obtain ⟨known, named⟩ := ordered.tracked.base name pass running
  obtain ⟨_, there, same⟩ := ordered.named _ known
  rw [named] at there
  cases found.symm.trans there
  exact same

theorem Ordered.listed (ordered : Ordered w) (running : w.passes name = some pass)
    (found : w.store.get? name = some y) :
    Alone w y ((findOlderActiveVMOPs w.store.objects pass.base).map VirtualMachineOperation.name) := by
  have same := ordered.stored running found
  intro other x read ahead
  have key : x.name = other := key_of_get? read
  refine mem_map.mpr ⟨x, ?_, key⟩
  unfold findOlderActiveVMOPs
  rw [mem_insertionSort, mem_filter]
  refine ⟨mem_of_get? read, decide_eq_true ⟨ahead.virtualMachine.trans same.virtualMachine.symm,
    ahead.unfinished, fun uid => ?_, ?_⟩⟩
  · -- The operation is not ahead of itself.
    have known := (ordered.tracked.base name pass running).1
    have self := ordered.identified x (ordered.tracked.stored _ _ read) _ known uid
    have never := isOlderVMOP_irrefl (self.trans same)
    rw [ahead.older] at never
    cases never
  rw [isOlderVMOP_congr (.refl x) same]
  exact ahead.older

theorem InTurn.goOn (turn : InTurn w name pass) (busy : pass.stage ≠ .fetched ∧ pass.stage ≠ .updating)
    (status : Status) (same : status.sent = pass.status.sent) (stage : Stage) (later : stage ≠ .fetched)
    (copies : ∀ copy ∈ stage.read, copy ∈ w.seen)
    (marking : ∀ y, w.store.get? name = some y → y.isFinished = false → y.type.signals →
      ∀ names ∈ stage.left, Alone w y names)
    (cancelled : List String) : InTurn w name { pass with status, stage, cancelled } where
  typed sent := turn.typed (same ▸ sent)
  idle finished signals := absurd (turn.idle finished signals).1 (not_or.mpr busy)
  first again := absurd again later
  copies := copies
  sending y found unfinished sent := turn.sending y found unfinished (same ▸ sent)
  marking := marking

theorem InTurn.giveUp (turn : InTurn w name pass) (busy : pass.stage ≠ .fetched ∧ pass.stage ≠ .updating)
    (status : Status) (same : status.sent = pass.status.sent) (cancelled : List String) :
    InTurn w name { pass with status, stage := .updating, cancelled } :=
  turn.goOn busy status same .updating (by simp) (fun _ => nofun) (fun _ _ _ _ _ => nofun) cancelled

section

variable (ordered : Ordered w)
include ordered

theorem Ordered.handled (running : w.passes name = some pass) (stage : pass.stage = .fetched)
    (sent : (pass.base.handle (name ∈ w.migrations) reads (w.machines pass.base.virtualMachine)).status.sent) :
    pass.base.type.signals ∧ ∀ y, w.store.get? name = some y → y.isFinished = false → Alone w y [] := by
  have turn := ordered.passes name pass running
  rcases handle_sent sent with before | ⟨there, signals⟩
  · rw [← turn.first stage] at before
    exact ⟨turn.typed before, fun y found unfinished => turn.sending y found unfinished before⟩
  refine ⟨signals, fun y found unfinished => ordered.migration name (of_decide_eq_true there) y found unfinished ?_⟩
  rw [← (ordered.stored running found).type]
  exact signals

theorem Ordered.advance {next : Pass} {m : Move} (fresh : FreshReads w (.pass name m))
    (running : w.passes name = some pass) (advance : Advance w name pass m next) : InTurn w name next := by
  have turn := ordered.passes name pass running
  have known := (ordered.tracked.base name pass running).1
  cases advance with
  | finished stage after =>
    rename_i reads status _
    have same : status =
        (pass.base.handle (name ∈ w.migrations) reads (w.machines pass.base.virtualMachine)).status := by
      rw [after]
      rfl
    refine ⟨fun sent => (ordered.handled running stage (same ▸ sent)).1, fun finished signals => ⟨.inr rfl, ?_⟩, nofun,
      fun _ => nofun, fun y found unfinished sent => (ordered.handled running stage (same ▸ sent)).2 y found unfinished,
      fun _ _ _ _ _ => nofun⟩
    rw [handle_finished finished (ordered.staying _ known) signals] at after
    exact (Next.finish.inj after).1.symm
  | considered stage after =>
    rename_i reads status _
    have same : status =
        (pass.base.handle (name ∈ w.migrations) reads (w.machines pass.base.virtualMachine)).status := by
      rw [after]
      rfl
    refine ⟨fun sent => (ordered.handled running stage (same ▸ sent)).1,
      fun finished signals => ?_, nofun, fun _ => nofun,
      fun y found unfinished sent => (ordered.handled running stage (same ▸ sent)).2 y found unfinished,
      fun _ _ _ _ _ => nofun⟩
    rw [handle_finished finished (ordered.staying _ known) signals] at after
    cases after
  | listFailed stage | cleanupFailed stage | readFailed stage | patchFailed stage =>
    exact turn.giveUp (by simp [stage]) _ rfl _
  | refused stage =>
    exact turn.giveUp (by simp [stage]) (setNotReadyToBeExecuted pass.status _) rfl _
  | listed stage =>
    rename_i vm items _ _ _
    refine turn.goOn (by simp [stage]) _ rfl
      (.superseding vm (findOlderActiveVMOPs items pass.base)) (by simp) (fun _ => nofun)
      (fun y found _ _ names left => ?_) _
    cases left
    cases fresh
    exact ordered.listed running found
  | cleaned stage =>
    rename_i vm old rest _
    refine turn.goOn (by simp [stage]) _ rfl (.cleaned vm old rest) (by simp) (fun _ => nofun)
      (fun y found unfinished signals names left => ?_) _
    cases left
    exact turn.marking y found unfinished signals _ (by rw [stage]; rfl)
  | again stage =>
    rename_i vm copy rest _
    refine turn.goOn (by simp [stage]) _ rfl (.cleaned vm copy rest) (by simp) (fun _ => nofun)
      (fun y found unfinished signals names left => ?_) _
    cases left
    exact turn.marking y found unfinished signals _ (by rw [stage]; rfl)
  | skipped stage idle =>
    rename_i vm old rest _
    refine turn.goOn (by simp [stage]) _ rfl (.superseding vm rest) (by simp) (fun _ => nofun)
      (fun y found unfinished signals names left other x read ahead => ?_) _
    cases left
    have member := turn.marking y found unfinished signals _ (by rw [stage]; rfl) other x read ahead
    rcases mem_cons.mp member with rfl | later
    · -- The operation that was read is gone or finished.
      have shown := fresh pass running old.name (by rw [stage]; rfl)
      rw [read] at shown
      have finished := (idle x shown).2.2
      rw [ahead.unfinished] at finished
      cases finished
    · exact later
  | reading stage seen same =>
    rename_i vm _ rest copy unfinished
    refine turn.goOn (by simp [stage]) _ rfl (.marking vm copy rest) (by simp) ?_
      (fun y found unfinished signals names left => ?_) _
    · intro copy read
      cases read
      exact seen
    cases left
    rw [same]
    exact turn.marking y found unfinished signals _ (by rw [stage]; rfl)

theorem Ordered.copies_step (fresh : FreshReads w event) (stepped : Stepped w event t) :
    ∀ copy ∈ t.seen, copy.deleting = false ∧ (copy.status.sent → copy.type.signals) := by
  have stored {name : String} {vmop : VirtualMachineOperation} (found : w.store.get? name = some vmop) :
      vmop.deleting = false ∧ (vmop.status.sent = true → vmop.type.signals = true) :=
    ⟨ordered.staying _ (ordered.tracked.stored _ _ found), ordered.typed _ (ordered.tracked.stored _ _ found)⟩
  have written : ∀ name new, t.store.get? name = some new →
      new.deleting = false ∧ (new.status.sent = true → new.type.signals = true) := by
    intro name new found
    cases ordered.tracked.written stepped found with
    | same before => exact stored before
    | born =>
      cases stepped with
      | created new staying =>
        refine ⟨staying, fun sent => ?_⟩
        rw [new] at sent
        cases sent
    | amended before kept status deleting =>
      rcases deleting with ⟨rfl, -⟩ | ⟨-, same⟩
      · exact fresh.elim
      rw [same, status, kept.type]
      exact stored before
    | marked revision running marking there =>
      rename_i worker pass vm copy current rest answer now
      refine ⟨(stored there).1, fun sent => ?_⟩
      have seen := (ordered.passes _ _ running).copies copy (by rw [marking]; rfl)
      obtain ⟨vmop, at', same⟩ := ordered.named copy seen
      cases there.symm.trans at'
      exact same.type ▸ ordered.typed copy seen sent
    | updated revision running updating changed there =>
      exact ⟨(stored there).1, (ordered.passes _ _ running).typed⟩
  intro copy known
  rcases (seen_step stepped).2 copy known with before | found
  · exact ⟨ordered.staying copy before, ordered.typed copy before⟩
  · exact written copy.name copy found

theorem Ordered.flight_step (inOrder : InOrder w event) (stepped : Stepped w event t)
    (found : t.store.get? name = some y) (unfinished : y.isFinished = false) (sent : y.status.sent) : Alone t y [] := by
  cases ordered.tracked.written stepped found with
  | same before =>
    exact ordered.alone stepped inOrder before unfinished (.refl y) (ordered.flight name y before unfinished sent)
  | born =>
    cases stepped with
    | created new =>
      dsimp only at sent
      rw [new] at sent
      cases sent
  | amended before kept status =>
    rename_i old _
    rw [isFinished, status] at unfinished
    rw [status] at sent
    exact ordered.alone stepped inOrder before unfinished kept (ordered.flight name old before unfinished sent)
  | marked => exact Bool.noConfusion (show true = false from unfinished)
  | updated revision running updating changed before =>
    rename_i pass answer
    have turn := ordered.passes name pass running
    have open' : pass.base.isFinished = false := by
      by_contra finished
      exact changed (turn.idle (Bool.eq_true_of_not_eq_false finished) (turn.typed sent)).2
    have same : SameOperation { pass.base with resourceVersion := revision, status := pass.status } pass.base :=
      ⟨rfl, rfl, rfl, rfl, rfl, rfl, rfl⟩
    exact ordered.alone stepped inOrder before open' same (turn.sending pass.base before open' sent)

end

theorem Stepped.migrations {w t : World} (stepped : Stepped w event t) :
    ∀ name ∈ t.migrations, name ∈ w.migrations ∨ ∃ pass vm, w.passes name = some pass ∧
      pass.stage = .superseding vm [] := by
  intro name there
  cases stepped with
  | created | deleted | removed | touched | machine | fetched | marked | kept | updated => exact .inl there
  | migrationGone =>
    exact .inl (mem_of_mem_filter there)
  | advanced _ _ fewer => exact .inl (fewer there)
  | executed running ready _ grown =>
    rcases grown name there with before | rfl
    · exact .inl before
    · exact .inr ⟨_, _, running, ready⟩

variable (ordered : Ordered w)
include ordered

theorem Ordered.owner (stepped : Stepped w event t) (there : name ∈ t.migrations) :
    ∃ vmop, w.store.get? name = some vmop := by
  rcases stepped.migrations name there with had | ⟨pass, _, running, -⟩
  · exact ordered.owned name had
  obtain ⟨known, named⟩ := ordered.tracked.base name pass running
  obtain ⟨vmop, stored, -⟩ := ordered.named _ known
  exact ⟨vmop, named ▸ stored⟩

theorem Ordered.migration_step (inOrder : InOrder w event) (stepped : Stepped w event t) (there : name ∈ t.migrations)
    (found : t.store.get? name = some y) (unfinished : y.isFinished = false) (signals : y.type.signals) :
    Alone t y [] := by
  rcases ordered.unfinished stepped found unfinished signals with ⟨old, before, open', same⟩ | ⟨-, -, -, missing, -⟩
  · refine ordered.alone stepped inOrder before open' same ?_
    have can : old.type.signals := by
      rw [← same.type]
      exact signals
    rcases stepped.migrations name there with had | ⟨pass, _, running, ready⟩
    · exact ordered.migration name had old before open' can
    · exact (ordered.passes name pass running).marking old before open' can [] (by rw [ready]; rfl)
  obtain ⟨_, stored⟩ := ordered.owner stepped there
  rw [missing] at stored
  cases stored

theorem Ordered.executed {vm : VirtualMachine} {done : Executed} (running : w.passes name = some pass)
    (ready : pass.stage = .superseding vm [])
    (outcome : pass.base.execute pass.status vm reads (w.machines pass.base.virtualMachine) = done) :
    InTurn w name { pass with status := done.status, stage := .updating, sent := done.sent } := by
  have turn := ordered.passes name pass running
  have typed : done.status.sent → pass.base.type.signals := by
    intro sent
    rw [← outcome] at sent
    exact (execute_unsignalled sent).elim turn.typed id
  refine ⟨typed, fun finished signals => ?_, nofun, fun _ => nofun, ?_, fun _ _ _ _ _ => nofun⟩
  · rcases (turn.idle finished signals).1 with stage | stage <;> rw [ready] at stage <;> cases stage
  -- Nothing is left to mark.
  intro y found unfinished sent
  have signals : y.type.signals := by
    rw [← (ordered.stored running found).type]
    exact typed sent
  exact turn.marking y found unfinished signals [] (by rw [ready]; rfl)

theorem Ordered.passes_step (fresh : FreshReads w event) (inOrder : InOrder w event) (stepped : Stepped w event t) :
    ∀ name pass, t.passes name = some pass → InTurn t name pass := by
  have same {name : String} {pass : Pass} (before : w.passes name = some pass) : InTurn t name pass := by
    obtain ⟨known, named⟩ := ordered.tracked.base name pass before
    exact ordered.inTurn fresh inOrder stepped known named (ordered.passes name pass before)
  intro name pass there
  cases stepped.ran there with
  | same before => exact same before
  | fetched _ known named =>
    refine ordered.inTurn fresh inOrder stepped known named ?_
    refine ⟨ordered.typed _ known, fun _ _ => ⟨.inl rfl, rfl⟩, fun _ => rfl, fun _ => nofun,
      fun y found unfinished sent => ?_, fun _ _ _ _ _ => nofun⟩
    cases (show w.store.get? _ = some _ from fresh).symm.trans found
    exact ordered.flight _ _ found unfinished sent
  | advanced running advance =>
    obtain ⟨known, named⟩ := ordered.tracked.base _ _ running
    rw [← advance_base advance] at known named
    exact ordered.inTurn fresh inOrder stepped known named (ordered.advance fresh running advance)
  | @marked _ old vm copy rest current now answer stage running marking found store next =>
    have turn := same running
    rcases next with ⟨rfl, rfl⟩ | ⟨rfl, rfl⟩
    · refine turn.goOn (by simp [marking]) _ rfl (.superseding vm rest) (by simp) (fun _ => nofun)
        (fun y at' unfinished signals names left other x read ahead => ?_) _
      cases left
      have member := turn.marking y at' unfinished signals _ (by rw [marking]; rfl) other x read ahead
      rcases mem_cons.mp member with rfl | later
      · -- The operation that was marked is finished.
        have named : (mergePatch current copy now).name = copy.name := key_of_get? found
        rw [store] at read
        rcases found_write read with ⟨-, rfl⟩ | ⟨different, -⟩
        · exact Bool.noConfusion (show true = false from ahead.unfinished)
        · exact absurd named.symm different
      · exact later
    · exact turn.giveUp (by simp [marking]) _ rfl _
  | executed running ready outcome =>
    obtain ⟨known, named⟩ := ordered.tracked.base _ _ running
    exact ordered.inTurn fresh inOrder stepped known named (ordered.executed running ready outcome)

theorem Ordered.step (fresh : FreshReads w event) (inOrder : InOrder w event) (stepped : Stepped w event t) :
    Ordered t where
  tracked := ordered.tracked.step stepped
  identified := ordered.identified.step stepped ordered.tracked
  staying copy known := (ordered.copies_step fresh stepped copy known).1
  named := ordered.named_step fresh stepped
  typed copy known := (ordered.copies_step fresh stepped copy known).2
  owned := by
    intro name there
    have staying : event ≠ .removed name := by
      rintro rfl
      exact fresh
    obtain ⟨_, found⟩ := ordered.owner stepped there
    obtain ⟨new, after, -⟩ := ordered.tracked.kept stepped found staying
    exact ⟨new, after⟩
  flight _ _ found unfinished sent := ordered.flight_step inOrder stepped found unfinished sent
  migration _ there _ found unfinished signals := ordered.migration_step inOrder stepped there found unfinished signals
  passes := ordered.passes_step fresh inOrder stepped

end Step

theorem Ordered.start (machines : String → Cluster) : Ordered (World.start machines) where
  tracked := .start machines
  identified _ := nofun
  staying _ := nofun
  named _ := nofun
  typed _ := nofun
  owned _ := nofun
  flight _ _ := nofun
  migration _ := nofun
  passes _ _ := nofun

/-- In every run with fresh reads in which no operation is created as older than one that is not finished, at most one
    operation of a virtual machine is in flight. -/
theorem one_operation_in_flight {machines : String → Cluster} {events : List Event} {w : World}
    (along : Along World.step (fun w event => FreshReads w event ∧ InOrder w event) (World.start machines) events)
    (reached : run World.step (World.start machines) events = some w) :
    ∀ a ∈ w.store.objects, ∀ b ∈ w.store.objects, a.virtualMachine = b.virtualMachine → a.inFlight = true →
      b.inFlight = true → a = b := by
  have ordered : Ordered w := run_invariant (fun _ _ _ ordered lawful moved =>
    ordered.step lawful.1 lawful.2 (World.step_ok moved)) (.start machines) along reached
  intro a memberA b memberB virtualMachine flyingA flyingB
  obtain ⟨openA, sentA⟩ := of_decide_eq_true flyingA
  obtain ⟨openB, sentB⟩ := of_decide_eq_true flyingB
  have foundA : w.store.get? a.name = some a := get?_of_mem memberA
  have foundB : w.store.get? b.name = some b := get?_of_mem memberB
  by_contra different
  have names : a.name ≠ b.name := by
    intro same
    rw [same, foundB] at foundA
    exact different (Option.some.inj foundA).symm
  have signalsA := ordered.typed a (ordered.tracked.stored _ _ foundA) sentA
  have signalsB := ordered.typed b (ordered.tracked.stored _ _ foundB) sentB
  rcases isOlderVMOP_trichotomy names with older | older
  · exact not_mem_nil (ordered.flight _ b foundB openB sentB _ a foundA ⟨signalsA, openA, virtualMachine, older⟩)
  exact not_mem_nil (ordered.flight _ a foundA openA sentA _ b foundB
    ⟨signalsB, openB, virtualMachine.symm, older⟩)

instance (w : World) (event : Event) : Decidable (FreshReads w event) := by
  unfold FreshReads
  split <;> infer_instance

instance (w : World) (event : Event) : Decidable (InOrder w event) := by
  unfold InOrder
  split <;> infer_instance

def takeover : List (World → Event) :=
  [always (.create (operationOf .migrate "migrate" 1 1))] ++ signalPass "migrate" ++
    [always (.create (operationOf .stop "stop" 2 1)), fetchNow "stop", always (.pass "stop" (.handle calm)),
      listNow "stop", always (.pass "stop" (.cleanup fun _ => true)), readNow "stop" "migrate",
      always (.pass "stop" (.patch .ok 0)), always (.pass "stop" (.execute calm)),
      always (.pass "stop" (.update .ok))]

theorem one_operation_in_flight_takeover :
    let start := World.start (runningMachine .manual)
    let events := script World.step start takeover
    ((run World.step start events).map fun w => w.store.objects.map VirtualMachineOperation.inFlight) =
        some [false, true] ∧
      ∀ w, run World.step start events = some w → ∀ a ∈ w.store.objects, ∀ b ∈ w.store.objects,
        a.virtualMachine = b.virtualMachine → a.inFlight = true → b.inFlight = true → a = b :=
  ⟨by decide +kernel, fun _ reached => one_operation_in_flight (by decide +kernel) reached⟩

def sameSecond : List (World → Event) :=
  [always (.create (operationOf .migrate "b" 1 1))] ++ signalPass "b" ++
    [always (.create (operationOf .restart "a" 2 1))] ++ signalPass "a"

theorem two_operations_in_flight :
    let start := World.start (runningMachine .manual)
    let events := script World.step start sameSecond
    Along World.step FreshReads start events ∧
      ((run World.step start events).map fun w => w.store.objects.map fun vmop => (vmop.name, vmop.inFlight)) =
        some [("b", true), ("a", true)] := by
  decide +kernel

end Virtualization.Operation
