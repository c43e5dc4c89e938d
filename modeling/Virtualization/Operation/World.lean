import Virtualization.Library.Run
import Virtualization.Operation.Handlers

namespace Virtualization.Operation

open Virtualization.Core (ConditionStatus)
open Library List.Subset Option

structure Reads where
  served : Call → Bool
  targetMigrationEnabled : Bool
  migration : Migrate.Shown
  rejected : Bool
  checks : Migrate.Checks
  shown : Option ReasonCompleted
  outcome : Snapshot.Outcome
  maintenanceMode : Option ConditionStatus
  now : Nat

/-- The first part of a pass, by the controller of the type. `migration` says whether the migration of the operation is
    there. -/
def VirtualMachineOperation.handle (vmop : VirtualMachineOperation) (migration : Bool) (reads : Reads) (c : Cluster) :
    Next :=
  match vmop.type with
  | .start | .stop | .restart => PowerState.handle vmop reads.served c reads.now
  | .migrate | .evict =>
    Migrate.handle vmop reads.targetMigrationEnabled (if migration then some reads.migration else none) reads.rejected
      reads.served c reads.now
  | .restore | .clone => Snapshot.handle vmop reads.outcome reads.maintenanceMode reads.served c reads.now

structure Executed where
  status : Status
  cluster : Cluster
  created : Bool
  sent : Option Bool

def VirtualMachineOperation.execute (vmop : VirtualMachineOperation) (status : Status) (vm : VirtualMachine)
    (reads : Reads) (c : Cluster) : Executed :=
  if ¬vmop.isApplicable vm then
    { status := setNotApplicable vmop status vm reads.now, cluster := c, created := false, sent := none }
  else
    match vmop.type with
    | .start | .stop | .restart =>
      let (status, cluster, sent) := PowerState.execute vmop status reads.served c reads.now
      { status, cluster, created := false, sent := some sent }
    | .migrate | .evict =>
      let (status, created) := Migrate.execute status reads.checks reads.served reads.shown vm reads.now
      { status, cluster := c, created, sent := none }
    | .restore | .clone =>
      let status := { status with phase := .inProgress }.setCompleted .conditionFalse (getInProgressReason vmop.type)
        reads.now
      { status := Snapshot.execute vmop status reads.outcome reads.maintenanceMode reads.now
        cluster := c, created := false, sent := none }

inductive Stage where
  | fetched
  | considering (vm : VirtualMachine)
  | superseding (vm : VirtualMachine) (blockers : List VirtualMachineOperation)
  | cleaned (vm : VirtualMachine) (old : VirtualMachineOperation) (rest : List VirtualMachineOperation)
  | marking (vm : VirtualMachine) (current : VirtualMachineOperation) (rest : List VirtualMachineOperation)
  | updating
deriving DecidableEq

/-- A reconcile of an operation: the copy it has fetched and the status it has made of it so far. `cancelled` are the
    operations that it has marked as superseded, and `sent` says how the signal of a power operation was sent. -/
structure Pass where
  base : VirtualMachineOperation
  status : Status
  stage : Stage
  cancelled : List String
  sent : Option Bool

/-- The API server with the controllers, which have one pass at a time for an operation. `seen` holds every state that
    an operation has had, as a cache may still show it, and `signals` every signal of a power operation that was
    tried, by the uid of the operation. -/
structure World where
  store : Store VirtualMachineOperation
  seen : List VirtualMachineOperation
  migrations : List String
  machines : String → Cluster
  passes : String → Option Pass
  signals : List (Nat × Bool)

inductive Move where
  | fetch (copy : VirtualMachineOperation)
  | handle (reads : Reads)
  | list (items : Option (List VirtualMachineOperation)) (now : Nat)
  | cleanup (served : Call → Bool)
  | read (current : Option (Option VirtualMachineOperation))
  | patch (answer : Answer) (now : Nat)
  | execute (reads : Reads)
  | update (answer : Answer)

inductive Event where
  | create (vmop : VirtualMachineOperation)
  | delete (name : String)
  | removed (name : String)
  | touched (name : String)
  | machine (name : String) (c : Cluster)
  | migrationGone (name : String)
  | pass (name : String) (move : Move)

namespace World

variable (w : World) (name : String) (pass : Pass)

def stored (t : Store VirtualMachineOperation) : World := { w with store := t, seen := w.seen ++ t.objects }

def setPass (pass : Option Pass) : World :=
  { w with passes := Function.update w.passes name pass }

def setMachine (c : Cluster) : World :=
  { w with machines := Function.update w.machines name c }

def setMigration (present : Bool) : World :=
  { w with migrations := if present then name :: w.migrations else w.migrations.filter (· ≠ name) }

def dropMigration (deleted : Bool) : World := if deleted then w.setMigration name false else w

def fetch (copy : VirtualMachineOperation) : Option World :=
  if (w.passes name).isSome ∨ copy ∉ w.seen ∨ copy.name ≠ name then none
  else
    some (w.setPass name (some
      { base := copy, status := copy.status, stage := .fetched, cancelled := [], sent := none }))

def handle (reads : Reads) : Option World :=
  match pass.stage with
  | .fetched =>
    match pass.base.handle (name ∈ w.migrations) reads (w.machines pass.base.virtualMachine) with
    | .finish status deleted =>
      some ((w.dropMigration name deleted).setPass name (some { pass with status, stage := .updating }))
    | .consider status vm => some (w.setPass name (some { pass with status, stage := .considering vm }))
  | _ => none

def list (items : Option (List VirtualMachineOperation)) (now : Nat) : Option World :=
  match pass.stage with
  | .considering vm =>
    match items with
    | none => some (w.setPass name (some { pass with stage := .updating }))
    | some items =>
      if ¬∀ item ∈ items, item ∈ w.seen then none
      else
        let blockers := findOlderActiveVMOPs items pass.base
        if blockers.all fun old => canSupersede old pass.base then
          some (w.setPass name (some { pass with stage := .superseding vm blockers }))
        else
          some (w.setPass name (some
            { pass with status := setNotReadyToBeExecuted pass.status now, stage := .updating }))
  | _ => none

def cleanup (served : Call → Bool) : Option World :=
  match pass.stage with
  | .superseding vm (old :: rest) =>
    let (c, deleted, done) := cleanupSupersededOperation old.type served (w.machines old.virtualMachine)
    let w := (w.setMachine old.virtualMachine c).dropMigration old.name deleted
    some (w.setPass name (some { pass with stage := if done then .cleaned vm old rest else .updating }))
  | _ => none

def read (current : Option (Option VirtualMachineOperation)) : Option World :=
  match pass.stage with
  | .cleaned vm old rest =>
    match current with
    | none => some (w.setPass name (some { pass with stage := .updating }))
    | some none => some (w.setPass name (some { pass with stage := .superseding vm rest }))
    | some (some copy) =>
      if copy ∉ w.seen ∨ copy.name ≠ old.name then none
      else if copy.isFinished then some (w.setPass name (some { pass with stage := .superseding vm rest }))
      else some (w.setPass name (some { pass with stage := .marking vm copy rest }))
  | _ => none

/-- The patch is not bound to the version of the copy. It is made anew after a conflict. -/
def patch (answer : Answer) (now : Nat) : Option World :=
  match pass.stage with
  | .marking vm copy rest =>
    match answer, w.store.get? copy.name with
    | .ok, some current =>
      some ((w.stored (w.store.write (mergePatch current copy now))).setPass name (some
        { pass with stage := .superseding vm rest, cancelled := copy.name :: pass.cancelled }))
    | .lost, some current =>
      some ((w.stored (w.store.write (mergePatch current copy now))).setPass name (some
        { pass with stage := .updating, cancelled := copy.name :: pass.cancelled }))
    | .conflict, _ => some (w.setPass name (some { pass with stage := .cleaned vm copy rest }))
    | _, _ => some (w.setPass name (some { pass with stage := .updating }))
  | _ => none

def execute (reads : Reads) : Option World :=
  match pass.stage with
  | .superseding vm [] =>
    let done := pass.base.execute pass.status vm reads (w.machines pass.base.virtualMachine)
    let w := w.setMachine pass.base.virtualMachine done.cluster
    let w := if done.created then w.setMigration name true else w
    let w := { w with signals := (done.sent.toList.map fun sent => (pass.base.uid, sent)) ++ w.signals }
    some (w.setPass name (some { pass with status := done.status, stage := .updating, sent := done.sent }))
  | _ => none

/-- The status is written only if the pass has changed it, and only over the version that the pass has fetched. -/
def update (answer : Answer) : Option World :=
  match pass.stage with
  | .updating =>
    if pass.status = pass.base.status then some (w.setPass name none)
    else
      some ((w.stored (w.store.request answer (w.store.update { pass.base with status := pass.status })).2).setPass
        name none)
  | _ => none

def move (m : Move) : Option World :=
  match w.passes name, m with
  | _, .fetch copy => w.fetch name copy
  | some pass, .handle reads => w.handle name pass reads
  | some pass, .list items now => w.list name pass items now
  | some pass, .cleanup served => w.cleanup name pass served
  | some pass, .read current => w.read name pass current
  | some pass, .patch answer now => w.patch name pass answer now
  | some pass, .execute reads => w.execute name pass reads
  | some pass, .update answer => w.update name pass answer
  | none, _ => none

/-- A new operation comes with a name of its own, not before any other, and after the admission webhook. -/
def create (vmop : VirtualMachineOperation) : Option World :=
  if vmop.status = .new ∧ vmop.deleting = false ∧ (∀ other ∈ w.seen, other.uid ≠ vmop.uid) ∧
      (∀ other ∈ w.seen, other.creationTimestamp ≤ vmop.creationTimestamp) ∧
      validateCreate w.store.objects vmop then
    match w.store.create vmop with
    | .ok t => some (w.stored t)
    | .error _ => none
  else none

def amend (change : VirtualMachineOperation → VirtualMachineOperation) : Option World :=
  (w.store.get? name).map fun vmop => w.stored (w.store.write (change vmop))

def step : Event → Option World
  | .create vmop => w.create vmop
  | .delete name => w.amend name fun vmop => { vmop with deleting := true }
  | .removed name =>
    if (w.store.get? name).any (·.deleting) then some { w with store := w.store.remove name } else none
  | .touched name => w.amend name id
  | .machine name c => some (w.setMachine name c)
  | .migrationGone name => some (w.setMigration name false)
  | .pass name m => w.move name m

end World

inductive Advance (w : World) (name : String) (pass : Pass) : Move → Pass → Prop where
  | finished (stage : pass.stage = .fetched)
      (handled : pass.base.handle (name ∈ w.migrations) reads (w.machines pass.base.virtualMachine) =
        .finish status deleted) : Advance w name pass (.handle reads) { pass with status, stage := .updating }
  | considered (stage : pass.stage = .fetched)
      (handled : pass.base.handle (name ∈ w.migrations) reads (w.machines pass.base.virtualMachine) =
        .consider status vm) : Advance w name pass (.handle reads) { pass with status, stage := .considering vm }
  | listFailed (stage : pass.stage = .considering vm) :
      Advance w name pass (.list none now) { pass with stage := .updating }
  | refused (stage : pass.stage = .considering vm) : Advance w name pass (.list (some items) now)
        { pass with status := setNotReadyToBeExecuted pass.status now, stage := .updating }
  | listed (stage : pass.stage = .considering vm) (known : ∀ item ∈ items, item ∈ w.seen)
      (can : ∀ old ∈ findOlderActiveVMOPs items pass.base, canSupersede old pass.base) :
      Advance w name pass (.list (some items) now)
        { pass with stage := .superseding vm (findOlderActiveVMOPs items pass.base) }
  | cleanupFailed (stage : pass.stage = .superseding vm (old :: rest))
      (failed : (cleanupSupersededOperation old.type served (w.machines old.virtualMachine)).2.2 = false) :
      Advance w name pass (.cleanup served) { pass with stage := .updating }
  | cleaned (stage : pass.stage = .superseding vm (old :: rest)) :
      Advance w name pass (.cleanup served) { pass with stage := .cleaned vm old rest }
  | readFailed
      (stage : pass.stage = .cleaned vm old rest) : Advance w name pass (.read none) { pass with stage := .updating }
  | skipped (stage : pass.stage = .cleaned vm old rest)
      (idle : ∀ copy ∈ current, copy ∈ w.seen ∧ copy.name = old.name ∧ copy.isFinished) :
      Advance w name pass (.read (some current)) { pass with stage := .superseding vm rest }
  | reading (stage : pass.stage = .cleaned vm old rest) (known : copy ∈ w.seen) (same : copy.name = old.name)
      (unfinished : copy.isFinished = false) :
      Advance w name pass (.read (some (some copy))) { pass with stage := .marking vm copy rest }
  | again (stage : pass.stage = .marking vm copy rest) :
      Advance w name pass (.patch .conflict now) { pass with stage := .cleaned vm copy rest }
  | patchFailed (stage : pass.stage = .marking vm copy rest) (final : answer ≠ .conflict)
      (failed : answer = .ok → w.store.get? copy.name = none) :
      Advance w name pass (.patch answer now) { pass with stage := .updating }

inductive Stepped (w : World) : Event → World → Prop where
  | created (new : vmop.status = .new)
      (staying : vmop.deleting = false) (uid : ∀ other ∈ w.seen, other.uid ≠ vmop.uid)
      (last : ∀ other ∈ w.seen, other.creationTimestamp ≤ vmop.creationTimestamp)
      (created : w.store.create vmop = .ok t) : Stepped w (.create vmop) (w.stored t)
  | deleted (found : w.store.get? name = some vmop) :
      Stepped w (.delete name) (w.stored (w.store.write { vmop with deleting := true }))
  | removed : Stepped w (.removed name) { w with store := w.store.remove name }
  | touched (found : w.store.get? name = some vmop) : Stepped w (.touched name) (w.stored (w.store.write vmop))
  | machine : Stepped w (.machine name c) (w.setMachine name c)
  | migrationGone : Stepped w (.migrationGone name) (w.setMigration name false)
  | fetched (free : w.passes name = none) (known : copy ∈ w.seen) (same : copy.name = name) :
      Stepped w (.pass name (.fetch copy)) (w.setPass name (some
        { base := copy, status := copy.status, stage := .fetched, cancelled := [], sent := none }))
  | advanced (running : w.passes name = some p) (advance : Advance w name p m next)
      (fewer : migrations ⊆ w.migrations) :
      Stepped w (.pass name m) ({ w with machines, migrations }.setPass name (some next))
  | marked
      (running : w.passes name = some p) (marking : p.stage = .marking vm copy rest)
      (found : w.store.get? copy.name = some current)
      (next : answer = .ok ∧ stage = .superseding vm rest ∨ answer = .lost ∧ stage = .updating) :
      Stepped w (.pass name (.patch answer now))
        ((w.stored (w.store.write (mergePatch current copy now))).setPass name (some
          { p with stage, cancelled := copy.name :: p.cancelled }))
  | executed (running : w.passes name = some p) (ready : p.stage = .superseding vm [])
      (outcome : p.base.execute p.status vm reads (w.machines p.base.virtualMachine) = done)
      (grown : ∀ other ∈ migrations, other ∈ w.migrations ∨ other = name) : Stepped w (.pass name (.execute reads))
        ({ w with machines, migrations
                  signals := (done.sent.toList.map fun sent => (p.base.uid, sent)) ++ w.signals }.setPass name
          (some { p with status := done.status, stage := .updating, sent := done.sent }))
  | kept (running : w.passes name = some p)
      (updating : p.stage = .updating) (same : p.status = p.base.status) :
      Stepped w (.pass name (.update answer)) (w.setPass name none)
  | updated (running : w.passes name = some p)
      (updating : p.stage = .updating) (changed : p.status ≠ p.base.status) :
      Stepped w (.pass name (.update answer))
        ((w.stored (w.store.request answer (w.store.update { p.base with status := p.status })).2).setPass
          name none)

namespace World

theorem dropMigration_eq (w : World) (name : String) (deleted : Bool) :
    ∃ migrations ⊆ w.migrations, w.dropMigration name deleted = { w with migrations } := by
  unfold dropMigration
  split
  · exact ⟨_, List.filter_subset_self _, rfl⟩
  · exact ⟨w.migrations, refl _, rfl⟩

variable {w t : World} {name : String} {pass : Pass}

section

variable (running : w.passes name = some pass)
include running

theorem handle_ok {reads : Reads} (moved : w.handle name pass reads = some t) :
    Stepped w (.pass name (.handle reads)) t := by
  unfold handle at moved
  split at moved
  · rename_i stage
    split at moved
    · rename_i deleted handled
      cases moved
      obtain ⟨_, fewer, same⟩ := w.dropMigration_eq name deleted
      rw [same]
      exact .advanced running (.finished stage handled) fewer
    rename_i handled
    cases moved
    exact .advanced running (.considered stage handled) (refl _)
  · cases moved

theorem list_ok {items : Option (List VirtualMachineOperation)} {now : Nat}
    (moved : w.list name pass items now = some t) : Stepped w (.pass name (.list items now)) t := by
  unfold list at moved
  split at moved
  · rename_i stage
    split at moved
    · cases moved
      exact .advanced running (.listFailed stage) (refl _)
    split at moved
    · cases moved
    rename_i known
    dsimp only at moved
    split at moved
    · rename_i can
      cases moved
      exact .advanced running (.listed stage (not_not.mp known) (List.all_eq_true.mp can)) (refl _)
    cases moved
    exact .advanced running (.refused stage) (refl _)
  · cases moved

theorem cleanup_ok {served : Call → Bool} (moved : w.cleanup name pass served = some t) :
    Stepped w (.pass name (.cleanup served)) t := by
  unfold cleanup at moved
  split at moved
  · rename_i old _ stage
    dsimp only at moved
    cases moved
    obtain ⟨_, fewer, same⟩ := (w.setMachine old.virtualMachine
      (cleanupSupersededOperation old.type served (w.machines old.virtualMachine)).1).dropMigration_eq old.name
      (cleanupSupersededOperation old.type served (w.machines old.virtualMachine)).2.1
    rw [same]
    split
    · exact .advanced running (.cleaned stage) fewer
    rename_i failed
    exact .advanced running (.cleanupFailed stage (Bool.eq_false_of_not_eq_true failed)) fewer
  · cases moved

theorem read_ok {current : Option (Option VirtualMachineOperation)} (moved : w.read name pass current = some t) :
    Stepped w (.pass name (.read current)) t := by
  unfold read at moved
  split at moved
  · rename_i stage
    split at moved
    · cases moved
      exact .advanced running (.readFailed stage) (refl _)
    · cases moved
      exact .advanced running (.skipped stage fun _ => nofun)
        (refl _)
    split at moved
    · cases moved
    rename_i valid
    obtain ⟨known, same⟩ := not_or.mp valid
    split at moved
    · rename_i finished
      cases moved
      refine .advanced running (.skipped stage fun _ there => ?_) (refl _)
      cases there
      exact ⟨not_not.mp known, not_not.mp same, finished⟩
    rename_i unfinished
    cases moved
    exact .advanced running (.reading stage (not_not.mp known) (not_not.mp same)
      (Bool.eq_false_of_not_eq_true unfinished)) (refl _)
  · cases moved

theorem patch_ok {answer : Answer} {now : Nat} (moved : w.patch name pass answer now = some t) :
    Stepped w (.pass name (.patch answer now)) t := by
  unfold patch at moved
  split at moved
  · rename_i stage
    split at moved
    · rename_i found
      cases moved
      exact .marked running stage found (.inl ⟨rfl, rfl⟩)
    · rename_i found
      cases moved
      exact .marked running stage found (.inr ⟨rfl, rfl⟩)
    · cases moved
      exact .advanced running (.again stage) (refl _)
    rename_i final notOk _
    cases moved
    refine .advanced running (.patchFailed stage final fun ok => ?_) (refl _)
    by_contra there
    obtain ⟨current, found⟩ := ne_none_iff_exists'.mp there
    exact notOk current ok found
  · cases moved

theorem execute_ok {reads : Reads} (moved : w.execute name pass reads = some t) :
    Stepped w (.pass name (.execute reads)) t := by
  unfold execute at moved
  split at moved
  · rename_i ready
    cases moved
    split
    · refine .executed running ready rfl fun _ there => ?_
      exact (List.mem_cons.mp there).symm
    · exact .executed running ready rfl fun other there => .inl there
  · cases moved

theorem update_ok {answer : Answer} (moved : w.update name pass answer = some t) :
    Stepped w (.pass name (.update answer)) t := by
  unfold update at moved
  split at moved
  · rename_i updating
    split at moved
    · rename_i same
      cases moved
      exact .kept running updating same
    rename_i changed
    cases moved
    exact .updated running updating changed
  · cases moved

end

theorem move_ok {m : Move} (moved : w.move name m = some t) : Stepped w (.pass name m) t := by
  unfold move at moved
  split at moved
  · unfold fetch at moved
    split at moved
    · cases moved
    rename_i valid
    obtain ⟨free, valid⟩ := not_or.mp valid
    obtain ⟨known, same⟩ := not_or.mp valid
    cases moved
    exact .fetched (not_isSome_iff_eq_none.mp free) (not_not.mp known) (not_not.mp same)
  · exact handle_ok ‹_› moved
  · exact list_ok ‹_› moved
  · exact cleanup_ok ‹_› moved
  · exact read_ok ‹_› moved
  · exact patch_ok ‹_› moved
  · exact execute_ok ‹_› moved
  · exact update_ok ‹_› moved
  · cases moved

theorem step_ok {event : Event} (moved : w.step event = some t) : Stepped w event t := by
  cases event with
  | create =>
    simp only [step, create] at moved
    split at moved
    · rename_i valid
      obtain ⟨new, staying, uid, last, -⟩ := valid
      split at moved
      · rename_i created
        cases moved
        exact .created new staying uid last created
      · cases moved
    · cases moved
  | delete =>
    obtain ⟨_, found, rfl⟩ := map_eq_some_iff.mp moved
    exact .deleted found
  | removed =>
    obtain ⟨-, ⟨⟩⟩ := ite_none_right_eq_some.mp moved
    exact .removed
  | touched =>
    obtain ⟨_, found, rfl⟩ := map_eq_some_iff.mp moved
    exact .touched found
  | machine =>
    cases moved
    exact .machine
  | migrationGone =>
    cases moved
    exact .migrationGone
  | pass => exact move_ok moved

end World

end Virtualization.Operation
