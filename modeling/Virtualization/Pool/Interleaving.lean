import Virtualization.Library.Replica
import Virtualization.Library.Run
import Virtualization.Pool.Sync

namespace Virtualization.Pool

open Library

inductive WatchEvent where
  | created (vm : VirtualMachine)
  | modified (vm : VirtualMachine)
  | deleted (vm : VirtualMachine)

def WatchEvent.vm : WatchEvent → VirtualMachine
  | .created vm | .modified vm | .deleted vm => vm

def WatchEvent.isCreated : WatchEvent → Bool
  | .created _ => true
  | _ => false

def WatchEvent.isDeleted : WatchEvent → Bool
  | .deleted _ => true
  | _ => false

def applyEvent (vms : List VirtualMachine) : WatchEvent → List VirtualMachine
  | .created vm => vms ++ [vm]
  | .modified vm => vms.map fun old => if old.uid = vm.uid then vm else old
  | .deleted vm => vms.filter (·.uid ≠ vm.uid)

inductive Pass where
  | idle
  | listed (members : List VirtualMachine)
  | decided (decision : Decision)
  | creating (remaining : Nat)
  | deleting (victims : List VirtualMachine)
deriving DecidableEq

/-- One pool key. `unobserved` holds the events that are in the cache but whose handler has not
    been called, `since` those the cache took after the running pass listed it, and `used` the
    UIDs the API server has ever assigned. -/
structure World where
  pool : VirtualMachinePool
  store : Replica (List VirtualMachine) WatchEvent
  (unobserved since : List WatchEvent)
  exp : Expectations
  now : Int
  used : List UID
  pass : Pass

inductive Deletion where
  | marked (timestamp : Int)
  | removed
deriving DecidableEq

/-- `createFails` and `deleteFails` are requests that the API server refuses: they have no effect there, and the
    controller lowers what it awaits at once. A request that errs after it took effect is not among the actions. -/
inductive Action where
  | list (members : List VirtualMachine)
  | forget
  | check
  | expect
  | create (uid : UID) (name : String) (creationTimestamp : Int)
  | createFails
  | delete (deletion : Deletion)
  | deleteFails
  | finish
  | deliver
  | observe
  | tick (duration : Nat)
  | userDelete (name : String) (deletion : Deletion)
  | finalized (uid : UID)
  | deletePool (timestamp : Int)
deriving DecidableEq

section

variable (w : World) (event : WatchEvent) (vm : VirtualMachine) (deletion : Deletion)

def World.write : World :=
  { w with store := w.store.write applyEvent event }

def World.inFlight : List WatchEvent := w.unobserved ++ w.store.log

@[simp] theorem World.write_pool : (w.write event).pool = w.pool := rfl
@[simp] theorem World.write_exp (w : World) (event : WatchEvent) : (w.write event).exp = w.exp := rfl
@[simp] theorem World.write_pass (w : World) (event : WatchEvent) : (w.write event).pass = w.pass := rfl

open World

theorem World.write_inFlight : (w.write event).inFlight = w.inFlight ++ [event] := by
  simp [inFlight, write, Replica.write]

def World.deleteObject : World :=
  match deletion with
  | .removed => w.write (.deleted vm)
  | .marked timestamp =>
    if vm.deletionTimestamp.isSome then w else w.write (.modified { vm with deletionTimestamp := some timestamp })

@[simp] theorem World.deleteObject_pool : (w.deleteObject vm deletion).pool = w.pool := by
  unfold deleteObject
  split <;> [rfl; split <;> rfl]

@[simp] theorem World.deleteObject_exp : (w.deleteObject vm deletion).exp = w.exp := by
  unfold deleteObject
  split <;> [rfl; split <;> rfl]

@[simp] theorem World.deleteObject_pass : (w.deleteObject vm deletion).pass = w.pass := by
  unfold deleteObject
  split <;> [rfl; split <;> rfl]

def World.find (name : String) : Option VirtualMachine :=
  w.store.source.find? fun vm => vm.name = name

def memberEventHandler (exp : Expectations) (event : WatchEvent) : Expectations :=
  match ownerKey event.vm with
  | none => exp
  | some key =>
    match event with
    | .created _ => exp.creationObserved key
    | .modified _ => exp
    | .deleted vm => exp.deletionObserved key vm.uid

def step (action : Action) : Option World :=
  match action, w.pass with
  | .list members, .idle =>
    if w.pool.deletionTimestamp.isNone ∧ members.Perm (listMembers w.pool w.store.copy) then
      some { w with pass := .listed members, since := [] }
    else none
  | .forget, .idle =>
    if w.pool.deletionTimestamp.isSome then some { w with exp := w.exp.forget w.pool.key } else none
  | .check, .listed members =>
    if w.exp.satisfied w.now w.pool.key then some { w with pass := .decided (decision w.pool members) }
    else some { w with pass := .idle }
  | .expect, .decided .keep => some { w with pass := .idle }
  | .expect, .decided (.scaleUp n) =>
    some { w with exp := w.exp.expectCreations w.now w.pool.key n, pass := .creating n.toNat }
  | .expect, .decided (.scaleDown victims) =>
    some { w with
      exp := w.exp.expectDeletions w.now w.pool.key (victims.map VirtualMachine.uid)
      pass := .deleting victims }
  | .create uid name creationTimestamp, .creating (remaining + 1) =>
    if uid ∉ w.used ∧ name ∉ w.store.source.map VirtualMachine.name then
      some { w.write (.created (newMember w.pool uid name creationTimestamp)) with
        used := uid :: w.used, pass := .creating remaining }
    else none
  | .createFails, .creating (remaining + 1) =>
    some { w with exp := w.exp.creationObserved w.pool.key, pass := .creating remaining }
  | .delete deletion, .deleting (victim :: victims) =>
    match w.find victim.name with
    | none =>
      some { w with exp := w.exp.deletionObserved w.pool.key victim.uid, pass := .deleting victims }
    | some vm => some { w.deleteObject vm deletion with pass := .deleting victims }
  | .deleteFails, .deleting (victim :: victims) =>
    some { w with exp := w.exp.deletionObserved w.pool.key victim.uid, pass := .deleting victims }
  | .finish, .creating 0 => some { w with pass := .idle }
  | .finish, .deleting [] => some { w with pass := .idle }
  | .deliver, _ =>
    match w.store.deliver applyEvent with
    | none => none
    | some (event, store) =>
      some { w with store, unobserved := w.unobserved ++ [event], since := w.since ++ [event] }
  | .observe, _ =>
    match w.unobserved with
    | [] => none
    | event :: rest => some { w with exp := memberEventHandler w.exp event, unobserved := rest }
  | .tick duration, _ => some { w with now := w.now + duration }
  | .userDelete name deletion, _ =>
    match w.find name with
    | none => none
    | some vm => some (w.deleteObject vm deletion)
  | .finalized uid, _ =>
    match w.store.source.find? fun vm => vm.uid = uid ∧ vm.deletionTimestamp.isSome with
    | none => none
    | some vm => some (w.write (.deleted vm))
  | .deletePool timestamp, _ =>
    if w.pool.deletionTimestamp.isNone then
      some { w with pool.deletionTimestamp := some timestamp }
    else none
  | _, _ => none

structure World.Initial (w : World) : Prop where
  tracker : w.exp.items w.pool.key = none
  synced : w.store = Replica.synced w.store.source
  observed : w.unobserved = []
  idle : w.pass = .idle
  owned : ∀ vm ∈ w.store.source, Owned w.pool vm
  names : (w.store.source.map VirtualMachine.name).Nodup
  uids : (w.store.source.map VirtualMachine.uid).Nodup
  assigned : ∀ vm ∈ w.store.source, vm.uid ∈ w.used

def workers : VirtualMachinePool :=
  { uid := 100, ns := "default", name := "workers", replicas := some 1, scaleDownPolicy := .newestFirst,
    deletionTimestamp := none }

def workersAt (vms : List VirtualMachine) : World :=
  { pool := workers, store := .synced vms, unobserved := [], since := [], exp := .newWithTTL 300, now := 0,
    used := vms.map VirtualMachine.uid, pass := .idle }

open VirtualMachine

theorem workersAt_initial {vms : List VirtualMachine} (owned : ∀ vm ∈ vms, Owned workers vm)
    (names : (vms.map name).Nodup) (uids : (vms.map uid).Nodup) :
    (workersAt vms).Initial :=
  ⟨rfl, rfl, rfl, rfl, owned, names, uids, fun _ member => List.mem_map_of_mem member⟩

def NoExpiry (w : World) (action : Action) : Prop :=
  action = .check → ∀ item ∈ w.exp.items w.pool.key, w.exp.expired w.now item = false
deriving Decidable

end

inductive Transition (w : World) : Action → World → Prop
  | list (idle : w.pass = .idle) (present : w.pool.deletionTimestamp = none)
      (same : members.Perm (listMembers w.pool w.store.copy)) :
      Transition w (.list members) { w with pass := .listed members, since := [] }
  | forget (idle : w.pass = .idle) (terminating : w.pool.deletionTimestamp.isSome) :
      Transition w .forget { w with exp := w.exp.forget w.pool.key }
  | allowed (listed : w.pass = .listed members)
      (answered : w.exp.satisfied w.now w.pool.key) :
      Transition w .check { w with pass := .decided (decision w.pool members) }
  | refused (listed : w.pass = .listed members) :
      Transition w .check { w with pass := .idle }
  | keep (decided : w.pass = .decided .keep) : Transition w .expect { w with pass := .idle }
  | expectCreations (decided : w.pass = .decided (.scaleUp n)) :
      Transition w .expect
        { w with exp := w.exp.expectCreations w.now w.pool.key n, pass := .creating n.toNat }
  | expectDeletions (decided : w.pass = .decided (.scaleDown victims)) :
      Transition w .expect
        { w with
          exp := w.exp.expectDeletions w.now w.pool.key (victims.map VirtualMachine.uid)
          pass := .deleting victims }
  | create
      (creating : w.pass = .creating (remaining + 1)) (fresh : uid ∉ w.used)
      (free : name ∉ w.store.source.map VirtualMachine.name) :
      Transition w (.create uid name creationTimestamp)
        { w.write (.created (newMember w.pool uid name creationTimestamp)) with
          used := uid :: w.used, pass := .creating remaining }
  | createFails (creating : w.pass = .creating (remaining + 1)) :
      Transition w .createFails
        { w with exp := w.exp.creationObserved w.pool.key, pass := .creating remaining }
  | delete
      (deleting : w.pass = .deleting (victim :: victims)) (found : w.find victim.name = some vm) :
      Transition w (.delete deletion) { w.deleteObject vm deletion with pass := .deleting victims }
  | deleteGone
      (deleting : w.pass = .deleting (victim :: victims)) (gone : w.find victim.name = none) :
      Transition w (.delete deletion)
        { w with exp := w.exp.deletionObserved w.pool.key victim.uid, pass := .deleting victims }
  | deleteFails
      (deleting : w.pass = .deleting (victim :: victims)) :
      Transition w .deleteFails
        { w with exp := w.exp.deletionObserved w.pool.key victim.uid, pass := .deleting victims }
  | finish (done : w.pass = .creating 0 ∨ w.pass = .deleting []) :
      Transition w .finish { w with pass := .idle }
  | deliver
      (delivered : w.store.deliver applyEvent = some (event, store)) :
      Transition w .deliver
        { w with store, unobserved := w.unobserved ++ [event], since := w.since ++ [event] }
  | observe (pending : w.unobserved = event :: rest) :
      Transition w .observe { w with exp := memberEventHandler w.exp event, unobserved := rest }
  | tick (duration : Nat) : Transition w (.tick duration) { w with now := w.now + duration }
  | userDelete (found : w.find name = some vm) :
      Transition w (.userDelete name deletion) (w.deleteObject vm deletion)
  | finalized (member : vm ∈ w.store.source)
      (terminating : vm.deletionTimestamp.isSome) : Transition w (.finalized uid) (w.write (.deleted vm))
  | deletePool (timestamp : Int) :
      Transition w (.deletePool timestamp)
        { w with pool.deletionTimestamp := some timestamp }

open VirtualMachine

theorem deleteObject_cases (w : World) (vm : VirtualMachine) (deletion : Deletion) :
    (vm.live = false ∧ w.deleteObject vm deletion = w) ∨ w.deleteObject vm deletion = w.write (.deleted vm) ∨
      ∃ timestamp, vm.live ∧
        w.deleteObject vm deletion = w.write (.modified { vm with deletionTimestamp := some timestamp }) := by
  unfold World.deleteObject
  split
  · exact .inr (.inl rfl)
  rename_i timestamp
  cases stamp : vm.deletionTimestamp with
  | none => exact .inr (.inr ⟨timestamp, by simp [live, stamp], rfl⟩)
  | some => exact .inl ⟨by simp [live, stamp], rfl⟩

theorem find_some {w : World} {name : String} {vm : VirtualMachine} (found : w.find name = some vm) :
    vm ∈ w.store.source ∧ vm.name = name := by
  have named := List.find?_some found
  simp only [decide_eq_true_eq] at named
  exact ⟨List.mem_of_find?_eq_some found, named⟩

theorem step_transition {w t : World} {action : Action} (moved : step w action = some t) : Transition w action t := by
  unfold step at moved
  split at moved
  · rename_i idle
    split at moved <;> cases moved
    rename_i allowed
    exact .list idle (Option.isNone_iff_eq_none.mp allowed.1) allowed.2
  · rename_i idle
    split at moved <;> cases moved
    rename_i terminating
    exact .forget idle terminating
  · rename_i listed
    split at moved <;> cases moved
    · rename_i answered
      exact .allowed listed answered
    · exact .refused listed
  · cases moved
    rename_i decided
    exact .keep decided
  · cases moved
    rename_i decided
    exact .expectCreations decided
  · cases moved
    rename_i decided
    exact .expectDeletions decided
  · rename_i creating
    split at moved <;> cases moved
    rename_i accepted
    exact .create creating accepted.1 accepted.2
  · cases moved
    rename_i creating
    exact .createFails creating
  · rename_i deleting
    split at moved <;> cases moved
    · rename_i gone
      exact .deleteGone deleting gone
    rename_i found
    exact .delete deleting found
  · cases moved
    rename_i deleting
    exact .deleteFails deleting
  · cases moved
    rename_i done
    exact .finish (.inl done)
  · cases moved
    rename_i done
    exact .finish (.inr done)
  · split at moved <;> cases moved
    rename_i delivered
    exact .deliver delivered
  · split at moved <;> cases moved
    rename_i pending
    exact .observe pending
  · cases moved
    exact .tick _
  · split at moved <;> cases moved
    rename_i found
    exact .userDelete found
  · split at moved <;> cases moved
    rename_i found
    have terminating := List.find?_some found
    simp only [decide_eq_true_eq] at terminating
    exact .finalized (List.mem_of_find?_eq_some found) terminating.2
  · split at moved <;> cases moved
    exact .deletePool _
  · cases moved

end Virtualization.Pool
