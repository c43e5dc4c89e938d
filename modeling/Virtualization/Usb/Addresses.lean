import Mathlib.Logic.Function.Basic
import Virtualization.Library.Run

namespace Virtualization.Usb.Addresses

open Library List Function

structure Net where
  splitHostPort : String → Option (String × String)
  atoi : String → Option Int
  parseIP : String → Bool

def validateUSBIPAddress (net : Net) (addr : String) : Bool :=
  addr ≠ "" && (net.splitHostPort addr).any fun (host, portStr) =>
    (net.atoi portStr).any fun port => 1 ≤ port && port ≤ 65535 && net.parseIP host

structure Node where
  address : Option String
  others : String
deriving DecidableEq

inductive Notification where
  | add (name : String)
  | update (name : String) (old new : Node)
  | delete (name : String)
deriving DecidableEq

structure World where
  nodeIndexer : String → Option Node
  notifications : List Notification
  queue : List String
  syncing : String → Option (Option Node)
  nodeAddresses : String → Option String

def World.start : World where
  nodeIndexer _ := none
  notifications := []
  queue := []
  syncing _ := none
  nodeAddresses _ := none

inductive Event where
  | change (name : String) (node : Option Node)
  | notify (notification : Notification)
  | attachInfo
  | get (key : String)
  | sync (key : String) (failed : Bool)

def enqueued (nodeName : String) : Notification → List String
  | .add name | .delete name => if nodeName = name then [name] else []
  | .update name old new => if old.address ≠ new.address ∨ old.others ≠ new.others then [name] else []

def notification? (name : String) : Option Node → Option Node → Option Notification
  | none, none => none
  | none, some _ => some (.add name)
  | some old, some new => some (.update name old new)
  | some _, none => some (.delete name)

def syncAddresses (net : Net) (nodeName usbipdAddr key : String) (node : Option Node) : Option String :=
  node.bind fun node =>
    if key = nodeName then some usbipdAddr else node.address.filter (validateUSBIPAddress net)

section Run

variable (net : Net) (nodeName usbipdAddr : String)

def step (w : World) : Event → Option World
  | .change name node => some
      { w with
        nodeIndexer := update w.nodeIndexer name node
        notifications := w.notifications ++ (notification? name (w.nodeIndexer name) node).toList }
  | .notify notification =>
    if notification ∈ w.notifications then some
      { w with
        notifications := w.notifications.erase notification
        queue := w.queue ++ enqueued nodeName notification }
    else none
  | .attachInfo => some { w with queue := w.queue ++ [nodeName] }
  | .get key =>
    if key ∈ w.queue ∧ w.syncing key = none then some
      { w with
        queue := w.queue.filter (· ≠ key)
        syncing := update w.syncing key (some (w.nodeIndexer key)) }
    else none
  | .sync key failed =>
    match w.syncing key with
    | none => none
    | some node => some
        { w with
          syncing := update w.syncing key none
          nodeAddresses := update w.nodeAddresses key (syncAddresses net nodeName usbipdAddr key node)
          queue := if failed ∧ key = nodeName then w.queue ++ [key] else w.queue }

/-- A node of another name comes and goes without a valid address. -/
def addressed (w : World) : Event → Prop
  | .change name node => name = nodeName ∨ (w.nodeIndexer name).isSome = node.isSome ∨
      syncAddresses net nodeName usbipdAddr name (w.nodeIndexer name) = none ∧
        syncAddresses net nodeName usbipdAddr name node = none
  | _ => True

instance (w : World) (event : Event) : Decidable (addressed net nodeName usbipdAddr w event) := by
  cases event <;> unfold addressed <;> infer_instance

structure World.Idle (w : World) : Prop where
  notified : w.notifications = []
  empty : w.queue = []
  synced : ∀ key, w.syncing key = none

def World.Due (w : World) (key : String) : Prop :=
  key ∈ w.queue ∨ ∃ notification ∈ w.notifications, key ∈ enqueued nodeName notification

/-- The address of every other node is known, or about to be written, or its key is due. -/
def World.Follows (w : World) : Prop :=
  ∀ key, key ≠ nodeName → w.Due nodeName key ∨
    ((w.syncing key).elim (w.nodeAddresses key) (syncAddresses net nodeName usbipdAddr key) =
      syncAddresses net nodeName usbipdAddr key (w.nodeIndexer key))

end Run

variable {net : Net} {nodeName usbipdAddr key : String} {w t : World}

theorem World.Follows.step (w : World) (event : Event) (t : World) (follows : w.Follows net nodeName usbipdAddr)
    (lawful : addressed net nodeName usbipdAddr w event)
    (taken : Addresses.step net nodeName usbipdAddr w event = some t) : t.Follows net nodeName usbipdAddr := by
  intro key other
  have before := follows key other
  cases event with
  | change name node =>
    cases taken
    rcases before with due | known
    · exact .inl (due.imp_right fun ⟨notification, mem, enqueues⟩ => ⟨notification, mem_append_left _ mem, enqueues⟩)
    by_cases same : key = name
    · subst same
      by_cases enqueues : ∃ notification ∈ notification? key (w.nodeIndexer key) node,
          key ∈ enqueued nodeName notification
      · obtain ⟨notification, mem, enqueues⟩ := enqueues
        exact .inl (.inr ⟨notification, mem_append_right _ (Option.mem_toList.mpr mem), enqueues⟩)
      refine .inr (known.trans ?_)
      simp only [update_self]
      rcases lawful with own | present | ⟨before, after⟩
      · exact absurd own other
      · match w.nodeIndexer key, node, present, enqueues with
        | none, none, _, _ => rfl
        | some old, some new, _, ignored =>
          have kept : old.address = new.address := by
            by_contra changed
            exact ignored ⟨_, rfl, by simp [enqueued, changed]⟩
          simp [syncAddresses, kept]
      · exact before.trans after.symm
    refine .inr ?_
    simpa only [update_of_ne same] using known
  | notify notification =>
    simp only [Addresses.step] at taken
    split at taken <;> cases taken
    refine before.imp_left fun due => ?_
    rcases due with queued | ⟨earlier, mem, enqueues⟩
    · exact .inl (mem_append_left _ queued)
    by_cases same : earlier = notification
    · exact .inl (mem_append_right _ (same ▸ enqueues))
    · exact .inr ⟨earlier, (mem_erase_of_ne same).mpr mem, enqueues⟩
  | attachInfo =>
    cases taken
    exact before.imp_left (.imp_left (mem_append_left _))
  | get name =>
    simp only [Addresses.step] at taken
    split at taken <;> cases taken
    by_cases same : key = name
    · subst same
      refine .inr ?_
      simp
    refine before.imp (.imp_left fun queued => mem_filter.mpr ⟨queued, by simpa using same⟩) fun known => ?_
    simpa only [update_of_ne same] using known
  | sync name =>
    simp only [Addresses.step] at taken
    split at taken <;> cases taken
    rename_i reading
    refine before.imp (.imp_left fun queued => ?_) fun known => ?_
    · split
      · exact mem_append_left _ queued
      · exact queued
    by_cases same : key = name
    · subst same
      simpa [reading] using known
    · simpa only [update_of_ne same] using known

/-- When there is nothing left to do, the table has the valid addresses of the other nodes that exist, and no others. -/
theorem addresses_known {events : List Event}
    (along : Along (step net nodeName usbipdAddr) (addressed net nodeName usbipdAddr) .start events)
    (reached : run (step net nodeName usbipdAddr) .start events = some w) (idle : w.Idle) (other : key ≠ nodeName) :
    w.nodeAddresses key = (w.nodeIndexer key).bind fun node => node.address.filter (validateUSBIPAddress net) := by
  have start : World.Follows net nodeName usbipdAddr .start := fun _ _ => .inr rfl
  have follows := run_invariant World.Follows.step start along reached
  rcases follows key other with (queued | ⟨notification, mem, -⟩) | known
  · rw [idle.empty] at queued
    cases queued
  · rw [idle.notified] at mem
    cases mem
  · simpa [idle.synced key, syncAddresses, other] using known

/-- What the functions of `net` and `strconv` answer about the one address used here. -/
def exporterNet : Net where
  splitHostPort addr := if addr = "10.0.0.2:3240" then some ("10.0.0.2", "3240") else none
  atoi portStr := if portStr = "3240" then some 3240 else none
  parseIP host := host = "10.0.0.2"

def annotated : Node := { address := some "10.0.0.2:3240", others := "" }

def annotating : List Event :=
  [.change "node-2" (some ⟨none, ""⟩), .notify (.add "node-2"), .change "node-2" (some annotated),
    .notify (.update "node-2" ⟨none, ""⟩ annotated), .get "node-2", .sync "node-2" false]

theorem addresses_known_annotating : ∃ w, run (step exporterNet "node-1" "") .start annotating = some w ∧ w.Idle ∧
    w.nodeAddresses "node-2" = annotated.address := by
  have along : Along (step exporterNet "node-1" "") (addressed exporterNet "node-1" "") .start annotating := by
    decide +kernel
  refine ⟨_, rfl, ?idle, (addresses_known along rfl ?idle (by decide)).trans rfl⟩
  refine ⟨rfl, rfl, fun key => ?_⟩
  by_cases same : key = "node-2" <;> simp [World.start, update, same]

theorem added_node_unknown : ∃ w, run (step exporterNet "node-1" "") .start [.change "node-2" (some annotated),
      .notify (.add "node-2")] = some w ∧ w.Idle ∧ w.nodeIndexer "node-2" = some annotated ∧
      validateUSBIPAddress exporterNet "10.0.0.2:3240" = true ∧ w.nodeAddresses "node-2" = none := by
  refine ⟨_, rfl, ⟨rfl, rfl, fun _ => rfl⟩, rfl, rfl, rfl⟩

end Virtualization.Usb.Addresses
