import Virtualization.Library.Run
import Virtualization.Migration.SlotPatch

namespace Virtualization.Migration.Slots

open Virtualization.Core Library List MigrationSlotLimiter Reconcile

structure Settings where
  enabled : Bool
  limit : Nat

structure Process where
  (inbound sync : MigrationSlotLimiter)
deriving DecidableEq

namespace Process

def limiter (process : Process) : Kind → MigrationSlotLimiter
  | .inbound => process.inbound
  | .sync => process.sync

def setupController (settings : Kind → Settings) (vmis : List KVVMI) (migrations : List VMIM) : Process where
  inbound := (MigrationSlotLimiter.newMigrationSlotLimiter (settings .inbound).enabled (settings .inbound).limit
    .inbound).restore vmis migrations
  sync := (MigrationSlotLimiter.newMigrationSlotLimiter (settings .sync).enabled (settings .sync).limit
    .sync).restore vmis migrations

def releaseByKVVMI (process : Process) (name : NamespacedName) : Process where
  inbound := process.inbound.releaseByKVVMI name
  sync := process.sync.releaseByKVVMI name

end Process

def Handled.process (handled : Handled) : Process where
  inbound := handled.inbound
  sync := handled.sync

structure Outcome where
  changed : KVVMI
  failed : Bool

structure Pass where
  current : KVVMI
  outcome : Option Outcome

structure World where
  kvvmis : Store KVVMI
  migrations : List VMIM
  leader : Process
  standby : List Process
  pass : Option Pass

def patchKVVMI (answer : Answer) (current changed : KVVMI) (kvvmis : Store KVVMI) : Reply × Store KVVMI :=
  let ops := generateMigrationConfigurationPatch current changed
  if ops.isEmpty then (.done, kvvmis)
  else match answer, kvvmis.get? current.key with
    | .error, _ => (.failed, kvvmis)
    | .conflict, _ => (.refused .conflict, kvvmis)
    | _, none => (.refused .notFound, kvvmis)
    | answer, some stored =>
      match stored.patch ops with
      | none => (.failed, kvvmis)
      | some new => (if answer = .ok then .done else .failed, kvvmis.write new)

/-- What virt-controller may make of a migration state. It takes back neither the end of a migration nor its
    configuration, and a new migration has no configuration. -/
def MigrationState.succeeds (old : Option MigrationState) (new : MigrationState) : Bool :=
  match old with
  | none => new.migrationConfiguration = none
  | some old =>
    if old.migrationUID = new.migrationUID then
      new.migrationConfiguration = old.migrationConfiguration && (!old.completed || new.completed) &&
        (!old.failed || new.failed)
    else new.migrationConfiguration = none

/-- What clients other than the controller may write to a machine. The slot annotations are not theirs. -/
def KVVMI.succeeds (old new : KVVMI) : Bool :=
  (slotKeys.all fun name => new.annotation? name = old.annotation? name) &&
    new.migrationState.all (MigrationState.succeeds old.migrationState)

/-- The nodes that the handler finds for a migration are its nodes, as far as it finds any. -/
def shows (place : Owner → Kind → String) (targetPod : Option (Option String)) (kvvmi : KVVMI) : Bool :=
  (ownerKey kvvmi).all fun owner =>
    (resolveTargetNode targetPod kvvmi).all (fun node => node = "" || node = place owner .inbound) &&
      (resolveSourceNode kvvmi = "" || resolveSourceNode kvvmi = place owner .sync)

inductive Event where
  | start (name : NamespacedName)
  | handle (reads : Reads)
  | finish (answer : Answer)
  | write (kvvmi : KVVMI)
  | create (kvvmi : KVVMI)
  | delete (name : NamespacedName)
  | observe (migrations : List VMIM)
  | setup
  | lead (index : Nat)

section Step

-- Every migration has one target node and one source node.
variable (settings : Kind → Settings) (place : Owner → Kind → String)

def step (w : World) : Event → Option World
  | .start name =>
    match w.pass, w.kvvmis.get? name with
    | some _, _ => none
    | none, none => some { w with leader := w.leader.releaseByKVVMI name }
    | none, some kvvmi => some { w with pass := some { current := kvvmi, outcome := none } }
  | .handle reads =>
    match w.pass with
    | some { current, outcome := none } =>
      -- Reads that are served show what the API holds.
      if (reads.migrations.all (· = w.migrations)) ∧ shows place reads.targetPod current then
        let handled := handle reads w.leader.inbound w.leader.sync current
        some { w with
          leader := handled.process
          pass := some { current, outcome := some { changed := handled.kvvmi, failed := handled.failed } } }
      else none
    | _ => none
  | .finish answer =>
    match w.pass with
    | some { current, outcome := some outcome } =>
      some { w with kvvmis := (patchKVVMI answer current outcome.changed w.kvvmis).2, pass := none }
    | _ => none
  | .write kvvmi =>
    match w.kvvmis.get? kvvmi.key with
    | none => none
    | some old => if old.succeeds kvvmi then some { w with kvvmis := w.kvvmis.write kvvmi } else none
  | .create kvvmi =>
    if kvvmi.migrationState = none ∧ slotKeys.all fun name => kvvmi.annotation? name = none then
      match w.kvvmis.create kvvmi with
      | .ok kvvmis => some { w with kvvmis }
      | .error _ => none
    else none
  | .delete name => some { w with kvvmis := w.kvvmis.remove name }
  | .observe migrations =>
    -- A migration object that is final or gone does not come back.
    if migrations.all fun m => m.final || m ∈ w.migrations ||
        !(w.kvvmis.objects.any fun kvvmi => kvvmi.migrationState.any (·.migrationUID = m.uid)) then
      some { w with migrations }
    else none
  | .setup =>
    some { w with standby := w.standby ++ [.setupController settings w.kvvmis.objects w.migrations] }
  | .lead index =>
    (w.standby[index]?).map fun process =>
      { w with leader := process, standby := w.standby.eraseIdx index, pass := none }

inductive Moves (w : World) : Event → World → Prop where
  | absent (name : NamespacedName) (idle : w.pass = none) (gone : w.kvvmis.get? name = none) :
      Moves w (.start name) { w with leader := w.leader.releaseByKVVMI name }
  | reads (name : NamespacedName) (kvvmi : KVVMI) (idle : w.pass = none) (found : w.kvvmis.get? name = some kvvmi) :
      Moves w (.start name) { w with pass := some { current := kvvmi, outcome := none } }
  | handles (reads : Reads) (current : KVVMI) (under : w.pass = some { current, outcome := none })
      (fresh : ∀ migrations, reads.migrations = some migrations → migrations = w.migrations)
      (shown : shows place reads.targetPod current) :
      Moves w (.handle reads)
        { w with
          leader := (handle reads w.leader.inbound w.leader.sync current).process
          pass := some
            { current
              outcome := some
                { changed := (handle reads w.leader.inbound w.leader.sync current).kvvmi
                  failed := (handle reads w.leader.inbound w.leader.sync current).failed } } }
  | finishes (answer : Answer) (current : KVVMI) (outcome : Outcome)
      (under : w.pass = some { current, outcome := some outcome }) :
      Moves w (.finish answer)
        { w with kvvmis := (patchKVVMI answer current outcome.changed w.kvvmis).2, pass := none }
  | writes (kvvmi old : KVVMI) (found : w.kvvmis.get? kvvmi.key = some old) (lawful : old.succeeds kvvmi) :
      Moves w (.write kvvmi) { w with kvvmis := w.kvvmis.write kvvmi }
  | creates (kvvmi : KVVMI) (kvvmis : Store KVVMI) (new : kvvmi.migrationState = none)
      (bare : ∀ name ∈ slotKeys, kvvmi.annotation? name = none) (created : w.kvvmis.create kvvmi = .ok kvvmis) :
      Moves w (.create kvvmi) { w with kvvmis }
  | deletes (name : NamespacedName) : Moves w (.delete name) { w with kvvmis := w.kvvmis.remove name }
  | observes (migrations : List VMIM)
      (lawful : ∀ m ∈ migrations, m.final = false → m ∈ w.migrations ∨
        ∀ kvvmi ∈ w.kvvmis.objects, ∀ state, kvvmi.migrationState = some state → state.migrationUID ≠ m.uid) :
      Moves w (.observe migrations) { w with migrations }
  | setsUp : Moves w .setup
      { w with standby := w.standby ++ [.setupController settings w.kvvmis.objects w.migrations] }
  | leads (index : Nat) (process : Process) (waits : w.standby[index]? = some process) :
      Moves w (.lead index) { w with leader := process, standby := w.standby.eraseIdx index, pass := none }

variable {settings place} in
theorem step_moves {w t : World} {event : Event} (taken : step settings place w event = some t) :
    Moves settings place w event t := by
  cases event with
  | start name =>
    dsimp only [step] at taken
    split at taken
    · cases taken
    · rename_i idle gone
      cases taken
      exact .absent name idle gone
    rename_i kvvmi idle found
    cases taken
    exact .reads name kvvmi idle found
  | handle reads =>
    dsimp only [step] at taken
    split at taken
    · rename_i current under
      obtain ⟨served, ⟨⟩⟩ := Option.ite_none_right_eq_some.mp taken
      refine .handles reads current under (fun _ listed => ?_) served.2
      rw [listed] at served
      exact of_decide_eq_true served.1
    · cases taken
  | finish answer =>
    dsimp only [step] at taken
    split at taken
    · rename_i current outcome under
      cases taken
      exact .finishes answer current outcome under
    · cases taken
  | write kvvmi =>
    dsimp only [step] at taken
    split at taken
    · cases taken
    rename_i old found
    obtain ⟨lawful, ⟨⟩⟩ := Option.ite_none_right_eq_some.mp taken
    exact .writes kvvmi old found lawful
  | create kvvmi =>
    dsimp only [step] at taken
    split at taken
    · rename_i admissible
      split at taken
      · rename_i kvvmis created
        cases taken
        refine .creates kvvmi kvvmis admissible.1 (fun name member => ?_) created
        exact of_decide_eq_true (all_eq_true.mp admissible.2 name member)
      · cases taken
    · cases taken
  | delete name =>
    cases taken
    exact .deletes name
  | observe migrations =>
    obtain ⟨lawful, ⟨⟩⟩ := Option.ite_none_right_eq_some.mp taken
    refine .observes migrations fun m member live => ?_
    have allowed := all_eq_true.mp lawful m member
    rw [live, Bool.false_or, Bool.or_eq_true, decide_eq_true_eq] at allowed
    refine allowed.imp_right fun unknown kvvmi stored _ isState same => ?_
    rw [Bool.not_eq_true', any_eq_false] at unknown
    refine unknown kvvmi stored ?_
    rw [isState]
    exact decide_eq_true same
  | setup =>
    cases taken
    exact .setsUp
  | lead index =>
    obtain ⟨process, waits, rfl⟩ := Option.map_eq_some_iff.mp taken
    exact .leads index process waits

def World.initial : World where
  kvvmis := { revision := 0, objects := [], unique := nodup_nil, bounded := nofun }
  migrations := []
  leader := .setupController settings [] []
  standby := []
  pass := none

end Step

namespace MigrationSlotLimiter

variable {l : MigrationSlotLimiter} {kvvmi : KVVMI} {node : String} {slot : Slot}

theorem tryAcquire_cases (l : MigrationSlotLimiter) (kvvmi : KVVMI) (node : String) :
    (l.tryAcquire kvvmi node = (false, l) ∧
        ∀ owner, ownerKey kvvmi = some owner → node ≠ "" → { node, owner } ∉ l.slots) ∨
      node ≠ "" ∧ ∃ owner, ownerKey kvvmi = some owner ∧
        ({ node, owner } ∈ l.slots ∧ l.tryAcquire kvvmi node = (true, l) ∨
          l.held node < l.limit ∧
            l.tryAcquire kvvmi node = (true, { l with slots := l.slots ++ [{ node, owner }] })) := by
  unfold tryAcquire
  split
  · rename_i unnamed
    exact .inl ⟨rfl, fun _ _ named => absurd unnamed named⟩
  rename_i named
  split
  · rename_i unowned
    refine .inl ⟨rfl, fun _ owned => ?_⟩
    rw [unowned] at owned
    cases owned
  rename_i owner owned
  split
  · rename_i held
    exact .inr ⟨named, owner, owned, .inl ⟨held, rfl⟩⟩
  rename_i fresh
  split
  · refine .inl ⟨rfl, fun _ owned' _ => ?_⟩
    rw [owned] at owned'
    cases owned'
    exact fresh
  rename_i room
  exact .inr ⟨named, owner, owned, .inr ⟨not_le.mp room, rfl⟩⟩

theorem mem_of_mem_release (member : slot ∈ (l.release kvvmi node).slots) : slot ∈ l.slots := by
  unfold release at member
  split at member
  · exact member
  split at member
  all_goals exact mem_of_mem_filter member

theorem mem_release_other (member : slot ∈ l.slots) (other : slot.owner.kvvmi ≠ kvvmi.key) :
    slot ∈ (l.release kvvmi node).slots := by
  unfold release
  split
  · exact member
  split
  · rename_i owned
    refine mem_filter.mpr ⟨member, decide_eq_true fun same => other ?_⟩
    obtain ⟨_, -, rfl⟩ := Option.map_eq_some_iff.mp owned
    rw [same]
  · exact mem_filter.mpr ⟨member, decide_eq_true fun same => other same.2⟩

theorem not_mem_release (owned : ownerKey kvvmi = some slot.owner) (here : slot.node = node) (named : node ≠ "") :
    slot ∉ (l.release kvvmi node).slots := by
  unfold release
  rw [if_neg named, owned, ← here]
  intro member
  exact of_decide_eq_true (mem_filter.mp member).2 rfl

theorem held_release_le (l : MigrationSlotLimiter) (kvvmi : KVVMI) (node other : String) :
    (l.release kvvmi node).held other ≤ l.held other := by
  unfold release
  split
  · exact Nat.le_refl _
  split
  all_goals exact filter_sublist.countP_le

theorem release_settings (l : MigrationSlotLimiter) (kvvmi : KVVMI) (node : String) :
    (l.release kvvmi node).enabled = l.enabled ∧ (l.release kvvmi node).limit = l.limit := by
  unfold release
  split
  · exact ⟨rfl, rfl⟩
  split <;> exact ⟨rfl, rfl⟩

theorem acquireIfEnabled_cases (l : MigrationSlotLimiter) (kvvmi : KVVMI) (node : String) :
    (l.enabled = false ∧ l.acquireIfEnabled kvvmi node = (true, l)) ∨
      l.enabled ∧ l.acquireIfEnabled kvvmi node = l.tryAcquire kvvmi node := by
  unfold acquireIfEnabled
  cases enabled : l.enabled with
  | false => exact .inl ⟨rfl, rfl⟩
  | true => exact .inr ⟨rfl, rfl⟩

theorem acquireIfEnabled_true (admitted : (l.acquireIfEnabled kvvmi node).1) :
    l.slots ⊆ (l.acquireIfEnabled kvvmi node).2.slots ∧
      (∀ slot ∈ (l.acquireIfEnabled kvvmi node).2.slots, slot ∈ l.slots ∨ slot.node = node ∧ node ≠ "" ∧ l.enabled ∧
        ownerKey kvvmi = some slot.owner) ∧
      (l.enabled → node ≠ "" ∧ ∃ owner, ownerKey kvvmi = some owner ∧
        { node, owner } ∈ (l.acquireIfEnabled kvvmi node).2.slots) := by
  rcases l.acquireIfEnabled_cases kvvmi node with ⟨disabled, equal⟩ | ⟨enabled, equal⟩
  · rw [equal]
    refine ⟨List.Subset.refl _, fun slot member => .inl member, fun enabled => ?_⟩
    rw [disabled] at enabled
    cases enabled
  rw [equal] at admitted ⊢
  rcases l.tryAcquire_cases kvvmi node with ⟨refused, -⟩ | ⟨named, owner, owned, ⟨held, same⟩ | ⟨-, added⟩⟩
  · rw [refused] at admitted
    cases admitted
  · rw [same]
    exact ⟨List.Subset.refl _, fun slot member => .inl member, fun _ => ⟨named, owner, owned, held⟩⟩
  rw [added]
  refine ⟨subset_append_left .., fun _ member => ?_, fun _ => ⟨named, owner, owned, ?_⟩⟩
  · rcases mem_append.mp member with before | new
    · exact .inl before
    rw [mem_singleton.mp new]
    exact .inr ⟨rfl, named, enabled, owned⟩
  · exact mem_append_right _ (mem_singleton_self _)

theorem acquireIfEnabled_false (refused : (l.acquireIfEnabled kvvmi node).1 = false) :
    (l.acquireIfEnabled kvvmi node).2 = l ∧ l.enabled ∧
      ∀ owner, ownerKey kvvmi = some owner → node ≠ "" → { node, owner } ∉ l.slots := by
  rcases l.acquireIfEnabled_cases kvvmi node with ⟨-, equal⟩ | ⟨enabled, equal⟩
  · rw [equal] at refused
    cases refused
  rw [equal] at refused ⊢
  rcases l.tryAcquire_cases kvvmi node with ⟨same, fresh⟩ | ⟨-, _, -, ⟨-, same⟩ | ⟨-, added⟩⟩
  · rw [same]
    exact ⟨rfl, enabled, fresh⟩
  · rw [same] at refused
    cases refused
  rw [added] at refused
  cases refused

theorem acquireIfEnabled_settings (l : MigrationSlotLimiter) (kvvmi : KVVMI) (node : String) :
    (l.acquireIfEnabled kvvmi node).2.enabled = l.enabled ∧ (l.acquireIfEnabled kvvmi node).2.limit = l.limit := by
  rcases l.acquireIfEnabled_cases kvvmi node with ⟨-, equal⟩ | ⟨-, equal⟩ <;> rw [equal]
  · exact ⟨rfl, rfl⟩
  rcases l.tryAcquire_cases kvvmi node with ⟨same, -⟩ | ⟨-, _, -, ⟨-, same⟩ | ⟨-, same⟩⟩ <;> rw [same] <;>
    exact ⟨rfl, rfl⟩

theorem held_acquireIfEnabled_le (within : ∀ node, l.held node ≤ l.limit) (kvvmi : KVVMI) (node other : String) :
    (l.acquireIfEnabled kvvmi node).2.held other ≤ l.limit := by
  rcases l.acquireIfEnabled_cases kvvmi node with ⟨-, equal⟩ | ⟨-, equal⟩
  · rw [equal]
    exact within other
  rw [equal]
  rcases l.tryAcquire_cases kvvmi node with ⟨same, -⟩ | ⟨-, owner, -, ⟨-, same⟩ | ⟨room, added⟩⟩
  · rw [same]
    exact within other
  · rw [same]
    exact within other
  rw [added]
  change (l.slots ++ [Slot.mk node owner]).countP (·.node = other) ≤ l.limit
  rw [countP_append, countP_singleton]
  have before : l.slots.countP (·.node = other) ≤ l.limit := within other
  split
  · rename_i here
    have same : node = other := of_decide_eq_true here
    subst same
    exact room
  · exact before

end MigrationSlotLimiter

inductive Acquires (reads : Reads) (inbound sync : MigrationSlotLimiter) (targetNode sourceNode : String)
    (kvvmi : KVVMI) : Handled → Prop where
  | waitsInbound (refused : (inbound.acquireIfEnabled kvvmi targetNode).1 = false) :
      Acquires reads inbound sync targetNode sourceNode kvvmi
        { kvvmi := if (kvvmi.markMigrationSlotWaiting .inbound targetNode).isMigrationSlotWaiting .sync
            then (kvvmi.markMigrationSlotWaiting .inbound targetNode).clearMigrationSlot .sync
            else kvvmi.markMigrationSlotWaiting .inbound targetNode
          inbound, sync, requeue := true, failed := false }
  | waitsSync (admitted : (inbound.acquireIfEnabled kvvmi targetNode).1)
      (refused : (sync.acquireIfEnabled kvvmi sourceNode).1 = false) :
      Acquires reads inbound sync targetNode sourceNode kvvmi
        { kvvmi := (if kvvmi.isMigrationSlotWaiting .inbound then kvvmi.clearMigrationSlot .inbound
            else kvvmi).markMigrationSlotWaiting .sync sourceNode
          inbound := if inbound.enabled then (inbound.acquireIfEnabled kvvmi targetNode).2.release kvvmi targetNode
            else inbound
          sync, requeue := true, failed := false }
  | admitted (inboundOk : (inbound.acquireIfEnabled kvvmi targetNode).1)
      (syncOk : (sync.acquireIfEnabled kvvmi sourceNode).1) :
      Acquires reads inbound sync targetNode sourceNode kvvmi
        (setConfiguration reads (inbound.acquireIfEnabled kvvmi targetNode).2
          (sync.acquireIfEnabled kvvmi sourceNode).2 targetNode sourceNode
          kvvmi)

theorem acquireSlots_cases (reads : Reads) (inbound sync : MigrationSlotLimiter) (targetNode sourceNode : String)
    (kvvmi : KVVMI) : Acquires reads inbound sync targetNode sourceNode kvvmi
      (acquireSlots reads inbound sync targetNode sourceNode kvvmi) := by
  unfold acquireSlots
  dsimp only
  split
  · rename_i refused
    have refused : (inbound.acquireIfEnabled kvvmi targetNode).1 = false := Bool.not_eq_true _ ▸ refused
    rw [(acquireIfEnabled_false refused).1]
    exact .waitsInbound refused
  rename_i inboundOk
  have inboundOk : (inbound.acquireIfEnabled kvvmi targetNode).1 := not_not.mp inboundOk
  split
  · rename_i refused
    have refused : (sync.acquireIfEnabled kvvmi sourceNode).1 = false := Bool.not_eq_true _ ▸ refused
    rw [(acquireIfEnabled_false refused).1, (acquireIfEnabled_settings ..).1]
    have same : (if inbound.enabled = true then (inbound.acquireIfEnabled kvvmi targetNode).2.release kvvmi targetNode
        else (inbound.acquireIfEnabled kvvmi targetNode).2) =
        if inbound.enabled = true then (inbound.acquireIfEnabled kvvmi targetNode).2.release kvvmi targetNode
        else inbound := by
      split
      · rfl
      rename_i disabled
      unfold acquireIfEnabled
      rw [if_neg disabled]
    rw [same]
    exact .waitsSync inboundOk refused
  rename_i syncOk
  exact .admitted inboundOk (not_not.mp syncOk)

inductive Handles (reads : Reads) (inbound sync : MigrationSlotLimiter) (kvvmi : KVVMI) : Handled → Prop where
  | failed : Handles reads inbound sync kvvmi { kvvmi, inbound, sync, requeue := false, failed := true }
  | released (decided : shouldReleaseSlots reads.migrations kvvmi = some true) :
      Handles reads inbound sync kvvmi
        { kvvmi := (kvvmi.clearMigrationSlot .inbound).clearMigrationSlot .sync
          inbound := inbound.release kvvmi (kvvmi.waitingNode .inbound)
          sync := sync.release (kvvmi.clearMigrationSlot .inbound)
            ((kvvmi.clearMigrationSlot .inbound).waitingNode .sync)
          requeue := false, failed := false }
  | idle (requeue : Bool) (kept : shouldReleaseSlots reads.migrations kvvmi = some false) :
      Handles reads inbound sync kvvmi { kvvmi, inbound, sync, requeue, failed := false }
  | acquires (targetNode : String) (handled : Handled) (kept : shouldReleaseSlots reads.migrations kvvmi = some false)
      (due : shouldUpdateMigrationConfiguration kvvmi)
      (target : inbound.enabled → resolveTargetNode reads.targetPod kvvmi = some targetNode ∧ targetNode ≠ "")
      (source : sync.enabled → resolveSourceNode kvvmi ≠ "")
      (ends : Acquires reads inbound sync targetNode (resolveSourceNode kvvmi) kvvmi handled) :
      Handles reads inbound sync kvvmi handled

theorem handle_cases (reads : Reads) (inbound sync : MigrationSlotLimiter) (kvvmi : KVVMI) :
    Handles reads inbound sync kvvmi (handle reads inbound sync kvvmi) := by
  unfold handle
  split
  · exact .failed
  · rename_i decided
    exact .released decided
  rename_i kept
  split
  · rename_i due
    unfold startMigration
    split
    · exact .failed
    rename_i targetNode found
    split
    · exact .idle true kept
    rename_i hasTarget
    split
    · exact .idle true kept
    rename_i hasSource
    refine .acquires targetNode _ kept due (fun enabled => ?_) (fun enabled none => hasSource ⟨enabled, none⟩) ?_
    · rw [if_pos enabled] at found
      exact ⟨found, fun none => hasTarget ⟨enabled, none⟩⟩
    · exact acquireSlots_cases ..
  · exact .idle false kept

def backed (migrations : List VMIM) (kvvmi : KVVMI) (state : MigrationState) : Bool :=
  migrations.any fun m =>
    m.uid = state.migrationUID ∧ m.ns = kvvmi.key.ns ∧ m.vmiName = kvvmi.key.name ∧ ¬ m.final

def running (migrations : List VMIM) (kvvmi : KVVMI) : Bool :=
  kvvmi.migrationState.any fun state =>
    !state.completed && !state.failed && state.migrationConfiguration.isSome && backed migrations kvvmi state

end Virtualization.Migration.Slots
