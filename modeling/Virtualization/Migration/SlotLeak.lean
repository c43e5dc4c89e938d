import Virtualization.Migration.SlotLimit

namespace Virtualization.Migration.Slots

open Bool Virtualization.Core Kind Library List MigrationSlotLimiter PatchOperation Reconcile Store

variable {settings : Kind → Settings} {place : Owner → Kind → String} {kind : Kind} {process : Process}
  {kvvmi current changed stored after : KVVMI} {slots : List Slot} {slot : Slot}

theorem ownerKey_setMigrationConfiguration (configuration : MigrationConfiguration) (kvvmi : KVVMI) :
    ownerKey (kvvmi.setMigrationConfiguration configuration) = ownerKey kvvmi := by
  unfold ownerKey KVVMI.setMigrationConfiguration
  rw [Option.map_map]
  rfl

structure SameSlot (kind : Kind) (before after : KVVMI) : Prop where
  key : after.key = before.key
  owner : ownerKey after = ownerKey before
  slot : after.annotation? kind.slotKey = before.annotation? kind.slotKey
  node : after.annotation? kind.nodeKey = before.annotation? kind.nodeKey

variable {other : Kind}

namespace SameSlot

theorem refl (kind : Kind) (kvvmi : KVVMI) : SameSlot kind kvvmi kvvmi := ⟨rfl, rfl, rfl, rfl⟩

theorem waitingNode (same : SameSlot kind current changed) : changed.waitingNode kind = current.waitingNode kind := by
  unfold KVVMI.waitingNode
  rw [same.node]

section

variable (different : kind ≠ other)
include different

theorem keys_ne : kind.slotKey ≠ other.slotKey ∧ kind.slotKey ≠ other.nodeKey ∧ kind.nodeKey ≠ other.slotKey ∧
      kind.nodeKey ≠ other.nodeKey := by
  cases kind <;> cases other
  · exact absurd rfl different
  · decide
  · decide
  · exact absurd rfl different

theorem set (state node : String) (kvvmi : KVVMI) : SameSlot kind kvvmi (kvvmi.setMigrationSlot other state node) := by
  obtain ⟨slots, slotNode, nodeSlot, nodes⟩ := keys_ne different
  refine ⟨rfl, rfl, ?_, ?_⟩
  · rw [KVVMI.setMigrationSlot_annotation?, if_neg slotNode, if_neg slots]
  · rw [KVVMI.setMigrationSlot_annotation?, if_neg nodes, if_neg nodeSlot]

theorem clear (kvvmi : KVVMI) : SameSlot kind kvvmi (kvvmi.clearMigrationSlot other) := by
  obtain ⟨slots, slotNode, nodeSlot, nodes⟩ := keys_ne different
  refine ⟨KVVMI.clearMigrationSlot_key .., ownerKey_clearMigrationSlot .., ?_, ?_⟩
  · rw [KVVMI.clearMigrationSlot_annotation?, if_neg fun either => either.elim slotNode slots]
  · rw [KVVMI.clearMigrationSlot_annotation?, if_neg fun either => either.elim nodes nodeSlot]

end

theorem configured (kind : Kind) (configuration : MigrationConfiguration) (kvvmi : KVVMI) :
    SameSlot kind kvvmi (kvvmi.setMigrationConfiguration configuration) :=
  ⟨rfl, ownerKey_setMigrationConfiguration .., rfl, rfl⟩

theorem marked (different : kind ≠ other) (enabled : Bool) (node : String) (kvvmi : KVVMI) :
    SameSlot kind kvvmi (if enabled = true then kvvmi.markMigrationSlotAcquired other node else kvvmi) := by
  split
  · exact .set different _ _ _
  · exact .refl ..

end SameSlot

/-- The slots of a machine are those of its migration, on the node of the migration, and its annotations say so. -/
def Recorded (place : Owner → Kind → String) (kind : Kind) (slots : List Slot) (kvvmi : KVVMI) : Prop :=
  ∀ slot ∈ slots, slot.owner.kvvmi = kvvmi.key → ownerKey kvvmi = some slot.owner ∧ slot.node = place slot.owner kind ∧
    slot.node ≠ "" ∧ kvvmi.annotation? kind.slotKey = some slotAcquired ∧ kvvmi.waitingNode kind = slot.node

namespace Recorded

theorem mono {fewer : List Slot} (recorded : Recorded place kind slots kvvmi)
    (within : ∀ slot ∈ fewer, slot.owner.kvvmi = kvvmi.key → slot ∈ slots) : Recorded place kind fewer kvvmi :=
  fun slot member own => recorded slot (within slot member own) own

theorem same (recorded : Recorded place kind slots current) (same : SameSlot kind current changed) :
    Recorded place kind slots changed := by
  intro slot member own
  obtain ⟨owned, placed, named, acquired, node⟩ := recorded slot member (own.trans same.key)
  exact ⟨same.owner.trans owned, placed, named, same.slot.trans acquired, same.waitingNode.trans node⟩

theorem none (empty : ∀ slot ∈ slots, slot.owner.kvvmi ≠ kvvmi.key) : Recorded place kind slots kvvmi :=
  fun slot member own => absurd own (empty slot member)

theorem clear_waiting (recorded : Recorded place kind slots kvvmi) : Recorded place kind slots
      (if kvvmi.isMigrationSlotWaiting kind then kvvmi.clearMigrationSlot kind else kvvmi) := by
  split
  · rename_i waiting
    refine none fun slot member own => ?_
    rw [KVVMI.clearMigrationSlot_key] at own
    obtain ⟨-, -, -, acquired, -⟩ := recorded slot member own
    have waits : kvvmi.annotation? kind.slotKey = some slotWaiting := of_decide_eq_true waiting
    rw [acquired] at waits
    exact absurd (Option.some.inj waits) (by decide)
  · exact recorded

variable {node : String}

theorem mark (named : node ≠ "")
    (there : ∀ slot ∈ slots, slot.owner.kvvmi = kvvmi.key → ownerKey kvvmi = some slot.owner ∧
      slot.node = place slot.owner kind ∧ slot.node = node) :
    Recorded place kind slots (kvvmi.markMigrationSlotAcquired kind node) := by
  intro slot member own
  obtain ⟨owned, placed, here⟩ := there slot member own
  have different : kind.slotKey ≠ kind.nodeKey := by cases kind <;> decide
  refine ⟨owned, placed, here ▸ named, ?_, ?_⟩
  · rw [KVVMI.markMigrationSlotAcquired, KVVMI.setMigrationSlot_annotation?, if_neg different, if_pos rfl]
  unfold KVVMI.waitingNode
  rw [KVVMI.markMigrationSlotAcquired, KVVMI.setMigrationSlot_annotation?, if_pos rfl, here]
  rfl

variable {l : MigrationSlotLimiter} (recorded : Recorded place kind l.slots kvvmi)
include recorded

theorem release_empty : ∀ slot ∈ (l.release kvvmi (kvvmi.waitingNode kind)).slots, slot.owner.kvvmi ≠ kvvmi.key := by
  intro slot member own
  obtain ⟨owned, -, named, -, node⟩ := recorded slot (mem_of_mem_release member) own
  exact not_mem_release owned node.symm (node ▸ named) member

theorem refused_empty (refused : (l.acquireIfEnabled kvvmi node).1 = false) (named : node ≠ "")
    (placed : ∀ owner, ownerKey kvvmi = some owner → node = place owner kind) :
    ∀ slot ∈ l.slots, slot.owner.kvvmi ≠ kvvmi.key := by
  intro slot member own
  obtain ⟨owned, there, -⟩ := recorded slot member own
  refine (acquireIfEnabled_false refused).2.2 slot.owner owned named ?_
  rw [placed slot.owner owned, ← there]
  exact member

theorem admitted (ok : (l.acquireIfEnabled kvvmi node).1)
    (placed : ∀ owner, ownerKey kvvmi = some owner → node = place owner kind) :
    ∀ slot ∈ (l.acquireIfEnabled kvvmi node).2.slots, slot.owner.kvvmi = kvvmi.key → ownerKey kvvmi = some slot.owner ∧
      slot.node = place slot.owner kind ∧ slot.node = node := by
  intro slot member own
  rcases (acquireIfEnabled_true ok).2.1 slot member with before | ⟨here, -, -, owned⟩
  · obtain ⟨owned, there, -⟩ := recorded slot before own
    exact ⟨owned, there, there.trans (placed slot.owner owned).symm⟩
  · exact ⟨owned, here.trans (placed slot.owner owned), here⟩

theorem acquired (ok : (l.acquireIfEnabled kvvmi node).1)
    (here : l.enabled → node ≠ "" ∧ ∀ owner, ownerKey kvvmi = some owner → node = place owner kind)
    (same : SameSlot kind kvvmi changed) : Recorded place kind (l.acquireIfEnabled kvvmi node).2.slots
      (if l.enabled = true then changed.markMigrationSlotAcquired kind node else changed) := by
  split
  · rename_i limited
    obtain ⟨named, placed⟩ := here limited
    refine .mark named fun slot member own => ?_
    rw [same.owner]
    exact recorded.admitted ok placed slot member (own.trans same.key)
  rename_i unlimited
  unfold MigrationSlotLimiter.acquireIfEnabled
  rw [if_neg unlimited]
  exact recorded.same same

end Recorded

variable {migrations : List VMIM}

section Handler

variable {reads : Reads} {handled : Handled}

theorem Acquires.recorded {targetNode sourceNode : String} {inbound sync : MigrationSlotLimiter}
    (ends : Acquires reads inbound sync targetNode sourceNode kvvmi handled)
    (inboundRecorded : Recorded place .inbound inbound.slots kvvmi)
    (syncRecorded : Recorded place .sync sync.slots kvvmi) (target : inbound.enabled → targetNode ≠ "" ∧
      ∀ owner, ownerKey kvvmi = some owner → targetNode = place owner .inbound)
    (source : sync.enabled → sourceNode ≠ "" ∧
      ∀ owner, ownerKey kvvmi = some owner → sourceNode = place owner .sync) :
    Recorded place .inbound handled.inbound.slots handled.kvvmi ∧
      Recorded place .sync handled.sync.slots handled.kvvmi := by
  cases ends with
  | waitsInbound refused =>
    obtain ⟨-, enabled, -⟩ := acquireIfEnabled_false refused
    obtain ⟨named, placed⟩ := target enabled
    have empty := inboundRecorded.refused_empty refused named placed
    have marked : SameSlot .sync kvvmi (kvvmi.markMigrationSlotWaiting .inbound targetNode) := .set (by decide) _ _ _
    refine ⟨.none fun slot member own => empty slot member ?_, (syncRecorded.same marked).clear_waiting⟩
    rw [own]
    split
    · rfl
    · rfl
  | waitsSync ok refused =>
    obtain ⟨-, enabled, -⟩ := acquireIfEnabled_false refused
    obtain ⟨named, placed⟩ := source enabled
    have empty := syncRecorded.refused_empty refused named placed
    have keyed : (if kvvmi.isMigrationSlotWaiting .inbound then kvvmi.clearMigrationSlot .inbound else kvvmi).key =
        kvvmi.key := by
      split
      · exact KVVMI.clearMigrationSlot_key ..
      · rfl
    refine ⟨?_, .none fun slot member own => empty slot member (own.trans keyed)⟩
    by_cases limited : inbound.enabled = true
    · -- The slot that was just taken is given back.
      rw [if_pos limited]
      obtain ⟨named, placed⟩ := target limited
      refine .none fun slot member own => ?_
      have own : slot.owner.kvvmi = kvvmi.key := own.trans keyed
      obtain ⟨owned, -, here⟩ :=
        inboundRecorded.admitted ok placed slot (mem_of_mem_release member) own
      exact not_mem_release owned here named member
    rw [if_neg limited]
    exact inboundRecorded.clear_waiting.same (.set (by decide) _ _ _)
  | admitted inboundOk syncOk =>
    have process := setConfiguration_process reads (inbound.acquireIfEnabled kvvmi targetNode).2
      (sync.acquireIfEnabled kvvmi sourceNode).2 targetNode sourceNode kvvmi
    have inboundSame := congrArg Process.inbound process
    have syncSame := congrArg Process.sync process
    dsimp only [Handled.process] at inboundSame syncSame
    rw [inboundSame, syncSame]
    have inboundMarked := (inboundRecorded.acquired inboundOk target (.refl ..)).same
      (.marked (show Kind.inbound ≠ .sync by decide) sync.enabled sourceNode _)
    have syncMarked := syncRecorded.acquired syncOk source
      (.marked (show Kind.sync ≠ .inbound by decide) inbound.enabled targetNode kvvmi)
    unfold setConfiguration
    simp only [acquireIfEnabled_settings]
    split
    · exact ⟨inboundMarked, syncMarked⟩
    · exact ⟨inboundMarked.same (.configured ..), syncMarked.same (.configured ..)⟩

theorem Handles.recorded (ends : Handles reads process.inbound process.sync kvvmi handled)
    (shown : shows place reads.targetPod kvvmi)
    (before : ∀ kind, Recorded place kind (process.limiter kind).slots kvvmi) (kind : Kind) :
    Recorded place kind (handled.process.limiter kind).slots handled.kvvmi := by
  have inboundBefore : Recorded place .inbound process.inbound.slots kvvmi := before .inbound
  have syncBefore : Recorded place .sync process.sync.slots kvvmi := before .sync
  suffices both : Recorded place .inbound handled.inbound.slots handled.kvvmi ∧
      Recorded place .sync handled.sync.slots handled.kvvmi by
    cases kind
    · exact both.1
    · exact both.2
  cases ends with
  | failed | idle => exact ⟨inboundBefore, syncBefore⟩
  | released =>
    have cleared := syncBefore.same (.clear (show sync ≠ inbound by decide) kvvmi)
    constructor
    · refine .none fun slot member own => inboundBefore.release_empty slot member ?_
      rw [own, KVVMI.clearMigrationSlot_key, KVVMI.clearMigrationSlot_key]
    refine .none fun slot member own => cleared.release_empty slot member ?_
    rw [own, KVVMI.clearMigrationSlot_key]
  | acquires _ _ _ _ target source ends =>
    refine ends.recorded inboundBefore syncBefore (fun enabled => ?_) fun enabled => ?_
    · obtain ⟨found, named⟩ := target enabled
      exact ⟨named, fun owner owned => shows_target shown owned found named⟩
    · exact ⟨source enabled, fun owner owned => shows_source shown owned (source enabled)⟩

def Live (migrations : List VMIM) (kvvmi : KVVMI) : Prop :=
  (kvvmi.migrationState.any fun state => !state.completed && !state.failed) ∧
    hasActiveMigration migrations kvvmi

theorem live_of_kept (kept : shouldReleaseSlots reads.migrations kvvmi = some false)
    (fresh : ∀ listed, reads.migrations = some listed → listed = migrations)
    (recorded : Recorded place kind slots kvvmi) (member : slot ∈ slots) (own : slot.owner.kvvmi = kvvmi.key) :
    Live migrations kvvmi := by
  obtain ⟨owned, -, -, acquired, -⟩ := recorded slot member own
  obtain ⟨state, isState, -⟩ := Option.map_eq_some_iff.mp owned
  have has : kvvmi.hasMigrationSlot := by
    unfold KVVMI.hasMigrationSlot
    cases kind
    · rw [acquired]
      rfl
    · rw [acquired, Option.isSome_some, Bool.or_true]
  unfold shouldReleaseSlots at kept
  have unfinished : ¬ (kvvmi.migrationState.any fun state => state.completed || state.failed) := by
    intro finished
    rw [if_pos finished] at kept
    cases kept
  rw [if_neg unfinished, if_neg (not_not.mpr has)] at kept
  constructor
  · rw [isState, Option.any_some] at unfinished ⊢
    rw [← Bool.not_or, Bool.eq_false_iff.mpr unfinished]
    rfl
  obtain ⟨listed, isListed, active⟩ := Option.map_eq_some_iff.mp kept
  rw [← fresh listed isListed]
  simpa using active

section

variable (ends : Handles reads process.inbound process.sync kvvmi handled)
include ends

theorem Handles.live (fresh : ∀ listed, reads.migrations = some listed → listed = migrations)
    (before : ∀ kind, Recorded place kind (process.limiter kind).slots kvvmi)
    (active : shouldUpdateMigrationConfiguration kvvmi → hasActiveMigration migrations kvvmi)
    (succeeded : handled.failed = false) (member : slot ∈ (handled.process.limiter kind).slots)
    (own : slot.owner.kvvmi = kvvmi.key) : Live migrations kvvmi := by
  cases ends with
  | failed => cases succeeded
  | released =>
    cases kind with
    | inbound => exact absurd own ((before .inbound).release_empty slot member)
    | sync =>
      have cleared := (before .sync).same (.clear (show sync ≠ inbound by decide) kvvmi)
      refine absurd ?_ (cleared.release_empty slot member)
      rw [own, KVVMI.clearMigrationSlot_key]
  | idle _ kept => exact live_of_kept kept fresh (before kind) member own
  | acquires _ _ _ due =>
    refine ⟨?_, active due⟩
    obtain ⟨_, isState, isDue⟩ := (Option.any_eq_true _ _).mp due
    obtain ⟨notCompleted, notFailed, -⟩ := of_decide_eq_true isDue
    rw [isState, Option.any_some, eq_false_iff.mpr notCompleted, eq_false_iff.mpr notFailed]
    rfl

theorem Handles.same : handled.kvvmi.key = kvvmi.key ∧ ownerKey handled.kvvmi = ownerKey kvvmi := by
  cases ends with
  | failed | idle => exact ⟨rfl, rfl⟩
  | released => simp
  | acquires _ _ _ _ _ _ ends =>
    cases ends with
    | waitsInbound =>
      split
      all_goals exact ⟨rfl, rfl⟩
    | waitsSync =>
      split
      · exact ⟨KVVMI.clearMigrationSlot_key .., ownerKey_clearMigrationSlot ..⟩
      · exact ⟨rfl, rfl⟩
    | admitted =>
      have marked : ∀ (limited : Bool) (kind : Kind) (node : String) (kvvmi : KVVMI),
          (if limited = true then kvvmi.markMigrationSlotAcquired kind node else kvvmi).key = kvvmi.key ∧
            ownerKey (if limited = true then kvvmi.markMigrationSlotAcquired kind node else kvvmi) =
              ownerKey kvvmi := by
        intro limited kind node kvvmi
        split <;> exact ⟨rfl, rfl⟩
      unfold setConfiguration
      dsimp only
      split
      · exact ⟨(marked ..).1.trans (marked ..).1, (marked ..).2.trans (marked ..).2⟩
      refine ⟨(marked ..).1.trans (marked ..).1, ?_⟩
      rw [ownerKey_setMigrationConfiguration]
      exact (marked ..).2.trans (marked ..).2

end

end Handler

theorem patch_own (current changed : KVVMI) :
    (current.patch (generateMigrationConfigurationPatch current changed)).isSome := by
  refine patch_applies (fun differ isNil => ?_) fun stateless => ?_
  · exact Option.isSome_iff_ne_none.mpr fun none => differ (congrArg entries (none.trans isNil.symm))
  · unfold configurationPatch
    rw [stateless]

theorem patch_own_same (keyed : changed.key = current.key) (owned : ownerKey changed = ownerKey current)
    (patched : current.patch (generateMigrationConfigurationPatch current changed) = some after) (kind : Kind) :
    SameSlot kind changed after := by
  obtain ⟨sameKey, ⟨_, isState⟩, -⟩ := patch_migrationState patched
  have annotations : entries after.annotations = entries changed.annotations := by
    rw [patch_annotations patched]
    split
    · rename_i same
      exact same
    · rfl
  refine ⟨sameKey.trans keyed.symm, ?_, ?_, ?_⟩
  · rw [owned]
    unfold ownerKey
    rw [isState, Option.map_map, sameKey]
    rfl
  · unfold KVVMI.annotation?
    rw [annotations]
  unfold KVVMI.annotation?
  rw [annotations]

theorem KVVMI.withDocument_document (kvvmi : KVVMI) : kvvmi.withDocument kvvmi.document = kvvmi := by
  have same : kvvmi.migrationState.map
      ({ · with migrationConfiguration := kvvmi.document .migrationConfiguration }) = kvvmi.migrationState := by
    cases isState : kvvmi.migrationState with
    | none => rfl
    | some state =>
      have own : kvvmi.document .migrationConfiguration = state.migrationConfiguration := by
        simp only [KVVMI.document, isState]
        rfl
      rw [own, Option.map_some]
  unfold KVVMI.withDocument
  rw [same]
  rfl

theorem patchKVVMI_current {kvvmis : Store KVVMI} (changed : KVVMI) (found : kvvmis.get? current.key = some current) :
    ∃ new, current.patch (generateMigrationConfigurationPatch current changed) = some new ∧
      ((patchKVVMI .ok current changed kvvmis).2.get? current.key = some new ∨
        ∃ n, (patchKVVMI .ok current changed kvvmis).2.get? current.key = some (stamp n new)) := by
  obtain ⟨new, patched⟩ := Option.isSome_iff_exists.mp (patch_own current changed)
  refine ⟨new, patched, ?_⟩
  unfold patchKVVMI
  by_cases nothing : (generateMigrationConfigurationPatch current changed).isEmpty = true
  · rw [if_pos nothing]
    rw [isEmpty_iff.mp nothing] at patched
    unfold KVVMI.patch at patched
    rw [if_neg (by simp)] at patched
    simp only [applyPatch, Option.map_some, KVVMI.withDocument_document, Option.some.injEq] at patched
    subst patched
    exact .inl found
  rw [if_neg nothing, found]
  dsimp only
  rw [patched]
  refine .inr ⟨kvvmis.revision + 1, ?_⟩
  exact get?_write_self found (patch_migrationState patched).1

def World.reconciles (w : World) (name : NamespacedName) : Bool := w.pass.any (·.current.key = name)

def Process.hasSlot (process : Process) (name : NamespacedName) : Bool :=
  [Kind.inbound, .sync].any fun kind => (process.limiter kind).slots.any (·.owner.kvvmi = name)

/-- The life of a leader in which the annotations keep up with the registry: patches are applied; a migration takes the
    place of another only when the machine has no slot annotations; a migration that is to be configured is backed;
    a machine is created anew only when its slots are freed; and nothing happens to a machine while it is reconciled. -/
def calm (w : World) : Event → Bool
  | .start _ | .delete _ | .setup => true
  | .handle _ => w.pass.all fun pass =>
      !shouldUpdateMigrationConfiguration pass.current || hasActiveMigration w.migrations pass.current
  | .finish answer => answer = .ok
  | .write kvvmi => !w.reconciles kvvmi.key && (w.kvvmis.get? kvvmi.key).all fun old =>
      ownerKey kvvmi = ownerKey old || !old.hasMigrationSlot
  | .create kvvmi => !w.reconciles kvvmi.key && !w.leader.hasSlot kvvmi.key
  | .observe migrations => w.pass.all fun pass =>
      hasActiveMigration migrations pass.current = hasActiveMigration w.migrations pass.current
  | .lead _ => false

/-- The registry is restored when the life of the leader begins, and every slot that is annotated as acquired is one of
    the present migration. -/
def restored (settings : Kind → Settings) (place : Owner → Kind → String) (w : World) : Bool :=
  w.pass.isNone && w.leader = .setupController settings w.kvvmis.objects w.migrations &&
    w.kvvmis.objects.all fun kvvmi => [Kind.inbound, .sync].all fun kind =>
      !(kvvmi.annotation? kind.slotKey = some slotAcquired) ||
        (ownerKey kvvmi).all fun owner => kvvmi.waitingNode kind = "" || kvvmi.waitingNode kind = place owner kind

structure Tidy (place : Owner → Kind → String) (w : World) : Prop where
  recorded : ∀ name kvvmi, w.kvvmis.get? name = some kvvmi →
    (∀ pass, w.pass = some pass → pass.outcome.isSome → pass.current.key ≠ name) →
    ∀ kind, Recorded place kind (w.leader.limiter kind).slots kvvmi
  current : ∀ pass, w.pass = some pass → ∀ stored, w.kvvmis.get? pass.current.key = some stored →
    stored = pass.current
  reading : ∀ pass, w.pass = some pass → pass.outcome = none →
    ∀ kind, Recorded place kind (w.leader.limiter kind).slots pass.current
  outcome : ∀ pass outcome, w.pass = some pass → pass.outcome = some outcome →
    outcome.changed.key = pass.current.key ∧ ownerKey outcome.changed = ownerKey pass.current ∧
      (∀ kind, Recorded place kind (w.leader.limiter kind).slots outcome.changed) ∧
      (outcome.failed = false → ∀ kind, ∀ slot ∈ (w.leader.limiter kind).slots,
        slot.owner.kvvmi = pass.current.key → Live w.migrations pass.current)

theorem Tidy.of_idle {w : World} (idle : w.pass = none) (recorded : ∀ name kvvmi, w.kvvmis.get? name = some kvvmi →
    ∀ kind, Recorded place kind (w.leader.limiter kind).slots kvvmi) : Tidy place w :=
  ⟨fun name kvvmi found _ => recorded name kvvmi found, by simp [idle], by simp [idle], by simp [idle]⟩

theorem mem_foldl_insert {added : List Slot} :
    slot ∈ added.foldl (fun slots slot => slots.insert slot) slots ↔ slot ∈ slots ∨ slot ∈ added := by
  induction added generalizing slots with
  | nil => simp
  | cons _ _ ih =>
    rw [foldl_cons, ih, mem_insert_iff, mem_cons]
    tauto

theorem mem_setupController {vmis : List KVVMI}
    (member : slot ∈ ((Process.setupController settings vmis migrations).limiter kind).slots) :
    ∃ kvvmi ∈ vmis, ownerKey kvvmi = some slot.owner ∧ slot.node ≠ "" ∧
      kvvmi.annotation? kind.slotKey = some slotAcquired ∧ kvvmi.waitingNode kind = slot.node := by
  have restores : ∀ l : MigrationSlotLimiter, l.slots = [] → slot ∈ (l.restore vmis migrations).slots →
      ∃ kvvmi ∈ vmis, MigrationSlotLimiter.restored l.kind migrations kvvmi = some slot := by
    intro l empty member
    unfold MigrationSlotLimiter.restore at member
    by_cases enabled : l.enabled = true
    · rw [if_pos enabled, empty] at member
      exact mem_filterMap.mp ((mem_foldl_insert.mp member).resolve_left not_mem_nil)
    rw [if_neg enabled, empty] at member
    cases member
  have told : ∃ kvvmi ∈ vmis, MigrationSlotLimiter.restored kind migrations kvvmi = some slot := by
    cases kind
    · exact restores (.newMigrationSlotLimiter _ _ .inbound) rfl member
    · exact restores (.newMigrationSlotLimiter _ _ .sync) rfl member
  obtain ⟨kvvmi, stored, isSlot⟩ := told
  unfold MigrationSlotLimiter.restored at isSlot
  split at isSlot
  · cases isSlot
  rename_i acquired
  split at isSlot
  · cases isSlot
  split at isSlot
  · cases isSlot
  rename_i named
  obtain ⟨_, owned, rfl⟩ := Option.map_eq_some_iff.mp isSlot
  exact ⟨kvvmi, stored, owned, named, not_not.mp acquired, rfl⟩

theorem tidy_restored {w : World} (start : restored settings place w) : Tidy place w := by
  unfold restored at start
  rw [and_eq_true, and_eq_true] at start
  obtain ⟨⟨idle, isRestored⟩, annotated⟩ := start
  have idle : w.pass = none := Option.isNone_iff_eq_none.mp idle
  have leader : w.leader = .setupController settings w.kvvmis.objects w.migrations := of_decide_eq_true isRestored
  refine .of_idle idle fun name kvvmi found kind _ member own => ?_
  rw [leader] at member
  obtain ⟨source, stored, owned, named, acquired, node⟩ := mem_setupController member
  -- The annotations are those of the machine itself.
  have isSource : source = kvvmi := by
    have same : source.key = name := by
      obtain ⟨_, -, isOwner⟩ := Option.map_eq_some_iff.mp owned
      rw [← key_of_get? found]
      rw [← isOwner] at own
      exact own
    have read := get?_of_mem stored
    rw [show key source = name from same, found] at read
    exact (Option.some.inj read).symm
  subst isSource
  have checked := all_eq_true.mp (all_eq_true.mp annotated source stored) kind (by cases kind <;> simp)
  rw [owned, decide_eq_true acquired, Bool.not_true, Bool.false_or, Option.all_some, Bool.or_eq_true,
    decide_eq_true_eq, decide_eq_true_eq, node] at checked
  exact ⟨owned, checked.resolve_left named, named, acquired, node⟩

namespace Tidy

variable {w : World}

section

variable (tidy : Tidy place w)
include tidy

theorem absent (idle : w.pass = none) (name : NamespacedName) :
    Tidy place { w with leader := w.leader.releaseByKVVMI name } := by
  refine .of_idle idle fun other kvvmi found kind => ?_
  refine (tidy.recorded other kvvmi found (by simp [idle]) kind).mono fun _ member _ => ?_
  cases kind
  all_goals exact mem_of_mem_filter member

theorem reads {name : NamespacedName} (idle : w.pass = none) (found : w.kvvmis.get? name = some kvvmi) :
    Tidy place { w with pass := some { current := kvvmi, outcome := none } } := by
  have isName : kvvmi.key = name := key_of_get? found
  refine ⟨?_, ?_, ?_, ?_⟩
  · intro other stored read _ kind
    exact tidy.recorded other stored read (by simp [idle]) kind
  · intro pass isPass stored read
    cases isPass
    rw [isName, found] at read
    exact (Option.some.inj read).symm
  · intro pass isPass _ kind
    cases isPass
    exact tidy.recorded name kvvmi found (by simp [idle]) kind
  intro pass outcome isPass isOutcome
  cases isPass
  cases isOutcome

theorem handles {reads : Reads} (under : w.pass = some { current, outcome := none })
    (fresh : ∀ migrations, reads.migrations = some migrations → migrations = w.migrations)
    (shown : shows place reads.targetPod current = true) (ok : calm w (.handle reads) = true) : Tidy place
      { w with
        leader := (handle reads w.leader.inbound w.leader.sync current).process
        pass := some
          { current
            outcome := some
              { changed := (handle reads w.leader.inbound w.leader.sync current).kvvmi
                failed := (handle reads w.leader.inbound w.leader.sync current).failed } } } := by
  have ends := handle_cases reads w.leader.inbound w.leader.sync current
  have before := tidy.reading _ under rfl
  refine ⟨?_, ?_, ?_, ?_⟩
  · intro name kvvmi found free kind
    have different : current.key ≠ name := free _ rfl rfl
    have isName : kvvmi.key = name := key_of_get? found
    have earlier := tidy.recorded name kvvmi found (by rw [under]; rintro pass ⟨⟩ ⟨⟩) kind
    refine earlier.mono fun slot member own => (ends.turns kind).other member ?_
    rw [own, isName]
    exact different.symm
  · intro pass isPass stored found
    cases isPass
    exact tidy.current _ under stored found
  · intro pass isPass pending
    cases isPass
    cases pending
  intro pass outcome isPass isOutcome
  cases isPass
  cases isOutcome
  refine ⟨ends.same.1, ends.same.2, fun kind => ends.recorded shown before kind, ?_⟩
  intro succeeded kind slot member own
  refine ends.live fresh before (fun due => ?_) succeeded member own
  dsimp only [calm] at ok
  rw [under, Option.all_some, due, Bool.not_true, Bool.false_or] at ok
  exact ok

theorem patched {outcome : Outcome} (under : w.pass = some { current, outcome := some outcome }) {kvvmi : KVVMI}
    (found : (patchKVVMI .ok current outcome.changed w.kvvmis).2.get? current.key = some kvvmi) (kind : Kind) :
    SameSlot kind outcome.changed kvvmi ∧ ∃ configuration,
      kvvmi.migrationState = current.migrationState.map ({ · with migrationConfiguration := configuration }) := by
  obtain ⟨keyed, owned, -⟩ := tidy.outcome _ outcome under rfl
  cases isStored : w.kvvmis.get? current.key with
  | none =>
    rcases patchKVVMI_cases .ok current outcome.changed w.kvvmis with same | ⟨_, _, before, -⟩
    · rw [same, isStored] at found
      cases found
    rw [isStored] at before
    cases before
  | some stored =>
    obtain rfl := tidy.current _ under stored isStored
    obtain ⟨_, patched, holds⟩ := patchKVVMI_current outcome.changed isStored
    have same := patch_own_same keyed owned patched kind
    obtain ⟨-, configuration, -⟩ := patch_migrationState patched
    rcases holds with as | ⟨_, as⟩
    · rw [as] at found
      cases found
      exact ⟨same, configuration⟩
    rw [as] at found
    cases found
    exact ⟨{ same with }, configuration⟩

theorem finishes {outcome : Outcome} (under : w.pass = some { current, outcome := some outcome }) :
    Tidy place { w with kvvmis := (patchKVVMI .ok current outcome.changed w.kvvmis).2, pass := none } := by
  obtain ⟨_, _, changed, -⟩ := tidy.outcome _ outcome under rfl
  refine .of_idle rfl fun name kvvmi found kind => ?_
  by_cases own : name = current.key
  · subst own
    exact (changed kind).same (tidy.patched under found kind).1
  have before : w.kvvmis.get? name = some kvvmi := by
    rcases patchKVVMI_cases .ok current outcome.changed w.kvvmis with same | ⟨_, new, isStored, patched, written⟩
    · rw [same] at found
      exact found
    have isNew : key new = current.key :=
      (patch_migrationState patched).1.trans (key_of_get? isStored)
    rw [written, get?_write_other (isNew ▸ own)] at found
    exact found
  refine tidy.recorded name kvvmi before (fun _ isPass _ => ?_) kind
  rw [under] at isPass
  cases isPass
  exact fun same => own same.symm

end

theorem not_reconciles {name : NamespacedName} (idle : w.reconciles name = false) :
    ∀ pass, w.pass = some pass → pass.current.key ≠ name := by
  intro pass under same
  unfold World.reconciles at idle
  rw [under, Option.any_some, decide_eq_false_iff_not] at idle
  exact idle same

variable (tidy : Tidy place w)
include tidy

theorem writes {old : KVVMI} (found : w.kvvmis.get? kvvmi.key = some old) (lawful : old.succeeds kvvmi)
    (ok : calm w (.write kvvmi)) : Tidy place { w with kvvmis := w.kvvmis.write kvvmi } := by
  dsimp only [calm] at ok
  rw [found, Option.all_some, and_eq_true, not_eq_true', or_eq_true, decide_eq_true_eq,
    not_eq_true'] at ok
  obtain ⟨idle, replaced⟩ := ok
  have free := not_reconciles idle
  have annotations : ∀ name ∈ slotKeys, kvvmi.annotation? name = old.annotation? name := by
    unfold KVVMI.succeeds at lawful
    rw [and_eq_true, all_eq_true] at lawful
    exact fun name member => of_decide_eq_true (lawful.1 name member)
  have oldKey : old.key = kvvmi.key := key_of_get? found
  refine ⟨?_, ?_, tidy.reading, tidy.outcome⟩
  · intro name other read pending kind
    rcases found_write read with ⟨rfl, rfl⟩ | ⟨-, read⟩
    · have before := tidy.recorded _ old found pending kind
      rcases replaced with same | bare
      · have slotKey : kind.slotKey ∈ slotKeys := by cases kind <;> decide
        have nodeKey : kind.nodeKey ∈ slotKeys := by cases kind <;> decide
        exact before.same ⟨oldKey.symm, same, annotations _ slotKey, annotations _ nodeKey⟩
      -- There are no slot annotations, so there is no slot.
      refine Recorded.none fun slot member own => ?_
      obtain ⟨-, -, -, acquired, -⟩ := before slot member (own.trans oldKey.symm)
      unfold KVVMI.hasMigrationSlot at bare
      rw [or_eq_false_iff] at bare
      cases kind
      · rw [acquired] at bare
        cases bare.1
      rw [acquired] at bare
      cases bare.2
    exact tidy.recorded name other read pending kind
  intro pass under stored read
  rw [get?_write_other (free pass under)] at read
  exact tidy.current pass under stored read

theorem creates {kvvmis : Store KVVMI} (created : w.kvvmis.create kvvmi = .ok kvvmis) (ok : calm w (.create kvvmi)) :
    Tidy place { w with kvvmis } := by
  dsimp only [calm] at ok
  rw [and_eq_true, not_eq_true', not_eq_true'] at ok
  obtain ⟨idle, slotless⟩ := ok
  have free := not_reconciles idle
  refine ⟨?_, ?_, tidy.reading, tidy.outcome⟩
  · intro name other read pending kind
    rw [get?_create created] at read
    split at read
    · cases read
      refine Recorded.none fun slot member own => ?_
      have none := any_eq_false.mp slotless kind (by cases kind <;> simp)
      exact none (any_eq_true.mpr ⟨slot, member, decide_eq_true own⟩)
    · exact tidy.recorded name other read pending kind
  intro pass under stored read
  rw [get?_create created] at read
  split at read
  · rename_i same
    exact absurd same (free pass under)
  · exact tidy.current pass under stored read

theorem deletes (name : NamespacedName) : Tidy place { w with kvvmis := w.kvvmis.remove name } := by
  refine ⟨?_, ?_, tidy.reading, tidy.outcome⟩
  · intro other kvvmi read pending kind
    exact tidy.recorded other kvvmi (of_get?_remove read) pending kind
  intro pass under stored read
  exact tidy.current pass under stored (of_get?_remove read)

theorem observes (ok : calm w (.observe migrations)) : Tidy place { w with migrations } := by
  refine ⟨tidy.recorded, tidy.current, tidy.reading, ?_⟩
  intro pass outcome under isOutcome
  obtain ⟨keyed, owned, changed, live⟩ := tidy.outcome pass outcome under isOutcome
  refine ⟨keyed, owned, changed, fun succeeded kind slot member own => ?_⟩
  obtain ⟨unfinished, active⟩ := live succeeded kind slot member own
  refine ⟨unfinished, ?_⟩
  dsimp only [calm] at ok
  rw [under, Option.all_some] at ok
  exact (of_decide_eq_true ok).trans active

theorem step {t : World} {event : Event} (ok : calm w event) (taken : step settings place w event = some t) :
    Tidy place t := by
  cases step_moves taken with
  | absent name idle => exact tidy.absent idle name
  | reads _ _ idle found => exact tidy.reads idle found
  | handles _ _ under fresh shown => exact tidy.handles under fresh shown ok
  | finishes answer _ _ under =>
    have applied : answer = .ok := of_decide_eq_true ok
    subst applied
    exact tidy.finishes under
  | writes _ _ found lawful => exact tidy.writes found lawful ok
  | creates _ _ _ _ created => exact tidy.creates created ok
  | deletes name => exact tidy.deletes name
  | observes => exact tidy.observes ok
  | setsUp => exact { tidy with }
  | leads => cases ok

end Tidy

def Clean (place : Owner → Kind → String) (w : World) (name : NamespacedName) : Prop :=
  ∀ kvvmi, w.kvvmis.get? name = some kvvmi → ∀ kind, ∀ slot ∈ (w.leader.limiter kind).slots,
    slot.owner.kvvmi = name → ownerKey kvvmi = some slot.owner ∧ slot.node = place slot.owner kind ∧
      Live w.migrations kvvmi

def endsWell (answer : Answer) (current : KVVMI) (outcome : Outcome) (kvvmis : Store KVVMI) : Bool :=
  !outcome.failed &&
    ((patchKVVMI answer current outcome.changed kvvmis).1 = .done ||
      (patchKVVMI answer current outcome.changed kvvmis).1 = .refused .conflict)

/-- In a calm life of a leader no slot is left behind. -/
theorem slots_do_not_leak (settings : Kind → Settings) (place : Owner → Kind → String) (start : World)
    (begins : restored settings place start = true) (events : List Event) (w t : World) (answer : Answer)
    (along : Along (step settings place) (fun w event => calm w event = true) start events)
    (reached : run (step settings place) start events = some w) (current : KVVMI) (outcome : Outcome)
    (under : w.pass = some { current, outcome := some outcome }) (ok : calm w (.finish answer) = true)
    (ends : endsWell answer current outcome w.kvvmis = true)
    (taken : step settings place w (.finish answer) = some t) : Clean place t current.key := by
  have tidy : Tidy place w :=
    run_invariant (fun _ _ _ tidy ok taken => tidy.step ok taken) (tidy_restored begins) along reached
  have applied : answer = .ok := of_decide_eq_true ok
  subst applied
  have later := tidy.step ok taken
  have isNext : t = { w with kvvmis := (patchKVVMI .ok current outcome.changed w.kvvmis).2, pass := none } := by
    dsimp only [step] at taken
    rw [under] at taken
    exact (Option.some.inj taken).symm
  subst isNext
  obtain ⟨-, -, -, live⟩ := tidy.outcome _ outcome under rfl
  intro kvvmi found kind slot member own
  have isKey : kvvmi.key = current.key := key_of_get? found
  obtain ⟨owned, placed, -⟩ := later.recorded _ kvvmi found (fun _ isPass => by cases isPass) kind slot member
    (own.trans isKey.symm)
  refine ⟨owned, placed, ?_⟩
  unfold endsWell at ends
  rw [and_eq_true, not_eq_true'] at ends
  obtain ⟨unfinished, active⟩ := live ends.1 kind slot member own
  obtain ⟨-, _, isState⟩ := tidy.patched under found kind
  refine ⟨?_, ?_⟩
  · rw [isState, Option.any_map]
    exact unfinished
  unfold hasActiveMigration at active ⊢
  rw [isKey]
  exact active

def oneAfterAnother : Owner → Kind → String
  | owner, .inbound => if owner.migrationUID = "m1" then "node-3" else "node-2"
  | _, .sync => "node-1"

def migrationOf (uid : String) (final : Bool) : VMIM := { uid, ns := "default", vmiName := "vm-1", final }

def firstMigration : List Event :=
  [.create (stopped "vm-1"), .observe [migrationOf "m1" false],
    .write (migratingTo "vm-1" "m1" "node-1" "node-3"), .start { ns := "default", name := "vm-1" },
    .handle (readsOf [migrationOf "m1" false])]

def slotsOfFirst : StringMap :=
  (((((∅ : StringMap).insert Kind.inbound.slotKey slotAcquired).insert Kind.inbound.nodeKey "node-3").insert
    Kind.sync.slotKey slotAcquired).insert Kind.sync.nodeKey "node-1")

def firstFailed : KVVMI :=
  { migratingTo "vm-1" "m1" "node-1" "node-3" with
    annotations := some slotsOfFirst
    migrationState := (migratingTo "vm-1" "m1" "node-1" "node-3").migrationState.map fun state =>
      { state with failed := true, migrationConfiguration := some (newMigrationConfiguration false none) } }

/-- The first migration fails and is reconciled before the next one begins. -/
def oneByOne : List Event :=
  firstMigration ++ [.finish .ok, .observe [migrationOf "m1" true], .write firstFailed,
    .start { ns := "default", name := "vm-1" }, .handle (readsOf [migrationOf "m1" true]), .finish .ok,
    .observe [migrationOf "m1" true, migrationOf "m2" false],
    .write { migratingTo "vm-1" "m2" "node-1" "node-2" with annotations := some ∅ },
    .start { ns := "default", name := "vm-1" },
    .handle (readsOf [migrationOf "m1" true, migrationOf "m2" false])]

def endsAt (w : World) (p : World → Bool) : Bool :=
  w.pass.any fun pass => pass.outcome.any fun outcome => endsWell .ok pass.current outcome w.kvvmis &&
    pass.current.key = { ns := "default", name := "vm-1" } && (step oneForEach oneAfterAnother w (.finish .ok)).any p

theorem exists_of_endsAt {w : World} {p : World → Bool} (ends : endsAt w p) :
    ∃ t current outcome, w.pass = some { current, outcome := some outcome } ∧
      endsWell .ok current outcome w.kvvmis = true ∧ current.key = { ns := "default", name := "vm-1" } ∧
      step oneForEach oneAfterAnother w (.finish .ok) = some t ∧ p t = true := by
  obtain ⟨⟨current, _⟩, under, rest⟩ := (Option.any_eq_true _ _).mp ends
  obtain ⟨outcome, isOutcome, rest⟩ := (Option.any_eq_true _ _).mp rest
  rw [and_eq_true, and_eq_true] at rest
  obtain ⟨t, taken, holds⟩ := (Option.any_eq_true _ _).mp rest.2
  subst isOutcome
  exact ⟨t, current, outcome, under, rest.1.1, of_decide_eq_true rest.1.2, taken, holds⟩

theorem slots_do_not_leak_next :
    ∃ w t, run (step oneForEach oneAfterAnother) (.initial oneForEach) oneByOne = some w ∧
      step oneForEach oneAfterAnother w (.finish .ok) = some t ∧
      t.leader.inbound.slots.map (·.owner.migrationUID) = ["m2"] ∧
      Clean oneAfterAnother t { ns := "default", name := "vm-1" } := by
  obtain ⟨w, reached, ends⟩ := (Option.any_eq_true
    (fun w => endsAt w (·.leader.inbound.slots.map (·.owner.migrationUID) = ["m2"]))
    (run (step oneForEach oneAfterAnother) (.initial oneForEach) oneByOne)).mp (by decide +kernel)
  obtain ⟨t, current, outcome, under, well, isKey, taken, held⟩ := exists_of_endsAt ends
  refine ⟨w, t, reached, taken, of_decide_eq_true held, ?_⟩
  rw [← isKey]
  exact slots_do_not_leak oneForEach oneAfterAnother (.initial oneForEach) (by decide +kernel) oneByOne w t .ok
    (by decide +kernel) reached current outcome under rfl well taken

/-- The first migration ends and the next one begins before the machine is reconciled again. -/
def coalesced : List Event :=
  firstMigration ++ [.finish .ok, .observe [migrationOf "m1" true, migrationOf "m2" false],
    .write { migratingTo "vm-1" "m2" "node-1" "node-2" with annotations := some slotsOfFirst },
    .start { ns := "default", name := "vm-1" },
    .handle (readsOf [migrationOf "m1" true, migrationOf "m2" false])]

/-- The reconcile ends well, and the slots of the first migration stay. With a limit of one the next migration waits for
    the slot of its predecessor. -/
theorem slot_leaks :
    ∃ w t current outcome, run (step oneForEach oneAfterAnother) (.initial oneForEach) coalesced = some w ∧
      w.pass = some { current, outcome := some outcome } ∧ endsWell .ok current outcome w.kvvmis = true ∧
      step oneForEach oneAfterAnother w (.finish .ok) = some t ∧ ¬ Clean oneAfterAnother t current.key := by
  obtain ⟨w, reached, ends⟩ := (Option.any_eq_true (fun w => endsAt w fun t =>
      (t.kvvmis.get? { ns := "default", name := "vm-1" }).any fun kvvmi =>
        (t.leader.inbound.slots.any fun slot => slot.owner.kvvmi = kvvmi.key && ownerKey kvvmi ≠ some slot.owner))
    (run (step oneForEach oneAfterAnother) (.initial oneForEach) coalesced)).mp (by decide +kernel)
  obtain ⟨t, current, outcome, under, well, isKey, taken, leaks⟩ := exists_of_endsAt ends
  refine ⟨w, t, current, outcome, reached, under, well, taken, fun clean => ?_⟩
  obtain ⟨kvvmi, found, leak⟩ := (Option.any_eq_true _ _).mp leaks
  obtain ⟨slot, member, left⟩ := any_eq_true.mp leak
  rw [and_eq_true, decide_eq_true_eq, decide_eq_true_eq] at left
  rw [isKey] at clean
  exact left.2 (clean kvvmi found .inbound slot member (left.1.trans (key_of_get? found))).1

end Virtualization.Migration.Slots
