import Virtualization.Migration.SlotWorld

namespace Virtualization.Migration.Slots

open Bool Virtualization.Core Library List MigrationSlotLimiter Reconcile Store

variable {settings : Kind → Settings} {place : Owner → Kind → String} {kind : Kind} {process : Process}
  {kvvmi current changed stored after : KVVMI}

@[simp] theorem KVVMI.clearMigrationSlot_migrationState (kind : Kind) (kvvmi : KVVMI) :
    (kvvmi.clearMigrationSlot kind).migrationState = kvvmi.migrationState := by
  unfold KVVMI.clearMigrationSlot
  split <;> rfl

@[simp] theorem KVVMI.clearMigrationSlot_key (kind : Kind) (kvvmi : KVVMI) :
    (kvvmi.clearMigrationSlot kind).key = kvvmi.key := by
  unfold KVVMI.clearMigrationSlot
  split <;> rfl

@[simp] theorem ownerKey_clearMigrationSlot (kind : Kind) (kvvmi : KVVMI) :
    ownerKey (kvvmi.clearMigrationSlot kind) = ownerKey kvvmi := by
  unfold ownerKey
  rw [KVVMI.clearMigrationSlot_migrationState, KVVMI.clearMigrationSlot_key]

def Holds (place : Owner → Kind → String) (kind : Kind) (process : Process) (kvvmi : KVVMI) : Prop :=
  ∃ owner, ownerKey kvvmi = some owner ∧ ⟨place owner kind, owner⟩ ∈ (process.limiter kind).slots

theorem setConfiguration_process (reads : Reads) (inbound sync : MigrationSlotLimiter)
    (targetNode sourceNode : String) (kvvmi : KVVMI) :
    (setConfiguration reads inbound sync targetNode sourceNode kvvmi).process = { inbound, sync } := by
  unfold setConfiguration
  dsimp only
  split <;> rfl

section Handler

variable {reads : Reads} {handled : Handled}

/-- What a pass does to one of the limiters. -/
inductive Turns (reads : Reads) (kvvmi : KVVMI) (l : MigrationSlotLimiter) : MigrationSlotLimiter → Prop where
  | same : Turns reads kvvmi l l
  | released {copy : KVVMI} (node : String) (decided : shouldReleaseSlots reads.migrations kvvmi = some true)
      (sameKey : copy.key = kvvmi.key) : Turns reads kvvmi l (l.release copy node)
  | acquired (node : String) (due : shouldUpdateMigrationConfiguration kvvmi)
      (ok : (l.acquireIfEnabled kvvmi node).1) : Turns reads kvvmi l (l.acquireIfEnabled kvvmi node).2
  | returned (node : String) (due : shouldUpdateMigrationConfiguration kvvmi) (ok : (l.acquireIfEnabled kvvmi node).1) :
      Turns reads kvvmi l ((l.acquireIfEnabled kvvmi node).2.release kvvmi node)

theorem Handles.turns (ends : Handles reads process.inbound process.sync kvvmi handled) (kind : Kind) :
    Turns reads kvvmi (process.limiter kind) (handled.process.limiter kind) := by
  cases ends with
  | failed | idle => cases kind <;> exact .same
  | released decided =>
    cases kind
    · exact .released _ decided rfl
    · exact .released _ decided (KVVMI.clearMigrationSlot_key ..)
  | acquires _ _ _ due _ _ ends =>
    cases ends with
    | waitsInbound => cases kind <;> exact .same
    | waitsSync ok =>
      cases kind
      · simp only [Handled.process, Process.limiter]
        split
        · exact .returned _ due ok
        · exact .same
      · exact .same
    | admitted inboundOk syncOk =>
      rw [setConfiguration_process]
      cases kind
      · exact .acquired _ due inboundOk
      · exact .acquired _ due syncOk

namespace Turns

variable {l next : MigrationSlotLimiter} {slot : Slot} (turns : Turns reads kvvmi l next)
include turns

theorem limits : next.enabled = l.enabled ∧ next.limit = l.limit := by
  cases turns with
  | same => exact ⟨rfl, rfl⟩
  | released => exact release_settings ..
  | acquired => exact acquireIfEnabled_settings ..
  | returned => simp [release_settings, acquireIfEnabled_settings]

theorem held_le (within : ∀ node, l.held node ≤ l.limit) (node : String) : next.held node ≤ l.limit := by
  cases turns with
  | same => exact within node
  | released => exact (held_release_le ..).trans (within node)
  | acquired => exact held_acquireIfEnabled_le within ..
  | returned => exact (held_release_le ..).trans (held_acquireIfEnabled_le within ..)

theorem keeps_slot (member : slot ∈ l.slots)
    (safe : slot.owner.kvvmi = kvvmi.key → shouldReleaseSlots reads.migrations kvvmi ≠ some true ∧
      shouldUpdateMigrationConfiguration kvvmi = false) : slot ∈ next.slots := by
  cases turns with
  | same => exact member
  | released _ decided sameKey =>
    exact mem_release_other member fun own => (safe (own.trans sameKey)).1 decided
  | acquired _ _ ok => exact (acquireIfEnabled_true ok).1 member
  | returned _ due ok =>
    refine mem_release_other ((acquireIfEnabled_true ok).1 member) fun own => ?_
    cases due.symm.trans (safe own).2

theorem other (member : slot ∈ next.slots) (other : slot.owner.kvvmi ≠ kvvmi.key) : slot ∈ l.slots := by
  have own : ∀ {node : String}, (l.acquireIfEnabled kvvmi node).1 → slot ∈ (l.acquireIfEnabled kvvmi node).2.slots →
      slot ∈ l.slots := by
    intro node ok member
    rcases (acquireIfEnabled_true ok).2.1 slot member with before | ⟨-, -, -, owned⟩
    · exact before
    obtain ⟨_, -, isOwner⟩ := Option.map_eq_some_iff.mp owned
    rw [← isOwner] at other
    exact absurd rfl other
  cases turns with
  | same => exact member
  | released => exact mem_of_mem_release member
  | acquired _ _ ok => exact own ok member
  | returned _ _ ok => exact own ok (mem_of_mem_release member)

end Turns

theorem shows_target {targetPod : Option (Option String)} {owner : Owner} {node : String}
    (shown : shows place targetPod kvvmi) (owned : ownerKey kvvmi = some owner)
    (found : resolveTargetNode targetPod kvvmi = some node) (named : node ≠ "") : node = place owner .inbound := by
  unfold shows at shown
  rw [owned, Option.all_some, found, Option.all_some, and_eq_true, or_eq_true] at shown
  exact shown.1.elim (fun none => absurd (of_decide_eq_true none) named) of_decide_eq_true

theorem shows_source {targetPod : Option (Option String)} {owner : Owner}
    (shown : shows place targetPod kvvmi) (owned : ownerKey kvvmi = some owner)
    (named : resolveSourceNode kvvmi ≠ "") : resolveSourceNode kvvmi = place owner .sync := by
  unfold shows at shown
  rw [owned, Option.all_some, and_eq_true, or_eq_true] at shown
  exact shown.2.elim (fun none => absurd (of_decide_eq_true none) named) of_decide_eq_true

theorem Handles.grants (ends : Handles reads process.inbound process.sync kvvmi handled)
    (shown : shows place reads.targetPod kvvmi) : handled.kvvmi.migrationState = kvvmi.migrationState ∨
      ∀ kind, (process.limiter kind).enabled → Holds place kind handled.process kvvmi := by
  cases ends with
  | failed | idle => exact .inl rfl
  | released => exact .inl (by simp)
  | acquires _ _ _ _ target _ ends =>
    cases ends with
    | waitsInbound | waitsSync =>
      refine .inl ?_
      split
      · exact KVVMI.clearMigrationSlot_migrationState ..
      · rfl
    | admitted inboundOk syncOk =>
      refine .inr fun kind enabled => ?_
      rw [setConfiguration_process]
      cases kind with
      | inbound =>
        obtain ⟨named, owner, owned, member⟩ := (acquireIfEnabled_true inboundOk).2.2 enabled
        refine ⟨owner, owned, ?_⟩
        rw [← shows_target shown owned (target enabled).1 named]
        exact member
      | sync =>
        obtain ⟨named, owner, owned, member⟩ := (acquireIfEnabled_true syncOk).2.2 enabled
        refine ⟨owner, owned, ?_⟩
        rw [← shows_source shown owned named]
        exact member

end Handler

theorem patch_migrationState
    (patched : stored.patch (generateMigrationConfigurationPatch current changed) = some after) :
    after.key = stored.key ∧
      (∃ configuration, after.migrationState =
        stored.migrationState.map ({ · with migrationConfiguration := configuration })) ∧
      (configurationPatch current changed = [] → after.migrationState = stored.migrationState) := by
  unfold KVVMI.patch at patched
  split at patched
  · cases patched
  obtain ⟨document, applied, rfl⟩ := Option.map_eq_some_iff.mp patched
  refine ⟨rfl, ⟨document .migrationConfiguration, rfl⟩, fun unset => ?_⟩
  have same : document .migrationConfiguration = stored.document .migrationConfiguration := by
    rw [generateMigrationConfigurationPatch, unset, nil_append] at applied
    exact applyPatch_other applied (fun _ => annotationsPatch_path) (by simp)
  change stored.migrationState.map ({ · with migrationConfiguration := document .migrationConfiguration }) = _
  rw [same]
  cases isState : stored.migrationState with
  | none => rfl
  | some state =>
    have own : stored.document .migrationConfiguration = state.migrationConfiguration := by
      simp only [KVVMI.document, isState]
      rfl
    rw [own, Option.map_some]

theorem patchKVVMI_cases (answer : Answer) (current changed : KVVMI) (kvvmis : Store KVVMI) :
    (patchKVVMI answer current changed kvvmis).2 = kvvmis ∨
      ∃ stored new, kvvmis.get? current.key = some stored ∧
        stored.patch (generateMigrationConfigurationPatch current changed) = some new ∧
        (patchKVVMI answer current changed kvvmis).2 = kvvmis.write new := by
  unfold patchKVVMI
  dsimp only
  split
  · exact .inl rfl
  split
  · exact .inl rfl
  · exact .inl rfl
  · exact .inl rfl
  rename_i stored _ _ found
  split
  · exact .inl rfl
  rename_i new patched
  exact .inr ⟨stored, new, found, patched, rfl⟩

def Follows (copy stored : KVVMI) : Prop :=
  ∀ state, stored.migrationState = some state → ∃ old, copy.migrationState = some old ∧
    old.migrationUID = state.migrationUID ∧ old.migrationConfiguration = state.migrationConfiguration ∧
    (old.completed → state.completed) ∧ (old.failed → state.failed)

theorem Follows.refl (kvvmi : KVVMI) : Follows kvvmi kvvmi :=
  fun state found => ⟨state, found, rfl, rfl, id, id⟩

theorem KVVMI.succeeds_state {old new : KVVMI} {state : MigrationState} (lawful : old.succeeds new)
    (found : new.migrationState = some state) :
    (∃ before, old.migrationState = some before ∧ before.migrationUID = state.migrationUID ∧
        before.migrationConfiguration = state.migrationConfiguration ∧
        (before.completed → state.completed) ∧ (before.failed → state.failed)) ∨
      state.migrationConfiguration = none := by
  unfold KVVMI.succeeds at lawful
  rw [and_eq_true, found, Option.all_some] at lawful
  have succeeds := lawful.2
  unfold MigrationState.succeeds at succeeds
  split at succeeds
  · exact .inr (of_decide_eq_true succeeds)
  rename_i before isBefore
  split at succeeds
  · rename_i same
    simp only [and_eq_true, decide_eq_true_eq, or_eq_true, not_eq_true'] at succeeds
    obtain ⟨⟨configuration, completed⟩, failed⟩ := succeeds
    refine .inl ⟨before, isBefore, same, configuration.symm, fun ended => ?_, fun ended => ?_⟩
    · rw [ended] at completed
      exact completed.resolve_left nofun
    rw [ended] at failed
    exact failed.resolve_left nofun
  · exact .inr (of_decide_eq_true succeeds)

variable {migrations : List VMIM}

theorem running_state (runs : running migrations kvvmi) :
    ∃ state, kvvmi.migrationState = some state ∧ state.completed = false ∧ state.failed = false ∧
      state.migrationConfiguration.isSome ∧ backed migrations kvvmi state := by
  obtain ⟨state, found, live⟩ := (Option.any_eq_true _ _).mp runs
  simp only [and_eq_true, not_eq_true'] at live
  exact ⟨state, found, live.1.1.1, live.1.1.2, live.1.2, live.2⟩

theorem running_of_state {state : MigrationState} (found : kvvmi.migrationState = some state)
    (completed : state.completed = false) (failed : state.failed = false)
    (configured : state.migrationConfiguration.isSome) (live : backed migrations kvvmi state) :
    running migrations kvvmi := by
  unfold running
  rw [found, Option.any_some, completed, failed, configured, live]
  rfl

theorem running_before_write {old new : KVVMI} (lawful : old.succeeds new) (sameKey : old.key = new.key)
    (runs : running migrations new) : running migrations old ∧ ownerKey old = ownerKey new := by
  obtain ⟨_, found, completed, failed, configured, live⟩ := running_state runs
  rcases KVVMI.succeeds_state lawful found with ⟨_, isBefore, uid, configuration, ended, broken⟩ | unset
  · constructor
    · refine running_of_state isBefore ?_ ?_ (configuration ▸ configured) ?_
      · exact not_eq_true _ ▸ fun done => absurd (ended done) (completed ▸ nofun)
      · exact not_eq_true _ ▸ fun done => absurd (broken done) (failed ▸ nofun)
      unfold backed at live ⊢
      rw [uid, sameKey]
      exact live
    unfold ownerKey
    rw [isBefore, found, Option.map_some, Option.map_some, uid, sameKey]
  rw [unset] at configured
  cases configured

theorem handler_leaves_running {reads : Reads} (follows : Follows current stored) (sameKey : stored.key = current.key)
    (runs : running migrations stored) (fresh : ∀ listed, reads.migrations = some listed → listed = migrations) :
    shouldReleaseSlots reads.migrations current ≠ some true ∧
      shouldUpdateMigrationConfiguration current = false := by
  obtain ⟨state, found, completed, failed, configured, live⟩ := running_state runs
  obtain ⟨old, isOld, -, configuration, ended, broken⟩ := follows state found
  have notCompleted : old.completed = false := not_eq_true _ ▸ fun done => absurd (ended done) (completed ▸ nofun)
  have notFailed : old.failed = false := not_eq_true _ ▸ fun done => absurd (broken done) (failed ▸ nofun)
  constructor
  · unfold shouldReleaseSlots
    rw [isOld, Option.any_some, notCompleted, notFailed, if_neg (by decide)]
    split
    · nofun
    cases listed : reads.migrations with
    | none => nofun
    | some list =>
      have active : hasActiveMigration list current := by
        rw [fresh list listed]
        obtain ⟨m, member, isBacking⟩ := any_eq_true.mp live
        refine any_eq_true.mpr ⟨m, member, ?_⟩
        have backing := of_decide_eq_true isBacking
        rw [sameKey] at backing
        exact decide_eq_true ⟨backing.2.1, backing.2.2.1, backing.2.2.2⟩
      rw [Option.map_some, active]
      nofun
  unfold shouldUpdateMigrationConfiguration
  rw [isOld, Option.any_some, decide_eq_false_iff_not]
  rintro ⟨-, -, unset⟩
  rw [← configuration, unset] at configured
  cases configured

/-- The registry of a process has a slot for every migration that runs, and no more slots on a node than allowed. -/
def upToDate (place : Owner → Kind → String) (w : World) (process : Process) : Bool :=
  [Kind.inbound, .sync].all fun kind =>
    !(process.limiter kind).enabled ||
      (w.kvvmis.objects.all fun kvvmi => !running w.migrations kvvmi ||
        (ownerKey kvvmi).any fun owner => ⟨place owner kind, owner⟩ ∈ (process.limiter kind).slots) &&
      (process.limiter kind).slots.all fun slot =>
        (process.limiter kind).held slot.node ≤ (process.limiter kind).limit

/-- A process that takes over has a registry that is up to date, and a migration is not replaced by another one while
    its machine is reconciled. -/
def orderly (place : Owner → Kind → String) (w : World) : Event → Bool
  | .lead index => (w.standby[index]?).all (upToDate place w)
  | .write kvvmi => (w.kvvmis.get? kvvmi.key).all fun old =>
      !(w.pass.any (·.current.key = kvvmi.key)) ||
        kvvmi.migrationState.map (·.migrationUID) = old.migrationState.map (·.migrationUID)
  | _ => true

def Configured (settings : Kind → Settings) (process : Process) : Prop :=
  ∀ kind, (process.limiter kind).enabled = (settings kind).enabled ∧
    (process.limiter kind).limit = max (settings kind).limit 1

structure WithinLimit (settings : Kind → Settings) (place : Owner → Kind → String) (w : World) : Prop where
  leader : Configured settings w.leader
  standby : ∀ process ∈ w.standby, Configured settings process
  capacity : ∀ kind, (w.leader.limiter kind).enabled → ∀ node,
    (w.leader.limiter kind).held node ≤ (w.leader.limiter kind).limit
  covered : ∀ kind, (w.leader.limiter kind).enabled → ∀ name kvvmi, w.kvvmis.get? name = some kvvmi →
    running w.migrations kvvmi → Holds place kind w.leader kvvmi
  reading : ∀ pass, w.pass = some pass → ∀ stored, w.kvvmis.get? pass.current.key = some stored →
    Follows pass.current stored
  granted : ∀ pass outcome, w.pass = some pass → pass.outcome = some outcome →
    configurationPatch pass.current outcome.changed = [] ∨
      ∀ kind, (w.leader.limiter kind).enabled → Holds place kind w.leader pass.current

theorem setupController_configured (settings : Kind → Settings) (vmis : List KVVMI) (migrations : List VMIM) :
    Configured settings (.setupController settings vmis migrations) := by
  have restored : ∀ (l : MigrationSlotLimiter), (l.restore vmis migrations).enabled = l.enabled ∧
      (l.restore vmis migrations).limit = l.limit := by
    intro l
    unfold restore
    split <;> exact ⟨rfl, rfl⟩
  intro kind
  cases kind
  all_goals exact restored (.newMigrationSlotLimiter _ _ _)

theorem withinLimit_initial (settings : Kind → Settings) (place : Owner → Kind → String) :
    WithinLimit settings place (.initial settings) where
  leader := setupController_configured settings [] []
  standby := fun _ => nofun
  capacity := by
    intro kind _ node
    have empty : ((World.initial settings).leader.limiter kind).slots = [] := by
      cases kind
      all_goals
        simp only [World.initial, Process.setupController, Process.limiter, restore]
        split <;> rfl
    unfold held
    rw [empty]
    exact Nat.zero_le _
  covered := fun _ _ name kvvmi found => by cases found
  reading := fun pass under => by cases under
  granted := fun pass outcome under => by cases under

namespace WithinLimit

variable {w : World}

section

variable (inv : WithinLimit settings place w)
include inv

theorem absent {name : NamespacedName} (idle : w.pass = none) (gone : w.kvvmis.get? name = none) :
    WithinLimit settings place { w with leader := w.leader.releaseByKVVMI name } where
  leader := fun kind => by
    cases kind
    · exact inv.leader .inbound
    · exact inv.leader .sync
  standby := inv.standby
  capacity := by
    intro kind enabled node
    cases kind
    · exact filter_sublist.countP_le.trans (inv.capacity .inbound enabled node)
    · exact filter_sublist.countP_le.trans (inv.capacity .sync enabled node)
  covered := by
    intro kind enabled other kvvmi found runs
    have kept : (w.leader.limiter kind).enabled := by cases kind <;> exact enabled
    obtain ⟨owner, owned, member⟩ := inv.covered kind kept other kvvmi found runs
    refine ⟨owner, owned, ?_⟩
    have different : owner.kvvmi ≠ name := by
      obtain ⟨_, -, rfl⟩ := Option.map_eq_some_iff.mp owned
      intro same
      have isOther : kvvmi.key = other := key_of_get? found
      rw [← isOther, show kvvmi.key = name from same, gone] at found
      cases found
    cases kind
    all_goals exact mem_filter.mpr ⟨member, decide_eq_true different⟩
  reading := fun pass under => by rw [idle] at under; cases under
  granted := fun pass outcome under => by rw [idle] at under; cases under

theorem handles {reads : Reads} (under : w.pass = some { current, outcome := none })
    (fresh : ∀ migrations, reads.migrations = some migrations → migrations = w.migrations)
    (shown : shows place reads.targetPod current = true) : WithinLimit settings place
      { w with
        leader := (handle reads w.leader.inbound w.leader.sync current).process
        pass := some
          { current
            outcome := some
              { changed := (handle reads w.leader.inbound w.leader.sync current).kvvmi
                failed := (handle reads w.leader.inbound w.leader.sync current).failed } } } where
  leader := fun kind => by
    obtain ⟨enabled, limit⟩ := ((handle_cases reads w.leader.inbound w.leader.sync current).turns kind).limits
    rw [enabled, limit]
    exact inv.leader kind
  standby := inv.standby
  capacity := by
    intro kind enabled node
    have turns := (handle_cases reads w.leader.inbound w.leader.sync current).turns kind
    rw [turns.limits.1] at enabled
    rw [turns.limits.2]
    exact turns.held_le (inv.capacity kind enabled) node
  covered := by
    intro kind enabled name kvvmi found runs
    have turns := (handle_cases reads w.leader.inbound w.leader.sync current).turns kind
    rw [turns.limits.1] at enabled
    obtain ⟨owner, owned, member⟩ := inv.covered kind enabled name kvvmi found runs
    refine ⟨owner, owned, turns.keeps_slot member fun own => ?_⟩
    -- The slot is one of the machine that is reconciled, which then runs the migration of the copy.
    have sameKey : kvvmi.key = current.key := by
      obtain ⟨_, -, rfl⟩ := Option.map_eq_some_iff.mp owned
      exact own
    have isName : kvvmi.key = name := key_of_get? found
    refine handler_leaves_running ?_ sameKey runs fresh
    exact inv.reading _ under kvvmi (by rw [← sameKey, isName]; exact found)
  reading := by
    intro pass isPass stored found
    cases isPass
    exact inv.reading _ under stored found
  granted := by
    intro pass outcome isPass isOutcome
    cases isPass
    cases isOutcome
    have ends := handle_cases reads w.leader.inbound w.leader.sync current
    refine (ends.grants shown).imp configurationPatch_of_same fun granted kind enabled => ?_
    rw [(ends.turns kind).limits.1] at enabled
    exact granted kind enabled

theorem finishes {answer : Answer} {outcome : Outcome} (under : w.pass = some { current, outcome := some outcome }) :
    WithinLimit settings place
      { w with kvvmis := (patchKVVMI answer current outcome.changed w.kvvmis).2, pass := none } :=
  { inv with
    covered := by
      intro kind enabled name kvvmi found runs
      rcases patchKVVMI_cases answer current outcome.changed w.kvvmis with
        same | ⟨stored, new, before, patched, written⟩
      · rw [same] at found
        exact inv.covered kind enabled name kvvmi found runs
      rw [written] at found
      obtain ⟨sameKey, ⟨_, isNew⟩, unset⟩ := patch_migrationState patched
      have storedKey : stored.key = current.key := key_of_get? before
      rcases found_write found with ⟨own, rfl⟩ | ⟨-, found⟩
      · have storedName : w.kvvmis.get? name = some stored := by
          rw [own, show key new = new.key from rfl, sameKey, storedKey]
          exact before
        obtain ⟨state, isState, -⟩ := running_state runs
        have isState : new.migrationState = some state := isState
        have sameOwner : ownerKey new = ownerKey stored := by
          unfold ownerKey
          rw [isNew, Option.map_map, sameKey]
          rfl
        rcases inv.granted _ outcome under rfl with nothing | granted
        · have same := unset nothing
          have ran : running w.migrations stored := by
            have runs : running w.migrations new := runs
            unfold running backed at runs ⊢
            rw [same, sameKey] at runs
            exact runs
          obtain ⟨owner, owned, member⟩ := inv.covered kind enabled name stored storedName ran
          exact ⟨owner, (sameOwner.trans owned :), member⟩
        obtain ⟨owner, owned, member⟩ := granted kind enabled
        refine ⟨owner, (sameOwner.trans ?_ :), member⟩
        rw [isNew] at isState
        obtain ⟨was, isWas, -⟩ := Option.map_eq_some_iff.mp isState
        obtain ⟨_, isOld, uid, -⟩ := inv.reading _ under stored before was isWas
        rw [← owned]
        unfold ownerKey
        rw [isWas, isOld, Option.map_some, Option.map_some, uid, storedKey]
      exact inv.covered kind enabled name kvvmi found runs
    reading := fun pass isPass => by cases isPass
    granted := fun pass outcome isPass => by cases isPass }

theorem writes {old : KVVMI} (found : w.kvvmis.get? kvvmi.key = some old)
    (lawful : old.succeeds kvvmi) (ok : orderly place w (.write kvvmi)) :
    WithinLimit settings place { w with kvvmis := w.kvvmis.write kvvmi } :=
  { inv with
    covered := by
      intro kind enabled name other read runs
      rcases found_write read with ⟨rfl, rfl⟩ | ⟨-, read⟩
      · obtain ⟨ran, sameOwner⟩ := running_before_write lawful (key_of_get? found) runs
        obtain ⟨owner, owned, member⟩ := inv.covered kind enabled _ old found ran
        exact ⟨owner, (sameOwner.symm.trans owned :), member⟩
      exact inv.covered kind enabled name other read runs
    reading := by
      intro pass under stored read
      rcases found_write read with ⟨own, rfl⟩ | ⟨-, read⟩
      · have followed := inv.reading pass under old (by rw [own]; exact found)
        -- The write does not replace the migration that is reconciled.
        have sameUID : kvvmi.migrationState.map (·.migrationUID) = old.migrationState.map (·.migrationUID) := by
          dsimp only [orderly] at ok
          rw [found, Option.all_some, under, Option.any_some,
            show decide (pass.current.key = kvvmi.key) = true from decide_eq_true own] at ok
          exact of_decide_eq_true ok
        intro state isState
        have isState : kvvmi.migrationState = some state := isState
        rw [isState, Option.map_some] at sameUID
        obtain ⟨before, isBefore, uid⟩ := Option.map_eq_some_iff.mp sameUID.symm
        obtain ⟨copy, isCopy, copyUID, copyConfiguration, completed, failed⟩ := followed before isBefore
        refine ⟨copy, isCopy, copyUID.trans uid, ?_⟩
        unfold KVVMI.succeeds at lawful
        rw [and_eq_true, isState, Option.all_some, isBefore, MigrationState.succeeds, if_pos uid] at lawful
        have succeeds := lawful.2
        simp only [and_eq_true, decide_eq_true_eq, or_eq_true, not_eq_true'] at succeeds
        refine ⟨copyConfiguration.trans succeeds.1.1.symm, fun ended => ?_, fun ended => ?_⟩
        · exact succeeds.1.2.resolve_left fun open' => by rw [completed ended] at open'; cases open'
        · exact succeeds.2.resolve_left fun open' => by rw [failed ended] at open'; cases open'
      exact inv.reading pass under stored read }

theorem creates {kvvmis : Store KVVMI} (new : kvvmi.migrationState = none)
    (created : w.kvvmis.create kvvmi = .ok kvvmis) : WithinLimit settings place { w with kvvmis } :=
  { inv with
    covered := by
      intro kind enabled name other read runs
      rw [get?_create created] at read
      split at read
      · cases read
        obtain ⟨state, isState, -⟩ := running_state runs
        have isState : kvvmi.migrationState = some state := isState
        rw [new] at isState
        cases isState
      · exact inv.covered kind enabled name other read runs
    reading := by
      intro pass under stored read
      rw [get?_create created] at read
      split at read
      · cases read
        intro state isState
        have isState : kvvmi.migrationState = some state := isState
        rw [new] at isState
        cases isState
      · exact inv.reading pass under stored read }

theorem deletes (name : NamespacedName) : WithinLimit settings place { w with kvvmis := w.kvvmis.remove name } :=
  { inv with
    covered := by
      intro kind enabled other kvvmi read runs
      exact inv.covered kind enabled other kvvmi (of_get?_remove read) runs
    reading := by
      intro pass under stored read
      exact inv.reading pass under stored (of_get?_remove read) }

theorem observes {migrations : List VMIM} (lawful : ∀ m ∈ migrations, m.final = false → m ∈ w.migrations ∨
      ∀ kvvmi ∈ w.kvvmis.objects, ∀ state, kvvmi.migrationState = some state → state.migrationUID ≠ m.uid) :
    WithinLimit settings place { w with migrations } :=
  { inv with
    covered := by
      intro kind enabled name kvvmi found runs
      obtain ⟨state, isState, completed, failed, configured, live⟩ := running_state runs
      refine inv.covered kind enabled name kvvmi found ?_
      refine running_of_state isState completed failed configured ?_
      obtain ⟨m, member, isBacking⟩ := any_eq_true.mp live
      have backing := of_decide_eq_true isBacking
      rcases lawful m member (not_eq_true _ ▸ backing.2.2.2) with before | unknown
      · exact any_eq_true.mpr ⟨m, before, isBacking⟩
      · exact absurd backing.1.symm (unknown kvvmi (mem_of_get? found) state isState) }

theorem leads {index : Nat} {process : Process}
    (waits : w.standby[index]? = some process) (ok : orderly place w (.lead index)) : WithinLimit settings place
      { w with leader := process, standby := w.standby.eraseIdx index, pass := none } := by
  have current : ∀ kind, (process.limiter kind).enabled →
      (∀ kvvmi ∈ w.kvvmis.objects, running w.migrations kvvmi = true → Holds place kind process kvvmi) ∧
        ∀ slot ∈ (process.limiter kind).slots,
          (process.limiter kind).held slot.node ≤ (process.limiter kind).limit := by
    intro kind enabled
    dsimp only [orderly] at ok
    rw [waits, Option.all_some] at ok
    have checked := all_eq_true.mp ok kind (by cases kind <;> simp)
    rw [enabled, Bool.not_true, Bool.false_or, Bool.and_eq_true, all_eq_true, all_eq_true] at checked
    refine ⟨fun kvvmi member runs => ?_, fun slot member => of_decide_eq_true (checked.2 slot member)⟩
    have holds := checked.1 kvvmi member
    rw [runs, Bool.not_true, Bool.false_or] at holds
    obtain ⟨owner, owned, held⟩ := (Option.any_eq_true _ _).mp holds
    exact ⟨owner, owned, of_decide_eq_true held⟩
  exact
    { leader := inv.standby process (mem_of_getElem? waits)
      standby := fun other member => inv.standby other (mem_of_mem_eraseIdx member)
      capacity := by
        intro kind enabled node
        by_cases used : ∃ slot ∈ (process.limiter kind).slots, slot.node = node
        · obtain ⟨slot, member, rfl⟩ := used
          exact (current kind enabled).2 slot member
        have none : (process.limiter kind).held node = 0 := by
          refine countP_eq_zero.mpr fun slot member here => used ⟨slot, member, of_decide_eq_true here⟩
        exact none ▸ Nat.zero_le _
      covered := fun kind enabled name kvvmi found runs =>
        (current kind enabled).1 kvvmi (mem_of_get? found) runs
      reading := fun pass isPass => by cases isPass
      granted := fun pass outcome isPass => by cases isPass }

theorem step {t : World} {event : Event} (ok : orderly place w event)
    (taken : step settings place w event = some t) : WithinLimit settings place t := by
  cases step_moves taken with
  | absent _ idle gone => exact inv.absent idle gone
  | reads name kvvmi _ found =>
    refine { inv with reading := ?_, granted := ?_ }
    · intro pass isPass stored read
      cases isPass
      rw [show kvvmi.key = name from key_of_get? found, found] at read
      cases read
      exact .refl _
    intro pass outcome isPass isOutcome
    cases isPass
    cases isOutcome
  | handles _ _ under fresh shown => exact inv.handles under fresh shown
  | finishes _ _ _ under => exact inv.finishes under
  | writes _ _ found lawful => exact inv.writes found lawful ok
  | creates _ _ new _ created => exact inv.creates new created
  | deletes name => exact inv.deletes name
  | observes _ lawful => exact inv.observes lawful
  | setsUp =>
    refine { inv with standby := fun process member => ?_ }
    rcases mem_append.mp member with before | new
    · exact inv.standby process before
    rw [mem_singleton.mp new]
    exact setupController_configured _ _ _
  | leads _ _ waits => exact inv.leads waits ok

theorem count_le (enabled : (w.leader.limiter kind).enabled) (node : String) :
    (w.kvvmis.objects.countP fun kvvmi => running w.migrations kvvmi ∧
      (ownerKey kvvmi).map (place · kind) = some node) ≤ (w.leader.limiter kind).held node := by
  let selected := w.kvvmis.objects.filter fun kvvmi => running w.migrations kvvmi ∧
    (ownerKey kvvmi).map (place · kind) = some node
  let slotOf : KVVMI → Slot := fun kvvmi =>
    ⟨node, { kvvmi := kvvmi.key, migrationUID := (kvvmi.migrationState.map (·.migrationUID)).getD "" }⟩
  have distinct : (selected.map slotOf).Nodup := by
    have keys : (selected.map key).Nodup := w.kvvmis.unique.sublist (filter_sublist.map key)
    refine List.Nodup.of_map (fun slot : Slot => slot.owner.kvvmi) ?_
    rw [map_map]
    exact keys
  have within : selected.map slotOf ⊆ (w.leader.limiter kind).slots.filter (·.node = node) := by
    intro slot member
    obtain ⟨kvvmi, chosen, rfl⟩ := mem_map.mp member
    obtain ⟨stored, isChosen⟩ := mem_filter.mp chosen
    obtain ⟨runs, placed⟩ := of_decide_eq_true isChosen
    obtain ⟨owner, owned, held⟩ := inv.covered kind enabled _ kvvmi (get?_of_mem stored) runs
    rw [owned, Option.map_some] at placed
    have isSlot : slotOf kvvmi = ⟨place owner kind, owner⟩ := by
      obtain ⟨_, isState, rfl⟩ := Option.map_eq_some_iff.mp owned
      rw [Option.some.inj placed]
      simp only [slotOf, isState, Option.map_some, Option.getD_some]
    refine mem_filter.mpr ⟨isSlot ▸ held, ?_⟩
    simp only [slotOf, decide_true]
  calc w.kvvmis.objects.countP _ = selected.length := countP_eq_length_filter ..
    _ = (selected.map slotOf).length := (length_map ..).symm
    _ ≤ ((w.leader.limiter kind).slots.filter (·.node = node)).length := (distinct.subperm within).length_le
    _ = (w.leader.limiter kind).held node := (countP_eq_length_filter ..).symm

end

end WithinLimit

/-- No node has more migrations that run than its limit, if a process takes over only with a registry that is up to date
    and no migration is replaced while its machine is reconciled. -/
theorem migrations_within_limit (settings : Kind → Settings) (place : Owner → Kind → String) (events : List Event)
    (w : World)
    (along : Along (step settings place) (fun w event => orderly place w event = true) (.initial settings) events)
    (reached : run (step settings place) (.initial settings) events = some w) (kind : Kind)
    (enabled : (settings kind).enabled = true) (atLeastOne : 1 ≤ (settings kind).limit) (node : String) :
    (w.kvvmis.objects.countP fun kvvmi => running w.migrations kvvmi ∧
      (ownerKey kvvmi).map (place · kind) = some node) ≤ (settings kind).limit := by
  have inv : WithinLimit settings place w :=
    run_invariant (fun _ _ _ inv ok taken => inv.step ok taken) (withinLimit_initial settings place) along reached
  have limited : (w.leader.limiter kind).enabled = true := (inv.leader kind).1.trans enabled
  calc _ ≤ (w.leader.limiter kind).held node := inv.count_le limited node
    _ ≤ (w.leader.limiter kind).limit := inv.capacity kind limited node
    _ = (settings kind).limit := by rw [(inv.leader kind).2, Nat.max_eq_left atLeastOne]

def oneForEach : Kind → Settings := fun _ => { enabled := true, limit := 1 }

def toOneNode : Owner → Kind → String
  | _, .inbound => "node-3"
  | owner, .sync => if owner.migrationUID = "m1" then "node-1" else "node-2"

def stopped (name : String) : KVVMI where
  key := { ns := "default", name }
  resourceVersion := 0
  annotations := none
  nodeName := ""
  migrationState := none

def migratingTo (name uid sourceNode targetNode : String) : KVVMI :=
  { stopped name with
    nodeName := sourceNode
    migrationState := some
      { migrationUID := uid, completed := false, failed := false, sourceNode, targetNode, targetPod := ""
        migrationConfiguration := none } }

def twoMigrations : List VMIM :=
  [{ uid := "m1", ns := "default", vmiName := "vm-1", final := false },
    { uid := "m2", ns := "default", vmiName := "vm-2", final := false }]

def readsOf (migrations : List VMIM) : Reads where
  migrations := some migrations
  targetPod := some none
  vm := some none
  kvconfig := some none
  vmopInProgress := some none
  override := none

def reconciled (name : String) : List Event :=
  [.start { ns := "default", name }, .handle (readsOf twoMigrations), .finish .ok]

def twoStarting : List Event :=
  [.create (stopped "vm-1"), .create (stopped "vm-2"), .observe twoMigrations,
    .write (migratingTo "vm-1" "m1" "node-1" "node-3"), .write (migratingTo "vm-2" "m2" "node-2" "node-3")]

def takeoverInTime : List Event := twoStarting ++ reconciled "vm-1" ++ [.setup, .lead 0] ++ reconciled "vm-2"

theorem migrations_within_limit_takeover :
    ∃ w, run (step oneForEach toOneNode) (.initial oneForEach) takeoverInTime = some w ∧
      (w.kvvmis.objects.countP fun kvvmi => running w.migrations kvvmi ∧
        (ownerKey kvvmi).map (toOneNode · .inbound) = some "node-3") ≤ 1 := by
  obtain ⟨w, reached⟩ : ∃ w, run (step oneForEach toOneNode) (.initial oneForEach) takeoverInTime = some w :=
    Option.isSome_iff_exists.mp (by decide +kernel)
  exact ⟨w, reached, migrations_within_limit oneForEach toOneNode takeoverInTime w (by decide +kernel) reached .inbound
    rfl (Nat.le_refl 1) "node-3"⟩

def takeoverTooLate : List Event := [.setup] ++ twoStarting ++ reconciled "vm-1" ++ [.lead 0] ++ reconciled "vm-2"

theorem migrations_exceed_limit : ∃ w, run (step oneForEach toOneNode) (.initial oneForEach) takeoverTooLate = some w ∧
      (w.kvvmis.objects.countP fun kvvmi => running w.migrations kvvmi ∧
        (ownerKey kvvmi).map (toOneNode · .inbound) = some "node-3") = 2 := by
  decide +kernel

end Virtualization.Migration.Slots
