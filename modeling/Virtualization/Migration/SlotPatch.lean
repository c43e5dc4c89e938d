import Virtualization.Migration.Slots

namespace Virtualization.Migration.Slots

open Virtualization.Core Library Option PatchOperation Reconcile

variable {kvvmi current changed stored after : KVVMI} {name : String}

namespace KVVMI

variable (kind : Kind)

open Finmap

theorem setMigrationSlot_annotation? (state node : String) (kvvmi : KVVMI) (name : String) :
    (kvvmi.setMigrationSlot kind state node).annotation? name =
      if name = kind.nodeKey then some node
      else if name = kind.slotKey then some state
      else kvvmi.annotation? name := by
  unfold annotation? setMigrationSlot
  change (((entries kvvmi.annotations).insert kind.slotKey state).insert kind.nodeKey node).lookup name = _
  by_cases isNode : name = kind.nodeKey
  · rw [if_pos isNode, isNode, lookup_insert]
  rw [if_neg isNode, lookup_insert_of_ne _ isNode]
  by_cases isSlot : name = kind.slotKey
  · rw [if_pos isSlot, isSlot, lookup_insert]
  · rw [if_neg isSlot, lookup_insert_of_ne _ isSlot]

theorem clearMigrationSlot_annotation? (kvvmi : KVVMI) (name : String) :
    (kvvmi.clearMigrationSlot kind).annotation? name =
      if name = kind.nodeKey ∨ name = kind.slotKey then none else kvvmi.annotation? name := by
  have erased : ∀ map : StringMap, ((map.erase kind.slotKey).erase kind.nodeKey).lookup name =
      if name = kind.nodeKey ∨ name = kind.slotKey then none else map.lookup name := by
    intro map
    by_cases isNode : name = kind.nodeKey
    · rw [if_pos (.inl isNode), isNode, lookup_erase]
    rw [lookup_erase_ne isNode]
    by_cases isSlot : name = kind.slotKey
    · rw [if_pos (.inr isSlot), isSlot, lookup_erase]
    · rw [if_neg fun either => either.elim isNode isSlot, lookup_erase_ne isSlot]
  unfold annotation? clearMigrationSlot
  cases isMap : kvvmi.annotations with
  | none =>
    rw [isMap]
    have absent : (entries none).lookup name = none := lookup_empty name
    rw [absent, ite_self]
  | some map =>
    dsimp only
    rw [show entries (some map) = map from rfl, ← erased map]
    split
    · rename_i empty
      rw [empty]
      rfl
    · rfl

def SameOutside (before after : KVVMI) : Prop :=
  ∀ name, name ∉ slotKeys → after.annotation? name = before.annotation? name

theorem SameOutside.trans {first second third : KVVMI} (one : SameOutside first second)
    (two : SameOutside second third) : SameOutside first third :=
  fun name other => (two name other).trans (one name other)

theorem ne_keys_of_not_mem (other : name ∉ slotKeys) : name ≠ kind.nodeKey ∧ name ≠ kind.slotKey := by
  constructor
  · rintro rfl
    exact other (by cases kind <;> decide)
  rintro rfl
  exact other (by cases kind <;> decide)

theorem sameOutside_setMigrationSlot (state node : String) (kvvmi : KVVMI) :
    SameOutside kvvmi (kvvmi.setMigrationSlot kind state node) := by
  intro name other
  obtain ⟨notNode, notSlot⟩ := ne_keys_of_not_mem kind other
  rw [setMigrationSlot_annotation?, if_neg notNode, if_neg notSlot]

theorem sameOutside_clearMigrationSlot (kvvmi : KVVMI) : SameOutside kvvmi (kvvmi.clearMigrationSlot kind) := by
  intro name other
  obtain ⟨notNode, notSlot⟩ := ne_keys_of_not_mem kind other
  rw [clearMigrationSlot_annotation?, if_neg fun either => either.elim notNode notSlot]

theorem SameOutside.ite {condition : Prop} [Decidable condition] {first second : KVVMI}
    (one : SameOutside kvvmi first) (two : SameOutside kvvmi second) :
    SameOutside kvvmi (if condition then first else second) := by
  split
  · exact one
  · exact two

theorem SameOutside.refl (kvvmi : KVVMI) : SameOutside kvvmi kvvmi := fun _ _ => rfl

end KVVMI

open Virtualization.Migration.Slots.KVVMI

theorem setConfiguration_sameOutside (reads : Reads) (inbound sync : MigrationSlotLimiter)
    (targetNode sourceNode : String) (kvvmi : KVVMI) :
    SameOutside kvvmi (setConfiguration reads inbound sync targetNode sourceNode kvvmi).kvvmi := by
  have marked : SameOutside kvvmi
      (if inbound.enabled then kvvmi.markMigrationSlotAcquired .inbound targetNode else kvvmi) :=
    .ite (sameOutside_setMigrationSlot _ _ _ _) (.refl _)
  unfold setConfiguration
  dsimp only
  split
  all_goals exact marked.trans (.ite (sameOutside_setMigrationSlot _ _ _ _) (.refl _))

theorem acquireSlots_sameOutside (reads : Reads) (inbound sync : MigrationSlotLimiter)
    (targetNode sourceNode : String) (kvvmi : KVVMI) :
    SameOutside kvvmi (acquireSlots reads inbound sync targetNode sourceNode kvvmi).kvvmi := by
  unfold acquireSlots
  dsimp only
  split
  · exact (sameOutside_setMigrationSlot .inbound _ _ _).trans (.ite (sameOutside_clearMigrationSlot _ _) (.refl _))
  split
  · have cleared : SameOutside kvvmi
        (if kvvmi.isMigrationSlotWaiting .inbound then kvvmi.clearMigrationSlot .inbound else kvvmi) :=
      .ite (sameOutside_clearMigrationSlot _ _) (.refl _)
    exact cleared.trans (sameOutside_setMigrationSlot _ _ _ _)
  · exact setConfiguration_sameOutside _ _ _ _ _ _

theorem handle_sameOutside (reads : Reads) (inbound sync : MigrationSlotLimiter) (kvvmi : KVVMI) :
    SameOutside kvvmi (handle reads inbound sync kvvmi).kvvmi := by
  unfold handle
  split
  · exact .refl _
  · exact (sameOutside_clearMigrationSlot .inbound _).trans (sameOutside_clearMigrationSlot _ _)
  split
  · unfold startMigration
    iterate 3
      split
      · exact .refl _
    · exact acquireSlots_sameOutside _ _ _ _ _ _
  · exact .refl _

theorem configurationPatch_path {current changed : KVVMI} {o : PatchOperation Field Field.Value}
    (member : o ∈ configurationPatch current changed) : o.path = .migrationConfiguration := by
  unfold configurationPatch at member
  split at member
  · split at member
    · rw [List.mem_singleton.mp member]
    · cases member
  · cases member

theorem annotationsPatch_path {o : PatchOperation Field Field.Value} (member : o ∈ annotationsPatch current changed) :
    o.path = .annotations := by
  unfold annotationsPatch at member
  split at member
  · split at member <;> rw [List.mem_singleton.mp member]
  · cases member

theorem configurationPatch_of_same (same : changed.migrationState = current.migrationState) :
    configurationPatch current changed = [] := by
  unfold configurationPatch
  rw [same]
  split
  · rename_i first second
    rw [first] at second
    cases second
    exact if_neg (not_not.mpr rfl)
  · rfl

theorem configurationPatch_applies (d : (f : Field) → Option f.Value) (current changed : KVVMI) :
    ∃ middle, applyPatch d (configurationPatch current changed) = some middle ∧
      middle .annotations = d .annotations := by
  unfold configurationPatch
  split
  · split
    · split <;> exact ⟨_, rfl, rfl⟩
    · exact ⟨_, rfl, rfl⟩
  · exact ⟨_, rfl, rfl⟩

theorem annotationsPatch_applies {d : (f : Field) → Option f.Value}
    (held : entries current.annotations ≠ entries changed.annotations → changed.annotations = none →
      (d .annotations).isSome) : (applyPatch d (annotationsPatch current changed)).isSome := by
  unfold annotationsPatch
  split
  · rename_i differ
    split
    · rename_i isNil
      simp only [applyPatch, apply]
      rw [if_pos (held differ isNil)]
      rfl
    · rfl
    · rfl
  · rfl

theorem patch_applies
    (held : entries current.annotations ≠ entries changed.annotations → changed.annotations = none →
      stored.annotations.isSome)
    (stateless : stored.migrationState = none → configurationPatch current changed = []) :
    (stored.patch (generateMigrationConfigurationPatch current changed)).isSome := by
  obtain ⟨_, applied, same⟩ := configurationPatch_applies stored.document current changed
  have hasState : ¬ (stored.migrationState = none ∧
      ((generateMigrationConfigurationPatch current changed).any (·.path = .migrationConfiguration)) = true) := by
    rintro ⟨none, sets⟩
    obtain ⟨_, member, path⟩ := List.any_eq_true.mp sets
    rw [generateMigrationConfigurationPatch, stateless none] at member
    cases (of_decide_eq_true path).symm.trans (annotationsPatch_path member)
  unfold KVVMI.patch
  rw [if_neg hasState, isSome_map, generateMigrationConfigurationPatch, applyPatch_append, applied]
  exact annotationsPatch_applies fun differ isNil => by rw [same]; exact held differ isNil

theorem patch_annotations (patched : stored.patch (generateMigrationConfigurationPatch current changed) = some after) :
    entries after.annotations =
      if entries current.annotations = entries changed.annotations then entries stored.annotations
      else entries changed.annotations := by
  unfold KVVMI.patch at patched
  split at patched
  · cases patched
  obtain ⟨document, applied, rfl⟩ := map_eq_some_iff.mp patched
  change entries (document .annotations) = _
  unfold generateMigrationConfigurationPatch at applied
  rw [applyPatch_append] at applied
  obtain ⟨middle, configured, annotated⟩ := bind_eq_some_iff.mp applied
  have same : middle .annotations = stored.annotations :=
    applyPatch_other configured (fun _ => configurationPatch_path) nofun
  unfold annotationsPatch at annotated
  by_cases unchanged : entries current.annotations = entries changed.annotations
  · rw [if_neg (not_not.mpr unchanged)] at annotated
    cases annotated
    rw [if_pos unchanged, same]
  rw [if_pos unchanged] at annotated
  rw [if_neg unchanged]
  split at annotated
  · rename_i nil
    obtain ⟨_, removed, rest⟩ := bind_eq_some_iff.mp annotated
    cases rest
    obtain ⟨-, ⟨⟩⟩ := ite_none_right_eq_some.mp removed
    exact congrArg entries ((Function.update_self ..).trans nil.symm)
  · rename_i isMap _
    obtain ⟨_, added, rest⟩ := bind_eq_some_iff.mp annotated
    cases rest
    exact congrArg entries ((apply_set added (.inl rfl)).trans isMap.symm)
  rename_i isMap _
  obtain ⟨_, replaced, rest⟩ := bind_eq_some_iff.mp annotated
  cases rest
  exact congrArg entries ((apply_set replaced (.inr rfl)).trans isMap.symm)

section Written

namespace KVVMI

/-- Some outcome of the handler writes the slot annotations: there are some to be cleared, or there is a migration to be
    started and a node to be named. -/
def SlotsWritten (kvvmi : KVVMI) : Prop :=
  if kvvmi.migrationState.any fun state => state.completed || state.failed then
    ∃ key ∈ slotKeys, (kvvmi.annotation? key).isSome
  else kvvmi.hasMigrationSlot = true ∨ shouldUpdateMigrationConfiguration kvvmi = true ∧
    ((∃ state ∈ kvvmi.migrationState, state.targetNode ≠ "" ∨ state.targetPod ≠ "") ∨ resolveSourceNode kvvmi ≠ "")

theorem entries_ext {first second : KVVMI} (same : ∀ name, first.annotation? name = second.annotation? name) :
    entries first.annotations = entries second.annotations :=
  Finmap.ext_lookup same

theorem cleared_annotation? (kvvmi : KVVMI) (name : String) :
    ((kvvmi.clearMigrationSlot .inbound).clearMigrationSlot .sync).annotation? name =
      if name ∈ slotKeys then none else kvvmi.annotation? name := by
  rw [clearMigrationSlot_annotation?, clearMigrationSlot_annotation?]
  simp only [slotKeys, List.mem_cons, List.not_mem_nil, or_false]
  split_ifs <;> grind

end KVVMI

variable (reads : Reads) (inbound sync : MigrationSlotLimiter)

variable {reads} in
theorem handle_release (releases : shouldReleaseSlots reads.migrations kvvmi = some true) :
    (handle reads inbound sync kvvmi).kvvmi = (kvvmi.clearMigrationSlot .inbound).clearMigrationSlot .sync := by
  unfold handle
  rw [releases]

variable {reads} in
theorem handle_keep (keeps : shouldReleaseSlots reads.migrations kvvmi = some false) :
    (handle reads inbound sync kvvmi).kvvmi =
      if shouldUpdateMigrationConfiguration kvvmi then (startMigration reads inbound sync kvvmi).kvvmi else kvvmi := by
  unfold handle
  rw [keeps]
  dsimp only
  split <;> rfl

theorem startMigration_unwritten (stays : ∀ state ∈ kvvmi.migrationState, state.targetNode = "" ∧ state.targetPod = "")
    (nowhere : resolveSourceNode kvvmi = "") :
    (startMigration reads inbound sync kvvmi).kvvmi.annotations = kvvmi.annotations := by
  have target : resolveTargetNode reads.targetPod kvvmi = some "" := by
    unfold resolveTargetNode
    split
    · rfl
    · rename_i state isState
      obtain ⟨noNode, noPod⟩ := stays state isState
      simp [noNode, noPod]
  unfold startMigration
  rw [target, ite_self]
  by_cases limited : inbound.enabled = true ∨ sync.enabled = true
  · rcases limited with enabled | enabled
    · simp [enabled]
    · by_cases both : inbound.enabled = true <;> simp [enabled, both, nowhere]
  obtain ⟨free, freeSync⟩ := not_or.mp limited
  simp only [free, freeSync, acquireSlots, MigrationSlotLimiter.acquireIfEnabled, setConfiguration, Bool.false_eq_true,
    false_and, if_false, not_true_eq_false]
  split <;> rfl

theorem handle_unwritten (unwritten : ¬kvvmi.SlotsWritten) :
    entries (handle reads inbound sync kvvmi).kvvmi.annotations = entries kvvmi.annotations := by
  unfold SlotsWritten at unwritten
  split at unwritten
  · rename_i finished
    rw [handle_release inbound sync (by rw [shouldReleaseSlots, if_pos finished])]
    refine entries_ext fun name => ?_
    rw [cleared_annotation?]
    split
    · rename_i slot
      exact (not_isSome_iff_eq_none.mp fun there => unwritten ⟨name, slot, there⟩).symm
    · rfl
  · rename_i unfinished
    obtain ⟨none, idle⟩ := not_or.mp unwritten
    rw [handle_keep inbound sync (by rw [shouldReleaseSlots, if_neg unfinished, if_pos none])]
    split
    · rename_i starts
      obtain ⟨stays, nowhere⟩ := not_or.mp fun either => idle ⟨starts, either⟩
      refine congrArg entries
        (startMigration_unwritten reads inbound sync (fun state isState => ?_) (not_not.mp nowhere))
      exact ⟨not_not.mp fun named => stays ⟨state, isState, .inl named⟩,
        not_not.mp fun named => stays ⟨state, isState, .inr named⟩⟩
    · rfl

/-- A registry with its one slot on the node taken by another migration. -/
def fullFor (kind : Kind) (kvvmi : KVVMI) (node : String) : MigrationSlotLimiter where
  kind
  enabled := true
  limit := 1
  slots := [⟨node, ⟨kvvmi.key, ((ownerKey kvvmi).map (·.migrationUID)).getD "" ++ "'"⟩⟩]

theorem fullFor_acquireIfEnabled (kind : Kind) (kvvmi : KVVMI) (node : String) :
    ((fullFor kind kvvmi node).acquireIfEnabled kvvmi node).1 = false := by
  unfold MigrationSlotLimiter.acquireIfEnabled MigrationSlotLimiter.tryAcquire
  cases isOwner : ownerKey kvvmi with
  | none => simp [fullFor]
  | some owner =>
    have other : owner ≠ ⟨kvvmi.key, owner.migrationUID ++ "'"⟩ := fun same => by
      simpa using congrArg (·.migrationUID.length) same
    simp [fullFor, isOwner, MigrationSlotLimiter.held, other]

def noReads : Reads where
  migrations := some []
  targetPod := some (some "node")
  vm := none
  kvconfig := none
  vmopInProgress := none
  override := none

def unlimited (kind : Kind) : MigrationSlotLimiter := .newMigrationSlotLimiter false 1 kind

theorem clearMigrationSlot_migrationState (kind : Kind) (kvvmi : KVVMI) :
    (kvvmi.clearMigrationSlot kind).migrationState = kvvmi.migrationState := by
  unfold clearMigrationSlot
  split <;> rfl

theorem entries_ne {first second : KVVMI} (differ : first.annotation? name ≠ second.annotation? name) :
    entries first.annotations ≠ entries second.annotations :=
  fun same => differ (congrArg (·.lookup name) same)

theorem cleared_written (slot : name ∈ slotKeys) (there : (kvvmi.annotation? name).isSome) :
    entries ((kvvmi.clearMigrationSlot .inbound).clearMigrationSlot .sync).annotations ≠ entries kvvmi.annotations := by
  have cleared : ((kvvmi.clearMigrationSlot .inbound).clearMigrationSlot .sync).annotation? name = none := by
    rw [cleared_annotation?, if_pos slot]
  refine entries_ne (cleared.trans_ne fun none => ?_)
  rw [← none] at there
  cases there

/-- The inbound slots of the target node are taken. -/
theorem startMigration_inbound {node : String} (named : node ≠ "")
    (target : resolveTargetNode noReads.targetPod kvvmi = some node) :
    (startMigration noReads (fullFor .inbound kvvmi node) (unlimited .sync) kvvmi).kvvmi =
      let waiting := kvvmi.markMigrationSlotWaiting .inbound node
      if waiting.isMigrationSlotWaiting .sync then waiting.clearMigrationSlot .sync else waiting := by
  have limited : (fullFor .inbound kvvmi node).enabled = true := rfl
  have free : (unlimited .sync).enabled = false := rfl
  unfold startMigration
  rw [if_pos limited, target]
  simp only [limited, free, named, acquireSlots, fullFor_acquireIfEnabled, and_false, if_false, Bool.false_eq_true,
    false_and, not_false_eq_true, if_true]

/-- The outbound slots of the source node are taken. -/
theorem startMigration_sync (named : resolveSourceNode kvvmi ≠ "") :
    (startMigration noReads (unlimited .inbound) (fullFor .sync kvvmi (resolveSourceNode kvvmi)) kvvmi).kvvmi =
      (if kvvmi.isMigrationSlotWaiting .inbound then kvvmi.clearMigrationSlot .inbound
        else kvvmi).markMigrationSlotWaiting .sync (resolveSourceNode kvvmi) := by
  have free : (unlimited .inbound).enabled = false := rfl
  have acquired : (unlimited .inbound).acquireIfEnabled kvvmi "" = (true, unlimited .inbound) := rfl
  unfold startMigration
  simp only [free, named, acquireSlots, acquired, fullFor_acquireIfEnabled, and_false, if_false, Bool.false_eq_true,
    false_and, not_false_eq_true, not_true_eq_false, if_true]

theorem unset_of_no_slot (unslotted : ¬kvvmi.hasMigrationSlot = true) (kind : Kind) :
    kvvmi.annotation? kind.slotKey = none := by
  obtain ⟨inbound, sync⟩ := not_or.mp fun either => unslotted (Bool.or_eq_true_iff.mpr either)
  cases kind with
  | inbound => exact not_isSome_iff_eq_none.mp inbound
  | sync => exact not_isSome_iff_eq_none.mp sync

theorem marked_written (kind : Kind) {marked : KVVMI} (unslotted : ¬kvvmi.hasMigrationSlot = true)
    (waits : marked.annotation? kind.slotKey = some slotWaiting) :
    entries marked.annotations ≠ entries kvvmi.annotations := by
  refine entries_ne (waits.trans_ne ?_)
  rw [unset_of_no_slot unslotted kind]
  nofun

theorem resolveTargetNode_named {state : MigrationState} (isState : state ∈ kvvmi.migrationState)
    (named : state.targetNode ≠ "" ∨ state.targetPod ≠ "") :
    ∃ node, resolveTargetNode noReads.targetPod kvvmi = some node ∧ node ≠ "" := by
  unfold resolveTargetNode
  rw [mem_def.mp isState]
  dsimp only
  by_cases known : state.targetNode = ""
  · rw [if_neg (not_not.mpr known), if_neg (named.resolve_left (not_not.mpr known))]
    exact ⟨"node", rfl, by decide⟩
  · exact ⟨state.targetNode, if_pos known, known⟩

theorem handle_released {key : String} (releases : shouldReleaseSlots noReads.migrations kvvmi = some true)
    (slot : key ∈ slotKeys) (there : (kvvmi.annotation? key).isSome) : ∃ reads inbound sync,
    (handle reads inbound sync kvvmi).kvvmi.migrationState = kvvmi.migrationState ∧
      entries (handle reads inbound sync kvvmi).kvvmi.annotations ≠ entries kvvmi.annotations := by
  refine ⟨noReads, unlimited .inbound, unlimited .sync, ?_⟩
  rw [handle_release _ _ releases, clearMigrationSlot_migrationState, clearMigrationSlot_migrationState]
  exact ⟨rfl, cleared_written slot there⟩

/-- An outcome that writes annotations and nothing else. -/
theorem handle_written (written : kvvmi.SlotsWritten) : ∃ reads inbound sync,
    (handle reads inbound sync kvvmi).kvvmi.migrationState = kvvmi.migrationState ∧
      entries (handle reads inbound sync kvvmi).kvvmi.annotations ≠ entries kvvmi.annotations := by
  unfold SlotsWritten at written
  split at written
  · rename_i finished
    obtain ⟨key, slot, there⟩ := written
    exact handle_released (by rw [shouldReleaseSlots, if_pos finished]) slot there
  rename_i unfinished
  by_cases slotted : kvvmi.hasMigrationSlot = true
  · have releases : shouldReleaseSlots noReads.migrations kvvmi = some true := by
      rw [shouldReleaseSlots, if_neg unfinished, if_neg (not_not.mpr slotted)]
      rfl
    rcases Bool.or_eq_true_iff.mp slotted with there | there
    · exact handle_released releases (by decide) there
    · exact handle_released releases (by decide) there
  obtain ⟨starts, named⟩ := written.resolve_left slotted
  have keeps : shouldReleaseSlots noReads.migrations kvvmi = some false := by
    rw [shouldReleaseSlots, if_neg unfinished, if_pos slotted]
  have started (inbound sync : MigrationSlotLimiter) : (handle noReads inbound sync kvvmi).kvvmi =
      (startMigration noReads inbound sync kvvmi).kvvmi := by
    rw [handle_keep _ _ keeps, if_pos starts]
  rcases named with ⟨state, isState, named⟩ | named
  · obtain ⟨node, target, isNode⟩ := resolveTargetNode_named isState named
    refine ⟨noReads, fullFor .inbound kvvmi node, unlimited .sync, ?_⟩
    rw [started, startMigration_inbound isNode target]
    dsimp only
    split
    · refine ⟨clearMigrationSlot_migrationState _ _, marked_written .inbound slotted ?_⟩
      rw [clearMigrationSlot_annotation?, if_neg (by decide)]
      exact (setMigrationSlot_annotation? ..).trans rfl
    · exact ⟨rfl, marked_written .inbound slotted ((setMigrationSlot_annotation? ..).trans rfl)⟩
  · refine ⟨noReads, unlimited .inbound, fullFor .sync kvvmi (resolveSourceNode kvvmi), ?_⟩
    rw [started, startMigration_sync named]
    refine ⟨?_, marked_written .sync slotted ((setMigrationSlot_annotation? ..).trans rfl)⟩
    split
    · exact clearMigrationSlot_migrationState _ _
    · rfl

end Written

def migrating : KVVMI where
  key := { ns := "default", name := "vm" }
  resourceVersion := 1
  annotations := none
  nodeName := "node-1"
  migrationState := some
    { migrationUID := "m1", completed := false, failed := false, sourceNode := "node-1", targetNode := "node-2"
      targetPod := "virt-launcher-vm-2", migrationConfiguration := none }

def ownMigration : VMIM := { uid := "m1", ns := "default", vmiName := "vm", final := false }

def served : Reads where
  migrations := some [ownMigration]
  targetPod := some (some "node-2")
  vm := some none
  kvconfig := some none
  vmopInProgress := some none
  override := none

def oneInbound : MigrationSlotLimiter := .newMigrationSlotLimiter true 1 .inbound

def oneSync : MigrationSlotLimiter := .newMigrationSlotLimiter true 1 .sync

def marked : KVVMI :=
  { migrating with
    resourceVersion := 2
    annotations := some ((∅ : StringMap).insert "virtualization.deckhouse.io/workload-update-image" "1") }

end Virtualization.Migration.Slots
