import Virtualization.Migration.Handler

namespace Virtualization.Migration

open Virtualization.Core

structure UsedBy (c : Cluster) (vd : VirtualDisk) (claim vm : String) : Prop where
  mounted : currentlyMountedVMName vd = vm
  named : vm ≠ ""
  referenced : kvvmHasPVC (c.fetchKVVM vd.ns vm) claim ∨ kvvmiHasPVC (c.fetchKVVMI vd.ns vm) claim ∨
    ∃ pod ∈ c.pods, pod.ns = vd.ns ∧ pod.virtualMachineName = vm ∧
      ¬ (pod.phase = .failed ∨ pod.phase = .succeeded) ∧ claim ∈ pod.claims

/-- A claim by which neither the KVVM nor the KVVMI of the mounted machine refers. -/
def Unreferenced (c : Cluster) (vd : VirtualDisk) (claim : String) : Prop :=
  ¬(kvvmHasPVC (c.fetchKVVM vd.ns (currentlyMountedVMName vd)) claim ∨
    kvvmiHasPVC (c.fetchKVVMI vd.ns (currentlyMountedVMName vd)) claim)

/-- The claim is there and not terminating, and the call that fetches it before it is deleted succeeds. -/
def Deletable (env : Env) (c : Cluster) (call : Call) (ns claim : String) : Prop :=
  call ∉ env.failing ∧ ∃ pvc ∈ c.fetchPVC ns claim, pvc.deletionTimestamp = none

/-- The finalizers of the claim cannot be patched. -/
def Unpatched (env : Env) (c : Cluster) (ns claim : String) : Prop :=
  ∃ pvc ∈ c.fetchPVC ns claim, .vdProtection ∈ pvc.finalizers ∧ .finalizers ∈ env.failing

instance (env : Env) (c : Cluster) (ns claim : String) : Decidable (Unpatched env c ns claim) :=
  inferInstanceAs (Decidable (∃ pvc ∈ c.fetchPVC ns claim, _))

/-- Where the machine is gone, the target is not in use when the migration is reverted. -/
def RevertRegular (env : Env) (c : Cluster) (vd : VirtualDisk) : Prop :=
  let target := vd.migrationState.targetPVC
  target ≠ vd.target → .releasedClaim ∉ env.failing → .machines ∉ env.failing →
    Deletable env c .deletedTarget vd.ns target → c.fetchVM vd.ns (currentlyMountedVMName vd) = none →
    Unreferenced c vd target → ∀ vm, ¬UsedBy c vd target vm

/-- A target that is not Bound is not in use when the migration completes, and the disk does not stay on it. -/
def UnboundRegular (env : Env) (c : Cluster) (vd : VirtualDisk) : Prop :=
  let { sourcePVC := source, targetPVC := target, .. } := vd.migrationState
  Deletable env c .deletedTarget vd.ns target → (∀ vm, ¬UsedBy c vd target vm) ∧
    (.deleteClaim ∉ env.failing →
      (if Unpatched env c vd.ns target ∨ source = "" then vd.target else source) ≠ target)

/-- The disk does not stay on the source, if that is unused, when the migration completes with a target that is
    Bound. -/
def BoundRegular (env : Env) (c : Cluster) (vd : VirtualDisk) (target : PersistentVolumeClaim) : Prop :=
  let source := vd.migrationState.sourcePVC
  .releasedClaim ∉ env.failing → .machines ∉ env.failing → .pods ∉ env.failing →
    Deletable env c .sourceClaim vd.ns source → (∀ vm, ¬UsedBy c vd source vm) → .deleteClaim ∉ env.failing →
    (if Unpatched env c vd.ns source ∨ target.quotaExcluded ∧ .quotaLabel ∈ env.failing then vd.target
      else vd.migrationState.targetPVC) ≠ source

structure Regular (env : Env) (c : Cluster) (vd : VirtualDisk) : Prop where
  reverts : getAction env c vd = .ok .revert → RevertRegular env c vd
  completes : getAction env c vd = .ok .complete → .targetClaim ∉ env.failing →
    ∀ target ∈ c.fetchPVC vd.ns vd.migrationState.targetPVC,
      if target.phase = .bound then BoundRegular env c vd target else UnboundRegular env c vd

section Deletions

variable {env : Env} {c : Cluster} {vd : VirtualDisk}

theorem fetchVM_some {ns name : String} {vm : VirtualMachine} (found : c.fetchVM ns name = some vm) :
    vm.ns = ns ∧ vm.name = name := by
  have matched := List.find?_some found
  simpa using matched

theorem UsedBy.mounted_named {claim vm : String} (used : UsedBy c vd claim vm) : currentlyMountedVMName vd ≠ "" :=
  used.mounted ▸ used.named

theorem released_unreferenced {claim role : String} (present : c.fetchPVC vd.ns claim ≠ none)
    (named : currentlyMountedVMName vd ≠ "")
    (released : canDeletePersistentVolumeClaim env c vd claim role = .ok .released) :
    .releasedClaim ∉ env.failing ∧ .machines ∉ env.failing ∧ Unreferenced c vd claim := by
  unfold canDeletePersistentVolumeClaim at released
  simp only [present, named, if_false] at released
  iterate 3
    split at released
    · cases released
  exact ⟨‹_›, ‹_›, ‹_›⟩

/-- The check is right as long as the machine is there. -/
theorem released_unused {claim role : String} {machine : VirtualMachine} (present : c.fetchPVC vd.ns claim ≠ none)
    (found : c.fetchVM vd.ns (currentlyMountedVMName vd) = some machine)
    (released : canDeletePersistentVolumeClaim env c vd claim role = .ok .released) (vm : String) :
    ¬ UsedBy c vd claim vm := by
  intro used
  have named := used.mounted_named
  obtain ⟨-, -, unreferenced⟩ := released_unreferenced present named released
  obtain ⟨rfl, -, referenced⟩ := used
  obtain ⟨pod, member, ns, isMachine, unfinished, holds⟩ :=
    (or_assoc.mpr referenced).resolve_left unreferenced
  unfold canDeletePersistentVolumeClaim at released
  simp only [present, named, if_false, found] at released
  iterate 5
    split at released
    · cases released
  rename_i free
  obtain ⟨vmNs, vmName⟩ := fetchVM_some found
  refine free (List.any_eq_true.mpr ⟨pod, List.mem_filter.mpr ⟨member, ?_⟩, by simpa using holds⟩)
  simp only [decide_eq_true_eq]
  exact ⟨⟨ns.trans vmNs.symm, isMachine.trans vmName.symm⟩, unfinished⟩

theorem released_pods {claim role : String} {machine : VirtualMachine} (present : c.fetchPVC vd.ns claim ≠ none)
    (named : currentlyMountedVMName vd ≠ "") (found : c.fetchVM vd.ns (currentlyMountedVMName vd) = some machine)
    (released : canDeletePersistentVolumeClaim env c vd claim role = .ok .released) : .pods ∉ env.failing := by
  unfold canDeletePersistentVolumeClaim at released
  simp only [present, named, if_false, found] at released
  iterate 4
    split at released
    · cases released
  assumption

/-- An unused claim is released, if nothing fails. -/
theorem released_of_unused {claim : String} (role : String) (unused : ∀ vm, ¬UsedBy c vd claim vm)
    (claims : .releasedClaim ∉ env.failing) (machines : .machines ∉ env.failing) (pods : .pods ∉ env.failing) :
    canDeletePersistentVolumeClaim env c vd claim role = .ok .released := by
  unfold canDeletePersistentVolumeClaim
  simp only [claims, machines, pods, if_false]
  split
  · rfl
  split
  · rfl
  rename_i named
  rw [if_neg fun either => unused _ ⟨rfl, named, (or_assoc.mp (.inl either))⟩]
  split
  · rfl
  rename_i machine found
  obtain ⟨vmNs, vmName⟩ := fetchVM_some found
  rw [if_neg]
  intro held
  obtain ⟨pod, active, holds⟩ := List.any_eq_true.mp held
  obtain ⟨member, active⟩ := List.mem_filter.mp active
  simp only [decide_eq_true_eq] at active holds
  exact unused _
    ⟨rfl, named, .inr (.inr ⟨pod, member, active.1.1.trans vmNs, active.1.2.trans vmName, active.2, holds⟩)⟩

/-- Without the machine, the pods are not looked at. -/
theorem released_of_unreferenced {claim : String} (role : String) (unreferenced : Unreferenced c vd claim)
    (claims : .releasedClaim ∉ env.failing) (machines : .machines ∉ env.failing)
    (gone : c.fetchVM vd.ns (currentlyMountedVMName vd) = none) :
    canDeletePersistentVolumeClaim env c vd claim role = .ok .released := by
  unfold canDeletePersistentVolumeClaim
  dsimp only
  rw [if_neg claims, if_neg machines, if_neg unreferenced, gone]
  split
  · rfl
  · split <;> rfl

theorem Deletable.present {call : Call} {ns claim : String} (deletable : Deletable env c call ns claim) :
    c.fetchPVC ns claim ≠ none := by
  obtain ⟨-, _, found, -⟩ := deletable
  rw [Option.mem_def.mp found]
  nofun

theorem deleteFetched_issued {call : Call} {ns named claim : String} :
    claim ∈ (deleteFetched env call (c.fetchPVC ns named)).issued ↔ claim = named ∧ Deletable env c call ns named := by
  unfold deleteFetched deletePersistentVolumeClaim Deletable
  cases fetched : c.fetchPVC ns named with
  | none => split <;> simp
  | some pvc =>
    have name := (fetchPVC_some fetched).2
    cases terminating : pvc.deletionTimestamp <;> split_ifs <;> simp_all

theorem deleteFetched_deleted {call : Call} {ns named claim : String} :
    claim ∈ (deleteFetched env call (c.fetchPVC ns named)).deleted ↔
      claim = named ∧ Deletable env c call ns named ∧ .deleteClaim ∉ env.failing := by
  unfold deleteFetched deletePersistentVolumeClaim Deletable
  cases fetched : c.fetchPVC ns named with
  | none => split <;> simp
  | some pvc =>
    have name := (fetchPVC_some fetched).2
    cases terminating : pvc.deletionTimestamp <;> split_ifs <;> simp_all

theorem deleteFetched_error {call : Call} {ns named : String} (deletable : Deletable env c call ns named)
    (accepted : .deleteClaim ∉ env.failing) :
    (deleteFetched env call (c.fetchPVC ns named)).error.isSome = true ↔ Unpatched env c ns named := by
  obtain ⟨served, pvc, found, alive⟩ := deletable
  unfold deleteFetched deletePersistentVolumeClaim patchFinalizers Unpatched
  rw [Option.mem_def.mp found]
  simp [served, alive, accepted]

theorem unlabelled_error (deletion : Deletion) (failure : Failure) (labelled : Prop) [Decidable labelled] :
    (if deletion.error = none ∧ labelled then { deletion with error := some failure } else deletion).error.isSome =
      true ↔ deletion.error.isSome = true ∨ labelled := by
  cases error : deletion.error <;> by_cases labelled <;> simp [*]

theorem setPVCName_target (vd : VirtualDisk) (name : String) :
    (setPVCName vd name).target = if name = "" then vd.target else name := by
  unfold setPVCName
  split <;> rfl

end Deletions

def Outcome.Quiet (outcome : Outcome) : Prop := outcome.issued = [] ∧ outcome.deleted = []

def Outcome.Safe (c : Cluster) (vd : VirtualDisk) (outcome : Outcome) : Prop :=
  (∀ claim ∈ outcome.issued, ∀ vm, ¬ UsedBy c vd claim vm) ∧ outcome.vd.target ∉ outcome.deleted

section Handlers

variable {env : Env} {c : Cluster} {vd : VirtualDisk}

theorem Outcome.Quiet.safe {outcome : Outcome} (quiet : outcome.Quiet) : outcome.Safe c vd := by
  obtain ⟨issued, deleted⟩ := quiet
  simp [Outcome.Safe, issued, deleted]

theorem quiet_of (vd : VirtualDisk) : (Outcome.of vd).Quiet := ⟨rfl, rfl⟩

theorem quiet_failing (vd : VirtualDisk) (failure : Failure) : (Outcome.failing vd failure).Quiet := ⟨rfl, rfl⟩

theorem handleMigrateSync_quiet (env : Env) (c : Cluster) (vd : VirtualDisk) : (handleMigrateSync env c vd).Quiet := by
  unfold handleMigrateSync
  repeat' split
  all_goals exact ⟨rfl, rfl⟩

theorem prepareClaim_quiet (env : Env) (c : Cluster) (vd : VirtualDisk) (sc : StorageClass) (oldTarget : String) :
    (prepareClaim env c vd sc oldTarget).Quiet := by
  unfold prepareClaim
  repeat' split
  all_goals first
    | exact ⟨rfl, rfl⟩
    | exact handleMigrateSync_quiet _ _ _

theorem handleMigratePrepareTarget_quiet (env : Env) (c : Cluster) (vd : VirtualDisk) :
    (handleMigratePrepareTarget env c vd).Quiet := by
  unfold handleMigratePrepareTarget
  dsimp only
  repeat' split
  all_goals first
    | exact ⟨rfl, rfl⟩
    | exact prepareClaim_quiet _ _ _ _ _

theorem Deletion.outcome_safe (deletion : Deletion) (finished : VirtualDisk) :
    (deletion.outcome vd finished).Safe c vd ↔ (∀ claim ∈ deletion.issued, ∀ vm, ¬UsedBy c vd claim vm) ∧
      (if deletion.error.isSome then vd.target else finished.target) ∉ deletion.deleted := by
  unfold Deletion.outcome Outcome.Safe
  dsimp only
  split <;> rfl

/-- What a pass that deletes the claim has to meet. `left` is what the disk is left with. -/
theorem deleteFetched_safe {call : Call} {claim left : String} (deletion : Deletion) (finished : VirtualDisk)
    (issued : deletion.issued = (deleteFetched env call (c.fetchPVC vd.ns claim)).issued)
    (deleted : deletion.deleted = (deleteFetched env call (c.fetchPVC vd.ns claim)).deleted)
    (lefts : Deletable env c call vd.ns claim → .deleteClaim ∉ env.failing →
      (if deletion.error.isSome then vd.target else finished.target) = left) :
    (deletion.outcome vd finished).Safe c vd ↔ (Deletable env c call vd.ns claim → (∀ vm, ¬UsedBy c vd claim vm) ∧
      (.deleteClaim ∉ env.failing → left ≠ claim)) := by
  rw [Deletion.outcome_safe, issued, deleted]
  simp only [deleteFetched_issued, deleteFetched_deleted]
  constructor
  · rintro ⟨unused, kept⟩ deletable
    refine ⟨unused claim ⟨rfl, deletable⟩, fun accepted same => kept ⟨?_, deletable, accepted⟩⟩
    exact (lefts deletable accepted).trans same
  · intro safe
    refine ⟨?_, fun ⟨same, deletable, accepted⟩ => ?_⟩
    · rintro _ ⟨rfl, deletable⟩
      exact (safe deletable).1
    · exact (safe deletable).2 accepted ((lefts deletable accepted).symm.trans same)

theorem handleRevert_safe : (handleRevert env c vd).Safe c vd ↔ RevertRegular env c vd := by
  unfold handleRevert RevertRegular
  split
  · rename_i same
    exact iff_of_true (quiet_failing _ _).safe fun different => absurd same different
  rename_i different
  have deletes := deleteFetched_safe (c := c) (deleteTargetPersistentVolumeClaim env c vd)
    (endRound env vd .failed "Migration reverted.") rfl rfl fun _ _ => ite_self _
  have checked (other : canDeletePersistentVolumeClaim env c vd vd.migrationState.targetPVC targetPVCRole ≠
      .ok .released) : RevertRegular env c vd := fun _ claims machines _ gone unreferenced =>
    absurd (released_of_unreferenced targetPVCRole unreferenced claims machines gone) other
  split
  · rename_i failed
    exact iff_of_true (quiet_failing _ _).safe (checked (by rw [failed]; nofun))
  · rename_i held
    exact iff_of_true (Outcome.Quiet.safe ⟨rfl, rfl⟩) (checked (by rw [held]; nofun))
  rename_i released
  refine deletes.trans ⟨fun safe _ _ _ deletable _ _ => (safe deletable).1, fun regular deletable => ?_⟩
  refine ⟨fun vm used => ?_, fun _ => Ne.symm different⟩
  cases found : c.fetchVM vd.ns (currentlyMountedVMName vd) with
  | some => exact released_unused deletable.present found released vm used
  | none =>
    obtain ⟨claims, machines, unreferenced⟩ := released_unreferenced deletable.present used.mounted_named released
    exact regular different claims machines deletable found unreferenced vm used

/-- The source is deleted with the check, so that only the claim the disk is left with can be wrong. -/
theorem finishComplete_safe {target : PersistentVolumeClaim} {machine : VirtualMachine}
    (named : currentlyMountedVMName vd ≠ "")
    (machineFound : c.fetchVM vd.ns (currentlyMountedVMName vd) = some machine)
    (found : c.fetchPVC vd.ns vd.migrationState.targetPVC = some target)
    (released : canDeletePersistentVolumeClaim env c vd vd.migrationState.sourcePVC sourcePVCRole = .ok .released) :
    (finishComplete env c vd target).Safe c vd ↔ BoundRegular env c vd target := by
  have targeted := (fetchPVC_some found).1
  calc
    _ ↔ (Deletable env c .sourceClaim vd.ns vd.migrationState.sourcePVC →
        (∀ vm, ¬UsedBy c vd vd.migrationState.sourcePVC vm) ∧ (.deleteClaim ∉ env.failing →
          (if Unpatched env c vd.ns vd.migrationState.sourcePVC ∨
              target.quotaExcluded ∧ .quotaLabel ∈ env.failing then vd.target
            else vd.migrationState.targetPVC) ≠ vd.migrationState.sourcePVC)) := by
      refine deleteFetched_safe _ _ (by split <;> rfl) (by split <;> rfl) fun deletable accepted => ?_
      have failed : (deleteSourcePersistentVolumeClaim env c vd).error.isSome = true ↔ _ :=
        deleteFetched_error deletable accepted
      simp only [unlabelled_error, failed, setPVCName_target, targeted, if_false]
    _ ↔ _ := by
      constructor
      · intro safe _ _ _ deletable _ accepted
        exact (safe deletable).2 accepted
      · intro regular deletable
        obtain ⟨claims, machines, -⟩ := released_unreferenced deletable.present named released
        have pods := released_pods deletable.present named machineFound released
        have unused := released_unused deletable.present machineFound released
        exact ⟨unused, regular claims machines pods deletable unused⟩

theorem handleComplete_safe {machine : VirtualMachine} (named : currentlyMountedVMName vd ≠ "")
    (machineFound : c.fetchVM vd.ns (currentlyMountedVMName vd) = some machine) :
    (handleComplete env c vd).Safe c vd ↔ (.targetClaim ∉ env.failing →
      ∀ target ∈ c.fetchPVC vd.ns vd.migrationState.targetPVC,
        if target.phase = .bound then BoundRegular env c vd target else UnboundRegular env c vd) := by
  unfold handleComplete getTargetPersistentVolumeClaim
  by_cases failing : .targetClaim ∈ env.failing
  · rw [if_pos failing]
    exact iff_of_true (quiet_failing _ _).safe fun served => absurd failing served
  rw [if_neg failing, forall_prop_of_true failing]
  cases found : c.fetchPVC vd.ns vd.migrationState.targetPVC with
  | none => exact iff_of_true (quiet_of _).safe nofun
  | some target =>
    simp only [Option.mem_some_iff, forall_eq']
    by_cases bound : target.phase = .bound
    · rw [if_neg (not_not.mpr bound), if_pos bound]
      have checked (other : canDeletePersistentVolumeClaim env c vd vd.migrationState.sourcePVC sourcePVCRole ≠
          .ok .released) : BoundRegular env c vd target := fun claims machines pods _ unused =>
        absurd (released_of_unused sourcePVCRole unused claims machines pods) other
      split
      · rename_i failed
        exact iff_of_true (quiet_failing _ _).safe (checked (by rw [failed]; nofun))
      · rename_i held
        exact iff_of_true (Outcome.Quiet.safe ⟨rfl, rfl⟩) (checked (by rw [held]; nofun))
      rename_i released
      exact finishComplete_safe named machineFound found released
    · rw [if_pos bound, if_neg bound]
      refine deleteFetched_safe _ _ rfl rfl fun deletable accepted => ?_
      have failed := deleteFetched_error deletable accepted
      change (if (deleteFetched _ _ _).error.isSome = true then _ else _) = _
      simp only [failed, setPVCName_target, endRound]
      split_ifs <;> simp_all

theorem completes_found (completes : getAction env c vd = .ok .complete) : currentlyMountedVMName vd ≠ "" ∧
    ∃ machine, c.fetchVM vd.ns (currentlyMountedVMName vd) = some machine := by
  unfold getAction at completes
  dsimp only at completes
  split at completes
  · split at completes <;> cases completes
  split at completes
  · split at completes <;> cases completes
  rename_i named
  split at completes
  · cases completes
  refine ⟨named, Option.ne_none_iff_exists'.mp fun absent => ?_⟩
  rw [absent] at completes
  dsimp only at completes
  split at completes <;> cases completes

/-- A pass deletes unused claims only and does not leave the disk on one of them exactly when it is regular, or does
    nothing. -/
theorem Regular.of_other {action : Except Failure Action} (is : getAction env c vd = action)
    (others : action ≠ .ok .revert ∧ action ≠ .ok .complete) : Regular env c vd :=
  ⟨fun reverts => absurd (is.symm.trans reverts) others.1, fun completes => absurd (is.symm.trans completes) others.2⟩

theorem migrationHandler_safe : (migrationHandler env c vd).Safe c vd ↔
    (vd.deletionTimestamp = none → env.volumeMigration = true ∨ isMigrating vd = true → Regular env c vd) := by
  unfold migrationHandler
  split
  · rename_i deleting
    refine iff_of_true (quiet_of _).safe fun alive => ?_
    rw [alive] at deleting
    cases deleting
  rename_i alive
  rw [forall_prop_of_true (Option.not_isSome_iff_eq_none.mp alive)]
  split
  · rename_i off
    refine iff_of_true (quiet_of _).safe fun on => ?_
    rw [off.1, off.2] at on
    simp at on
  rename_i on
  have active : env.volumeMigration = true ∨ isMigrating vd = true := by
    cases gate : env.volumeMigration with
    | true => exact .inl rfl
    | false => exact .inr (by simpa [gate] using on)
  rw [forall_prop_of_true active]
  cases action : getAction env c vd with
  | error => exact iff_of_true (quiet_failing _ _).safe (.of_other action (by simp))
  | ok action' =>
    cases action' with
    | none => exact iff_of_true (quiet_of _).safe (.of_other action (by simp))
    | migratePrepareTarget =>
      exact iff_of_true (handleMigratePrepareTarget_quiet _ _ _).safe (.of_other action (by simp))
    | migrateSync =>
      exact iff_of_true (handleMigrateSync_quiet _ _ _).safe (.of_other action (by simp))
    | delayNewRound =>
      exact iff_of_true (Outcome.Quiet.safe ⟨rfl, rfl⟩) (.of_other action (by simp))
    | revert =>
      refine handleRevert_safe.trans ⟨fun reverts => ⟨fun _ => reverts, by rw [action]; nofun⟩, fun regular => ?_⟩
      exact regular.reverts action
    | complete =>
      obtain ⟨named, machine, found⟩ := completes_found action
      refine (handleComplete_safe named found).trans ⟨fun completes => ⟨by rw [action]; nofun, fun _ => completes⟩,
        fun regular => regular.completes action⟩

end Handlers

def permissive : Env :=
  { volumeMigration := true, isStorageClassAllowed := fun _ => true, isStorageClassDeprecated := fun _ => false
    accessMode := .readWriteOnce, failing := [], now := 50, generatedName := "d8v-vd-1-new" }

def boundClaim (name : String) : PersistentVolumeClaim :=
  { ns := "default", name, phase := .bound, deletionTimestamp := none, finalizers := [.vdProtection]
    dataExportRequested := false, volumeName := name, owners := [1], accessModes := [.readWriteOnce]
    storageClassName := some "local", requested := 10, capacity := 10, quotaExcluded := false }

variable (claim : String)

def dataVolume : Volume := ⟨"vd-data", .persistentVolumeClaim claim true⟩

def runningMachine (result : MigrationResult) : VirtualMachine :=
  { ns := "default", name := "web", generation := 1, deletionTimestamp := none, runPolicy := .alwaysOn
    paravirtualizationEnabled := true, blockDeviceRefs := [⟨.diskDevice, "data"⟩], phase := .running
    statusRefs := [⟨.diskDevice, "data", "10Gi", true, true, ""⟩], conditions := [], running := .conditionTrue
    migrating := none, migratable := .other, migrationState := some ⟨some 20, result⟩ }

def machineTemplate : KVVM :=
  { ns := "default", name := "web", template := some [dataVolume claim], runStrategy := none
    vmStartRequested := false, vmRestartRequested := false, printableStatus := .running
    synchronizedReason := .unset, stateChangeRequests := [], volumeRequests := [] }

def machineInstance : KVVMI :=
  { ns := "default", name := "web", phase := .running, nodeName := "node", volumes := [dataVolume claim]
    volumeStatus := [], migrationState := some ⟨true, false, some 30⟩, migratedVolumes := []
    volumesChange := .conditionFalse, volumeSizes := [("vd-data", 10)] }

def launcher : Pod :=
  { ns := "default", virtualMachineName := "web", phase := .running, claims := [claim] }

def emptyCluster : Core.Cluster :=
  { vms := [], kvvms := [], kvvmis := [], pods := [], pvcs := [], vds := [], vis := [], cvis := [], vmbdas := [] }

def switchedCluster (result : MigrationResult) : Cluster :=
  { vms := [runningMachine result], kvvms := [machineTemplate "pvc-t"], kvvmis := [machineInstance "pvc-t"]
    pods := [launcher "pvc-t"], pvcs := [boundClaim "pvc-s", boundClaim "pvc-t"], storageClasses := []
    operations := [], others := emptyCluster }

def movingDisk : VirtualDisk :=
  { ns := "default", name := "data", generation := 1, observedGeneration := 1, deletionTimestamp := none
    finalizers := [], phase := .ready, target := "pvc-s", capacity := "10Gi"
    attachedToVirtualMachines := [⟨"web", true⟩]
    conditions := [⟨.inUse, .conditionTrue, .attachedToVirtualMachine, "", 1⟩], uid := 1
    specStorageClass := some "local", storageClassName := "local"
    migrationState := { DiskMigrationState.empty with
      sourcePVC := "pvc-s", targetPVC := "pvc-t", startTimestamp := some 10 }
    migrating := none, resizing := .unset, snapshotting := .unset }

theorem migrationHandler_safe_completed :
    (migrationHandler permissive (switchedCluster .succeeded) movingDisk).issued = ["pvc-s"] ∧
      (migrationHandler permissive (switchedCluster .succeeded) movingDisk).Safe
        (switchedCluster .succeeded) movingDisk := by
  refine ⟨by decide, migrationHandler_safe.mpr fun _ _ => ⟨nofun, ?_⟩⟩
  rintro - - target ⟨⟩
  exact fun _ _ _ _ _ _ => by decide

def lostTarget : Cluster :=
  { switchedCluster .succeeded with pvcs := [boundClaim "pvc-s", { boundClaim "pvc-t" with phase := .lost }] }

def orphanedPod : Cluster := { switchedCluster .succeeded with vms := [], kvvms := [], kvvmis := [] }

theorem used_claim_deleted : -- The target is not Bound when the migration completes.
    ("pvc-t" ∈ (migrationHandler permissive lostTarget movingDisk).issued ∧
        UsedBy lostTarget movingDisk "pvc-t" "web") ∧
      -- The VirtualMachine is gone and its pod is not.
      ("pvc-t" ∈ (migrationHandler permissive orphanedPod movingDisk).issued ∧
        UsedBy orphanedPod movingDisk "pvc-t" "web") ∧
      -- The source and the target are one claim.
      (let sameClaim := withState movingDisk { movingDisk.migrationState with targetPVC := "pvc-s" }
       let outcome := migrationHandler permissive (switchedCluster .succeeded) sameClaim
       outcome.vd.target = "pvc-s" ∧ "pvc-s" ∈ outcome.deleted) ∧
      -- The source is deleted and then its finalizer cannot be patched.
      (let outcome := migrationHandler { permissive with failing := [.finalizers] } (switchedCluster .succeeded)
         movingDisk
       outcome.vd.target = "pvc-s" ∧ "pvc-s" ∈ outcome.deleted) := by
  refine ⟨⟨by decide, rfl, by decide, .inl (by decide)⟩, ⟨by decide, rfl, by decide, .inr (.inr ?_)⟩, by decide,
    by decide⟩
  exact ⟨launcher "pvc-t", by decide, rfl, rfl, by decide, by decide⟩

end Virtualization.Migration
