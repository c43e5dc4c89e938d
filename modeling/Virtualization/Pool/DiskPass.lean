import Mathlib
import Virtualization.Pool.Disks

namespace Virtualization.Pool.Disks

open Virtualization.Core Library List List.Subset Session Store

variable {σ : Type} {env : Env} {pool : TemplatedPool σ}

def holdsDisk (pool : TemplatedPool σ) (disk : String) (vm : Member σ) : Bool :=
  isMember pool vm ∧ vm.deletionTimestamp.isNone ∧ hasDiskRef vm disk

def sharers (pool : TemplatedPool σ) (vms : Store (Member σ)) (disk : String) : Nat :=
  vms.objects.countP (holdsDisk pool disk)

variable {disk : String}

theorem holdsDisk_mono {before later : Member σ} (holds : holdsDisk pool disk later)
    (same : later.toVirtualMachine = before.toVirtualMachine) (kept : hasDiskRef later disk → hasDiskRef before disk) :
    holdsDisk pool disk before := by
  obtain ⟨member, live, ref⟩ := of_decide_eq_true holds
  unfold isMember at member
  rw [same] at member live
  exact decide_eq_true ⟨member, live, kept ref⟩

theorem hasDiskRef_mono {before later : Member σ} (refs : later.blockDeviceRefs ⊆ before.blockDeviceRefs)
    (holds : hasDiskRef later disk) : hasDiskRef before disk := by
  obtain ⟨ref, member, isDisk⟩ := any_eq_true.mp holds
  exact any_eq_true.mpr ⟨ref, refs member, isDisk⟩

variable {result : Except WriteError (Store VirtualDisk)} {env : Env}

section Lessens

structure Lessens (s t : Session σ) : Prop where
  refs : ∀ name later, t.vms.get? name = some later → ∃ before, s.vms.get? name = some before ∧
    later.toVirtualMachine = before.toVirtualMachine ∧ later.blockDeviceRefs ⊆ before.blockDeviceRefs
  sharers : ∀ (pool : TemplatedPool σ) disk, sharers pool t.vms disk ≤ sharers pool s.vms disk
  snapshot : ∀ copy, s.vms.Snapshot copy → t.vms.Snapshot copy
  errors : s.errors <+: t.errors

variable {s t : Session σ}

theorem Lessens.of_vms (vms : t.vms = s.vms) (errors : s.errors <+: t.errors) : Lessens s t := by
  refine ⟨?_, ?_, ?_, errors⟩ <;> rw [vms]
  · exact fun name later found => ⟨later, found, rfl, refl _⟩
  · exact fun _ _ => Nat.le_refl _
  · exact fun _ => id

theorem Lessens.trans {u : Session σ} (first : Lessens s t) (next : Lessens t u) : Lessens s u where
  refs := by
    intro name later found
    obtain ⟨middle, found, same, refs⟩ := next.refs name later found
    obtain ⟨before, found, same', refs'⟩ := first.refs name middle found
    exact ⟨before, found, same.trans same', List.Subset.trans refs refs'⟩
  sharers := fun pool disk => (next.sharers pool disk).trans (first.sharers pool disk)
  snapshot := fun copy snapshot => next.snapshot copy (first.snapshot copy snapshot)
  errors := first.errors.trans next.errors

theorem Lessens.foldl {α β : Type} (session : β → Session σ) {step : β → α → β}
    (lessens : ∀ b x, Lessens (session b) (session (step b x))) (list : List α) (b : β) :
    Lessens (session b) (session (list.foldl step b)) := by
  induction list generalizing b with
  | nil => exact .of_vms rfl (prefix_refl _)
  | cons x _ ih => exact (lessens b x).trans (ih _)

theorem Lessens.fail (lessens : Lessens s t) (failure : Failure) : Lessens s (t.fail failure) :=
  lessens.trans (.of_vms rfl (prefix_append _ _))

theorem detachRefs_subset (disk : String) (refs : List BlockDeviceSpecRef) : detachRefs disk refs ⊆ refs :=
  filter_subset_self _

def Without (vms : Store (Member σ)) (name disk : String) : Prop :=
  ∀ vm, vms.get? name = some vm → hasDiskRef vm disk = false

theorem Without.lessened {name disk : String} (without : Without s.vms name disk) (lessens : Lessens s t) :
    Without t.vms name disk := by
  intro later found
  obtain ⟨before, was, -, refs⟩ := lessens.refs name later found
  have absent := without before was
  by_contra present
  rw [hasDiskRef_mono refs (Bool.not_eq_false _ ▸ present)] at absent
  cases absent

theorem hasDiskRef_detachRefs (vm : Member σ) (disk : String) :
    hasDiskRef (vm.withRefs (detachRefs disk vm.blockDeviceRefs)) disk = false := by
  simp only [hasDiskRef, Member.withRefs, detachRefs, any_eq_false, mem_filter]
  intro ref ⟨_, other⟩
  simpa using other

structure Idle (s t : Session σ) : Prop where
  vms : t.vms = s.vms
  errors : s.errors <+: t.errors

theorem Idle.refl (s : Session σ) : Idle s s := ⟨rfl, prefix_refl _⟩

theorem Idle.trans {u : Session σ} (first : Idle s t) (next : Idle t u) : Idle s u :=
  ⟨next.vms.trans first.vms, first.errors.trans next.errors⟩

theorem Idle.foldl {α β : Type} (session : β → Session σ) {step : β → α → β}
    (idle : ∀ b x, Idle (session b) (session (step b x))) (list : List α) (b : β) :
    Idle (session b) (session (list.foldl step b)) := by
  induction list generalizing b with
  | nil => exact .refl _
  | cons x _ ih => exact (idle b x).trans (ih _)

theorem Idle.fail (idle : Idle s t) (failure : Failure) : Idle s (t.fail failure) :=
  idle.trans ⟨rfl, prefix_append _ _⟩

theorem Idle.lessens (idle : Idle s t) : Lessens s t := .of_vms idle.vms idle.errors

theorem writeDisks_idle (env : Env) (result : Except WriteError (Store VirtualDisk)) (s : Session σ) :
    Idle s (s.writeDisks env result).2 := ⟨rfl, prefix_refl _⟩

theorem read_idle (env : Env) (s : Session σ) : Idle s (s.read env).2 := ⟨rfl, prefix_refl _⟩

theorem writeDisks_eq {s after : Session σ} {reply : Reply} (answered : s.writeDisks env result = (reply, after)) :
    after = { s with disks := (s.disks.request (env.answers s.calls) result).2, calls := s.calls + 1 } ∧
      (s.disks.request (env.answers s.calls) result).1 = reply :=
  ⟨(congrArg Prod.snd answered).symm, congrArg Prod.fst answered⟩

theorem read_eq {s after : Session σ} {served : Bool} (answered : s.read env = (served, after)) :
    after = { s with calls := s.calls + 1 } := (congrArg Prod.snd answered).symm

structure Requests (env : Env) (result : Except WriteError (Store VirtualDisk)) (s t : Session σ) : Prop
    extends Idle s t where
  disks : t.disks = s.disks ∨ t.disks = (s.writeDisks env result).2.disks

theorem Requests.refl (env : Env) (result : Except WriteError (Store VirtualDisk)) (s : Session σ) :
    Requests env result s s := ⟨.refl _, .inl rfl⟩

theorem writeDisks_requests {reply : Reply} (answered : s.writeDisks env result = (reply, t)) :
    Requests env result s t := by
  obtain ⟨rfl, -⟩ := writeDisks_eq answered
  exact ⟨writeDisks_idle env result s, .inr rfl⟩

theorem Requests.fail (requests : Requests env result s t)
    (failure : Failure) : Requests env result s (t.fail failure) := ⟨requests.toIdle.fail _, requests.disks⟩

theorem resizeDisk_requests (env : Env) (want : Nat) (s : Session σ) (disk : VirtualDisk) :
    Requests env (s.disks.update { disk with size := some want }) s (resizeDisk env want s disk) := by
  unfold resizeDisk
  split
  · exact .refl ..
  split <;> rename_i answered
  · exact writeDisks_requests answered
  · exact (writeDisks_requests answered).fail _

theorem reconcileDiskSizes_idle (env : Env) (pool : TemplatedPool σ) (s : Session σ) :
    Idle s (reconcileDiskSizes env pool s) := by
  refine .foldl id (fun t _ => ?_) _ _
  have listed := read_idle env t
  unfold resizeTemplate
  split
  · exact .refl _
  split <;> rename_i answered <;> rw [answered] at listed
  · exact listed.fail _
  · exact listed.trans (.foldl id (fun s disk => (resizeDisk_requests env _ s disk).toIdle) _ _)

theorem sweepDisk_requests (env : Env) (referenced assigned : List String) (w : Sweep σ) (disk : VirtualDisk) :
    ∃ stamp, Requests env (w.session.disks.update { disk with freeSince := stamp }) w.session
      (sweepDisk env referenced assigned w disk).session := by
  unfold sweepDisk
  split
  · refine ⟨none, ?_⟩
    split
    · split <;> rename_i answered
      · exact writeDisks_requests answered
      · exact (writeDisks_requests answered).fail _
    · exact .refl ..
  refine ⟨some (some (env.now - env.now % second)), ?_⟩
  split
  · exact .refl ..
  dsimp only
  split <;> rename_i answered
  · exact writeDisks_requests answered
  · exact (writeDisks_requests answered).fail _

theorem collectDisk_requests (env : Env) (ttl : Int) (state : Option Int × Session σ) (disk : VirtualDisk) :
    Requests env (deleteDisk env.now disk.name (some disk.resourceVersion) state.2.disks) state.2
      (collectDisk env ttl state disk).2 := by
  unfold collectDisk
  dsimp only
  split
  · exact .refl ..
  split <;> rename_i answered
  · exact writeDisks_requests answered
  · exact writeDisks_requests answered
  · exact writeDisks_requests answered
  · exact (writeDisks_requests answered).fail _

theorem collect_idle (env : Env) (pool : TemplatedPool σ) (referenced assigned : List String)
    (state : Option Int × Session σ) (diskTemplate : VirtualDiskTemplateSpec) :
    Idle state.2 (collect env pool referenced assigned state diskTemplate).2 := by
  have listed := read_idle env state.2
  unfold collect gcReuseDisks
  split
  · exact .refl _
  split <;> rename_i answered <;> rw [answered] at listed
  · exact listed.fail _
  rename_i after
  have swept : Idle state.2 ((reuseDisks pool diskTemplate.name state.2.disks).foldl
      (sweepDisk env referenced assigned) ⟨after, []⟩).session :=
    listed.trans (.foldl Sweep.session
      (fun w disk => (sweepDisk_requests env referenced assigned w disk).choose_spec.toIdle) _ ⟨after, []⟩)
  split
  · exact swept
  · exact swept.trans (.foldl Prod.snd (fun state disk => (collectDisk_requests env _ state disk).toIdle) _ (none, _))

end Lessens

section Detach

def bootsFrom (disk : String) (vm : Member σ) : Bool := vm.blockDeviceRefs.head?.any (isRef disk)

structure Detached (vm disk : String) (s t : Session σ) : Prop extends Lessens s t where
  disks : t.disks = s.disks
  other : ∀ name, name ≠ vm → t.vms.get? name = s.vms.get? name
  boot : ∀ current, s.vms.get? vm = some current → bootsFrom disk current = false →
    ∃ later, t.vms.get? vm = some later ∧ later.blockDeviceRefs.head? = current.blockDeviceRefs.head?

variable {s t u : Session σ} {vm disk : String}

theorem Detached.of_vms (vms : t.vms = s.vms) (disks : t.disks = s.disks) (errors : s.errors <+: t.errors) :
    Detached vm disk s t :=
  ⟨.of_vms vms errors, disks, fun _ _ => by rw [vms], fun current found _ => ⟨current, by rw [vms, found], rfl⟩⟩

theorem Detached.trans (first : Detached vm disk s t) (next : Detached vm disk t u) : Detached vm disk s u where
  toLessens := first.toLessens.trans next.toLessens
  disks := next.disks.trans first.disks
  other := fun name different => (next.other name different).trans (first.other name different)
  boot := by
    intro current found kept
    obtain ⟨middle, there, same⟩ := first.boot current found kept
    obtain ⟨later, after, same'⟩ := next.boot middle there (by rwa [bootsFrom, same])
    exact ⟨later, after, same'.trans same⟩

theorem Detached.fail (detached : Detached vm disk s t) (failure : Failure) : Detached vm disk s (t.fail failure) :=
  detached.trans (.of_vms rfl rfl (prefix_append _ _))

theorem head?_detachRefs {current : Member σ} (kept : bootsFrom disk current = false) :
    (detachRefs disk current.blockDeviceRefs).head? = current.blockDeviceRefs.head? := by
  unfold bootsFrom at kept
  cases refs : current.blockDeviceRefs <;> simp_all [detachRefs]

variable [DecidableEq σ]

theorem updateVM_cases (env : Env) (vm : Member σ) (s : Session σ) :
    (updateVM env vm s).2.disks = s.disks ∧ (updateVM env vm s).2.errors = s.errors ∧
      ((updateVM env vm s).2.vms = s.vms ∧ (updateVM env vm s).1 ≠ .done ∨
        s.vms.update vm = .ok (updateVM env vm s).2.vms) :=
  ⟨rfl, rfl, s.vms.request_cases _ _⟩

theorem updateVM_detach {name : String} {current : Member σ} (env : Env) (disk : String)
    (found : s.vms.get? name = some current) :
    let result := updateVM env (current.withRefs (detachRefs disk current.blockDeviceRefs)) s
    Detached name disk s result.2 ∧ (result.1 = .done → Without result.2.vms name disk) := by
  intro result
  obtain ⟨disks, errors, kept | updated⟩ :=
    updateVM_cases env (current.withRefs (detachRefs disk current.blockDeviceRefs)) s
  · exact ⟨.of_vms kept.1 disks (by rw [errors]), fun done => absurd done kept.2⟩
  have held : key current = name := key_of_get? found
  have named : key (current.withRefs (detachRefs disk current.blockDeviceRefs)) = name := held
  obtain ⟨-, ⟨same, unchanged⟩ | written⟩ := update_ok updated (.of_get? found) rfl rfl
  · refine ⟨.of_vms same disks (by rw [errors]), fun _ vm later => ?_⟩
    rw [same, found] at later
    cases later
    rw [← unchanged]
    exact hasDiskRef_detachRefs current disk
  have read := s.vms.get?_write (current.withRefs (detachRefs disk current.blockDeviceRefs))
  rw [named] at read
  refine ⟨⟨⟨?_, ?_, fun copy snapshot => snapshot.update updated, by rw [errors]⟩, disks, fun other different => ?_,
    fun now there kept => ?_⟩, fun _ vm later => ?_⟩
  · intro other later there
    rw [written, read] at there
    split at there
    · rename_i same
      obtain ⟨_, -, rfl⟩ := Option.map_eq_some_iff.mp there
      exact ⟨current, same ▸ found, rfl, detachRefs_subset disk _⟩
    · exact ⟨later, there, rfl, refl _⟩
  · intro pool' disk'
    rw [written]
    refine countP_write_le fun now present holds => ?_
    rw [named, found] at present
    cases present
    exact holdsDisk_mono holds rfl (hasDiskRef_mono (detachRefs_subset disk _))
  · rw [written, read, if_neg different]
  · cases found.symm.trans there
    exact ⟨_, written ▸ get?_write_self found named, head?_detachRefs kept⟩
  rw [written, get?_write_self found named] at later
  cases later
  exact hasDiskRef_detachRefs current disk

theorem detachAttempts_spec (env : Env) (vm disk : String) (attempts : Nat) (s : Session σ) :
    Detached vm disk s (detachAttempts env vm disk attempts s).2 ∧
      ((detachAttempts env vm disk attempts s).1 = .done →
        Without (detachAttempts env vm disk attempts s).2.vms vm disk) := by
  induction attempts generalizing s with
  | zero => exact ⟨.of_vms rfl rfl (prefix_refl _), nofun⟩
  | succ _ ih =>
    have counted : Detached vm disk s { s with calls := s.calls + 1 } := .of_vms rfl rfl (prefix_refl _)
    unfold detachAttempts
    split
    · exact ⟨counted.trans (ih _).1, (ih _).2⟩
    · exact ⟨counted, nofun⟩
    · exact ⟨counted, nofun⟩
    split
    · exact ⟨counted, nofun⟩
    rename_i found
    obtain ⟨detached, without⟩ := updateVM_detach (s := { s with calls := s.calls + 1 }) env disk found
    split
    · rename_i refused
      rw [refused] at detached
      exact ⟨counted.trans (detached.trans (ih _).1), (ih _).2⟩
    rename_i answered
    rw [answered] at detached without
    exact ⟨counted.trans detached, without⟩

theorem detachDisk_detached (env : Env) (vm disk : String) (s : Session σ) :
    Detached vm disk s (detachDisk env vm disk s).2 := by
  have spec := (detachAttempts_spec env vm disk defaultRetrySteps s).1
  unfold detachDisk
  split <;> rename_i answered <;> rw [answered] at spec
  · exact spec
  · exact spec.fail _

theorem detachDisk_without (done : (detachDisk env vm disk s).1 ∨ (detachDisk env vm disk s).2.errors = []) :
    Without (detachDisk env vm disk s).2.vms vm disk := by
  have spec := (detachAttempts_spec env vm disk defaultRetrySteps s).2
  revert done
  unfold detachDisk
  split
  · rename_i answered
    rw [answered] at spec
    exact fun _ => spec rfl
  intro done
  simp [fail] at done

theorem pruneMember_cases (env : Env) (disk : String) (p : Pruning σ) (vm : Member σ) :
    (pruneMember env disk p vm).session = p.session ∨
      ¬ vm.deletionTimestamp.isSome ∧ hasDiskRef vm disk ∧ bootsFrom disk vm = false ∧
        Detached vm.name disk p.session (pruneMember env disk p vm).session := by
  have detached := detachDisk_detached env vm.name disk p.session
  unfold pruneMember
  split
  · exact .inl rfl
  rename_i live
  split
  · exact .inl rfl
  · exact .inl rfl
  rename_i later found
  obtain ⟨bound, isDisk, first⟩ := findIdx?_eq_some_iff_getElem.mp found
  have present : hasDiskRef vm disk := any_eq_true.mpr ⟨_, getElem_mem bound, isDisk⟩
  have kept : bootsFrom disk vm = false := by
    unfold bootsFrom
    rw [head?_eq_getElem?, getElem?_eq_getElem (Nat.zero_lt_of_lt bound), Option.any_some]
    exact Bool.not_eq_true _ ▸ first 0 (Nat.pos_of_ne_zero later)
  split <;> rename_i answered <;> rw [answered] at detached <;> exact .inr ⟨live, present, kept, detached⟩

theorem pruneMember_lessens (env : Env) (disk : String) (p : Pruning σ) (vm : Member σ) :
    Lessens p.session (pruneMember env disk p vm).session := by
  rcases pruneMember_cases env disk p vm with same | ⟨-, -, -, detached⟩
  · rw [same]
    exact .of_vms rfl (prefix_refl _)
  · exact detached.toLessens

theorem pruneDisk_lessens (env : Env) (pool : TemplatedPool σ) (copies : List (Member σ)) (s : Session σ)
    (disk : VirtualDisk) : Lessens s (pruneDisk env pool copies s disk) := by
  unfold pruneDisk
  split
  · exact .of_vms rfl (prefix_refl _)
  split
  · exact .of_vms rfl (prefix_refl _)
  have pruned : Lessens s (copies.foldl (pruneMember env disk.name) ⟨s, false, false⟩).session :=
    .foldl Pruning.session (pruneMember_lessens env disk.name) copies ⟨s, false, false⟩
  dsimp only
  split
  · exact pruned
  have deleted := (writeDisks_idle env (deleteDisk env.now disk.name none
    (copies.foldl (pruneMember env disk.name) ⟨s, false, false⟩).session.disks)
    (copies.foldl (pruneMember env disk.name) ⟨s, false, false⟩).session).lessens
  split <;> rename_i answered <;> rw [answered] at deleted
  · exact pruned.trans deleted
  · exact pruned.trans deleted
  · exact pruned.trans (deleted.fail _)

theorem pruneRemovedTemplates_lessens (env : Env) (pool : TemplatedPool σ) (copies : List (Member σ))
    (s : Session σ) : Lessens s (pruneRemovedTemplates env pool copies s) := by
  have listed := (read_idle env s).lessens
  unfold pruneRemovedTemplates
  split <;> rename_i answered <;> rw [answered] at listed
  · exact listed.fail _
  · exact listed.trans (.foldl id (pruneDisk_lessens env pool copies) _ _)

end Detach

variable {vm : Member σ}

section Attach

theorem replacePlaceholder_mem {placeholder disk : String} {refs replaced : List BlockDeviceSpecRef}
    (found : replacePlaceholder placeholder disk refs = some replaced) : (∃ ref ∈ replaced, isRef disk ref) ∧
      ∀ ref ∈ replaced, ref ∈ refs ∨ (ref.kind = .diskDevice ∧ ref.name = disk) := by
  induction refs generalizing replaced with
  | nil => cases found
  | cons _ _ ih =>
    unfold replacePlaceholder at found
    split at found
    · rename_i isPlaceholder
      obtain ⟨kind, -⟩ := of_decide_eq_true isPlaceholder
      cases found
      refine ⟨⟨_, mem_cons_self, decide_eq_true ⟨kind, rfl⟩⟩, fun _ member => ?_⟩
      rcases mem_cons.mp member with rfl | later
      · exact .inr ⟨kind, rfl⟩
      · exact .inl (mem_cons_of_mem _ later)
    obtain ⟨_, foundLater, rfl⟩ := Option.map_eq_some_iff.mp found
    obtain ⟨⟨ref, member, isDisk⟩, others⟩ := ih foundLater
    refine ⟨⟨ref, mem_cons_of_mem _ member, isDisk⟩, fun ref member => ?_⟩
    rcases mem_cons.mp member with rfl | later
    · exact .inl mem_cons_self
    · exact (others ref later).imp_left (mem_cons_of_mem _)

theorem attachRefs_mem (placeholder disk : String) (refs : List BlockDeviceSpecRef) :
    (∃ ref ∈ attachRefs placeholder disk refs, isRef disk ref) ∧
      ∀ ref ∈ attachRefs placeholder disk refs, ref ∈ refs ∨ (ref.kind = .diskDevice ∧ ref.name = disk) := by
  unfold attachRefs
  cases found : replacePlaceholder placeholder disk refs with
  | some => exact replacePlaceholder_mem found
  | none =>
    refine ⟨⟨⟨⟨.diskDevice, disk⟩, none⟩, by simp, by simp [isRef]⟩, fun _ member => ?_⟩
    simp only [Option.getD_none, mem_append, mem_singleton] at member
    rcases member with before | rfl
    · exact .inl before
    · exact .inr ⟨rfl, rfl⟩

theorem hasDiskRef_attachRefs (vm : Member σ) (placeholder disk : String) :
    hasDiskRef (vm.withRefs (attachRefs placeholder disk vm.blockDeviceRefs)) disk := by
  obtain ⟨ref, member, isDisk⟩ := (attachRefs_mem placeholder disk vm.blockDeviceRefs).1
  exact any_eq_true.mpr ⟨ref, member, isDisk⟩

theorem hasDiskRef_attachRefs_other {placeholder disk other : String} (different : other ≠ disk)
    (holds : hasDiskRef (vm.withRefs (attachRefs placeholder disk vm.blockDeviceRefs)) other) :
    hasDiskRef vm other := by
  obtain ⟨ref, member, isOther⟩ := any_eq_true.mp holds
  rcases (attachRefs_mem placeholder disk vm.blockDeviceRefs).2 ref member with before | ⟨-, named⟩
  · exact any_eq_true.mpr ⟨ref, before, isOther⟩
  · exact absurd ((of_decide_eq_true isOther).2.symm.trans named) different

variable [DecidableEq σ]

inductive Attachment (vm : Member σ) (disk placeholder : String) (s : Session σ) : Member σ × Session σ → Prop where
  | held (present : hasDiskRef vm disk) : Attachment vm disk placeholder s (vm, s)
  | rejected (t : Session σ) (vms : t.vms = s.vms) (disks : t.disks = s.disks) (errors : s.errors <+: t.errors)
      (failed : t.errors ≠ []) : Attachment vm disk placeholder s (vm, t)
  | lost (t : Session σ) (absent : hasDiskRef vm disk = false) (current : s.vms.get? vm.name = some vm)
      (vms : t.vms = s.vms.write (vm.withRefs (attachRefs placeholder disk vm.blockDeviceRefs)))
      (disks : t.disks = s.disks) (errors : s.errors <+: t.errors) (failed : t.errors ≠ []) :
      Attachment vm disk placeholder s (vm, t)
  | done (t : Session σ) (absent : hasDiskRef vm disk = false) (current : s.vms.get? vm.name = some vm)
      (vms : t.vms = s.vms.write (vm.withRefs (attachRefs placeholder disk vm.blockDeviceRefs)))
      (disks : t.disks = s.disks) (errors : t.errors = s.errors) :
      Attachment vm disk placeholder s
        (stamp (s.vms.revision + 1) (vm.withRefs (attachRefs placeholder disk vm.blockDeviceRefs)), t)

theorem attachDisk_cases {s : Session σ} (snapshot : s.vms.Snapshot vm) (env : Env) (disk placeholder : String) :
    Attachment vm disk placeholder s (attachDisk env vm disk placeholder s) := by
  unfold attachDisk
  split
  · exact .held ‹_›
  rename_i present
  have absent : hasDiskRef vm disk = false := by simpa using present
  dsimp only
  have outcome := updateVM_cases env (vm.withRefs (attachRefs placeholder disk vm.blockDeviceRefs)) s
  split
  · rename_i after answered
    rw [answered] at outcome
    obtain ⟨disks, errors, refused | updated⟩ := outcome
    · exact absurd rfl refused.2
    obtain ⟨current, ⟨-, unchanged⟩ | written⟩ := update_ok updated snapshot rfl rfl
    · have present := hasDiskRef_attachRefs vm placeholder disk
      rw [unchanged, absent] at present
      cases present
    have stored : after.vms.get? vm.name =
        some (stamp (s.vms.revision + 1) (vm.withRefs (attachRefs placeholder disk vm.blockDeviceRefs))) := by
      rw [written]
      exact get?_write_self current rfl
    rw [stored]
    exact .done after absent current written disks errors
  rename_i answered
  rw [answered] at outcome
  obtain ⟨disks, errors, kept | updated⟩ := outcome
  · exact .rejected _ kept.1 disks (errors ▸ prefix_append _ _) (by simp [fail])
  obtain ⟨current, ⟨same, -⟩ | written⟩ := update_ok updated snapshot rfl rfl
  · exact .rejected _ same disks (errors ▸ prefix_append _ _) (by simp [fail])
  · exact .lost _ absent current written disks (errors ▸ prefix_append _ _) (by simp [fail])

end Attach

variable {diskTemplate : VirtualDiskTemplateSpec}

section Grant

theorem createDisk_spec (env : Env) (disk : VirtualDisk) (s : Session σ) :
    (createDisk env disk s).2.vms = s.vms ∧ (createDisk env disk s).2.errors = s.errors ∧
      ((createDisk env disk s).2.disks = s.disks ∨ s.disks.create disk = .ok (createDisk env disk s).2.disks) ∧
      ((createDisk env disk s).1 → ((createDisk env disk s).2.disks.get? disk.name).isSome) := by
  have outcome := s.disks.request_cases (env.answers s.calls) (s.disks.create disk)
  have kept := outcome.imp_left And.left
  unfold createDisk
  split <;> rename_i answered <;> obtain ⟨rfl, replied⟩ := writeDisks_eq answered
  · refine ⟨rfl, rfl, kept, fun _ => ?_⟩
    rw [get?_create (outcome.resolve_left fun refused => refused.2 replied)]
    exact congrArg Option.isSome (if_pos rfl)
  · refine ⟨rfl, rfl, kept, fun _ => ?_⟩
    have refused := request_refused replied (by simp)
    have same := kept.resolve_right fun created => by rw [refused] at created; cases created
    rw [same]
    exact exists_of_create_error refused
  · exact ⟨rfl, rfl, kept, by simp⟩

inductive Supplied (env : Env) (pool : TemplatedPool σ) (diskTemplate : VirtualDiskTemplateSpec) (a : Assignment σ) :
    Store VirtualDisk → Prop where
  | same (later : Store VirtualDisk) (unchanged : later = a.session.disks) : Supplied env pool diskTemplate a later
  | delete (later : Store VirtualDisk) (policy : isDeletePolicy diskTemplate)
      (created : a.session.disks.create
        (buildDeleteDisk pool a.vm diskTemplate (deleteDiskName a.vm.name diskTemplate.name)) = .ok later) :
      Supplied env pool diskTemplate a later
  | retain (later : Store VirtualDisk) (n : Nat) (policy : isDeletePolicy diskTemplate = false)
      (created : a.session.disks.create (newRetainDisk pool diskTemplate (retainDiskName pool.name diskTemplate.name
        (env.rand n (a.session.disks.objects.map (·.name))))) = .ok later) :
      Supplied env pool diskTemplate a later

inductive Granted (env : Env) (pool : TemplatedPool σ) (referenced : List String)
    (diskTemplate : VirtualDiskTemplateSpec) (a : Assignment σ) : String → List String → Prop where
  | delete (policy : isDeletePolicy diskTemplate) :
      Granted env pool referenced diskTemplate a (deleteDiskName a.vm.name diskTemplate.name) a.assigned
  | reused (disk : VirtualDisk) (policy : isDeletePolicy diskTemplate = false)
      (reuse : disk ∈ reuseDisks pool diskTemplate.name a.session.disks)
      (free : isFree referenced a.assigned disk)
      (unattached : ∀ other ∈ reuseDisks pool diskTemplate.name a.session.disks, hasDiskRef a.vm other.name = false) :
      Granted env pool referenced diskTemplate a disk.name (disk.name :: a.assigned)
  | created (n : Nat) (name : String) (policy : isDeletePolicy diskTemplate = false)
      (generated : name = retainDiskName pool.name diskTemplate.name
        (env.rand n (a.session.disks.objects.map (·.name))))
      (unattached : ∀ other ∈ reuseDisks pool diskTemplate.name a.session.disks, hasDiskRef a.vm other.name = false) :
      Granted env pool referenced diskTemplate a name (name :: a.assigned)

structure Between (env : Env) (pool : TemplatedPool σ) (diskTemplate : VirtualDiskTemplateSpec) (a : Assignment σ)
    (session : Session σ) : Prop where
  vms : session.vms = a.session.vms
  errors : a.session.errors <+: session.errors
  disks : Supplied env pool diskTemplate a session.disks

variable [DecidableEq σ]

inductive Ensured (env : Env) (pool : TemplatedPool σ) (referenced : List String)
    (diskTemplate : VirtualDiskTemplateSpec) (a : Assignment σ) : Assignment σ → Prop where
  | without (session : Session σ) (between : Between env pool diskTemplate a session) :
      Ensured env pool referenced diskTemplate a { a with session }
  | attach (session : Session σ) (name : String) (assigned : List String)
      (between : Between env pool diskTemplate a session)
      (granted : Granted env pool referenced diskTemplate a name assigned)
      (present : (session.disks.get? name).isSome) :
      Ensured env pool referenced diskTemplate a
        (Assignment.attach env { session, vm := a.vm, assigned } name diskTemplate.name)

theorem pickFree_some {referenced assigned : List String} {disks : List VirtualDisk} {disk : VirtualDisk}
    (picked : pickFree referenced assigned disks = some disk) : disk ∈ disks ∧ isFree referenced assigned disk := by
  unfold pickFree at picked
  rw [Option.or_eq_some_iff] at picked
  have member : disk ∈ disks.filter (isFree referenced assigned) := by
    rcases picked with ready | ⟨-, first⟩
    · exact mem_of_find?_eq_some ready
    · exact mem_of_head? first
  exact ⟨(mem_filter.mp member).1, (mem_filter.mp member).2⟩

theorem ensureDeleteDisk_ensured {referenced : List String} (policy : isDeletePolicy diskTemplate) (env : Env)
    (pool : TemplatedPool σ) (a : Assignment σ) :
    Ensured env pool referenced diskTemplate a (ensureDeleteDisk env pool diskTemplate a) := by
  unfold ensureDeleteDisk
  dsimp only
  split <;> rename_i answered <;> obtain rfl := read_eq answered
  · exact .without _ ⟨rfl, prefix_append _ _, .same _ rfl⟩
  split
  · rename_i found
    exact .attach _ _ _ ⟨rfl, prefix_refl _, .same _ rfl⟩ (.delete policy) (by rw [found]; rfl)
  obtain ⟨vms, errors, disks, exists_⟩ := createDisk_spec env
    (buildDeleteDisk pool a.vm diskTemplate (deleteDiskName a.vm.name diskTemplate.name))
    { a.session with calls := a.session.calls + 1 }
  have supplied : Supplied env pool diskTemplate a _ := disks.elim (.same _) (.delete _ policy)
  split <;> rename_i answered <;> rw [answered] at vms errors supplied exists_
  · exact .without _ ⟨vms, errors ▸ prefix_append _ _, supplied⟩
  · exact .attach _ _ _ ⟨vms, errors ▸ prefix_refl _, supplied⟩ (.delete policy) (exists_ rfl)

theorem ensureRetainDisk_ensured (policy : isDeletePolicy diskTemplate = false) (env : Env) (pool : TemplatedPool σ)
    (referenced : List String) (a : Assignment σ) :
    Ensured env pool referenced diskTemplate a (ensureRetainDisk env pool referenced diskTemplate a) := by
  unfold ensureRetainDisk
  dsimp only
  split <;> rename_i answered <;> obtain rfl := read_eq answered
  · exact .without _ ⟨rfl, prefix_append _ _, .same _ rfl⟩
  split
  · exact .without _ ⟨rfl, prefix_refl _, .same _ rfl⟩
  rename_i unattached
  have unattached : ∀ other ∈ reuseDisks pool diskTemplate.name a.session.disks,
      hasDiskRef a.vm other.name = false := by
    intro other member
    by_contra attached
    exact unattached (any_eq_true.mpr ⟨other, member, Bool.not_eq_false _ ▸ attached⟩)
  split
  · rename_i disk picked
    obtain ⟨reuse, free⟩ := pickFree_some picked
    have present : (a.session.disks.get? disk.name).isSome := by
      have stored : disk ∈ a.session.disks.objects :=
        mem_of_mem_filter (mem_of_mem_filter (mem_of_mem_filter reuse))
      exact Option.isSome_of_eq_some (get?_of_mem stored)
    exact .attach _ _ _ ⟨rfl, prefix_refl _, .same _ rfl⟩ (.reused disk policy reuse free unattached) present
  have spec := createDisk_spec env (newRetainDisk pool diskTemplate (retainDiskName pool.name diskTemplate.name
    (env.rand (a.session.calls + 1) (a.session.disks.objects.map (·.name)))))
    { a.session with calls := a.session.calls + 1 }
  obtain ⟨vms, errors, disks, exists_⟩ := spec
  have supplied : Supplied env pool diskTemplate a _ := disks.elim (.same _) (.retain _ _ policy)
  split <;> rename_i answered <;> rw [answered] at vms errors supplied exists_
  · exact .without _ ⟨vms, errors ▸ prefix_append _ _, supplied⟩
  exact .attach _ _ _ ⟨vms, errors ▸ prefix_refl _, supplied⟩ (.created _ _ policy rfl unattached)
    (exists_ rfl)

theorem ensureDisk_ensured (env : Env) (pool : TemplatedPool σ) (referenced : List String) (a : Assignment σ)
    (diskTemplate : VirtualDiskTemplateSpec) :
    Ensured env pool referenced diskTemplate a (ensureDisk env pool referenced a diskTemplate) := by
  unfold ensureDisk
  split
  · exact ensureDeleteDisk_ensured ‹_› env pool a
  · exact ensureRetainDisk_ensured (by simpa using ‹¬ isDeletePolicy diskTemplate = true›) env pool referenced a

end Grant

section Assign

variable [DecidableEq σ]

theorem assign_invariant (inv : Session σ → List String → List (Member σ) → Prop) {s : Session σ}
    {copies : List (Member σ)}
    (preserved : ∀ xs ys a b, ∀ diskTemplate ∈ pool.virtualDiskTemplates, a.vm.deletionTimestamp = none →
      Ensured env pool (referencedDisks copies) diskTemplate a b → inv a.session a.assigned (xs ++ a.vm :: ys) →
      inv b.session b.assigned (xs ++ b.vm :: ys) ∧ b.vm.toVirtualMachine = a.vm.toVirtualMachine)
    (start : inv s [] copies) :
    inv (assign env pool copies s).session (assign env pool copies s).assigned (assign env pool copies s).members := by
  have templates : ∀ list ⊆ pool.virtualDiskTemplates, ∀ xs ys a, a.vm.deletionTimestamp = none →
      inv a.session a.assigned (xs ++ a.vm :: ys) →
      let b := list.foldl (ensureDisk env pool (referencedDisks copies)) a
      inv b.session b.assigned (xs ++ b.vm :: ys) := by
    intro list
    induction list with
    | nil => exact fun _ _ _ _ _ holds => holds
    | cons diskTemplate _ ih =>
      intro within xs ys a live holds
      obtain ⟨next, same⟩ := preserved xs ys a _ diskTemplate (within mem_cons_self) live
        (ensureDisk_ensured env pool (referencedDisks copies) a diskTemplate) holds
      exact ih (fun t member => within (mem_cons_of_mem _ member)) xs ys _ (by rw [same]; exact live) next
  have members : ∀ list (p : Progress σ), inv p.session p.assigned (p.members ++ list) →
      let q := list.foldl (ensureMember env pool (referencedDisks copies)) p
      inv q.session q.assigned q.members := by
    intro list
    induction list with
    | nil => exact fun p holds => by simpa using holds
    | cons vm rest ih =>
      intro p holds
      refine ih _ ?_
      unfold ensureMember
      split
      · simpa using holds
      rename_i live
      have step := templates pool.virtualDiskTemplates (refl _) p.members rest
        { session := p.session, vm, assigned := p.assigned } (by simpa using live) holds
      simpa using step
  exact members copies _ start

end Assign

variable {w : Sweep σ}

section Labels

def SameLabels (before later : VirtualDisk) : Prop :=
  later.poolUIDLabel = before.poolUIDLabel ∧ later.diskTemplateLabel = before.diskTemplateLabel ∧
    later.controllerOf = before.controllerOf
deriving Decidable

theorem SameLabels.trans {first second third : VirtualDisk} (one : SameLabels first second)
    (two : SameLabels second third) : SameLabels first third :=
  ⟨two.1.trans one.1, two.2.1.trans one.2.1, two.2.2.trans one.2.2⟩

/-- What a part of the pass may do to the disks that makes none and spares those that `keep` selects. -/
structure DisksKept (keep : String → Prop) (s t : Store VirtualDisk) : Prop where
  labels : ∀ name later, t.get? name = some later → ∃ before, s.get? name = some before ∧ SameLabels before later
  spares : ∀ name before, keep name → s.get? name = some before →
    ∃ later, t.get? name = some later ∧ SameLabels before later
  snapshot : ∀ copy, s.Snapshot copy → t.Snapshot copy

variable {keep : String → Prop}

theorem DisksKept.refl (keep : String → Prop) (s : Store VirtualDisk) : DisksKept keep s s :=
  ⟨fun _ later found => ⟨later, found, rfl, rfl, rfl⟩, fun _ before _ found => ⟨before, found, rfl, rfl, rfl⟩,
    fun _ => id⟩

variable {s t : Store VirtualDisk}

theorem DisksKept.trans {u : Store VirtualDisk} (first : DisksKept keep s t) (next : DisksKept keep t u) :
    DisksKept keep s u where
  labels := by
    intro name later found
    obtain ⟨middle, found, same⟩ := next.labels name later found
    obtain ⟨before, found, same'⟩ := first.labels name middle found
    exact ⟨before, found, same'.trans same⟩
  spares := by
    intro name before kept found
    obtain ⟨middle, found, same⟩ := first.spares name before kept found
    obtain ⟨later, found, same'⟩ := next.spares name middle kept found
    exact ⟨later, found, same.trans same'⟩
  snapshot := fun copy snapshot => next.snapshot copy (first.snapshot copy snapshot)

theorem DisksKept.foldl {α β : Type} (disks : β → Store VirtualDisk) {step : β → α → β} {list : List α}
    (kept : ∀ b, ∀ x ∈ list, DisksKept keep (disks b) (disks (step b x))) (b : β) :
    DisksKept keep (disks b) (disks (list.foldl step b)) := by
  induction list generalizing b with
  | nil => exact .refl _ _
  | cons x _ ih =>
    exact (kept b x mem_cons_self).trans (ih (fun c y member => kept c y (mem_cons_of_mem _ member)) _)

theorem DisksKept.foldl_read {β : Type} (disks : β → Store VirtualDisk) {step : β → VirtualDisk → β}
    (kept : ∀ b disk, (disks b).Snapshot disk → DisksKept keep (disks b) (disks (step b disk))) (b : β)
    {list : List VirtualDisk} (read : ∀ disk ∈ list, (disks b).Snapshot disk) :
    DisksKept keep (disks b) (disks (list.foldl step b)) := by
  induction list generalizing b with
  | nil => exact .refl _ _
  | cons disk _ ih =>
    have first := kept b disk (read disk mem_cons_self)
    exact first.trans (ih _ fun other member => first.snapshot other (read other (mem_cons_of_mem _ member)))

variable {disk : VirtualDisk}

theorem write_kept {new : VirtualDisk} (found : s.get? disk.name = some disk) (named : new.name = disk.name)
    (same : SameLabels disk new) : DisksKept keep s (s.write new) := by
  have current : s.get? (key new) = some disk := (congrArg s.get? named).trans found
  refine ⟨fun name later written => ?_, fun name before _ there => ?_, fun copy snapshot => snapshot.write _⟩
  · rcases found_write written with ⟨isNew, rfl⟩ | ⟨-, there⟩
    · exact ⟨disk, isNew ▸ current, same⟩
    · exact ⟨later, there, rfl, rfl, rfl⟩
  by_cases isNew : name = key new
  · have isDisk : before = disk := Option.some.inj (there.symm.trans (isNew ▸ current))
    exact ⟨_, get?_write_self there isNew.symm, isDisk ▸ same⟩
  · exact ⟨before, (get?_write_other isNew).trans there, rfl, rfl, rfl⟩

theorem update_kept {new : VirtualDisk} (snapshot : s.Snapshot disk) (named : new.name = disk.name)
    (sameVersion : new.resourceVersion = disk.resourceVersion) (same : SameLabels disk new)
    (updated : s.update new = .ok t) : DisksKept keep s t := by
  obtain ⟨found, ⟨rfl, -⟩ | rfl⟩ := update_ok updated snapshot named sameVersion
  · exact .refl _ _
  · exact write_kept found named same

theorem deleteDisk_kept {now : Int} {name : String} {precondition : Option Nat}
    (deleted : deleteDisk now name precondition s = .ok t) (given : ¬ keep name) : DisksKept keep s t := by
  unfold deleteDisk at deleted
  split at deleted
  · cases deleted
  rename_i disk found
  have current : s.get? disk.name = some disk := (congrArg s.get? (key_of_get? found)).trans found
  split at deleted
  · cases deleted
  split at deleted
  · cases deleted
    refine ⟨fun other later there => ?_, fun other before kept there => ?_, fun copy snapshot => snapshot.remove _⟩
    · exact ⟨later, of_get?_remove there, rfl, rfl, rfl⟩
    have different : other ≠ name := fun same => given (same ▸ kept)
    exact ⟨before, by rw [get?_remove, if_neg different]; exact there, rfl, rfl, rfl⟩
  split at deleted <;> cases deleted
  · exact .refl _ _
  · exact write_kept current rfl ⟨rfl, rfl, rfl⟩

theorem writeDisks_kept {s : Session σ} (env : Env) (kept : ∀ t, result = .ok t → DisksKept keep s.disks t) :
    DisksKept keep s.disks (s.writeDisks env result).2.disks := by
  rcases s.disks.request_cases (env.answers s.calls) result with ⟨same, -⟩ | done
  · unfold writeDisks
    dsimp only
    rw [same]
    exact .refl _ _
  · exact kept _ done

theorem Requests.kept {s t : Session σ} (requests : Requests env result s t)
    (kept : ∀ t, result = .ok t → DisksKept keep s.disks t) : DisksKept keep s.disks t.disks := by
  rcases requests.disks with same | written
  · rw [same]
    exact .refl _ _
  · rw [written]
    exact writeDisks_kept env kept

theorem sweepDisk_kept (env : Env) (referenced assigned : List String) (snapshot : w.session.disks.Snapshot disk) :
    DisksKept keep w.session.disks (sweepDisk env referenced assigned w disk).session.disks := by
  obtain ⟨_, requests⟩ := sweepDisk_requests env referenced assigned w disk
  exact requests.kept fun _ => update_kept snapshot rfl rfl ⟨rfl, rfl, rfl⟩

variable {referenced assigned : List String}

theorem sweepDisk_free {free : VirtualDisk} (selected : free ∈ (sweepDisk env referenced assigned w disk).free) :
    free ∈ w.free ∨ (free.name = disk.name ∧ disk.name ∉ referenced ∧ disk.name ∉ assigned) := by
  unfold sweepDisk at selected
  split at selected
  · left
    split at selected
    · split at selected <;> exact selected
    · exact selected
  rename_i unused
  simp only [not_or] at unused
  split at selected
  · rcases mem_append.mp selected with before | new
    · exact .inl before
    · exact .inr ⟨by rw [mem_singleton.mp new], unused⟩
  dsimp only at selected
  split at selected
  · rename_i after _
    rcases mem_append.mp selected with before | new
    · exact .inl before
    refine .inr ⟨?_, unused⟩
    rw [mem_singleton.mp new]
    cases found : after.disks.get? disk.name with
    | none => rfl
    | some => exact key_of_get? found
  · exact .inl selected

theorem sweep_free {list : List VirtualDisk} {free : VirtualDisk}
    (selected : free ∈ (list.foldl (sweepDisk env referenced assigned) w).free) :
    free ∈ w.free ∨ (free.name ∈ list.map (·.name) ∧ free.name ∉ referenced ∧ free.name ∉ assigned) := by
  induction list generalizing w with
  | nil => exact .inl selected
  | cons _ _ ih =>
    rcases ih selected with before | ⟨listed, unused⟩
    · rcases sweepDisk_free before with before | ⟨named, unused⟩
      · exact .inl before
      rw [named]
      exact .inr ⟨by simp, unused⟩
    · exact .inr ⟨mem_cons_of_mem _ listed, unused⟩

theorem collect_kept {state : Option Int × Session σ} (env : Env) (pool : TemplatedPool σ)
    (used : ∀ name, keep name → name ∈ referenced ∨ name ∈ assigned ∨
      name ∉ (reuseDisks pool diskTemplate.name state.2.disks).map (·.name)) :
    DisksKept keep state.2.disks (collect env pool referenced assigned state diskTemplate).2.disks := by
  unfold collect gcReuseDisks
  split
  · exact .refl _ _
  split <;> rename_i answered <;> obtain rfl := read_eq answered
  · exact .refl _ _
  have swept : DisksKept keep state.2.disks ((reuseDisks pool diskTemplate.name state.2.disks).foldl
      (sweepDisk env referenced assigned) ⟨{ state.2 with calls := state.2.calls + 1 }, []⟩).session.disks := by
    refine .foldl_read (fun w : Sweep σ => w.session.disks) (fun w disk => sweepDisk_kept env referenced assigned)
      ⟨{ state.2 with calls := state.2.calls + 1 }, []⟩ fun disk listed => ?_
    have stored := mem_of_mem_filter (mem_of_mem_filter (mem_of_mem_filter listed))
    exact .of_get? (get?_of_mem stored)
  split
  · exact swept
  refine swept.trans (.foldl (fun state : Option Int × Session σ => state.2.disks) ?_ (none, _))
  intro collected disk selected
  have free := (mem_insertionSort _).mp (mem_of_mem_drop selected)
  obtain ⟨listed, unreferenced, unassigned⟩ := (sweep_free free).resolve_left (not_mem_nil)
  refine (collectDisk_requests env _ collected disk).kept fun _ deleted => deleteDisk_kept deleted fun kept => ?_
  rcases used disk.name kept with isReferenced | isAssigned | other
  · exact unreferenced isReferenced
  · exact unassigned isAssigned
  · exact other listed

theorem reconcileDiskSizes_kept (env : Env) (pool : TemplatedPool σ) (s : Session σ) :
    DisksKept keep s.disks (reconcileDiskSizes env pool s).disks := by
  refine .foldl (fun s : Session σ => s.disks) (fun t diskTemplate _ => ?_) s
  unfold resizeTemplate
  split
  · exact .refl _ _
  rename_i want _
  split <;> rename_i answered <;> obtain rfl := read_eq answered
  · exact .refl _ _
  refine .foldl_read (fun s : Session σ => s.disks) (fun s disk snapshot => (resizeDisk_requests env want s disk).kept
    fun _ => update_kept snapshot rfl rfl ⟨rfl, rfl, rfl⟩) { t with calls := t.calls + 1 } fun disk listed => ?_
  exact .of_get? (get?_of_mem (mem_of_mem_filter (mem_of_mem_filter listed)))

end Labels

section Spared

variable [DecidableEq σ]

def ofRemovedTemplate (pool : TemplatedPool σ) (disk : VirtualDisk) : Bool :=
  disk.diskTemplateLabel.any fun template => template ∉ pool.virtualDiskTemplates.map (·.name)

variable {name : String}

def sparedBy (disk : String) (vm : Member σ) : Prop := vm.deletionTimestamp.isSome ∨ hasDiskRef vm disk = false

theorem pruneMember_other (spared : vm.name = name → sparedBy disk vm) (env : Env) (p : Pruning σ) :
    (pruneMember env disk p vm).session.vms.get? name = p.session.vms.get? name := by
  rcases pruneMember_cases env disk p vm with same | ⟨live, present, -, detached⟩
  · rw [same]
  refine detached.other name fun same => ?_
  rw [(spared same.symm).resolve_left live] at present
  cases present

/-- The session in which the deletion of a disk is issued, if the pruning comes to that. -/
def deletionOf (env : Env) (pool : TemplatedPool σ) (copies : List (Member σ)) (s : Session σ) (disk : VirtualDisk) :
    Option (Session σ) :=
  let p := copies.foldl (pruneMember env disk.name) { session := s, isBoot := false, attached := false }
  if ofRemovedTemplate pool disk ∧ ¬ disk.deletionTimestamp.isSome ∧ ¬ (p.isBoot ∨ p.attached) then some p.session
  else none

theorem pruneDisk_cases (env : Env) (pool : TemplatedPool σ) (copies : List (Member σ)) (s : Session σ)
    (disk : VirtualDisk) :
    let deletion := deletionOf env pool copies s disk
    (deletion = none ∧ (pruneDisk env pool copies s disk).vms = s.vms ∧
        (pruneDisk env pool copies s disk).disks = s.disks) ∨
      (ofRemovedTemplate pool disk ∧
        let p := copies.foldl (pruneMember env disk.name) ⟨s, false, false⟩
        (pruneDisk env pool copies s disk).vms = p.session.vms ∧
          (deletion = none ∧ (pruneDisk env pool copies s disk).disks = p.session.disks ∨
            p.attached = false ∧ deletion = some p.session ∧ (pruneDisk env pool copies s disk).disks =
              (p.session.writeDisks env (deleteDisk env.now disk.name none p.session.disks)).2.disks)) := by
  unfold pruneDisk deletionOf ofRemovedTemplate
  split
  · rename_i unlabelled
    exact .inl ⟨by simp [unlabelled], rfl, rfl⟩
  rename_i labelled
  rw [labelled, Option.any_some]
  split
  · rename_i spared
    refine .inl ⟨if_neg fun free => ?_, rfl, rfl⟩
    have removed := of_decide_eq_true free.1
    exact spared.elim removed free.2.1
  rename_i current
  obtain ⟨removed, live⟩ := not_or.mp current
  refine .inr ⟨decide_eq_true removed, ?_⟩
  dsimp only
  split
  · rename_i attached
    exact ⟨rfl, .inl ⟨if_neg fun free => free.2.2 attached, rfl⟩⟩
  rename_i free
  have unattached := Bool.not_eq_true _ ▸ (not_or.mp free).2
  split <;> rename_i answered <;> obtain ⟨rfl, -⟩ := writeDisks_eq answered <;>
    exact ⟨rfl, .inr ⟨unattached, if_pos ⟨decide_eq_true removed, live, free⟩, rfl⟩⟩

theorem pruneMembers_disks (env : Env) (disk : String) (list : List (Member σ)) (p : Pruning σ) :
    (list.foldl (pruneMember env disk) p).session.disks = p.session.disks := by
  induction list generalizing p with
  | nil => rfl
  | cons vm _ ih =>
    refine (ih _).trans ?_
    rcases pruneMember_cases env disk p vm with same | ⟨-, -, -, detached⟩
    · rw [same]
    · exact detached.disks

theorem pruneRemovedTemplates_kept {keep : String → Prop} (env : Env) (pool : TemplatedPool σ)
    (copies : List (Member σ)) (s : Session σ)
    (given : ∀ disk ∈ poolDisks pool s.disks, ofRemovedTemplate pool disk → ¬ keep disk.name) :
    DisksKept keep s.disks (pruneRemovedTemplates env pool copies s).disks := by
  unfold pruneRemovedTemplates
  split <;> rename_i answered <;> obtain rfl := read_eq answered
  · exact .refl _ _
  refine .foldl (fun s : Session σ => s.disks) (fun t disk listed => ?_) { s with calls := s.calls + 1 }
  have detached := pruneMembers_disks env disk.name copies ⟨t, false, false⟩
  rcases pruneDisk_cases env pool copies t disk with ⟨-, -, same⟩ | ⟨removed, -, ⟨-, same⟩ | ⟨-, -, deleted⟩⟩
  · rw [same]
    exact .refl _ _
  · rw [same, detached]
    exact .refl _ _
  have kept : DisksKept keep (copies.foldl (pruneMember env disk.name) ⟨t, false, false⟩).session.disks
      (pruneDisk env pool copies t disk).disks := by
    rw [deleted]
    exact writeDisks_kept env fun _ done => deleteDisk_kept done (given disk listed removed)
  rw [detached] at kept
  exact kept

theorem pruneRemovedTemplates_other {copies : List (Member σ)} (env : Env) (pool : TemplatedPool σ) (s : Session σ)
    (spared : ∀ disk ∈ poolDisks pool s.disks, ofRemovedTemplate pool disk → ∀ vm ∈ copies, vm.name = name →
      sparedBy disk.name vm) :
    (pruneRemovedTemplates env pool copies s).vms.get? name = s.vms.get? name := by
  unfold pruneRemovedTemplates
  split <;> rename_i answered <;> obtain rfl := read_eq answered
  · rfl
  refine List.foldlRecOn _ _ (motive := fun t : Session σ => t.vms.get? name = s.vms.get? name) rfl
    fun t before disk listed => ?_
  rcases pruneDisk_cases env pool copies t disk with ⟨-, same, -⟩ | ⟨removed, same, -⟩
  · rw [same]
    exact before
  rw [same]
  refine List.foldlRecOn _ _ (motive := fun p : Pruning σ => p.session.vms.get? name = s.vms.get? name) before
    fun p kept vm member => ?_
  exact (pruneMember_other (spared disk listed removed vm member) env p).trans kept

end Spared

end Virtualization.Pool.Disks
