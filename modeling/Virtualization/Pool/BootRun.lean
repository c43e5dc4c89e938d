import Virtualization.Pool.BootOrder

namespace Virtualization.Pool.Disks

open Virtualization.Core Library List Option Store

variable {σ : Type} [DecidableEq σ] {pool : TemplatedPool σ} {uid : UID}

structure Cluster (σ : Type) where
  vms : Store (Member σ)
  disks : Store VirtualDisk

inductive Move (σ : Type) where
  | disks (env : Env)
  | template (env : Template.Env σ)
  | change (later : Cluster σ)

def observed (pool : TemplatedPool σ) (uid : UID) (vm : Member σ) : Prop := vm.uid = uid ∧ isMember pool vm
deriving Decidable

/-- The block devices are as they were, or a pass over an old cache has put a disk in the place of a placeholder that
    it has seen free and that another member may have by now. -/
def RefsKept (pool : TemplatedPool σ) (later : Store VirtualDisk) (old vm : Member σ) : Prop :=
  vm.blockDeviceRefs = old.blockDeviceRefs ∨
    vm.deletionTimestamp = none ∧ ∃ diskTemplate ∈ pool.virtualDiskTemplates, isDeletePolicy diskTemplate = false ∧
      ∃ disk ∈ reuseDisks pool diskTemplate.name later,
        replacePlaceholder diskTemplate.name disk.name old.blockDeviceRefs = some vm.blockDeviceRefs
deriving Decidable

/-- The disks of a member keep their labels, and they stay as long as the member is not terminating. -/
def DisksStay (before later : Store VirtualDisk) (old vm : Member σ) : Prop :=
  ∀ name ∈ diskRefs old,
    ((later.get? name).all fun disk => (before.get? name).any fun stored => SameLabels stored disk) ∧
      (vm.deletionTimestamp = none → (before.get? name).isSome → (later.get? name).isSome)
deriving Decidable

/-- The member with the UID is new and has the block devices of the template, or it is the one that was there. The
    other members are free. -/
def Allowed (pool : TemplatedPool σ) (uid : UID) (before later : Cluster σ) : Prop :=
  (∀ name ∈ templateNames pool, later.disks.get? name = none) ∧
    ∀ vm ∈ later.vms.objects, observed pool uid vm →
      vm.blockDeviceRefs = templateRefs pool ∨
        ∃ old ∈ before.vms.objects, observed pool uid old ∧ old.name = vm.name ∧
          (vm.deletionTimestamp = none → old.deletionTimestamp = none) ∧
          RefsKept pool later.disks old vm ∧ DisksStay before.disks later.disks old vm
deriving Decidable

def step (pool : TemplatedPool σ) (uid : UID) (c : Cluster σ) : Move σ → Option (Cluster σ)
  | .disks env =>
    let s := (handle env pool { vms := c.vms, disks := c.disks, calls := 0, errors := [] }).2
    some { vms := s.vms, disks := s.disks }
  | .template env => some { c with vms := (Template.handle env pool { vms := c.vms, calls := 0, errors := [] }).vms }
  | .change later => if Allowed pool uid c later then some later else none

/-- The passes that repair nothing: before each of them every disk of the pool has one live member at most, and the
    names it makes up are its own. -/
def Unrepaired (pool : TemplatedPool σ) (c : Cluster σ) : Move σ → Prop
  | .disks env => Regular env pool c.vms c.disks
  | .template _ | .change _ => True

def Created (pool : TemplatedPool σ) (uid : UID) (c : Cluster σ) : Prop :=
  ∀ vm ∈ c.vms.objects, observed pool uid vm → vm.blockDeviceRefs = templateRefs pool
deriving Decidable

omit [DecidableEq σ] in
theorem follows_templateRefs (bijective : Bijective pool) (disks : Store VirtualDisk) {vm : Member σ}
    (refs : vm.blockDeviceRefs = templateRefs pool) : Follows pool disks vm vm.blockDeviceRefs := by
  unfold Follows
  rw [refs, List.forall₂_same]
  intro ref member
  unfold Fits
  split
  · rename_i isDisk
    obtain ⟨diskTemplate, listed, named⟩ := bijective.named ref member isDisk
    exact ⟨isDisk, rfl, diskTemplate, listed, named, .inl rfl⟩
  · rfl

section Change

omit [DecidableEq σ]

variable {before later : Store VirtualDisk} {old vm : Member σ}

section

variable (named : old.name = vm.name)
include named

variable (same : old.uid = vm.uid)
include same

theorem isDiskOf_congr {diskTemplate : VirtualDiskTemplateSpec}
    {name : String} {one other : VirtualDisk} (labels : SameLabels one other) (found : before.get? name = some one)
    (there : later.get? name = some other) (isDisk : isDiskOf pool before old diskTemplate name) :
    isDiskOf pool later vm diskTemplate name := by
  obtain ⟨deleteName, stored⟩ := of_decide_eq_true isDisk
  rw [found] at stored
  refine decide_eq_true ⟨named ▸ deleteName, ?_⟩
  rw [there, any_some, labels.1, labels.2.1, labels.2.2, ← same]
  exact stored

theorem Follows.changed (follows : Follows pool before old old.blockDeviceRefs)
    (stay : DisksStay before later old vm) (live : vm.deletionTimestamp = none) :
    Follows pool later vm old.blockDeviceRefs := by
  refine follows.mono fun ref member kind _ _ isDisk => ?_
  obtain ⟨kept, stays⟩ := stay ref.name (mem_map.mpr ⟨ref, mem_filter.mpr ⟨member, decide_eq_true kind⟩, rfl⟩)
  obtain ⟨-, _, found, -⟩ := isDiskOf_iff.mp isDisk
  obtain ⟨_, there⟩ := isSome_iff_exists.mp (stays live (by rw [found]; rfl))
  rw [there, found] at kept
  exact isDiskOf_congr named same (of_decide_eq_true kept) found there isDisk

theorem Aligned.changed (aligned : Aligned pool before old)
    (stay : DisksStay before later old vm) (refs : vm.blockDeviceRefs = old.blockDeviceRefs) :
    Aligned pool later vm := by
  refine aligned.mono refs fun ref member kind _ _ isDisk => ?_
  obtain ⟨kept, -⟩ := stay ref.name (mem_map.mpr ⟨ref, mem_filter.mpr ⟨member, decide_eq_true kind⟩, rfl⟩)
  obtain ⟨-, _, there, -⟩ := isDiskOf_iff.mp isDisk
  rw [there, all_some] at kept
  obtain ⟨_, found, labels⟩ := (any_eq_true _ _).mp kept
  obtain ⟨ofPool, template, controller⟩ := of_decide_eq_true labels
  exact isDiskOf_congr named.symm same.symm ⟨ofPool.symm, template.symm, controller.symm⟩ there found isDisk

end

theorem RefsKept.follows (concrete : Concrete pool later) (kept : RefsKept pool later old vm)
    (follows : Follows pool later vm old.blockDeviceRefs) : Follows pool later vm vm.blockDeviceRefs := by
  rcases kept with same | ⟨-, _, listed, policy, disk, reuse, replaced⟩
  · rw [same]
    exact follows
  refine fits_replaced concrete listed follows ?_ replaced
  simp only [reuseDisks, templateDisks, poolDisks, mem_filter, decide_eq_true_eq] at reuse
  obtain ⟨⟨⟨stored, ofPool⟩, template⟩, controller⟩ := reuse
  refine decide_eq_true ⟨?_, (any_eq_true _ _).mpr ⟨disk, get?_of_mem stored, ?_⟩⟩
  · intro isDelete
    rw [policy] at isDelete
    cases isDelete
  rw [policy]
  exact decide_eq_true ⟨ofPool, template, controller⟩

theorem Ordered.observed_aligned (bijective : Bijective pool) {vms : Store (Member σ)}
    (ordered : Ordered pool uid vms before) (stored : vm ∈ vms.objects) (isObserved : observed pool uid vm) :
    Aligned pool before vm := by
  cases terminating : vm.deletionTimestamp with
  | none =>
    have isTracked : tracked pool uid vm := ⟨isObserved.1, isObserved.2, terminating⟩
    exact (ordered.follows vm stored isTracked).aligned bijective ordered.concrete
  | some => exact ordered.aligned vm stored ⟨isObserved.1, isObserved.2, by rw [terminating]; rfl⟩

theorem Allowed.ordered (bijective : Bijective pool) {c d : Cluster σ} (allowed : Allowed pool uid c d)
    (ordered : Ordered pool uid c.vms c.disks) : Ordered pool uid d.vms d.disks := by
  obtain ⟨concrete, members⟩ := allowed
  refine ⟨concrete, fun vm stored isTracked => ?_, fun vm stored isEnding => ?_⟩
  · rcases members vm stored ⟨isTracked.1, isTracked.2.1⟩ with refs | ⟨old, oldStored, isOld, named, live, kept, stay⟩
    · exact follows_templateRefs bijective d.disks refs
    have oldTracked : tracked pool uid old := ⟨isOld.1, isOld.2, live isTracked.2.2⟩
    have follows := (ordered.follows old oldStored oldTracked).changed named (isOld.1.trans isTracked.1.symm) stay
      isTracked.2.2
    exact kept.follows concrete follows
  rcases members vm stored ⟨isEnding.1, isEnding.2.1⟩ with refs | ⟨_, oldStored, isOld, named, -, kept, stay⟩
  · exact (follows_templateRefs bijective d.disks refs).aligned bijective concrete
  have aligned := ordered.observed_aligned bijective oldStored isOld
  rcases kept with refs | ⟨running, -⟩
  · exact aligned.changed named (isOld.1.trans isEnding.1.symm) stay refs
  have terminating := isEnding.2.2
  rw [running] at terminating
  cases terminating

theorem retouched_ordered {s t : Store (Member σ)}
    (retouched : ∀ name vm, t.get? name = some vm → ∃ old, s.get? name = some old ∧
      vm.toVirtualMachine = old.toVirtualMachine ∧ vm.blockDeviceRefs = old.blockDeviceRefs)
    (ordered : Ordered pool uid s before) : Ordered pool uid t before := by
  have labels : ∀ {old vm : Member σ}, vm.toVirtualMachine = old.toVirtualMachine → ∀ diskTemplate name,
      isDiskOf pool before vm diskTemplate name = isDiskOf pool before old diskTemplate name := by
    intro old vm same diskTemplate name
    unfold isDiskOf
    rw [same]
  refine ⟨ordered.concrete, fun vm stored isTracked => ?_, fun vm stored isEnding => ?_⟩
  · obtain ⟨old, found, same, refs⟩ := retouched _ vm (get?_of_mem stored)
    have follows := ordered.follows old (mem_of_get? found) (tracked_congr same isTracked)
    rw [refs]
    refine follows.mono fun _ _ _ _ _ isDisk => ?_
    rw [labels same]
    exact isDisk
  obtain ⟨old, found, same, refs⟩ := retouched _ vm (get?_of_mem stored)
  have aligned := ordered.aligned old (mem_of_get? found) (ending_congr same isEnding)
  refine aligned.mono refs fun _ _ _ _ _ isDisk => ?_
  rw [← labels same]
  exact isDisk

end Change

theorem step_ordered (bijective : Bijective pool) (c : Cluster σ) (move : Move σ) (d : Cluster σ)
    (ordered : Ordered pool uid c.vms c.disks) (unrepaired : Unrepaired pool c move)
    (moved : step pool uid c move = some d) : Ordered pool uid d.vms d.disks := by
  cases move with
  | disks =>
    cases moved
    exact handle_ordered bijective (s := ⟨c.vms, c.disks, 0, []⟩) ordered unrepaired
  | template env =>
    cases moved
    refine retouched_ordered (fun _ _ there => ?_) ordered
    obtain ⟨old, found, treated⟩ := Template.handle_treated env pool ⟨c.vms, 0, []⟩ there
    exact ⟨old, found, treated.keeps⟩
  | change =>
    obtain ⟨allowed, ⟨⟩⟩ := ite_none_right_eq_some.mp moved
    exact allowed.ordered bijective ordered

/-- In every run in which no pass has a shared disk to repair, a member that has all its disks has them in the order of
    the template. -/
theorem boot_order_kept (bijective : Bijective pool) {start reached : Cluster σ} {moves : List (Move σ)}
    (created : Created pool uid start) (concrete : Concrete pool start.disks)
    (unrepaired : Along (step pool uid) (Unrepaired pool) start moves)
    (moved : run (step pool uid) start moves = some reached) :
    ∀ vm ∈ reached.vms.objects, observed pool uid vm → resolved pool reached.disks vm →
      inOrder pool reached.disks vm := by
  have begun : Ordered pool uid start.vms start.disks := by
    refine ⟨concrete, fun vm stored isTracked => ?_, fun vm stored isEnding => ?_⟩
    · exact follows_templateRefs bijective _ (created vm stored ⟨isTracked.1, isTracked.2.1⟩)
    have follows := follows_templateRefs bijective start.disks (created vm stored ⟨isEnding.1, isEnding.2.1⟩)
    exact follows.aligned bijective concrete
  have ordered : Ordered pool uid reached.vms reached.disks :=
    run_invariant (step_ordered bijective) begun unrepaired moved
  intro vm stored isObserved complete
  exact (ordered.observed_aligned bijective stored isObserved).inOrder bijective complete

def bootDisk (name : String) : BlockDeviceSpecRef := { kind := .diskDevice, name, bootOrder := none }

def cdrom : BlockDeviceSpecRef := { kind := .imageDevice, name := "cdrom", bootOrder := none }

def bootPool : TemplatedPool Unit :=
  { workers .retain none ["data"] with
    virtualMachineTemplate := { metadata := "", spec := (), blockDeviceRefs := [bootDisk "data", cdrom] } }

theorem bootPool_bijective : Bijective bootPool := ⟨by decide, by decide, by decide, by decide⟩

def bootSite (refs : List BlockDeviceSpecRef) : Cluster Unit :=
  { vms :=
      { revision := 1
        objects := [(worker 2 "workers-a" []).withRefs [bootDisk "workers-data-x", cdrom],
          (worker 3 "workers-b" []).withRefs refs]
        unique := show ["workers-a", "workers-b"].Pairwise (· ≠ ·) by decide
        bounded := by
          intro vm member
          simp only [mem_cons, not_mem_nil, or_false] at member
          rcases member with rfl | rfl <;> exact Nat.le_refl 1 }
    disks := collision.disks }

def takenNames (c : Cluster Unit) : List String :=
  templateNames bootPool ++ deleteNames bootPool (members bootPool c.vms) ++ (members bootPool c.vms).flatMap diskRefs

def bootPass (c : Cluster Unit) : Move Unit := .disks (longNames (fun _ => .ok) (takenNames c))

theorem bootSite_unrepaired :
    Unrepaired bootPool (bootSite (templateRefs bootPool)) (bootPass (bootSite (templateRefs bootPool))) := by
  refine ⟨⟨longNames_fresh _ fun name referenced => ?_, fun n existing diskTemplate _ taken => ?_, by decide, by decide,
    by decide⟩, fun vm _ diskTemplate listed policy => ?_, fun disk owned => ?_⟩
  · obtain ⟨vm, live, listed⟩ := mem_flatMap.mp referenced
    exact mem_append_right _ (mem_flatMap.mpr ⟨vm, mem_of_mem_filter live, listed⟩)
  · exact longNames_new _ _ _ _ _ _ (mem_append_right _ taken)
  · have retained : ∀ diskTemplate ∈ bootPool.virtualDiskTemplates, isDeletePolicy diskTemplate = false := by decide
    rw [retained diskTemplate listed] at policy
    cases policy
  obtain ⟨stored, reuse, named⟩ := any_eq_true.mp owned
  have only : ∀ stored ∈ allReuseDisks bootPool collision.disks, stored.name = "workers-data-x" := by decide
  rw [← of_decide_eq_true named, only stored reuse]
  decide

theorem boot_order_kept_created :
    ∃ reached, run (step bootPool 3) (bootSite (templateRefs bootPool)) [bootPass (bootSite (templateRefs bootPool))] =
        some reached ∧
      ∃ vm ∈ reached.vms.objects, observed bootPool 3 vm ∧ resolved bootPool reached.disks vm ∧
        inOrder bootPool reached.disks vm := by
  refine exists_some_imp (p := fun c => ∃ vm ∈ c.vms.objects, observed bootPool 3 vm ∧ resolved bootPool c.disks vm)
    (by decide) ?_
  rintro reached moved ⟨vm, stored, isObserved, complete⟩
  have along : Along (step bootPool 3) (Unrepaired bootPool) (bootSite (templateRefs bootPool))
      [bootPass (bootSite (templateRefs bootPool))] := ⟨bootSite_unrepaired, fun _ _ => True.intro⟩
  exact ⟨vm, stored, isObserved, complete,
    boot_order_kept bootPool_bijective (by decide) (by decide) along moved vm stored isObserved complete⟩

/-- A pass over an old cache gives the second member the disk of the first. One pass takes it away, and the next one
    puts another disk behind the image, where the placeholder was not. -/
theorem repaired_member_out_of_order :
    let shared := bootSite [bootDisk "workers-data-x", cdrom]
    Bijective bootPool ∧ Created bootPool 3 (bootSite (templateRefs bootPool)) ∧
      Concrete bootPool (bootSite (templateRefs bootPool)).disks ∧
      ∃ reached, run (step bootPool 3) (bootSite (templateRefs bootPool))
          [.change shared, bootPass shared, bootPass shared] = some reached ∧
        ∃ vm ∈ reached.vms.objects, observed bootPool 3 vm ∧ resolved bootPool reached.disks vm ∧
          ¬ inOrder bootPool reached.disks vm := by
  intro shared
  exact ⟨bootPool_bijective, by decide, by decide, by decide⟩

end Virtualization.Pool.Disks
