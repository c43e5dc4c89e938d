import Virtualization.Pool.DiskPass

namespace Virtualization.Pool.Disks

open Virtualization.Core Lessens Library List Nat Store

variable {σ : Type} {env : Env} {pool : TemplatedPool σ}

def poolOwned (pool : TemplatedPool σ) (disks : Store VirtualDisk) (name : String) : Bool :=
  (allReuseDisks pool disks).any (·.name = name)

def deleteNames (pool : TemplatedPool σ) (copies : List (Member σ)) : List String :=
  (liveMembers copies).flatMap fun vm =>
    (pool.virtualDiskTemplates.filter isDeletePolicy).map fun diskTemplate => deleteDiskName vm.name diskTemplate.name

/-- A generated name belongs to no disk and is referenced by no live member. -/
def FreshNames (env : Env) (pool : TemplatedPool σ) (copies : List (Member σ)) : Prop :=
  ∀ n existing, ∀ diskTemplate ∈ pool.virtualDiskTemplates,
    retainDiskName pool.name diskTemplate.name (env.rand n existing) ∉ existing ++ referencedDisks copies

section Attachment

variable {vm : Member σ} {disk placeholder : String} {s : Session σ} {r : Member σ × Session σ}

section

variable (attachment : Attachment vm disk placeholder s r)
include attachment

theorem Attachment.identity : r.1.toVirtualMachine = vm.toVirtualMachine := by
  cases attachment <;> rfl

theorem Attachment.errors_prefix : s.errors <+: r.2.errors := by
  cases attachment with
  | held => exact prefix_refl _
  | rejected _ _ _ errors _ | lost _ _ _ _ _ errors _ => exact errors
  | done _ _ _ _ _ errors => rw [errors]

theorem Attachment.disks_eq : r.2.disks = s.disks := by
  cases attachment with
  | held => rfl
  | rejected _ _ disks | lost _ _ _ _ disks | done _ _ _ _ disks => exact disks

theorem Attachment.snapshot {copy : Member σ} (snapshot : s.vms.Snapshot copy) : r.2.vms.Snapshot copy := by
  cases attachment with
  | held => exact snapshot
  | rejected _ vms => exact vms ▸ snapshot
  | lost _ _ _ vms | done _ _ _ vms => exact vms ▸ snapshot.write _

theorem Attachment.snapshot_self (snapshot : s.vms.Snapshot vm) : r.2.vms.Snapshot r.1 := by
  cases attachment with
  | held => exact snapshot
  | rejected _ vms => exact vms ▸ snapshot
  | lost _ _ _ vms => exact vms ▸ snapshot.write _
  | done _ _ current vms =>
    refine .of_get? (k := vm.name) ?_
    rw [vms]
    exact get?_write_self current rfl

theorem Attachment.snapshots {xs ys : List (Member σ)}
    (snapshots : ∀ copy ∈ xs ++ vm :: ys, s.vms.Snapshot copy) : ∀ copy ∈ xs ++ r.1 :: ys, r.2.vms.Snapshot copy := by
  intro copy member
  rcases mem_append.mp member with earlier | later
  · exact attachment.snapshot (snapshots copy (mem_append_left _ earlier))
  rcases mem_cons.mp later with rfl | later
  · exact attachment.snapshot_self (snapshots vm (by simp))
  · exact attachment.snapshot (snapshots copy (mem_append_right _ (mem_cons_of_mem _ later)))

theorem Attachment.sharers_le (pool : TemplatedPool σ) (other : String) :
    sharers pool r.2.vms other ≤ sharers pool s.vms other + if other = disk then 1 else 0 := by
  have written : s.vms.get? vm.name = some vm →
      sharers pool (s.vms.write (vm.withRefs (attachRefs placeholder disk vm.blockDeviceRefs))) other ≤
        sharers pool s.vms other + if other = disk then 1 else 0 := by
    intro current
    split
    · exact countP_map_replace_le s.vms.unique _ _ _
    rename_i different
    refine countP_write_le fun _ present holds => ?_
    cases current.symm.trans present
    exact holdsDisk_mono holds rfl (hasDiskRef_attachRefs_other different)
  cases attachment with
  | held => exact le_add_right _ _
  | rejected _ vms => exact vms ▸ le_add_right _ _
  | lost _ _ current vms | done _ _ current vms => exact vms ▸ written current

theorem Attachment.countP_le (pool : TemplatedPool σ) (other : String) (xs ys : List (Member σ)) :
    (xs ++ r.1 :: ys).countP (holdsDisk pool other) ≤
      (xs ++ vm :: ys).countP (holdsDisk pool other) + if other = disk then 1 else 0 := by
  have replaced : ∀ next : Member σ,
      (other ≠ disk → holdsDisk pool other next = true → holdsDisk pool other vm = true) →
      (xs ++ next :: ys).countP (holdsDisk pool other) ≤
        (xs ++ vm :: ys).countP (holdsDisk pool other) + if other = disk then 1 else 0 := by
    intro next kept
    simp only [countP_append, countP_cons]
    by_cases same : other = disk
    · split <;> split <;> omega
    have := kept same
    split
    · rename_i holds
      rw [if_pos (this holds)]
      omega
    · omega
  cases attachment with
  | held | rejected | lost => exact le_add_right _ _
  | done => exact replaced _ fun different holds => holdsDisk_mono holds rfl (hasDiskRef_attachRefs_other different)

end

end Attachment

/-- What holds while disks are handed out: `disk` is held by no more members than the `n` before, and by one if it
    has been handed out. The pass has a copy of every member, in the order of `original`. -/
structure Handing (pool : TemplatedPool σ) (original : List (Member σ)) (disk : String) (n : Nat)
    (session : Session σ) (assigned : List String) (copies : List (Member σ)) : Prop where
  identities : copies.map (·.toVirtualMachine) = original.map (·.toVirtualMachine)
  snapshots : ∀ vm ∈ copies, session.vms.Snapshot vm
  stored : sharers pool session.vms disk ≤ n + if disk ∈ assigned then 1 else 0
  copied : copies.countP (holdsDisk pool disk) ≤ n + if disk ∈ assigned then 1 else 0
  unreferenced : disk ∈ assigned → disk ∉ referencedDisks original
  existing : ∀ name ∈ assigned, (session.disks.get? name).isSome

variable {original : List (Member σ)} {copies : List (Member σ)}

theorem deleteNames_congr
    (same : copies.map (·.toVirtualMachine) = original.map (·.toVirtualMachine)) :
    deleteNames pool copies = deleteNames pool original := by
  have names : ∀ list : List (Member σ), deleteNames pool list =
      ((list.map (·.toVirtualMachine)).filter (·.deletionTimestamp.isNone)).flatMap fun vm =>
        (pool.virtualDiskTemplates.filter isDeletePolicy).map fun diskTemplate =>
          deleteDiskName vm.name diskTemplate.name := by
    intro list
    rw [filter_map, flatMap_map]
    rfl
  rw [names, names, same]

variable {name : String}

theorem Supplied.mono {diskTemplate : VirtualDiskTemplateSpec} {a : Assignment σ} {later : Store VirtualDisk}
    (supplied : Supplied env pool diskTemplate a later) {disk : VirtualDisk}
    (found : a.session.disks.get? name = some disk) : later.get? name = some disk := by
  have kept : ∀ new, a.session.disks.create new = .ok later → later.get? name = some disk := by
    intro new created
    rw [get?_create created, if_neg ?_]
    · exact found
    intro same
    rw [same, create_fresh created] at found
    cases found
  cases supplied with
  | same unchanged => rw [unchanged]; exact found
  | delete _ created | retain _ _ created => exact kept _ created

variable {disk : String}

theorem Handing.granted {n : Nat} {xs ys : List (Member σ)} {a : Assignment σ} {diskTemplate : VirtualDiskTemplateSpec}
    {assigned : List String} (fresh : FreshNames env pool original) (listed : diskTemplate ∈ pool.virtualDiskTemplates)
    (live : a.vm.deletionTimestamp = none)
    (handing : Handing pool original disk n a.session a.assigned (xs ++ a.vm :: ys))
    (granted : Granted env pool (referencedDisks original) diskTemplate a name assigned) :
    (assigned = a.assigned ∧ name ∈ deleteNames pool original) ∨
      (assigned = name :: a.assigned ∧ name ∉ a.assigned ∧ name ∉ referencedDisks original) := by
  cases granted with
  | delete policy =>
    refine .inl ⟨rfl, ?_⟩
    rw [← deleteNames_congr handing.identities]
    refine mem_flatMap.mpr ⟨a.vm, ?_, mem_map.mpr ⟨diskTemplate, ?_, rfl⟩⟩
    · exact mem_filter.mpr ⟨by simp, by simp [live]⟩
    · exact mem_filter.mpr ⟨listed, policy⟩
  | reused _ _ _ free =>
    have unused := of_decide_eq_true free
    simp only [not_or] at unused
    exact .inr ⟨rfl, unused.2.1, unused.1⟩
  | created n name _ generated =>
    have new := fresh n (a.session.disks.objects.map (·.name)) diskTemplate listed
    rw [← generated, mem_append, not_or] at new
    refine .inr ⟨rfl, fun taken => new.1 ?_, new.2⟩
    -- What has been handed out exists, and a generated name does not.
    obtain ⟨old, found⟩ := Option.isSome_iff_exists.mp (handing.existing name taken)
    exact mem_map.mpr ⟨old, mem_of_get? found, key_of_get? found⟩

structure Covered (pool : TemplatedPool σ) (disk : String) (session : Session σ) (copies : List (Member σ)) : Prop where
  snapshots : ∀ vm ∈ copies, session.vms.Snapshot vm
  covered : session.errors = [] → ∀ current ∈ session.vms.objects, holdsDisk pool disk current →
    ∃ vm ∈ copies, vm.name = current.name ∧ holdsDisk pool disk vm

theorem Covered.lessened {s t : Session σ} (covered : Covered pool disk s copies) (lessens : Lessens s t) :
    Covered pool disk t copies := by
  refine ⟨fun vm member => lessens.snapshot vm (covered.snapshots vm member), fun quiet current member holds => ?_⟩
  have quietBefore : s.errors = [] := prefix_nil.mp (quiet ▸ lessens.errors)
  obtain ⟨before, found, same, refs⟩ := lessens.refs _ current (get?_of_mem member)
  have name : before.name = current.name := key_of_get? found
  have held := holdsDisk_mono holds same (hasDiskRef_mono refs)
  rw [← name]
  exact covered.covered quietBefore before (mem_of_get? found) held

theorem Attachment.covered {vm : Member σ} {placeholder : String} {s : Session σ} {r : Member σ × Session σ}
    (attachment : Attachment vm name placeholder s r) {xs ys : List (Member σ)}
    (covered : Covered pool disk s (xs ++ vm :: ys)) : Covered pool disk r.2 (xs ++ r.1 :: ys) := by
  refine ⟨attachment.snapshots covered.snapshots, fun quiet current member holds => ?_⟩
  have quietBefore : s.errors = [] := prefix_nil.mp (quiet ▸ attachment.errors_prefix)
  cases attachment with
  | held => exact covered.covered quietBefore current member holds
  | rejected _ _ _ _ failed | lost _ _ _ _ _ _ failed => exact absurd quiet failed
  | done _ _ stored vms =>
    have found := get?_of_mem member
    rw [vms] at found
    rcases found_write found with ⟨-, rfl⟩ | ⟨same, found⟩
    · -- The copy in hand is the stored object now.
      exact ⟨_, by simp, rfl, holds⟩
    obtain ⟨copy, listed, named, held⟩ := covered.covered quietBefore current (mem_of_get? found) holds
    refine ⟨copy, ?_, named, held⟩
    have notVM : copy ≠ vm := by
      rintro rfl
      exact same named.symm
    simp only [mem_append, mem_cons, notVM, false_or] at listed ⊢
    exact listed.imp_right .inr

variable [DecidableEq σ]

theorem handing_step {n : Nat} (fresh : FreshNames env pool original) (other : disk ∉ deleteNames pool original)
    (xs ys : List (Member σ)) (a b : Assignment σ) (diskTemplate : VirtualDiskTemplateSpec)
    (listed : diskTemplate ∈ pool.virtualDiskTemplates) (live : a.vm.deletionTimestamp = none)
    (ensured : Ensured env pool (referencedDisks original) diskTemplate a b)
    (handing : Handing pool original disk n a.session a.assigned (xs ++ a.vm :: ys)) :
    Handing pool original disk n b.session b.assigned (xs ++ b.vm :: ys) ∧
      b.vm.toVirtualMachine = a.vm.toVirtualMachine := by
  obtain ⟨identities, snapshots, stored, copied, unreferenced, existing⟩ := handing
  have supplied : ∀ {session : Session σ}, Between env pool diskTemplate a session →
      ∀ name ∈ a.assigned, (session.disks.get? name).isSome = true := by
    intro session between name taken
    obtain ⟨_, found⟩ := Option.isSome_iff_exists.mp (existing name taken)
    exact Option.isSome_of_eq_some (between.disks.mono found)
  cases ensured with
  | without _ between =>
    refine ⟨⟨identities, ?_, ?_, copied, unreferenced, supplied between⟩, rfl⟩
    · rw [between.vms]
      exact snapshots
    rw [between.vms]
    exact stored
  | attach session name assigned between granted present =>
    have snapshot : ∀ vm ∈ xs ++ a.vm :: ys, session.vms.Snapshot vm := by
      rw [between.vms]
      exact snapshots
    have attachment := attachDisk_cases (snapshot a.vm (by simp)) env name diskTemplate.name
    have storedAfter := attachment.sharers_le pool disk
    have copiedAfter := attachment.countP_le pool disk xs ys
    rw [between.vms] at storedAfter
    have handed := Handing.granted fresh listed live
      ⟨identities, snapshots, stored, copied, unreferenced, existing⟩ granted
    have counted : ∀ count later : Nat, count ≤ n + (if disk ∈ a.assigned then 1 else 0) →
        later ≤ count + (if disk = name then 1 else 0) → later ≤ n + if disk ∈ assigned then 1 else 0 := by
      intro count later before after
      rcases handed with ⟨rfl, isDelete⟩ | ⟨rfl, new, -⟩
      · have different : disk ≠ name := fun same => other (same ▸ isDelete)
        rw [if_neg different] at after
        exact after.trans before
      by_cases same : disk = name
      · subst same
        rw [if_neg new] at before
        rw [if_pos rfl] at after
        rw [if_pos mem_cons_self]
        omega
      simp only [mem_cons, same, false_or, if_false] at after ⊢
      exact after.trans before
    refine ⟨⟨?_, attachment.snapshots snapshot, counted _ _ stored storedAfter, counted _ _ copied copiedAfter, ?_, ?_⟩,
      attachment.identity⟩
    · simpa [Assignment.attach, attachment.identity] using identities
    · intro taken
      rcases handed with ⟨rfl, -⟩ | ⟨rfl, -, new⟩
      · exact unreferenced taken
      rcases mem_cons.mp taken with rfl | before
      · exact new
      · exact unreferenced before
    intro other taken
    have kept : ∀ name ∈ assigned, (session.disks.get? name).isSome := by
      rcases handed with ⟨rfl, -⟩ | ⟨rfl, -, -⟩
      · exact supplied between
      intro name taken
      rcases mem_cons.mp taken with rfl | before
      · exact present
      · exact supplied between name before
    have disks : (Assignment.attach env { session, vm := a.vm, assigned } name diskTemplate.name).session.disks =
        session.disks := attachment.disks_eq
    rw [disks]
    exact kept other taken

theorem covered_step (referenced : List String) (xs ys : List (Member σ)) (a b : Assignment σ)
    (diskTemplate : VirtualDiskTemplateSpec) (ensured : Ensured env pool referenced diskTemplate a b)
    (covered : Covered pool disk a.session (xs ++ a.vm :: ys)) :
    Covered pool disk b.session (xs ++ b.vm :: ys) ∧ b.vm.toVirtualMachine = a.vm.toVirtualMachine := by
  cases ensured with
  | without _ between => exact ⟨covered.lessened (.of_vms between.vms between.errors), rfl⟩
  | attach session name _ between =>
    have before : Covered pool disk session (xs ++ a.vm :: ys) :=
      covered.lessened (.of_vms between.vms between.errors)
    have attachment := attachDisk_cases (before.snapshots a.vm (by simp)) env name diskTemplate.name
    exact ⟨attachment.covered before, attachment.identity⟩

section Repair

theorem detachOthers_lessens (env : Env) (disk keeper : String) (s : Session σ) (vm : Member σ) :
    Lessens s (detachOthers env disk keeper s vm) := by
  unfold detachOthers
  split
  · exact .of_vms rfl (prefix_refl _)
  · exact (detachDisk_detached env vm.name disk s).toLessens

variable {disk : String} {s : Session σ} {vm : Member σ}

theorem detachOthers_without {keeper : String} {list : List (Member σ)}
    (quiet : (list.foldl (detachOthers env disk keeper) s).errors = [])
    (member : vm ∈ list) (other : vm.name ≠ keeper) :
    Without (list.foldl (detachOthers env disk keeper) s).vms vm.name disk := by
  induction list generalizing s with
  | nil => cases member
  | cons _ rest ih =>
    rw [foldl_cons] at quiet ⊢
    rcases mem_cons.mp member with rfl | later
    · have rest := foldl id (detachOthers_lessens env disk keeper) rest (detachOthers env disk keeper s vm)
      have detached : detachOthers env disk keeper s vm = (detachDisk env vm.name disk s).2 := if_neg other
      rw [detached] at rest quiet ⊢
      have quietHere : (detachDisk env vm.name disk s).2.errors = [] := prefix_nil.mp (quiet ▸ rest.errors)
      exact (detachDisk_without (.inr quietHere)).lessened rest
    · exact ih quiet later

theorem reassignDisk_lessens (env : Env) (copies : List (Member σ)) (s : Session σ) (disk : String) :
    Lessens s (reassignDisk env copies s disk) := by
  unfold reassignDisk
  split
  · exact .of_vms rfl (prefix_refl _)
  · exact .of_vms rfl (prefix_refl _)
  · exact .foldl id (detachOthers_lessens env disk _) _ _

theorem reassignCollisions_lessens (env : Env) (pool : TemplatedPool σ) (copies : List (Member σ)) (s : Session σ) :
    Lessens s (reassignCollisions env pool copies s) := by
  have listed := (read_idle env s).lessens
  unfold reassignCollisions
  split <;> rename_i answered <;> rw [answered] at listed
  · exact listed.fail _
  · exact listed.trans (.foldl id (reassignDisk_lessens env copies) _ _)

theorem reassignCollisions_disks (env : Env) (pool : TemplatedPool σ) (copies : List (Member σ)) (s : Session σ) :
    (reassignCollisions env pool copies s).disks = s.disks := by
  have others : ∀ disk keeper (list : List (Member σ)) (t : Session σ),
      (list.foldl (detachOthers env disk keeper) t).disks = t.disks := by
    intro disk keeper list
    induction list with
    | nil => exact fun _ => rfl
    | cons vm _ ih =>
      intro t
      rw [foldl_cons, ih, detachOthers]
      split
      · rfl
      · exact (detachDisk_detached env vm.name disk t).disks
  have keys : ∀ (list : List String) (t : Session σ), (list.foldl (reassignDisk env copies) t).disks = t.disks := by
    intro list
    induction list with
    | nil => exact fun _ => rfl
    | cons _ _ ih =>
      intro t
      rw [foldl_cons, ih, reassignDisk]
      split
      · rfl
      · rfl
      · exact others _ _ _ _
  unfold reassignCollisions
  split <;> rename_i answered <;> obtain rfl := read_eq answered
  · rfl
  · exact keys _ _

variable {copies : List (Member σ)}

omit [DecidableEq σ] in
theorem mem_referencedDisks (member : vm ∈ copies) (holds : holdsDisk pool disk vm) :
    disk ∈ referencedDisks copies := by
  obtain ⟨-, live, held⟩ := of_decide_eq_true holds
  obtain ⟨ref, listed, isDisk⟩ := any_eq_true.mp held
  obtain ⟨kind, named⟩ := of_decide_eq_true isDisk
  refine mem_flatMap.mpr ⟨vm, mem_filter.mpr ⟨member, by simpa using live⟩, ?_⟩
  exact mem_map.mpr ⟨ref, mem_filter.mpr ⟨listed, by simpa using kind⟩, named⟩

omit [DecidableEq σ] in
theorem mem_refBy (member : vm ∈ copies) (holds : holdsDisk pool disk vm) : vm ∈ refBy copies disk := by
  obtain ⟨-, live, held⟩ := of_decide_eq_true holds
  obtain ⟨ref, listed, isDisk⟩ := any_eq_true.mp held
  refine mem_flatMap.mpr ⟨vm, mem_filter.mpr ⟨member, by simpa using live⟩, ?_⟩
  exact mem_map.mpr ⟨ref, mem_filter.mpr ⟨listed, isDisk⟩, rfl⟩

theorem reassignDisk_sharers (covered : Covered pool disk s copies)
    (quiet : (reassignDisk env copies s disk).errors = []) :
    sharers pool (reassignDisk env copies s disk).vms disk ≤ 1 := by
  have holders : ∀ current ∈ (reassignDisk env copies s disk).vms.objects, holdsDisk pool disk current →
      ∃ vm ∈ refBy copies disk, vm.name = current.name := by
    intro current member holds
    obtain ⟨vm, listed, named, held⟩ :=
      (covered.lessened (reassignDisk_lessens env copies s disk)).covered quiet current member holds
    exact ⟨vm, mem_refBy listed held, named⟩
  revert quiet holders
  unfold reassignDisk
  split
  · intro _ holders
    refine countP_le_one (k := "") fun _ _ _ => ?_
    simp_all
  · rename_i only single
    intro _ holders
    refine countP_le_one (k := only.name) fun current member holds => ?_
    obtain ⟨_, listed, named⟩ := holders current member holds
    rw [single, mem_singleton] at listed
    rw [← listed, named]
    rfl
  rename_i first rest _ several
  intro quiet holders
  refine countP_le_one (k := (pickKeeper first (first :: rest)).name) fun current member holds => ?_
  obtain ⟨_, listed, named⟩ := holders current member holds
  by_contra other
  rw [several] at listed
  have without := detachOthers_without quiet listed fun same => other (named.symm.trans same)
  have absent := without current (named ▸ get?_of_mem member)
  rw [(of_decide_eq_true holds).2.2] at absent
  cases absent

theorem reassignCollisions_sharers (covered : Covered pool disk s copies) (owned : poolOwned pool s.disks disk)
    (quiet : (reassignCollisions env pool copies s).errors = []) :
    sharers pool (reassignCollisions env pool copies s).vms disk ≤ 1 := by
  revert quiet
  unfold reassignCollisions
  split <;> rename_i answered <;> obtain rfl := read_eq answered
  · intro quiet
    simp [Session.fail] at quiet
  intro quiet
  have start : Covered pool disk { s with calls := s.calls + 1 } copies :=
    covered.lessened (.of_vms rfl (prefix_refl _))
  obtain ⟨stored, reuse, named⟩ := any_eq_true.mp owned
  have isReuse : disk ∈ (allReuseDisks pool s.disks).map (·.name) :=
    mem_map.mpr ⟨stored, reuse, of_decide_eq_true named⟩
  by_cases ranged : disk ∈ env.order.keys (refByKeys pool s.disks copies)
  · obtain ⟨earlier, later, order⟩ := append_of_mem ranged
    rw [order, foldl_append, foldl_cons] at quiet ⊢
    have before := foldl id (reassignDisk_lessens env copies) earlier { s with calls := s.calls + 1 }
    have after := foldl id (reassignDisk_lessens env copies) later
      (reassignDisk env copies (earlier.foldl (reassignDisk env copies) { s with calls := s.calls + 1 }) disk)
    have quietHere : (reassignDisk env copies _ disk).errors = [] := prefix_nil.mp (quiet ▸ after.errors)
    exact (after.sharers pool disk).trans (reassignDisk_sharers (start.lessened before) quietHere)
  -- Without a copy that references the disk there is no holder.
  have after := foldl id (reassignDisk_lessens env copies)
    (env.order.keys (refByKeys pool s.disks copies)) { s with calls := s.calls + 1 }
  refine countP_le_one (k := "") fun current member holds => absurd ?_ ranged
  obtain ⟨_, listed, -, held⟩ := (start.lessened after).covered quiet current member holds
  rw [(env.order.perm _).mem_iff, refByKeys, mem_dedup, mem_filter]
  exact ⟨mem_referencedDisks listed held, decide_eq_true isReuse⟩

end Repair

section Pass

omit [DecidableEq σ] in
theorem poolOwned_of_kept {keep : String → Prop} {before later : Store VirtualDisk}
    (kept : DisksKept keep before later) {name : String} (owned : poolOwned pool later name) :
    poolOwned pool before name := by
  obtain ⟨disk, reuse, named⟩ := any_eq_true.mp owned
  obtain ⟨listed, labelled⟩ := mem_filter.mp reuse
  obtain ⟨stored, ofPool⟩ := mem_filter.mp listed
  obtain ⟨old, found, poolUID, template, controller⟩ := kept.labels _ disk (get?_of_mem stored)
  have oldName : old.name = disk.name := key_of_get? found
  refine any_eq_true.mpr ⟨old, mem_filter.mpr ⟨mem_filter.mpr ⟨mem_of_get? found, ?_⟩, ?_⟩, ?_⟩
  · rw [← poolUID]
    exact ofPool
  · rw [← template, ← controller]
    exact labelled
  rw [oldName]
  exact named

variable {s : Session σ}

omit [DecidableEq σ] in
theorem members_snapshot {vm : Member σ} (member : vm ∈ members pool s.vms) : s.vms.Snapshot vm :=
  .of_get? (get?_of_mem (mem_of_mem_filter member))

omit [DecidableEq σ] in
theorem members_countP (s : Session σ) (disk : String) :
    (members pool s.vms).countP (holdsDisk pool disk) = sharers pool s.vms disk := by
  unfold members sharers
  rw [countP_filter]
  refine countP_congr fun _ _ => ?_
  simp only [holdsDisk, Bool.and_eq_true, decide_eq_true_eq]
  exact ⟨And.left, fun holds => ⟨holds, holds.1⟩⟩

variable {disk : String}

omit [DecidableEq σ] in
theorem unreferenced_sharers (unreferenced : disk ∉ referencedDisks (members pool s.vms)) :
    sharers pool s.vms disk = 0 := by
  rw [← members_countP, countP_eq_zero]
  exact fun vm member holds => unreferenced (mem_referencedDisks member holds)

theorem assign_handing {start : Session σ} (lessens : Lessens start s)
    (fresh : FreshNames env pool (members pool start.vms)) (other : disk ∉ deleteNames pool (members pool start.vms)) :
    Handing pool (members pool start.vms) disk (sharers pool start.vms disk)
      (assign env pool (members pool start.vms) s).session (assign env pool (members pool start.vms) s).assigned
      (assign env pool (members pool start.vms) s).members := by
  refine assign_invariant (Handing pool _ disk _) (handing_step fresh other) ?_
  refine ⟨rfl, fun vm member => lessens.snapshot vm (members_snapshot member), ?_, ?_, nofun, nofun⟩
  · simpa using lessens.sharers pool disk
  · simp [members_countP]

theorem collected_idle (env : Env) (pool : TemplatedPool σ) (referenced : List String) (p : Progress σ) :
    Idle (reassignCollisions env pool p.members p.session) (finish env pool referenced p).2 :=
  .foldl Prod.snd (collect_idle env pool referenced p.assigned) _ (none, _)

theorem finish_sharers {referenced : List String} {p : Progress σ} (covered : Covered pool disk p.session p.members)
    (quiet : (finish env pool referenced p).2.errors = [])
    (owned : poolOwned pool (finish env pool referenced p).2.disks disk) :
    sharers pool (finish env pool referenced p).2.vms disk ≤ 1 := by
  have collected : Lessens (reassignCollisions env pool p.members p.session) (finish env pool referenced p).2 :=
    (collected_idle env pool referenced p).lessens
  have kept : DisksKept (fun _ => False) (reassignCollisions env pool p.members p.session).disks
      (finish env pool referenced p).2.disks :=
    .foldl (fun state : Option Int × Session σ => state.2.disks) (fun state _ _ => collect_kept env pool nofun)
      (none, _)
  rw [reassignCollisions_disks] at kept
  have quietHere := prefix_nil.mp (quiet ▸ collected.errors)
  exact (collected.sharers pool disk).trans
    (reassignCollisions_sharers covered (poolOwned_of_kept kept owned) quietHere)

theorem pruned_lessens (env : Env) (pool : TemplatedPool σ) (s : Session σ) :
    Lessens s (pruneRemovedTemplates env pool (members pool s.vms) { s with calls := s.calls + 1 }) := by
  have counted : Lessens s { s with calls := s.calls + 1 } := .of_vms rfl (prefix_refl _)
  exact counted.trans (pruneRemovedTemplates_lessens env pool _ _)

theorem handle_sharers_le (fresh : FreshNames env pool (members pool s.vms))
    (other : disk ∉ deleteNames pool (members pool s.vms)) :
    sharers pool (handle env pool s).2.vms disk ≤ max 1 (sharers pool s.vms disk) := by
  unfold handle
  split
  · exact le_max_right _ _
  split <;> rename_i answered <;> obtain rfl := read_eq answered
  · exact le_max_right _ _
  have pruned := pruned_lessens env pool s
  split
  · exact (pruned.sharers pool disk).trans (le_max_right _ _)
  have sized := pruned.trans (reconcileDiskSizes_idle env pool _).lessens
  refine (((reassignCollisions_lessens env pool _ _).trans
    (collected_idle env pool _ _).lessens).sharers pool disk).trans ?_
  have handing := assign_handing sized fresh other
  have bound := handing.stored
  split at bound
  · rename_i handed
    have none_ := unreferenced_sharers (handing.unreferenced handed)
    omega
  · omega

theorem handle_sharers_le_one (kept : pool.deletionTimestamp = none) (templates : pool.virtualDiskTemplates ≠ [])
    (quiet : (handle env pool s).2.errors = []) (owned : poolOwned pool (handle env pool s).2.disks disk) :
    sharers pool (handle env pool s).2.vms disk ≤ 1 := by
  revert quiet owned
  unfold handle
  rw [if_neg (by simp [kept])]
  split <;> rename_i answered <;> obtain rfl := read_eq answered
  · intro quiet
    simp [Session.fail] at quiet
  rw [if_neg templates]
  intro quiet owned
  have start : Covered pool disk s (members pool s.vms) := by
    refine ⟨fun vm => members_snapshot, fun _ current member holds => ⟨current, ?_, rfl, holds⟩⟩
    exact mem_filter.mpr ⟨member, (of_decide_eq_true holds).1⟩
  have prepared := start.lessened ((pruned_lessens env pool s).trans (reconcileDiskSizes_idle env pool _).lessens)
  refine finish_sharers ?_ quiet owned
  exact assign_invariant (fun session _ copies => Covered pool disk session copies)
    (fun xs ys a b diskTemplate _ _ => covered_step _ xs ys a b diskTemplate) prepared

end Pass

/-- A pass raises the number of live members that share a disk above one for no disk but a `Delete` disk, whatever
    requests fail. If none fails, it leaves every disk of a pool that has templates and is not deleted to one
    member. -/
theorem reuse_disk_not_shared {s : Session σ} (fresh : FreshNames env pool (members pool s.vms)) :
    (∀ disk, disk ∉ deleteNames pool (members pool s.vms) →
        sharers pool (handle env pool s).2.vms disk ≤ max 1 (sharers pool s.vms disk)) ∧
      (pool.deletionTimestamp = none → pool.virtualDiskTemplates ≠ [] → (handle env pool s).2.errors = [] →
        ∀ disk, poolOwned pool (handle env pool s).2.disks disk = true →
          sharers pool (handle env pool s).2.vms disk ≤ 1) :=
  ⟨fun _ => handle_sharers_le fresh, fun kept templates quiet _ => handle_sharers_le_one kept templates quiet⟩

section Examples

variable (answers : Nat → Answer)

def longNames (taken : List String) : Env :=
  { answers, rand := fun _ existing => String.join (existing ++ taken), order := .asListed, now := 0 }

theorem length_le_join {name : String} {names : List String} (member : name ∈ names) :
    name.length ≤ (String.join names).length := by
  induction names with
  | nil => cases member
  | cons _ _ ih =>
    rw [String.join_cons, String.length_append]
    rcases mem_cons.mp member with rfl | later
    · exact le_add_right _ _
    · exact (ih later).trans (le_add_left _ _)

theorem longNames_new (taken : List String) (pool template : String) (n : Nat) (existing : List String) :
    retainDiskName pool template ((longNames answers taken).rand n existing) ∉ existing ++ taken := by
  intro known
  have short := length_le_join known
  simp only [longNames, retainDiskName, String.length_append] at short
  have dash : "-".length = 1 := rfl
  omega

omit [DecidableEq σ] in
theorem longNames_fresh {taken : List String} {pool : TemplatedPool σ} (listed : referencedDisks copies ⊆ taken) :
    FreshNames (longNames answers taken) pool copies := by
  intro n existing diskTemplate _ member
  refine longNames_new answers taken pool.name diskTemplate.name n existing ?_
  rcases mem_append.mp member with old | referenced
  · exact mem_append_left _ old
  · exact mem_append_right _ (listed referenced)

def workers (onScaleDown : VirtualDiskReclaimPolicy) (deletionTimestamp : Option Int) (templates : List String) :
    TemplatedPool Unit :=
  { uid := 1, ns := "default", name := "workers", replicas := some 2, scaleDownPolicy := .explicit, deletionTimestamp
    virtualMachineTemplate := { metadata := "", spec := (), blockDeviceRefs := [] }
    virtualDiskTemplates := templates.map fun name => { name, onScaleDown, keep := 0, ttl := none, size := none } }

def worker (uid : UID) (name : String) (disks : List String) : Member Unit :=
  { uid, ns := "default", name, poolUIDLabel := some 1
    controllerOf := some ⟨schemeGroupVersion, virtualMachinePoolKind, "workers", 1⟩, creationTimestamp := 0
    deletionTimestamp := none, resourceVersion := 1
    blockDeviceRefs := disks.map fun disk => { kind := .diskDevice, name := disk, bootOrder := none }
    spec := (), templateHash := none, patchedTemplateHash := none, awaitingRestart := .unset
    blockDevicesReady := .unset }

def poolDisk (name template : String) : VirtualDisk :=
  { name, resourceVersion := 1, poolUIDLabel := some 1, diskTemplateLabel := some template, controllerOf := some 1
    deletionTimestamp := none, finalizers := [], phase := .ready, size := none, freeSince := none }

def site (first second : List String) (disk template : String) : Session Unit :=
  { vms :=
      { revision := 1, objects := [worker 2 "workers-a" first, worker 3 "workers-b" second]
        unique := show ["workers-a", "workers-b"].Nodup by decide
        bounded := by
          intro vm member
          simp only [mem_cons, not_mem_nil, or_false] at member
          rcases member with rfl | rfl <;> exact le_refl 1 }
    disks :=
      { revision := 1, objects := [poolDisk disk template], unique := nodup_singleton _
        bounded := by
          intro stored member
          rw [mem_singleton.mp member]
          exact le_refl 1 }
    calls := 0, errors := [] }

def collision : Session Unit := site ["workers-data-x"] ["workers-data-x"] "workers-data-x" "data"

def failing (call : Nat) : Nat → Answer := fun n => if n = call then .error else .ok

def passOver (pool : TemplatedPool Unit) (before : Session Unit) : Session Unit :=
  (handle (longNames answers (referencedDisks (members pool before.vms))) pool before).2

theorem reuse_disk_not_shared_repaired : sharers (workers .retain none ["data"]) collision.vms "workers-data-x" = 2 ∧
      sharers (workers .retain none ["data"])
        (passOver (fun _ => .ok) (workers .retain none ["data"]) collision).vms "workers-data-x" ≤ 1 :=
  ⟨by decide, (reuse_disk_not_shared (longNames_fresh _ (List.Subset.refl _))).2 rfl
    (by decide) (by decide) _ (by decide)⟩

/-- A deleted pool and one without templates leave a shared disk shared. A disk of the pool with the name of a
    `Delete` disk gets a second member if the repair fails. -/
theorem shared_disk_kept : (let pool := workers .retain (some 5) ["data"]
     let after := passOver (fun _ => .ok) pool collision
     after.errors = [] ∧ poolOwned pool after.disks "workers-data-x" = true ∧
       sharers pool after.vms "workers-data-x" = 2) ∧
    (let pool := workers .retain none []
     let after := passOver (fun _ => .ok) pool collision
     after.errors = [] ∧ poolOwned pool after.disks "workers-data-x" = true ∧
       sharers pool after.vms "workers-data-x" = 2) ∧
    (let pool := workers .delete none ["data"]
     let before := site ["data"] ["workers-a-data"] "workers-a-data" "data"
     let after := passOver (failing 7) pool before
     poolOwned pool before.disks "workers-a-data" = true ∧ sharers pool before.vms "workers-a-data" = 1 ∧
       sharers pool after.vms "workers-a-data" = 2) := by
  decide

end Examples

end Virtualization.Pool.Disks
