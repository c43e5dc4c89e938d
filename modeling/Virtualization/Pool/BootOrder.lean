import Virtualization.Library.Run
import Virtualization.Pool.DiskSharing
import Virtualization.Pool.Template

namespace Virtualization.Pool.Disks

open Virtualization.Core Library List Store

variable {σ : Type} {pool : TemplatedPool σ}

def templateNames (pool : TemplatedPool σ) : List String :=
  pool.virtualDiskTemplates.map (·.name)

def templateRefs (pool : TemplatedPool σ) : List BlockDeviceSpecRef := pool.virtualMachineTemplate.blockDeviceRefs

def isDiskRef (ref : BlockDeviceSpecRef) : Bool := ref.kind = .diskDevice

/-- The rules of the CRD: every disk template is referenced, every referenced disk is a template, and exactly once. -/
structure Bijective (pool : TemplatedPool σ) : Prop where
  unique : (templateNames pool).Nodup
  referenced : ∀ diskTemplate ∈ pool.virtualDiskTemplates,
    ∃ ref ∈ templateRefs pool, ref.kind = .diskDevice ∧ ref.name = diskTemplate.name
  named : ∀ ref ∈ templateRefs pool, ref.kind = .diskDevice →
    ∃ diskTemplate ∈ pool.virtualDiskTemplates, diskTemplate.name = ref.name
  once : ((templateRefs pool).filter isDiskRef).length = pool.virtualDiskTemplates.length

def isDiskOf (pool : TemplatedPool σ) (disks : Store VirtualDisk) (vm : Member σ)
    (diskTemplate : VirtualDiskTemplateSpec) (name : String) : Bool :=
  (isDeletePolicy diskTemplate → name = deleteDiskName vm.name diskTemplate.name) ∧
    (disks.get? name).any fun disk =>
      disk.poolUIDLabel = some pool.uid ∧ disk.diskTemplateLabel = some diskTemplate.name ∧
        disk.controllerOf = some (if isDeletePolicy diskTemplate then vm.uid else pool.uid)

def resolved (pool : TemplatedPool σ) (disks : Store VirtualDisk) (vm : Member σ) : Prop :=
  ∀ diskTemplate ∈ pool.virtualDiskTemplates,
    ∃ ref ∈ vm.blockDeviceRefs, ref.kind = .diskDevice ∧ isDiskOf pool disks vm diskTemplate ref.name
deriving Decidable

def Holds (pool : TemplatedPool σ) (disks : Store VirtualDisk) (vm : Member σ) (wanted ref : BlockDeviceSpecRef) :
    Prop :=
  if wanted.kind = .diskDevice then
    ref.kind = .diskDevice ∧ ref.bootOrder = wanted.bootOrder ∧
      ∃ diskTemplate ∈ pool.virtualDiskTemplates, diskTemplate.name = wanted.name ∧
        isDiskOf pool disks vm diskTemplate ref.name
  else ref = wanted
deriving Decidable

def inOrder (pool : TemplatedPool σ) (disks : Store VirtualDisk) (vm : Member σ) : Prop :=
  vm.blockDeviceRefs.length = (templateRefs pool).length ∧
    ∀ pair ∈ (templateRefs pool).zip vm.blockDeviceRefs, Holds pool disks vm pair.1 pair.2
deriving Decidable

variable {disk : VirtualDisk}

section Positions

def Fits (pool : TemplatedPool σ) (disks : Store VirtualDisk) (vm : Member σ) (wanted ref : BlockDeviceSpecRef) :
    Prop :=
  if wanted.kind = .diskDevice then
    ref.kind = .diskDevice ∧ ref.bootOrder = wanted.bootOrder ∧
      ∃ diskTemplate ∈ pool.virtualDiskTemplates, diskTemplate.name = wanted.name ∧
        (ref.name = wanted.name ∨ isDiskOf pool disks vm diskTemplate ref.name)
  else ref = wanted

def Follows (pool : TemplatedPool σ) (disks : Store VirtualDisk) (vm : Member σ) (refs : List BlockDeviceSpecRef) :
    Prop :=
  List.Forall₂ (Fits pool disks vm) (templateRefs pool) refs

def Concrete (pool : TemplatedPool σ) (disks : Store VirtualDisk) : Prop :=
  ∀ name ∈ templateNames pool, disks.get? name = none
deriving Decidable

variable {disks : Store VirtualDisk} {vm : Member σ} {diskTemplate : VirtualDiskTemplateSpec} {name : String}

theorem isDiskOf_iff : isDiskOf pool disks vm diskTemplate name ↔
    (isDeletePolicy diskTemplate → name = deleteDiskName vm.name diskTemplate.name) ∧
    ∃ disk, disks.get? name = some disk ∧ disk.poolUIDLabel = some pool.uid ∧
      disk.diskTemplateLabel = some diskTemplate.name ∧
      disk.controllerOf = some (if isDeletePolicy diskTemplate then vm.uid else pool.uid) := by
  simp only [isDiskOf, decide_eq_true_eq, Option.any_eq_true]

theorem isDiskOf_retain (policy : isDeletePolicy diskTemplate = false) (found : disks.get? name = some disk)
    (labels : disk.poolUIDLabel = some pool.uid ∧ disk.diskTemplateLabel = some diskTemplate.name ∧
      disk.controllerOf = some pool.uid) :
    isDiskOf pool disks vm diskTemplate name :=
  isDiskOf_iff.mpr ⟨by simp [policy], disk, found, by simpa [policy] using labels⟩

theorem Concrete.not_diskOf (concrete : Concrete pool disks) (named : name ∈ templateNames pool) :
    ¬isDiskOf pool disks vm diskTemplate name := by
  intro isDisk
  obtain ⟨-, _, found, -⟩ := isDiskOf_iff.mp isDisk
  rw [concrete name named] at found
  cases found

theorem Concrete.template_not_disk (concrete : Concrete pool disks) (listed : diskTemplate ∈ pool.virtualDiskTemplates)
    (named : name = diskTemplate.name) {other : VirtualDiskTemplateSpec} : ¬isDiskOf pool disks vm other name :=
  concrete.not_diskOf (named ▸ mem_map.mpr ⟨diskTemplate, listed, rfl⟩)

theorem template_eq (bijective : Bijective pool) {one other : VirtualDiskTemplateSpec}
    (listed : one ∈ pool.virtualDiskTemplates) (listed' : other ∈ pool.virtualDiskTemplates)
    (same : one.name = other.name) : one = other :=
  inj_on_of_nodup_map bijective.unique listed listed' same

theorem diskOf_template (bijective : Bijective pool) {one other : VirtualDiskTemplateSpec}
    (listed : one ∈ pool.virtualDiskTemplates) (listed' : other ∈ pool.virtualDiskTemplates)
    (isDisk : isDiskOf pool disks vm one name) (isDisk' : isDiskOf pool disks vm other name) : one = other := by
  obtain ⟨-, _, found, -, template, -⟩ := isDiskOf_iff.mp isDisk
  obtain ⟨-, _, found', -, template', -⟩ := isDiskOf_iff.mp isDisk'
  cases found.symm.trans found'
  exact template_eq bijective listed listed' (Option.some.inj (template.symm.trans template'))

variable {refs : List BlockDeviceSpecRef}

theorem Follows.ref (follows : Follows pool disks vm refs) {ref : BlockDeviceSpecRef} (member : ref ∈ refs)
    (isDisk : ref.kind = .diskDevice) : ref.name ∈ templateNames pool ∨
      ∃ diskTemplate ∈ pool.virtualDiskTemplates, isDiskOf pool disks vm diskTemplate ref.name := by
  unfold Follows at follows
  generalize templateRefs pool = wanted at follows
  induction follows with
  | nil => cases member
  | cons fits _ ih =>
    rcases mem_cons.mp member with rfl | later
    · unfold Fits at fits
      split at fits
      · obtain ⟨-, -, diskTemplate, listed, named, placeholder | concrete⟩ := fits
        · exact .inl (placeholder ▸ named ▸ mem_map.mpr ⟨diskTemplate, listed, rfl⟩)
        · exact .inr ⟨diskTemplate, listed, concrete⟩
      rename_i image
      exact absurd (fits ▸ isDisk) image
    · exact ih later

theorem forall₂_imp_mem {α β : Type} {R S : α → β → Prop} {xs : List α} {ys : List β} (related : List.Forall₂ R xs ys)
    (imp : ∀ x, ∀ y ∈ ys, R x y → S x y) : List.Forall₂ S xs ys := by
  induction related with
  | nil => exact .nil
  | cons first _ ih => exact .cons (imp _ _ mem_cons_self first) (ih fun x y mem => imp x y (mem_cons_of_mem _ mem))

theorem Follows.mono {later : Store VirtualDisk} {other : Member σ} (follows : Follows pool disks vm refs)
    (kept : ∀ ref ∈ refs, ref.kind = .diskDevice → ∀ diskTemplate ∈ pool.virtualDiskTemplates,
      isDiskOf pool disks vm diskTemplate ref.name → isDiskOf pool later other diskTemplate ref.name) :
    Follows pool later other refs := by
  refine forall₂_imp_mem follows fun wanted ref member fits => ?_
  unfold Fits at fits ⊢
  by_cases isDisk : wanted.kind = .diskDevice
  · rw [if_pos isDisk] at fits ⊢
    obtain ⟨kind, order, diskTemplate, listed, named, disk⟩ := fits
    exact ⟨kind, order, diskTemplate, listed, named, disk.imp_right (kept ref member kind diskTemplate listed)⟩
  · rwa [if_neg isDisk] at fits ⊢

theorem fits_replaced (concrete : Concrete pool disks) (listed : diskTemplate ∈ pool.virtualDiskTemplates)
    {wanted replaced : List BlockDeviceSpecRef} (follows : List.Forall₂ (Fits pool disks vm) wanted refs)
    (isDisk : isDiskOf pool disks vm diskTemplate name)
    (found : replacePlaceholder diskTemplate.name name refs = some replaced) :
    List.Forall₂ (Fits pool disks vm) wanted replaced := by
  induction follows generalizing replaced with
  | nil => cases found
  | @cons position ref wanted refs fits rest ih =>
    unfold replacePlaceholder at found
    split at found
    · rename_i placeholder
      obtain ⟨kind, named⟩ := of_decide_eq_true placeholder
      cases found
      refine .cons ?_ rest
      unfold Fits at fits ⊢
      split at fits
      · rename_i isDiskPosition
        rw [if_pos isDiskPosition]
        obtain ⟨-, order, _, _, _, same | isOther⟩ := fits
        · exact ⟨kind, order, diskTemplate, listed, named.symm.trans same, .inr isDisk⟩
        -- The name of a template is not the name of a disk.
        exact absurd isOther (concrete.template_not_disk listed named)
      rename_i image
      exact absurd (fits ▸ kind) image
    obtain ⟨_, foundLater, rfl⟩ := Option.map_eq_some_iff.mp found
    exact .cons fits (ih foundLater)

section

variable (bijective : Bijective pool)
include bijective

theorem placeholder_found (listed : diskTemplate ∈ pool.virtualDiskTemplates) {wanted : List BlockDeviceSpecRef}
    (follows : List.Forall₂ (Fits pool disks vm) wanted refs)
    (referenced : ∃ ref ∈ wanted, ref.kind = .diskDevice ∧ ref.name = diskTemplate.name)
    (unresolved : ∀ ref ∈ refs, ref.kind = .diskDevice → ¬isDiskOf pool disks vm diskTemplate ref.name)
    (name : String) : ∃ replaced, replacePlaceholder diskTemplate.name name refs = some replaced := by
  induction follows with
  | nil =>
    obtain ⟨_, member, -⟩ := referenced
    cases member
  | @cons position ref wanted refs fits rest ih =>
    unfold replacePlaceholder
    by_cases placeholder : isRef diskTemplate.name ref = true
    · rw [if_pos placeholder]
      exact ⟨_, rfl⟩
    rw [if_neg placeholder]
    have later : ∃ ref ∈ wanted, ref.kind = .diskDevice ∧ ref.name = diskTemplate.name := by
      obtain ⟨found, member, kind, named⟩ := referenced
      rcases mem_cons.mp member with rfl | later
      · unfold Fits at fits
        rw [if_pos kind] at fits
        obtain ⟨refKind, -, _, otherListed, otherNamed, same | isOther⟩ := fits
        · exact absurd (decide_eq_true ⟨refKind, same.trans named⟩) placeholder
        cases template_eq bijective otherListed listed (otherNamed.trans named)
        exact absurd isOther (unresolved ref mem_cons_self refKind)
      · exact ⟨found, later, kind, named⟩
    obtain ⟨replaced, found⟩ := ih later fun other member => unresolved other (mem_cons_of_mem _ member)
    exact ⟨ref :: replaced, by rw [found]; rfl⟩

theorem Bijective.names_nodup : (((templateRefs pool).filter isDiskRef).map (·.name)).Nodup := by
  have within : (templateNames pool) ⊆ ((templateRefs pool).filter isDiskRef).map (·.name) := by
    intro name named
    obtain ⟨diskTemplate, listed, rfl⟩ := mem_map.mp named
    obtain ⟨ref, member, kind, same⟩ := bijective.referenced diskTemplate listed
    exact mem_map.mpr ⟨ref, mem_filter.mpr ⟨member, decide_eq_true kind⟩, same⟩
  have perm := (subperm_of_subset bijective.unique within).perm_of_length_le (by
    rw [length_map, bijective.once, templateNames, length_map])
  exact perm.nodup_iff.mp bijective.unique

theorem position_eq (length : (templateRefs pool).length ≤ refs.length)
    {one other : BlockDeviceSpecRef × BlockDeviceSpecRef} (member : one ∈ (templateRefs pool).zip refs)
    (member' : other ∈ (templateRefs pool).zip refs) (isDisk : one.1.kind = .diskDevice)
    (isDisk' : other.1.kind = .diskDevice) (same : one.1.name = other.1.name) : one = other := by
  have names : ((((templateRefs pool).zip refs).filter fun pair => isDiskRef pair.1).map (·.1.name)) =
      ((templateRefs pool).filter isDiskRef).map (·.name) := by
    have first : ((templateRefs pool).zip refs).map Prod.fst = templateRefs pool := map_fst_zip length
    rw [← first, filter_map, map_map]
    rw [first]
    rfl
  have nodup := bijective.names_nodup
  rw [← names] at nodup
  exact inj_on_of_nodup_map nodup (mem_filter.mpr ⟨member, decide_eq_true isDisk⟩)
    (mem_filter.mpr ⟨member', decide_eq_true isDisk'⟩) same

end

def Suits (pool : TemplatedPool σ) (disks : Store VirtualDisk) (vm : Member σ) (wanted ref : BlockDeviceSpecRef) :
    Prop :=
  if wanted.kind = .diskDevice then
    ref.kind = .diskDevice ∧ ref.bootOrder = wanted.bootOrder ∧ ∀ diskTemplate ∈ pool.virtualDiskTemplates,
      isDiskOf pool disks vm diskTemplate ref.name → diskTemplate.name = wanted.name
  else ref = wanted

def Aligned (pool : TemplatedPool σ) (disks : Store VirtualDisk) (vm : Member σ) : Prop :=
  List.Forall₂ (Suits pool disks vm) (templateRefs pool) vm.blockDeviceRefs

theorem Follows.aligned (bijective : Bijective pool) (concrete : Concrete pool disks)
    (follows : Follows pool disks vm vm.blockDeviceRefs) : Aligned pool disks vm := by
  refine List.Forall₂.imp (fun _ _ fits => ?_) follows
  unfold Fits at fits
  unfold Suits
  split at fits
  · rename_i isDiskPosition
    rw [if_pos isDiskPosition]
    obtain ⟨kind, order, _, listed, named, placeholder | isDisk⟩ := fits
    · exact ⟨kind, order, fun other _ isOther =>
        absurd isOther (concrete.template_not_disk listed (placeholder.trans named.symm))⟩
    refine ⟨kind, order, fun _ otherListed isOther => ?_⟩
    rw [diskOf_template bijective otherListed listed isOther isDisk, named]
  rename_i image
  rw [if_neg image]
  exact fits

theorem Aligned.mono {later : Store VirtualDisk} {other : Member σ} (aligned : Aligned pool disks vm)
    (refs : other.blockDeviceRefs = vm.blockDeviceRefs)
    (kept : ∀ ref ∈ vm.blockDeviceRefs, ref.kind = .diskDevice → ∀ diskTemplate ∈ pool.virtualDiskTemplates,
      isDiskOf pool later other diskTemplate ref.name → isDiskOf pool disks vm diskTemplate ref.name) :
    Aligned pool later other := by
  unfold Aligned
  rw [refs]
  refine forall₂_imp_mem aligned fun wanted ref member suits => ?_
  unfold Suits at suits ⊢
  by_cases isDisk : wanted.kind = .diskDevice
  · rw [if_pos isDisk] at suits ⊢
    obtain ⟨kind, order, only⟩ := suits
    exact ⟨kind, order, fun diskTemplate listed isOf =>
      only diskTemplate listed (kept ref member kind diskTemplate listed isOf)⟩
  · rwa [if_neg isDisk] at suits ⊢

theorem Aligned.inOrder (bijective : Bijective pool) (aligned : Aligned pool disks vm)
    (complete : resolved pool disks vm) : inOrder pool disks vm := by
  refine ⟨aligned.length_eq.symm, fun pair member => ?_⟩
  have suits : ∀ pair ∈ (templateRefs pool).zip vm.blockDeviceRefs, Suits pool disks vm pair.1 pair.2 :=
    fun pair member => (List.forall₂_iff_zip.mp aligned).2 member
  have wantedMember : pair.1 ∈ templateRefs pool := (of_mem_zip member).1
  have here := suits pair member
  unfold Suits at here
  unfold Holds
  split at here
  · rename_i isDiskPosition
    rw [if_pos isDiskPosition]
    obtain ⟨kind, order, -⟩ := here
    obtain ⟨diskTemplate, listed, named⟩ := bijective.named pair.1 wantedMember isDiskPosition
    -- The disk of the template is at the only position that the template has.
    obtain ⟨_, refMember, refKind, isDisk⟩ := complete diskTemplate listed
    have second : ((templateRefs pool).zip vm.blockDeviceRefs).map Prod.snd = vm.blockDeviceRefs :=
      map_snd_zip aligned.length_eq.ge
    rw [← second] at refMember
    obtain ⟨found, foundMember, rfl⟩ := mem_map.mp refMember
    have there := suits found foundMember
    unfold Suits at there
    split at there
    · rename_i foundPosition
      have foundNamed := there.2.2 diskTemplate listed isDisk
      have same : pair = found := position_eq bijective aligned.length_eq.le member foundMember isDiskPosition
        foundPosition (named.symm.trans foundNamed)
      exact ⟨kind, order, diskTemplate, listed, named, same ▸ isDisk⟩
    rename_i image
    exact absurd (there ▸ refKind) image
  rename_i image
  rw [if_neg image]
  exact here

end Positions

section Assignment

variable {env : Env} {original : List (Member σ)} {uid : UID}

def tracked (pool : TemplatedPool σ) (uid : UID) (vm : Member σ) : Prop :=
  vm.uid = uid ∧ isMember pool vm ∧ vm.deletionTimestamp = none
deriving Decidable

def ending (pool : TemplatedPool σ) (uid : UID) (vm : Member σ) : Prop :=
  vm.uid = uid ∧ isMember pool vm ∧ vm.deletionTimestamp.isSome

/-- A disk with the name of a `Delete` disk of a live member is that disk. -/
def OwnDisks (pool : TemplatedPool σ) (copies : List (Member σ)) (disks : Store VirtualDisk) : Prop :=
  ∀ vm ∈ liveMembers copies, ∀ diskTemplate ∈ pool.virtualDiskTemplates, isDeletePolicy diskTemplate →
    ∀ disk, disks.get? (deleteDiskName vm.name diskTemplate.name) = some disk →
      disk.poolUIDLabel = some pool.uid ∧ disk.diskTemplateLabel = some diskTemplate.name ∧
        disk.controllerOf = some vm.uid

/-- The names that the pass makes up: those it generates are new, and none is the name of a template or of another
    `Delete` disk. A UID belongs to one object. -/
structure Names (env : Env) (pool : TemplatedPool σ) (copies : List (Member σ)) : Prop where
  fresh : FreshNames env pool copies
  generated : ∀ n existing, ∀ diskTemplate ∈ pool.virtualDiskTemplates,
    retainDiskName pool.name diskTemplate.name (env.rand n existing) ∉
      templateNames pool ++ deleteNames pool copies ++ copies.flatMap diskRefs
  concrete : ∀ name ∈ deleteNames pool copies, name ∉ templateNames pool
  distinct : ∀ vm ∈ liveMembers copies, ∀ other ∈ liveMembers copies,
    ∀ diskTemplate ∈ pool.virtualDiskTemplates, ∀ otherTemplate ∈ pool.virtualDiskTemplates,
      deleteDiskName vm.name diskTemplate.name = deleteDiskName other.name otherTemplate.name →
        vm = other ∧ diskTemplate.name = otherTemplate.name
  uids : (pool.uid :: copies.map (·.uid)).Nodup

/-- The member follows the template, and its disks are out of reach of the collection. -/
def Placed (pool : TemplatedPool σ) (original : List (Member σ)) (disks : Store VirtualDisk) (assigned : List String)
    (vm : Member σ) : Prop :=
  Follows pool disks vm vm.blockDeviceRefs ∧ ∀ name, hasDiskRef vm name →
    name ∈ referencedDisks original ∨ name ∈ assigned ∨ name ∈ deleteNames pool original

structure Booting (pool : TemplatedPool σ) (uid : UID) (original : List (Member σ)) (start : Store VirtualDisk)
    (session : Session σ) (assigned : List String) (copies : List (Member σ)) : Prop where
  identities : copies.map (·.toVirtualMachine) = original.map (·.toVirtualMachine)
  snapshots : ∀ vm ∈ copies, session.vms.Snapshot vm
  own : OwnDisks pool original session.disks
  concrete : Concrete pool session.disks
  origin : ∀ name, poolOwned pool session.disks name →
    poolOwned pool start name ∨ name ∉ referencedDisks original
  stored : ∀ vm ∈ session.vms.objects, tracked pool uid vm → Placed pool original session.disks assigned vm
  copied : ∀ vm ∈ copies, tracked pool uid vm → Placed pool original session.disks assigned vm
  ended : ∀ vm ∈ session.vms.objects, ending pool uid vm → vm ∈ original ∧ Aligned pool session.disks vm

variable {copies : List (Member σ)} {vm : Member σ}

theorem Names.uid_ne (names : Names env pool copies) (live : vm ∈ liveMembers copies) : vm.uid ≠ pool.uid := by
  intro same
  refine (nodup_cons.mp names.uids).1 (mem_map.mpr ⟨vm, mem_of_mem_filter live, same⟩)

theorem Names.eq_of_uid (names : Names env pool copies) {one other : Member σ} (member : one ∈ copies)
    (member' : other ∈ copies) (same : one.uid = other.uid) : one = other :=
  inj_on_of_nodup_map (nodup_cons.mp names.uids).2 member member' same

variable {diskTemplate : VirtualDiskTemplateSpec}

theorem mem_deleteNames (member : vm ∈ liveMembers copies) (listed : diskTemplate ∈ pool.virtualDiskTemplates)
    (policy : isDeletePolicy diskTemplate) : deleteDiskName vm.name diskTemplate.name ∈ deleteNames pool copies :=
  mem_flatMap.mpr ⟨vm, member, mem_map.mpr ⟨diskTemplate, mem_filter.mpr ⟨listed, policy⟩, rfl⟩⟩

variable {disks : Store VirtualDisk} {name : String}

theorem poolOwned_iff :
    poolOwned pool disks name ↔ ∃ disk, disks.get? name = some disk ∧ disk.poolUIDLabel = some pool.uid ∧
      disk.diskTemplateLabel.isSome ∧ disk.controllerOf = some pool.uid := by
  unfold poolOwned allReuseDisks poolDisks
  simp only [any_eq_true, mem_filter, decide_eq_true_eq]
  constructor
  · rintro ⟨disk, ⟨⟨stored, ofPool⟩, labelled, controller⟩, rfl⟩
    exact ⟨disk, get?_of_mem stored, ofPool, labelled, controller⟩
  rintro ⟨disk, found, ofPool, labelled, controller⟩
  exact ⟨disk, ⟨⟨mem_of_get? found, ofPool⟩, labelled, controller⟩, key_of_get? found⟩

variable {start : Store VirtualDisk} {session : Session σ}

theorem Booting.listed {assigned : List String}
    (booting : Booting pool uid original start session assigned copies) (member : vm ∈ copies) :
    ∃ listed ∈ original, listed.toVirtualMachine = vm.toVirtualMachine :=
  mem_map.mp (booting.identities ▸ mem_map.mpr ⟨vm, member, rfl⟩)

theorem Booting.origin_member {assigned : List String}
    (booting : Booting pool uid original start session assigned copies) (member : vm ∈ copies)
    (live : vm.deletionTimestamp = none) :
    ∃ listed ∈ liveMembers original, listed.toVirtualMachine = vm.toVirtualMachine := by
  obtain ⟨listed, isListed, same⟩ := booting.listed member
  refine ⟨listed, mem_filter.mpr ⟨isListed, ?_⟩, same⟩
  rw [same]
  simp [live]

variable {a : Assignment σ} {later : Store VirtualDisk}

theorem Supplied.cases (supplied : Supplied env pool diskTemplate a later) (found : later.get? name = some disk) :
    a.session.disks.get? name = some disk ∨
      (isDeletePolicy diskTemplate ∧ name = deleteDiskName a.vm.name diskTemplate.name ∧
        disk.poolUIDLabel = some pool.uid ∧ disk.diskTemplateLabel = some diskTemplate.name ∧
        disk.controllerOf = some a.vm.uid) ∨
      (isDeletePolicy diskTemplate = false ∧
        (∃ n, name = retainDiskName pool.name diskTemplate.name
          (env.rand n (a.session.disks.objects.map (·.name)))) ∧
        disk.poolUIDLabel = some pool.uid ∧ disk.diskTemplateLabel = some diskTemplate.name ∧
        disk.controllerOf = some pool.uid) := by
  cases supplied with
  | same unchanged => exact .inl (unchanged ▸ found)
  | delete policy created =>
    rw [get?_create created] at found
    split at found
    · rename_i named
      cases found
      exact .inr (.inl ⟨policy, named, rfl, rfl, rfl⟩)
    · exact .inl found
  | retain n policy created =>
    rw [get?_create created] at found
    split at found
    · rename_i named
      cases found
      exact .inr (.inr ⟨policy, ⟨n, named⟩, rfl, rfl, rfl⟩)
    · exact .inl found

theorem Supplied.isDiskOf (supplied : Supplied env pool diskTemplate a later) {template : VirtualDiskTemplateSpec}
    (isDisk : isDiskOf pool a.session.disks vm template name) : isDiskOf pool later vm template name := by
  obtain ⟨named, disk, found, labels⟩ := isDiskOf_iff.mp isDisk
  exact isDiskOf_iff.mpr ⟨named, disk, supplied.mono found, labels⟩

theorem Placed.supplied {assigned : List String} (placed : Placed pool original a.session.disks assigned vm)
    (supplied : Supplied env pool diskTemplate a later) : Placed pool original later assigned vm :=
  ⟨placed.1.mono fun _ _ _ _ _ => supplied.isDiskOf, placed.2⟩

variable {xs ys : List (Member σ)}

theorem booting_between (names : Names env pool original) (listed : diskTemplate ∈ pool.virtualDiskTemplates)
    (live : a.vm.deletionTimestamp = none) (between : Between env pool diskTemplate a session)
    (booting : Booting pool uid original start a.session a.assigned (xs ++ a.vm :: ys)) :
    Booting pool uid original start session a.assigned (xs ++ a.vm :: ys) := by
  obtain ⟨member, isMember, same⟩ := booting.origin_member (mem_append_right xs mem_cons_self) live
  have deleteName : deleteDiskName a.vm.name diskTemplate.name = deleteDiskName member.name diskTemplate.name := by
    rw [same]
  refine ⟨booting.identities, ?_, ?_, ?_, ?_, ?_, ?_, ?_⟩
  · rw [between.vms]
    exact booting.snapshots
  · intro vm isLive template templateListed policy disk found
    rcases between.disks.cases found with before | ⟨_, named, labels⟩ | ⟨_, ⟨n, named⟩, _⟩
    · exact booting.own vm isLive template templateListed policy disk before
    · obtain ⟨rfl, sameTemplate⟩ := names.distinct vm isLive member isMember template templateListed diskTemplate listed
        (named.trans deleteName)
      rw [sameTemplate, same]
      exact labels
    have isDelete : deleteDiskName vm.name template.name ∈ deleteNames pool original :=
      mem_deleteNames isLive templateListed policy
    rw [named] at isDelete
    exact absurd (mem_append_left _ (mem_append_right _ isDelete))
      (names.generated n _ diskTemplate listed)
  · intro name isName
    cases found : session.disks.get? name with
    | none => rfl
    | some =>
      exfalso
      rcases between.disks.cases found with before | ⟨policy, rfl, _⟩ | ⟨_, ⟨n, rfl⟩, _⟩
      · rw [booting.concrete name isName] at before
        cases before
      · exact names.concrete _ (deleteName ▸ mem_deleteNames isMember listed policy) isName
      · exact names.generated n _ diskTemplate listed (mem_append_left _ (mem_append_left _ isName))
  · intro name owned
    obtain ⟨disk, found, ofPool, labelled, controller⟩ := poolOwned_iff.mp owned
    rcases between.disks.cases found with before | ⟨_, _, _, _, other⟩ | ⟨_, ⟨n, rfl⟩, _⟩
    · exact booting.origin name (poolOwned_iff.mpr ⟨disk, before, ofPool, labelled, controller⟩)
    · rw [controller] at other
      exact absurd (Option.some.inj other).symm (same ▸ names.uid_ne isMember)
    exact .inr fun referenced =>
      names.fresh n _ diskTemplate listed (mem_append_right _ referenced)
  · rw [between.vms]
    exact fun vm stored isTracked => (booting.stored vm stored isTracked).supplied between.disks
  · exact fun vm member isTracked => (booting.copied vm member isTracked).supplied between.disks
  rw [between.vms]
  intro vm stored isEnding
  obtain ⟨isOriginal, aligned⟩ := booting.ended vm stored isEnding
  refine ⟨isOriginal, aligned.mono rfl fun ref refMember kind _ _ isDisk => ?_⟩
  obtain ⟨named, disk, found, ofPool, labelled, controller⟩ := isDiskOf_iff.mp isDisk
  rcases between.disks.cases found with before | ⟨_, _, _, _, ofMember⟩ | ⟨_, ⟨n, generated⟩, _⟩
  · exact isDiskOf_iff.mpr ⟨named, disk, before, ofPool, labelled, controller⟩
  · -- The disk made for a live member belongs neither to the pool nor to this one.
    exfalso
    rw [controller, Option.some_inj] at ofMember
    split at ofMember
    · have isMember' : vm = member := names.eq_of_uid isOriginal (mem_of_mem_filter isMember)
        (ofMember.trans (congrArg (·.uid) same).symm)
      have ended := isEnding.2.2
      rw [isMember', same, live] at ended
      cases ended
    · exact names.uid_ne isMember ((congrArg (·.uid) same).trans ofMember.symm)
  have referenced : ref.name ∈ original.flatMap diskRefs :=
    mem_flatMap.mpr ⟨vm, isOriginal, mem_map.mpr ⟨ref, mem_filter.mpr
      ⟨refMember, decide_eq_true kind⟩, rfl⟩⟩
  rw [generated] at referenced
  exact absurd (mem_append_right _ referenced) (names.generated n _ diskTemplate listed)

theorem mem_reuseDisks {template : String} : disk ∈ reuseDisks pool template disks ↔
    disk ∈ disks.objects ∧ disk.poolUIDLabel = some pool.uid ∧ disk.diskTemplateLabel = some template ∧
      disk.controllerOf = some pool.uid := by
  simp only [reuseDisks, templateDisks, poolDisks, mem_filter, decide_eq_true_eq, and_assoc]

theorem granted_diskOf {assigned : List String} (names : Names env pool original)
    (listed : diskTemplate ∈ pool.virtualDiskTemplates) (live : a.vm.deletionTimestamp = none)
    (between : Between env pool diskTemplate a session) (absent : hasDiskRef a.vm name = false)
    (granted : Granted env pool (referencedDisks original) diskTemplate a name assigned)
    (present : (session.disks.get? name).isSome)
    (booting : Booting pool uid original start session a.assigned (xs ++ a.vm :: ys)) :
    isDiskOf pool session.disks a.vm diskTemplate name ∧ ∀ ref ∈ a.vm.blockDeviceRefs, ref.kind = .diskDevice →
      ¬isDiskOf pool a.session.disks a.vm diskTemplate ref.name := by
  obtain ⟨disk, found⟩ := Option.isSome_iff_exists.mp present
  -- A reference to a reuse disk of the template would have ended the step.
  have unresolved : isDeletePolicy diskTemplate = false →
      (∀ other ∈ reuseDisks pool diskTemplate.name a.session.disks, hasDiskRef a.vm other.name = false) →
      ∀ ref ∈ a.vm.blockDeviceRefs, ref.kind = .diskDevice →
        ¬isDiskOf pool a.session.disks a.vm diskTemplate ref.name := by
    intro policy unattached ref member kind isDisk
    obtain ⟨-, old, stored, ofPool, template, controller⟩ := isDiskOf_iff.mp isDisk
    rw [policy] at controller
    have reuse := mem_reuseDisks.mpr ⟨mem_of_get? stored, ofPool, template, controller⟩
    have named : old.name = ref.name := key_of_get? stored
    have held : hasDiskRef a.vm old.name :=
      any_eq_true.mpr ⟨ref, member, decide_eq_true ⟨kind, named.symm⟩⟩
    rw [unattached old reuse] at held
    cases held
  cases granted with
  | delete policy =>
    obtain ⟨member, isMember, same⟩ := booting.origin_member (mem_append_right xs mem_cons_self) live
    have labels := booting.own member isMember diskTemplate listed policy disk (by rw [same]; exact found)
    constructor
    · refine isDiskOf_iff.mpr ⟨fun _ => rfl, disk, found, ?_⟩
      rw [if_pos policy]
      exact same ▸ labels
    intro ref refMember kind isDisk
    have named := (isDiskOf_iff.mp isDisk).1 policy
    have held : hasDiskRef a.vm (deleteDiskName a.vm.name diskTemplate.name) :=
      any_eq_true.mpr ⟨ref, refMember, decide_eq_true ⟨kind, named⟩⟩
    rw [absent] at held
    cases held
  | reused _ policy reuse _ unattached =>
    obtain ⟨stored, labels⟩ := mem_reuseDisks.mp reuse
    exact ⟨between.disks.isDiskOf (isDiskOf_retain policy (get?_of_mem stored) labels), unresolved policy unattached⟩
  | created n name policy generated unattached =>
    refine ⟨?_, unresolved policy unattached⟩
    rcases between.disks.cases found with before | ⟨isDelete, _⟩ | ⟨_, _, labels⟩
    · -- A generated name is new.
      have existing : name ∈ a.session.disks.objects.map (·.name) :=
        mem_map.mpr ⟨disk, mem_of_get? before, key_of_get? before⟩
      have new := names.fresh n (a.session.disks.objects.map (·.name)) diskTemplate listed
      rw [← generated] at new
      exact absurd (mem_append_left _ existing) new
    · rw [policy] at isDelete
      cases isDelete
    · exact isDiskOf_retain policy found labels

theorem Granted.accounted {assigned : List String} (listed : diskTemplate ∈ pool.virtualDiskTemplates)
    {member : Member σ} (isMember : member ∈ liveMembers original)
    (same : member.toVirtualMachine = a.vm.toVirtualMachine)
    (granted : Granted env pool (referencedDisks original) diskTemplate a name assigned) :
    a.assigned ⊆ assigned ∧ (name ∈ assigned ∨ name ∈ deleteNames pool original) := by
  cases granted with
  | delete policy => exact ⟨List.Subset.refl _, .inr (same ▸ mem_deleteNames isMember listed policy)⟩
  | reused | created => exact ⟨subset_cons_self _ _, .inl mem_cons_self⟩

theorem Placed.assigned {before later : List String} (placed : Placed pool original disks before vm)
    (more : before ⊆ later) : Placed pool original disks later vm :=
  ⟨placed.1, fun name held => (placed.2 name held).imp_right fun other => other.imp_left fun taken => more taken⟩

theorem placed_attachRefs {assigned : List String} (bijective : Bijective pool) (concrete : Concrete pool disks)
    (listed : diskTemplate ∈ pool.virtualDiskTemplates) (placed : Placed pool original disks assigned vm)
    (unresolved : ∀ ref ∈ vm.blockDeviceRefs, ref.kind = .diskDevice → ¬isDiskOf pool disks vm diskTemplate ref.name)
    (isDisk : isDiskOf pool disks vm diskTemplate name)
    (accounted : name ∈ assigned ∨ name ∈ deleteNames pool original) :
    Placed pool original disks assigned (vm.withRefs (attachRefs diskTemplate.name name vm.blockDeviceRefs)) := by
  obtain ⟨replaced, found⟩ := placeholder_found bijective listed placed.1
    (bijective.referenced diskTemplate listed) unresolved name
  have follows := fits_replaced concrete listed placed.1 isDisk found
  have refs : attachRefs diskTemplate.name name vm.blockDeviceRefs = replaced := by
    rw [attachRefs, found]
    rfl
  refine ⟨?_, fun other held => ?_⟩
  · rw [refs]
    exact follows
  by_cases same : other = name
  · exact .inr (same ▸ accounted)
  · exact placed.2 other (hasDiskRef_attachRefs_other same held)

theorem booting_attachment {placeholder : String} {before assigned : List String} {r : Member σ × Session σ}
    (booting : Booting pool uid original start session before (xs ++ vm :: ys)) (more : before ⊆ assigned)
    (live : vm.deletionTimestamp = none) (attachment : Attachment vm name placeholder session r)
    (placed : hasDiskRef vm name = false → tracked pool uid vm →
      Placed pool original session.disks assigned (vm.withRefs (attachRefs placeholder name vm.blockDeviceRefs))) :
    Booting pool uid original start r.2 assigned (xs ++ r.1 :: ys) := by
  have copied : ∀ copy ∈ xs ++ vm :: ys, tracked pool uid copy → Placed pool original session.disks assigned copy :=
    fun copy member isTracked => (booting.copied copy member isTracked).assigned more
  have stored : ∀ current ∈ session.vms.objects, tracked pool uid current →
      Placed pool original session.disks assigned current :=
    fun current member isTracked => (booting.stored current member isTracked).assigned more
  have written : hasDiskRef vm name = false → ∀ current ∈
      (session.vms.write (vm.withRefs (attachRefs placeholder name vm.blockDeviceRefs))).objects,
      tracked pool uid current → Placed pool original session.disks assigned current := by
    intro absent current member isTracked
    obtain rfl | before := mem_write member
    · exact placed absent isTracked
    · exact stored current before isTracked
  have ended : ∀ current ∈
      (session.vms.write (vm.withRefs (attachRefs placeholder name vm.blockDeviceRefs))).objects,
      ending pool uid current → current ∈ original ∧ Aligned pool session.disks current := by
    intro current member isEnding
    obtain rfl | before := mem_write member
    · have terminating : vm.deletionTimestamp.isSome := isEnding.2.2
      rw [live] at terminating
      cases terminating
    · exact booting.ended current before isEnding
  refine ⟨?_, attachment.snapshots booting.snapshots, ?_, ?_, ?_, ?_, ?_, ?_⟩
  · simpa [attachment.identity] using booting.identities
  · rw [attachment.disks_eq]
    exact booting.own
  · rw [attachment.disks_eq]
    exact booting.concrete
  · rw [attachment.disks_eq]
    exact booting.origin
  · rw [attachment.disks_eq]
    cases attachment with
    | held => exact stored
    | rejected _ vms => exact vms ▸ stored
    | lost _ absent _ vms | done _ absent _ vms => exact vms ▸ written absent
  · rw [attachment.disks_eq]
    intro copy member isTracked
    rcases mem_append.mp member with earlier | later
    · exact copied copy (mem_append_left _ earlier) isTracked
    rcases mem_cons.mp later with rfl | later
    · cases attachment with
      | held | rejected | lost => exact copied vm (by simp) isTracked
      | done _ absent => exact placed absent isTracked
    · exact copied copy (mem_append_right _ (mem_cons_of_mem _ later)) isTracked
  rw [attachment.disks_eq]
  cases attachment with
  | held => exact booting.ended
  | rejected _ vms => exact vms ▸ booting.ended
  | lost _ _ _ vms | done _ _ _ vms => exact vms ▸ ended

variable [DecidableEq σ]

theorem booting_step (bijective : Bijective pool) (names : Names env pool original) (xs ys : List (Member σ))
    (a b : Assignment σ) (diskTemplate : VirtualDiskTemplateSpec) (listed : diskTemplate ∈ pool.virtualDiskTemplates)
    (live : a.vm.deletionTimestamp = none) (ensured : Ensured env pool (referencedDisks original) diskTemplate a b)
    (booting : Booting pool uid original start a.session a.assigned (xs ++ a.vm :: ys)) :
    Booting pool uid original start b.session b.assigned (xs ++ b.vm :: ys) ∧
      b.vm.toVirtualMachine = a.vm.toVirtualMachine := by
  cases ensured with
  | without _ between => exact ⟨booting_between (a := a) names listed live between booting, rfl⟩
  | attach session name assigned between granted present =>
    have middle := booting_between (a := a) names listed live between booting
    have attachment := attachDisk_cases (middle.snapshots a.vm (by simp)) env name diskTemplate.name
    obtain ⟨_, isMember, same⟩ := middle.origin_member (mem_append_right xs mem_cons_self) live
    obtain ⟨more, accounted⟩ := granted.accounted listed isMember same
    -- What an accepted update writes.
    have placed : hasDiskRef a.vm name = false → tracked pool uid a.vm → Placed pool original session.disks assigned
        (a.vm.withRefs (attachRefs diskTemplate.name name a.vm.blockDeviceRefs)) := by
      intro absent isTracked
      have before := booting.copied a.vm (by simp) isTracked
      obtain ⟨isDisk, unresolved⟩ := granted_diskOf names listed live between absent granted present middle
      refine placed_attachRefs bijective middle.concrete listed
        ((before.supplied between.disks).assigned more) (fun ref refMember kind isOther => ?_) isDisk accounted
      rcases before.1.ref refMember kind with placeholder | ⟨_, templateListed, isOld⟩
      · exact middle.concrete.not_diskOf placeholder isOther
      have equal := diskOf_template bijective templateListed listed (between.disks.isDiskOf isOld) isOther
      exact unresolved ref refMember kind (equal ▸ isOld)
    exact ⟨booting_attachment middle more live attachment placed, attachment.identity⟩

end Assignment

section Pass

variable {env : Env} {uid : UID}

structure Regular (env : Env) (pool : TemplatedPool σ) (vms : Store (Member σ)) (disks : Store VirtualDisk) : Prop where
  names : Names env pool (members pool vms)
  own : OwnDisks pool (members pool vms) disks
  unshared : ∀ disk, poolOwned pool disks disk → sharers pool vms disk ≤ 1

structure Ordered (pool : TemplatedPool σ) (uid : UID) (vms : Store (Member σ)) (disks : Store VirtualDisk) : Prop where
  concrete : Concrete pool disks
  follows : ∀ vm ∈ vms.objects, tracked pool uid vm → Follows pool disks vm vm.blockDeviceRefs
  aligned : ∀ vm ∈ vms.objects, ending pool uid vm → Aligned pool disks vm

variable {keep : String → Prop} {before later : Store VirtualDisk}

theorem Concrete.kept (concrete : Concrete pool before) (kept : DisksKept keep before later) : Concrete pool later := by
  intro name isName
  cases found : later.get? name with
  | none => rfl
  | some disk =>
    obtain ⟨_, there, -⟩ := kept.labels name disk found
    rw [concrete name isName] at there
    cases there

variable {vm : Member σ} {name : String}

theorem isDiskOf_kept (kept : DisksKept keep before later) {diskTemplate : VirtualDiskTemplateSpec}
    (spared : keep name) (isDisk : isDiskOf pool before vm diskTemplate name) :
    isDiskOf pool later vm diskTemplate name := by
  obtain ⟨named, disk, found, labels⟩ := isDiskOf_iff.mp isDisk
  obtain ⟨disk', found', ofPool, template, controller⟩ := kept.spares name disk spared found
  refine isDiskOf_iff.mpr ⟨named, disk', found', ?_⟩
  rw [ofPool, template, controller]
  exact labels

theorem Follows.kept (kept : DisksKept keep before later) (follows : Follows pool before vm vm.blockDeviceRefs)
    (spared : ∀ name, hasDiskRef vm name → keep name) : Follows pool later vm vm.blockDeviceRefs := by
  refine follows.mono fun ref member kind _ _ isDisk => ?_
  exact isDiskOf_kept kept (spared ref.name (any_eq_true.mpr ⟨ref, member, decide_eq_true ⟨kind, rfl⟩⟩)) isDisk

theorem Aligned.kept (kept : DisksKept keep before later) (aligned : Aligned pool before vm) :
    Aligned pool later vm := by
  refine aligned.mono rfl fun _ _ _ _ _ isDisk => ?_
  obtain ⟨named, disk, found, labels⟩ := isDiskOf_iff.mp isDisk
  obtain ⟨old, there, ofPool, template, controller⟩ := kept.labels _ disk found
  rw [ofPool, template, controller] at labels
  exact isDiskOf_iff.mpr ⟨named, old, there, labels⟩

theorem Follows.not_removed {disks : Store VirtualDisk} (concrete : Concrete pool disks)
    (follows : Follows pool disks vm vm.blockDeviceRefs) (stored : disk ∈ disks.objects)
    (removed : ofRemovedTemplate pool disk) : hasDiskRef vm disk.name = false := by
  have found : disks.get? disk.name = some disk := get?_of_mem stored
  refine Bool.eq_false_iff.mpr fun held => ?_
  obtain ⟨ref, member, isDisk⟩ := any_eq_true.mp held
  obtain ⟨kind, named⟩ := of_decide_eq_true isDisk
  rcases follows.ref member kind with placeholder | ⟨diskTemplate, listed, isOf⟩
  · rw [named] at placeholder
    rw [concrete _ placeholder] at found
    cases found
  obtain ⟨-, _, there, -, template, -⟩ := isDiskOf_iff.mp isOf
  rw [named, found] at there
  cases there
  unfold ofRemovedTemplate at removed
  rw [template] at removed
  exact of_decide_eq_true removed (mem_map.mpr ⟨diskTemplate, listed, rfl⟩)

theorem tracked_referenced {vms : Store (Member σ)} (stored : vm ∈ vms.objects) (isTracked : tracked pool uid vm)
    (held : hasDiskRef vm name) : name ∈ referencedDisks (members pool vms) := by
  refine mem_referencedDisks (mem_filter.mpr ⟨stored, isTracked.2.1⟩) (decide_eq_true ⟨isTracked.2.1, ?_, held⟩)
  rw [isTracked.2.2]
  rfl

theorem tracked_congr {one other : Member σ} (same : one.toVirtualMachine = other.toVirtualMachine)
    (isTracked : tracked pool uid one) : tracked pool uid other := by
  unfold tracked isMember at isTracked ⊢
  rw [← same]
  exact isTracked

def InUse (pool : TemplatedPool σ) (uid : UID) (vms : Store (Member σ)) (name : String) : Prop :=
  ∃ vm ∈ vms.objects, tracked pool uid vm ∧ hasDiskRef vm name

variable {copies : List (Member σ)}

theorem OwnDisks.kept (own : OwnDisks pool copies before) (kept : DisksKept keep before later) :
    OwnDisks pool copies later := by
  intro vm live diskTemplate listed policy disk found
  obtain ⟨old, there, ofPool, template, controller⟩ := kept.labels _ disk found
  rw [ofPool, template, controller]
  exact own vm live diskTemplate listed policy old there

theorem own_not_poolOwned {disks : Store VirtualDisk} (names : Names env pool copies)
    (own : OwnDisks pool copies disks) (isDelete : name ∈ deleteNames pool copies) : ¬poolOwned pool disks name := by
  intro owned
  obtain ⟨disk, found, -, -, controller⟩ := poolOwned_iff.mp owned
  obtain ⟨vm, live, listed⟩ := mem_flatMap.mp isDelete
  obtain ⟨diskTemplate, isTemplate, rfl⟩ := mem_map.mp listed
  obtain ⟨templateListed, policy⟩ := mem_filter.mp isTemplate
  obtain ⟨-, -, ofMember⟩ := own vm live diskTemplate templateListed policy disk found
  rw [controller] at ofMember
  exact names.uid_ne live (Option.some.inj ofMember).symm

theorem pickKeeper_mem (keeper : Member σ) (list : List (Member σ)) :
    pickKeeper keeper list = keeper ∨ pickKeeper keeper list ∈ list := by
  induction list generalizing keeper with
  | nil => exact .inl rfl
  | cons vm _ ih =>
    unfold pickKeeper
    split
    · exact .inr mem_cons_self
    rcases ih (if vm.name < keeper.name then vm else keeper) with same | later
    · rw [same]
      split
      · exact .inr mem_cons_self
      · exact .inl rfl
    · exact .inr (mem_cons_of_mem _ later)

variable {disk : String}

theorem holdsDisk_of_refBy (ofPool : ∀ vm ∈ copies, isMember pool vm) (listed : vm ∈ refBy copies disk) :
    vm ∈ copies ∧ holdsDisk pool disk vm := by
  obtain ⟨copy, live, repeated⟩ := mem_flatMap.mp listed
  obtain ⟨ref, isDisk, rfl⟩ := mem_map.mp repeated
  obtain ⟨member, running⟩ := mem_filter.mp live
  obtain ⟨refMember, isRef⟩ := mem_filter.mp isDisk
  exact ⟨member, decide_eq_true ⟨ofPool copy member, running, any_eq_true.mpr ⟨ref, refMember, isRef⟩⟩⟩

theorem eq_of_countP_le_one {α : Type} {p : α → Bool} {list : List α} (once : list.countP p ≤ 1) {x y : α}
    (left : x ∈ list) (right : y ∈ list) (px : p x) (py : p y) : x = y := by
  have leftFiltered : x ∈ list.filter p := mem_filter.mpr ⟨left, px⟩
  have rightFiltered : y ∈ list.filter p := mem_filter.mpr ⟨right, py⟩
  rw [countP_eq_length_filter] at once
  match found : list.filter p, once with
  | [], _ =>
    rw [found] at leftFiltered
    cases leftFiltered
  | [only], _ =>
    rw [found, mem_singleton] at leftFiltered rightFiltered
    rw [leftFiltered, rightFiltered]

theorem ending_congr {one other : Member σ} (same : one.toVirtualMachine = other.toVirtualMachine)
    (isEnding : ending pool uid one) : ending pool uid other := by
  unfold ending isMember at isEnding ⊢
  rw [← same]
  exact isEnding

variable [DecidableEq σ] {s : Session σ}

theorem pruned_kept (ordered : Ordered pool uid s.vms s.disks) (env : Env) : DisksKept (InUse pool uid s.vms) s.disks
      (pruneRemovedTemplates env pool (members pool s.vms) { s with calls := s.calls + 1 }).disks := by
  refine pruneRemovedTemplates_kept env pool _ { s with calls := s.calls + 1 } fun _ listed removed => ?_
  rintro ⟨vm, stored, isTracked, held⟩
  have spared := (ordered.follows vm stored isTracked).not_removed ordered.concrete
    (mem_of_mem_filter listed) removed
  rw [spared] at held
  cases held

theorem pruned_unchanged (ordered : Ordered pool uid s.vms s.disks) (env : Env)
    (stored : vm ∈ (pruneRemovedTemplates env pool (members pool s.vms) { s with calls := s.calls + 1 }).vms.objects)
    (observed : tracked pool uid vm ∨ ending pool uid vm) : vm ∈ s.vms.objects := by
  have found := get?_of_mem stored
  obtain ⟨before, there, same, -⟩ := (pruned_lessens env pool s).refs _ vm found
  have beforeStored := mem_of_get? there
  have spared : ∀ disk ∈ poolDisks pool s.disks, ofRemovedTemplate pool disk →
      ∀ copy ∈ members pool s.vms, copy.name = vm.name → sparedBy disk.name copy := by
    intro disk listed removed copy member named
    have isBefore : copy = before := inj_on_of_nodup_map s.vms.unique (mem_of_mem_filter member)
      beforeStored (named.trans (key_of_get? there).symm)
    rw [isBefore]
    rcases observed with isTracked | isEnding
    · exact .inr ((ordered.follows before beforeStored (tracked_congr same isTracked)).not_removed ordered.concrete
        (mem_of_mem_filter listed) removed)
    · exact .inl (same ▸ isEnding.2.2)
  have kept := pruneRemovedTemplates_other env pool { s with calls := s.calls + 1 } spared
  have unchanged := (kept.symm.trans found).symm.trans there
  cases unchanged
  exact beforeStored

def prepared (env : Env) (pool : TemplatedPool σ) (s : Session σ) : Session σ :=
  reconcileDiskSizes env pool
    (pruneRemovedTemplates env pool (members pool s.vms) { s with calls := s.calls + 1 })

theorem prepared_lessens (env : Env) (pool : TemplatedPool σ) (s : Session σ) : Lessens s (prepared env pool s) :=
  (pruned_lessens env pool s).trans (reconcileDiskSizes_idle env pool _).lessens

theorem prepared_booting (ordered : Ordered pool uid s.vms s.disks) (regular : Regular env pool s.vms s.disks) :
    Booting pool uid (members pool s.vms) s.disks (prepared env pool s) [] (members pool s.vms) := by
  have kept : DisksKept (InUse pool uid s.vms) s.disks (prepared env pool s).disks :=
    (pruned_kept ordered env).trans (reconcileDiskSizes_kept env pool _)
  have placed : ∀ vm ∈ s.vms.objects, tracked pool uid vm →
      Placed pool (members pool s.vms) (prepared env pool s).disks [] vm := by
    intro vm stored isTracked
    refine ⟨(ordered.follows vm stored isTracked).kept kept fun name held => ⟨vm, stored, isTracked, held⟩, ?_⟩
    exact fun name held => .inl (tracked_referenced stored isTracked held)
  have before : ∀ vm ∈ (prepared env pool s).vms.objects, tracked pool uid vm ∨ ending pool uid vm →
      vm ∈ s.vms.objects := by
    intro vm stored observed
    unfold prepared at stored
    rw [(reconcileDiskSizes_idle env pool _).vms] at stored
    exact pruned_unchanged ordered env stored observed
  refine ⟨rfl, fun vm member => (prepared_lessens env pool s).snapshot vm (members_snapshot member),
    regular.own.kept kept, ordered.concrete.kept kept, fun name owned => .inl (poolOwned_of_kept kept owned),
    ?_, ?_, ?_⟩
  · exact fun vm stored isTracked => placed vm (before vm stored (.inl isTracked)) isTracked
  · exact fun vm member isTracked => placed vm (mem_of_mem_filter member) isTracked
  intro vm stored isEnding
  have old := before vm stored (.inr isEnding)
  exact ⟨mem_filter.mpr ⟨old, isEnding.2.1⟩, (ordered.aligned vm old isEnding).kept kept⟩

def Assigned (env : Env) (pool : TemplatedPool σ) (uid : UID) (s : Session σ) : Prop :=
  let p := assign env pool (members pool s.vms) (prepared env pool s)
  Booting pool uid (members pool s.vms) s.disks p.session p.assigned p.members

theorem assigned_unshared (booting : Assigned env pool uid s) (regular : Regular env pool s.vms s.disks)
    (owned : poolOwned pool (assign env pool (members pool s.vms) (prepared env pool s)).session.disks disk) :
    (assign env pool (members pool s.vms) (prepared env pool s)).members.countP (holdsDisk pool disk) ≤ 1 := by
  have other : disk ∉ deleteNames pool (members pool s.vms) :=
    fun isDelete => own_not_poolOwned regular.names booting.own isDelete owned
  have handing := assign_handing (prepared_lessens env pool s) regular.names.fresh other
  have bound := handing.copied
  have before : disk ∈ referencedDisks (members pool s.vms) → sharers pool s.vms disk ≤ 1 := by
    intro referenced
    exact (booting.origin disk owned).elim (regular.unshared disk) fun absent => absurd referenced absent
  split at bound
  · rename_i handed
    have unheld := unreferenced_sharers (handing.unreferenced handed)
    omega
  by_cases referenced : disk ∈ referencedDisks (members pool s.vms)
  · have := before referenced
    omega
  have := unreferenced_sharers referenced
  omega

theorem reassignDisk_idle (ofPool : ∀ vm ∈ copies, isMember pool vm)
    (once : copies.countP (holdsDisk pool disk) ≤ 1) (s : Session σ) : reassignDisk env copies s disk = s := by
  unfold reassignDisk
  split
  · rfl
  · rfl
  rename_i first rest _ several
  have same : ∀ vm ∈ first :: rest, vm = first := by
    intro vm listed
    obtain ⟨member, holds⟩ := holdsDisk_of_refBy ofPool (several ▸ listed)
    obtain ⟨firstMember, firstHolds⟩ := holdsDisk_of_refBy ofPool (several ▸ mem_cons_self)
    exact eq_of_countP_le_one once member firstMember holds firstHolds
  have keeper : pickKeeper first (first :: rest) = first :=
    (pickKeeper_mem first (first :: rest)).elim id (same _)
  rw [keeper]
  refine List.foldlRecOn _ _ (motive := fun t => t = s) rfl fun _ unchanged vm listed => ?_
  rw [unchanged, same vm listed, detachOthers, if_pos rfl]

theorem reassignCollisions_idle {p : Progress σ} (ofPool : ∀ vm ∈ p.members, isMember pool vm)
    (once : ∀ disk, poolOwned pool p.session.disks disk → p.members.countP (holdsDisk pool disk) ≤ 1) :
    (reassignCollisions env pool p.members p.session).vms = p.session.vms := by
  unfold reassignCollisions
  split <;> rename_i answered <;> obtain rfl := read_eq answered
  · rfl
  refine List.foldlRecOn _ _ (motive := fun t : Session σ => t.vms = p.session.vms)
    rfl fun _ unchanged disk ranged => ?_
  rw [(env.order.perm _).mem_iff, refByKeys, mem_dedup, mem_filter] at ranged
  obtain ⟨stored, reuse, named⟩ := mem_map.mp (of_decide_eq_true ranged.2)
  have owned : poolOwned pool p.session.disks disk := any_eq_true.mpr ⟨stored, reuse, decide_eq_true named⟩
  rw [reassignDisk_idle ofPool (once disk owned)]
  exact unchanged

theorem finish_kept {referenced : List String} {p : Progress σ} (names : Names env pool copies)
    (own : OwnDisks pool copies p.session.disks)
    (used : ∀ name, keep name → name ∈ referenced ∨ name ∈ p.assigned ∨ name ∈ deleteNames pool copies) :
    DisksKept keep p.session.disks (finish env pool referenced p).2.disks := by
  have start : DisksKept keep p.session.disks (reassignCollisions env pool p.members p.session).disks := by
    rw [reassignCollisions_disks]
    exact .refl _ _
  refine List.foldlRecOn pool.virtualDiskTemplates _
    (motive := fun state : Option Int × Session σ => DisksKept keep p.session.disks state.2.disks) start
    fun state before diskTemplate _ => before.trans (collect_kept env pool fun name kept => ?_)
  refine (used name kept).imp_right (Or.imp_right fun isDelete listed => ?_)
  -- A `Delete` disk is controlled by its member, so it is not among the disks that are collected.
  obtain ⟨disk, reuse, rfl⟩ := mem_map.mp listed
  obtain ⟨stored, ofPool, template, controller⟩ := mem_reuseDisks.mp reuse
  exact own_not_poolOwned names (own.kept before) isDelete
    (poolOwned_iff.mpr ⟨disk, get?_of_mem stored, ofPool, by rw [template]; rfl, controller⟩)

theorem assigned_members (booting : Assigned env pool uid s) :
    ∀ vm ∈ (assign env pool (members pool s.vms) (prepared env pool s)).members, isMember pool vm := by
  intro vm member
  obtain ⟨listed, isListed, same⟩ := booting.listed member
  have ofPool := (mem_filter.mp isListed).2
  unfold isMember at ofPool ⊢
  rw [← same]
  exact ofPool

theorem finish_ordered (booting : Assigned env pool uid s) (regular : Regular env pool s.vms s.disks) :
    let finished := (finish env pool (referencedDisks (members pool s.vms))
      (assign env pool (members pool s.vms) (prepared env pool s))).2
    Ordered pool uid finished.vms finished.disks := by
  intro finished
  let p := assign env pool (members pool s.vms) (prepared env pool s)
  have vms : finished.vms = p.session.vms :=
    (collected_idle env pool _ p).vms.trans
      (reassignCollisions_idle (assigned_members booting) fun disk => assigned_unshared booting regular)
  have kept : DisksKept (InUse pool uid p.session.vms) p.session.disks finished.disks := by
    refine finish_kept regular.names booting.own ?_
    rintro name ⟨vm, stored, isTracked, held⟩
    exact (booting.stored vm stored isTracked).2 name held
  refine ⟨booting.concrete.kept kept, ?_, ?_⟩ <;> rw [vms]
  · exact fun vm stored isTracked =>
      (booting.stored vm stored isTracked).1.kept kept fun name held => ⟨vm, stored, isTracked, held⟩
  · exact fun vm stored isEnding => (booting.ended vm stored isEnding).2.kept kept

theorem handle_ordered (bijective : Bijective pool) (ordered : Ordered pool uid s.vms s.disks)
    (regular : Regular env pool s.vms s.disks) :
    Ordered pool uid (handle env pool s).2.vms (handle env pool s).2.disks := by
  unfold handle
  split
  · exact ordered
  split <;> rename_i answered <;> obtain rfl := read_eq answered
  · exact ordered
  split
  · have kept := pruned_kept ordered env
    refine ⟨ordered.concrete.kept kept, fun vm stored isTracked => ?_, fun vm stored isEnding => ?_⟩
    · have before := pruned_unchanged ordered env stored (.inl isTracked)
      exact (ordered.follows vm before isTracked).kept kept fun name held => ⟨vm, before, isTracked, held⟩
    have before := pruned_unchanged ordered env stored (.inr isEnding)
    exact (ordered.aligned vm before isEnding).kept kept
  · exact finish_ordered (assign_invariant (Booting pool uid (members pool s.vms) s.disks)
      (booting_step bijective regular.names) (prepared_booting ordered regular)) regular

end Pass

end Virtualization.Pool.Disks
