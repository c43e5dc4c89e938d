import Virtualization.Core.Objects
import Virtualization.Library.FileTree

namespace Virtualization.Dvcr

open Virtualization.Core Library List

def repoNameMaxLen : Nat := 255
def defaultRegistryHost : String := "dvcr.d8-virtualization.svc"
def hashLen : Nat := 16
def separators : List Char := ['-', '.', '_']

def trimRight (name : List Char) (cutset : List Char) : List Char := (name.reverse.dropWhile (· ∈ cutset)).reverse

section Names

-- The FNV-1a-64 hash of a name in hexadecimal.
variable (hash : String → String)

def shorten (prefixLen : Nat) (name : String) : String :=
  if prefixLen + name.length ≤ repoNameMaxLen then name
  else
    let keep := repoNameMaxLen - prefixLen - "-".length - hashLen
    if keep < 1 then hash name
    else String.ofList (trimRight (name.toList.take keep) separators) ++ "-" ++ hash name

def hostLen (registryHost : String) : Nat :=
  (if registryHost = "" then defaultRegistryHost else registryHost).length + "/".length

def clusterImageRepoName (registryHost name : String) : String :=
  shorten hash (hostLen registryHost + "cvi/".length) name

def imageRepoName (registryHost ns name : String) : String :=
  shorten hash (hostLen registryHost + "vi/".length + ns.length + "/".length) name

def diskRepoName (registryHost ns name : String) : String :=
  shorten hash (hostLen registryHost + "vd/".length + ns.length + "/".length) name

end Names

inductive ImageType where
  | clusterVirtualImage | virtualImage | virtualDisk
deriving DecidableEq

structure RegistryImage where
  type : ImageType
  (ns name : String)
  path : List String

section Listing

-- The directories without subdirectories, below the one of the repositories.
variable (leaves : List (List String))

def listClusterVirtualImages : List RegistryImage :=
  (readDir leaves ["cvi"]).map fun entry => ⟨.clusterVirtualImage, "", entry, ["cvi", entry]⟩

/-- The loop of `ListVirtualImagesForNamespace`. A repository that lies where a namespace is expected belongs to a
    ClusterVirtualImage. -/
def collectVirtualImages (ns : String) (dir : List String) : List String → List RegistryImage → List RegistryImage
  | [], images => images
  | entry :: entries, images =>
    if entry = "_manifests" then [⟨.clusterVirtualImage, "", ns, dir⟩]
    else collectVirtualImages ns dir entries (images ++ [⟨.virtualImage, ns, entry, dir ++ [entry]⟩])

def listVirtualImagesForNamespace (ns : String) : List RegistryImage :=
  let ns := if ns = "" then "default" else ns
  collectVirtualImages ns ["vi", ns] (readDir leaves ["vi", ns]) []

def listVirtualImagesAll : List RegistryImage :=
  (readDir leaves ["vi"]).flatMap (listVirtualImagesForNamespace leaves)

def listVirtualDisksForNamespace (ns : String) : List RegistryImage :=
  let ns := if ns = "" then "default" else ns
  (readDir leaves ["vd", ns]).map fun entry => ⟨.virtualDisk, ns, entry, ["vd", ns, entry]⟩

def listVirtualDisksAll : List RegistryImage :=
  (readDir leaves ["vd"]).flatMap (listVirtualDisksForNamespace leaves)

def listImagesAll : List RegistryImage :=
  listClusterVirtualImages leaves ++ listVirtualImagesAll leaves ++ listVirtualDisksAll leaves

end Listing

structure DiskResource where
  (ns name : String)
  phase : DiskPhase

structure Cluster where
  clusterVirtualImages : List String
  virtualImages : List NamespacedName
  virtualDisks : List DiskResource

structure ResourceImage where
  type : ImageType
  (ns name : String)
  phase : DiskPhase

variable (images : List RegistryImage) (kubeImages : List ResourceImage) (hash : String → String)
  (leaves : List (List String))

def listAllPossibleImages (cluster : Cluster) : List ResourceImage :=
  (cluster.clusterVirtualImages.map fun name =>
    ⟨.clusterVirtualImage, "", clusterImageRepoName hash defaultRegistryHost name, .unset⟩) ++
  (cluster.virtualImages.map fun vi =>
    ⟨.virtualImage, vi.ns, imageRepoName hash defaultRegistryHost vi.ns vi.name, .unset⟩) ++
  (cluster.virtualDisks.map fun vd =>
    ⟨.virtualDisk, vd.ns, diskRepoName hash defaultRegistryHost vd.ns vd.name, vd.phase⟩)

/-- What the index of the resources of a type has for a namespace and a name. The last resource with them wins. -/
def indexed? (type : ImageType) (ns name : String) : Option DiskPhase :=
  (kubeImages.reverse.find? fun kubeImage =>
    kubeImage.type = type ∧ kubeImage.ns = ns ∧ kubeImage.name = name).map (·.phase)

def isAbsent (image : RegistryImage) : Bool :=
  match image.type with
  | .clusterVirtualImage => (indexed? kubeImages .clusterVirtualImage "" image.name).isNone
  | .virtualImage => (indexed? kubeImages .virtualImage image.ns image.name).isNone
  | .virtualDisk =>
    match indexed? kubeImages .virtualDisk image.ns image.name with
    | none => true
    | some phase => phase = .ready

def compareRegistryAndClusterImages : List RegistryImage :=
  images.filter (isAbsent kubeImages)

def getAbsentImages (cluster : Cluster) : List RegistryImage :=
  compareRegistryAndClusterImages (listImagesAll leaves) (listAllPossibleImages hash cluster)

def removeImages : List (List String) × Bool :=
  removeEach (images.map (·.path)) leaves

/-- The registry's own garbage collection removes blobs and leaves the repositories; `collected` tells if it
    succeeds. -/
def performAutoCleanup (collected : Bool) (leaves : List (List String)) (cluster : Cluster) :
    List (List String) × Bool :=
  match removeImages (getAbsentImages hash leaves cluster) leaves with
  | (remaining, false) => (remaining, false)
  | (remaining, true) => (remaining, collected)

/-- The repositories that are written by the controller. Images of a ClusterVirtualImage with a snapshot as object
    reference are written below `vi`. -/
inductive Repository where
  | clusterVirtualImage (name : String)
  | strayClusterVirtualImage (name : String)
  | virtualImage (ns name : String)
  | virtualDisk (ns name : String)
deriving DecidableEq

namespace Repository

def path : Repository → List String
  | clusterVirtualImage name => ["cvi", name]
  | strayClusterVirtualImage name => ["vi", name]
  | virtualImage ns name => ["vi", ns, name]
  | virtualDisk ns name => ["vd", ns, name]

def directories : List String := ["_layers", "_manifests", "_uploads"]

def Named (repository : Repository) : Prop := ∀ part ∈ repository.path, part ≠ "" ∧ part ∉ directories

instance (repository : Repository) : Decidable repository.Named := by unfold Named; infer_instance

def image : Repository → RegistryImage
  | clusterVirtualImage name => ⟨.clusterVirtualImage, "", name, ["cvi", name]⟩
  | strayClusterVirtualImage name => ⟨.clusterVirtualImage, "", name, ["vi", name]⟩
  | virtualImage ns name => ⟨.virtualImage, ns, name, ["vi", ns, name]⟩
  | virtualDisk ns name => ⟨.virtualDisk, ns, name, ["vd", ns, name]⟩

def inUse (hash : String → String) (cluster : Cluster) : Repository → Bool
  | clusterVirtualImage name | strayClusterVirtualImage name =>
    cluster.clusterVirtualImages.any fun cvi => clusterImageRepoName hash defaultRegistryHost cvi = name
  | virtualImage ns name =>
    cluster.virtualImages.any fun vi => vi.ns = ns ∧ imageRepoName hash defaultRegistryHost vi.ns vi.name = name
  | virtualDisk ns name =>
    cluster.virtualDisks.any fun vd =>
      vd.ns = ns ∧ diskRepoName hash defaultRegistryHost vd.ns vd.name = name ∧ vd.phase ≠ .ready

@[simp] theorem image_path (repository : Repository) : repository.image.path = repository.path := by
  cases repository <;> rfl

theorem nested {outer inner : Repository} (below : outer.path <+: inner.path) :
    outer = inner ∨ ∃ ns name, outer = strayClusterVirtualImage ns ∧ inner = virtualImage ns name := by
  cases outer <;> cases inner <;> simp_all [path, cons_prefix_cons]

end Repository

open Repository

/-- What a repository has on disk. There is no `_manifests` before its first upload is finished. -/
structure Contents where
  names : List String
  inhabited : names ≠ []
  known : ∀ name ∈ names, name ∈ directories

def published : Contents := ⟨directories, by decide, fun _ member => member⟩

def aborted : Contents := ⟨["_layers", "_uploads"], by decide, by decide⟩

section Tree

variable (contents : Repository → Contents) (repositories : List Repository)

def tree : List (List String) :=
  repositories.flatMap fun repository => (contents repository).names.map fun directory => repository.path ++ [directory]

/-- The stray repository that takes the place of a namespace. -/
def Marked (ns : String) : Prop :=
  strayClusterVirtualImage ns ∈ repositories ∧ "_manifests" ∈ (contents (strayClusterVirtualImage ns)).names

/-- The repositories of the images that are listed. The directories of a stray repository without manifest pass for
    images of a namespace. -/
inductive Listed : Repository → Prop
  | ofClusterImage {name : String} (member : clusterVirtualImage name ∈ repositories) :
      Listed (clusterVirtualImage name)
  | ofStray {ns : String} (marked : Marked contents repositories ns) :
      Listed (strayClusterVirtualImage ns)
  | ofImage {ns name : String} (unmarked : ¬Marked contents repositories ns)
      (member : virtualImage ns name ∈ repositories) : Listed (virtualImage ns name)
  | ofDirectory {ns name : String} (unmarked : ¬Marked contents repositories ns)
      (member : strayClusterVirtualImage ns ∈ repositories)
      (stored : name ∈ (contents (strayClusterVirtualImage ns)).names) : Listed (virtualImage ns name)
  | ofDisk {ns name : String} (member : virtualDisk ns name ∈ repositories) : Listed (virtualDisk ns name)

end Tree

section Entries

variable {contents : Repository → Contents} {repositories : List Repository} {ns entry : String}

theorem mem_tree {leaf : List String} : leaf ∈ tree contents repositories ↔
      ∃ repository ∈ repositories, ∃ directory ∈ (contents repository).names,
        repository.path ++ [directory] = leaf := by
  simp only [tree, mem_flatMap, mem_map]

theorem mem_readDir_tree {dir : List String} : entry ∈ readDir (tree contents repositories) dir ↔
      ∃ repository ∈ repositories, ∃ directory ∈ (contents repository).names,
        dir ++ [entry] <+: repository.path ++ [directory] := by
  rw [mem_readDir]
  constructor
  · rintro ⟨leaf, isLeaf, below⟩
    obtain ⟨repository, member, directory, isDirectory, rfl⟩ := mem_tree.mp isLeaf
    exact ⟨repository, member, directory, isDirectory, below⟩
  rintro ⟨repository, member, directory, isDirectory, below⟩
  exact ⟨_, mem_tree.mpr ⟨repository, member, directory, isDirectory, rfl⟩, below⟩

theorem Listed.marked (listed : Listed contents repositories (strayClusterVirtualImage ns)) :
    Marked contents repositories ns := by
  cases listed with
  | ofStray marked => exact marked

theorem Listed.unmarked {name : String} (listed : Listed contents repositories (virtualImage ns name)) :
    ¬Marked contents repositories ns := by
  cases listed with
  | ofImage unmarked | ofDirectory unmarked => exact unmarked

theorem Listed.stored {name : String} (listed : Listed contents repositories (virtualImage ns name)) :
    (strayClusterVirtualImage ns ∈ repositories ∧ name ∈ (contents (strayClusterVirtualImage ns)).names) ∨
      virtualImage ns name ∈ repositories := by
  cases listed with
  | ofImage _ member => exact .inr member
  | ofDirectory _ member stored => exact .inl ⟨member, stored⟩

theorem Contents.exists_name (contents : Contents) : ∃ name, name ∈ contents.names :=
  exists_mem_of_ne_nil _ contents.inhabited

theorem exists_repository {p : Repository → Prop} : (∃ repository ∈ repositories, p repository) ↔
    (∃ name, clusterVirtualImage name ∈ repositories ∧ p (clusterVirtualImage name)) ∨
      (∃ name, strayClusterVirtualImage name ∈ repositories ∧ p (strayClusterVirtualImage name)) ∨
      (∃ ns name, virtualImage ns name ∈ repositories ∧ p (virtualImage ns name)) ∨
      ∃ ns name, virtualDisk ns name ∈ repositories ∧ p (virtualDisk ns name) := by
  constructor
  · rintro ⟨repository, found⟩
    cases repository with
    | clusterVirtualImage name => exact .inl ⟨name, found⟩
    | strayClusterVirtualImage name => exact .inr (.inl ⟨name, found⟩)
    | virtualImage ns name => exact .inr (.inr (.inl ⟨ns, name, found⟩))
    | virtualDisk ns name => exact .inr (.inr (.inr ⟨ns, name, found⟩))
  · rintro (⟨name, found⟩ | ⟨name, found⟩ | ⟨ns, name, found⟩ | ⟨ns, name, found⟩)
    all_goals exact ⟨_, found⟩

theorem entry_cvi :
    entry ∈ readDir (tree contents repositories) ["cvi"] ↔ clusterVirtualImage entry ∈ repositories := by
  rw [mem_readDir_tree, exists_repository]
  simp [path, cons_prefix_cons, Contents.exists_name]

theorem entry_vi : entry ∈ readDir (tree contents repositories) ["vi"] ↔
    strayClusterVirtualImage entry ∈ repositories ∨ ∃ name, virtualImage entry name ∈ repositories := by
  rw [mem_readDir_tree, exists_repository]
  simp [path, cons_prefix_cons, Contents.exists_name]

theorem entry_vi_namespace : entry ∈ readDir (tree contents repositories) ["vi", ns] ↔
    (strayClusterVirtualImage ns ∈ repositories ∧ entry ∈ (contents (strayClusterVirtualImage ns)).names) ∨
      virtualImage ns entry ∈ repositories := by
  rw [mem_readDir_tree, exists_repository]
  simp [path, cons_prefix_cons, Contents.exists_name]

theorem entry_vd :
    entry ∈ readDir (tree contents repositories) ["vd"] ↔ ∃ name, virtualDisk entry name ∈ repositories := by
  rw [mem_readDir_tree, exists_repository]
  simp [path, cons_prefix_cons, Contents.exists_name]

theorem entry_vd_namespace :
    entry ∈ readDir (tree contents repositories) ["vd", ns] ↔ virtualDisk ns entry ∈ repositories := by
  rw [mem_readDir_tree, exists_repository]
  simp [path, cons_prefix_cons, Contents.exists_name]

end Entries

theorem collectVirtualImages_eq (ns : String) (dir entries : List String) (images : List RegistryImage) :
    collectVirtualImages ns dir entries images =
      if "_manifests" ∈ entries then [⟨.clusterVirtualImage, "", ns, dir⟩]
      else images ++ entries.map fun entry => ⟨.virtualImage, ns, entry, dir ++ [entry]⟩ := by
  induction entries generalizing images with
  | nil => simp [collectVirtualImages]
  | cons entry entries ih =>
    rw [collectVirtualImages]
    split
    · rename_i marker
      rw [if_pos (by rw [marker]; exact mem_cons_self ..)]
    rename_i other
    rw [ih]
    have same : "_manifests" ∈ entry :: entries ↔ "_manifests" ∈ entries := by
      rw [mem_cons]
      exact or_iff_right (Ne.symm other)
    simp only [same, map_cons, append_assoc, singleton_append]

section Listing

variable {contents : Repository → Contents} {repositories : List Repository} {ns : String} {image : RegistryImage}
  (all : ∀ repository ∈ repositories, repository.Named)

theorem mem_listVirtualDisksForNamespace (named : ns ≠ "") :
    image ∈ listVirtualDisksForNamespace (tree contents repositories) ns ↔
      ∃ name, virtualDisk ns name ∈ repositories ∧ (virtualDisk ns name).image = image := by
  simp only [listVirtualDisksForNamespace, if_neg named, mem_map, entry_vd_namespace]
  rfl

theorem mem_listClusterVirtualImages : image ∈ listClusterVirtualImages (tree contents repositories) ↔
      ∃ name, clusterVirtualImage name ∈ repositories ∧ (clusterVirtualImage name).image = image := by
  simp only [listClusterVirtualImages, mem_map, entry_cvi]
  rfl

include all

theorem manifest_entry : "_manifests" ∈ readDir (tree contents repositories) ["vi", ns] ↔
    Marked contents repositories ns := by
  rw [entry_vi_namespace]
  refine or_iff_left fun member => ?_
  exact (all _ member "_manifests" (by simp [path])).2 (by decide)

theorem mem_listVirtualImagesForNamespace (named : ns ≠ "") :
    image ∈ listVirtualImagesForNamespace (tree contents repositories) ns ↔
      (Listed contents repositories (strayClusterVirtualImage ns) ∧ (strayClusterVirtualImage ns).image = image) ∨
      ∃ name, Listed contents repositories (virtualImage ns name) ∧ (virtualImage ns name).image = image := by
  simp only [listVirtualImagesForNamespace, if_neg named, collectVirtualImages_eq]
  by_cases marked : Marked contents repositories ns
  · rw [if_pos ((manifest_entry all).mpr marked), mem_singleton, eq_comm]
    constructor
    · exact fun same => .inl ⟨.ofStray marked, same⟩
    rintro (⟨-, same⟩ | ⟨name, listed, -⟩)
    · exact same
    · exact absurd marked listed.unmarked
  rw [if_neg ((manifest_entry all).not.mpr marked), nil_append, mem_map]
  constructor
  · rintro ⟨entry, member, same⟩
    rcases entry_vi_namespace.mp member with ⟨isStray, stored⟩ | member
    · exact .inr ⟨entry, .ofDirectory marked isStray stored, same⟩
    · exact .inr ⟨entry, .ofImage marked member, same⟩
  rintro (⟨listed, -⟩ | ⟨name, listed, same⟩)
  · exact absurd listed.marked marked
  · exact ⟨name, entry_vi_namespace.mpr listed.stored, same⟩

theorem namespace_named (member : ns ∈ readDir (tree contents repositories) ["vi"] ∨
    ns ∈ readDir (tree contents repositories) ["vd"]) : ns ≠ "" := by
  rcases member with member | member
  · rcases entry_vi.mp member with stray | ⟨_, image⟩
    · exact (all _ stray ns (by simp [path])).1
    · exact (all _ image ns (by simp [path])).1
  obtain ⟨_, disk⟩ := entry_vd.mp member
  exact (all _ disk ns (by simp [path])).1

theorem mem_listVirtualImagesAll : image ∈ listVirtualImagesAll (tree contents repositories) ↔
      ∃ ns, (Listed contents repositories (strayClusterVirtualImage ns) ∧
          (strayClusterVirtualImage ns).image = image) ∨
        ∃ name, Listed contents repositories (virtualImage ns name) ∧ (virtualImage ns name).image = image := by
  rw [listVirtualImagesAll, mem_flatMap]
  refine exists_congr fun ns => ?_
  constructor
  · rintro ⟨entry, listed⟩
    exact (mem_listVirtualImagesForNamespace all (namespace_named all (.inl entry))).mp listed
  intro found
  have entry : ns ∈ readDir (tree contents repositories) ["vi"] := by
    rw [entry_vi]
    rcases found with ⟨listed, -⟩ | ⟨name, listed, -⟩
    · exact .inl listed.marked.1
    · exact listed.stored.imp (·.1) fun member => ⟨name, member⟩
  exact ⟨entry, (mem_listVirtualImagesForNamespace all (namespace_named all (.inl entry))).mpr found⟩

theorem mem_listVirtualDisksAll : image ∈ listVirtualDisksAll (tree contents repositories) ↔
      ∃ ns name, virtualDisk ns name ∈ repositories ∧ (virtualDisk ns name).image = image := by
  rw [listVirtualDisksAll, mem_flatMap]
  refine exists_congr fun ns => ?_
  constructor
  · rintro ⟨entry, listed⟩
    exact (mem_listVirtualDisksForNamespace (namespace_named all (.inr entry))).mp listed
  rintro ⟨name, member, same⟩
  have entry : ns ∈ readDir (tree contents repositories) ["vd"] := entry_vd.mpr ⟨name, member⟩
  exact ⟨entry, (mem_listVirtualDisksForNamespace (namespace_named all (.inr entry))).mpr ⟨name, member, same⟩⟩

theorem mem_listImagesAll : image ∈ listImagesAll (tree contents repositories) ↔
    ∃ repository, Listed contents repositories repository ∧ repository.image = image := by
  rw [listImagesAll, mem_append, mem_append, mem_listClusterVirtualImages, mem_listVirtualImagesAll all,
    mem_listVirtualDisksAll all]
  constructor
  · rintro ((⟨name, member, same⟩ | ⟨ns, ⟨listed, same⟩ | ⟨name, listed, same⟩⟩) | ⟨ns, name, member, same⟩)
    · exact ⟨_, .ofClusterImage member, same⟩
    · exact ⟨_, listed, same⟩
    · exact ⟨_, listed, same⟩
    · exact ⟨_, .ofDisk member, same⟩
  rintro ⟨repository, listed, same⟩
  cases listed with
  | ofClusterImage member => exact .inl (.inl ⟨_, member, same⟩)
  | ofStray marked => exact .inl (.inr ⟨_, .inl ⟨.ofStray marked, same⟩⟩)
  | ofImage unmarked member => exact .inl (.inr ⟨_, .inr ⟨_, .ofImage unmarked member, same⟩⟩)
  | ofDirectory unmarked member stored => exact .inl (.inr ⟨_, .inr ⟨_, .ofDirectory unmarked member stored, same⟩⟩)
  | ofDisk member => exact .inr ⟨_, _, member, same⟩

omit all in
theorem readDir_nodup (leaves : List (List String)) (dir : List String) : (readDir leaves dir).Nodup :=
  nodup_dedup _

open RegistryImage

omit all in
theorem listVirtualImagesForNamespace_nodup (leaves : List (List String)) (ns : String) :
    (listVirtualImagesForNamespace leaves ns).Nodup := by
  simp only [listVirtualImagesForNamespace, collectVirtualImages_eq, nil_append]
  generalize (if ns = "" then "default" else ns) = ns
  split
  · exact nodup_singleton _
  · exact (readDir_nodup ..).map fun one two same => (mk.inj same).2.2.1

theorem listVirtualImagesAll_nodup : (listVirtualImagesAll (tree contents repositories)).Nodup := by
  refine nodup_flatMap.mpr ⟨fun ns _ => listVirtualImagesForNamespace_nodup _ ns, ?_⟩
  refine (readDir_nodup ..).imp_of_mem fun {ns other} entry otherEntry different image listed otherListed => ?_
  -- The namespace is the second part of the path.
  have parts : ∀ {ns}, ns ∈ readDir (tree contents repositories) ["vi"] →
      image ∈ listVirtualImagesForNamespace (tree contents repositories) ns → image.path[1]? = some ns := by
    intro ns entry listed
    rcases (mem_listVirtualImagesForNamespace all (namespace_named all (.inl entry))).mp listed with
      ⟨-, rfl⟩ | ⟨name, -, rfl⟩
    · rfl
    · rfl
  exact different (Option.some.inj ((parts entry listed).symm.trans (parts otherEntry otherListed)))

theorem listVirtualDisksAll_nodup : (listVirtualDisksAll (tree contents repositories)).Nodup := by
  refine nodup_flatMap.mpr ⟨fun ns _ => ?_, ?_⟩
  · exact (readDir_nodup ..).map fun one two same => (mk.inj same).2.2.1
  refine (readDir_nodup ..).imp_of_mem fun {ns other} entry otherEntry different image listed otherListed => ?_
  obtain ⟨_, -, rfl⟩ := (mem_listVirtualDisksForNamespace (namespace_named all (.inr entry))).mp listed
  obtain ⟨otherName, -, same⟩ :=
    (mem_listVirtualDisksForNamespace (namespace_named all (.inr otherEntry))).mp otherListed
  exact different (mk.inj same).2.1.symm

theorem listImagesAll_nodup : (listImagesAll (tree contents repositories)).Nodup := by
  have clusterImages : (listClusterVirtualImages (tree contents repositories)).Nodup :=
    (readDir_nodup ..).map fun one two same => (mk.inj same).2.2.1
  refine ((clusterImages.append (listVirtualImagesAll_nodup all) ?_).append (listVirtualDisksAll_nodup all) ?_)
  · intro image listed otherListed
    obtain ⟨_, -, rfl⟩ := mem_listClusterVirtualImages.mp listed
    obtain ⟨_, ⟨-, same⟩ | ⟨_, -, same⟩⟩ := (mem_listVirtualImagesAll all).mp otherListed
    all_goals exact absurd (congrArg RegistryImage.path same) (by simp [image])
  intro image listed otherListed
  obtain ⟨_, _, -, rfl⟩ := (mem_listVirtualDisksAll all).mp otherListed
  rcases mem_append.mp listed with listed | listed
  · obtain ⟨_, -, same⟩ := mem_listClusterVirtualImages.mp listed
    exact absurd (congrArg type same) (by simp [image])
  obtain ⟨_, ⟨-, same⟩ | ⟨_, -, same⟩⟩ := (mem_listVirtualImagesAll all).mp listed
  all_goals exact absurd (congrArg type same) (by simp [image])

end Listing

section Absent

variable {hash : String → String} {cluster : Cluster} {ns name : String}

theorem indexed?_isNone {kubeImages : List ResourceImage} {type : ImageType} :
    (indexed? kubeImages type ns name).isNone ↔
      ∀ kubeImage ∈ kubeImages, ¬ (kubeImage.type = type ∧ kubeImage.ns = ns ∧ kubeImage.name = name) := by
  simp [indexed?, find?_eq_none]

/-- The disk whose phase decides on a repository. -/
def lastDisk? (hash : String → String) (cluster : Cluster) (ns name : String) : Option DiskResource :=
  cluster.virtualDisks.reverse.find? fun vd => vd.ns = ns ∧ diskRepoName hash defaultRegistryHost vd.ns vd.name = name

theorem indexed?_disk : indexed? (listAllPossibleImages hash cluster) .virtualDisk ns name =
    (lastDisk? hash cluster ns name).map (·.phase) := by
  unfold indexed? listAllPossibleImages lastDisk?
  have never {α : Type} (entries : List α) : entries.find? (fun _ => false) = none := by simp [find?_eq_none]
  simp only [reverse_append, find?_append, ← map_reverse, find?_map, Function.comp_def, reduceCtorEq, false_and,
    decide_false, never, true_and]
  cases cluster.virtualDisks.reverse.find? _ <;> rfl

theorem isAbsent_disk : isAbsent (listAllPossibleImages hash cluster) (virtualDisk ns name).image = true ↔
    ∀ vd ∈ lastDisk? hash cluster ns name, vd.phase = .ready := by
  simp only [isAbsent, image, indexed?_disk]
  cases lastDisk? hash cluster ns name <;> simp

theorem lastDisk?_unused (unused : (virtualDisk ns name).inUse hash cluster = false) :
    ∀ vd ∈ lastDisk? hash cluster ns name, vd.phase = .ready := by
  intro vd last
  have found : cluster.virtualDisks.reverse.find? _ = some vd := last
  have fits := find?_some found
  rw [decide_eq_true_eq] at fits
  refine Decidable.byContradiction fun notReady => Bool.false_ne_true (unused.symm.trans ?_)
  exact any_eq_true.mpr ⟨vd, mem_reverse.mp (mem_of_find?_eq_some found),
    decide_eq_true ⟨fits.1, fits.2, notReady⟩⟩

/-- What is absent is unused, but for a repository of several disks the last of which is Ready. -/
theorem isAbsent_image {repository : Repository} :
    isAbsent (listAllPossibleImages hash cluster) repository.image = true ↔
      repository.inUse hash cluster = false ∨ ∃ ns name, repository = virtualDisk ns name ∧
        ∀ vd ∈ lastDisk? hash cluster ns name, vd.phase = .ready := by
  cases repository with
  | clusterVirtualImage name | strayClusterVirtualImage name =>
    change (indexed? (listAllPossibleImages hash cluster) .clusterVirtualImage "" name).isNone = true ↔ _
    rw [indexed?_isNone]
    simp [listAllPossibleImages, inUse, or_imp, forall_and]
  | virtualImage ns name =>
    change (indexed? (listAllPossibleImages hash cluster) .virtualImage ns name).isNone = true ↔ _
    rw [indexed?_isNone]
    simp [listAllPossibleImages, inUse, or_imp, forall_and]
  | virtualDisk ns name =>
    rw [isAbsent_disk]
    constructor
    · exact fun ready => .inr ⟨ns, name, rfl, ready⟩
    rintro (unused | ⟨_, _, ⟨⟩, ready⟩)
    · exact lastDisk?_unused unused
    · exact ready

end Absent

section Cleanup

variable {contents : Repository → Contents} {hash : String → String} {cluster : Cluster}
  {repositories : List Repository}

theorem eq_of_nested {outer inner : Repository} (isOuter : Listed contents repositories outer)
    (isInner : Listed contents repositories inner) (below : outer.path <+: inner.path) : outer = inner := by
  rcases nested below with same | ⟨ns, name, rfl, rfl⟩
  · exact same
  exact absurd isOuter.marked isInner.unmarked

variable (all : ∀ repository ∈ repositories, repository.Named)
include all

theorem mem_getAbsentImages {image : RegistryImage} :
    image ∈ getAbsentImages hash (tree contents repositories) cluster ↔
      ∃ repository, Listed contents repositories repository ∧
        isAbsent (listAllPossibleImages hash cluster) repository.image = true ∧ repository.image = image := by
  rw [getAbsentImages, compareRegistryAndClusterImages, mem_filter, mem_listImagesAll all]
  constructor
  · rintro ⟨⟨repository, listed, rfl⟩, absent⟩
    exact ⟨repository, listed, absent, rfl⟩
  rintro ⟨repository, listed, absent, rfl⟩
  exact ⟨⟨repository, listed, rfl⟩, absent⟩

theorem absent_paths_apart : ((getAbsentImages hash (tree contents repositories) cluster).map (·.path)).Pairwise
      fun first second => ¬ first <+: second ∧ ¬ second <+: first := by
  have distinct : (getAbsentImages hash (tree contents repositories) cluster).Nodup :=
    (listImagesAll_nodup all).filter _
  refine pairwise_map.mpr (distinct.imp_of_mem fun {one two} isOne isTwo different => ?_)
  obtain ⟨_, isFirst, -, rfl⟩ := (mem_getAbsentImages all).mp isOne
  obtain ⟨_, isSecond, -, rfl⟩ := (mem_getAbsentImages all).mp isTwo
  rw [image_path, image_path]
  constructor
  · exact fun below => different (congrArg image (eq_of_nested isFirst isSecond below))
  · exact fun below => different (congrArg image (eq_of_nested isSecond isFirst below).symm)

omit all in
theorem Listed.present {repository : Repository} (listed : Listed contents repositories repository) :
    ∃ leaf ∈ tree contents repositories, repository.path <+: leaf := by
  have own (stored : repository ∈ repositories) : ∃ leaf ∈ tree contents repositories, repository.path <+: leaf := by
    obtain ⟨directory, isDirectory⟩ := (contents repository).exists_name
    exact ⟨_, mem_tree.mpr ⟨repository, stored, directory, isDirectory, rfl⟩, prefix_append ..⟩
  cases listed with
  | ofClusterImage member | ofImage _ member | ofDisk member => exact own member
  | ofStray marked => exact own marked.1
  | ofDirectory _ member stored => exact ⟨_, mem_tree.mpr ⟨_, member, _, stored, rfl⟩, prefix_rfl⟩

/-- No removal stops at a path that is not there any more. -/
theorem performAutoCleanup_removed (collected : Bool) :
    (performAutoCleanup hash collected (tree contents repositories) cluster).2 = collected ∧
      ∀ leaf, leaf ∈ (performAutoCleanup hash collected (tree contents repositories) cluster).1 ↔
        leaf ∈ tree contents repositories ∧
          ∀ image ∈ getAbsentImages hash (tree contents repositories) cluster, ¬image.path <+: leaf := by
  have present : ∀ path ∈ (getAbsentImages hash (tree contents repositories) cluster).map (·.path),
      ∃ leaf ∈ tree contents repositories, path <+: leaf := by
    intro path member
    obtain ⟨_, absent, rfl⟩ := mem_map.mp member
    obtain ⟨repository, listed, -, rfl⟩ := (mem_getAbsentImages all).mp absent
    exact image_path repository ▸ listed.present
  obtain ⟨removed, remaining⟩ := removeEach_apart (absent_paths_apart all) present
  rw [performAutoCleanup]
  split
  · rename_i stopped
    rw [removeImages] at stopped
    rw [stopped] at removed
    cases removed
  rename_i finished
  rw [removeImages] at finished
  refine ⟨rfl, fun leaf => ?_⟩
  have remains := remaining leaf
  rw [finished, forall_mem_map] at remains
  exact remains

end Cleanup

section Owned

variable (contents : Repository → Contents) (hash : String → String) (collected : Bool) (cluster : Cluster)
  (repositories : List Repository)

structure CleansUp : Prop where
  keeps : ∀ image ∈ getAbsentImages hash (tree contents repositories) cluster, ∀ repository ∈ repositories,
    repository.inUse hash cluster = true → ¬ image.path <+: repository.path
  removes : ∀ repository ∈ repositories, repository.inUse hash cluster = false →
    ∀ directory ∈ (contents repository).names,
      repository.path ++ [directory] ∉ (performAutoCleanup hash collected (tree contents repositories) cluster).1

structure OwnedTogether : Prop where
  images : ∀ ns name, Marked contents repositories ns → virtualImage ns name ∈ repositories →
    (virtualImage ns name).inUse hash cluster = (strayClusterVirtualImage ns).inUse hash cluster
  disks : ∀ ns name, virtualDisk ns name ∈ repositories → (virtualDisk ns name).inUse hash cluster = true →
    ∃ vd ∈ lastDisk? hash cluster ns name, vd.phase ≠ .ready

end Owned

section Exact

variable {contents : Repository → Contents} {hash : String → String} {collected : Bool} {cluster : Cluster}
  {repositories : List Repository} (all : ∀ repository ∈ repositories, repository.Named)
include all

theorem CleansUp.ownedTogether (cleans : CleansUp contents hash collected cluster repositories) :
    OwnedTogether contents hash cluster repositories := by
  constructor
  · intro ns name marked member
    have listed : Listed contents repositories (strayClusterVirtualImage ns) := .ofStray marked
    cases used : (strayClusterVirtualImage ns).inUse hash cluster with
    | false =>
      -- The stray repository is removed with all that is below it.
      refine Bool.eq_false_iff.mpr fun imageUsed => ?_
      refine cleans.keeps _ ((mem_getAbsentImages all).mpr ⟨_, listed, ?_, rfl⟩) _ member imageUsed ?_
      · exact isAbsent_image.mpr (.inl used)
      · exact ⟨[name], rfl⟩
    | true =>
      refine Bool.of_not_eq_false fun unused => ?_
      obtain ⟨directory, isDirectory⟩ := (contents (virtualImage ns name)).exists_name
      refine cleans.removes _ member unused directory isDirectory (((performAutoCleanup_removed all _).2 _).mpr ?_)
      refine ⟨mem_tree.mpr ⟨_, member, _, isDirectory, rfl⟩, fun _ absent below => ?_⟩
      obtain ⟨other, isListed, isAbsent, rfl⟩ := (mem_getAbsentImages all).mp absent
      rw [image_path] at below
      rcases prefix_concat_iff.mp below with same | inside
      · cases other <;> simp [path] at same
      rcases nested inside with rfl | ⟨_, _, rfl, ⟨⟩⟩
      · exact isListed.unmarked marked
      rcases isAbsent_image.mp isAbsent with unusedStray | ⟨_, _, ⟨⟩, _⟩
      rw [used] at unusedStray
      cases unusedStray
  · intro ns name member used
    refine Decidable.byContradiction fun ready => ?_
    refine cleans.keeps _ ((mem_getAbsentImages all).mpr ⟨_, .ofDisk member, ?_, rfl⟩) _ member used ?_
    · exact isAbsent_disk.mpr fun vd last => Decidable.byContradiction fun notReady => ready ⟨vd, last, notReady⟩
    · exact prefix_rfl

theorem OwnedTogether.keeps (owned : OwnedTogether contents hash cluster repositories) {image : RegistryImage}
    (absent : image ∈ getAbsentImages hash (tree contents repositories) cluster) {repository : Repository}
    (member : repository ∈ repositories) (used : repository.inUse hash cluster = true) :
    ¬ image.path <+: repository.path := by
  intro below
  obtain ⟨other, listed, isAbsent, rfl⟩ := (mem_getAbsentImages all).mp absent
  rw [image_path] at below
  rcases nested below with rfl | ⟨ns, name, rfl, rfl⟩
  · rcases isAbsent_image.mp isAbsent with unused | ⟨ns, name, rfl, ready⟩
    · rw [used] at unused
      cases unused
    · obtain ⟨vd, last, notReady⟩ := owned.disks ns name member used
      exact notReady (ready vd last)
  · rcases isAbsent_image.mp isAbsent with unused | ⟨_, _, ⟨⟩, _⟩
    rw [owned.images ns name listed.marked member, unused] at used
    cases used

theorem OwnedTogether.removes (owned : OwnedTogether contents hash cluster repositories)
    (images : ∀ vi ∈ cluster.virtualImages, imageRepoName hash defaultRegistryHost vi.ns vi.name ∉ directories)
    {repository : Repository} (member : repository ∈ repositories) (unused : repository.inUse hash cluster = false)
    {directory : String} (isDirectory : directory ∈ (contents repository).names) :
    repository.path ++ [directory] ∉
      (performAutoCleanup hash collected (tree contents repositories) cluster).1 := by
  intro kept
  have unremoved {outer : Repository} (listed : Listed contents repositories outer)
      (unusedOuter : outer.inUse hash cluster = false) : ¬outer.path <+: repository.path ++ [directory] := by
    have absent := (mem_getAbsentImages all).mpr ⟨outer, listed, isAbsent_image.mpr (.inl unusedOuter), rfl⟩
    rw [← image_path outer]
    exact (((performAutoCleanup_removed all _).2 _).mp kept).2 _ absent
  cases repository with
  | clusterVirtualImage name => exact unremoved (.ofClusterImage member) unused (prefix_append ..)
  | virtualDisk ns name => exact unremoved (.ofDisk member) unused (prefix_append ..)
  | virtualImage ns name =>
    by_cases marked : Marked contents repositories ns
    · refine unremoved (.ofStray marked) ?_ ⟨[name, directory], rfl⟩
      rw [← owned.images ns name marked member, unused]
    · exact unremoved (.ofImage marked member) unused (prefix_append ..)
  | strayClusterVirtualImage ns =>
    by_cases marked : Marked contents repositories ns
    · exact unremoved (.ofStray marked) unused (prefix_append ..)
    refine unremoved (.ofDirectory marked member isDirectory) (Bool.eq_false_iff.mpr fun used => ?_) prefix_rfl
    obtain ⟨vi, isImage, fits⟩ := any_eq_true.mp used
    refine images vi isImage ?_
    rw [(of_decide_eq_true fits).2]
    exact (contents _).known _ isDirectory

end Exact

/-- The cleanup removes the repositories that are not in use, and nothing that holds one in use, exactly when a stray
    repository is in use together with the images of the namespace of its name, and of several disks with one
    repository the last does not make it look free. -/
theorem cleanup_removes_unused (contents : Repository → Contents) (hash : String → String) (collected : Bool)
    (cluster : Cluster) (repositories : List Repository) (all : ∀ repository ∈ repositories, repository.Named)
    (images : ∀ vi ∈ cluster.virtualImages, imageRepoName hash defaultRegistryHost vi.ns vi.name ∉ directories) :
    CleansUp contents hash collected cluster repositories ↔ OwnedTogether contents hash cluster repositories := by
  constructor
  · exact fun cleans => cleans.ownedTogether all
  intro owned
  exact ⟨fun _ absent _ member used => owned.keeps all absent member used,
    fun _ member unused _ isDirectory => owned.removes all images member unused isDirectory⟩

def contentsOf : Repository → Contents
  | strayClusterVirtualImage "pending" => aborted
  | _ => published

def someRepositories : List Repository :=
  [.virtualImage "team" "ubuntu", .virtualImage "team" "old", .strayClusterVirtualImage "alpine",
    .strayClusterVirtualImage "pending", .virtualDisk "team" "root"]

def someResources : Cluster := ⟨["alpine"], [⟨"team", "ubuntu"⟩], [⟨"team", "root", .provisioning⟩]⟩

theorem cleanup_removes_unused_three :
    CleansUp contentsOf (fun name => name) true someResources someRepositories ∧
      (performAutoCleanup (fun name => name) true (tree contentsOf someRepositories) someResources).1 =
        tree contentsOf [.virtualImage "team" "ubuntu", .strayClusterVirtualImage "alpine",
          .virtualDisk "team" "root"] := by
  refine ⟨(cleanup_removes_unused contentsOf (fun name => name) true someResources someRepositories
    (by decide +kernel) (by decide +kernel)).mpr ⟨?_, ?_⟩, by decide +kernel⟩
  · intro ns name marked member
    simp only [someRepositories, mem_cons, virtualImage.injEq, reduceCtorEq, not_mem_nil, or_false] at member
    obtain ⟨rfl, -⟩ | ⟨rfl, -⟩ := member
    all_goals exact absurd marked.1 (by decide +kernel)
  · intro ns name member _
    simp only [someRepositories, mem_cons, virtualDisk.injEq, reduceCtorEq, not_mem_nil, or_false, false_or] at member
    obtain ⟨rfl, rfl⟩ := member
    decide +kernel

/-- A stray repository of a deleted ClusterVirtualImage takes the images of a namespace with its name away. One of an
    existing ClusterVirtualImage protects the images without resource in the namespace. -/
theorem cleanup_removes_used :
    (virtualImage "ubuntu" "disk").inUse (fun name => name) ⟨[], [⟨"ubuntu", "disk"⟩], []⟩ = true ∧
    performAutoCleanup (fun name => name) true
      (tree contentsOf [.strayClusterVirtualImage "ubuntu", .virtualImage "ubuntu" "disk"])
      ⟨[], [⟨"ubuntu", "disk"⟩], []⟩ = ([], true) ∧
    (virtualImage "ubuntu" "disk").inUse (fun name => name) ⟨["ubuntu"], [], []⟩ = false ∧
    performAutoCleanup (fun name => name) true
      (tree contentsOf [.strayClusterVirtualImage "ubuntu", .virtualImage "ubuntu" "disk"]) ⟨["ubuntu"], [], []⟩ =
      (tree contentsOf [.strayClusterVirtualImage "ubuntu", .virtualImage "ubuntu" "disk"], true) := by
  refine ⟨?_, ?_, ?_, ?_⟩ <;> decide +kernel

end Virtualization.Dvcr
