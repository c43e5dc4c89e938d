import Mathlib.Data.List.Dedup
import Virtualization.Disk.InUse
import Virtualization.Library.Store
import Virtualization.Pool.Sync

namespace Virtualization.Pool

open Virtualization.Core Library

structure BlockDeviceSpecRef extends BlockDeviceRef where
  bootOrder : Option Nat
deriving DecidableEq

/-- A member of the pool. `spec` is what the spec holds besides the block devices, and of the conditions those are
    kept that the pool reads. -/
structure Member (σ : Type) extends VirtualMachine where
  resourceVersion : Nat
  blockDeviceRefs : List BlockDeviceSpecRef
  spec : σ
  (templateHash patchedTemplateHash : Option String)
  (awaitingRestart blockDevicesReady : ConditionStatus)
deriving DecidableEq

instance (σ : Type) : Object (Member σ) String where
  key vm := vm.name
  version vm := vm.resourceVersion
  stamp n vm := { vm with resourceVersion := n }
  key_stamp _ _ := rfl
  version_stamp _ _ := rfl

def Member.withRefs {σ : Type} (vm : Member σ) (refs : List BlockDeviceSpecRef) : Member σ :=
  { vm with blockDeviceRefs := refs }

/-- `freeSince` is the annotation, with the time it parses to. -/
structure VirtualDisk where
  name : String
  resourceVersion : Nat
  poolUIDLabel : Option UID
  diskTemplateLabel : Option String
  controllerOf : Option UID
  deletionTimestamp : Option Int
  finalizers : List String
  phase : DiskPhase
  size : Option Nat
  freeSince : Option (Option Int)
deriving DecidableEq

instance : Object VirtualDisk String where
  key disk := disk.name
  version disk := disk.resourceVersion
  stamp n disk := { disk with resourceVersion := n }
  key_stamp _ _ := rfl
  version_stamp _ _ := rfl

inductive VirtualDiskReclaimPolicy where
  | unset | delete | retain
deriving DecidableEq

/-- Times and durations are in nanoseconds. -/
structure VirtualDiskTemplateSpec where
  name : String
  onScaleDown : VirtualDiskReclaimPolicy
  keep : Int
  ttl : Option Int
  size : Option Nat

structure VirtualMachineTemplateSpec (σ : Type) where
  metadata : String
  spec : σ
  blockDeviceRefs : List BlockDeviceSpecRef
deriving DecidableEq

structure TemplatedPool (σ : Type) extends VirtualMachinePool where
  virtualMachineTemplate : VirtualMachineTemplateSpec σ
  virtualDiskTemplates : List VirtualDiskTemplateSpec

def isDeletePolicy (diskTemplate : VirtualDiskTemplateSpec) : Bool :=
  diskTemplate.onScaleDown = .unset ∨ diskTemplate.onScaleDown = .delete

def deleteDiskName (memberName diskTemplateName : String) : String := memberName ++ "-" ++ diskTemplateName

def retainDiskName (poolName diskTemplateName suffix : String) : String :=
  poolName ++ "-" ++ diskTemplateName ++ "-" ++ suffix

namespace Disks

variable {σ : Type} [DecidableEq σ]

inductive Failure where
  | listMembers
  | listPoolDisks
  | deleteDisk (disk template : String)
  | listDisks (template : String)
  | resizeDisk (disk : String)
  | clearFreeSince (disk : String)
  | stampFreeSince (disk : String)
  | gcDisk (disk : String)
  | listReuseDisks
  | detachDisk (disk vm : String)
  | createReuseDisk (disk : String)
  | attachDisk (disk vm : String)
  | createDisk (disk : String)
  | getDisk (disk : String)

/-- What a pass is given besides the objects: the answer to its n-th API call, the random suffix it draws before that
    call where the disks listed exist, the order in which it ranges over a map, and the clock. -/
structure Env where
  answers : Nat → Answer
  rand : Nat → List String → String
  order : Disk.MapOrder
  now : Int

structure Session (σ : Type) where
  vms : Store (Member σ)
  disks : Store VirtualDisk
  calls : Nat
  errors : List Failure

namespace Session

def fail (s : Session σ) (failure : Failure) : Session σ := { s with errors := s.errors ++ [failure] }

def read (env : Env) (s : Session σ) : Bool × Session σ :=
  (env.answers s.calls = .ok, { s with calls := s.calls + 1 })

def updateVM (env : Env) (vm : Member σ) (s : Session σ) : Reply × Session σ :=
  let answer := s.vms.request (env.answers s.calls) (s.vms.update vm)
  (answer.1, { s with vms := answer.2, calls := s.calls + 1 })

def writeDisks (env : Env) (result : Except WriteError (Store VirtualDisk)) (s : Session σ) : Reply × Session σ :=
  let answer := s.disks.request (env.answers s.calls) result
  (answer.1, { s with disks := answer.2, calls := s.calls + 1 })

end Session

/-- A disk with finalizers is only marked. A precondition is checked against the version. -/
def deleteDisk (now : Int) (name : String) (precondition : Option Nat) (disks : Store VirtualDisk) :
    Except WriteError (Store VirtualDisk) :=
  match disks.get? name with
  | none => .error .notFound
  | some disk =>
    if precondition.any (· ≠ disk.resourceVersion) then .error .conflict
    else if disk.finalizers = [] then .ok (disks.remove name)
    else if disk.deletionTimestamp.isSome then .ok disks
    else .ok (disks.write { disk with deletionTimestamp := some now })

def isMember (pool : TemplatedPool σ) (vm : Member σ) : Bool :=
  listMembers pool.toVirtualMachinePool [vm.toVirtualMachine] ≠ []

def isRef (disk : String) (ref : BlockDeviceSpecRef) : Bool := ref.kind = .diskDevice ∧ ref.name = disk

def hasDiskRef (vm : Member σ) (disk : String) : Bool := vm.blockDeviceRefs.any (isRef disk)

def diskRefIndex (vm : Member σ) (disk : String) : Option Nat := vm.blockDeviceRefs.findIdx? (isRef disk)

def defaultRetrySteps : Nat := 5

def detachRefs (disk : String) (refs : List BlockDeviceSpecRef) : List BlockDeviceSpecRef :=
  refs.filter fun ref => ¬ isRef disk ref

def detachAttempts (env : Env) (vm disk : String) : Nat → Session σ → Reply × Session σ
  | 0, s => (.refused .conflict, s)
  | attempts + 1, s =>
    match env.answers s.calls with
    | .conflict => detachAttempts env vm disk attempts { s with calls := s.calls + 1 }
    | .error | .lost => (.failed, { s with calls := s.calls + 1 })
    | .ok =>
      match s.vms.get? vm with
      | none => (.refused .notFound, { s with calls := s.calls + 1 })
      | some current =>
        match Session.updateVM env (current.withRefs (detachRefs disk current.blockDeviceRefs))
          { s with calls := s.calls + 1 } with
        | (.refused .conflict, after) => detachAttempts env vm disk attempts after
        | (reply, after) => (reply, after)

def detachDisk (env : Env) (vm disk : String) (s : Session σ) : Bool × Session σ :=
  match detachAttempts env vm disk defaultRetrySteps s with
  | (.done, after) => (true, after)
  | (_, after) => (false, after.fail (.detachDisk disk vm))

section Prune

variable (env : Env) (pool : TemplatedPool σ)

structure Pruning (σ : Type) where
  session : Session σ
  (isBoot attached : Bool)

def pruneMember (disk : String) (p : Pruning σ) (vm : Member σ) : Pruning σ :=
  if vm.deletionTimestamp.isSome then p
  else
    match diskRefIndex vm disk with
    | none => p
    | some 0 => { p with isBoot := true, attached := true }
    | some _ =>
      match detachDisk env vm.name disk p.session with
      | (true, session) => { p with session }
      | (false, session) => { p with session, attached := true }

/-- `members` are the copies that the pass has listed; a detachment does not change them. -/
def pruneDisk (members : List (Member σ)) (s : Session σ) (disk : VirtualDisk) : Session σ :=
  match disk.diskTemplateLabel with
  | none => s
  | some template =>
    if template ∈ pool.virtualDiskTemplates.map (·.name) ∨ disk.deletionTimestamp.isSome then s
    else
      let p := members.foldl (pruneMember env disk.name) { session := s, isBoot := false, attached := false }
      if p.isBoot ∨ p.attached then p.session
      else
        match p.session.writeDisks env (deleteDisk env.now disk.name none p.session.disks) with
        | (.done, after) | (.refused .notFound, after) => after
        | (_, after) => after.fail (.deleteDisk disk.name template)

def poolDisks (disks : Store VirtualDisk) : List VirtualDisk :=
  disks.objects.filter (·.poolUIDLabel = some pool.uid)

def pruneRemovedTemplates (members : List (Member σ)) (s : Session σ) : Session σ :=
  match s.read env with
  | (false, after) => after.fail .listPoolDisks
  | (true, after) => (poolDisks pool s.disks).foldl (pruneDisk env pool members) after

end Prune

section Sizes

variable (env : Env) (pool : TemplatedPool σ)

def templateDisks (template : String) (disks : Store VirtualDisk) : List VirtualDisk :=
  (poolDisks pool disks).filter (·.diskTemplateLabel = some template)

def resizeDisk (want : Nat) (s : Session σ) (disk : VirtualDisk) : Session σ :=
  if disk.size.any fun have_ => want ≤ have_ then s
  else
    match s.writeDisks env (s.disks.update { disk with size := some want }) with
    | (.done, after) => after
    | (_, after) => after.fail (.resizeDisk disk.name)

def resizeTemplate (s : Session σ) (diskTemplate : VirtualDiskTemplateSpec) : Session σ :=
  match diskTemplate.size with
  | none => s
  | some want =>
    match s.read env with
    | (false, after) => after.fail (.listDisks diskTemplate.name)
    | (true, after) => (templateDisks pool diskTemplate.name s.disks).foldl (resizeDisk env want) after

def reconcileDiskSizes (s : Session σ) : Session σ := pool.virtualDiskTemplates.foldl (resizeTemplate env pool) s

end Sizes

section Attach

variable (env : Env) (pool : TemplatedPool σ)

def replacePlaceholder (placeholder disk : String) : List BlockDeviceSpecRef → Option (List BlockDeviceSpecRef)
  | [] => none
  | ref :: rest =>
    if isRef placeholder ref then some ({ ref with name := disk } :: rest)
    else (replacePlaceholder placeholder disk rest).map (ref :: ·)

def attachRefs (placeholder disk : String) (refs : List BlockDeviceSpecRef) : List BlockDeviceSpecRef :=
  (replacePlaceholder placeholder disk refs).getD
    (refs ++ [{ kind := .diskDevice, name := disk, bootOrder := none }])

variable (referenced : List String) (vm : Member σ) (diskTemplate : VirtualDiskTemplateSpec)

def attachDisk (disk placeholder : String) (s : Session σ) : Member σ × Session σ :=
  if hasDiskRef vm disk then (vm, s)
  else
    let updated := vm.withRefs (attachRefs placeholder disk vm.blockDeviceRefs)
    match Session.updateVM env updated s with
    | (.done, after) => ((after.vms.get? vm.name).getD updated, after)
    | (_, after) => (vm, after.fail (.attachDisk disk vm.name))

structure Assignment (σ : Type) where
  session : Session σ
  vm : Member σ
  assigned : List String

def Assignment.attach (a : Assignment σ) (disk placeholder : String) : Assignment σ :=
  let result := attachDisk env a.vm disk placeholder a.session
  { a with vm := result.1, session := result.2 }

def newDisk (name template : String) (size : Option Nat) (controller : UID) : VirtualDisk :=
  { name, resourceVersion := 0, poolUIDLabel := some pool.uid, diskTemplateLabel := some template
    controllerOf := some controller, deletionTimestamp := none, finalizers := [], phase := .unset, size
    freeSince := none }

def newRetainDisk (name : String) : VirtualDisk :=
  newDisk pool name diskTemplate.name diskTemplate.size pool.uid

def buildDeleteDisk (name : String) : VirtualDisk :=
  newDisk pool name diskTemplate.name diskTemplate.size vm.uid

def createDisk (disk : VirtualDisk) (s : Session σ) : Bool × Session σ :=
  match s.writeDisks env (s.disks.create disk) with
  | (.done, after) | (.refused .alreadyExists, after) => (true, after)
  | (_, after) => (false, after)

def reuseDisks (template : String) (disks : Store VirtualDisk) : List VirtualDisk :=
  (templateDisks pool template disks).filter (·.controllerOf = some pool.uid)

def isFree (referenced assigned : List String) (disk : VirtualDisk) : Bool :=
  ¬ (disk.name ∈ referenced ∨ disk.name ∈ assigned ∨ disk.deletionTimestamp.isSome ∨ disk.phase = .failed)

def pickFree (referenced assigned : List String) (disks : List VirtualDisk) : Option VirtualDisk :=
  let free := disks.filter (isFree referenced assigned)
  (free.find? (·.phase = .ready)).or free.head?

def ensureRetainDisk (a : Assignment σ) : Assignment σ :=
  match a.session.read env with
  | (false, after) => { a with session := after.fail .listReuseDisks }
  | (true, after) =>
    let reuse := reuseDisks pool diskTemplate.name a.session.disks
    if reuse.any fun disk => hasDiskRef a.vm disk.name then { a with session := after }
    else
      match pickFree referenced a.assigned reuse with
      | some disk =>
        Assignment.attach env { a with session := after, assigned := disk.name :: a.assigned } disk.name
          diskTemplate.name
      | none =>
        let name := retainDiskName pool.name diskTemplate.name
          (env.rand after.calls (after.disks.objects.map (·.name)))
        match createDisk env (newRetainDisk pool diskTemplate name) after with
        | (false, failed) => { a with session := failed.fail (.createReuseDisk name) }
        | (true, created) =>
          Assignment.attach env { a with session := created, assigned := name :: a.assigned } name diskTemplate.name

def ensureDeleteDisk (a : Assignment σ) : Assignment σ :=
  let name := deleteDiskName a.vm.name diskTemplate.name
  match a.session.read env with
  | (false, after) => { a with session := after.fail (.getDisk name) }
  | (true, after) =>
    match a.session.disks.get? name with
    | some _ => Assignment.attach env { a with session := after } name diskTemplate.name
    | none =>
      match createDisk env (buildDeleteDisk pool a.vm diskTemplate name) after with
      | (false, failed) => { a with session := failed.fail (.createDisk name) }
      | (true, created) => Assignment.attach env { a with session := created } name diskTemplate.name

def ensureDisk (a : Assignment σ) (diskTemplate : VirtualDiskTemplateSpec) : Assignment σ :=
  if isDeletePolicy diskTemplate then ensureDeleteDisk env pool diskTemplate a
  else ensureRetainDisk env pool referenced diskTemplate a

structure Progress (σ : Type) where
  session : Session σ
  members : List (Member σ)
  assigned : List String

def ensureMember (p : Progress σ) (vm : Member σ) : Progress σ :=
  if vm.deletionTimestamp.isSome then { p with members := p.members ++ [vm] }
  else
    let a := pool.virtualDiskTemplates.foldl (ensureDisk env pool referenced)
      { session := p.session, vm, assigned := p.assigned }
    { session := a.session, members := p.members ++ [a.vm], assigned := a.assigned }

def liveMembers (members : List (Member σ)) : List (Member σ) :=
  members.filter (·.deletionTimestamp.isNone)

def diskRefs : List String :=
  (vm.blockDeviceRefs.filter (·.kind = .diskDevice)).map (·.name)

def referencedDisks (members : List (Member σ)) : List String := (liveMembers members).flatMap diskRefs

end Attach

section Collisions

variable (env : Env) (pool : TemplatedPool σ)

def allReuseDisks (disks : Store VirtualDisk) : List VirtualDisk :=
  (poolDisks pool disks).filter fun disk => disk.diskTemplateLabel.isSome ∧ disk.controllerOf = some pool.uid

variable (members : List (Member σ))

def refBy (disk : String) : List (Member σ) :=
  (liveMembers members).flatMap fun vm => (vm.blockDeviceRefs.filter (isRef disk)).map fun _ => vm

def refByKeys (disks : Store VirtualDisk) (members : List (Member σ)) : List String :=
  ((referencedDisks members).filter fun disk => disk ∈ (allReuseDisks pool disks).map (·.name)).dedup

def pickKeeper (keeper : Member σ) : List (Member σ) → Member σ
  | [] => keeper
  | vm :: rest =>
    if vm.blockDevicesReady = .conditionTrue then vm
    else pickKeeper (if vm.name < keeper.name then vm else keeper) rest

def detachOthers (disk keeper : String) (s : Session σ) (vm : Member σ) : Session σ :=
  if vm.name = keeper then s else (detachDisk env vm.name disk s).2

def reassignDisk (s : Session σ) (disk : String) : Session σ :=
  match refBy members disk with
  | [] | [_] => s
  | first :: rest => (first :: rest).foldl (detachOthers env disk (pickKeeper first (first :: rest)).name) s

def reassignCollisions (s : Session σ) : Session σ :=
  match s.read env with
  | (false, after) => after.fail .listReuseDisks
  | (true, after) => (env.order.keys (refByKeys pool s.disks members)).foldl (reassignDisk env members) after

end Collisions

section Collect

variable (env : Env) (pool : TemplatedPool σ)

def second : Int := 1000000000

def zeroTime : Int := -62135596800 * second

def freeSince (disk : VirtualDisk) : Int := (disk.freeSince.bind id).getD zeroTime

def maxDuration : Int := 9223372036854775807

def sub (later earlier : Int) : Int := max (min (later - earlier) maxDuration) (-maxDuration - 1)

structure Sweep (σ : Type) where
  session : Session σ
  free : List VirtualDisk

variable (referenced assigned : List String)

def sweepDisk (w : Sweep σ) (disk : VirtualDisk) : Sweep σ :=
  if disk.name ∈ referenced ∨ disk.name ∈ assigned then
    if disk.freeSince.isSome then
      match w.session.writeDisks env (w.session.disks.update { disk with freeSince := none }) with
      | (.done, after) => { w with session := after }
      | (_, after) => { w with session := after.fail (.clearFreeSince disk.name) }
    else w
  else if disk.freeSince.isSome then { w with free := w.free ++ [disk] }
  else
    let stamped := { disk with freeSince := some (some (env.now - env.now % second)) }
    match w.session.writeDisks env (w.session.disks.update stamped) with
    | (.done, after) =>
      { session := after, free := w.free ++ [(after.disks.get? disk.name).getD stamped] }
    | (_, after) => { w with session := after.fail (.stampFreeSince disk.name) }

def collectDisk (ttl : Int) (state : Option Int × Session σ) (disk : VirtualDisk) : Option Int × Session σ :=
  let age := sub env.now (freeSince disk)
  if age ≤ ttl then
    let remaining := if ttl - age ≤ 0 then second else ttl - age
    (if state.1.any (· ≤ remaining) then state.1 else some remaining, state.2)
  else
    match state.2.writeDisks env (deleteDisk env.now disk.name (some disk.resourceVersion) state.2.disks) with
    | (.done, after) | (.refused .notFound, after) | (.refused .conflict, after) => (state.1, after)
    | (_, after) => (state.1, after.fail (.gcDisk disk.name))

/-- The most recently freed disks come first; insertion sort is stable, as the sort of the source is. -/
def gcReuseDisks (diskTemplate : VirtualDiskTemplateSpec) (s : Session σ) : Option Int × Session σ :=
  match s.read env with
  | (false, after) => (none, after.fail .listReuseDisks)
  | (true, after) =>
    let w := (reuseDisks pool diskTemplate.name s.disks).foldl (sweepDisk env referenced assigned)
      { session := after, free := [] }
    match diskTemplate.ttl with
    | none => (none, w.session)
    | some ttl =>
      let sorted := w.free.insertionSort fun a b => freeSince b ≤ freeSince a
      (sorted.drop diskTemplate.keep.toNat).foldl (collectDisk env ttl) (none, w.session)

def sooner : Option Int → Option Int → Option Int
  | some a, some b => some (if b < a then b else a)
  | none, b => b
  | a, none => a

def collect (state : Option Int × Session σ) (diskTemplate : VirtualDiskTemplateSpec) : Option Int × Session σ :=
  if isDeletePolicy diskTemplate then state
  else
    let result := gcReuseDisks env pool referenced assigned diskTemplate state.2
    (sooner state.1 result.1, result.2)

end Collect

section Handle

variable (env : Env) (pool : TemplatedPool σ)

def members (vms : Store (Member σ)) : List (Member σ) := vms.objects.filter (isMember pool)

def assign (copies : List (Member σ)) (s : Session σ) : Progress σ :=
  copies.foldl (ensureMember env pool (referencedDisks copies)) { session := s, members := [], assigned := [] }

def finish (referenced : List String) (p : Progress σ) : Option Int × Session σ :=
  pool.virtualDiskTemplates.foldl (collect env pool referenced p.assigned)
    (none, reassignCollisions env pool p.members p.session)

def handle (s : Session σ) : Option Int × Session σ :=
  if pool.deletionTimestamp.isSome then (none, s)
  else
    match s.read env with
    | (false, after) => (none, after.fail .listMembers)
    | (true, after) =>
      let copies := members pool s.vms
      let pruned := pruneRemovedTemplates env pool copies after
      if pool.virtualDiskTemplates = [] then (none, pruned)
      else finish env pool (referencedDisks copies) (assign env pool copies (reconcileDiskSizes env pool pruned))

end Handle

end Disks

end Virtualization.Pool
