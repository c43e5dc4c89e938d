import Virtualization.Library.Run
import Virtualization.Library.Store

namespace Virtualization.Volume

open Library

structure NamespacedName where
  (ns name : String)
deriving DecidableEq

inductive ReclaimPolicy where
  | recycle | delete | retain
deriving DecidableEq

structure ObjectReference where
  key : NamespacedName
  (uid resourceVersion : Nat)
deriving DecidableEq

/-- `originalReclaimPolicy` is the annotation in which the policy is saved. An empty text in it is `some none`. -/
structure PersistentVolume where
  name : String
  resourceVersion : Nat
  reclaimPolicy : ReclaimPolicy
  originalReclaimPolicy : Option (Option ReclaimPolicy)
  claimRef : Option ObjectReference
deriving DecidableEq

inductive ClaimPhase where
  | pending | bound | lost
deriving DecidableEq

structure PersistentVolumeClaim where
  key : NamespacedName
  (uid resourceVersion : Nat)
  volumeName : Option String
  phase : ClaimPhase
  (deleting finalizers : Bool)
deriving DecidableEq

instance : Object PersistentVolume String where
  key pv := pv.name
  version pv := pv.resourceVersion
  stamp n pv := { pv with resourceVersion := n }
  key_stamp _ _ := rfl
  version_stamp _ _ := rfl

instance : Object PersistentVolumeClaim NamespacedName where
  key pvc := pvc.key
  version pvc := pvc.resourceVersion
  stamp n pvc := { pvc with resourceVersion := n }
  key_stamp _ _ := rfl
  version_stamp _ _ := rfl

structure Call where
  target : PersistentVolumeClaim
  prime : Option PersistentVolumeClaim
  pvName : String

inductive Task where
  | retain | rebind | restore

def retainVolume (pv : PersistentVolume) : Option PersistentVolume :=
  if pv.reclaimPolicy = .retain then none
  else
    some { pv with
      originalReclaimPolicy := some (pv.originalReclaimPolicy.getD (some pv.reclaimPolicy))
      reclaimPolicy := .retain }

def rebindVolume (target : PersistentVolumeClaim) (pv : PersistentVolume) : Option PersistentVolume :=
  if pv.claimRef.any (·.uid = target.uid) then none
  else some { pv with claimRef := some ⟨target.key, target.uid, target.resourceVersion⟩ }

def restoreReclaimPolicy (pv : PersistentVolume) : Option PersistentVolume :=
  match pv.originalReclaimPolicy with
  | none => none
  | some none | some (some .retain) => some { pv with originalReclaimPolicy := none }
  | some (some original) => some { pv with reclaimPolicy := original, originalReclaimPolicy := none }

def Task.mutate (task : Task) (target : PersistentVolumeClaim) (pv : PersistentVolume) : Option PersistentVolume :=
  match task with
  | .retain => retainVolume pv
  | .rebind => rebindVolume target pv
  | .restore => restoreReclaimPolicy pv

def pointAtVolume (pvName : String) (pvc : PersistentVolumeClaim) : Option PersistentVolumeClaim :=
  if pvc.volumeName = some pvName then none else some { pvc with volumeName := some pvName }

def deleteClaim (claims : Store PersistentVolumeClaim) (key : NamespacedName) : Store PersistentVolumeClaim :=
  match claims.get? key with
  | none => claims
  | some pvc => if pvc.finalizers then claims.write { pvc with deleting := true } else claims.remove key

inductive Stage where
  | fetchPrime (target : PersistentVolumeClaim)
  | fetchVolume (call : Call)
  | readVolume (call : Call) (task : Task)
  | updateVolume (call : Call) (task : Task) (pv : PersistentVolume)
  | readTarget (call : Call)
  | updateTarget (call : Call) (pvc : PersistentVolumeClaim)
  | deletePrime (call : Call)

structure World where
  volumes : Store PersistentVolume
  claims : Store PersistentVolumeClaim
  call : Option Stage
  answer : Option Bool

inductive Event where
  | call (served : Bool)
  | move (answer : Answer)
  | stop
  | bind (claim : NamespacedName)
  | reclaim (volume : String)
  | removed (claim : NamespacedName)
  | touchVolume (volume : String)
  | touchClaim (claim : NamespacedName)

namespace World

variable (w : World) (call : Call)

def goOn (stage : Stage) : World := { w with call := some stage, answer := none }

def returned (answer : Option Bool) : World := { w with call := none, answer }

def resolve (target : PersistentVolumeClaim) (prime : Option PersistentVolumeClaim) : World :=
  match target.volumeName <|> prime.bind (·.volumeName) with
  | some pvName => w.goOn (.fetchVolume { target, prime, pvName })
  | none => if prime.isNone then w.returned none else w.returned (some false)

def afterDelete : World :=
  if call.target.phase ≠ .bound then w.returned (some false) else w.goOn (.readVolume call .restore)

def afterTarget : World :=
  if call.prime.any (·.deleting = false) then w.goOn (.deletePrime call) else w.afterDelete call

def afterTask : Task → World
  | .retain => w.goOn (.readVolume call .rebind)
  | .rebind => w.goOn (.readTarget call)
  | .restore => w.returned (some true)

def updateVolume (task : Task) (pv : PersistentVolume) (answer : Answer) : World :=
  let (reply, volumes) := w.volumes.request answer (w.volumes.update pv)
  let w := { w with volumes }
  match reply with
  | .done => w.afterTask call task
  | .refused .conflict => w.goOn (.readVolume call task)
  | .refused _ | .failed => w.returned none

def updateTarget (pvc : PersistentVolumeClaim) (answer : Answer) : World :=
  let (reply, claims) := w.claims.request answer (w.claims.update pvc)
  let w := { w with claims }
  match reply with
  | .done => w.afterTarget call
  | .refused .conflict => w.goOn (.readTarget call)
  | .refused _ | .failed => w.returned none

def deletePrime (prime : NamespacedName) (call : Call) : Answer → World
  | .ok => { w with claims := deleteClaim w.claims prime }.afterDelete call
  | .lost => { w with claims := deleteClaim w.claims prime }.returned none
  | .error | .conflict => w.returned none

def move (prime target : NamespacedName) (stage : Stage) (answer : Answer) : World :=
  match stage with
  | .updateVolume call task pv => w.updateVolume call task pv answer
  | .updateTarget call pvc => w.updateTarget call pvc answer
  | .deletePrime call => w.deletePrime prime call answer
  | .fetchPrime copy => if answer ≠ .ok then w.returned none else w.resolve copy (w.claims.get? prime)
  | .fetchVolume call =>
    if answer ≠ .ok ∨ (w.volumes.get? call.pvName).isNone then w.returned none
    else w.goOn (.readVolume call .retain)
  | .readVolume call task =>
    if answer ≠ .ok then w.returned none
    else
      match w.volumes.get? call.pvName with
      | none => w.returned none
      | some pv =>
        match task.mutate call.target pv with
        | none => w.afterTask call task
        | some new => w.goOn (.updateVolume call task new)
  | .readTarget call =>
    if answer ≠ .ok then w.returned none
    else
      match w.claims.get? target with
      | none => w.returned none
      | some pvc =>
        match pointAtVolume call.pvName pvc with
        | none => w.afterTarget call
        | some new => w.goOn (.updateTarget call new)

def matched (pvc : PersistentVolumeClaim) : Bool :=
  pvc.volumeName.any fun pvName => (w.volumes.get? pvName).any fun pv => pv.claimRef.any (·.uid = pvc.uid)

def released (pv : PersistentVolume) : Bool :=
  pv.claimRef.any fun ref => ¬(w.claims.get? ref.key).any (·.uid = ref.uid)

def step (prime target : NamespacedName) (w : World) : Event → Option World
  | .call served =>
    if w.call.isSome then none
    else if ¬served then some (w.returned none)
    else
      match w.claims.get? target with
      | none => some (w.returned none)
      | some pvc => some (w.goOn (.fetchPrime pvc))
  | .move answer => w.call.map fun stage => w.move prime target stage answer
  | .stop => some (w.returned none)
  | .bind key =>
    match w.claims.get? key with
    | none => none
    | some pvc =>
      if w.matched pvc then some { w with claims := w.claims.write { pvc with phase := .bound }, answer := none }
      else none
  | .reclaim name =>
    match w.volumes.get? name with
    | none => none
    | some pv =>
      if pv.reclaimPolicy = .delete ∧ w.released pv then
        some { w with volumes := w.volumes.remove name, answer := none }
      else none
  | .removed key =>
    if (w.claims.get? key).any (·.deleting) then
      some { w with claims := w.claims.remove key, answer := none }
    else none
  | .touchVolume name =>
    (w.volumes.get? name).map fun pv => { w with volumes := w.volumes.write pv, answer := none }
  | .touchClaim key => (w.claims.get? key).map fun pvc => { w with claims := w.claims.write pvc, answer := none }

end World

end Virtualization.Volume
