import Virtualization.Core.Objects
import Virtualization.Library.Run
import Virtualization.Library.Watched

namespace Virtualization.Dvcr

open Bool Virtualization.Core Library

structure Secret where
  resourceVersion : Nat
  creationTimestamp : Option Nat
  (switchToGarbageCollectionMode garbageCollectionDone : Bool)
  result : String
deriving DecidableEq

instance : Object Secret Unit where
  key _ := ()
  version secret := secret.resourceVersion
  stamp n secret := { secret with resourceVersion := n }
  key_stamp _ _ := rfl
  version_stamp _ _ := rfl

section Service

variable (secret : Option Secret)

def isGarbageCollectionStarted : Bool := secret.any (·.switchToGarbageCollectionMode)

def isGarbageCollectionInitiatedOrInProgress : Bool :=
  secret.any fun secret => !secret.garbageCollectionDone

def isGarbageCollectionDone : Bool := secret.any (·.garbageCollectionDone)

def newSecret (now : Nat) : Secret := ⟨0, some now, false, false, ""⟩

def initiateGarbageCollectionMode (now : Nat) (read : Option Secret) (secrets : Store Secret) :
    Except WriteError (Store Secret) :=
  match read with
  | none => secrets.create (newSecret now)
  | some secret =>
    secrets.update { secret with switchToGarbageCollectionMode := false, garbageCollectionDone := false, result := "" }

def switchToGarbageCollectionMode (read : Option Secret) (secrets : Store Secret) : Except WriteError (Store Secret) :=
  match read with
  | none => .error .notFound
  | some secret => secrets.update { secret with switchToGarbageCollectionMode := true }

inductive GarbageCollectionReason where
  | inProgress | completed | error

structure Deployment where
  deletionTimestamp : Option Nat
  condition : Option (GarbageCollectionReason × Nat)
  result : Option String

def isGarbageCollectionResultPersisted (secret : Secret) (deploy : Deployment) : Bool :=
  match deploy.condition with
  | some (.error, lastUpdateTime) | some (.completed, lastUpdateTime) =>
    secret.creationTimestamp.getD 0 < lastUpdateTime
  | _ => secret.result ≠ "" ∧ some secret.result = deploy.result

end Service

inductive ObjectRefKind where
  | virtualImage | clusterVirtualImage | virtualDisk | virtualDiskSnapshot
deriving DecidableEq

inductive DataSource where
  | http | containerImage | upload
  | objectRef (kind : ObjectRefKind)
deriving DecidableEq

inductive ReadyReason where
  | provisioningPostponed | provisioning | provisioningNotStarted | provisioningFailed | provisioningFailedTerminally
  | waitForUserUpload | waitForUserUploadTimeout | ready | datasourceNotReady | storageClassNotReady | other
deriving DecidableEq

structure ReadyCondition where
  status : ConditionStatus
  reason : ReadyReason
deriving DecidableEq

structure ResourceKey where
  kind : BlockDeviceKind
  (ns name : String)
deriving DecidableEq

structure Resource where
  key : ResourceKey
  resourceVersion : Nat
  deleting : Bool
  dataSource : Option DataSource
  ready : Option ReadyCondition
deriving DecidableEq

instance : Object Resource ResourceKey where
  key resource := resource.key
  version resource := resource.resourceVersion
  stamp n resource := { resource with resourceVersion := n }
  key_stamp _ _ := rfl
  version_stamp _ _ := rfl

def vdHasDVCRStage (vd : Resource) : Bool :=
  match vd.dataSource with
  | none => false
  | some .http | some .containerImage | some .upload => true
  | some (.objectRef .virtualImage) | some (.objectRef .clusterVirtualImage) => true
  | some (.objectRef _) => false

def inProvisioning (resource : Resource) : Bool :=
  !resource.deleting && resource.ready = some ⟨.conditionFalse, .provisioning⟩

def listImagesInProvisioning (kind : BlockDeviceKind) (resources : List Resource) : List Resource :=
  resources.filter fun resource => resource.key.kind = kind && inProvisioning resource

def listVirtualDisksInProvisioning (resources : List Resource) : List Resource :=
  resources.filter fun resource =>
    resource.key.kind = .diskDevice && vdHasDVCRStage resource && inProvisioning resource

def listAllInProvisioning (resources : List Resource) : List Resource :=
  listImagesInProvisioning .clusterImageDevice resources ++ listImagesInProvisioning .imageDevice resources ++
    listVirtualDisksInProvisioning resources

def waitProvisionersTimeout : Nat := 2 * 60 * 60
def garbageCollectionTimeout : Nat := 2 * 60 * 60

inductive Request where
  | runGC | secret | other

inductive Next where
  | initiate (deploy : Deployment)
  | delete
  | list (deploy : Deployment) (secret : Secret)
  | switch (deploy : Deployment)
  | returns (deploy : Option Deployment)
  | fails

def updateGarbageCollectionCondition (now : Nat) (reason : GarbageCollectionReason) (deploy : Deployment) :
    Deployment :=
  { deploy with condition := some (reason, now) }

def isExpired (now timeout : Nat) (secret : Secret) : Bool :=
  secret.creationTimestamp.any fun creation => timeout < now - creation

def cancel (now : Nat) (secret : Secret) (deploy : Deployment) : Next :=
  if isGarbageCollectionResultPersisted secret deploy then .delete
  else .returns (some { updateGarbageCollectionCondition now .error deploy with result := some "" })

/-- `LifeCycleHandler.Handle` up to the listing; `parse` reads the reason out of a result. -/
def handle (parse : String → Option GarbageCollectionReason) (now : Nat) (request : Request)
    (deploy : Option Deployment) (read : Except Unit (Option Secret)) : Next :=
  match deploy with
  | none => .returns none
  | some deploy =>
    if deploy.deletionTimestamp.isSome then .returns (some deploy)
    else
      match request with
      | .runGC => .initiate (updateGarbageCollectionCondition now .inProgress deploy)
      | .other => .returns (some deploy)
      | .secret =>
        match read with
        | .error () => .fails
        | .ok none => .returns (some deploy)
        | .ok (some secret) =>
          if isGarbageCollectionDone (some secret) then
            if isGarbageCollectionResultPersisted secret deploy then .delete
            else
              match parse secret.result with
              | none => .fails
              | some reason =>
                .returns (some { updateGarbageCollectionCondition now reason deploy with result := some secret.result })
          else if isGarbageCollectionStarted (some secret) then
            if isExpired now garbageCollectionTimeout secret then cancel now secret deploy
            else .returns (some (updateGarbageCollectionCondition now .inProgress deploy))
          else .list deploy secret

def handleListed (now : Nat) (secret : Secret) (deploy : Deployment) (remainInProvisioning : Nat) : Next :=
  if remainInProvisioning = 0 then .switch deploy
  else if isExpired now waitProvisionersTimeout secret then cancel now secret deploy
  else .returns (some (updateGarbageCollectionCondition now .inProgress deploy))

inductive HandlerResult where
  | next | stop | failed

def isAlreadyPostponed (obj : Resource) : Bool :=
  obj.ready.any (·.reason = .provisioningPostponed)

def postponeHandler (read : Except Unit (Option Secret)) (obj : Resource) : Resource × HandlerResult :=
  if obj.ready.isSome && !isAlreadyPostponed obj then (obj, .next)
  else
    match read with
    | .error () => (obj, .failed)
    | .ok secret =>
      if !isGarbageCollectionInitiatedOrInProgress secret then
        (if isAlreadyPostponed obj then { obj with ready := none } else obj, .next)
      else
        (if obj.ready.isNone then { obj with ready := some ⟨.conditionFalse, .provisioningPostponed⟩ } else obj, .stop)

def shouldRunDVCRClient (vd : Resource) : Bool :=
  match vd.dataSource with
  | none => false
  | some .http | some .upload | some .containerImage => true
  | some (.objectRef _) => false

def postpone (read : Except Unit (Option Secret)) (obj : Resource) : Resource × HandlerResult :=
  if obj.key.kind = .diskDevice && !shouldRunDVCRClient obj then (obj, .next) else postponeHandler read obj

def consults (obj : Resource) : Bool :=
  !(obj.key.kind = .diskDevice && !shouldRunDVCRClient obj) && (obj.ready.isNone || isAlreadyPostponed obj)

theorem postpone_stops {secret : Option Secret} {obj : Resource} (looks : consults obj)
    (mode : isGarbageCollectionInitiatedOrInProgress secret) : (postpone (.ok secret) obj).2 = .stop := by
  rw [consults, and_eq_true, not_eq_true'] at looks
  obtain ⟨unfiltered, free⟩ := looks
  rw [postpone, unfiltered, if_neg Bool.false_ne_true, postponeHandler]
  have unready : (obj.ready.isSome && !isAlreadyPostponed obj) = false := by
    rcases or_eq_true_iff.mp free with none | postponed
    · rw [Option.isNone_iff_eq_none.mp none]
      rfl
    · rw [postponed, Bool.not_true, Bool.and_false]
  rw [unready, if_neg Bool.false_ne_true]
  simp only [mode, Bool.not_true, Bool.false_eq_true, if_false]

inductive PodPhase where
  | waiting | writing | complete
deriving DecidableEq

structure Pod where
  owner : ResourceKey
  phase : PodPhase
  terminating : Bool
deriving DecidableEq

inductive PodAction where
  | none | start | cleanUp
deriving DecidableEq

structure Outcome where
  ready : Option ReadyCondition
  action : PodAction

inductive PodError where
  | notInitialized | notScheduled | provisioningFailed (terminal : Bool) | other

inductive ApplyError where
  | quotaExceeded | other

structure UploadAnswers where
  (serviceExists serviceTerminating exposureEnsured uploaderReady uploadStarted waitExpired : Bool)
  checkPod : Option PodError
  apply : Option ApplyError
  podCreated : Bool

def failedCondition (reason : ReadyReason) : Option ReadyCondition := some ⟨.conditionFalse, reason⟩

def setUploadPhaseConditionFromPodError : PodError → Option ReadyCondition
  | .provisioningFailed true => failedCondition .provisioningFailedTerminally
  | .provisioningFailed false => failedCondition .provisioningFailed
  | .notInitialized | .notScheduled => failedCondition .provisioningNotStarted
  | .other => some ⟨.conditionUnknown, .other⟩

def storeUploadToDVCR (answers : UploadAnswers) (pod : Option Pod) (condition : Option ReadyCondition) : Outcome :=
  let reason := condition.map (·.reason)
  if reason = some .ready then ⟨some ⟨.conditionTrue, .ready⟩, .cleanUp⟩
  else if reason = some .waitForUserUploadTimeout then ⟨failedCondition .waitForUserUploadTimeout, .cleanUp⟩
  else if reason = some .provisioningFailedTerminally then ⟨failedCondition .provisioningFailedTerminally, .cleanUp⟩
  else if pod.any (·.terminating) || answers.serviceTerminating then ⟨some ⟨.conditionUnknown, .other⟩, .none⟩
  else
    match pod, answers.serviceExists && answers.exposureEnsured with
    | some pod, true =>
      if pod.phase = .complete then
        match answers.checkPod with
        | some (.provisioningFailed true) => ⟨failedCondition .provisioningFailedTerminally, .none⟩
        | some (.provisioningFailed false) => ⟨failedCondition .provisioningFailed, .none⟩
        | some _ => ⟨some ⟨.conditionUnknown, .other⟩, .none⟩
        | none => ⟨some ⟨.conditionTrue, .ready⟩, .none⟩
      else if answers.uploadStarted then
        match answers.checkPod with
        | none | some .notInitialized | some .notScheduled => ⟨failedCondition .provisioning, .none⟩
        | some error => ⟨setUploadPhaseConditionFromPodError error, .none⟩
      else if reason = some .waitForUserUpload && answers.waitExpired then
        ⟨failedCondition .waitForUserUploadTimeout, .cleanUp⟩
      else if answers.uploaderReady then ⟨failedCondition .waitForUserUpload, .none⟩
      else ⟨failedCondition .provisioning, .none⟩
    | _, _ =>
      match answers.apply with
      | none => ⟨failedCondition .provisioning, .start⟩
      | some _ => ⟨failedCondition .provisioningFailed, if answers.podCreated then .start else .none⟩

end Virtualization.Dvcr
