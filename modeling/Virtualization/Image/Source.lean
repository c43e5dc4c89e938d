import Virtualization.Core.Objects

namespace Virtualization.Image

open Virtualization.Core

abbrev ImageCondition := Condition ImageConditionType ImageConditionReason

structure Finding where
  status : ConditionStatus
  reason : ImageConditionReason
  message : String

def Finding.unknown : Finding := ⟨.conditionUnknown, .unknown, ""⟩

def Finding.ready : Finding := ⟨.conditionTrue, .ready, ""⟩

def Finding.failed (message : String) : Finding := ⟨.conditionFalse, .provisioningFailed, message⟩

def Finding.provisioning (message : String) : Finding := ⟨.conditionFalse, .provisioning, message⟩

def Finding.toCondition (finding : Finding) (type : ImageConditionType) (generation : Int) : ImageCondition :=
  ⟨type, finding.status, finding.reason, finding.message, generation⟩

inductive SourceError where
  | virtualDiskNotReady (name : String)
  | virtualDiskNotReadyForUse (name : String)
  | virtualDiskAttachedToVirtualMachine (name : String)

def SourceError.text : SourceError → String
  | .virtualDiskNotReady name => "VirtualDisk " ++ name ++ " not ready"
  | .virtualDiskNotReadyForUse name => "the VirtualDisk " ++ name ++ " not ready for use"
  | .virtualDiskAttachedToVirtualMachine name => "the VirtualDisk " ++ name ++ " attached to VirtualMachine"

def SourceError.reason : SourceError → ImageConditionReason
  | .virtualDiskNotReady _ => .virtualDiskNotReady
  | .virtualDiskNotReadyForUse _ => .virtualDiskNotReadyForUse
  | .virtualDiskAttachedToVirtualMachine _ => .virtualDiskAttachedToVirtualMachine

section

variable (c : Cluster) (vd : VirtualDisk)

def reservedForImage : Bool :=
  let inUse := (getCondition .inUse vd.conditions).1
  inUse.status = .conditionTrue ∧ isLastUpdated inUse vd.generation ∧ inUse.reason = .usedForImageCreation

/-- `ObjectRefVirtualDisk.Validate`, the same for both kinds of images. The reservation of the
    disk is not looked at for an image in phase Ready. -/
def validate (ns name : String) (phase : ImagePhase) : Option SourceError :=
  match c.fetchVD ns name with
  | none => some (.virtualDiskNotReady name)
  | some vd =>
    if vd.phase ≠ .ready then some (.virtualDiskNotReady name)
    else if phase ≠ .ready then
      let inUse := (getCondition .inUse vd.conditions).1
      if inUse.status ≠ .conditionTrue ∨ !isLastUpdated inUse vd.generation then
        some (.virtualDiskNotReadyForUse vd.name)
      else
        match inUse.reason with
        | .usedForImageCreation => none
        | .attachedToVirtualMachine => some (.virtualDiskAttachedToVirtualMachine vd.name)
        | _ => some (.virtualDiskNotReadyForUse vd.name)
    else none

end

theorem validate_none {c : Cluster} {ns name : String} {phase : ImagePhase} (valid : validate c ns name phase = none)
    (unfinished : phase ≠ .ready) : ∃ vd, c.fetchVD ns name = some vd ∧ reservedForImage vd := by
  unfold validate at valid
  split at valid
  · cases valid
  rename_i vd found
  refine ⟨vd, found, ?_⟩
  split at valid
  · cases valid
  dsimp only at valid
  split at valid
  · cases valid
  rename_i current
  split at valid <;> cases valid
  rename_i reserved
  simp only [not_or, not_not, Bool.not_eq_true, Bool.not_eq_false'] at current
  simpa [reservedForImage, current] using reserved

inductive Access where
  | validatedDisk | disk | importerPod | sourceClaim | targetClaim | protect | capacity | bounder | pvcImporterPod
deriving DecidableEq

inductive StartOutcome where
  | started
  | quotaExceeded (text : String)
  | refused (text : String) (namespaceTerminating : Bool)

inductive StorageError where
  | storageProfileNotFound | defaultStorageClassNotFound

def StorageError.text : StorageError → String
  | .storageProfileNotFound =>
    "The StorageClass is not fully configured in the cluster. " ++
      "Check the StorageClass name or set a default StorageClass."
  | .defaultStorageClassNotFound =>
    "Default StorageClass not found in the cluster: please provide a StorageClass name or set a default StorageClass."

inductive PodError where
  | notInitialized (text : String)
  | notScheduled (text : String)
  | provisioningFailed (text : String)
  | other

/-- What the cluster answers in a sync. `recent` is whether the image was created less than half
    an hour ago, and the last fields are what the importer reports. -/
structure Answers where
  failing : List Access
  start : StartOutcome
  storageError : Option StorageError
  recent : Bool
  podError : Option PodError
  incompatibleProvisioner : Option String
  (importerFailed storageClassReady : Bool)
  (storageClassName targetClaimName registryURL : String)
  cdrom : Bool
  sizeUnpacked : String

inductive CopyPhase where
  | working | complete | terminating
deriving DecidableEq

structure ImageStatus where
  phase : ImagePhase
  (target registryURL : String)
  cdrom : Bool
  sizeUnpacked : String

structure Sync where
  status : ImageStatus
  finding : Finding
  (starts namespaceTerminating : Bool)

variable (answers : Answers) (c : Cluster) (vd : VirtualDisk) (status : ImageStatus)

def Sync.idle (finding : Finding) : Sync := ⟨status, finding, false, false⟩

def ImageStatus.enter (phase : ImagePhase) : ImageStatus := { status with phase }

def isImageProvisioningFinished (condition : ImageCondition) : Bool := condition.reason = .ready

def quotaExceededMessage (text : String) : String :=
  if answers.recent then
    "Quota exceeded: " ++ text ++ "; Please configure quotas or try recreating the resource later."
  else "Quota exceeded: " ++ text ++ "; Retry in 1 minute."

def startImporter : Sync :=
  let status := { status with registryURL := "" }
  if .sourceClaim ∈ answers.failing ∨ c.fetchPVC vd.ns vd.target = none then .idle status .unknown
  else
    match answers.start with
    | .quotaExceeded text => .idle (status.enter .failed) (.failed (quotaExceededMessage answers text))
    | .refused text namespaceTerminating =>
      ⟨status.enter .failed, .failed (capitalizeFirstLetter ("unexpected error: " ++ text)),
       false, namespaceTerminating⟩
    | .started => ⟨status.enter .provisioning, .provisioning "Preparing to import the image.", true, false⟩

def podFailure : PodError → Sync
  | .notInitialized text | .notScheduled text =>
    .idle (status.enter .failed) ⟨.conditionFalse, .provisioningNotStarted, capitalizeFirstLetter (text ++ ".")⟩
  | .provisioningFailed text => .idle (status.enter .failed) (.failed (capitalizeFirstLetter (text ++ ".")))
  | .other => .idle (status.enter .failed) .unknown

def completePodFailure : PodError → Sync
  | .provisioningFailed text => .idle (status.enter .failed) (.failed (capitalizeFirstLetter (text ++ ".")))
  | _ => .idle (status.enter .failed) .unknown

def imported : Sync :=
  .idle { status with
    phase := .ready, registryURL := answers.registryURL, cdrom := answers.cdrom, sizeUnpacked := answers.sizeUnpacked }
    .ready

def importing : Sync :=
  if .protect ∈ answers.failing then .idle status .unknown
  else
    .idle { status with phase := .provisioning, registryURL := answers.registryURL }
      (.provisioning "The image is being imported.")

/-- Copies a disk into the registry; `failure` is what is made of a complete pod with an error. -/
def syncToRegistry (failure : ImageStatus → PodError → Sync) (answers : Answers) (c : Cluster) (vd : VirtualDisk)
    (copy : Option CopyPhase) (condition : ImageCondition) (status : ImageStatus) : Sync :=
  if .importerPod ∈ answers.failing then .idle status .unknown
  else if isImageProvisioningFinished condition then .idle (status.enter .ready) .ready
  else
    match copy with
    | some .terminating => .idle (status.enter .pending) .unknown
    | none => startImporter answers c vd status
    | some .complete =>
      match answers.podError with
      | some error => failure status error
      | none => imported answers status
    | some .working =>
      match answers.podError with
      | some error => podFailure status error
      | none => importing answers status

def storeToDVCR := syncToRegistry completePodFailure

def syncClusterImage := syncToRegistry podFailure

def createPVCImportTarget : Sync :=
  match answers.incompatibleProvisioner with
  | some text => .idle (status.enter .failed) (.failed (capitalizeFirstLetter text))
  | none =>
    if .sourceClaim ∈ answers.failing ∨ c.fetchPVC vd.ns vd.target = none then .idle status .unknown
    else
      match answers.storageError, answers.start with
      | some .storageProfileNotFound, _ =>
        .idle (status.enter .failed) (.failed StorageError.storageProfileNotFound.text)
      | some .defaultStorageClassNotFound, _ =>
        .idle (status.enter .pending) (.failed StorageError.defaultStorageClassNotFound.text)
      | none, .quotaExceeded text => .idle (status.enter .failed) (.failed (quotaExceededMessage answers text))
      | none, .refused _ namespaceTerminating => ⟨status, .unknown, false, namespaceTerminating⟩
      | none, .started =>
        ⟨status.enter .provisioning, .provisioning "Preparing the PersistentVolumeClaim for the image.", true, false⟩

def storeToPVC (copy : Option CopyPhase) (condition : ImageCondition) (status : ImageStatus) : Sync :=
  if .targetClaim ∈ answers.failing then .idle status .unknown
  else if isImageProvisioningFinished condition then
    if copy = none then
      .idle (status.enter .pvcLost) ⟨.conditionFalse, .pvcLost, "The underlying PersistentVolumeClaim " ++
        quoted answers.targetClaimName ++ " was not found."⟩
    else .idle (status.enter .ready) .ready
  else if copy = some .terminating then .idle status .unknown
  else if .capacity ∈ answers.failing ∨ .bounder ∈ answers.failing then .idle status .unknown
  else
    match copy with
    | none => createPVCImportTarget answers c vd status
    | some .complete =>
      .idle { status with phase := .ready, target := answers.targetClaimName, sizeUnpacked := vd.capacity } .ready
    | some _ =>
      let status := { status with target := answers.targetClaimName }
      if .pvcImporterPod ∈ answers.failing then .idle status .unknown
      else if answers.importerFailed then .idle (status.enter .failed) (.failed "VirtualImage importer Pod failed.")
      else
        .idle (status.enter .provisioning) (.provisioning "Importing data into the PersistentVolumeClaim.")

section

variable {answers : Answers} {c : Cluster} {vd : VirtualDisk} {copy : Option CopyPhase} {condition : ImageCondition}
  {status : ImageStatus}

theorem syncToRegistry_starts {failure : ImageStatus → PodError → Sync}
    (starts : (syncToRegistry failure answers c vd copy condition status).starts) :
    isImageProvisioningFinished condition = false := by
  unfold syncToRegistry at starts
  split at starts
  · cases starts
  split at starts
  · cases starts
  rename_i unfinished
  simpa using unfinished

theorem storeToPVC_starts (starts : (storeToPVC answers c vd copy condition status).starts) :
    isImageProvisioningFinished condition = false := by
  unfold storeToPVC at starts
  split at starts
  · cases starts
  split at starts
  · split at starts <;> cases starts
  rename_i unfinished
  simpa using unfinished

end

end Virtualization.Image
