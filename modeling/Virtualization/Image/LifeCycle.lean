import Virtualization.Image.Source

namespace Virtualization.Image

open Virtualization.Core Finding

/-- The finding of `DatasourceReadyHandler`; `stop` ends the text of an error. -/
def datasourceFinding (stop : SourceError → String) : Option SourceError → Finding
  | none => ⟨.conditionTrue, .datasourceReady, ""⟩
  | some error => ⟨.conditionFalse, error.reason, capitalizeFirstLetter (error.text ++ stop error)⟩

def fullStop (_ : SourceError) : String := "."

def clusterImageStop : SourceError → String
  | .virtualDiskNotReady _ => ""
  | .virtualDiskNotReadyForUse _ | .virtualDiskAttachedToVirtualMachine _ => "."

def diskRef (ref : Option ImageObjectRef) : Option ImageObjectRef := ref.filter (·.kind = .virtualDisk)

def setFinding (type : ImageConditionType) (finding : Finding) (generation : Int) (conditions : List ImageCondition) :
    List ImageCondition :=
  setCondition (finding.toCondition type generation) conditions

def readyCondition (conditions : List ImageCondition) : ImageCondition := (getCondition .ready conditions).1

def withReadyCondition (generation : Int) (conditions : List ImageCondition) : List ImageCondition :=
  if (getCondition .ready conditions).2 then conditions else setFinding .ready .unknown generation conditions

def begun (phase : ImagePhase) : ImagePhase := if phase = .unset then .pending else phase

section VirtualImage

def setImageFinding (type : ImageConditionType) (finding : Finding) (vi : VirtualImage) : VirtualImage :=
  { vi with conditions := setFinding type finding vi.generation vi.conditions }

variable (answers : Answers) (c : Cluster) (ref : ImageObjectRef) (copy : Option CopyPhase) (vi : VirtualImage)

def imageStatus : ImageStatus := ⟨vi.phase, vi.target, vi.registryURL, vi.cdrom, vi.sizeUnpacked⟩

def withImageStatus (status : ImageStatus) (vi : VirtualImage) : VirtualImage :=
  { vi with phase := status.phase, target := status.target, registryURL := status.registryURL
            cdrom := status.cdrom, sizeUnpacked := status.sizeUnpacked }

def imageDatasourceHandler : VirtualImage :=
  if vi.deletionTimestamp.isSome ∨ .validatedDisk ∈ answers.failing then setImageFinding .datasourceReady .unknown vi
  else setImageFinding .datasourceReady (datasourceFinding fullStop (validate c vi.ns ref.name vi.phase)) vi

def resetImage : VirtualImage :=
  { vi with phase := .pending, target := "", registryURL := "", cdrom := false, sizeUnpacked := "", conditions := []
            observedGeneration := 0 }

def syncImage (vd : VirtualDisk) (copy : Option CopyPhase) (condition : ImageCondition) (vi : VirtualImage) : Sync :=
  match vi.storage with
  | .containerRegistry => storeToDVCR answers c vd copy condition (imageStatus vi)
  | .kubernetes | .persistentVolumeClaim => storeToPVC answers c vd copy condition (imageStatus vi)

def applySync (sync : Sync) (vi : VirtualImage) : VirtualImage :=
  setImageFinding .ready (if sync.namespaceTerminating then
    .provisioning "Namespace is terminating: provisioning is paused." else sync.finding)
    (withImageStatus sync.status vi)

def datasourceHolds : Bool :=
  let condition := (getCondition .datasourceReady vi.conditions).1
  condition.status = .conditionTrue ∧ isLastUpdated condition vi.generation

/-- `LifeCycleHandler.Handle` of a VirtualImage, and whether a copy is started. A source that is
    not ready takes the Ready condition away from an image whose phase stays Ready. -/
def imageLifeCycle (stored : VirtualImage) : VirtualImage × Bool :=
  let condition := readyCondition stored.conditions
  let vi := { stored with conditions := withReadyCondition stored.generation stored.conditions }
  if vi.deletionTimestamp.isSome then ({ vi with phase := .terminating }, false)
  else if vi.phase = .lost ∨ vi.phase = .pvcLost then (vi, false)
  else
    let vi := { vi with phase := begun vi.phase }
    if condition.status ≠ .conditionTrue ∧ vi.generation ≠ vi.observedGeneration then (resetImage vi, false)
    else if !datasourceHolds vi then
      (setImageFinding .ready ⟨.conditionFalse, .datasourceNotReady, "Datasource is not ready."⟩ vi, false)
    else if !isImageProvisioningFinished condition ∧ vi.storage ≠ .containerRegistry ∧ !answers.storageClassReady then
      (setImageFinding .ready ⟨.conditionFalse, .storageClassNotReady, "The StorageClass is not ready."⟩ vi, false)
    else if !isImageProvisioningFinished condition ∧ vi.storage ≠ .containerRegistry ∧
      answers.storageClassName = "" then
      (vi, false)
    else if .disk ∈ answers.failing then (setImageFinding .ready .unknown vi, false)
    else
      match c.fetchVD vi.ns ref.name with
      | none => (setImageFinding .ready .unknown vi, false)
      | some vd =>
        let sync := syncImage answers c vd copy condition vi
        (applySync sync vi, sync.starts)

def reconcileImage : VirtualImage × Bool :=
  let after := imageLifeCycle answers c ref copy (imageDatasourceHandler answers c ref vi)
  ({ after.1 with observedGeneration := after.1.generation }, after.2)

end VirtualImage

section ClusterVirtualImage

def setClusterImageFinding (type : ImageConditionType) (finding : Finding) (cvi : ClusterVirtualImage) :
    ClusterVirtualImage :=
  { cvi with conditions := setFinding type finding cvi.generation cvi.conditions }

def clusterImageStatus (cvi : ClusterVirtualImage) : ImageStatus :=
  ⟨cvi.phase, "", cvi.registryURL, cvi.cdrom, cvi.sizeUnpacked⟩

def withClusterImageStatus (status : ImageStatus) (cvi : ClusterVirtualImage) : ClusterVirtualImage :=
  { cvi with phase := status.phase, registryURL := status.registryURL, cdrom := status.cdrom
             sizeUnpacked := status.sizeUnpacked }

variable (answers : Answers) (c : Cluster) (ref : ImageObjectRef)

def clusterImageDatasourceHandler (cvi : ClusterVirtualImage) : ClusterVirtualImage :=
  if cvi.deletionTimestamp.isSome ∨ .validatedDisk ∈ answers.failing then
    setClusterImageFinding .datasourceReady .unknown cvi
  else
    setClusterImageFinding .datasourceReady
      (datasourceFinding clusterImageStop (validate c ref.ns ref.name cvi.phase)) cvi

def resetClusterImage (cvi : ClusterVirtualImage) : ClusterVirtualImage :=
  { cvi with phase := .pending, registryURL := "", cdrom := false, sizeUnpacked := "" }

def setUnlessKnown (condition : ImageCondition) (finding : Finding) (cvi : ClusterVirtualImage) : ClusterVirtualImage :=
  if finding.status ≠ .conditionUnknown ∨ condition.status ≠ .conditionTrue then
    setClusterImageFinding .ready finding cvi
  else cvi

/-- `LifeCycleHandler.Handle` of a ClusterVirtualImage: a source that is not ready leaves the Ready
    condition as it is. -/
def clusterImageLifeCycle (copy : Option CopyPhase) (stored : ClusterVirtualImage) : ClusterVirtualImage × Bool :=
  let cvi := { stored with conditions := withReadyCondition stored.generation stored.conditions }
  let condition := readyCondition cvi.conditions
  if cvi.deletionTimestamp.isSome then ({ cvi with phase := .terminating }, false)
  else if cvi.phase = .lost then (cvi, false)
  else
    let cvi := { cvi with phase := begun cvi.phase }
    if (getCondition .datasourceReady cvi.conditions).1.status ≠ .conditionTrue then (cvi, false)
    else if condition.status ≠ .conditionTrue ∧ cvi.generation ≠ cvi.observedGeneration then
      (resetClusterImage cvi, false)
    else if .disk ∈ answers.failing then (setUnlessKnown condition .unknown cvi, false)
    else
      match c.fetchVD ref.ns ref.name with
      | none => (setUnlessKnown condition .unknown cvi, false)
      | some vd =>
        let sync := syncClusterImage answers c vd copy condition (clusterImageStatus cvi)
        (setUnlessKnown condition sync.finding (withClusterImageStatus sync.status cvi), sync.starts)

def reconcileClusterImage (copy : Option CopyPhase) (cvi : ClusterVirtualImage) : ClusterVirtualImage × Bool :=
  let after := clusterImageLifeCycle answers c ref copy (clusterImageDatasourceHandler answers c ref cvi)
  ({ after.1 with observedGeneration := after.1.generation }, after.2)

end ClusterVirtualImage

section

variable {answers : Answers} {c : Cluster} {ref : ImageObjectRef} {copy : Option CopyPhase}

@[simp] theorem getCondition_setFinding (type : ImageConditionType) (finding : Finding) (generation : Int)
    (conditions : List ImageCondition) :
    getCondition type (setFinding type finding generation conditions) = (finding.toCondition type generation, true) :=
  getCondition_setCondition (finding.toCondition type generation) conditions

theorem getCondition_setFinding_other {type other : ImageConditionType} (different : other ≠ type)
    (finding : Finding) (generation : Int) (conditions : List ImageCondition) :
    getCondition other (setFinding type finding generation conditions) = getCondition other conditions :=
  getCondition_setCondition_other different conditions

theorem getCondition_withReadyCondition {type : ImageConditionType} (different : type ≠ .ready) (generation : Int)
    (conditions : List ImageCondition) :
    getCondition type (withReadyCondition generation conditions) = getCondition type conditions := by
  unfold withReadyCondition
  split
  · rfl
  · exact getCondition_setFinding_other different _ _ _

theorem isImageProvisioningFinished_withReadyCondition (generation : Int) (conditions : List ImageCondition) :
    isImageProvisioningFinished (readyCondition (withReadyCondition generation conditions)) =
      isImageProvisioningFinished (readyCondition conditions) := by
  unfold withReadyCondition
  split
  · rfl
  rename_i absent
  have unset : (readyCondition conditions).reason = .unset := by
    unfold readyCondition
    unfold getCondition at absent ⊢
    split at absent
    · exact absurd rfl absent
    · rfl
  unfold isImageProvisioningFinished
  rw [unset]
  unfold readyCondition
  rw [getCondition_setFinding]
  rfl

theorem datasourceFinding_true {stop : SourceError → String} {error : Option SourceError}
    (holds : (datasourceFinding stop error).status = .conditionTrue) : error = none := by
  cases error with
  | none => rfl
  | some => cases holds

variable {vi : VirtualImage}

theorem imageLifeCycle_starts (starts : (imageLifeCycle answers c ref copy vi).2) :
    (getCondition .datasourceReady vi.conditions).1.status = .conditionTrue ∧
      isImageProvisioningFinished (readyCondition vi.conditions) = false := by
  unfold imageLifeCycle at starts
  dsimp only at starts
  iterate 4
    split at starts
    · cases starts
  -- from here on the data source was found ready
  rename_i held
  simp only [Bool.not_eq_true, Bool.not_eq_false'] at held
  have found := (of_decide_eq_true held).1
  rw [getCondition_withReadyCondition (by decide)] at found
  refine ⟨found, ?_⟩
  iterate 4
    split at starts
    · cases starts
  unfold syncImage at starts
  split at starts
  · exact syncToRegistry_starts starts
  all_goals exact storeToPVC_starts starts

theorem clusterImageLifeCycle_starts {cvi : ClusterVirtualImage}
    (starts : (clusterImageLifeCycle answers c ref copy cvi).2) :
    (getCondition .datasourceReady cvi.conditions).1.status = .conditionTrue ∧
      isImageProvisioningFinished (readyCondition cvi.conditions) = false := by
  unfold clusterImageLifeCycle at starts
  dsimp only at starts
  iterate 3
    split at starts
    · cases starts
  rename_i held
  rw [getCondition_withReadyCondition (by decide)] at held
  refine ⟨not_not.mp held, ?_⟩
  iterate 3
    split at starts
    · cases starts
  rw [← isImageProvisioningFinished_withReadyCondition cvi.generation]
  exact syncToRegistry_starts starts

theorem reconcileImage_starts (starts : (reconcileImage answers c ref copy vi).2) :
    validate c vi.ns ref.name vi.phase = none ∧
      isImageProvisioningFinished (readyCondition vi.conditions) = false := by
  obtain ⟨held, unfinished⟩ := imageLifeCycle_starts starts
  unfold imageDatasourceHandler at held unfinished
  split at held
  · simp [setImageFinding, unknown, toCondition] at held
  rename_i read
  rw [if_neg read] at unfinished
  simp only [setImageFinding, getCondition_setFinding, toCondition] at held
  refine ⟨datasourceFinding_true held, ?_⟩
  rwa [setImageFinding, readyCondition, getCondition_setFinding_other (by decide)] at unfinished

theorem reconcileClusterImage_starts {cvi : ClusterVirtualImage}
    (starts : (reconcileClusterImage answers c ref copy cvi).2) : validate c ref.ns ref.name cvi.phase = none ∧
      isImageProvisioningFinished (readyCondition cvi.conditions) = false := by
  obtain ⟨held, unfinished⟩ := clusterImageLifeCycle_starts starts
  unfold clusterImageDatasourceHandler at held unfinished
  split at held
  · simp [setClusterImageFinding, unknown, toCondition] at held
  rename_i read
  rw [if_neg read] at unfinished
  simp only [setClusterImageFinding, getCondition_setFinding, toCondition] at held
  refine ⟨datasourceFinding_true held, ?_⟩
  rwa [setClusterImageFinding, readyCondition, getCondition_setFinding_other (by decide)] at unfinished

end

end Virtualization.Image
