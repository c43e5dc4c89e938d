import Virtualization.Library.Propagation
import Virtualization.Reconcile.Resource

/-! Labels and annotations of a VirtualMachine on the KubeVirt objects that run it. -/

namespace Virtualization.Machine.Metadata

open Library Reconcile

def inhibitNodeShutdownLabel : String := "pod.deckhouse.io/inhibit-node-shutdown"
def quotaDiscountCPU : String := "resource-quota-overrides.deckhouse.io/discount-cpu"
def quotaDiscountMemory : String := "resource-quota-overrides.deckhouse.io/discount-memory"

def annAPIGroup : String := "internal.virtualization.deckhouse.io"
def annAPIGroupLegacy : String := "virt.deckhouse.io"

def lastPropagatedKeys : List String :=
  [annAPIGroup ++ "/last-propagated-vm-annotations", annAPIGroupLegacy ++ "/last-propagated-vm-annotations",
    annAPIGroup ++ "/last-propagated-vm-labels", annAPIGroupLegacy ++ "/last-propagated-vm-labels"]

structure VM where
  deleting : Bool
  (labels annotations : StringMap)
  (cpuOverhead memoryOverhead : Option String)

def reservedLabel (key : String) : Bool := key ∈ [inhibitNodeShutdownLabel, quotaDiscountCPU, quotaDiscountMemory]

def nonPropagatable (key : String) : Bool :=
  key ∈ lastPropagatedKeys || "kubectl.kubernetes.io".toList.isPrefixOf key.toList

def removeNonPropagatableAnnotations (anno : StringMap) : StringMap := filterKeys (fun key => !nonPropagatable key) anno

def withLabel (key : String) (value : Option String) (labels : StringMap) : StringMap :=
  match value with
  | none => labels
  | some value => labels.insert key value

variable (vm : VM)

def propagateLabels : StringMap :=
  withLabel quotaDiscountMemory vm.memoryOverhead
    (withLabel quotaDiscountCPU vm.cpuOverhead (vm.labels.insert inhibitNodeShutdownLabel ""))

structure Target where
  (labels annotations : Receiver String String)
deriving DecidableEq

def Target.fresh (labels annotations : StringMap) : Target := ⟨.fresh labels, .fresh annotations⟩

/-- A KubeVirt VirtualMachine. Four of its annotations hold a JSON with a map; they are kept as the maps. -/
structure KVVM where
  target : Target
  (templateLabels templateAnnotations : StringMap)
  lastPropagatedLabels : Option StringMap
  lastPropagatedLabelsLegacy : Option StringMap
  lastPropagatedAnnotations : Option StringMap
  lastPropagatedAnnotationsLegacy : Option StringMap
deriving DecidableEq

variable (kvvm : KVVM)

def getLastPropagatedLabels : StringMap :=
  (kvvm.lastPropagatedLabels <|> kvvm.lastPropagatedLabelsLegacy).getD ∅

def getLastPropagatedAnnotations : StringMap :=
  (kvvm.lastPropagatedAnnotations <|> kvvm.lastPropagatedAnnotationsLegacy).getD ∅

def applyMapChanges (target prev cur : StringMap) : StringMap × Bool := mergeChanges target prev cur

def propagateVMMetadata (object : Target) : StringMap × StringMap × Bool :=
  let (newLabels, labelsChanged) :=
    applyMapChanges object.labels.map (getLastPropagatedLabels kvvm) (propagateLabels vm)
  let (newAnno, annoChanged) :=
    applyMapChanges object.annotations.map (getLastPropagatedAnnotations kvvm)
      (removeNonPropagatableAnnotations vm.annotations)
  (newLabels, newAnno, labelsChanged || annoChanged)

inductive Reply where
  | ok | failed | lost | notFound
deriving DecidableEq

variable (reply : Reply)

def Target.withMetadata (newLabels newAnno : StringMap) (object : Target) : Target where
  labels := { object.labels with map := newLabels, given := object.labels.given ∪ vm.labels.keys }
  annotations := { object.annotations with map := newAnno, given := object.annotations.given ∪ vm.annotations.keys }

/-- A JSON patch tests and replaces both maps, and empty maps are not there to be replaced. -/
def patchLabelsAndAnnotations {α : Type} (reply : Reply) (present : Bool) (old new : α) : α × Bool :=
  if !present then (old, false)
  else
    match reply with
    | .ok => (new, true)
    | .lost => (new, false)
    | .failed | .notFound => (old, false)

def Target.present (object : Target) : Bool := object.labels.map ≠ ∅ && object.annotations.map ≠ ∅

def propagateTo (object : Target) : Target × Bool :=
  let (newLabels, newAnno, metaUpdated) := propagateVMMetadata vm kvvm object
  let new := object.withMetadata vm newLabels newAnno
  if metaUpdated then patchLabelsAndAnnotations reply object.present object new else (new, true)

/-- An error that says that the KVVMI is not there is no error. -/
def propagateToKVVMI : Option Target → Option Target × Bool
  | none => (none, true)
  | some kvvmi =>
    if reply = .notFound then (none, true)
    else
      let (kvvmi, ok) := propagateTo vm kvvm reply kvvmi
      (some kvvmi, ok)

inductive PodPhase where
  | pending | running | succeeded | failed | unknown
deriving DecidableEq

structure Pod where
  name : String
  phase : PodPhase
  target : Target
deriving DecidableEq

def propagateToPods (vm : VM) (kvvm : KVVM) (replies : String → Reply) : List Pod → List Pod × Bool
  | [] => ([], true)
  | pod :: pods =>
    if pod.phase ≠ .running then
      let (rest, ok) := propagateToPods vm kvvm replies pods
      (pod :: rest, ok)
    else
      match propagateTo vm kvvm (replies pod.name) pod.target with
      | (target, false) => ({ pod with target } :: pods, false)
      | (target, true) =>
        let (rest, ok) := propagateToPods vm kvvm replies pods
        ({ pod with target } :: rest, ok)

def skipPodSecurityStandardsCheckLabel : String := "security.deckhouse.io/skip-pss-check"

def lastAppliedSpecKeys : List String :=
  [annAPIGroup ++ "/vm.last-applied-spec", annAPIGroupLegacy ++ "/vm.last-applied-spec",
    annAPIGroup ++ "/vmclass.last-applied-spec", annAPIGroupLegacy ++ "/vmclass.last-applied-spec"]

/-- Annotations that the builder of the KVVM sets. The second and the fourth key are constants of KubeVirt. -/
def annotationsToKeep : List String :=
  ["network.deckhouse.io/networks-spec", "kubevirt.io/allow-pod-bridge-network-live-migration",
    "cni.cilium.io/ipAddress", "kubevirt.io/usb-migration-strategy", annAPIGroup ++ "/cpu-resources-requests-fraction",
    annAPIGroup ++ "/vcpu-topology-dynamic-cores"]

def updateKVVMSpecTemplateMetadataLabels (currLabels newLabels : StringMap) : StringMap :=
  withLabel skipPodSecurityStandardsCheckLabel (currLabels.lookup skipPodSecurityStandardsCheckLabel) newLabels

def updateKVVMSpecTemplateMetadataAnnotations (currAnno newAnno : StringMap) : StringMap :=
  let res := filterKeys (· ∉ lastAppliedSpecKeys) newAnno
  removeNonPropagatableAnnotations
    (annotationsToKeep.foldl (fun res keepAnno => withLabel keepAnno (currAnno.lookup keepAnno) res) res)

def KVVM.present : Bool :=
  kvvm.target.labels.map ≠ ∅ && (kvvm.target.annotations.map ≠ ∅ || kvvm.lastPropagatedLabels.isSome ||
    kvvm.lastPropagatedLabelsLegacy.isSome || kvvm.lastPropagatedAnnotations.isSome ||
    kvvm.lastPropagatedAnnotationsLegacy.isSome) &&
    kvvm.templateLabels ≠ ∅ && kvvm.templateAnnotations ≠ ∅

def KVVM.withMetadata (newLabels newAnno : StringMap) (kvvm : KVVM) : KVVM :=
  { kvvm with
    target := kvvm.target.withMetadata vm newLabels newAnno
    templateLabels := updateKVVMSpecTemplateMetadataLabels kvvm.templateLabels newLabels
    templateAnnotations := updateKVVMSpecTemplateMetadataAnnotations kvvm.templateAnnotations newAnno
    lastPropagatedLabels := some vm.labels
    lastPropagatedAnnotations := some (removeNonPropagatableAnnotations vm.annotations) }

def propagateToKVVM : KVVM × Bool :=
  let (newLabels, newAnno, kvvmMetaUpdated) := propagateVMMetadata vm kvvm kvvm.target
  let labelsChanged : Bool := kvvm.lastPropagatedLabels ≠ some vm.labels
  let annosChanged : Bool := kvvm.lastPropagatedAnnotations ≠ some (removeNonPropagatableAnnotations vm.annotations)
  if labelsChanged || annosChanged || kvvmMetaUpdated then
    patchLabelsAndAnnotations reply kvvm.present kvvm (kvvm.withMetadata vm newLabels newAnno)
  else ({ kvvm with target := kvvm.target.withMetadata vm newLabels newAnno }, true)

structure Replies where
  kvvmi : Reply
  pods : String → Reply
  kvvm : Reply

inductive Outcome where
  | skipped | failed | propagated
deriving DecidableEq

structure Objects where
  kvvm : Option KVVM
  kvvmi : Option Target
  pods : List Pod
deriving DecidableEq

def handle (replies : Replies) (objects : Objects) : Objects × Outcome :=
  if vm.deleting then (objects, .skipped)
  else
    match objects.kvvm with
    | none => (objects, .skipped)
    | some kvvm =>
      match propagateToKVVMI vm kvvm replies.kvvmi objects.kvvmi with
      | (kvvmi, false) => ({ objects with kvvmi }, .failed)
      | (kvvmi, true) =>
        match propagateToPods vm kvvm replies.pods objects.pods with
        | (pods, false) => ({ objects with kvvmi, pods }, .failed)
        | (pods, true) =>
          match propagateToKVVM vm kvvm replies.kvvm with
          | (kvvm, false) => ({ kvvm := some kvvm, kvvmi, pods }, .failed)
          | (kvvm, true) => ({ kvvm := some kvvm, kvvmi, pods }, .propagated)

end Virtualization.Machine.Metadata
