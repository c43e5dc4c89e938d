import Virtualization.Library.Run
import Virtualization.Machine.Metadata

namespace Virtualization.Machine.Metadata

open Finmap Library List Reconcile Target

structure World where
  vm : VM
  objects : Objects
  (everLabels everAnnotations : Finset String)
  passed : Bool

inductive Event where
  | edit (labels annotations : StringMap)
  | resize (cpuOverhead memoryOverhead : Option String)
  | createKVVMI (labels annotations : StringMap)
  | kvvmiGone
  | createPod (name : String) (phase : PodPhase) (labels annotations : StringMap)
  | setPhase (name : String) (phase : PodPhase)
  | podGone (name : String)
  | pass (replies : Replies)

def setPodPhase (name : String) (phase : PodPhase) (pods : List Pod) : List Pod :=
  pods.map fun pod => if pod.name = name then { pod with phase } else pod

def step (w : World) : Event → Option World
  | .edit labels annotations =>
    some { w with
      vm := { w.vm with labels, annotations }
      everLabels := w.everLabels ∪ labels.keys
      everAnnotations := w.everAnnotations ∪ annotations.keys
      passed := false }
  | .resize cpuOverhead memoryOverhead =>
    some { w with vm := { w.vm with cpuOverhead, memoryOverhead }, passed := false }
  | .createKVVMI labels annotations =>
    if w.objects.kvvmi.isSome then none
    else some { w with
      objects.kvvmi := some (.fresh labels annotations)
      passed := false }
  | .kvvmiGone => some { w with objects.kvvmi := none, passed := false }
  | .createPod name phase labels annotations =>
    if w.objects.pods.any (·.name = name) then none
    else some { w with
      objects := { w.objects with pods := w.objects.pods ++ [⟨name, phase, .fresh labels annotations⟩] }
      passed := false }
  | .setPhase name phase =>
    some { w with objects.pods := setPodPhase name phase w.objects.pods, passed := false }
  | .podGone name =>
    some { w with
      objects.pods := w.objects.pods.filter (·.name ≠ name)
      passed := false }
  | .pass replies =>
    let (objects, outcome) := handle w.vm replies w.objects
    some { w with objects, passed := outcome = .propagated }

/-- What an object was given and still has is the machine's, or is written down on the KVVM. -/
@[mk_iff] structure Target.Known (vm : VM) (lastLabels lastAnnotations : StringMap) (object : Target) : Prop where
  labels : object.labels.Remembered reservedLabel lastLabels vm.labels
  annotations : object.annotations.Remembered nonPropagatable lastAnnotations vm.annotations

instance (vm : VM) (lastLabels lastAnnotations : StringMap) (object : Target) :
    Decidable (object.Known vm lastLabels lastAnnotations) := decidable_of_iff' _ (Target.known_iff ..)

def Objects.lastLabels (objects : Objects) : StringMap := objects.kvvm.elim ∅ getLastPropagatedLabels

def Objects.lastAnnotations (objects : Objects) : StringMap := objects.kvvm.elim ∅ getLastPropagatedAnnotations

/-- The objects that a pass updates. -/
def Objects.updated (objects : Objects) : List Target :=
  (objects.kvvm.map KVVM.target).toList ++ objects.kvvmi.toList ++
    (objects.pods.filter (·.phase = .running)).map Pod.target

theorem Objects.forall_updated {objects : Objects} {p : Target → Prop} : (∀ object ∈ objects.updated, p object) ↔
    (∀ kvvm, objects.kvvm = some kvvm → p kvvm.target) ∧ (∀ kvvmi, objects.kvvmi = some kvvmi → p kvvmi) ∧
      ∀ pod ∈ objects.pods, pod.phase = .running → p pod.target := by
  rw [updated, forall_mem_append, forall_mem_append, forall_mem_map, and_assoc]
  simp

/-- An edit withdraws what the objects were given only after it was written down, and no pod that becomes Running still
    has what was withdrawn without it. -/
def orderly (w : World) : Event → Bool
  | .edit labels annotations => w.objects.updated.all fun object =>
    object.Known { w.vm with labels, annotations } w.objects.lastLabels w.objects.lastAnnotations
  | .setPhase name phase => phase ≠ .running || w.objects.pods.all fun pod =>
    pod.name ≠ name || pod.target.Known w.vm w.objects.lastLabels w.objects.lastAnnotations
  | _ => true

def World.start (vm : VM) (kvvm : Option KVVM) (kvvmi : Option (StringMap × StringMap))
    (pods : List (String × PodPhase × StringMap × StringMap)) : World where
  vm
  objects :=
    { kvvm := kvvm.map fun kvvm =>
        { kvvm with target := .fresh kvvm.target.labels.map kvvm.target.annotations.map }
      kvvmi := kvvmi.map fun (labels, annotations) => .fresh labels annotations
      pods := pods.map fun (name, phase, labels, annotations) => ⟨name, phase, .fresh labels annotations⟩ }
  everLabels := vm.labels.keys ∪ (kvvm.elim ∅ getLastPropagatedLabels).keys
  everAnnotations := vm.annotations.keys ∪ (kvvm.elim ∅ getLastPropagatedAnnotations).keys
  passed := false

structure Target.Current (vm : VM) (object : Target) : Prop where
  labels : object.labels.Settled reservedLabel vm.labels
  annotations : object.annotations.Settled nonPropagatable vm.annotations

structure Target.Foreign (everLabels everAnnotations : Finset String) (object : Target) : Prop where
  labels : object.labels.Untouched reservedLabel everLabels
  annotations : object.annotations.Untouched nonPropagatable everAnnotations

def Target.Synced (vm : VM) (everLabels everAnnotations : Finset String) (object : Target) : Prop :=
  object.Current vm ∧ object.Foreign everLabels everAnnotations

structure World.Synced (w : World) : Prop where
  kvvm : ∀ kvvm, w.objects.kvvm = some kvvm → kvvm.target.Synced w.vm w.everLabels w.everAnnotations
  kvvmi : ∀ kvvmi, w.objects.kvvmi = some kvvmi → kvvmi.Synced w.vm w.everLabels w.everAnnotations
  pods : ∀ pod ∈ w.objects.pods, pod.phase = .running → pod.target.Synced w.vm w.everLabels w.everAnnotations

theorem lookup_propagateLabels (vm : VM) (key : String) (free : reservedLabel key = false) :
    (propagateLabels vm).lookup key = vm.labels.lookup key := by
  simp only [reservedLabel, mem_cons, not_mem_nil, or_false, decide_eq_false_iff_not, not_or] at free
  obtain ⟨notShutdown, notCPU, notMemory⟩ := free
  have other : ∀ name value labels, key ≠ name → (withLabel name value labels).lookup key = labels.lookup key := by
    intro name value labels different
    cases value with
    | none => rfl
    | some => exact lookup_insert_of_ne _ different
  rw [propagateLabels, other _ _ _ notMemory, other _ _ _ notCPU, lookup_insert_of_ne _ notShutdown]

theorem lookup_removeNonPropagatable (anno : StringMap) (key : String) (free : nonPropagatable key = false) :
    (removeNonPropagatableAnnotations anno).lookup key = anno.lookup key := by
  rw [removeNonPropagatableAnnotations, lookup_filterKeys, free]
  rfl

section Receive

variable {vm : VM} {kvvm : KVVM} {object : Target} {everLabels everAnnotations : Finset String}
  {lastLabels lastAnnotations : StringMap}

def Target.receive (vm : VM) (kvvm : KVVM) (object : Target) : Target where
  labels := object.labels.receive (getLastPropagatedLabels kvvm) (propagateLabels vm) vm.labels.keys
  annotations := object.annotations.receive (getLastPropagatedAnnotations kvvm)
    (removeNonPropagatableAnnotations vm.annotations) vm.annotations.keys

theorem Target.Known.receive
    (known : object.Known vm (getLastPropagatedLabels kvvm) (getLastPropagatedAnnotations kvvm)) :
    (object.receive vm kvvm).Current vm where
  labels := known.labels.receive (lookup_propagateLabels vm)
  annotations := known.annotations.receive (lookup_removeNonPropagatable vm.annotations)

theorem Target.Foreign.receive (foreign : object.Foreign everLabels everAnnotations)
    (labels : vm.labels.keys ⊆ everLabels) (annotations : vm.annotations.keys ⊆ everAnnotations)
    (lastLabels : (getLastPropagatedLabels kvvm).keys ⊆ everLabels)
    (lastAnnotations : (getLastPropagatedAnnotations kvvm).keys ⊆ everAnnotations) :
    (object.receive vm kvvm).Foreign everLabels everAnnotations where
  labels := foreign.labels.receive (lookup_propagateLabels vm) labels lastLabels _
  annotations :=
    foreign.annotations.receive (lookup_removeNonPropagatable vm.annotations) annotations lastAnnotations _

theorem Target.Current.known (current : object.Current vm) : object.Known vm lastLabels lastAnnotations :=
  ⟨current.labels.remembered, current.annotations.remembered⟩

theorem Target.Foreign.mono {moreLabels moreAnnotations : Finset String}
    (foreign : object.Foreign everLabels everAnnotations) (labels : everLabels ⊆ moreLabels)
    (annotations : everAnnotations ⊆ moreAnnotations) : object.Foreign moreLabels moreAnnotations :=
  ⟨foreign.labels.mono labels, foreign.annotations.mono annotations⟩

theorem Target.known_fresh (labels annotations : StringMap) :
    (fresh labels annotations).Known vm lastLabels lastAnnotations :=
  ⟨Receiver.remembered_fresh labels, Receiver.remembered_fresh annotations⟩

theorem Target.foreign_fresh (labels annotations : StringMap) :
    (fresh labels annotations).Foreign everLabels everAnnotations :=
  ⟨Receiver.untouched_fresh labels, Receiver.untouched_fresh annotations⟩

end Receive

section Pass

variable {vm : VM} {kvvm : KVVM} {objects : Objects} {reply : Reply}

theorem patch_cases {α : Type} (reply : Reply) (present : Bool) (old new : α) :
    patchLabelsAndAnnotations reply present old new = (old, false) ∨
      (patchLabelsAndAnnotations reply present old new).1 = new := by
  cases present with
  | false => exact .inl rfl
  | true =>
    cases reply with
    | ok | lost => exact .inr rfl
    | failed | notFound => exact .inl rfl

theorem propagateTo_cases (vm : VM) (kvvm : KVVM) (reply : Reply) (object : Target) :
    propagateTo vm kvvm reply object = (object, false) ∨
      (propagateTo vm kvvm reply object).1 = object.receive vm kvvm := by
  unfold propagateTo
  dsimp only
  split
  · exact patch_cases ..
  · exact .inr rfl

theorem propagateTo_ok {object : Target} (ok : (propagateTo vm kvvm reply object).2) :
    (propagateTo vm kvvm reply object).1 = object.receive vm kvvm :=
  (propagateTo_cases vm kvvm reply object).resolve_left fun refused => by
    rw [refused] at ok
    cases ok

theorem propagateToKVVMI_ok {kvvmi : Option Target} (ok : (propagateToKVVMI vm kvvm reply kvvmi).2) :
    (propagateToKVVMI vm kvvm reply kvvmi).1 = none ∨
      (propagateToKVVMI vm kvvm reply kvvmi).1 = kvvmi.map (·.receive vm kvvm) := by
  cases kvvmi with
  | none => exact .inl rfl
  | some =>
    unfold propagateToKVVMI at ok ⊢
    dsimp only at ok ⊢
    split at ok
    · rename_i gone
      rw [if_pos gone]
      exact .inl rfl
    rename_i there
    rw [if_neg there]
    exact .inr (congrArg some (propagateTo_ok ok))

def Pod.receive (vm : VM) (kvvm : KVVM) (pod : Pod) : Pod :=
  if pod.phase = .running then { pod with target := pod.target.receive vm kvvm } else pod

theorem propagateToPods_ok {replies : String → Reply} {pods : List Pod}
    (ok : (propagateToPods vm kvvm replies pods).2) :
    (propagateToPods vm kvvm replies pods).1 = pods.map (Pod.receive vm kvvm) := by
  induction pods with
  | nil => rfl
  | cons pod _ ih =>
    rw [map_cons, Pod.receive]
    unfold propagateToPods at ok ⊢
    split at ok
    · rename_i skipped
      rw [if_pos skipped, if_neg skipped]
      exact congrArg (pod :: ·) (ih ok)
    rename_i running
    rw [if_neg running, if_pos (not_not.mp running)]
    split at ok
    · cases ok
    rename_i propagated
    have given := propagateTo_ok (congrArg Prod.snd propagated)
    rw [propagated] at given
    rw [← given]
    exact congrArg (_ :: ·) (ih ok)

theorem propagateToKVVM_cases (vm : VM) (kvvm : KVVM) (reply : Reply) :
    propagateToKVVM vm kvvm reply = (kvvm, false) ∨
      (propagateToKVVM vm kvvm reply).1.target = kvvm.target.receive vm kvvm ∧
      (propagateToKVVM vm kvvm reply).1.lastPropagatedLabels = some vm.labels ∧
      (propagateToKVVM vm kvvm reply).1.lastPropagatedAnnotations =
        some (removeNonPropagatableAnnotations vm.annotations) := by
  unfold propagateToKVVM
  dsimp only
  split
  · refine (patch_cases ..).imp_right fun patched => ?_
    rw [patched]
    exact ⟨rfl, rfl, rfl⟩
  rename_i same
  simp only [Bool.or_eq_true, decide_eq_true_eq, not_or, not_not] at same
  exact .inr ⟨rfl, same.1.1, same.1.2⟩

theorem propagateToKVVMI_cases (vm : VM) (kvvm : KVVM) (reply : Reply) (kvvmi : Option Target) :
    ∀ new ∈ (propagateToKVVMI vm kvvm reply kvvmi).1, ∃ old ∈ kvvmi, new = old ∨ new = old.receive vm kvvm := by
  cases kvvmi with
  | none => nofun
  | some old =>
    intro new isNew
    refine ⟨old, rfl, ?_⟩
    unfold propagateToKVVMI at isNew
    dsimp only at isNew
    split at isNew
    · cases isNew
    · cases isNew
      exact (propagateTo_cases vm kvvm reply old).imp (congrArg Prod.fst) id

theorem propagateToPods_cases (vm : VM) (kvvm : KVVM) (replies : String → Reply) (pods : List Pod) :
    ∀ new ∈ (propagateToPods vm kvvm replies pods).1, ∃ old ∈ pods, new = old ∨ new = old.receive vm kvvm := by
  induction pods with
  | nil => nofun
  | cons pod pods ih =>
    have later : ∀ new ∈ (propagateToPods vm kvvm replies pods).1,
        ∃ old ∈ pod :: pods, new = old ∨ new = old.receive vm kvvm := fun new member => by
      obtain ⟨old, listed, either⟩ := ih new member
      exact ⟨old, mem_cons_of_mem _ listed, either⟩
    intro new member
    unfold propagateToPods at member
    split at member
    · rcases mem_cons.mp member with rfl | after
      · exact ⟨_, mem_cons_self, .inl rfl⟩
      · exact later new after
    rename_i running
    have received := propagateTo_cases vm kvvm (replies pod.name) pod.target
    have own (target : Target) (is : (propagateTo vm kvvm (replies pod.name) pod.target).1 = target) :
        ({ pod with target } : Pod) = pod ∨ { pod with target } = pod.receive vm kvvm := by
      rw [Pod.receive, if_pos (not_not.mp running), ← is]
      refine received.imp (fun refused => ?_) fun given => ?_
      · rw [refused]
      · rw [given]
    split at member <;> rename_i outcome <;> have own := own _ (congrArg Prod.fst outcome)
    · rcases mem_cons.mp member with rfl | after
      · exact ⟨pod, mem_cons_self, own⟩
      · exact ⟨new, mem_cons_of_mem _ after, .inl rfl⟩
    · rcases mem_cons.mp member with rfl | after
      · exact ⟨pod, mem_cons_self, own⟩
      · exact later new after

/-- A pass that fails has given what the machine has to some of the objects, and has written nothing down. -/
structure Touched (vm : VM) (old : KVVM) (before after : Objects) : Prop where
  kvvm : after.kvvm = some old
  kvvmi : ∀ new ∈ after.kvvmi, ∃ kvvmi ∈ before.kvvmi, new = kvvmi ∨ new = kvvmi.receive vm old
  pods : ∀ new ∈ after.pods, ∃ pod ∈ before.pods, new = pod ∨ new = pod.receive vm old

structure Propagated (vm : VM) (old : KVVM) (before after : Objects) : Prop where
  kvvm : ∃ new, after.kvvm = some new ∧ new.target = old.target.receive vm old ∧
    new.lastPropagatedLabels = some vm.labels ∧
    new.lastPropagatedAnnotations = some (removeNonPropagatableAnnotations vm.annotations)
  kvvmi : after.kvvmi = none ∨ after.kvvmi = before.kvvmi.map (·.receive vm old)
  pods : after.pods = before.pods.map (Pod.receive vm old)

theorem keys_removeNonPropagatableAnnotations (annotations : StringMap) :
    (removeNonPropagatableAnnotations annotations).keys ⊆ annotations.keys := by
  intro key member
  rw [Finmap.mem_keys, ← Finmap.lookup_isSome, removeNonPropagatableAnnotations, lookup_filterKeys] at member
  rw [Finmap.mem_keys, ← Finmap.lookup_isSome]
  split at member
  · exact member
  · cases member

theorem Propagated.lastPropagated {old : KVVM} {before after : Objects} (passes : Propagated vm old before after) :
    after.lastLabels = vm.labels ∧ after.lastAnnotations = removeNonPropagatableAnnotations vm.annotations := by
  obtain ⟨new, isNew, -, labels, annotations⟩ := passes.kvvm
  constructor
  · rw [Objects.lastLabels, isNew]
    change getLastPropagatedLabels new = _
    rw [getLastPropagatedLabels, labels]
    rfl
  · rw [Objects.lastAnnotations, isNew]
    change getLastPropagatedAnnotations new = _
    rw [getLastPropagatedAnnotations, annotations]
    rfl

theorem handle_cases (vm : VM) (replies : Replies) (objects : Objects) :
    handle vm replies objects = (objects, .skipped) ∨
      ∃ kvvm, objects.kvvm = some kvvm ∧
        ((handle vm replies objects).2 = .failed ∧ Touched vm kvvm objects (handle vm replies objects).1 ∨
          Propagated vm kvvm objects (handle vm replies objects).1) := by
  unfold handle
  split
  · exact .inl rfl
  split
  · exact .inl rfl
  rename_i kvvm found
  refine .inr ⟨kvvm, found, ?_⟩
  have kvvmis := propagateToKVVMI_cases vm kvvm replies.kvvmi objects.kvvmi
  split <;> rename_i toKVVMI <;> rw [toKVVMI] at kvvmis
  · exact .inl ⟨rfl, found, kvvmis, fun pod listed => ⟨pod, listed, .inl rfl⟩⟩
  have pods := propagateToPods_cases vm kvvm replies.pods objects.pods
  split <;> rename_i toPods <;> rw [toPods] at pods
  · exact .inl ⟨rfl, found, kvvmis, pods⟩
  have first := propagateToKVVMI_ok (congrArg Prod.snd toKVVMI)
  have second := propagateToPods_ok (congrArg Prod.snd toPods)
  have third := propagateToKVVM_cases vm kvvm replies.kvvm
  rw [toKVVMI] at first
  rw [toPods] at second
  split <;> rename_i toKVVM <;> rw [toKVVM] at third
  · -- The patch of the KVVM is refused, or only its answer is lost.
    refine third.imp (fun refused => ⟨rfl, ?_, kvvmis, pods⟩) fun given => ⟨⟨_, rfl, given⟩, first, second⟩
    exact congrArg some (congrArg Prod.fst refused)
  · exact .inr ⟨⟨_, rfl, third.resolve_left (by simp)⟩, first, second⟩

end Pass

theorem Target.Known.current {vm : VM} {objects : Objects} {old : KVVM} {object : Target}
    (known : object.Known vm objects.lastLabels objects.lastAnnotations) (found : objects.kvvm = some old) :
    (object.receive vm old).Current vm := by
  rw [Objects.lastLabels, Objects.lastAnnotations, found] at known
  exact known.receive

structure Inv (w : World) : Prop where
  kvvm : ∀ kvvm, w.objects.kvvm = some kvvm → kvvm.target.Known w.vm w.objects.lastLabels w.objects.lastAnnotations ∧
    kvvm.target.Foreign w.everLabels w.everAnnotations
  kvvmi : ∀ kvvmi, w.objects.kvvmi = some kvvmi → kvvmi.Known w.vm w.objects.lastLabels w.objects.lastAnnotations ∧
    kvvmi.Foreign w.everLabels w.everAnnotations
  pods : ∀ pod ∈ w.objects.pods, pod.target.Foreign w.everLabels w.everAnnotations
  running : ∀ pod ∈ w.objects.pods, pod.phase = .running →
    pod.target.Known w.vm w.objects.lastLabels w.objects.lastAnnotations
  labels : w.vm.labels.keys ⊆ w.everLabels ∧ w.objects.lastLabels.keys ⊆ w.everLabels
  annotations : w.vm.annotations.keys ⊆ w.everAnnotations ∧ w.objects.lastAnnotations.keys ⊆ w.everAnnotations
  synced : w.passed → w.Synced

namespace Inv

variable {w : World}

section

variable (inv : Inv w)
include inv

theorem edit (labels annotations : StringMap)
    (known : ∀ object ∈ w.objects.updated,
      object.Known { w.vm with labels, annotations } w.objects.lastLabels w.objects.lastAnnotations) :
    Inv { w with
      vm := { w.vm with labels, annotations }
      everLabels := w.everLabels ∪ labels.keys
      everAnnotations := w.everAnnotations ∪ annotations.keys
      passed := false } where
  kvvm := fun kvvm found => ⟨(Objects.forall_updated.mp known).1 kvvm found,
    (inv.kvvm kvvm found).2.mono Finset.subset_union_left Finset.subset_union_left⟩
  kvvmi := fun kvvmi found => ⟨(Objects.forall_updated.mp known).2.1 kvvmi found,
    (inv.kvvmi kvvmi found).2.mono Finset.subset_union_left Finset.subset_union_left⟩
  pods := fun pod member => (inv.pods pod member).mono Finset.subset_union_left Finset.subset_union_left
  running := (Objects.forall_updated.mp known).2.2
  labels := ⟨Finset.subset_union_right, inv.labels.2.trans Finset.subset_union_left⟩
  annotations := ⟨Finset.subset_union_right, inv.annotations.2.trans Finset.subset_union_left⟩
  synced := nofun

theorem createKVVMI (labels annotations : StringMap) : Inv { w with
      objects.kvvmi := some (.fresh labels annotations)
      passed := false } :=
  { inv with
    kvvmi := fun kvvmi found => by
      cases found
      exact ⟨known_fresh .., foreign_fresh ..⟩
    synced := nofun }

theorem withPods {pods : List Pod} (foreign : ∀ pod ∈ pods, pod.target.Foreign w.everLabels w.everAnnotations)
    (running : ∀ pod ∈ pods, pod.phase = .running →
      pod.target.Known w.vm w.objects.lastLabels w.objects.lastAnnotations) :
    Inv { w with objects := { w.objects with pods }, passed := false } :=
  { inv with pods := foreign, running, synced := nofun }

theorem createPod (name : String) (phase : PodPhase) (labels annotations : StringMap) : Inv { w with
      objects := { w.objects with pods := w.objects.pods ++ [⟨name, phase, .fresh labels annotations⟩] }
      passed := false } := by
  refine inv.withPods (fun pod member => ?_) fun pod member is => ?_
  all_goals rcases mem_append.mp member with before | new
  · exact inv.pods pod before
  · rw [mem_singleton.mp new]
    exact foreign_fresh ..
  · exact inv.running pod before is
  · rw [mem_singleton.mp new]
    exact known_fresh ..

theorem setPhase (name : String) (phase : PodPhase)
    (known : phase = .running → ∀ pod ∈ w.objects.pods, pod.name = name →
      pod.target.Known w.vm w.objects.lastLabels w.objects.lastAnnotations) :
    Inv { w with objects.pods := setPodPhase name phase w.objects.pods, passed := false } := by
  refine inv.withPods (fun pod member => ?_) fun pod member is => ?_
  all_goals obtain ⟨old, before, rfl⟩ := mem_map.mp member
  · split <;> exact inv.pods old before
  · split at is
    · rename_i named
      rw [if_pos named]
      exact known is old before named
    · rename_i other
      rw [if_neg other]
      exact inv.running old before is

theorem foreign {old : KVVM} (found : w.objects.kvvm = some old) {object : Target}
    (foreign : object.Foreign w.everLabels w.everAnnotations) :
    (object.receive w.vm old).Foreign w.everLabels w.everAnnotations := by
  have labels := inv.labels
  have annotations := inv.annotations
  rw [Objects.lastLabels, found] at labels
  rw [Objects.lastAnnotations, found] at annotations
  exact foreign.receive labels.1 annotations.1 labels.2 annotations.2

theorem touched {old : KVVM} {after : Objects} (found : w.objects.kvvm = some old)
    (touches : Touched w.vm old w.objects after) : Inv { w with objects := after, passed := false } := by
  have same : after.kvvm = w.objects.kvvm := touches.kvvm.trans found.symm
  have lastLabels : after.lastLabels = w.objects.lastLabels := by rw [Objects.lastLabels, same, Objects.lastLabels]
  have lastAnnotations : after.lastAnnotations = w.objects.lastAnnotations := by
    rw [Objects.lastAnnotations, same, Objects.lastAnnotations]
  refine ⟨?_, ?_, ?_, ?_, ?_, ?_, nofun⟩ <;> dsimp only
  · rw [same, lastLabels, lastAnnotations]
    exact inv.kvvm
  · intro kvvmi is
    obtain ⟨before, wasThere, rfl | rfl⟩ := touches.kvvmi kvvmi is
    · rw [lastLabels, lastAnnotations]
      exact inv.kvvmi _ wasThere
    · obtain ⟨known, strange⟩ := inv.kvvmi before wasThere
      exact ⟨(known.current found).known, inv.foreign found strange⟩
  · intro pod member
    obtain ⟨before, wasThere, rfl | rfl⟩ := touches.pods pod member
    · exact inv.pods _ wasThere
    unfold Pod.receive
    split
    · exact inv.foreign found (inv.pods before wasThere)
    · exact inv.pods before wasThere
  · intro pod member running
    obtain ⟨before, wasThere, rfl | rfl⟩ := touches.pods pod member
    · rw [lastLabels, lastAnnotations]
      exact inv.running _ wasThere running
    rw [Pod.receive] at running ⊢
    split at running <;> rename_i phase
    · rw [if_pos phase]
      exact ((inv.running before wasThere phase).current found).known
    · exact absurd running phase
  · rw [lastLabels]
    exact inv.labels
  · rw [lastAnnotations]
    exact inv.annotations

theorem propagated {old : KVVM} {after : Objects} (found : w.objects.kvvm = some old)
    (passes : Propagated w.vm old w.objects after) (passed : Bool) : Inv { w with objects := after, passed } := by
  obtain ⟨new, isNew, newTarget, -⟩ := passes.kvvm
  obtain ⟨afterLabels, afterAnnotations⟩ := passes.lastPropagated
  have kvvm : ∀ kvvm, after.kvvm = some kvvm → kvvm.target.Current w.vm ∧
      kvvm.target.Foreign w.everLabels w.everAnnotations := by
    intro kvvm is
    cases isNew.symm.trans is
    rw [newTarget]
    exact ⟨(inv.kvvm old found).1.current found, inv.foreign found (inv.kvvm old found).2⟩
  have kvvmi : ∀ kvvmi, after.kvvmi = some kvvmi → kvvmi.Current w.vm ∧
      kvvmi.Foreign w.everLabels w.everAnnotations := by
    intro kvvmi is
    rcases passes.kvvmi with gone | given
    · rw [gone] at is
      cases is
    rw [given] at is
    obtain ⟨before, wasThere, rfl⟩ := Option.map_eq_some_iff.mp is
    exact ⟨(inv.kvvmi before wasThere).1.current found, inv.foreign found (inv.kvvmi before wasThere).2⟩
  have pods : ∀ pod ∈ after.pods, pod.target.Foreign w.everLabels w.everAnnotations ∧
      (pod.phase = .running → pod.target.Current w.vm) := by
    intro pod member
    rw [passes.pods] at member
    obtain ⟨before, wasThere, rfl⟩ := mem_map.mp member
    unfold Pod.receive
    split
    · rename_i running
      exact ⟨inv.foreign found (inv.pods before wasThere), fun _ => (inv.running before wasThere running).current found⟩
    · rename_i resting
      exact ⟨inv.pods before wasThere, fun running => absurd running resting⟩
  exact
    { kvvm := fun object is => ⟨(kvvm object is).1.known, (kvvm object is).2⟩
      kvvmi := fun object is => ⟨(kvvmi object is).1.known, (kvvmi object is).2⟩
      pods := fun pod member => (pods pod member).1
      running := fun pod member running => ((pods pod member).2 running).known
      labels := ⟨inv.labels.1, by rw [afterLabels]; exact inv.labels.1⟩
      annotations := ⟨inv.annotations.1, by
        rw [afterAnnotations]
        exact (keys_removeNonPropagatableAnnotations _).trans inv.annotations.1⟩
      synced := fun _ => ⟨kvvm, kvvmi, fun pod member running => ⟨(pods pod member).2 running, (pods pod member).1⟩⟩ }

theorem step {event : Event} {t : World} (isOrderly : orderly w event) (taken : step w event = some t) : Inv t := by
  cases event with
  | edit labels annotations =>
    cases taken
    simp only [orderly, all_eq_true, decide_eq_true_eq] at isOrderly
    exact inv.edit labels annotations isOrderly
  | resize =>
    cases taken
    exact { inv with
      kvvm := fun kvvm found => (inv.kvvm kvvm found).imp_left fun known => ⟨known.labels, known.annotations⟩
      kvvmi := fun kvvmi found => (inv.kvvmi kvvmi found).imp_left fun known => ⟨known.labels, known.annotations⟩
      running := fun pod member is => ⟨(inv.running pod member is).labels, (inv.running pod member is).annotations⟩
      synced := nofun }
  | createKVVMI labels annotations =>
    dsimp only [Metadata.step] at taken
    split at taken <;> cases taken
    exact inv.createKVVMI labels annotations
  | kvvmiGone =>
    cases taken
    exact { inv with kvvmi := nofun, synced := nofun }
  | createPod name phase labels annotations =>
    dsimp only [Metadata.step] at taken
    split at taken <;> cases taken
    exact inv.createPod name phase labels annotations
  | setPhase name phase =>
    cases taken
    refine inv.setPhase name phase fun running pod member named => ?_
    simp only [orderly, running, ne_eq, not_true_eq_false, decide_false, Bool.false_or, all_eq_true, Bool.or_eq_true,
      decide_eq_true_eq] at isOrderly
    exact (isOrderly pod member).resolve_left (not_not.mpr named)
  | podGone =>
    cases taken
    exact inv.withPods (fun pod member => inv.pods pod (mem_of_mem_filter member))
      fun pod member is => inv.running pod (mem_of_mem_filter member) is
  | pass replies =>
    have same : t = { w with
        objects := (handle w.vm replies w.objects).1
        passed := (handle w.vm replies w.objects).2 = .propagated } := (Option.some.inj taken).symm
    subst same
    rcases handle_cases w.vm replies w.objects with skipped | ⟨_, found, ⟨failed, touches⟩ | passes⟩
    · rw [skipped]
      exact { inv with synced := nofun }
    · rw [failed]
      exact inv.touched found touches
    · exact inv.propagated found passes _

end

theorem start (vm : VM) (kvvm : Option KVVM) (kvvmi : Option (StringMap × StringMap))
    (pods : List (String × PodPhase × StringMap × StringMap)) : Inv (.start vm kvvm kvvmi pods) where
  kvvm := by
    intro new found
    obtain ⟨_, -, rfl⟩ := Option.map_eq_some_iff.mp found
    exact ⟨known_fresh .., foreign_fresh ..⟩
  kvvmi := by
    intro new found
    obtain ⟨_, -, rfl⟩ := Option.map_eq_some_iff.mp found
    exact ⟨known_fresh .., foreign_fresh ..⟩
  pods := by
    intro pod member
    obtain ⟨_, -, rfl⟩ := mem_map.mp member
    exact foreign_fresh ..
  running := by
    intro pod member _
    obtain ⟨_, -, rfl⟩ := mem_map.mp member
    exact known_fresh ..
  labels := by
    refine ⟨Finset.subset_union_left, ?_⟩
    cases kvvm with
    | none | some kvvm => exact Finset.subset_union_right
  annotations := by
    refine ⟨Finset.subset_union_left, ?_⟩
    cases kvvm with
    | none | some kvvm => exact Finset.subset_union_right
  synced := nofun

end Inv

/-- After every pass that goes through, the objects carry the labels and annotations of the machine, nothing that was
    withdrawn, and what is not the machine's as it was. -/
theorem metadata_synced (vm : VM) (kvvm : Option KVVM) (kvvmi : Option (StringMap × StringMap))
    (pods : List (String × PodPhase × StringMap × StringMap)) (events : List Event) (w : World)
    (along : Along step (fun w event => orderly w event = true) (.start vm kvvm kvvmi pods) events)
    (reached : run step (.start vm kvvm kvvmi pods) events = some w) (passed : w.passed = true) : w.Synced := by
  have inv : Inv w :=
    run_invariant (fun _ _ _ inv isOrderly taken => inv.step isOrderly taken) (Inv.start vm kvvm kvvmi pods) along
      reached
  exact inv.synced passed

def single (key value : String) : StringMap := (∅ : StringMap).insert key value

def machine : VM := ⟨false, single "team" "a", ∅, none, none⟩

def builtKVVM : KVVM where
  target := .fresh (single "vm" "x") (single "built" "yes")
  templateLabels := single "vm" "x"
  templateAnnotations := single "built" "yes"
  lastPropagatedLabels := none
  lastPropagatedLabelsLegacy := none
  lastPropagatedAnnotations := none
  lastPropagatedAnnotationsLegacy := none

def instanceMetadata : StringMap × StringMap := (single "vm" "x", single "built" "yes")

def served : Replies := ⟨.ok, fun _ => .ok, .ok⟩

/-- The pod of a migration is Pending at the first pass, which fails at the KVVM. -/
def migration : List Event :=
  [.createPod "target" .pending (single "vm" "x") (single "built" "yes"), .pass { served with kvvm := .failed },
    .setPhase "target" .running, .pass served, .edit ∅ ∅, .pass served]

theorem metadata_synced_migration :
    ∃ w, run step (.start machine (some builtKVVM) (some instanceMetadata) [("source", .running, instanceMetadata)])
        migration = some w ∧
      w.Synced ∧ (w.objects.kvvmi.any fun kvvmi => "team" ∈ kvvmi.labels.given && "team" ∉ kvvmi.labels.map) ∧
      (w.objects.pods.all fun pod => "team" ∈ pod.target.labels.given && "team" ∉ pod.target.labels.map) ∧
      w.objects.pods.length = 2 := by
  refine exists_some_imp (p := fun w => w.passed = true ∧
    (w.objects.kvvmi.any fun kvvmi => "team" ∈ kvvmi.labels.given && "team" ∉ kvvmi.labels.map) ∧
    (w.objects.pods.all fun pod => "team" ∈ pod.target.labels.given && "team" ∉ pod.target.labels.map) ∧
    w.objects.pods.length = 2) (by decide +kernel) ?_
  rintro w reached ⟨passed, withdrawn⟩
  exact ⟨metadata_synced machine (some builtKVVM) (some instanceMetadata) _ _ w (by decide +kernel) reached passed,
    withdrawn⟩

/-- A pass gives a label to the KVVMI and then fails to write it down. The label is withdrawn from the machine, and the
    next pass, which goes through, leaves it on the KVVMI. -/
theorem withdrawn_label_stays : ∃ w, run step (.start machine (some builtKVVM) (some instanceMetadata) [])
        [.pass { served with kvvm := .failed }, .edit ∅ ∅, .pass served] = some w ∧
      w.passed = true ∧ "team" ∉ w.vm.labels ∧
      (w.objects.kvvmi.any fun kvvmi => "team" ∈ kvvmi.labels.given && "team" ∈ kvvmi.labels.map) := by
  decide +kernel

end Virtualization.Machine.Metadata
