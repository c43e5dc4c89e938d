import Virtualization.Volume.Rebind

namespace Virtualization.Volume

open Library List

def appLabel : String := "app"

def cdiLabelValue : String := "containerized-data-importer"

def pvcImportRoleLabel : String := "virtualization.deckhouse.io/pvc-import-role"

def pvcImportRoleSource : String := "source"

def quotaExcludeLabel : String := "resource-quota-overrides.deckhouse.io/ignore"

def quotaExcludeValue : String := "true"

def pvcImporterNBDPort : Nat := 10809

/-- The names of the helper objects come from the short name of the kind of the owner and from its uid. -/
structure Supplements where
  (short ns uid : String)
deriving DecidableEq

namespace Supplements

variable (sup : Supplements)

def name (middle : String) : NamespacedName :=
  ⟨sup.ns, "d8v-" ++ sup.short ++ middle ++ sup.uid⟩

def pvcSourceImporterPod : NamespacedName := sup.name "-pvc-source-importer-"

def pvcSourceImporterService : NamespacedName := sup.name "-pvc-source-nbd-"

def pvcTargetImporterPod : NamespacedName := sup.name "-pvc-target-importer-"

end Supplements

structure Endpoint where
  host : String
  port : Nat
deriving DecidableEq

structure Pod where
  key : NamespacedName
  labels : List (String × String)
  ownerUID : Nat
  claimName : String
  endpoint : Option Endpoint
  (ready failed : Bool)

structure Service where
  key : NamespacedName
  selector : List (String × String)
  port : Nat

structure Import where
  sup : Supplements
  target : NamespacedName
  targetUID : Nat
  source : NamespacedName
deriving DecidableEq

def primePVCName (target : NamespacedName) : String := target.name ++ "-prime"

def sourceImporterService (i : Import) : Service where
  key := i.sup.pvcSourceImporterService
  selector := [(appLabel, cdiLabelValue), (pvcImportRoleLabel, pvcImportRoleSource)]
  port := pvcImporterNBDPort

def makeSourceImporterPod (i : Import) : Pod where
  key := ⟨i.target.ns, i.sup.pvcSourceImporterPod.name⟩
  labels := [(quotaExcludeLabel, quotaExcludeValue), (appLabel, cdiLabelValue),
    (pvcImportRoleLabel, pvcImportRoleSource)]
  ownerUID := i.targetUID
  claimName := i.source.name
  endpoint := none
  ready := false
  failed := false

def makeTargetImporterPod (i : Import) (sourceNBDHost : String) : Pod where
  key := ⟨i.target.ns, i.sup.pvcTargetImporterPod.name⟩
  labels := [(quotaExcludeLabel, quotaExcludeValue), (appLabel, cdiLabelValue)]
  ownerUID := i.targetUID
  claimName := primePVCName i.target
  endpoint := some ⟨sourceNBDHost, pvcImporterNBDPort⟩
  ready := false
  failed := false

inductive ImportStage where
  | createService | fetchSource | createSource | fetchTarget | createTarget
deriving DecidableEq

structure ImportWorld where
  pods : List Pod
  services : List Service
  calls : List (Import × ImportStage)

inductive ImportEvent where
  | begin (i : Import)
  | createService (i : Import)
  | fetchSource (i : Import) (seen : Option Pod)
  | createSource (i : Import)
  | fetchTarget (i : Import) (seen : Option Pod)
  | createTarget (i : Import)
  | fail (i : Import) (stage : ImportStage)
  | deletePod (key : NamespacedName)
  | deleteService (key : NamespacedName)
  | status (key : NamespacedName) (ready failed : Bool)
  | other (pod : Pod)

def carries (labels selector : List (String × String)) : Bool := selector.all (· ∈ labels)

namespace ImportWorld

variable (w : ImportWorld)

def createPod (pod : Pod) : ImportWorld :=
  if w.pods.any (·.key = pod.key) then w else { w with pods := pod :: w.pods }

def createService (service : Service) : ImportWorld :=
  if w.services.any (·.key = service.key) then w else { w with services := service :: w.services }

def goOn (i : Import) (stage : ImportStage) (next : Option ImportStage) : ImportWorld :=
  { w with calls := (next.toList.map fun stage => (i, stage)) ++ w.calls.erase (i, stage) }

def move (i : Import) (stage : ImportStage) (next : Option ImportStage) (done : ImportWorld) : Option ImportWorld :=
  if (i, stage) ∈ w.calls then some (done.goOn i stage next) else none

def setStatus (key : NamespacedName) (ready failed : Bool) (pod : Pod) : Pod :=
  if pod.key = key then { pod with ready, failed } else pod

def step : ImportEvent → Option ImportWorld
  | .begin i => some { w with calls := (i, .createService) :: w.calls }
  | .createService i => w.move i .createService (some .fetchSource) (w.createService (sourceImporterService i))
  | .fetchSource i seen =>
    w.move i .fetchSource (match seen with
      | none => some .createSource
      | some pod => if pod.failed then none else some .fetchTarget) w
  | .createSource i => w.move i .createSource (some .fetchTarget) (w.createPod (makeSourceImporterPod i))
  | .fetchTarget i seen => w.move i .fetchTarget (if seen.isNone then some .createTarget else none) w
  | .createTarget i =>
    w.move i .createTarget none (w.createPod (makeTargetImporterPod i i.sup.pvcSourceImporterService.name))
  | .fail i stage => w.move i stage none w
  | .deletePod key => some { w with pods := w.pods.filter (·.key ≠ key) }
  | .deleteService key => some { w with services := w.services.filter (·.key ≠ key) }
  | .status key ready failed => some { w with pods := w.pods.map (setStatus key ready failed) }
  | .other pod =>
    if (pvcImportRoleLabel, pvcImportRoleSource) ∈ pod.labels ∨ pod.endpoint.isSome then none
    else some (w.createPod pod)

def reaches (ns : String) (endpoint : Endpoint) : List Pod :=
  w.pods.filter fun pod => pod.ready ∧ pod.key.ns = ns ∧ w.services.any fun service =>
    service.key = ⟨ns, endpoint.host⟩ ∧ service.port = endpoint.port ∧ carries pod.labels service.selector

end ImportWorld

def Pod.isSource (pod : Pod) : Bool := (pvcImportRoleLabel, pvcImportRoleSource) ∈ pod.labels

/-- When an import creates a pod, the namespace has no importer pod of another target claim. -/
def OneAtATime (w : ImportWorld) : ImportEvent → Prop
  | .createSource i | .createTarget i => ∀ pod ∈ w.pods, pod.key.ns = i.target.ns →
      (pod.isSource ∨ pod.endpoint.isSome) → pod.ownerUID = i.targetUID
  | _ => True

structure Isolated (w : ImportWorld) : Prop where
  selector : ∀ service ∈ w.services, (pvcImportRoleLabel, pvcImportRoleSource) ∈ service.selector
  source : ∀ pod ∈ w.pods, pod.isSource → ∃ i : Import, pod.ownerUID = i.targetUID ∧
    pod.key = ⟨i.target.ns, i.sup.pvcSourceImporterPod.name⟩ ∧ pod.claimName = i.source.name
  owner : ∀ target ∈ w.pods, target.endpoint.isSome → ∀ pod ∈ w.pods, pod.isSource →
    pod.key.ns = target.key.ns → pod.ownerUID = target.ownerUID

section Step

variable {w t : ImportWorld}

theorem Isolated.fewer (isolated : Isolated w) (services : t.services ⊆ w.services)
    (pods : ∀ pod ∈ t.pods, ∃ old ∈ w.pods, ∃ ready failed, pod = { old with ready, failed }) : Isolated t := by
  refine ⟨fun service member => isolated.selector service (services member), fun pod member source => ?_,
    fun target member copies pod there source same => ?_⟩
  · obtain ⟨old, before, _, _, rfl⟩ := pods pod member
    exact isolated.source old before source
  obtain ⟨oldTarget, targetBefore, _, _, rfl⟩ := pods target member
  obtain ⟨old, before, _, _, rfl⟩ := pods pod there
  exact isolated.owner oldTarget targetBefore copies old before source same

theorem Isolated.createPod {pod : Pod} (isolated : Isolated w)
    (source : pod.isSource → ∃ i : Import, pod.ownerUID = i.targetUID ∧
      pod.key = ⟨i.target.ns, i.sup.pvcSourceImporterPod.name⟩ ∧ pod.claimName = i.source.name)
    (apart : pod.isSource → pod.endpoint = none)
    (alone : pod.isSource ∨ pod.endpoint.isSome → ∀ old ∈ w.pods, old.key.ns = pod.key.ns →
      (old.isSource ∨ old.endpoint.isSome) → old.ownerUID = pod.ownerUID) : Isolated (w.createPod pod) := by
  unfold ImportWorld.createPod
  split
  · exact isolated
  refine ⟨isolated.selector, fun other member => ?_, fun target member copies other there role same => ?_⟩
  · rcases mem_cons.mp member with rfl | before
    · exact source
    · exact isolated.source other before
  rcases mem_cons.mp member with rfl | targetBefore <;> rcases mem_cons.mp there with rfl | before
  · rfl
  · exact alone (.inr copies) other before same (.inl role)
  · exact (alone (.inl role) target targetBefore same.symm (.inr copies)).symm
  · exact isolated.owner target targetBefore copies other before role same

theorem Isolated.move {i : Import} {stage : ImportStage} {next : Option ImportStage} {done : ImportWorld}
    (isolated : Isolated done) (moved : w.move i stage next done = some t) : Isolated t := by
  obtain ⟨-, ⟨⟩⟩ := Option.ite_none_right_eq_some.mp moved
  exact { isolated with }

open ImportWorld

theorem Isolated.step {event : ImportEvent} (isolated : Isolated w) (alone : OneAtATime w event)
    (moved : w.step event = some t) : Isolated t := by
  unfold ImportWorld.step at moved
  split at moved
  · cases moved
    exact { isolated with }
  · refine Isolated.move ⟨fun service member => ?_, ?_, ?_⟩ moved
    · unfold createService at member
      split at member
      · exact isolated.selector service member
      rcases mem_cons.mp member with rfl | before
      · simp [sourceImporterService]
      · exact isolated.selector service before
    · unfold createService
      split <;> exact isolated.source
    unfold createService
    split <;> exact isolated.owner
  · exact isolated.move moved
  · rename_i i
    refine (isolated.createPod (fun _ => ⟨i, rfl, rfl, rfl⟩) (fun _ => rfl) fun _ => ?_).move moved
    exact alone
  · exact isolated.move moved
  · refine (isolated.createPod (fun source => ?_) (fun source => ?_) fun _ => ?_).move moved
    · cases source
    · cases source
    · exact alone
  · exact isolated.move moved
  · cases moved
    exact isolated.fewer (List.Subset.refl _) fun pod member => ⟨pod, mem_of_mem_filter member, _, _, rfl⟩
  · cases moved
    exact isolated.fewer (filter_subset_self _) fun pod member => ⟨pod, member, _, _, rfl⟩
  · cases moved
    refine isolated.fewer (List.Subset.refl _) fun _ member => ?_
    obtain ⟨old, before, rfl⟩ := mem_map.mp member
    unfold setStatus
    split
    · exact ⟨old, before, _, _, rfl⟩
    · exact ⟨old, before, old.ready, old.failed, rfl⟩
  split at moved
  · cases moved
  rename_i pod foreign
  cases moved
  obtain ⟨plain, unconnected⟩ := not_or.mp foreign
  have notSource : ¬pod.isSource := fun source => plain (of_decide_eq_true source)
  refine isolated.createPod (fun source => absurd source notSource) (fun source => absurd source notSource) ?_
  rintro (source | copies)
  · exact absurd source notSource
  · exact absurd copies unconnected

end Step

def ImportWorld.start : ImportWorld := { pods := [], services := [], calls := [] }

/-- In every run in which the imports of a namespace come one at a time, the endpoint of a target importer pod reaches
    nothing but a source importer pod of its own target claim. -/
theorem copy_reads_own_source {events : List ImportEvent} {w : ImportWorld}
    (along : Along ImportWorld.step OneAtATime .start events) (reached : run ImportWorld.step .start events = some w) :
    ∀ target ∈ w.pods, ∀ endpoint, target.endpoint = some endpoint → ∀ pod ∈ w.reaches target.key.ns endpoint,
      ∃ i : Import, i.targetUID = target.ownerUID ∧ pod.ownerUID = i.targetUID ∧
        pod.key = ⟨i.target.ns, i.sup.pvcSourceImporterPod.name⟩ ∧ pod.claimName = i.source.name := by
  have start : Isolated .start := ⟨nofun, nofun, nofun⟩
  have isolated : Isolated w := run_invariant (fun _ _ _ isolated alone moved => isolated.step alone moved) start
    along reached
  intro target member endpoint copies pod connected
  obtain ⟨there, sent⟩ := mem_filter.mp connected
  obtain ⟨-, same, routed⟩ := of_decide_eq_true sent
  obtain ⟨service, exposed, selected⟩ := any_eq_true.mp routed
  obtain ⟨-, -, labelled⟩ := of_decide_eq_true selected
  have source : pod.isSource = true := all_eq_true.mp labelled _ (isolated.selector service exposed)
  have owner := isolated.owner target member (by rw [copies]; rfl) pod there source same
  obtain ⟨i, created, key, claimName⟩ := isolated.source pod there source
  exact ⟨i, created.symm.trans owner, created, key, claimName⟩

instance (w : ImportWorld) (event : ImportEvent) : Decidable (OneAtATime w event) := by
  unfold OneAtATime
  split <;> infer_instance

def diskImport (ns uid : String) (targetUID : Nat) : Import :=
  { sup := ⟨"vd", ns, uid⟩, target := ⟨ns, "disk-" ++ uid⟩, targetUID, source := ⟨ns, "source-" ++ uid⟩ }

def whole (i : Import) : List ImportEvent :=
  [.begin i, .createService i, .fetchSource i none, .createSource i, .fetchTarget i none, .createTarget i,
    .status i.sup.pvcSourceImporterPod true false]

def wholeOfTwo : List ImportEvent := whole (diskImport "ns" "a" 1) ++ whole (diskImport "other" "b" 2)

theorem copy_reads_own_source_whole : ((run ImportWorld.step .start wholeOfTwo).map fun w =>
        ((w.reaches "ns" ⟨"d8v-vd-pvc-source-nbd-a", 10809⟩).map Pod.claimName,
          (w.reaches "other" ⟨"d8v-vd-pvc-source-nbd-b", 10809⟩).map Pod.claimName)) =
        some (["source-a"], ["source-b"]) ∧
      ∀ w, run ImportWorld.step .start wholeOfTwo = some w →
        ∀ target ∈ w.pods, ∀ endpoint, target.endpoint = some endpoint → ∀ pod ∈ w.reaches target.key.ns endpoint,
          ∃ i : Import, i.targetUID = target.ownerUID ∧ pod.ownerUID = i.targetUID ∧
            pod.key = ⟨i.target.ns, i.sup.pvcSourceImporterPod.name⟩ ∧ pod.claimName = i.source.name :=
  ⟨by decide +kernel, fun _ reached => copy_reads_own_source (by decide +kernel) reached⟩

/-- With two imports in a namespace, the endpoint of the first target importer reaches both source importers. -/
theorem copy_reaches_other_source :
    ((run ImportWorld.step .start (whole (diskImport "ns" "a" 1) ++ whole (diskImport "ns" "b" 2))).map fun w =>
      ((w.pods.filter fun pod => pod.endpoint = some ⟨"d8v-vd-pvc-source-nbd-a", 10809⟩).map Pod.ownerUID,
        (w.reaches "ns" ⟨"d8v-vd-pvc-source-nbd-a", 10809⟩).map fun pod => (pod.ownerUID, pod.claimName))) =
      some ([1], [(2, "source-b"), (1, "source-a")]) := by
  decide +kernel

end Virtualization.Volume
