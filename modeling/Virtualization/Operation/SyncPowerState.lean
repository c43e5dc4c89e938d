import Virtualization.Library.Run
import Virtualization.Operation.Handlers

namespace Virtualization.Operation.SyncPowerState

open Virtualization.Core (InstancePhase RunPolicy)
open Library

structure Instance where
  uid : Nat
  phase : InstancePhase
  deleting : Bool

def Instance.kvvmiCompleted (kvvmi : Instance) : Bool := kvvmi.phase = .succeeded ∨ kvvmi.phase = .failed

inductive VMAction where
  | nothing | start | stop | restart

inductive Call where
  | runStrategy | getPod | request | annotateStart | annotateRestart | delete

/-- What a pass reads. `vmPod` is the deletion mark of the pod, and `lastAppliedSpec` tells if the run policy that was
    applied last is AlwaysOff; without it the last applied spec cannot be read. -/
structure Reads where
  runPolicy : RunPolicy
  (maintenance isConfigurationApplied podCompleted guestReset : Bool)
  (vmPod lastAppliedSpec : Option Bool)
  awaitingRestart : Bool
  served : Call → Bool

section Pass

variable (reads : Reads) (kvvm : KVVM)

def addStartAnnotation : Option KVVM :=
  if kvvm.startRequested ∨ reads.served .annotateStart then some { kvvm with startRequested := true } else none

def checkNeedStartVM : Bool := reads.isConfigurationApplied ∧ (kvvm.startRequested ∨ kvvm.restartRequested)

def handleAlwaysOffPolicy (kvvmi : Option Instance) : VMAction := if kvvmi.isSome then .stop else .nothing

def handleManualPolicy : Option Instance → VMAction
  | none => if checkNeedStartVM reads kvvm then .start else .nothing
  | some kvvmi =>
    if (kvvmi.deleting ∨ kvvmi.kvvmiCompleted) ∧ checkNeedStartVM reads kvvm then .start
    else if kvvmi.deleting ∧ ¬kvvmi.kvvmiCompleted then .nothing
    else if kvvm.restartRequested ∧ kvvmi.phase = .running then .restart
    else if kvvmi.kvvmiCompleted ∧ reads.podCompleted then if reads.guestReset then .restart else .stop
    else .nothing

def isVMRestarting : Bool :=
  match kvvm.stateChangeRequests with
  | [.stopRequest _, .startRequest] => true
  | _ => false

def handleAlwaysOnPolicy : Option Instance → Option (VMAction × KVVM)
  | none =>
    if isVMRestarting kvvm then some (.nothing, kvvm)
    else if reads.isConfigurationApplied then some (.start, kvvm)
    else (.nothing, ·) <$> addStartAnnotation reads kvvm
  | some kvvmi =>
    if kvvmi.deleting then some (if checkNeedStartVM reads kvvm then .start else .nothing, kvvm)
    else if kvvm.restartRequested ∧ kvvmi.phase = .running then some (.restart, kvvm)
    else if kvvmi.kvvmiCompleted then some (.restart, kvvm)
    else some (.nothing, kvvm)

def handleAbsent : Option (VMAction × KVVM) :=
  if checkNeedStartVM reads kvvm then some (.start, kvvm)
  else
    match reads.lastAppliedSpec with
    | none => none
    | some true => (.nothing, ·) <$> addStartAnnotation reads kvvm
    | some false => some (.nothing, kvvm)

def handleAlwaysOnUnlessStoppedManuallyPolicy : Option Instance → Option (VMAction × KVVM)
  | none => handleAbsent reads kvvm
  | some kvvmi =>
    if kvvmi.deleting then handleAbsent reads kvvm
    else if kvvm.restartRequested ∧ kvvmi.phase = .running then some (.restart, kvvm)
    else if ¬reads.served .getPod then none
    else
      match kvvmi.phase with
      | .succeeded =>
        if reads.podCompleted then
          if reads.guestReset then some (.restart, kvvm)
          else if reads.vmPod.getD true then some (.restart, kvvm)
          else some (.stop, kvvm)
        else if reads.vmPod.isNone then none
        else some (.nothing, kvvm)
      | .failed => some (.restart, kvvm)
      | _ => some (.nothing, kvvm)

def policyAction (kvvmi : Option Instance) : Option (VMAction × KVVM) :=
  if reads.maintenance then some (.stop, kvvm)
  else
    match reads.runPolicy with
    | .alwaysOff => some (handleAlwaysOffPolicy kvvmi, kvvm)
    | .alwaysOn => handleAlwaysOnPolicy reads kvvm kvvmi
    | .alwaysOnUnlessStoppedManually => handleAlwaysOnUnlessStoppedManuallyPolicy reads kvvm kvvmi
    | .manual => some (handleManualPolicy reads kvvm kvvmi, kvvm)

def buildPatch (changes : List StateChangeRequest) : Option KVVM :=
  if kvvm.stateChangeRequests = changes then some kvvm
  else if kvvm.stateChangeRequests ≠ [] ∨ ¬reads.served .request then none
  else some { kvvm with stateChangeRequests := changes }

def safeRestartVM (kvvmi : Instance) : Option KVVM :=
  if kvvm.stateChangeRequests ≠ [] then some kvvm
  else if ¬reads.served .request then none
  else some { kvvm with stateChangeRequests := [.stopRequest kvvmi.uid, .startRequest] }

def removeAnnotations : KVVM :=
  if kvvm.startRequested ∧ ¬reads.served .annotateStart then kvvm
  else if kvvm.restartRequested ∧ ¬reads.served .annotateRestart then { kvvm with startRequested := false }
  else { kvvm with startRequested := false, restartRequested := false }

def deleteKVVMI (kvvmi : Instance) : Instance :=
  if reads.served .delete then { kvvmi with deleting := true } else kvvmi

def startLater : KVVM :=
  match addStartAnnotation reads kvvm with
  | none => kvvm
  | some kvvm => kvvm

def start : KVVM :=
  if reads.isConfigurationApplied then
    match buildPatch reads kvvm [.startRequest] with
    | none => kvvm
    | some kvvm => removeAnnotations reads kvvm
  else startLater reads kvvm

def restart (kvvmi : Instance) : KVVM × Instance :=
  if reads.isConfigurationApplied then
    match safeRestartVM reads kvvm kvvmi with
    | none => (kvvm, kvvmi)
    | some kvvm => (removeAnnotations reads kvvm, kvvmi)
  else if reads.served .delete then (startLater reads kvvm, deleteKVVMI reads kvvmi)
  else (kvvm, kvvmi)

def syncPowerState (kvvmi : Option Instance) : KVVM × Option Instance :=
  if ¬reads.served .runStrategy then (kvvm, kvvmi)
  else
    match policyAction reads kvvm kvvmi, kvvmi with
    | none, kvvmi => (kvvm, kvvmi)
    | some (.nothing, kvvm), none => (kvvm, none)
    | some (.nothing, kvvm), some kvvmi =>
      if reads.awaitingRestart then
        ((buildPatch reads kvvm [.stopRequest kvvmi.uid, .startRequest]).getD kvvm, some kvvmi)
      else (kvvm, some kvvmi)
    | some (.start, kvvm), kvvmi => (start reads kvvm, kvvmi)
    | some (.stop, kvvm), kvvmi => (kvvm, kvvmi.map (deleteKVVMI reads))
    | some (.restart, kvvm), none => (kvvm, none)
    | some (.restart, kvvm), some kvvmi => ((restart reads kvvm kvvmi).1, some (restart reads kvvm kvvmi).2)

end Pass

/-- The KVVM with its KVVMI. `asked` is the KVVMI that was there when the restart annotation was set. -/
structure World where
  kvvm : KVVM
  kvvmi : Option Instance
  nextUID : Nat
  asked : Option Nat

/-- The first two are the VMOPs', `pass` is the controller's, and the others are KubeVirt's and the user's. -/
inductive Event where
  | annotateStart | annotateRestart
  | pass (reads : Reads)
  | consumeStop | consumeStart | clearStart | phase (phase : InstancePhase) | delete | gone

def step (w : World) : Event → Option World
  | .annotateStart => some { w with kvvm.startRequested := true }
  | .annotateRestart =>
    if w.kvvm.restartRequested then some w
    else some { w with kvvm.restartRequested := true, asked := w.kvvmi.map (·.uid) }
  | .pass reads =>
    let (kvvm, kvvmi) := syncPowerState reads w.kvvm w.kvvmi
    some { w with kvvm, kvvmi }
  | .consumeStop =>
    match w.kvvm.stateChangeRequests with
    | .stopRequest uid :: stateChangeRequests => some { w with
        kvvm := { w.kvvm with stateChangeRequests }
        kvvmi := w.kvvmi.map fun kvvmi => if kvvmi.uid = uid then { kvvmi with deleting := true } else kvvmi }
    | _ => none
  | .consumeStart =>
    match w.kvvm.stateChangeRequests, w.kvvmi with
    | .startRequest :: _, none => some { w with
        kvvmi := some { uid := w.nextUID, phase := .pending, deleting := false }, nextUID := w.nextUID + 1 }
    | _, _ => none
  | .clearStart =>
    match w.kvvm.stateChangeRequests with
    | .startRequest :: stateChangeRequests => some { w with kvvm := { w.kvvm with stateChangeRequests } }
    | _ => none
  | .phase phase => some { w with kvvmi := w.kvvmi.map fun kvvmi => { kvvmi with phase } }
  | .delete => some { w with kvvmi := w.kvvmi.map fun kvvmi => { kvvmi with deleting := true } }
  | .gone => some { w with kvvmi := none }

def Instance.ended (kvvmi : Instance) : Bool := kvvmi.deleting ∨ kvvmi.kvvmiCompleted

def Pending (requests : List StateChangeRequest) : Prop :=
  requests = [] ∨ requests = [.startRequest] ∨ ∃ uid, requests = [.stopRequest uid, .startRequest]

section Cases

structure Decides (kvvm : KVVM) (kvvmi : Option Instance) (action : VMAction) (new : KVVM) : Prop where
  restart : new.restartRequested = kvvm.restartRequested
  requests : new.stateChangeRequests = kvvm.stateChangeRequests
  starts : action = .start → ∀ running ∈ kvvmi, running.ended
  restarts : action = .restart → ∀ running ∈ kvvmi, running.ended ∨ running.phase = .running ∧ running.deleting = false

/-- How a pass leaves the requests. Only the last two remove the restart annotation. -/
inductive Synced (kvvm : KVVM) : Option Instance → KVVM × Option Instance → Prop where
  | kept (restart : new.restartRequested = kvvm.restartRequested)
      (requests : new.stateChangeRequests = kvvm.stateChangeRequests) : Synced kvvm kvvmi (new, after)
  | requested (restart : new.restartRequested = kvvm.restartRequested)
      (requests : new.stateChangeRequests = [.stopRequest uid, .startRequest]) : Synced kvvm kvvmi (new, after)
  | started (ended : ∀ running ∈ kvvmi, running.ended) (requests : new.stateChangeRequests = [.startRequest]) :
      Synced kvvm kvvmi (new, kvvmi)
  | restarted (due : running.ended ∨ running.phase = .running ∧ running.deleting = false)
      (requests : new.stateChangeRequests = kvvm.stateChangeRequests ∧ kvvm.stateChangeRequests ≠ [] ∨
        new.stateChangeRequests = [.stopRequest running.uid, .startRequest]) :
      Synced kvvm (some running) (new, some running)

variable {reads : Reads} {kvvm new : KVVM} {kvvmi : Option Instance} {action : VMAction}

theorem decides_of_policyAction (decided : policyAction reads kvvm kvvmi = some (action, new)) :
    Decides kvvm kvvmi action new := by
  unfold policyAction at decided
  split at decided
  · cases decided
    exact ⟨rfl, rfl, nofun, nofun⟩
  cases kvvmi <;> split at decided <;> constructor <;>
    grind [handleAlwaysOffPolicy, handleAlwaysOnPolicy, handleAlwaysOnUnlessStoppedManuallyPolicy, handleAbsent,
      handleManualPolicy, addStartAnnotation, Instance.ended, Instance.kvvmiCompleted]

@[simp] theorem removeAnnotations_requests (reads : Reads) (kvvm : KVVM) :
    (removeAnnotations reads kvvm).stateChangeRequests = kvvm.stateChangeRequests := by
  unfold removeAnnotations
  split_ifs <;> rfl

theorem buildPatch_some {changes : List StateChangeRequest} (built : buildPatch reads kvvm changes = some new) :
    new = { kvvm with stateChangeRequests := changes } := by
  unfold buildPatch at built
  split_ifs at built with same
  · cases built
    rw [← same]
  · exact (Option.some.inj built).symm

theorem startLater_kept (reads : Reads) (kvvm : KVVM) :
    (startLater reads kvvm).restartRequested = kvvm.restartRequested ∧
      (startLater reads kvvm).stateChangeRequests = kvvm.stateChangeRequests := by
  unfold startLater addStartAnnotation
  split <;> rename_i annotated <;> split at annotated <;> cases annotated <;> exact ⟨rfl, rfl⟩

theorem synced (reads : Reads) (kvvm : KVVM) (kvvmi : Option Instance) :
    Synced kvvm kvvmi (syncPowerState reads kvvm kvvmi) := by
  unfold syncPowerState
  split
  · exact .kept rfl rfl
  split
  · exact .kept rfl rfl
  all_goals
    rename_i decided
    obtain ⟨restart, requests, starts, restarts⟩ := decides_of_policyAction decided
  · exact .kept restart requests
  · split
    · cases built : buildPatch reads _ _ with
      | none => exact .kept restart requests
      | some new =>
        obtain rfl := buildPatch_some built
        exact .requested restart rfl
    · exact .kept restart requests
  · unfold start
    split
    · split
      · exact .kept restart requests
      rename_i built
      refine .started (starts rfl) ?_
      rw [removeAnnotations_requests, buildPatch_some built]
    · obtain ⟨annotated, unasked⟩ := startLater_kept reads _
      exact .kept (annotated.trans restart) (unasked.trans requests)
  · exact .kept restart requests
  · exact .kept restart requests
  unfold SyncPowerState.restart
  split
  · unfold safeRestartVM
    split_ifs with other
    · refine .restarted (restarts rfl _ rfl) (.inl ⟨?_, requests ▸ other⟩)
      rw [removeAnnotations_requests, requests]
    · refine .restarted (restarts rfl _ rfl) (.inr ?_)
      rw [removeAnnotations_requests]
    · exact .kept restart requests
  split
  · obtain ⟨annotated, unasked⟩ := startLater_kept reads _
    exact .kept (annotated.trans restart) (unasked.trans requests)
  · exact .kept restart requests

theorem Synced.pending {result : KVVM × Option Instance} (synced : Synced kvvm kvvmi result)
    (pending : Pending kvvm.stateChangeRequests) : Pending result.1.stateChangeRequests := by
  cases synced with
  | kept _ requests => exact requests ▸ pending
  | requested _ requests => exact .inr (.inr ⟨_, requests⟩)
  | started _ requests => exact .inr (.inl requests)
  | restarted _ requests =>
    rcases requests with ⟨same, -⟩ | requests
    · exact same ▸ pending
    · exact .inr (.inr ⟨_, requests⟩)

end Cases

/-- A pass that finds the restart annotation and a running KVVMI finds no requests but those of its restart. -/
def Attended (w : World) : Event → Prop
  | .pass _ => w.kvvm.restartRequested → ∀ running ∈ w.kvvmi, running.phase = .running → running.deleting = false →
      w.kvvm.stateChangeRequests = [] ∨ w.kvvm.stateChangeRequests = [.stopRequest running.uid, .startRequest]
  | _ => True

/-- A start is requested, after a stop of the KVVMI that was there when the restart annotation was set, or that one is
    gone, finished or being deleted. -/
def Kept (w t : World) : Prop :=
  .startRequest ∈ t.kvvm.stateChangeRequests ∧
    ((∃ uid ∈ w.asked, t.kvvm.stateChangeRequests = [.stopRequest uid, .startRequest]) ∨
      ∀ running ∈ t.kvvmi, w.asked = some running.uid → running.ended)
deriving Decidable

def RestartKept (w : World) (event : Event) : Prop :=
  ∀ t ∈ step w event, w.kvvm.restartRequested → t.kvvm.restartRequested = false → Kept w t
deriving Decidable

instance (w : World) : (event : Event) → Decidable (Attended w event)
  | .pass _ => inferInstanceAs (Decidable (_ → _))
  | .annotateStart | .annotateRestart | .consumeStop | .consumeStart | .clearStart | .phase _ | .delete
  | .gone => instDecidableTrue

theorem Synced.kept_of_attended {w t : World} (pending : Pending w.kvvm.stateChangeRequests)
    (attended : ∀ running ∈ w.kvvmi, running.phase = .running → running.deleting = false →
      w.kvvm.stateChangeRequests = [] ∨ w.kvvm.stateChangeRequests = [.stopRequest running.uid, .startRequest])
    (synced : Synced w.kvvm w.kvvmi (t.kvvm, t.kvvmi)) (set : w.kvvm.restartRequested)
    (removed : t.kvvm.restartRequested = false) : Kept w t := by
  unfold Kept
  generalize w.kvvmi = kvvmi, t.kvvm = new, t.kvvmi = after at *
  cases synced with
  | kept restart | requested restart => cases (restart.trans set).symm.trans removed
  | started ended requests => exact ⟨by simp [requests], .inr fun running found _ => ended running found⟩
  | restarted due requests =>
    rcases due with ended | ⟨phase, alive⟩
    · refine ⟨?_, .inr fun _ found _ => Option.some.inj found ▸ ended⟩
      rcases requests with ⟨_, other⟩ | requests
      · rcases pending with none | _ | ⟨_, _⟩
        · exact absurd none other
        all_goals simp [*]
      · simp [requests]
    have both : _ = [StateChangeRequest.stopRequest _, .startRequest] :=
      requests.elim (fun ⟨same, other⟩ => same.trans ((attended _ rfl phase alive).resolve_left other)) id
    refine ⟨by simp [both], or_iff_not_imp_left.mpr fun unasked _ found asked => ?_⟩
    -- a KVVMI that came after the annotation was set has taken the place of the one then there
    cases found
    exact absurd ⟨_, asked, both⟩ unasked

theorem step_kept {w t : World} {event : Event} (pending : Pending w.kvvm.stateChangeRequests)
    (attended : Attended w event) (moved : step w event = some t) : Pending t.kvvm.stateChangeRequests ∧
      (w.kvvm.restartRequested → t.kvvm.restartRequested = false → Kept w t) := by
  cases event with
  | annotateStart | phase | delete | gone =>
    cases moved
    exact ⟨pending, fun set removed => nomatch set.symm.trans removed⟩
  | annotateRestart =>
    dsimp only [step] at moved
    split at moved <;> cases moved <;> exact ⟨pending, by simp +contextual⟩
  | pass reads =>
    cases moved
    have passed := synced reads w.kvvm w.kvvmi
    exact ⟨passed.pending pending, fun set => passed.kept_of_attended pending (attended set) set⟩
  | consumeStop | consumeStart | clearStart =>
    dsimp only [step] at moved
    refine ⟨?_, ?_⟩
    · rcases pending with _ | _ | ⟨_, _⟩ <;> grind [Pending]
    · split at moved <;> cases moved
      exact fun set removed => nomatch set.symm.trans removed

theorem restart_not_dropped (start : World) (events : List Event) (fresh : start.kvvm.stateChangeRequests = [])
    (attended : Along step Attended start events) : Along step RestartKept start events :=
  Along.of_invariant (fun _ _ _ pending attended moved => (step_kept pending attended moved).1)
    (fun _ _ pending attended _ moved => (step_kept pending attended moved).2) (.inl fresh) attended

def manual : Reads where
  runPolicy := .manual
  maintenance := false
  isConfigurationApplied := true
  podCompleted := false
  guestReset := false
  vmPod := some false
  lastAppliedSpec := some false
  awaitingRestart := false
  served _ := true

def stopped : World where
  kvvm := { startRequested := false, restartRequested := false, stateChangeRequests := [] }
  kvvmi := none
  nextUID := 1
  asked := none

def restarted : List Event :=
  [.annotateStart, .pass manual, .consumeStart, .phase .running, .annotateRestart, .pass manual]

/-- The start is cleared from the requests before the restart is asked for. -/
theorem restart_not_dropped_cleared : Along step RestartKept stopped (restarted.insertIdx 3 .clearStart) :=
  restart_not_dropped _ _ rfl (by decide +kernel)

/-- The start that made the KVVMI is still among the requests, so the restart is not written, and its annotation
    goes. -/
theorem restart_dropped : ¬Along step RestartKept stopped restarted := by
  decide +kernel

section Forced

open PowerState

variable {served : Operation.Call → Bool} {c : Cluster} {kvvm : KVVM} {kvvmi : KVVMI}

theorem getVMPod_mem {pods : List Pod} {pod : Pod} (found : getVMPod kvvmi pods = some pod) : pod ∈ pods := by
  unfold getVMPod at found
  dsimp only at found
  split at found
  · cases found
  · rename_i single
    cases found
    exact (List.mem_filter.mp (single ▸ List.mem_singleton_self _)).1
  · rcases Option.or_eq_some_iff.mp found with running | ⟨-, first⟩
    · exact (List.mem_filter.mp (List.mem_mergeSort.mp (List.mem_of_find?_eq_some running))).1
    · exact (List.mem_filter.mp (List.mem_mergeSort.mp (List.mem_of_head? first))).1

theorem findPodByKVVMI_mem {pod : Pod} (found : findPodByKVVMI c kvvmi = some pod) :
    pod ∈ c.pods ∧ pod.createdBy = kvvmi.uid := by
  simpa using List.mem_filter.mp (getVMPod_mem found)

theorem deletePodByKVVMI_killed (deleted : (deletePodByKVVMI served c kvvmi).2 = true) :
    (deletePodByKVVMI served c kvvmi).1.kvvm = c.kvvm ∧
      ((deletePodByKVVMI served c kvvmi).1.killed = c.killed ∧
          (∀ pod ∈ findPodByKVVMI c kvvmi, pod.deleting = true) ∨
        ∃ pod, findPodByKVVMI c kvvmi = some pod ∧ pod.deleting = false ∧
          (deletePodByKVVMI served c kvvmi).1.killed = c.killed ++ [pod.uid]) := by
  unfold deletePodByKVVMI at deleted ⊢
  generalize findPodByKVVMI c kvvmi = found at deleted ⊢
  cases found with
  | none => split_ifs at deleted ⊢ <;> simp
  | some pod =>
    cases dead : pod.deleting with
    | true => split_ifs at deleted ⊢ <;> simp [dead]
    | false =>
      simp only [dead, Bool.false_eq_true, if_false] at deleted ⊢
      split_ifs at deleted ⊢
      simp [dead]

/-- Whether one of the KVVMI's pods, if it has any, is deleted with no grace period. -/
def Kills (c after : Cluster) (kvvmi : KVVMI) : Prop :=
  (∀ pod ∈ c.pods, pod.createdBy ≠ kvvmi.uid) ∨
    ∃ pod ∈ c.pods, pod.createdBy = kvvmi.uid ∧ after.killed = c.killed ++ [pod.uid]

/-- A forced restart that is reported as sent deletes the pod and asks for the stop and the start exactly when the
    KVVMI has no pod, or its stop and start are not requested already and the pod that is found for it is not
    terminating. -/
theorem forced_restart_kills (found : c.kvvm = some kvvm) (running : c.kvvmi = some kvvmi)
    (sent : (restartExecute true served c).2 = true) :
    Kills c (restartExecute true served c).1 kvvmi ∧
        (restartExecute true served c).1.kvvm.map (·.stateChangeRequests) =
          some [.stopRequest kvvmi.uid, .startRequest] ↔
      (∀ pod ∈ c.pods, pod.createdBy ≠ kvvmi.uid) ∨
        kvvm.stateChangeRequests ≠ [.stopRequest kvvmi.uid, .startRequest] ∧
          ∃ pod, findPodByKVVMI c kvvmi = some pod ∧ pod.deleting = false := by
  simp only [restartExecute, restartVM, found, running, if_true] at sent ⊢
  split_ifs at sent ⊢ with failed failedToo asked
  · simp [Kills, found, asked]
  obtain ⟨kept, outcome⟩ := deletePodByKVVMI_killed sent
  rw [and_iff_left (by rw [kept]; rfl)]
  refine or_congr_right (Iff.trans ?_ (and_iff_right asked).symm)
  obtain ⟨same, dead⟩ | ⟨pod, isFound, alive, killed⟩ := outcome
  · simp only [same]
    constructor
    · rintro ⟨_, -, -, more⟩
      simp at more
    · rintro ⟨pod, isFound, alive⟩
      cases (dead pod isFound).symm.trans alive
  · obtain ⟨member, own⟩ := findPodByKVVMI_mem isFound
    exact iff_of_true ⟨pod, member, own, killed⟩ ⟨pod, isFound, alive⟩

def graceful : Cluster where
  vm := none
  kvvm := some stopped.kvvm
  kvvmi := some
    { uid := 1, creationTimestamp := 0, deleting := false, gracePeriodZero := false, completed := false
      nodeName := "node-1", activePods := [7] }
  pods := [⟨7, 1, 0, "node-1", true, false⟩]
  killed := []

theorem forced_restart_kills_graceful : (restartExecute true (fun _ => true) graceful).2 = true ∧
    Kills graceful (restartExecute true (fun _ => true) graceful).1 (graceful.kvvmi.get rfl) :=
  ⟨rfl, ((@forced_restart_kills _ graceful _ _ rfl rfl rfl).mpr (.inr ⟨by decide, _, rfl, rfl⟩)).1⟩

/-- The stop and start of a graceful restart stay requested when it is superseded, and the forced one then has nothing
    to do. -/
theorem forced_restart_waits :
    let asked := (restartExecute false (fun _ => true) graceful).1
    let c := { asked with
      kvvm := asked.kvvm.map fun kvvm =>
        (syncPowerState manual kvvm (some { uid := 1, phase := .running, deleting := false })).1 }
    let freed := (cleanupSupersededOperation .restart (fun _ => true) c).1
    (restartExecute true (fun _ => true) freed).2 = true ∧ (restartExecute true (fun _ => true) freed).1.killed = [] ∧
      (restartExecute true (fun _ => true) freed).1.pods = graceful.pods :=
  ⟨rfl, rfl, rfl⟩

end Forced

end Virtualization.Operation.SyncPowerState
