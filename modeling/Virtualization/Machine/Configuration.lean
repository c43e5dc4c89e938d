import Virtualization.Core.Objects

namespace Virtualization.Machine.Configuration

open Virtualization.Core

variable {σ : Type}

inductive ActionType where
  | none | applyImmediate | restart
deriving DecidableEq

def isDisruptive (changes : List ActionType) : Bool := ActionType.restart ∈ changes

structure Comparator (σ : Type) where
  compare : σ → σ → List ActionType
  compare_self : ∀ spec, compare spec spec = []

inductive Written where
  | done | failed | lost
deriving DecidableEq

/-- What `SyncKvvmHandler` finds besides the spec and the KVVM: the calls that fail, the phase that the handlers before
    it have set, the changes of the block devices and of the class, and the state of the KVVM and its instance. Which
    changes are upgraded to a restart depends on the volumes, the migratability and the quota. -/
structure Surroundings where
  phase : MachinePhase
  (kvvmFails classFails : Bool)
  blockDeviceChanges : List ActionType
  upgraded : Nat → Bool
  (quotaFails pendingFails : Bool)
  classChanges : List ActionType
  (waiting stateFails unschedulable placementPolicyChanged stopped kvvmiExists pending : Bool)
  written : Written
  (kvvmiFails restartRequired : Bool)

def upgradeToRestart (upgraded : Nat → Bool) (changes : List ActionType) : List ActionType :=
  changes.mapIdx fun i action => if action = .applyImmediate ∧ upgraded i then .restart else action

variable (c : Comparator σ) (env : Surroundings) (spec : σ) (kvvm : Option σ)

def detectSpecChanges : Option σ → List ActionType
  | none => []
  | some lastAppliedSpec =>
    upgradeToRestart env.upgraded (c.compare lastAppliedSpec spec ++ env.blockDeviceChanges)

def hasNoneDisruptiveChanges (changes : List ActionType) : Bool :=
  changes ≠ [] ∧ (¬ isDisruptive changes ∨ ¬ env.kvvmiExists ∨ env.pending)

def updateKVVM : Option Bool × Option σ :=
  match env.written with
  | .done => (some true, some spec)
  | .failed => (none, kvvm)
  | .lost => (none, some spec)

def syncKVVM (allChanges : List ActionType) : Option Bool × Option σ :=
  if kvvm.isNone then updateKVVM env spec kvvm
  else if env.stateFails then (none, kvvm)
  else if env.unschedulable ∧ env.placementPolicyChanged then updateKVVM env spec kvvm
  else if env.stopped then updateKVVM env spec kvvm
  else if hasNoneDisruptiveChanges env allChanges then updateKVVM env spec kvvm
  else if allChanges = [] then (if env.written = .done then some true else none, kvvm)
  else (some false, kvvm)

def hidesCondition (phase : MachinePhase) : Bool := phase = .pending ∨ phase = .starting ∨ phase = .stopped

def endsEarly (deleted : Bool) (changes : List ActionType) : Bool :=
  deleted ∨ env.kvvmFails ∨ env.classFails ∨ (changes ≠ [] ∧ (env.quotaFails ∨ env.pendingFails)) ∨ env.waiting

def handle (deleted : Bool) (spec : σ) (kvvm : Option σ) : Bool × Option σ :=
  let changes := detectSpecChanges c env spec kvvm
  let classChanges := if kvvm.isSome then env.classChanges else []
  if endsEarly env deleted changes then (false, kvvm)
  else
    let result := syncKVVM env spec kvvm (changes ++ classChanges)
    if env.kvvmiFails then (false, result.2)
    else
      let awaitingRestart := result.1.any fun synced : Bool =>
        (¬ synced ∧ isDisruptive changes) ∨ isDisruptive classChanges
      (¬ hidesCondition env.phase ∧ (awaitingRestart ∨ (kvvm.isSome ∧ env.restartRequired)), result.2)

def concludes (deleted : Bool) : Bool :=
  ¬ (deleted ∨ env.kvvmFails ∨ env.classFails ∨ env.quotaFails ∨ env.pendingFails ∨ env.waiting ∨ env.stateFails ∨
    env.written ≠ .done ∨ env.kvvmiFails ∨ hidesCondition env.phase)

def agrees (spec : σ) : Bool :=
  kvvm.all fun lastAppliedSpec => ¬ isDisruptive (c.compare lastAppliedSpec spec)

theorem agrees_self : agrees c (some spec) spec := by
  simp [agrees, c.compare_self, isDisruptive]

theorem isDisruptive_upgradeToRestart {upgraded : Nat → Bool} {changes : List ActionType}
    (disruptive : isDisruptive changes) : isDisruptive (upgradeToRestart upgraded changes) := by
  have member : ActionType.restart ∈ changes := of_decide_eq_true disruptive
  obtain ⟨i, bound, found⟩ := List.getElem_of_mem member
  refine decide_eq_true (List.mem_mapIdx.mpr ⟨i, bound, ?_⟩)
  rw [found]
  rfl

variable {env : Surroundings}

theorem updateKVVM_applied (env : Surroundings) (spec : σ) (kvvm : Option σ) :
    (updateKVVM env spec kvvm).2 = kvvm ∨ (updateKVVM env spec kvvm).2 = some spec := by
  unfold updateKVVM
  split
  · exact .inr rfl
  · exact .inl rfl
  · exact .inr rfl

theorem syncKVVM_applied (env : Surroundings) (spec : σ) (kvvm : Option σ) (allChanges : List ActionType) :
    (syncKVVM env spec kvvm allChanges).2 = kvvm ∨ (syncKVVM env spec kvvm allChanges).2 = some spec := by
  unfold syncKVVM
  split
  · exact updateKVVM_applied env spec kvvm
  split
  · exact .inl rfl
  iterate 3
    split
    · exact updateKVVM_applied env spec kvvm
  split
  · exact .inl rfl
  · exact .inl rfl

theorem handle_applied (env : Surroundings) (deleted : Bool) (spec : σ) (kvvm : Option σ) :
    (handle c env deleted spec kvvm).2 = kvvm ∨ (handle c env deleted spec kvvm).2 = some spec := by
  unfold handle
  dsimp only
  split
  · exact .inl rfl
  split
  all_goals exact syncKVVM_applied env spec kvvm _

theorem syncKVVM_done (served : env.stateFails = false) (done : env.written = .done) (spec : σ) (kvvm : Option σ)
    (allChanges : List ActionType) : syncKVVM env spec kvvm allChanges = (some true, some spec) ∨
      (allChanges = [] ∧ syncKVVM env spec kvvm allChanges = (some true, kvvm)) ∨
      (isDisruptive allChanges ∧ syncKVVM env spec kvvm allChanges = (some false, kvvm)) := by
  have updated : updateKVVM env spec kvvm = (some true, some spec) := by
    unfold updateKVVM
    rw [done]
  unfold syncKVVM
  split
  · exact .inl updated
  rw [if_neg (by simp [served])]
  iterate 3
    split
    · exact .inl updated
  rename_i disruptive
  split
  · rename_i empty
    exact .inr (.inl ⟨empty, rfl⟩)
  rename_i changed
  refine .inr (.inr ⟨?_, rfl⟩)
  by_contra harmless
  exact disruptive (decide_eq_true ⟨changed, .inl harmless⟩)

theorem handle_agrees {c : Comparator σ} {deleted : Bool} {spec : σ} {kvvm : Option σ}
    (concluded : concludes env deleted) (quiet : (handle c env deleted spec kvvm).1 = false) :
    agrees c (handle c env deleted spec kvvm).2 spec := by
  obtain ⟨kept, kvvmServed, classServed, quotaServed, pendingServed, ready, served, done, kvvmiServed, shown⟩ :
      deleted = false ∧ env.kvvmFails = false ∧ env.classFails = false ∧ env.quotaFails = false ∧
        env.pendingFails = false ∧ env.waiting = false ∧ env.stateFails = false ∧ env.written = .done ∧
        env.kvvmiFails = false ∧ hidesCondition env.phase = false := by
    simpa [concludes] using concluded
  have unlessDisruptive : isDisruptive (detectSpecChanges c env spec kvvm) = false → agrees c kvvm spec := by
    intro harmless
    cases kvvm with
    | none => rfl
    | some =>
      refine decide_eq_true fun disruptive => ?_
      cases harmless.symm.trans (isDisruptive_upgradeToRestart (decide_eq_true
        (List.mem_append_left _ (of_decide_eq_true disruptive))))
  have late : endsEarly env deleted (detectSpecChanges c env spec kvvm) = false := by
    simp [endsEarly, kept, kvvmServed, classServed, quotaServed, pendingServed, ready]
  revert quiet
  unfold handle
  rw [if_neg (by simp [late]), if_neg (by simp [kvvmiServed])]
  rcases syncKVVM_done served done spec kvvm _ with
    synced | ⟨unchanged, synced⟩ | ⟨-, delayed⟩
  · intro _
    rw [synced]
    exact agrees_self c spec
  · intro _
    rw [synced]
    refine unlessDisruptive ?_
    rw [(List.append_eq_nil_iff.mp unchanged).1]
    rfl
  intro quiet
  rw [delayed] at quiet ⊢
  refine unlessDisruptive ?_
  by_contra disruptive
  simp [shown, Bool.not_eq_false _ ▸ disruptive] at quiet

end Virtualization.Machine.Configuration
