import Virtualization.Dvcr.Collection

/-! A cycle of garbage collection, from the request that begins it to the deletion of its secret. -/

namespace Virtualization.Dvcr

open Library

/-- `begun` is the time of the request that has begun the cycle, which the program does not keep. -/
structure Cycle where
  now : Nat
  secret : Option Secret
  deploy : Deployment
  begun : Nat

/-- The requests of a pass that are carried out: that for the secret, the update of the deployment's status and the
    patch of its annotations. -/
structure Served where
  (secret status metadata : Bool)

inductive CycleEvent where
  | wait (duration : Nat)
  | runGC (served : Served)
  | reconcile (remainInProvisioning : Option Nat) (served : Served)
  | cleanupDone (result : String)

namespace Cycle

def update (served : Served) (changed : Deployment) (s : Cycle) : Cycle :=
  if served.status then
    { s with deploy := { changed with result := if served.metadata then changed.result else s.deploy.result } }
  else s

def initiated (s : Cycle) : Secret :=
  match s.secret with
  | none => newSecret s.now
  | some secret => { secret with switchToGarbageCollectionMode := false, garbageCollectionDone := false, result := "" }

variable (parse : String → Option GarbageCollectionReason)

def next (remainInProvisioning : Option Nat) (s : Cycle) : Next :=
  match handle parse s.now .secret (some s.deploy) (.ok s.secret) with
  | .list deploy secret =>
    match remainInProvisioning with
    | none => .fails
    | some remain => handleListed s.now secret deploy remain
  | next => next

def step (s : Cycle) : CycleEvent → Option Cycle
  | .wait duration => some { s with now := s.now + duration }
  | .runGC served =>
    match handle parse s.now .runGC (some s.deploy) (.ok s.secret) with
    | .initiate deploy =>
      let s := if served.secret then { s with secret := some s.initiated, begun := s.now } else s
      some (s.update served deploy)
    | _ => some s
  | .reconcile remainInProvisioning served =>
    match s.next parse remainInProvisioning with
    | .delete => some (if served.secret then { s with secret := none } else s)
    | .switch deploy =>
      -- The condition is set after the secret has been updated.
      if served.secret then
        let secret := s.secret.map fun secret => { secret with switchToGarbageCollectionMode := true }
        some ({ s with secret }.update served (updateGarbageCollectionCondition s.now .inProgress deploy))
      else some s
    | .returns (some deploy) => some (s.update served deploy)
    | _ => some s
  | .cleanupDone result =>
    s.secret.map fun secret => { s with secret := some { secret with garbageCollectionDone := true, result } }

def outcomeTime (deploy : Deployment) : Option Nat :=
  match deploy.condition with
  | some (.completed, time) | some (.error, time) => some time
  | _ => none

/-- The deployment has an outcome that was written after the cycle had begun. -/
def recorded (s : Cycle) : Bool := (outcomeTime s.deploy).any fun time => s.begun < time

def lawful (s : Cycle) : CycleEvent → Bool
  | .reconcile remainInProvisioning _ =>
    match s.next parse remainInProvisioning with
    | .delete => s.recorded && s.secret.all fun secret => !secret.switchToGarbageCollectionMode ||
        secret.garbageCollectionDone || garbageCollectionTimeout < s.now - s.begun
    | _ => true
  | _ => true

/-- A cycle begins with a new secret, and its result is not the one that the deployment has from an earlier cycle. -/
def isApart (s : Cycle) : CycleEvent → Bool
  | .runGC _ => s.secret.isNone
  | .cleanupDone result => some result ≠ s.deploy.result
  | _ => true

structure Inv (s : Cycle) (secret : Secret) : Prop where
  created : secret.creationTimestamp = some s.begun
  blank : !secret.garbageCollectionDone → secret.result = ""
  ended : some secret.result = s.deploy.result → secret.result = "" ∨ (outcomeTime s.deploy).isSome

variable {parse} {s t : Cycle} {secret : Secret}

theorem Inv.recorded (inv : Inv s secret) (persisted : isGarbageCollectionResultPersisted secret s.deploy) :
    s.recorded := by
  obtain ⟨_, -, _⟩ := inv
  unfold isGarbageCollectionResultPersisted at persisted
  unfold Cycle.recorded outcomeTime at *
  split at persisted <;> simp_all

theorem Inv.update (inv : Inv s secret) (served : Served) {changed : Deployment}
    (isEnded : secret.result = "" ∨ (outcomeTime changed).isSome ∨ changed = s.deploy) :
    Inv (s.update served changed) secret := by
  unfold Cycle.update
  split
  · refine ⟨inv.created, inv.blank, fun same => ?_⟩
    rcases isEnded with blank | isEnded | rfl
    · exact .inl blank
    · exact .inr isEnded
    · exact inv.ended (by simpa using same)
  · exact inv

def Decided (s : Cycle) (secret : Secret) : Next → Prop
  | .delete => isGarbageCollectionResultPersisted secret s.deploy ∧ (secret.switchToGarbageCollectionMode →
      !secret.garbageCollectionDone → isExpired s.now garbageCollectionTimeout secret)
  | .list deploy read =>
    deploy = s.deploy ∧ read = secret ∧ !secret.garbageCollectionDone ∧ !secret.switchToGarbageCollectionMode
  | .switch _ => !secret.garbageCollectionDone
  | .returns (some deploy) => !secret.garbageCollectionDone ∨ (outcomeTime deploy).isSome ∨ deploy = s.deploy
  | _ => True

theorem decided_cancel (unfinished : !secret.garbageCollectionDone)
    (expired : secret.switchToGarbageCollectionMode → isExpired s.now garbageCollectionTimeout secret) :
    s.Decided secret (cancel s.now secret s.deploy) := by
  unfold cancel
  split
  · exact ⟨‹_›, fun started _ => expired started⟩
  · exact .inl unfinished

theorem decided_handle (proper : ∀ result, parse result ≠ some .inProgress) (secret : Secret) :
    s.Decided secret (handle parse s.now .secret (some s.deploy) (.ok (some secret))) := by
  unfold handle
  dsimp only
  split
  · exact .inr (.inr rfl)
  split
  · split
    · exact ⟨‹_›, fun _ unfinished => by simp_all [isGarbageCollectionDone]⟩
    split
    · exact True.intro
    rename_i reason parsed
    cases reason with
    | inProgress => exact absurd parsed (proper _)
    | completed | error => exact .inr (.inl rfl)
  rename_i unfinished
  have unfinished : !secret.garbageCollectionDone := by simpa [isGarbageCollectionDone] using unfinished
  split
  · split
    · exact decided_cancel unfinished fun _ => ‹_›
    · exact .inl unfinished
  · exact ⟨rfl, rfl, unfinished, by simp_all [isGarbageCollectionStarted]⟩

theorem decided_next (proper : ∀ result, parse result ≠ some .inProgress) (stored : s.secret = some secret)
    (remain : Option Nat) : s.Decided secret (s.next parse remain) := by
  have decided := decided_handle (s := s) proper secret
  rw [← stored] at decided
  unfold next
  split
  · rename_i listed
    rw [listed] at decided
    obtain ⟨rfl, rfl, unfinished, _⟩ := decided
    split
    · exact True.intro
    unfold handleListed
    split
    · exact unfinished
    split
    · exact decided_cancel unfinished fun started => by simp_all
    · exact .inl unfinished
  · exact decided

theorem next_none (absent : s.secret = none) (remain : Option Nat) :
    s.next parse remain = .returns (some s.deploy) := by
  unfold next handle
  rw [absent]
  cases deleting : s.deploy.deletionTimestamp.isSome <;> simp [deleting]

theorem update_secret (served : Served) (deploy : Deployment) : (s.update served deploy).secret = s.secret := by
  unfold update
  split <;> rfl

theorem runGC_inv {served : Served} (absent : s.secret = none) (taken : s.step parse (.runGC served) = some t) :
    ∀ secret ∈ t.secret, Inv t secret := by
  intro secret stored
  unfold step at taken
  dsimp only at taken
  split at taken <;> cases taken
  · rw [update_secret] at stored
    split at stored
    · cases stored
      rw [initiated, absent]
      refine Inv.update ?_ served (.inl rfl)
      rw [if_pos ‹_›]
      exact ⟨rfl, fun _ => rfl, fun _ => .inl rfl⟩
    · cases absent.symm.trans stored
  · cases absent.symm.trans stored

theorem reconcile_inv (proper : ∀ result, parse result ≠ some .inProgress) {remain : Option Nat} {served : Served}
    (inv : ∀ secret ∈ s.secret, Inv s secret) (taken : s.step parse (.reconcile remain served) = some t) :
    ∀ secret ∈ t.secret, Inv t secret := by
  intro secret stored
  cases read : s.secret with
  | none =>
    simp only [step, next_none read] at taken
    cases taken
    rw [update_secret, read] at stored
    cases stored
  | some old =>
    have decided := decided_next proper read remain
    have inv := inv old read
    unfold step at taken
    dsimp only at taken
    generalize s.next parse remain = next at *
    split at taken
    · cases taken
      split at stored
      · cases stored
      · cases read.symm.trans stored
        rwa [if_neg ‹_›]
    · split at taken <;> cases taken
      · rw [update_secret, read] at stored
        cases stored
        refine Inv.update ?_ served (.inl (inv.blank decided))
        exact ⟨inv.created, inv.blank, inv.ended⟩
      · cases read.symm.trans stored
        exact inv
    · cases taken
      rw [update_secret] at stored
      cases read.symm.trans stored
      exact inv.update served (decided.imp_left inv.blank)
    · cases taken
      cases read.symm.trans stored
      exact inv

variable (parse) in
/-- The secret of a cycle is deleted only when its outcome is on the deployment, and a cycle that was switched on not
    before its timeout, where no request begins a cycle while there is a secret and no cycle has the result that is on
    the deployment from an earlier one. -/
theorem cycle_ends_recorded (proper : ∀ result, parse result ≠ some .inProgress) (s : Cycle) (idle : s.secret = none)
    (events : List CycleEvent) (apart : Along (step parse) (fun s event => s.isApart event) s events) :
    Along (step parse) (fun s event => s.lawful parse event) s events := by
  refine @Along.of_invariant _ _ _ _ _ _ (fun s => ∀ secret ∈ s.secret, Inv s secret) ?_ ?_ s (by simp [idle]) apart
  · intro s event t inv apart taken
    cases event with
    | wait =>
      cases taken
      exact fun secret stored => { inv secret stored with }
    | cleanupDone =>
      obtain ⟨old, found, rfl⟩ := Option.map_eq_some_iff.mp taken
      rintro _ ⟨⟩
      exact ⟨(inv old found).created, nofun, fun same => absurd same (of_decide_eq_true apart)⟩
    | runGC => exact runGC_inv (Option.isNone_iff_eq_none.mp apart) taken
    | reconcile => exact reconcile_inv proper inv taken
  intro s event inv _
  unfold lawful
  split
  · rename_i remain _ _
    cases stored : s.secret with
    | none => rw [next_none stored]
    | some secret =>
      have decided := decided_next proper stored remain
      split
      · rename_i deletes
        rw [deletes] at decided
        have inv := inv secret stored
        have expired := decided.2
        rw [isExpired, inv.created] at expired
        rw [inv.recorded decided.1, Option.all_some]
        cases started : secret.switchToGarbageCollectionMode <;> cases ended : secret.garbageCollectionDone <;>
          simp_all
      · rfl
  · rfl

def idleCycle : Cycle := ⟨0, none, ⟨none, none, none⟩, 0⟩

def allServed : Served := ⟨true, true, true⟩

def cycleOf (result : String) : List CycleEvent :=
  [.runGC allServed, .reconcile (some 0) allServed, .wait 30, .cleanupDone result, .reconcile none allServed,
    .reconcile none allServed]

def succeeded (_ : String) : Option GarbageCollectionReason := some .completed

theorem cycle_ends_recorded_twice : (run (step succeeded) idleCycle (cycleOf "1 image" ++ cycleOf "no images")).isSome ∧
      Along (step succeeded) (fun s event => s.lawful succeeded event) idleCycle
        (cycleOf "1 image" ++ cycleOf "no images") :=
  ⟨rfl, cycle_ends_recorded succeeded nofun idleCycle rfl _ (by decide +kernel)⟩

/-- A cycle is begun anew over the secret of one whose outcome is written, and two updates of the status fail. -/
def reused : List CycleEvent :=
  [.runGC allServed, .reconcile (some 0) allServed, .wait 30, .cleanupDone "1 image", .reconcile none allServed,
    .wait 10, .runGC { allServed with status := false }, .reconcile (some 0) { allServed with status := false },
    .wait 30, .cleanupDone "no images", .reconcile none allServed]

/-- A cycle that was begun anew is ended with the outcome of the one before it, or is cut short by the timeout of the
    one before it. -/
theorem cycle_ends_unrecorded :
    let ok := fun (s : Cycle) event => s.lawful succeeded event = true
    ¬Along (step succeeded) ok idleCycle reused ∧
      ¬Along (step succeeded) ok idleCycle [.runGC allServed, .reconcile (some 1) allServed, .wait 7000,
        .runGC allServed, .reconcile (some 0) allServed, .wait 201, .reconcile none allServed,
        .reconcile none allServed] := by
  decide +kernel

end Cycle

end Virtualization.Dvcr
