import Mathlib
import Virtualization.Dvcr.Collection

namespace Virtualization.Dvcr

open Bool Virtualization.Core Library List Store Watched

inductive PassStage where
  | fetched | passed | handled
deriving DecidableEq

structure Pass where
  (fetched changed : Resource)
  stage : PassStage

inductive Collector where
  | idle
  | initiating (now : Nat)
  | deleting
  | listing (now : Nat) (deploy : Deployment) (secret : Secret)
  | switching

def Collector.next (now : Nat) : Next → Collector
  | .initiate _ => .initiating now
  | .delete => .deleting
  | .list deploy secret => .listing now deploy secret
  | .switch _ => .switching
  | .returns _ | .fails => .idle

def Collector.isSwitching : Collector → Bool
  | .switching => true
  | _ => false

structure CollectionWorld where
  resources : Watched (Store Resource)
  secrets : Watched (Store Secret)
  pods : List Pod
  passes : List Pass
  collector : Collector

inductive CollectionEvent where
  | create (key : ResourceKey) (dataSource : Option DataSource)
  | edit (key : ResourceKey) (dataSource : Option DataSource)
  | delete (key : ResourceKey)
  | gone (key : ResourceKey)
  | observeResources (count : Nat)
  | observeSecrets (count : Nat)
  | fetch (key : ResourceKey)
  | postpone (key : ResourceKey) (fails : Bool)
  | sync (key : ResourceKey) (outcome : Outcome)
  | update (key : ResourceKey) (answer : Answer)
  | drop (key : ResourceKey)
  | upload (key : ResourceKey)
  | complete (key : ResourceKey)
  | podGone (key : ResourceKey)
  | collect (now : Nat) (request : Request) (deploy : Option Deployment) (fails : Bool)
  | initiate (answer : Answer)
  | deleteSecret (answer : Answer)
  | list
  | switch (answer : Answer)
  | dropCollector
  | cleanupDone (result : String)

namespace CollectionWorld

variable (w : CollectionWorld)

def pass? (key : ResourceKey) : Option Pass := w.passes.find? (·.fetched.key = key)

def setPass (key : ResourceKey) (pass : Pass) : CollectionWorld :=
  { w with passes := w.passes.map fun other => if other.fetched.key = key then pass else other }

def endPass (key : ResourceKey) : CollectionWorld :=
  { w with passes := w.passes.filter (·.fetched.key ≠ key) }

def secret : Option Secret := w.secrets.now.get? ()

def readSecret (fails : Bool) : Except Unit (Option Secret) :=
  if fails then .error () else .ok (w.secrets.cached.get? ())

def pushResources (resources : Store Resource) : CollectionWorld :=
  { w with resources := w.resources.push resources }

def requestSecret (answer : Answer) (result : Except WriteError (Store Secret)) : CollectionWorld :=
  { w with secrets := w.secrets.push (w.secrets.now.request answer result).2, collector := .idle }

end CollectionWorld

def act (action : PodAction) (owner : ResourceKey) (pods : List Pod) : List Pod :=
  match action with
  | .none => pods
  | .start => if pods.any (·.owner = owner) then pods else pods ++ [⟨owner, .waiting, false⟩]
  | .cleanUp => pods.map fun pod => if pod.owner = owner then { pod with terminating := true } else pod

def setPhase (phase : PodPhase) (owner : ResourceKey) (pods : List Pod) : List Pod :=
  pods.map fun pod => if pod.owner = owner ∧ pod.phase ≠ .complete then { pod with phase } else pod

/-- What the handlers behind the postpone handler do differs by kind and data source: any outcome is possible. The
    deployment is read from the cache, and any can be. -/
def collectionStep (parse : String → Option GarbageCollectionReason) (w : CollectionWorld) :
    CollectionEvent → Option CollectionWorld
  | .create key dataSource =>
    match w.resources.now.create ⟨key, 0, false, dataSource, none⟩ with
    | .ok resources => some (w.pushResources resources)
    | .error _ => none
  | .edit key dataSource =>
    (w.resources.now.get? key).map fun stored =>
      w.pushResources (w.resources.now.write { stored with dataSource })
  | .delete key =>
    (w.resources.now.get? key).map fun stored =>
      w.pushResources (w.resources.now.write { stored with deleting := true })
  | .gone key =>
    if (w.resources.now.get? key).any (·.deleting) then some (w.pushResources (w.resources.now.remove key)) else none
  | .observeResources count => some { w with resources := w.resources.observe count }
  | .observeSecrets count => some { w with secrets := w.secrets.observe count }
  | .fetch key =>
    match w.pass? key, w.resources.cached.get? key with
    | none, some resource => some { w with passes := w.passes ++ [⟨resource, resource, .fetched⟩] }
    | _, _ => none
  | .postpone key fails =>
    match w.pass? key with
    | some ⟨fetched, _, .fetched⟩ =>
      match postpone (w.readSecret fails) fetched with
      | (changed, .stop) => some (w.setPass key ⟨fetched, changed, .handled⟩)
      -- A handler that fails does not stop the chain.
      | (changed, _) => some (w.setPass key ⟨fetched, changed, .passed⟩)
    | _ => none
  | .sync key outcome =>
    match w.pass? key with
    | some ⟨fetched, changed, .passed⟩ =>
      some { w.setPass key ⟨fetched, { changed with ready := outcome.ready }, .handled⟩ with
        pods := act outcome.action key w.pods }
    | _ => none
  | .update key answer =>
    match w.pass? key with
    | some ⟨_, changed, .handled⟩ =>
      some ((w.endPass key).pushResources (w.resources.now.request answer (w.resources.now.update changed)).2)
    | _ => none
  | .drop key => some (w.endPass key)
  | .upload key => some { w with pods := setPhase .writing key w.pods }
  | .complete key => some { w with pods := setPhase .complete key w.pods }
  | .podGone key => some { w with pods := w.pods.filter (·.owner ≠ key) }
  | .collect now request deploy fails =>
    match w.collector with
    | .idle => some { w with collector := .next now (handle parse now request deploy (w.readSecret fails)) }
    | _ => none
  | .initiate answer =>
    match w.collector with
    | .initiating now =>
      some (w.requestSecret answer (initiateGarbageCollectionMode now (w.secrets.cached.get? ()) w.secrets.now))
    | _ => none
  | .deleteSecret answer =>
    match w.collector with
    | .deleting => some (w.requestSecret answer (.ok (w.secrets.now.remove ())))
    | _ => none
  | .list =>
    match w.collector with
    | .listing now deploy secret =>
      let resourcesInProvisioning := listAllInProvisioning w.resources.cached.objects
      some { w with collector := .next now (handleListed now secret deploy resourcesInProvisioning.length) }
    | _ => none
  | .switch answer =>
    match w.collector with
    | .switching =>
      some (w.requestSecret answer (switchToGarbageCollectionMode (w.secrets.cached.get? ()) w.secrets.now))
    | _ => none
  | .dropCollector => some { w with collector := .idle }
  | .cleanupDone result =>
    w.secret.map fun stored =>
      { w with
        secrets := w.secrets.push (w.secrets.now.write
          { stored with garbageCollectionDone := true, switchToGarbageCollectionMode := false, result }) }

def emptyStore {α κ : Type} [Object α κ] : Store α := ⟨0, [], nodup_nil, nofun⟩

def CollectionWorld.start (resources : Store Resource) (pods : List Pod) : CollectionWorld :=
  ⟨.synced resources, .synced emptyStore, pods, [], .idle⟩

def collecting (secret : Option Secret) : Bool :=
  secret.any fun secret => secret.switchToGarbageCollectionMode && !secret.garbageCollectionDone

def shown (resources : List Resource) (owner : ResourceKey) : Bool :=
  resources.any fun resource => resource.key = owner && inProvisioning resource &&
    (resource.key.kind ≠ .diskDevice || vdHasDVCRStage resource)

/-- A postpone handler reads the present secret, an importer or uploader is started by a pass whose postpone handler has
    looked at it, and when the resources are listed, those with an unfinished importer or uploader show as in
    provisioning and no pass is behind its postpone handler. -/
def calm (w : CollectionWorld) : CollectionEvent → Bool
  | .postpone _ fails => !fails && w.secrets.cached.get? () = w.secret
  | .sync key outcome => outcome.action ≠ .start || (w.pass? key).any fun pass => consults pass.fetched
  | .list =>
    (w.pods.all fun pod => pod.phase = .complete || shown w.resources.cached.objects pod.owner) &&
      w.passes.all (·.stage ≠ .passed)
  | _ => true

structure Quiet (pods : List Pod) (passes : List Pass) : Prop where
  pods : ∀ pod ∈ pods, pod.phase = .complete
  passes : ∀ pass ∈ passes, pass.stage = .passed → consults pass.fetched = false

structure CollectionInv (w : CollectionWorld) : Prop where
  tracked : w.secrets.Tracked
  quiet : w.collector.isSwitching ∨ isGarbageCollectionStarted w.secret →
    isGarbageCollectionInitiatedOrInProgress w.secret → Quiet w.pods w.passes

namespace Quiet

variable {pods : List Pod} {passes : List Pass} {key : ResourceKey} (quiet : Quiet pods passes)
include quiet

theorem fewer {fewerPods : List Pod} {fewerPasses : List Pass} (podsKept : ∀ pod ∈ fewerPods, pod ∈ pods)
    (passesKept : ∀ pass ∈ fewerPasses, pass ∈ passes) : Quiet fewerPods fewerPasses :=
  ⟨fun pod member => quiet.pods pod (podsKept pod member),
   fun pass member => quiet.passes pass (passesKept pass member)⟩

theorem setPhase (phase : PodPhase) : Quiet (setPhase phase key pods) passes := by
  refine ⟨fun _ member => ?_, quiet.passes⟩
  obtain ⟨old, before, rfl⟩ := mem_map.mp member
  have complete := quiet.pods old before
  rw [if_neg fun both => both.2 complete]
  exact complete

theorem act {action : PodAction} (idle : action ≠ .start) : Quiet (act action key pods) passes := by
  refine ⟨fun pod member => ?_, quiet.passes⟩
  cases action with
  | none => exact quiet.pods pod member
  | start => exact absurd rfl idle
  | cleanUp =>
    obtain ⟨old, before, rfl⟩ := mem_map.mp member
    have complete := quiet.pods old before
    split
    all_goals exact complete

theorem setPass {pass : Pass} (passive : pass.stage = .passed → consults pass.fetched = false) :
    Quiet pods (passes.map fun other => if other.fetched.key = key then pass else other) := by
  refine ⟨quiet.pods, fun _ member stage => ?_⟩
  obtain ⟨old, before, rfl⟩ := mem_map.mp member
  split at stage
  · rename_i same
    rw [if_pos same]
    exact passive stage
  rename_i different
  rw [if_neg different]
  exact quiet.passes old before stage

end Quiet

section Lists

variable {resources : List Resource} {owner : ResourceKey}

theorem shown_listed (seen : shown resources owner) : listAllInProvisioning resources ≠ [] := by
  obtain ⟨resource, member, fits⟩ := any_eq_true.mp seen
  simp only [and_eq_true, or_eq_true, decide_eq_true_eq] at fits
  obtain ⟨⟨-, provisioning⟩, staged⟩ := fits
  have listed : resource ∈ listAllInProvisioning resources := by
    simp only [listAllInProvisioning, listImagesInProvisioning, listVirtualDisksInProvisioning, mem_append,
      mem_filter, and_eq_true, decide_eq_true_eq]
    cases kind : resource.key.kind with
    | diskDevice => exact .inr ⟨member, ⟨rfl, staged.resolve_left fun other => other kind⟩, provisioning⟩
    | imageDevice => exact .inl (.inr ⟨member, rfl, provisioning⟩)
    | clusterImageDevice => exact .inl (.inl ⟨member, rfl, provisioning⟩)
  exact ne_nil_of_mem listed

end Lists

theorem handleListed_switch {now : Nat} {secret : Secret} {deploy : Deployment} {remain : Nat}
    (switches : (Collector.next now (handleListed now secret deploy remain)).isSwitching) : remain = 0 := by
  unfold handleListed cancel at switches
  repeat' split at switches
  all_goals first | assumption | cases switches

theorem secret_write {secrets : Store Secret} {old : Secret} (found : secrets.get? () = some old) (new : Secret) :
    (secrets.write new).get? () = some { new with resourceVersion := secrets.revision + 1 } :=
  get?_write_self found rfl

namespace CollectionInv

variable {w : CollectionWorld}

section

variable (inv : CollectionInv w)
include inv

theorem withResources (resources : Watched (Store Resource)) :
    CollectionInv { w with resources } := ⟨inv.tracked, inv.quiet⟩

theorem withQuiet {pods : List Pod} {passes : List Pass}
    (kept : isGarbageCollectionInitiatedOrInProgress w.secret → Quiet w.pods w.passes → Quiet pods passes) :
    CollectionInv { w with pods, passes } :=
  ⟨inv.tracked, fun either mode => kept mode (inv.quiet either mode)⟩

open CollectionWorld

theorem observe (count : Nat) : CollectionInv { w with secrets := w.secrets.observe count } := by
  refine ⟨inv.tracked.observe count, fun either mode => ?_⟩
  simp only [secret, now_observe] at either mode
  exact inv.quiet either mode

theorem withCollector {collector : Collector}
    (decided : collector.isSwitching → Quiet w.pods w.passes) : CollectionInv { w with collector } := by
  refine ⟨inv.tracked, fun either mode => ?_⟩
  rcases either with switching | started
  · exact decided switching
  · exact inv.quiet (.inr started) mode

theorem requestSecret (answer : Answer) {result : Except WriteError (Store Secret)}
    (kept : ∀ secrets copy, result = .ok secrets → w.secrets.now.Snapshot copy → secrets.Snapshot copy)
    (served : ∀ secrets, result = .ok secrets → isGarbageCollectionStarted (secrets.get? ()) →
      isGarbageCollectionInitiatedOrInProgress (secrets.get? ()) → Quiet w.pods w.passes) :
    CollectionInv (w.requestSecret answer result) := by
  rcases w.secrets.now.request_cases answer result with ⟨same, -⟩ | done
  · refine ⟨inv.tracked.push fun copy snapshot => by rw [same]; exact snapshot, fun either mode => ?_⟩
    simp only [CollectionWorld.requestSecret, CollectionWorld.secret, now_push, same] at either mode
    exact inv.quiet (.inr (either.resolve_left false_ne_true)) mode
  refine ⟨inv.tracked.push fun copy snapshot => kept _ copy done snapshot, fun either mode => ?_⟩
  simp only [CollectionWorld.requestSecret, CollectionWorld.secret, now_push] at either mode
  exact served _ done (either.resolve_left false_ne_true) mode

theorem postpone {key : ResourceKey} {fetched changed : Resource} {result : HandlerResult}
    (handled : Dvcr.postpone (.ok w.secret) fetched = (changed, result)) (stage : PassStage)
    (passed : stage = .passed → result ≠ .stop) : CollectionInv (w.setPass key ⟨fetched, changed, stage⟩) := by
  refine inv.withQuiet fun mode quiet => quiet.setPass fun is => eq_false_iff.mpr fun looks => ?_
  have stops := postpone_stops looks mode
  rw [handled] at stops
  exact passed is stops

theorem sync {key : ResourceKey} {fetched changed : Resource} {outcome : Outcome}
    (found : w.pass? key = some ⟨fetched, changed, .passed⟩)
    (looked : outcome.action ≠ .start ∨ consults fetched) (after : Resource) :
    CollectionInv { w.setPass key ⟨fetched, after, .handled⟩ with pods := act outcome.action key w.pods } := by
  refine inv.withQuiet fun mode quiet => (quiet.act (looked.resolve_right fun looks => ?_)).setPass nofun
  rw [quiet.passes _ (mem_of_find?_eq_some found) rfl] at looks
  cases looks

theorem initiate (answer : Answer) (now : Nat) : CollectionInv (w.requestSecret answer
      (initiateGarbageCollectionMode now (w.secrets.cached.get? ()) w.secrets.now)) := by
  cases read : w.secrets.cached.get? () with
  | none =>
    refine inv.requestSecret answer (fun secrets copy created snapshot => snapshot.create created) ?_
    intro secrets created started
    rw [get?_create created] at started
    cases started
  | some copy =>
    refine inv.requestSecret answer (fun secrets copy updated snapshot => snapshot.update updated) ?_
    intro secrets updated started
    have snapshot := inv.tracked _ w.secrets.cached_mem () copy read
    obtain ⟨found, ⟨rfl, same⟩ | rfl⟩ := update_ok updated snapshot rfl rfl
    · rw [show w.secrets.now.get? () = some copy from found, ← same] at started
      cases started
    rw [secret_write found] at started
    cases started

theorem switch (answer : Answer) (switching : w.collector.isSwitching) : CollectionInv (w.requestSecret answer
      (switchToGarbageCollectionMode (w.secrets.cached.get? ()) w.secrets.now)) := by
  cases read : w.secrets.cached.get? () with
  | none => exact inv.requestSecret answer nofun nofun
  | some copy =>
    refine inv.requestSecret answer (fun secrets copy updated snapshot => snapshot.update updated) ?_
    intro secrets updated _ mode
    have snapshot := inv.tracked _ w.secrets.cached_mem () copy read
    obtain ⟨found, after⟩ := update_ok updated snapshot rfl rfl
    refine inv.quiet (.inl switching) ?_
    change isGarbageCollectionInitiatedOrInProgress (w.secrets.now.get? ()) = true
    rcases after with ⟨rfl, -⟩ | rfl
    · exact mode
    rw [secret_write found] at mode
    rw [show w.secrets.now.get? () = some copy from found]
    exact mode

theorem cleanupDone {stored : Secret} (found : w.secret = some stored) (result : String) : CollectionInv { w with
      secrets := w.secrets.push (w.secrets.now.write
        { stored with garbageCollectionDone := true, switchToGarbageCollectionMode := false, result }) } := by
  refine ⟨inv.tracked.push fun copy snapshot => snapshot.write _, fun _ mode => ?_⟩
  simp only [secret, now_push] at mode
  rw [secret_write found] at mode
  cases mode

theorem list {now : Nat} {deploy : Deployment} {secret : Secret}
    (shows : ∀ pod ∈ w.pods, pod.phase = .complete ∨ shown w.resources.cached.objects pod.owner)
    (none : ∀ pass ∈ w.passes, pass.stage ≠ .passed) : CollectionInv { w with
      collector := .next now (handleListed now secret deploy
        (listAllInProvisioning w.resources.cached.objects).length) } := by
  refine inv.withCollector fun switches => ⟨fun pod member => ?_, fun pass member is => absurd is (none pass member)⟩
  have empty := length_eq_zero_iff.mp (handleListed_switch switches)
  exact (shows pod member).resolve_right fun seen => shown_listed seen empty

theorem step {parse : String → Option GarbageCollectionReason} {event : CollectionEvent}
    {t : CollectionWorld} (isCalm : calm w event) (taken : collectionStep parse w event = some t) :
    CollectionInv t := by
  cases event with
  | create key dataSource | gone key =>
    dsimp only [collectionStep] at taken
    split at taken <;> cases taken
    exact inv.withResources _
  | edit key dataSource | delete key =>
    obtain ⟨_, -, rfl⟩ := Option.map_eq_some_iff.mp taken
    exact inv.withResources _
  | observeResources =>
    cases taken
    exact inv.withResources _
  | observeSecrets count =>
    cases taken
    exact inv.observe count
  | fetch =>
    dsimp only [collectionStep] at taken
    split at taken <;> cases taken
    refine inv.withQuiet fun _ quiet => ⟨quiet.pods, fun pass member is => ?_⟩
    rcases mem_append.mp member with before | new
    · exact quiet.passes pass before is
    rw [mem_singleton.mp new] at is
    cases is
  | postpone _ fails =>
    obtain ⟨succeeds, current⟩ := and_eq_true_iff.mp isCalm
    rw [not_eq_true'] at succeeds
    have read : w.readSecret fails = .ok w.secret := by
      rw [readSecret, succeeds, ← of_decide_eq_true current]
      rfl
    dsimp only [collectionStep] at taken
    rw [read] at taken
    split at taken
    · split at taken
      · rename_i handled
        cases taken
        exact inv.postpone handled .handled (by simp)
      rename_i goesOn handled
      cases taken
      exact inv.postpone handled .passed fun _ => goesOn
    · cases taken
  | sync =>
    dsimp only [collectionStep] at taken
    split at taken
    · rename_i found
      cases taken
      rw [calm, found, or_eq_true, decide_eq_true_eq] at isCalm
      exact inv.sync found isCalm _
    · cases taken
  | update =>
    dsimp only [collectionStep] at taken
    split at taken <;> cases taken
    exact (inv.withQuiet fun _ quiet => quiet.fewer (fun _ => id) fun _ => mem_of_mem_filter).withResources _
  | drop =>
    cases taken
    exact inv.withQuiet fun _ quiet => quiet.fewer (fun _ => id) fun _ => mem_of_mem_filter
  | upload =>
    cases taken
    exact inv.withQuiet fun _ quiet => quiet.setPhase .writing
  | complete =>
    cases taken
    exact inv.withQuiet fun _ quiet => quiet.setPhase .complete
  | podGone =>
    cases taken
    exact inv.withQuiet fun _ quiet => quiet.fewer (fun _ => mem_of_mem_filter) fun _ => id
  | collect =>
    dsimp only [collectionStep] at taken
    split at taken <;> cases taken
    refine inv.withCollector fun switches => ?_
    unfold handle cancel at switches
    repeat' split at switches
    all_goals cases switches
  | initiate answer =>
    dsimp only [collectionStep] at taken
    split at taken <;> cases taken
    exact inv.initiate answer _
  | deleteSecret answer =>
    dsimp only [collectionStep] at taken
    split at taken <;> cases taken
    refine inv.requestSecret answer (fun secrets _ removed snapshot => ?_) fun _ removed started => ?_
    · cases removed
      exact snapshot.remove ()
    cases removed
    rw [get?_remove, if_pos rfl] at started
    cases started
  | list =>
    dsimp only [collectionStep] at taken
    split at taken <;> cases taken
    simp only [calm, and_eq_true, all_eq_true, or_eq_true, decide_eq_true_eq] at isCalm
    exact inv.list isCalm.1 isCalm.2
  | switch answer =>
    dsimp only [collectionStep] at taken
    split at taken
    · rename_i switching
      cases taken
      exact inv.switch answer (by rw [switching]; rfl)
    · cases taken
  | dropCollector =>
    cases taken
    exact inv.withCollector (by rintro ⟨⟩)
  | cleanupDone result =>
    obtain ⟨_, found, rfl⟩ := Option.map_eq_some_iff.mp taken
    exact inv.cleanupDone found result

end

theorem start (resources : Store Resource) (pods : List Pod) : CollectionInv (.start resources pods) := by
  refine ⟨fun _ member _ _ found => ?_, fun _ mode => ?_⟩
  · rw [mem_singleton.mp member] at found
    cases found
  · cases mode

end CollectionInv

/-- While the garbage collection is on, every importer and uploader has finished. -/
theorem collection_excludes_writes (parse : String → Option GarbageCollectionReason) (resources : Store Resource)
    (pods : List Pod) (events : List CollectionEvent) (w : CollectionWorld)
    (along : Along (collectionStep parse) (fun w event => calm w event = true) (.start resources pods) events)
    (reached : run (collectionStep parse) (.start resources pods) events = some w)
    (on : collecting w.secret = true) : ∀ pod ∈ w.pods, pod.phase = .complete := by
  have inv : CollectionInv w :=
    run_invariant (fun _ _ _ inv isCalm taken => inv.step isCalm taken)
      (CollectionInv.start resources pods) along reached
  obtain ⟨_, found, both⟩ := Option.any_eq_true _ _ |>.mp on
  obtain ⟨started, unfinished⟩ := and_eq_true_iff.mp both
  refine (inv.quiet (.inr ?_) ?_).pods
  · rw [found]
    exact started
  rw [found]
  exact unfinished

def imageKey : ResourceKey := ⟨.imageDevice, "default", "image"⟩

def freshPass (outcome : Outcome) : List CollectionEvent :=
  [.observeResources 9, .observeSecrets 9, .fetch imageKey, .postpone imageKey false, .sync imageKey outcome,
   .update imageKey .ok]

def collection : List CollectionEvent :=
  [.collect 10 .runGC (some ⟨none, none, none⟩) false, .initiate .ok, .observeSecrets 9, .observeResources 9,
    .collect 11 .secret (some ⟨none, none, none⟩) false, .list, .switch .ok]

def uploaderReady : UploadAnswers where
  serviceExists := true
  serviceTerminating := false
  exposureEnsured := true
  uploaderReady := true
  uploadStarted := false
  waitExpired := false
  checkPod := none
  apply := none
  podCreated := true

theorem collection_excludes_writes_imported : ∃ w, run (collectionStep fun _ => none) (.start emptyStore [])
      ([.create imageKey (some .http)] ++ freshPass ⟨some ⟨.conditionFalse, .provisioning⟩, .start⟩ ++
        [.complete imageKey] ++ freshPass ⟨some ⟨.conditionTrue, .ready⟩, .none⟩ ++ collection) = some w ∧
      w.pods.length = 1 ∧ collecting w.secret = true ∧ ∀ pod ∈ w.pods, pod.phase = .complete := by
  refine exists_some_imp (p := fun w => w.pods.length = 1 ∧ collecting w.secret = true) (by decide +kernel) ?_
  rintro w reached ⟨one, on⟩
  exact ⟨one, on, collection_excludes_writes (fun _ => none) emptyStore [] _ w (by decide +kernel) reached on⟩

/-- An uploader that waits for its user does not count as busy. It stays when the garbage collection is switched on, and
    the upload goes through. -/
theorem collection_meets_upload : ∃ w, run (collectionStep fun _ => none) (.start emptyStore [])
      ([.create imageKey (some .upload)] ++ freshPass (storeUploadToDVCR uploaderReady none none) ++
        freshPass (storeUploadToDVCR uploaderReady (some ⟨imageKey, .waiting, false⟩)
          (some ⟨.conditionFalse, .provisioning⟩)) ++ collection ++ [.upload imageKey]) = some w ∧
      collecting w.secret = true ∧ w.pods = [⟨imageKey, .writing, false⟩] := by
  decide +kernel

end Virtualization.Dvcr
