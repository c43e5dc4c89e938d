import Virtualization.Attachment.LifeCycle
import Virtualization.Library.Contest
import Virtualization.Library.Run

namespace Virtualization.Attachment

open Attachment Virtualization.Core Library List

def Rival (ns disk : String) (vmbda : VMBDA) : Prop :=
  vmbda.ns = ns ∧ vmbda.blockDeviceRef = ⟨.diskDevice, disk⟩

instance (ns disk : String) : DecidablePred (Rival ns disk) := fun vmbda => by
  unfold Rival
  infer_instance

def rivals (ns disk : String) (c : Cluster) : List VMBDA := c.vmbdas.filter (Rival ns disk)

def rank (vmbda : VMBDA) : Lex (Int × List Char) := toLex (vmbda.creationTimestamp, vmbda.name.toList)

theorem conflictsWith_eq_false (vmbda other : VMBDA) :
    conflictsWith vmbda other = false ↔ ¬ Started other ∧ rank vmbda ≤ rank other := by
  have earlier : rank other < rank vmbda ↔ other.creationTimestamp < vmbda.creationTimestamp ∨
      other.creationTimestamp = vmbda.creationTimestamp ∧ other.name < vmbda.name := by
    rw [rank, rank, Prod.Lex.toLex_lt_toLex, String.lt_iff_toList_lt]
  rw [← not_lt, earlier, conflictsWith, decide_eq_false_iff_not, not_or]

section

variable {ns disk : String} {c : Cluster} {vmbda : VMBDA}

theorem mem_rivals : vmbda ∈ rivals ns disk c ↔ vmbda ∈ c.vmbdas ∧ Rival ns disk vmbda := by
  simp [rivals]

theorem rank_ne {other : VMBDA} (distinct : other.name ≠ vmbda.name) : rank other ≠ rank vmbda := by
  intro same
  exact distinct (String.toList_injective (congrArg (fun key => (ofLex key).2) same))

theorem isConflictedAttachment_none (rival : Rival ns disk vmbda)
    (named : ∀ other ∈ rivals ns disk c, other.name = vmbda.name → rank other = rank vmbda) :
    isConflictedAttachment c vmbda = none ↔ Ahead rank Started (rivals ns disk c) vmbda := by
  obtain ⟨rfl, device⟩ := rival
  simp only [isConflictedAttachment, device, reduceCtorEq, or_self, if_false, Option.map_eq_none_iff,
    find?_eq_none, decide_eq_true_eq]
  constructor
  · intro none_ other member different
    obtain ⟨present, sameNs, sameDevice⟩ := mem_rivals.mp member
    have distinct : other.name ≠ vmbda.name := fun same => different (named other member same)
    have clear : conflictsWith vmbda other = false := by
      simpa [sameNs, sameDevice, distinct] using none_ other present
    obtain ⟨idle, behind⟩ := (conflictsWith_eq_false vmbda other).mp clear
    exact ⟨idle, lt_of_le_of_ne behind different.symm⟩
  rintro ahead other present ⟨sameNs, relevant, conflict⟩
  obtain ⟨distinct, sameDevice⟩ := not_or.mp relevant
  have member : other ∈ rivals vmbda.ns disk c := mem_rivals.mpr ⟨present, sameNs, not_not.mp sameDevice⟩
  obtain ⟨idle, behind⟩ := ahead other member (rank_ne distinct)
  exact absurd conflict (by simp [(conflictsWith_eq_false vmbda other).mpr ⟨idle, behind.le⟩])

end

/-- The cluster, the attachments whose creation the webhook has let pass, and the names of the
    attachments of the disk that have sent a request. -/
structure World where
  cluster : Cluster
  approved : List VMBDA
  requested : List String

inductive Action where
  | surroundings (c : Cluster)
  | validate (vmbda : VMBDA) (listFails : Bool)
  | store (vmbda : VMBDA)
  | pass (name : String) (answers : Answers)
      (conditions : List (Condition AttachmentConditionType AttachmentConditionReason))

def Storable (ns disk : String) (w : World) (vmbda : VMBDA) : Prop :=
  vmbda ∈ w.approved ∧ Rival ns disk vmbda ∧ vmbda.phase = .unset ∧ vmbda.deletionTimestamp = none ∧
    (∀ other ∈ w.cluster.vmbdas, other.ns = ns → other.name ≠ vmbda.name) ∧
    ∀ other ∈ rivals ns disk w.cluster, other.creationTimestamp ≤ vmbda.creationTimestamp
deriving Decidable

def lifeCyclePass (answers : Answers)
    (conditions : List (Condition AttachmentConditionType AttachmentConditionReason)) (w : World) (vmbda : VMBDA) :
    World :=
  let result := lifeCycleHandler answers w.cluster { vmbda with conditions }
  { w with
    cluster := replaceAttachment vmbda result.1 w.cluster
    requested := if result.2.isSome then vmbda.name :: w.requested else w.requested }

def step (ns disk : String) (w : World) : Action → Option World
  | .surroundings c => if rivals ns disk c = rivals ns disk w.cluster then some { w with cluster := c } else none
  | .validate vmbda listFails =>
    if validateCreate listFails w.cluster vmbda = none then some { w with approved := vmbda :: w.approved } else none
  | .store vmbda =>
    if Storable ns disk w vmbda then
      some { w with cluster.vmbdas := w.cluster.vmbdas ++ [vmbda] }
    else none
  | .pass name answers conditions =>
    ((rivals ns disk w.cluster).find? (·.name = name)).map (lifeCyclePass answers conditions w)

def World.start (c : Cluster) : World := { cluster := c, approved := [], requested := [] }

def StillAccepted (w : World) : Action → Prop
  | .store vmbda => isConflictedAttachment w.cluster vmbda = none
  | _ => True

instance (w : World) (action : Action) : Decidable (StillAccepted w action) := by
  cases action <;> unfold StillAccepted <;> infer_instance

structure Orderly (ns disk : String) (w : World) : Prop where
  named : ∀ x ∈ rivals ns disk w.cluster, ∀ y ∈ rivals ns disk w.cluster, x.name = y.name → x = y
  contest : Contest rank Started (rivals ns disk w.cluster)
  present : ∀ x ∈ rivals ns disk w.cluster, x.deletionTimestamp = none
  requested : ∀ name ∈ w.requested, ∃ x ∈ rivals ns disk w.cluster, x.name = name ∧ x.phase ≠ .unset

variable {vmbda : VMBDA}

namespace Orderly

variable {ns disk : String} {w : World}

theorem start {c : Cluster} (empty : rivals ns disk c = []) : Orderly ns disk (World.start c) := by
  constructor
  · simp [World.start, empty]
  · exact ⟨by simp [World.start, empty], by simp [World.start, empty]⟩
  · simp [World.start, empty]
  · simp [World.start]

section

variable (orderly : Orderly ns disk w)
include orderly

theorem clear_iff {x : VMBDA} (member : x ∈ rivals ns disk w.cluster) :
    isConflictedAttachment w.cluster x = none ↔ Ahead rank Started (rivals ns disk w.cluster) x := by
  refine isConflictedAttachment_none (mem_rivals.mp member).2 fun other present same => ?_
  rw [orderly.named other present x member same]

theorem surroundings {c : Cluster} (same : rivals ns disk c = rivals ns disk w.cluster) :
    Orderly ns disk { w with cluster := c } := by
  constructor
  · simpa only [same] using orderly.named
  · simpa only [same] using orderly.contest
  · simpa only [same] using orderly.present
  · simpa only [same] using orderly.requested

theorem store (storable : Storable ns disk w vmbda) (accepted : isConflictedAttachment w.cluster vmbda = none) :
    Orderly ns disk { w with cluster.vmbdas := w.cluster.vmbdas ++ [vmbda] } := by
  obtain ⟨-, rival, -, alive, fresh, -⟩ := storable
  have new : ∀ other ∈ rivals ns disk w.cluster, other.name ≠ vmbda.name := by
    intro other member
    obtain ⟨present, inside, -⟩ := mem_rivals.mp member
    exact fresh other present inside
  have extended : rivals ns disk { w.cluster with vmbdas := w.cluster.vmbdas ++ [vmbda] } =
      rivals ns disk w.cluster ++ [vmbda] := by
    simp [rivals, rival]
  have ahead := (isConflictedAttachment_none rival fun other member same => absurd same (new other member)).mp accepted
  constructor
  · simp only [extended, mem_append, mem_singleton]
    rintro x (xMember | rfl) y (yMember | rfl) same
    · exact orderly.named x xMember y yMember same
    · exact absurd same (new x xMember)
    · exact absurd same.symm (new y yMember)
    · rfl
  · simp only [extended]
    exact orderly.contest.enter (fun other member => rank_ne (new other member)) ahead
  · simp only [extended, mem_append, mem_singleton]
    rintro x (member | rfl)
    · exact orderly.present x member
    · exact alive
  intro name sent
  obtain ⟨x, member, rest⟩ := orderly.requested name sent
  exact ⟨x, by simp [extended, member], rest⟩

end

theorem replaced_name {vmbda after : VMBDA} (sameName : after.name = vmbda.name) (x : VMBDA) :
    (if x = vmbda then after else x).name = x.name := by
  split
  · rename_i here
    rw [sameName, here]
  · rfl

theorem rivals_replaceAttachment (ns disk : String) {old new : VMBDA} (c : Cluster) (sameNs : new.ns = old.ns)
    (sameDevice : new.blockDeviceRef = old.blockDeviceRef) : rivals ns disk (replaceAttachment old new c) =
      (rivals ns disk c).map fun vmbda => if vmbda = old then new else vmbda := by
  refine filter_map_kept fun _ _ => ?_
  split
  · rename_i same
    rw [same, Rival, Rival, sameNs, sameDevice]
  · rfl

variable (orderly : Orderly ns disk w)
include orderly

theorem applyVerdict {verdict : Verdict} (member : vmbda ∈ rivals ns disk w.cluster)
    {conditions : List (Condition AttachmentConditionType AttachmentConditionReason)}
    (outcome : Pass w.cluster { vmbda with conditions } verdict) : Orderly ns disk
      { w with
        cluster := replaceAttachment vmbda (applyVerdict verdict { vmbda with conditions }) w.cluster
        requested := if verdict.request.isSome then vmbda.name :: w.requested else w.requested } := by
  generalize written : Attachment.applyVerdict verdict { vmbda with conditions } = after
  have kept : after.ns = vmbda.ns ∧ after.blockDeviceRef = vmbda.blockDeviceRef ∧ after.name = vmbda.name ∧
      after.deletionTimestamp = vmbda.deletionTimestamp ∧ rank after = rank vmbda ∧ after.phase = verdict.phase := by
    subst written
    exact ⟨rfl, rfl, rfl, rfl, rfl, rfl⟩
  obtain ⟨sameNs, sameDevice, sameName, sameDeletion, sameRank, phase⟩ := kept
  have list := rivals_replaceAttachment ns disk w.cluster sameNs sameDevice
  -- the rivals are those before with one of them rewritten, so each field is asked of a `map`
  constructor
  · simp only [list]
    intro x xMember y yMember same
    obtain ⟨x, xBefore, rfl⟩ := mem_map.mp xMember
    obtain ⟨y, yBefore, rfl⟩ := mem_map.mp yMember
    rw [replaced_name sameName, replaced_name sameName] at same
    rw [orderly.named x xBefore y yBefore same]
  · simp only [list]
    refine orderly.contest.map (fun x _ => ?_) fun x xMember started => ?_
    · split
      · rename_i here
        rw [sameRank, here]
      · rfl
    split at started
    · rename_i here
      subst here
      subst written
      exact (outcome.started (orderly.present x xMember) started).imp_right (orderly.clear_iff xMember).mp
    · exact .inl started
  · simp only [list]
    intro x xMember
    obtain ⟨x, xBefore, rfl⟩ := mem_map.mp xMember
    split
    · rw [sameDeletion]
      exact orderly.present vmbda member
    · exact orderly.present x xBefore
  simp only [list]
  have goesOn : vmbda.phase ≠ .unset → after.phase ≠ .unset := fun running => phase ▸ outcome.phase_ne_unset running
  have earlier : ∀ name ∈ w.requested, ∃ y ∈ (rivals ns disk w.cluster).map
      (fun z => if z = vmbda then after else z), y.name = name ∧ y.phase ≠ .unset := by
    intro name sent
    obtain ⟨x, xMember, rfl, running⟩ := orderly.requested name sent
    refine ⟨_, mem_map_of_mem xMember, replaced_name sameName x, ?_⟩
    split
    · rename_i here
      exact goesOn (here ▸ running)
    · exact running
  split
  · rename_i sent
    intro name sentBy
    rcases mem_cons.mp sentBy with rfl | before
    · refine ⟨_, mem_map_of_mem member, ?_⟩
      rw [if_pos rfl, sameName, phase, outcome.phase_of_request sent]
      exact ⟨rfl, by simp⟩
    · exact earlier name before
  · exact earlier

theorem pass (member : vmbda ∈ rivals ns disk w.cluster) (answers : Answers)
    (conditions : List (Condition AttachmentConditionType AttachmentConditionReason)) :
    Orderly ns disk (lifeCyclePass answers conditions w vmbda) :=
  orderly.applyVerdict member (lifeCycleVerdict_pass answers w.cluster { vmbda with conditions })

theorem step {action : Action} (accepted : StillAccepted w action) {next : World}
    (taken : step ns disk w action = some next) : Orderly ns disk next := by
  cases action with
  | surroundings =>
    obtain ⟨same, ⟨⟩⟩ := Option.ite_none_right_eq_some.mp taken
    exact orderly.surroundings same
  | validate =>
    obtain ⟨-, ⟨⟩⟩ := Option.ite_none_right_eq_some.mp taken
    exact { orderly with }
  | store =>
    obtain ⟨storable, ⟨⟩⟩ := Option.ite_none_right_eq_some.mp taken
    exact orderly.store storable accepted
  | pass _ answers conditions =>
    obtain ⟨_, found, rfl⟩ := Option.map_eq_some_iff.mp taken
    exact orderly.pass (mem_of_find?_eq_some found) answers conditions

end Orderly

def passOver (answers : Answers) (conditions : List (Condition AttachmentConditionType AttachmentConditionReason))
    (c : Cluster) (vmbda : VMBDA) : VMBDA :=
  (lifeCycleHandler answers c { vmbda with conditions }).1

def FailedByConflict (vmbda : VMBDA) : Prop :=
  vmbda.phase = .failed ∧ (getCondition .attached vmbda.conditions).1.reason = .conflict
deriving Decidable

theorem one_attachment_goes_ahead {ns disk : String} {c : Cluster} (empty : rivals ns disk c = [])
    {actions : List Action} {w : World} (along : Along (step ns disk) StillAccepted (World.start c) actions)
    (reached : run (step ns disk) (World.start c) actions = some w) : (rivals ns disk w.cluster ≠ [] →
      ∃! x, x ∈ rivals ns disk w.cluster ∧ isConflictedAttachment w.cluster x = none) ∧
    ∀ x ∈ rivals ns disk w.cluster, x.name ∈ w.requested → x.phase ≠ .failed → ∀ answers conditions,
      FailedByConflict (passOver answers conditions w.cluster x) →
        ∃ ad vm kvvm, Target w.cluster x ad vm kvvm ∧ canHotPlug ad vm kvvm = .error .blockDeviceIsSpecAttached := by
  have preserved : ∀ s e t, Orderly ns disk s → StillAccepted s e → step ns disk s e = some t → Orderly ns disk t :=
    fun s e t orderly accepted taken => orderly.step accepted taken
  have orderly := run_invariant preserved (Orderly.start empty) along reached
  constructor
  · intro inhabited
    obtain ⟨x, ⟨member, ahead⟩, unique⟩ := orderly.contest.existsUnique_ahead inhabited
    refine ⟨x, ⟨member, (orderly.clear_iff member).mpr ahead⟩, ?_⟩
    rintro y ⟨present, clear⟩
    exact unique y ⟨present, (orderly.clear_iff present).mp clear⟩
  intro x member sent working answers conditions conflict
  obtain ⟨y, present, same, begun⟩ := orderly.requested x.name sent
  obtain rfl := orderly.named y present x member same
  have clear := (orderly.clear_iff member).mpr (orderly.contest.ahead_of_started member ⟨begun, working⟩)
  have reason : (lifeCycleVerdict answers w.cluster { y with conditions }).reason = .conflict := by
    have stated := conflict.2
    rwa [passOver, lifeCycleHandler, getCondition_applyVerdict] at stated
  rcases (lifeCycleVerdict_pass answers w.cluster { y with conditions }).conflict_cause reason with
    conflicted | ⟨ad, vm, kvvm, target, refused⟩
  · rw [show isConflictedAttachment w.cluster { y with conditions } = none from clear] at conflicted
    cases conflicted
  · exact ⟨ad, vm, kvvm, { target with }, refused⟩

def firstAttachment : List Action :=
  [.validate (newAttachment "b") false, .store (newAttachment "b"), .pass "b" (answering true) allReady]

def sentAttachment : VMBDA := passOver (answering true) allReady (runningWith [] []) (newAttachment "b")

def twoAttachments : List Action :=
  [.validate (newAttachment "b") false, .store (newAttachment "b"), .validate (newAttachment "a") false,
    .store (newAttachment "a"), .pass "b" (answering true) allReady, .pass "a" (answering true) allReady]

theorem one_attachment_goes_ahead_once :
    ∃ w, run (step "default" "data") (World.start (runningWith [] [])) twoAttachments = some w ∧
      (rivals "default" "data" w.cluster).map (fun x => (x.name, x.phase)) = [("b", .failed), ("a", .inProgress)] ∧
      ∃! x, x ∈ rivals "default" "data" w.cluster ∧ isConflictedAttachment w.cluster x = none := by
  have along : Along (step "default" "data") StillAccepted (World.start (runningWith [] [])) twoAttachments := by
    decide
  exact ⟨_, rfl, by decide, (one_attachment_goes_ahead rfl along rfl).1 (by decide)⟩

/-- Three ways to lose: the second attachment is stored after the first one has begun, though it
    was validated before; the disk comes into the specification of the VM; the first attachment
    has failed on its node when the second one comes. -/
theorem requested_attachment_loses :
    (¬ ∀ (ns disk : String) (c : Cluster) (actions : List Action) (w : World), rivals ns disk c = [] →
      run (step ns disk) (World.start c) actions = some w → rivals ns disk w.cluster ≠ [] →
        ∃! x, x ∈ rivals ns disk w.cluster ∧ isConflictedAttachment w.cluster x = none) ∧
    (¬ ∀ (ns disk : String) (c : Cluster) (actions : List Action) (w : World), rivals ns disk c = [] →
      Along (step ns disk) StillAccepted (World.start c) actions →
      run (step ns disk) (World.start c) actions = some w →
        ∀ x ∈ rivals ns disk w.cluster, x.name ∈ w.requested → x.phase ≠ .failed → ∀ answers conditions,
          ¬ FailedByConflict (passOver answers conditions w.cluster x)) ∧
    (¬ ∀ (ns disk : String) (c : Cluster) (actions : List Action) (w : World), rivals ns disk c = [] →
      Along (step ns disk) StillAccepted (World.start c) actions →
      run (step ns disk) (World.start c) actions = some w → (∀ vm ∈ w.cluster.vms, vm.blockDeviceRefs = []) →
        ∀ x ∈ rivals ns disk w.cluster, x.name ∈ w.requested → ∀ answers conditions,
          ¬ FailedByConflict (passOver answers conditions w.cluster x)) := by
  refine ⟨?_, ?_, ?_⟩
  · intro holds
    obtain ⟨x, ⟨_, _⟩, -⟩ := holds "default" "data" (runningWith [] [])
      [.validate (newAttachment "b") false, .store (newAttachment "b"), .validate (newAttachment "a") false,
        .pass "b" (answering true) allReady, .store (newAttachment "a")] _ rfl rfl (by decide)
    revert x
    decide
  · intro holds
    exact holds "default" "data" (runningWith [] [])
      (firstAttachment ++ [.surroundings (runningWith [⟨.diskDevice, "data"⟩] [sentAttachment])]) _ rfl (by decide)
      rfl sentAttachment (by decide) (by decide) (by decide) (answering true) allReady (by decide)
  intro holds
  let failed := passOver (answering false) allReady (runningWith [] []) sentAttachment
  exact holds "default" "data" (runningWith [] [])
    (firstAttachment ++ [.pass "b" (answering false) allReady, .validate (newAttachment "a") false,
      .store (newAttachment "a")]) _ rfl (by decide)
    rfl (by decide) failed (by decide) (by decide) (answering true) allReady (by decide)

end Virtualization.Attachment
