import Virtualization.Pool.Informer

namespace Virtualization.Pool

open Expectations Library List Pass VirtualMachine WatchEvent

def Pass.members : Pass → List VirtualMachine
  | .listed members => members
  | _ => []

/-- The deletion of a member listed as live does not enter the cache between the list of a pass
    and a check that lets it act. -/
def NoLateDeletion (w : World) (action : Action) : Prop :=
  action = .check → w.exp.satisfied w.now w.pool.key →
    ∀ vm ∈ w.pass.members, vm.live → ∀ event ∈ w.since, event.isDeleted → event.vm.uid ≠ vm.uid
deriving Decidable

def ByController : Action → Prop
  | .userDelete _ _ => False
  | _ => True

instance : DecidablePred ByController := fun action => by
  unfold ByController
  cases action <;> infer_instance

def Pass.victims : Pass → List VirtualMachine
  | .decided (.scaleDown victims) => victims
  | .deleting victims => victims
  | _ => []

/-- A member is still there, or it is on its way out and the tracker waits for it. -/
def Accounted (vms : List VirtualMachine) (awaited : Finset UID) (vm : VirtualMachine) : Prop :=
  vm ∈ vms ∨ vm.uid ∈ awaited ∧ ∀ other ∈ vms, other.uid = vm.uid → other.live = false

def Cached (w : World) (vm : VirtualMachine) : Prop := vm ∈ w.store.copy ∨ .created vm ∈ w.store.log

structure ListUsable (w : World) (members : List VirtualMachine) : Prop where
  uids : (members.map VirtualMachine.uid).Nodup
  accounted : ∀ vm ∈ members, vm.live →
    Accounted w.store.source (w.exp.deletions w.pool.key) vm ∨
      ∃ event ∈ w.since, event.isDeleted ∧ event.vm.uid = vm.uid
  unseen : ∀ vm, .deleted vm ∈ w.unobserved → vm.uid ∉ members.map VirtualMachine.uid ∨ .deleted vm ∈ w.since

structure DeletionsTracked (floor : Int) (w : World) : Prop where
  desired : floor ≤ w.pool.desired
  accounted : w.pass = .idle ∧ w.pool.deletionTimestamp.isSome ∨
    ∀ vm, vm.live → Cached w vm → Accounted w.store.source (w.exp.deletions w.pool.key) vm
  listed : ∀ members, w.pass = .listed members → ListUsable w members
  victims : ∀ vm ∈ w.pass.victims, vm ∈ w.store.source ∧ vm.live
  victimUIDs : (w.pass.victims.map VirtualMachine.uid).Nodup
  awaited : ∀ victims, w.pass = .deleting victims → ∀ vm ∈ victims, vm.uid ∈ w.exp.deletions w.pool.key
  enough : floor + w.pass.victims.length ≤ liveCount w.store.source

variable {vms : List VirtualMachine} {awaited : Finset UID} {vm : VirtualMachine}

theorem Accounted.mono {wider : Finset UID} (sub : awaited ⊆ wider) (accounted : Accounted vms awaited vm) :
    Accounted vms wider vm :=
  accounted.imp_right (.imp_left (sub ·))

theorem Accounted.erase {uid : UID} (other : vm.uid ≠ uid) (accounted : Accounted vms awaited vm) :
    Accounted vms (awaited.erase uid) vm :=
  accounted.imp_right (.imp_left fun member => Finset.mem_erase.mpr ⟨other, member⟩)

variable {event : WatchEvent}

theorem applyEvent_keeps (member : vm ∈ vms) (other : vm.uid ≠ event.vm.uid) : vm ∈ applyEvent vms event := by
  cases event with
  | created => exact mem_append_left _ member
  | modified => exact mem_map.mpr ⟨vm, member, if_neg other⟩
  | deleted => exact mem_filter.mpr ⟨member, by simpa [WatchEvent.vm] using other⟩

theorem applyEvent_ends (kept : event.isCreated = false) (marks : ∀ vm, event = .modified vm → vm.live = false)
    (member : vm ∈ applyEvent vms event) : vm ∈ vms ∧ vm.uid ≠ event.vm.uid ∨ vm.live = false := by
  cases event with
  | created => cases kept
  | modified changed =>
    obtain ⟨_, present, rfl⟩ := mem_map.mp member
    split
    · exact .inr (marks changed rfl)
    rename_i other
    exact .inl ⟨present, other⟩
  | deleted =>
    obtain ⟨present, other⟩ := mem_filter.mp member
    exact .inl ⟨present, by simpa [WatchEvent.vm] using other⟩

theorem Accounted.ends (kept : event.isCreated = false) (marks : ∀ vm, event = .modified vm → vm.live = false)
    (expected : vm ∈ vms → vm.uid = event.vm.uid → event.vm.uid ∈ awaited) (accounted : Accounted vms awaited vm) :
    Accounted (applyEvent vms event) awaited vm := by
  rcases accounted with member | ⟨member, dead⟩
  · by_cases same : vm.uid = event.vm.uid
    · refine .inr ⟨same ▸ expected member same, fun _ present uid => ?_⟩
      rcases applyEvent_ends kept marks present with ⟨_, differs⟩ | dead
      · exact absurd (uid.trans same) differs
      · exact dead
    · exact .inl (applyEvent_keeps member same)
  refine .inr ⟨member, fun other present uid => ?_⟩
  rcases applyEvent_ends kept marks present with ⟨present, _⟩ | ended
  · exact dead other present uid
  · exact ended

theorem liveCount_le {others : List VirtualMachine} (nodup : vms.Nodup)
    (kept : ∀ vm ∈ vms, vm.live → vm ∈ others) : liveCount vms ≤ liveCount others := by
  unfold liveCount
  rw [countP_eq_length_filter, countP_eq_length_filter]
  refine (subperm_of_subset (nodup.filter _) fun vm member => ?_).length_le
  obtain ⟨present, live⟩ := mem_filter.mp member
  exact mem_filter.mpr ⟨kept vm present live, live⟩

theorem liveCount_le_succ {others : List VirtualMachine} (nodup : vms.Nodup) (victim : VirtualMachine)
    (kept : ∀ vm ∈ vms, vm.live → vm ≠ victim → vm ∈ others) : liveCount vms ≤ liveCount others + 1 := by
  have rest : liveCount (vms.erase victim) ≤ liveCount others :=
    liveCount_le (nodup.erase victim) fun vm member live =>
      kept vm (mem_of_mem_erase member) live (nodup.mem_erase_iff.mp member).1
  have erased := countP_erase live vms victim
  unfold liveCount at rest ⊢
  split at erased <;> omega

variable {floor : Int} {w : World} {victims : List VirtualMachine}

section

variable (tracked : DeletionsTracked floor w)
include tracked

theorem DeletionsTracked.running (running : w.pass ≠ .idle) :
    ∀ vm, vm.live → Cached w vm → Accounted w.store.source (w.exp.deletions w.pool.key) vm :=
  tracked.accounted.resolve_left fun away => running away.1

theorem DeletionsTracked.finalized (consistent : Consistent w)
    (member : vm ∈ w.store.source) (dead : vm.live = false) : DeletionsTracked floor (w.write (.deleted vm)) := by
  have differs : ∀ other ∈ w.store.source, other.live → other.uid ≠ vm.uid := by
    intro other present live same
    rw [eq_of_uid consistent.uids present member same, dead] at live
    cases live
  have accounted : ∀ other, other.live → Accounted w.store.source (w.exp.deletions w.pool.key) other →
      Accounted (applyEvent w.store.source (.deleted vm)) (w.exp.deletions w.pool.key) other :=
    fun other live => .ends rfl (by simp) fun present same => absurd same (differs other present live)
  have count : liveCount w.store.source ≤ liveCount (applyEvent w.store.source (.deleted vm)) :=
    liveCount_le consistent.uids.of_map fun other present live =>
      applyEvent_keeps present (differs other present live)
  refine { tracked with
    accounted := tracked.accounted.imp_right fun held other live cached => ?_
    listed := fun members now => ?_
    victims := fun victim present => ?_
    enough := ?_ }
  · refine accounted other live (held other live ?_)
    rcases cached with cached | cached
    · exact .inl cached
    · exact .inr (by simpa [World.write, Replica.write] using cached)
  · have usable := tracked.listed members now
    exact { usable with
      accounted := fun other present live => (usable.accounted other present live).imp_left (accounted other live) }
  · obtain ⟨present, live⟩ := tracked.victims victim present
    have stays : victim ∈ applyEvent w.store.source (.deleted vm) :=
      applyEvent_keeps present (differs victim present live)
    exact ⟨stays, live⟩
  have enough := tracked.enough
  change floor + w.pass.victims.length ≤ liveCount (applyEvent w.store.source (.deleted vm))
  omega

theorem DeletionsTracked.create {remaining : Nat} (consistent : Consistent w)
    (creating : w.pass = .creating (remaining + 1)) (fresh : vm.uid ∉ w.used) : DeletionsTracked floor
      { w.write (.created vm) with used := vm.uid :: w.used, pass := .creating remaining } := by
  have held := tracked.running (by simp [creating])
  have enough := tracked.enough
  have count : liveCount w.store.source ≤ liveCount (w.store.source ++ [vm]) := by simp [liveCount]
  refine {
    desired := tracked.desired
    accounted := .inr fun other live cached => ?_
    listed := by simp
    victims := by simp [Pass.victims]
    victimUIDs := by simp [Pass.victims]
    awaited := by simp
    enough := ?_ }
  · have before : Cached w other ∨ other = vm := by
      rcases cached with cached | cached
      · exact .inl (.inl cached)
      rcases mem_append.mp cached with cached | last
      · exact .inl (.inr cached)
      cases mem_singleton.mp last
      exact .inr rfl
    rcases before with before | rfl
    · have used : other.uid ∈ w.used := by
        rcases before with present | present
        · exact (consistent.knownCopy other present).2
        · exact (consistent.knownEvents _ (mem_append_right _ present)).2
      rcases held other live before with present | ⟨awaited, dead⟩
      · exact .inl (mem_append_left _ present)
      refine .inr ⟨awaited, fun third present same => ?_⟩
      rcases mem_append.mp present with present | last
      · exact dead third present same
      rw [mem_singleton.mp last] at same
      exact absurd (same ▸ used) fresh
    · exact .inl (mem_append_right _ (.head _))
  change floor + 0 ≤ liveCount (w.store.source ++ [vm])
  omega

theorem DeletionsTracked.turn {exp : Expectations} {pass : Pass}
    (running : w.pass ≠ .idle) (acting : ∀ members, pass ≠ .listed members) (none : pass.victims = [])
    (same : exp.deletions w.pool.key = w.exp.deletions w.pool.key) : DeletionsTracked floor { w with exp, pass } := by
  have enough := tracked.enough
  refine {
    desired := tracked.desired
    accounted := .inr ?_
    listed := fun members now => absurd now (acting members)
    victims := by simp [none]
    victimUIDs := by simp [none]
    awaited := ?_
    enough := by rw [none]; change floor + 0 ≤ liveCount w.store.source; omega }
  · rw [same]
    exact tracked.running running
  intro victims now
  dsimp only at now
  rw [now] at none
  simp [show victims = [] from none]

theorem DeletionsTracked.listed_live {members : List VirtualMachine}
    (listed : w.pass = .listed members) (alive : NoExpiry w .check) (early : NoLateDeletion w .check)
    (answered : w.exp.satisfied w.now w.pool.key) : ∀ vm ∈ members, vm.live → vm ∈ w.store.source := by
  have settled := (satisfied_settled (alive rfl) answered).2
  intro vm member live
  rcases (tracked.listed members listed).accounted vm member live with
    (present | ⟨awaited, _⟩) | ⟨event, late, deleted, same⟩
  · exact present
  · simp [settled] at awaited
  have shown : vm ∈ w.pass.members := by rw [listed]; exact member
  exact absurd same (early rfl answered vm shown live event late deleted)

theorem DeletionsTracked.decided {members : List VirtualMachine}
    (listed : w.pass = .listed members) (alive : NoExpiry w .check) (early : NoLateDeletion w .check)
    (answered : w.exp.satisfied w.now w.pool.key) :
    DeletionsTracked floor { w with pass := .decided (decision w.pool members) } := by
  have present := tracked.listed_live listed alive early answered
  have uids := (tracked.listed members listed).uids
  have running : w.pass ≠ .idle := by simp [listed]
  cases plan : decision w.pool members with
  | keep | scaleUp n => exact tracked.turn running (by simp) rfl rfl
  | scaleDown victims =>
    obtain ⟨⟨_, same, sub⟩, _⟩ := decision_scaleDown plan
    have count : liveCount members ≤ liveCount w.store.source := liveCount_le uids.of_map present
    have desired := tracked.desired
    refine {
      desired
      accounted := .inr (tracked.running running)
      listed := by simp
      victims := fun vm member => ?_
      victimUIDs := ?_
      awaited := by simp
      enough := ?_ }
    · obtain ⟨there, live⟩ := mem_filter.mp (same.subset (sub.subset member))
      exact ⟨present vm there live, live⟩
    · have live : ((members.filter live).map uid).Nodup :=
        uids.sublist (filter_sublist.map _)
      exact ((same.map _).nodup_iff.mpr live).sublist (sub.map _)
    change floor + victims.length ≤ liveCount w.store.source
    omega

theorem DeletionsTracked.expectDeletions (decided : w.pass = .decided (.scaleDown victims)) : DeletionsTracked floor
      { w with
        exp := w.exp.expectDeletions w.now w.pool.key (victims.map uid)
        pass := .deleting victims } := by
  have planned := tracked.victims
  have uids := tracked.victimUIDs
  have enough := tracked.enough
  rw [decided] at planned uids enough
  refine {
    desired := tracked.desired
    accounted := .inr fun vm live cached => ?_
    listed := by simp
    victims := planned
    victimUIDs := uids
    awaited := fun _ now vm member => ?_
    enough := enough }
  · refine (tracked.running (by simp [decided]) vm live cached).mono ?_
    simp only [deletions_expectDeletions]
    exact Finset.subset_union_left
  cases now
  simp only [deletions_expectDeletions, Finset.mem_union, mem_toFinset]
  exact .inr (mem_map_of_mem member)

end

variable {victim : VirtualMachine}

section

variable (tracked : DeletionsTracked floor w)
include tracked

theorem DeletionsTracked.delete (consistent : Consistent w) (deleting : w.pass = .deleting (victim :: victims))
    (kept : event.isCreated = false) (marks : ∀ vm, event = .modified vm → vm.live = false)
    (about : event.vm.uid = victim.uid) : DeletionsTracked floor { w.write event with pass := .deleting victims } := by
  have planned := tracked.victims
  have uids := tracked.victimUIDs
  have enough := tracked.enough
  have awaited := tracked.awaited _ deleting
  simp only [deleting, Pass.victims, map_cons, nodup_cons, length_cons,
    forall_mem_cons] at planned uids enough awaited
  have count : liveCount w.store.source ≤ liveCount (applyEvent w.store.source event) + 1 := by
    refine liveCount_le_succ consistent.uids.of_map victim fun vm present _ other => applyEvent_keeps present ?_
    exact fun same => other (eq_of_uid consistent.uids present planned.1.1 (same.trans about))
  refine {
    desired := tracked.desired
    accounted := .inr fun vm live cached => ?_
    listed := by simp
    victims := fun vm member => ?_
    victimUIDs := uids.2
    awaited := fun _ now vm member => by cases now; exact awaited.2 vm member
    enough := ?_ }
  · have before : Cached w vm := by
      rcases cached with cached | cached
      · exact .inl cached
      rcases mem_append.mp cached with cached | last
      · exact .inr cached
      rw [← mem_singleton.mp last] at kept
      cases kept
    exact (tracked.running (by simp [deleting]) vm live before).ends kept marks
      fun _ _ => about ▸ awaited.1
  · obtain ⟨present, live⟩ := planned.2 vm member
    have stays : vm ∈ applyEvent w.store.source event := by
      refine applyEvent_keeps present fun same => uids.1 ?_
      rw [← about, ← same]
      exact mem_map_of_mem member
    exact ⟨stays, live⟩
  change floor + victims.length ≤ liveCount (applyEvent w.store.source event)
  omega

theorem DeletionsTracked.deleteFails (deleting : w.pass = .deleting (victim :: victims)) : DeletionsTracked floor
      { w with exp := w.exp.deletionObserved w.pool.key victim.uid, pass := .deleting victims } := by
  have planned := tracked.victims
  have uids := tracked.victimUIDs
  have enough := tracked.enough
  have awaited := tracked.awaited _ deleting
  simp only [deleting, Pass.victims, map_cons, nodup_cons, length_cons,
    forall_mem_cons] at planned uids enough awaited
  refine {
    desired := tracked.desired
    accounted := .inr fun vm live cached => ?_
    listed := by simp
    victims := planned.2
    victimUIDs := uids.2
    awaited := fun _ now vm member => ?_
    enough := ?_ }
  · rw [deletions_deletionObserved]
    have before := tracked.running (by simp [deleting]) vm live cached
    by_cases same : vm.uid = victim.uid
    · rcases before with present | ⟨_, dead⟩
      · exact .inl present
      have ended := dead victim planned.1.1 same.symm
      rw [planned.1.2] at ended
      cases ended
    · exact before.erase same
  · cases now
    rw [deletions_deletionObserved]
    refine Finset.mem_erase.mpr ⟨fun same => uids.1 ?_, awaited.2 vm member⟩
    rw [← same]
    exact mem_map_of_mem member
  change floor + victims.length ≤ liveCount w.store.source
  omega

theorem DeletionsTracked.deliver {store : Replica (List VirtualMachine) WatchEvent} (consistent : Consistent w)
    (delivered : w.store.deliver applyEvent = some (event, store)) : DeletionsTracked floor
      { w with store, unobserved := w.unobserved ++ [event], since := w.since ++ [event] } := by
  obtain ⟨pending, source, copy⟩ := Replica.deliver_some delivered
  refine { tracked with
    accounted := ?_
    listed := fun members now => ?_
    victims := by rw [source]; exact tracked.victims
    enough := by rw [source]; exact tracked.enough }
  · rw [source]
    refine tracked.accounted.imp_right fun held vm live cached => held vm live ?_
    rcases cached with cached | cached
    · rw [copy] at cached
      cases event with
      | created =>
        rcases mem_append.mp cached with cached | last
        · exact .inl cached
        rw [mem_singleton.mp last, Cached, pending]
        exact .inr (.head _)
      | modified =>
        rcases applyEvent_ends rfl (fun vm same => consistent.marks vm (by rw [pending, same]; exact .head _))
          cached with ⟨present, _⟩ | dead
        · exact .inl present
        rw [live] at dead
        cases dead
      | deleted => exact .inl ((deleted_sublist _ _).subset cached)
    · exact .inr (by rw [pending]; exact .tail _ cached)
  have usable := tracked.listed members now
  refine {
    uids := usable.uids
    accounted := fun vm member live => ?_
    unseen := fun vm member => ?_ }
  · rw [source]
    refine (usable.accounted vm member live).imp_right ?_
    rintro ⟨late, present, about⟩
    exact ⟨late, mem_append_left _ present, about⟩
  rcases mem_append.mp member with earlier | last
  · exact (usable.unseen vm earlier).imp_right (mem_append_left _)
  · exact .inr (mem_append_right _ last)

end

theorem memberEventHandler_deletions (exp : Expectations) {pool : VirtualMachinePool} (owned : Owned pool event.vm) :
    (memberEventHandler exp event).deletions pool.key =
      if event.isDeleted then (exp.deletions pool.key).erase event.vm.uid else exp.deletions pool.key := by
  unfold memberEventHandler
  rw [owned.ownerKey]
  cases event <;> simp [isDeleted, vm]

theorem Consistent.deleted_uid_ne (consistent : Consistent w) (pending : event ∈ w.unobserved)
    (deleted : event.isDeleted) (cached : Cached w vm) : vm.uid ≠ event.vm.uid := by
  cases event with
  | deleted gone =>
    rcases cached with cached | cached
    · exact fun same => consistent.gone gone pending (mem_map.mpr ⟨vm, cached, same⟩)
    have ordered := consistent.ordered
    rw [World.inFlight, pairwise_append] at ordered
    exact (ordered.2.2 _ pending _ cached rfl rfl).symm
  | _ => cases deleted

section

variable (tracked : DeletionsTracked floor w)
include tracked

variable (consistent : Consistent w)
include consistent

theorem DeletionsTracked.observe {rest : List WatchEvent} (pending : w.unobserved = event :: rest) :
    DeletionsTracked floor { w with exp := memberEventHandler w.exp event, unobserved := rest } := by
  have first : event ∈ w.unobserved := by simp [pending]
  have inFlight : event ∈ w.inFlight := mem_append_left _ first
  have deletions := memberEventHandler_deletions w.exp (consistent.knownEvents event inFlight).1
  have stays : ∀ uid ∈ w.exp.deletions w.pool.key, (event.isDeleted → uid ≠ event.vm.uid) →
      uid ∈ (memberEventHandler w.exp event).deletions w.pool.key := by
    intro uid member other
    rw [deletions]
    split
    · rename_i deleted
      exact Finset.mem_erase.mpr ⟨other deleted, member⟩
    · exact member
  refine { tracked with
    accounted := tracked.accounted.imp_right fun held vm live cached => ?_
    listed := fun members now => ?_
    awaited := fun victims now vm member => ?_ }
  · refine (held vm live cached).imp_right (.imp_left fun member => stays _ member fun deleted => ?_)
    exact consistent.deleted_uid_ne first deleted cached
  · have usable := tracked.listed members now
    refine {
      uids := usable.uids
      accounted := fun vm member live => ?_
      unseen := fun vm member => usable.unseen vm (by rw [pending]; exact .tail _ member) }
    by_cases about : event.isDeleted = true ∧ vm.uid = event.vm.uid
    · refine .inr ⟨event, ?_, about.1, about.2.symm⟩
      cases event with
      | deleted gone =>
        refine (usable.unseen gone first).resolve_left fun absent => absent ?_
        exact mem_map.mpr ⟨vm, member, about.2⟩
      | _ => cases about.1
    refine (usable.accounted vm member live).imp_left (.imp_right (.imp_left fun member => ?_))
    exact stays _ member fun deleted same => about ⟨deleted, same⟩
  refine stays _ (tracked.awaited victims now vm member) fun deleted same => ?_
  have victim := tracked.victims vm (by rw [now]; exact member)
  cases event with
  | deleted gone => exact consistent.removed gone inFlight (mem_map.mpr ⟨vm, victim.1, same⟩)
  | _ => cases deleted

theorem DeletionsTracked.deleteObject (deleting : w.pass = .deleting (victim :: victims))
    (found : w.find victim.name = some vm) (deletion : Deletion) :
    DeletionsTracked floor { w.deleteObject vm deletion with pass := .deleting victims } := by
  have planned := tracked.victims victim (by rw [deleting]; exact .head _)
  have same : vm = victim :=
    inj_on_of_nodup_map consistent.names (find_some found).1 planned.1 (find_some found).2
  subst same
  rcases deleteObject_cases w vm deletion with ⟨dead, _⟩ | removed | ⟨_, _, marked⟩
  · rw [planned.2] at dead
    cases dead
  · rw [removed]
    exact tracked.delete consistent deleting rfl (by simp) rfl
  rw [marked]
  exact tracked.delete consistent deleting rfl (by rintro _ ⟨⟩; rfl) rfl

theorem DeletionsTracked.step {t : World} {action : Action} (alive : NoExpiry w action)
    (controlled : ByController action) (early : NoLateDeletion w action) (moved : step w action = some t) :
    DeletionsTracked floor t := by
  cases step_transition moved with
  | list idle present same =>
    rw [listMembers_owned fun vm member => (consistent.knownCopy vm member).1] at same
    have held := tracked.accounted.resolve_left fun away => by simp [present] at away
    have enough := tracked.enough
    rw [idle] at enough
    refine { tracked with
      accounted := .inr held
      listed := fun members now => ?_
      victims := by simp [Pass.victims]
      victimUIDs := by simp [Pass.victims]
      awaited := by simp
      enough }
    cases now
    have uids := (nodup_append.mp consistent.distinct).1
    exact {
      uids := (same.map _).nodup_iff.mpr uids
      accounted := fun vm member live => .inl (held vm live (.inl (same.subset member)))
      unseen := fun vm member => .inl fun there => consistent.gone vm member ((same.map _).subset there) }
  | forget idle terminating =>
    exact { tracked with
      accounted := .inl ⟨idle, terminating⟩
      listed := by simp [idle]
      awaited := by simp [idle] }
  | allowed listed answered => exact tracked.decided listed alive early answered
  | refused before | keep before => exact tracked.turn (by simp [before]) (by simp) rfl rfl
  | expectCreations before | createFails before => exact tracked.turn (by simp [before]) (by simp) rfl (by simp)
  | expectDeletions decided => exact tracked.expectDeletions decided
  | create creating fresh => exact tracked.create consistent creating fresh
  | delete deleting found => exact tracked.deleteObject consistent deleting found _
  | deleteGone deleting gone =>
    have planned := tracked.victims _ (by rw [deleting]; exact .head _)
    have absent := find?_eq_none.mp gone _ planned.1
    simp at absent
  | deleteFails deleting => exact tracked.deleteFails deleting
  | finish done =>
    rcases done with before | before <;> exact tracked.turn (by simp [before]) (by simp) rfl rfl
  | deliver delivered => exact tracked.deliver consistent delivered
  | observe pending => exact tracked.observe consistent pending
  | tick => exact { tracked with listed := fun members now => { tracked.listed members now with } }
  | userDelete => exact absurd controlled id
  | finalized member terminating =>
    refine tracked.finalized consistent member ?_
    rw [live, ← Option.not_isSome, terminating]
    rfl
  | deletePool =>
    exact { tracked with
      accounted := tracked.accounted.imp_left fun away => ⟨away.1, rfl⟩
      listed := fun members now => { tracked.listed members now with } }

end

theorem World.Initial.deletionsTracked (initial : w.Initial) :
    DeletionsTracked (min w.pool.desired (liveCount w.store.source)) w := by
  obtain ⟨_, synced, _, idle, _, _, _, _⟩ := initial
  have copy : w.store.copy = w.store.source := by rw [synced]; rfl
  have log : w.store.log = [] := by rw [synced]; rfl
  exact {
    desired := by omega
    accounted := .inr fun vm _ cached => .inl (by simpa [Cached, copy, log] using cached)
    listed := by simp [idle]
    victims := by simp [idle, victims]
    victimUIDs := by simp [idle, victims]
    awaited := by simp [idle]
    enough := by simp [idle, victims] }

/-- Without expiry and deletions by others, and when no deletion of a member listed as live is
    delivered between the list and a check that lets the pass act, the pool keeps as many live
    members as desired or as it started with. -/
theorem live_members_never_undershoot {start w : World} {actions : List Action} (initial : start.Initial)
    (along : Along step (fun w action => NoExpiry w action ∧ ByController action ∧ NoLateDeletion w action)
      start actions)
    (reached : run step start actions = some w) :
    min start.pool.desired (liveCount (listMembers start.pool start.store.source)) ≤
      liveCount (listMembers w.pool w.store.source) := by
  let floor := min start.pool.desired (liveCount start.store.source)
  have preserved : ∀ s action t, Consistent s ∧ DeletionsTracked floor s →
      NoExpiry s action ∧ ByController action ∧ NoLateDeletion s action → step s action = some t →
      Consistent t ∧ DeletionsTracked floor t := fun _ _ _ held ok moved =>
    ⟨held.1.step moved, held.2.step held.1 ok.1 ok.2.1 ok.2.2 moved⟩
  obtain ⟨consistent, tracked⟩ :=
    run_invariant preserved ⟨initial.consistent, initial.deletionsTracked⟩ along reached
  rw [listMembers_owned fun vm member => (consistent.knownSource vm member).1, listMembers_owned initial.owned]
  have enough := tracked.enough
  omega

def twins : List VirtualMachine := [newMember workers 1 "workers-a" 0, newMember workers 2 "workers-b" 0]

theorem twins_initial : (workersAt twins).Initial := workersAt_initial (by decide) (by decide) (by decide)

def scaleDownOnce : List Action :=
  [.list twins, .check, .expect, .delete (.marked 5), .finish, .deliver, .observe, .list
    [{ newMember workers 1 "workers-a" 0 with deletionTimestamp := some 5 }, newMember workers 2 "workers-b" 0],
    .check, .finalized 1, .deliver, .observe, .list [newMember workers 2 "workers-b" 0], .check, .expect]

theorem live_members_never_undershoot_once : (workersAt twins).Initial ∧
      Along step (fun w action => NoExpiry w action ∧ ByController action ∧ NoLateDeletion w action)
        (workersAt twins) scaleDownOnce ∧
      ∃ w, run step (workersAt twins) scaleDownOnce = some w ∧
        min 1 (liveCount (listMembers workers twins) : Int) ≤ liveCount (listMembers w.pool w.store.source) := by
  have along : Along step (fun w action => NoExpiry w action ∧ ByController action ∧ NoLateDeletion w action)
    (workersAt twins) scaleDownOnce := by decide
  exact ⟨twins_initial, along, _, rfl, live_members_never_undershoot twins_initial along rfl⟩

/-- The second pass lists both members in another order before the deletion arrives in the cache
    and asks the tracker after the handler has seen it, so the tie falls on the survivor. -/
def staleScaleDown : List Action :=
  [.list twins, .check, .expect, .delete .removed, .finish, .list twins.reverse, .deliver, .observe, .check,
    .expect, .delete .removed]

theorem stale_list_undershoots :
    ¬ ∀ (start w : World) (actions : List Action), start.Initial → start.pool.scaleDownPolicy ≠ .explicit →
      Along step (fun w action => NoExpiry w action ∧ ByController action) start actions →
      run step start actions = some w →
      min start.pool.desired (liveCount (listMembers start.pool start.store.source)) ≤
        liveCount (listMembers w.pool w.store.source) := by
  intro bounded
  have along : Along step (fun w action => NoExpiry w action ∧ ByController action) (workersAt twins)
    staleScaleDown := by decide
  have ends : ∃ w, run step (workersAt twins) staleScaleDown = some w ∧
      liveCount (listMembers w.pool w.store.source) = 0 := ⟨_, rfl, by decide⟩
  obtain ⟨_, reached, none⟩ := ends
  have limit := bounded _ _ _ twins_initial (by decide) along reached
  rw [none] at limit
  revert limit
  decide

end Virtualization.Pool
