import Virtualization.Pool.Interleaving

namespace Virtualization.Pool

open Library List VirtualMachine WatchEvent World

def Known (w : World) (vm : VirtualMachine) : Prop := Owned w.pool vm ∧ vm.uid ∈ w.used

def createdUIDs (events : List WatchEvent) : List UID :=
  (events.filter WatchEvent.isCreated).map fun event => event.vm.uid

def NoRevival (first second : WatchEvent) : Prop :=
  first.isDeleted → second.isCreated → first.vm.uid ≠ second.vm.uid

structure Consistent (w : World) : Prop where
  inStep : w.store.InStep applyEvent
  knownSource : ∀ vm ∈ w.store.source, Known w vm
  knownCopy : ∀ vm ∈ w.store.copy, Known w vm
  knownEvents : ∀ event ∈ w.inFlight, Known w event.vm
  names : (w.store.source.map VirtualMachine.name).Nodup
  uids : (w.store.source.map VirtualMachine.uid).Nodup
  distinct : (w.store.copy.map VirtualMachine.uid ++ createdUIDs w.store.log).Nodup
  ordered : w.inFlight.Pairwise NoRevival
  gone : ∀ vm, .deleted vm ∈ w.unobserved → vm.uid ∉ w.store.copy.map VirtualMachine.uid
  removed : ∀ vm, .deleted vm ∈ w.inFlight → vm.uid ∉ w.store.source.map VirtualMachine.uid
  marks : ∀ vm, .modified vm ∈ w.store.log → vm.live = false

variable {vms : List VirtualMachine} {event : WatchEvent}

theorem applyEvent_forall {property : VirtualMachine → Prop} (all : ∀ vm ∈ vms, property vm) (new : property event.vm) :
    ∀ vm ∈ applyEvent vms event, property vm := by
  intro vm member
  cases event with
  | created =>
    rcases mem_append.mp member with member | member
    · exact all vm member
    rw [mem_singleton.mp member]
    exact new
  | modified =>
    obtain ⟨old, present, rfl⟩ := mem_map.mp member
    split
    · exact new
    · exact all old present
  | deleted => exact all vm (mem_filter.mp member).1

theorem modified_uids (vms : List VirtualMachine) (vm : VirtualMachine) :
    (applyEvent vms (.modified vm)).map uid = vms.map uid := by
  simp only [applyEvent, map_map]
  refine map_congr_left fun _ _ => ?_
  simp only [Function.comp_apply]
  split
  · rename_i same
    exact same.symm
  · rfl

theorem deleted_sublist (vms : List VirtualMachine) (vm : VirtualMachine) :
    (applyEvent vms (.deleted vm)).Sublist vms := filter_sublist

theorem deleted_absent (vms : List VirtualMachine) (vm : VirtualMachine) :
    vm.uid ∉ (applyEvent vms (.deleted vm)).map uid := by
  intro member
  obtain ⟨_, present, same⟩ := mem_map.mp member
  simp [applyEvent, same] at present

theorem eq_of_uid (uids : (vms.map uid).Nodup) {a b : VirtualMachine} (left : a ∈ vms) (right : b ∈ vms)
    (same : a.uid = b.uid) : a = b :=
  inj_on_of_nodup_map uids left right same

variable {vm : VirtualMachine}

theorem marked_names (uids : (vms.map uid).Nodup) (member : vm ∈ vms) (timestamp : Int) :
    (applyEvent vms (.modified { vm with deletionTimestamp := some timestamp })).map name =
      vms.map name := by
  simp only [applyEvent, map_map]
  refine map_congr_left fun _ present => ?_
  simp only [Function.comp_apply]
  split
  · rename_i same
    rw [eq_of_uid uids present member same]
  · rfl

@[simp] theorem createdUIDs_created (vm : VirtualMachine) (events : List WatchEvent) :
    createdUIDs (.created vm :: events) = vm.uid :: createdUIDs events := rfl

variable {w : World}

section

variable (consistent : Consistent w)
include consistent

theorem Consistent.write (known : Known w event.vm)
    (names : ((applyEvent w.store.source event).map name).Nodup)
    (uids : ((applyEvent w.store.source event).map uid).Nodup)
    (distinct : (w.store.copy.map uid ++ createdUIDs (w.store.log ++ [event])).Nodup)
    (ordered : ∀ first ∈ w.inFlight, NoRevival first event) (removed : ∀ vm, .deleted vm ∈ w.inFlight ++ [event] →
      vm.uid ∉ (applyEvent w.store.source event).map uid)
    (marks : ∀ vm, event = .modified vm → vm.live = false) : Consistent (w.write event) where
  inStep := consistent.inStep.write event
  knownSource := applyEvent_forall consistent.knownSource known
  knownCopy := consistent.knownCopy
  knownEvents := by
    rw [write_inFlight]
    exact forall_mem_append.mpr ⟨consistent.knownEvents, forall_mem_singleton.mpr known⟩
  names
  uids
  distinct
  ordered := by
    rw [write_inFlight, pairwise_append]
    exact ⟨consistent.ordered, pairwise_singleton _ _, fun first member second last => by
      rw [mem_singleton.mp last]
      exact ordered first member⟩
  gone := consistent.gone
  removed := by
    rw [write_inFlight]
    exact removed
  marks := by
    intro vm member
    rcases mem_append.mp member with member | member
    · exact consistent.marks vm member
    · exact marks vm (mem_singleton.mp member).symm

section

variable (member : vm ∈ w.store.source)
include member

theorem Consistent.writeDeleted : Consistent (w.write (.deleted vm)) := by
  have sub := deleted_sublist w.store.source vm
  refine consistent.write (consistent.knownSource vm member) (consistent.names.sublist (sub.map _))
    (consistent.uids.sublist (sub.map _)) ?_ ?_ ?_ (by simp)
  · simpa [createdUIDs, isCreated] using consistent.distinct
  · intro first _ _ created
    cases created
  intro other present
  rcases mem_append.mp present with present | present
  · exact fun there => consistent.removed other present ((sub.map _).subset there)
  cases mem_singleton.mp present
  exact deleted_absent _ _

theorem Consistent.writeMarked (timestamp : Int) :
    Consistent (w.write (.modified { vm with deletionTimestamp := some timestamp })) := by
  refine consistent.write (consistent.knownSource vm member) ?_ ?_ ?_ ?_ ?_ ?_
  · rw [marked_names consistent.uids member]
    exact consistent.names
  · rw [modified_uids]
    exact consistent.uids
  · simpa [createdUIDs, isCreated] using consistent.distinct
  · intro first _ _ created
    cases created
  · intro other present
    rw [modified_uids]
    exact consistent.removed other (by simpa using present)
  intro other same
  cases same
  rfl

theorem Consistent.deleteObject (deletion : Deletion) : Consistent (w.deleteObject vm deletion) := by
  rcases deleteObject_cases w vm deletion with ⟨_, same⟩ | gone | ⟨timestamp, _, marked⟩
  · rw [same]
    exact consistent
  · rw [gone]
    exact consistent.writeDeleted member
  rw [marked]
  exact consistent.writeMarked member timestamp

end

theorem Consistent.usedCreated :
    ∀ uid ∈ w.store.copy.map VirtualMachine.uid ++ createdUIDs w.store.log, uid ∈ w.used := by
  intro uid member
  rcases mem_append.mp member with member | member
  · obtain ⟨vm, present, rfl⟩ := mem_map.mp member
    exact (consistent.knownCopy vm present).2
  obtain ⟨event, present, rfl⟩ := mem_map.mp member
  exact (consistent.knownEvents event (mem_append_right _ (mem_filter.mp present).1)).2

theorem Consistent.writeCreated (owned : Owned w.pool vm) (fresh : vm.uid ∉ w.used)
    (free : vm.name ∉ w.store.source.map VirtualMachine.name) :
    Consistent ({ w with used := vm.uid :: w.used }.write (.created vm)) := by
  have grown : Consistent { w with used := vm.uid :: w.used } :=
    { consistent with
      knownSource := fun vm member => (consistent.knownSource vm member).imp_right (.tail _)
      knownCopy := fun vm member => (consistent.knownCopy vm member).imp_right (.tail _)
      knownEvents := fun event member => (consistent.knownEvents event member).imp_right (.tail _) }
  have absent : vm.uid ∉ w.store.source.map VirtualMachine.uid := by
    intro member
    obtain ⟨old, present, same⟩ := mem_map.mp member
    exact fresh (same ▸ (consistent.knownSource old present).2)
  refine grown.write ⟨owned, .head _⟩ ?_ ?_ ?_ ?_ ?_ (by simp)
  · simp only [applyEvent, map_append, map_cons, map_nil]
    exact nodup_append.mpr ⟨consistent.names, nodup_singleton _, by
      rintro a left b right rfl
      exact free (mem_singleton.mp right ▸ left)⟩
  · simp only [applyEvent, map_append, map_cons, map_nil]
    exact nodup_append.mpr ⟨consistent.uids, nodup_singleton _, by
      rintro a left b right rfl
      exact absent (mem_singleton.mp right ▸ left)⟩
  · rw [createdUIDs, filter_append, map_append, ← append_assoc]
    exact nodup_append.mpr ⟨consistent.distinct, nodup_singleton _, by
      rintro a left b right rfl
      have same : a = vm.uid := mem_singleton.mp right
      exact fresh (same ▸ consistent.usedCreated a left)⟩
  · intro first member _ _ same
    exact fresh (same ▸ (consistent.knownEvents first member).2)
  intro other present
  have before : .deleted other ∈ w.inFlight := by
    rcases mem_append.mp present with present | present
    · exact present
    · simp at present
  simp only [applyEvent, map_append, map_cons, map_nil, mem_append, not_or,
    mem_singleton]
  exact ⟨consistent.removed other before, fun same => fresh (same ▸ (consistent.knownEvents _ before).2)⟩

theorem Consistent.deliver {store : Replica (List VirtualMachine) WatchEvent}
    (delivered : w.store.deliver applyEvent = some (event, store)) :
    Consistent { w with store, unobserved := w.unobserved ++ [event], since := w.since ++ [event] } := by
  obtain ⟨pending, source, copy⟩ := Replica.deliver_some delivered
  have flight : w.inFlight = w.unobserved ++ [event] ++ store.log := by simp [inFlight, pending]
  have distinct := consistent.distinct
  have ordered := consistent.ordered
  rw [pending] at distinct
  rw [inFlight, pending, pairwise_append] at ordered
  refine {
    inStep := consistent.inStep.deliver delivered
    knownSource := by rw [source]; exact consistent.knownSource
    knownCopy := by
      rw [copy]
      exact applyEvent_forall consistent.knownCopy (consistent.knownEvents event (by simp [flight]))
    knownEvents := by rw [inFlight, ← flight]; exact consistent.knownEvents
    names := by rw [source]; exact consistent.names
    uids := by rw [source]; exact consistent.uids
    distinct := ?_
    ordered := by rw [inFlight, ← flight]; exact consistent.ordered
    gone := ?_
    removed := by rw [inFlight, ← flight, source]; exact consistent.removed
    marks := fun vm member => consistent.marks vm (by rw [pending]; exact .tail _ member) }
  · rw [copy]
    cases event with
    | created => simpa [applyEvent] using distinct
    | modified =>
      rw [modified_uids]
      exact distinct
    | deleted vm => exact List.Nodup.sublist (((deleted_sublist w.store.copy vm).map _).append_right _) distinct
  intro vm member
  rw [copy]
  rcases mem_append.mp member with earlier | last
  · have before := consistent.gone vm earlier
    cases event with
    | created added =>
      simp only [applyEvent, map_append, map_cons, map_nil, mem_append, not_or,
        mem_singleton]
      exact ⟨before, ordered.2.2 (.deleted vm) earlier (.created added) (.head _) rfl rfl⟩
    | modified =>
      rw [modified_uids]
      exact before
    | deleted other => exact fun there => before (((deleted_sublist w.store.copy other).map _).subset there)
  cases mem_singleton.mp last
  exact deleted_absent _ _

theorem Consistent.observe {rest : List WatchEvent} {exp : Expectations} (pending : w.unobserved = event :: rest) :
    Consistent { w with exp, unobserved := rest } := by
  have flight : w.inFlight = event :: (rest ++ w.store.log) := by simp [inFlight, pending]
  have ordered := consistent.ordered
  rw [flight, pairwise_cons] at ordered
  exact { consistent with
    knownEvents := fun other member => consistent.knownEvents other (by rw [flight]; exact .tail _ member)
    ordered := ordered.2
    gone := fun vm member => consistent.gone vm (by rw [pending]; exact .tail _ member)
    removed := fun vm member => consistent.removed vm (by rw [flight]; exact .tail _ member) }

theorem Consistent.step {t : World} {action : Action} (moved : step w action = some t) : Consistent t := by
  cases step_transition moved with
  | create _ fresh free =>
    exact { consistent.writeCreated ⟨rfl, rfl, rfl⟩ fresh free with }
  | delete _ found => exact { consistent.deleteObject (find_some found).1 _ with }
  | deliver delivered => exact consistent.deliver delivered
  | observe pending => exact consistent.observe pending
  | userDelete found => exact consistent.deleteObject (find_some found).1 _
  | finalized member => exact consistent.writeDeleted member
  | _ => exact { consistent with }

end

theorem World.Initial.consistent (initial : w.Initial) : Consistent w := by
  obtain ⟨_, synced, observed, _, owned, names, uids, assigned⟩ := initial
  have copy : w.store.copy = w.store.source := by rw [synced]; rfl
  have log : w.store.log = [] := by rw [synced]; rfl
  have flight : w.inFlight = [] := by simp [inFlight, observed, log]
  exact {
    inStep := by rw [synced]; rfl
    knownSource := fun vm member => ⟨owned vm member, assigned vm member⟩
    knownCopy := by rw [copy]; exact fun vm member => ⟨owned vm member, assigned vm member⟩
    knownEvents := by simp [flight]
    names
    uids
    distinct := by simpa [copy, log, createdUIDs] using uids
    ordered := by simp [flight]
    gone := by simp [observed]
    removed := by simp [flight]
    marks := by simp [log] }

end Virtualization.Pool
