import Mathlib
import Virtualization.Pool.Informer

namespace Virtualization.Pool.ScaleDownWith

open Library List Replica

inductive Call where
  | notStarted
  | validating (poolUID : UID) (rest : List String)
  | deleting (rest : List String)
  | returned
  | failed
deriving DecidableEq

/-- The pool in the API server beside its controller, whose informer has delivered the object `world.pool`. -/
structure Site where
  current : VirtualMachinePool
  world : World
  targets : List String
  call : Call

inductive Move where
  | sync
  | pass (action : Action)
  | get
  | validate
  | delete (deletion : Deletion)
  | shrink
  | fail

def belongs (poolUID : UID) (vm : VirtualMachine) : Bool :=
  match vm.controllerOf with
  | none => false
  | some ref => ref.uid = poolUID

def shrunk (pool : VirtualMachinePool) (removed : Int) : VirtualMachinePool :=
  { pool with replicas := some (if pool.desired - removed < 0 then 0 else pool.desired - removed) }

def siteStep (s : Site) (move : Move) : Option Site :=
  match move, s.call with
  | .sync, _ => if s.world.pass = .idle then some { s with world.pool := s.current } else none
  | .pass (.deletePool _), _ => none
  | .pass (.userDelete _ _), _ => none
  | .pass action, _ => (step s.world action).map fun world => { s with world }
  | .get, .notStarted =>
    if s.targets = [] then some { s with call := .failed }
    else some { s with call := .validating s.current.uid s.targets }
  | .validate, .validating _ [] => some { s with call := .deleting s.targets }
  | .validate, .validating poolUID (target :: rest) =>
    match s.world.find target with
    | none => some { s with call := .failed }
    | some vm =>
      if belongs poolUID vm then some { s with call := .validating poolUID rest }
      else some { s with call := .failed }
  | .delete deletion, .deleting (target :: rest) =>
    match s.world.find target with
    -- A target already gone still counts toward the decrement.
    | none => some { s with call := .deleting rest }
    | some vm => some { s with world := s.world.deleteObject vm deletion, call := .deleting rest }
  | .shrink, .deleting [] => some { s with current := shrunk s.current s.targets.length, call := .returned }
  | .fail, .notStarted | .fail, .validating _ _ | .fail, .deleting _ => some { s with call := .failed }
  | _, _ => none

structure Site.Initial (s : Site) : Prop where
  known : s.world.pool = s.current
  explicit : s.current.scaleDownPolicy = .explicit
  synced : s.world.store = Replica.synced s.world.store.source
  idle : s.world.pass = .idle
  owned : ∀ vm ∈ s.world.store.source, Owned s.current vm
  names : (s.world.store.source.map VirtualMachine.name).Nodup
  uids : (s.world.store.source.map VirtualMachine.uid).Nodup
  full : (s.world.store.source.length : Int) = s.current.desired
  alive : ∀ vm ∈ s.world.store.source, vm.live
  call : s.call = .notStarted

def Settled (s : Site) : Prop :=
  s.call = .returned ∧ s.world.inFlight = [] ∧ s.world.pass = .idle ∧ s.world.pool = s.current ∧
    decision s.current (listMembers s.current s.world.store.source) = .keep
deriving Decidable

/-- A pass that lists the members before the informer has delivered the decrement finds every target in the cache. -/
def Ordered (s : Site) : Move → Prop
  | .pass (.list _) =>
    (s.call = .returned ∧ s.world.pool = s.current) ∨
      ∀ target ∈ s.targets, target ∈ s.world.store.copy.map VirtualMachine.name
  | _ => True

instance (s : Site) (move : Move) : Decidable (Ordered s move) := by
  unfold Ordered
  split <;> infer_instance

def ident (vm : VirtualMachine) : UID × String := (vm.uid, vm.name)

structure Shape (pool : VirtualMachinePool) (start : List VirtualMachine) (targets : List String)
    (vms : List VirtualMachine) : Prop where
  sub : (vms.map ident).Sublist (start.map ident)
  kept : ∀ vm ∈ start, vm.name ∉ targets → vm ∈ vms
  owned : ∀ vm ∈ vms, Owned pool vm

structure OfTarget (pool : VirtualMachinePool) (start : List VirtualMachine) (targets : List String)
    (event : WatchEvent) : Prop where
  member : ident event.vm ∈ start.map ident
  target : event.vm.name ∈ targets
  owned : Owned pool event.vm
  old : event.isCreated = false

variable {event : WatchEvent}

section Store

variable {pool : VirtualMachinePool} {start vms : List VirtualMachine} {targets : List String}

theorem ident_of_proj {β : Type} (proj : UID × String → β) {a b : VirtualMachine}
    (nodup : (start.map fun vm => proj (ident vm)).Nodup) (left : ident a ∈ start.map ident)
    (right : ident b ∈ start.map ident) (same : proj (ident a) = proj (ident b)) : ident a = ident b := by
  obtain ⟨_, inFirst, isFirst⟩ := mem_map.mp left
  obtain ⟨_, inSecond, isSecond⟩ := mem_map.mp right
  rw [← isFirst, ← isSecond] at same
  rw [← isFirst, ← isSecond, inj_on_of_nodup_map nodup inFirst inSecond same]

open VirtualMachine

theorem ident_of_uid {a b : VirtualMachine} (uids : (start.map uid).Nodup)
    (left : ident a ∈ start.map ident) (right : ident b ∈ start.map ident) (same : a.uid = b.uid) :
    ident a = ident b := ident_of_proj Prod.fst uids left right same

section

variable (shape : Shape pool start targets vms)
include shape

theorem Shape.ident_mem {vm : VirtualMachine} (member : vm ∈ vms) :
    ident vm ∈ start.map ident := shape.sub.subset (mem_map_of_mem member)

theorem Shape.uids_nodup (uids : (start.map uid).Nodup) : (vms.map uid).Nodup := by
  have sub := shape.sub.map Prod.fst
  simp only [map_map] at sub
  exact sub.nodup uids

theorem Shape.unchanged (uids : (start.map uid).Nodup) {vm : VirtualMachine} (member : vm ∈ vms)
    (outside : vm.name ∉ targets) : vm ∈ start := by
  obtain ⟨origin, inStart, same⟩ := mem_map.mp (shape.ident_mem member)
  have name : origin.name = vm.name := congrArg Prod.snd same
  have uid : origin.uid = vm.uid := congrArg Prod.fst same
  have present := shape.kept origin inStart (name ▸ outside)
  have equal : origin = vm := inj_on_of_nodup_map (shape.uids_nodup uids) present member uid
  exact equal ▸ inStart

end

section Event

variable {event : WatchEvent} (uids : (start.map VirtualMachine.uid).Nodup)
  (member : ident event.vm ∈ start.map ident) (old : event.isCreated = false)
include uids member old

theorem applyEvent_sub (sub : (vms.map ident).Sublist (start.map ident)) :
    ((applyEvent vms event).map ident).Sublist (start.map ident) := by
  cases event with
  | created => cases old
  | modified vm =>
    have same : (Pool.applyEvent vms (.modified vm)).map ident = vms.map ident := by
      simp only [Pool.applyEvent, map_map]
      refine map_congr_left fun _ present => ?_
      simp only [Function.comp_apply]
      split
      · rename_i equal
        exact (ident_of_uid uids (sub.subset (mem_map_of_mem present)) member equal).symm
      · rfl
    rw [same]
    exact sub
  | deleted => exact (filter_sublist.map ident).trans sub

theorem applyEvent_kept (target : event.vm.name ∈ targets) (kept : ∀ vm ∈ start, vm.name ∉ targets → vm ∈ vms) :
    ∀ vm ∈ start, vm.name ∉ targets → vm ∈ applyEvent vms event := by
  intro vm inStart outside
  have present := kept vm inStart outside
  -- The event's UID is that of a target, so a member with another name has another UID.
  have distinct : vm.uid ≠ event.vm.uid := by
    intro same
    have equal := ident_of_uid uids (mem_map_of_mem inStart) member same
    have name : vm.name = event.vm.name := congrArg Prod.snd equal
    exact outside (name ▸ target)
  cases event with
  | created => cases old
  | modified => exact mem_map.mpr ⟨vm, present, if_neg distinct⟩
  | deleted => exact mem_filter.mpr ⟨present, decide_eq_true distinct⟩

end Event

theorem Shape.applyEvent (shape : Shape pool start targets vms) (uids : (start.map uid).Nodup)
    (ofTarget : OfTarget pool start targets event) : Shape pool start targets (applyEvent vms event) :=
  ⟨applyEvent_sub uids ofTarget.member ofTarget.old shape.sub,
    applyEvent_kept uids ofTarget.member ofTarget.old ofTarget.target shape.kept,
    applyEvent_forall shape.owned ofTarget.owned⟩

theorem length_le_of_names (names : (start.map name).Nodup)
    (covered : ∀ vm ∈ start, vm.name ∈ vms.map name) : start.length ≤ vms.length := by
  have inside : start.map name ⊆ vms.map name := by
    intro name member
    obtain ⟨vm, inStart, rfl⟩ := mem_map.mp member
    exact covered vm inStart
  have bound := (subperm_of_subset names inside).length_le
  simpa using bound

theorem length_split (start : List VirtualMachine) (targets : List String) :
    start.length = (start.filter (·.name ∈ targets)).length +
      (start.filter (·.name ∉ targets)).length := by
  have split := length_eq_countP_add_countP (fun vm : VirtualMachine => decide (vm.name ∈ targets)) (l := start)
  simpa [countP_eq_length_filter] using split

theorem targeted_length_le (targets : List String) (names : (start.map name).Nodup) :
    (start.filter (·.name ∈ targets)).length ≤ targets.length := by
  have inside : (start.filter (·.name ∈ targets)).map name ⊆ targets := fun name member => by
    obtain ⟨_, filtered, rfl⟩ := mem_map.mp member
    simpa using (mem_filter.mp filtered).2
  simpa using (subperm_of_subset ((filter_sublist.map _).nodup names) inside).length_le

theorem targeted_length (names : (start.map name).Nodup) (distinct : targets.Nodup)
    (present : ∀ target ∈ targets, target ∈ start.map name) :
    (start.filter (·.name ∈ targets)).length = targets.length := by
  refine Nat.le_antisymm (targeted_length_le targets names) ?_
  have inside : targets ⊆ (start.filter (·.name ∈ targets)).map name := by
    intro target member
    obtain ⟨_, inStart, rfl⟩ := mem_map.mp (present target member)
    exact mem_map_of_mem (mem_filter.mpr ⟨inStart, by simpa using member⟩)
  have bound := (subperm_of_subset distinct inside).length_le
  simpa using bound

theorem Shape.liveCount (shape : Shape pool start targets vms) (uids : (start.map uid).Nodup)
    (alive : ∀ vm ∈ start, vm.live) (removed : ∀ vm ∈ vms, vm.name ∈ targets → vm.live = false) :
    Pool.liveCount vms = (start.filter (·.name ∉ targets)).length := by
  have same : (vms.filter live).Perm (start.filter (·.name ∉ targets)) := by
    refine (perm_ext_iff_of_nodup ?_ ?_).mpr fun vm => ?_
    · exact (shape.uids_nodup uids).of_map.filter _
    · exact uids.of_map.filter _
    simp only [mem_filter, decide_eq_true_eq]
    constructor
    · rintro ⟨member, live⟩
      have outside : vm.name ∉ targets := by
        intro target
        rw [removed vm member target] at live
        cases live
      exact ⟨shape.unchanged uids member outside, outside⟩
    rintro ⟨inStart, outside⟩
    exact ⟨shape.kept vm inStart outside, alive vm inStart⟩
  rw [Pool.liveCount, countP_eq_length_filter, same.length_eq]

end Store

theorem decision_explicit {pool : VirtualMachinePool} {members : List VirtualMachine}
    (explicit : pool.scaleDownPolicy = .explicit) (enough : pool.desired ≤ members.length) :
    decision pool members = .keep := by
  have nobody (surplus : Int) : scaleDownVictims pool members surplus = [] := by
    simp [scaleDownVictims, pickVictims, explicit]
  unfold decision
  simp only [nobody]
  rw [if_neg (by omega)]
  split <;> rfl

def Calm (pool : VirtualMachinePool) : Pass → Prop
  | .idle | .decided .keep => True
  | .listed members => pool.desired ≤ members.length
  | _ => False

def unvalidated (targets : List String) : Call → List String
  | .validating _ rest => rest
  | .deleting _ | .returned => []
  | .notStarted | .failed => targets

def undeleted (targets : List String) : Call → List String
  | .deleting rest => rest
  | .returned => []
  | _ => targets

structure Converging (pool : VirtualMachinePool) (start : List VirtualMachine) (s : Site) : Prop where
  source : Shape pool start s.targets s.world.store.source
  copy : Shape pool start s.targets s.world.store.copy
  events : ∀ event ∈ s.world.store.log, OfTarget pool start s.targets event
  calm : Calm s.world.pool s.world.pass
  cached : s.world.pool = pool ∨ (s.call = .returned ∧ s.world.pool = s.current)
  current : s.current = if s.call = .returned then shrunk pool s.targets.length else pool
  validated : ∀ target ∈ s.targets, target ∈ unvalidated s.targets s.call ∨ target ∈ start.map VirtualMachine.name
  removed : ∀ vm ∈ s.world.store.source, vm.name ∈ s.targets →
    vm.name ∈ undeleted s.targets s.call ∨ vm.live = false
  wanted : ∀ target ∈ undeleted s.targets s.call, target ∈ s.targets
  distinct : s.targets.Nodup

def Move.ofRequest : Move → Bool
  | .sync | .pass _ => false
  | _ => true

inductive Asked (s : Site) : Site → Prop
  | failed (running : s.call ≠ .returned) : Asked s { s with call := .failed }
  | got (here : s.call = .notStarted) : Asked s { s with call := .validating s.current.uid s.targets }
  | belongs (here : s.call = .validating uid (target :: rest)) (found : s.world.find target = some vm) :
    Asked s { s with call := .validating uid rest }
  | validated (here : s.call = .validating uid []) : Asked s { s with call := .deleting s.targets }
  | gone (here : s.call = .deleting (target :: rest)) (missing : s.world.find target = none) :
    Asked s { s with call := .deleting rest }
  | deleted (deletion : Deletion) (here : s.call = .deleting (target :: rest))
    (found : s.world.find target = some vm) :
    Asked s { s with world := s.world.deleteObject vm deletion, call := .deleting rest }
  | shrunk (here : s.call = .deleting []) :
    Asked s { s with current := shrunk s.current s.targets.length, call := .returned }

theorem siteStep_asked {s t : Site} {move : Move} (own : move.ofRequest) (moved : siteStep s move = some t) :
    Asked s t := by
  unfold siteStep at moved
  split at moved <;> grind [Asked, Move.ofRequest]

structure Requested (pool : VirtualMachinePool) (start : List VirtualMachine) (s : Site) : Prop where
  sub : (s.world.store.source.map ident).Sublist (start.map ident)
  kept : ∀ vm ∈ start, vm.name ∉ s.targets → vm ∈ s.world.store.source
  current : s.current = if s.call = .returned then shrunk pool s.targets.length else pool
  validated : ∀ target ∈ s.targets, target ∈ unvalidated s.targets s.call ∨ target ∈ start.map VirtualMachine.name
  removed : ∀ vm ∈ s.world.store.source, vm.name ∈ s.targets →
    vm.name ∈ undeleted s.targets s.call ∨ vm.live = false
  wanted : ∀ target ∈ undeleted s.targets s.call, target ∈ s.targets

structure Grounds (pool : VirtualMachinePool) (start : List VirtualMachine) : Prop where
  explicit : pool.scaleDownPolicy = .explicit
  names : (start.map VirtualMachine.name).Nodup
  uids : (start.map VirtualMachine.uid).Nodup
  full : (start.length : Int) = pool.desired
  alive : ∀ vm ∈ start, vm.live

section Steps

variable {pool : VirtualMachinePool} {start : List VirtualMachine} {s : Site}

theorem Converging.cached_cases (inv : Converging pool start s) :
    s.world.pool = pool ∨ s.world.pool = shrunk pool s.targets.length := by
  rcases inv.cached with same | ⟨returned, same⟩
  · exact .inl same
  rw [same, inv.current, if_pos returned]
  exact .inr rfl

theorem Converging.cached_explicit (inv : Converging pool start s) (grounds : Grounds pool start) :
    s.world.pool.scaleDownPolicy = .explicit := by
  rcases inv.cached_cases with same | same <;> rw [same] <;> exact grounds.explicit

theorem shrunk_desired (pool : VirtualMachinePool) (removed : Int) :
    (shrunk pool removed).desired = max 0 (pool.desired - removed) := by
  show (if pool.desired - removed < 0 then 0 else pool.desired - removed) = _
  split <;> omega

theorem Converging.enough (inv : Converging pool start s) (grounds : Grounds pool start)
    {members : List VirtualMachine} (ordered : Ordered s (.pass (.list members)))
    (same : members.Perm (listMembers s.world.pool s.world.store.copy)) : s.world.pool.desired ≤ members.length := by
  have owned : ∀ vm ∈ s.world.store.copy, Owned s.world.pool vm := by
    rcases inv.cached_cases with cached | cached <;> rw [cached] <;> exact inv.copy.owned
  rw [same.length_eq, listMembers_owned owned]
  have full := grounds.full
  rcases ordered with ⟨returned, cached⟩ | cached
  · have outside : (start.filter (·.name ∉ s.targets)).length ≤ s.world.store.copy.length := by
      refine length_le_of_names ((filter_sublist.map _).nodup grounds.names) fun vm member => ?_
      obtain ⟨inStart, away⟩ := mem_filter.mp member
      exact mem_map_of_mem (inv.copy.kept vm inStart (of_decide_eq_true away))
    have split := length_split start s.targets
    have bound := targeted_length_le s.targets grounds.names
    rw [cached, inv.current, if_pos returned, shrunk_desired]
    omega
  have all : start.length ≤ s.world.store.copy.length := by
    refine length_le_of_names grounds.names fun vm inStart => ?_
    by_cases target : vm.name ∈ s.targets
    · exact cached vm.name target
    · exact mem_map_of_mem (inv.copy.kept vm inStart target)
  rcases inv.cached_cases with known | known
  · rw [known]
    omega
  rw [known, shrunk_desired]
  omega

open VirtualMachine

theorem Requested.write (req : Requested pool start s) (uids : (start.map uid).Nodup)
    (names : (start.map name).Nodup) (member : ident event.vm ∈ start.map ident)
    (target : event.vm.name ∈ s.targets) (old : event.isCreated = false)
    (dead : ∀ vm, event = .modified vm → vm.live = false) {call : Call}
    (ended : call = .returned ↔ s.call = .returned) (same : unvalidated s.targets call = unvalidated s.targets s.call)
    (fewer : ∀ name ∈ undeleted s.targets s.call, name = event.vm.name ∨ name ∈ undeleted s.targets call)
    (wanted : ∀ target ∈ undeleted s.targets call, target ∈ s.targets) :
    Requested pool start { s with world := s.world.write event, call } := by
  refine ⟨applyEvent_sub uids member old req.sub, applyEvent_kept uids member old target req.kept, ?_, ?_, ?_, wanted⟩
  · simp only [ended, req.current]
  · rw [same]
    exact req.validated
  intro vm present wanted
  have others {old : VirtualMachine} (present : old ∈ s.world.store.source) (other : old.uid ≠ event.vm.uid)
      (target : old.name ∈ s.targets) : old.name ∈ undeleted s.targets call ∨ old.live = false := by
    rcases req.removed old present target with waiting | gone
    · rcases fewer old.name waiting with name | waiting
      · have same := ident_of_proj Prod.snd names (req.sub.subset (mem_map_of_mem present)) member name
        exact absurd (congrArg Prod.fst same) other
      · exact .inl waiting
    · exact .inr gone
  cases event with
  | created => cases old
  | modified changed =>
    obtain ⟨_, present, isOld⟩ := mem_map.mp present
    split at isOld
    · exact .inr (isOld ▸ dead changed rfl)
    subst isOld
    exact others (by assumption) (by assumption) wanted
  | deleted =>
    obtain ⟨present, other⟩ := mem_filter.mp present
    exact others present (of_decide_eq_true other) wanted

variable {t : Site}

theorem Requested.step (uids : (start.map uid).Nodup) (names : (start.map name).Nodup)
    (req : Requested pool start s) (asked : Asked s t) : Requested pool start t := by
  have named : (s.world.store.source.map name).Sublist (start.map name) := by
    simpa [Function.comp_def, ident] using req.sub.map Prod.snd
  cases asked with
  | @deleted target rest vm deletion here found =>
    obtain ⟨member, name⟩ := find_some found
    have known := req.sub.subset (mem_map_of_mem member)
    have wanted := req.wanted
    rw [here] at wanted
    have later : ∀ name ∈ rest, name ∈ s.targets := fun name member => wanted name (mem_cons_of_mem _ member)
    have write {event : WatchEvent} (same : ident event.vm = ident vm) (old : event.isCreated = false)
        (dead : ∀ vm, event = .modified vm → vm.live = false) :
        Requested pool start { s with world := s.world.write event, call := .deleting rest } := by
      have renamed : event.vm.name = target := (congrArg Prod.snd same).trans name
      refine req.write uids names (same ▸ known) (renamed ▸ wanted target mem_cons_self) old dead
        (by simp [here]) (by rw [here]; rfl) ?_ later
      rw [here, renamed]
      exact fun later => mem_cons.mp
    rcases deleteObject_cases s.world vm deletion with ⟨_, same⟩ | same | ⟨_, _, same⟩ <;> rw [same]
    · have alone := inj_on_of_nodup_map (named.nodup names)
      obtain ⟨_, _, _, _, _, _⟩ := req
      constructor <;> grind [unvalidated, undeleted]
    · exact write rfl rfl nofun
    · exact write rfl rfl fun _ same => by cases same; rfl
  | belongs _ found =>
    have inside := named.subset (mem_map_of_mem (find_some found).1)
    have name := (find_some found).2
    obtain ⟨_, _, _, _, _, _⟩ := req
    constructor <;> grind [unvalidated, undeleted]
  | gone _ missing =>
    have absent := find?_eq_none.mp missing
    obtain ⟨_, _, _, _, _, _⟩ := req
    constructor <;> grind [unvalidated, undeleted]
  | _ =>
    obtain ⟨_, _, _, _, _, _⟩ := req
    constructor <;> grind [unvalidated, undeleted]

section

variable (inv : Converging pool start s)
include inv

theorem Converging.requested : Requested pool start s :=
  ⟨inv.source.sub, inv.source.kept, inv.current, inv.validated, inv.removed, inv.wanted⟩

theorem Converging.of_requested (req : Requested pool start t) (owned : ∀ vm ∈ t.world.store.source, Owned pool vm)
    (events : ∀ event ∈ t.world.store.log, OfTarget pool start t.targets event)
    (frame : t.targets = s.targets ∧ t.world.store.copy = s.world.store.copy ∧ t.world.pass = s.world.pass ∧
      t.world.pool = s.world.pool)
    (cached : t.world.pool = pool ∨ (t.call = .returned ∧ t.world.pool = t.current)) : Converging pool start t := by
  obtain ⟨targets, copy, pass, known⟩ := frame
  refine { req with source := ⟨req.sub, req.kept, owned⟩, copy := ?_, events, calm := ?_, cached, distinct := ?_ }
  · rw [targets, copy]
    exact inv.copy
  · rw [known, pass]
    exact inv.calm
  rw [targets]
  exact inv.distinct

theorem Converging.write {call : Call} (req : Requested pool start { s with world := s.world.write event, call })
    (ofTarget : OfTarget pool start s.targets event)
    (cached : s.world.pool = pool ∨ (call = .returned ∧ s.world.pool = s.current)) :
    Converging pool start { s with world := s.world.write event, call } := by
  refine inv.of_requested req (applyEvent_forall inv.source.owned ofTarget.owned) ?_ ⟨rfl, rfl, rfl, rfl⟩ cached
  intro later member
  rcases mem_append.mp member with member | member
  · exact inv.events later member
  rw [mem_singleton.mp member]
  exact ofTarget

variable (grounds : Grounds pool start)
include grounds

theorem Converging.terminating {vm : VirtualMachine} (member : vm ∈ s.world.store.source) (marked : vm.live = false) :
    vm.name ∈ s.targets := by
  by_contra outside
  have alive := grounds.alive vm (inv.source.unchanged grounds.uids member outside)
  rw [marked] at alive
  cases alive

theorem Converging.pass {action : Action} {world : World} (other : ∀ timestamp, action ≠ .deletePool timestamp)
    (notUser : ∀ name deletion, action ≠ .userDelete name deletion) (ordered : Ordered s (.pass action))
    (moved : step s.world action = some world) : Converging pool start { s with world } := by
  have calm := inv.calm
  -- A pass that keeps the members makes no API call, so only the informer and the finalizers are left.
  cases step_transition moved with
  | list _ _ same =>
    exact { inv with calm := inv.enough grounds ordered same }
  | forget idle terminating | observe pending | tick duration => exact { inv with }
  | allowed listed =>
    rw [listed] at calm
    refine { inv with calm := ?_ }
    rw [decision_explicit (inv.cached_explicit grounds) calm]
    exact True.intro
  | refused listed | keep decided => exact { inv with calm := True.intro }
  | expectCreations running | expectDeletions running | create running | createFails running | delete running
  | deleteGone running | deleteFails running => rw [running] at calm; exact calm.elim
  | finish done => rcases done with done | done <;> (rw [done] at calm; exact calm.elim)
  | deliver delivered =>
    obtain ⟨pending, source, copy⟩ := deliver_some delivered
    have events := inv.events
    rw [pending] at events
    refine { inv with source := ?_, copy := ?_, events := ?_, removed := ?_ }
    · rw [source]
      exact inv.source
    · rw [copy]
      exact inv.copy.applyEvent grounds.uids (events _ mem_cons_self)
    · exact fun event member => events event (mem_cons_of_mem _ member)
    rw [source]
    exact inv.removed
  | userDelete => exact absurd rfl (notUser _ _)
  | @finalized vm uid member terminating =>
    have dead : vm.live = false := by simpa [live] using terminating
    have ofTarget : OfTarget pool start s.targets (.deleted vm) :=
      ⟨inv.source.ident_mem member, inv.terminating grounds member dead, inv.source.owned vm member, rfl⟩
    have req := inv.requested.write grounds.uids grounds.names ofTarget.member ofTarget.target rfl (by simp) Iff.rfl rfl
      (fun _ => .inr) inv.wanted
    exact inv.write req ofTarget inv.cached
  | deletePool timestamp => exact absurd rfl (other timestamp)

theorem Converging.asked (asked : Asked s t) : Converging pool start t := by
  have req := inv.requested.step grounds.uids grounds.names asked
  have owned := inv.source.owned
  have fresh (running : s.call ≠ .returned) : s.world.pool = pool := inv.cached.resolve_right fun both => running both.1
  cases asked with
  | @deleted target rest vm deletion here found =>
    obtain ⟨member, name⟩ := find_some found
    have known : s.world.pool = pool := fresh (by simp [here])
    have wanted := inv.wanted target (by rw [here]; exact mem_cons_self)
    have ofTarget {event : WatchEvent} (same : ident event.vm = ident vm) (owned : Owned pool event.vm)
        (old : event.isCreated = false) : OfTarget pool start s.targets event := by
      have named : event.vm.name = target := (congrArg Prod.snd same).trans name
      exact ⟨same ▸ inv.source.ident_mem member, named ▸ wanted, owned, old⟩
    rcases deleteObject_cases s.world vm deletion with ⟨_, same⟩ | same | ⟨_, _, same⟩ <;> rw [same] at req ⊢
    · exact inv.of_requested req owned inv.events ⟨rfl, rfl, rfl, rfl⟩ (.inl known)
    all_goals exact inv.write req (ofTarget rfl (owned vm member) rfl) (.inl known)
  | failed running => exact inv.of_requested req owned inv.events ⟨rfl, rfl, rfl, rfl⟩ (.inl (fresh running))
  | _ => exact inv.of_requested req owned inv.events ⟨rfl, rfl, rfl, rfl⟩ (.inl (fresh (by simp [*])))

end

theorem Converging.step (grounds : Grounds pool start) {move : Move} (inv : Converging pool start s)
    (ordered : Ordered s move) (moved : siteStep s move = some t) : Converging pool start t := by
  cases move with
  | sync =>
    simp only [siteStep] at moved
    split at moved <;> cases moved
    rename_i idle
    refine { inv with calm := ?_, cached := ?_ }
    · rw [idle]
      exact True.intro
    by_cases returned : s.call = .returned
    · exact .inr ⟨returned, rfl⟩
    · exact .inl (inv.current.trans (if_neg returned))
  | pass action =>
    cases action with
    | deletePool => cases moved
    | userDelete => cases moved
    | _ =>
      simp only [siteStep, Option.map_eq_some_iff] at moved
      obtain ⟨_, taken, rfl⟩ := moved
      exact inv.pass grounds (by simp) (by simp) ordered taken
  | _ => exact inv.asked grounds (siteStep_asked rfl moved)

end Steps

def removedBy (before after : List VirtualMachine) : List VirtualMachine :=
  before.filter fun vm => vm.live ∧ ∀ now ∈ after, now.uid = vm.uid → now.live = false

variable {s : Site}

/-- The live members that a request names, each of them once. -/
def targetedLive (vms : List VirtualMachine) (targets : List String) : List VirtualMachine :=
  vms.filter fun vm => vm.live ∧ vm.name ∈ targets

theorem Requested.removedBy {pool : VirtualMachinePool} {start : List VirtualMachine} (req : Requested pool start s)
    (uids : (start.map VirtualMachine.uid).Nodup) (returned : s.call = .returned) :
    removedBy start s.world.store.source = targetedLive start s.targets := by
  have removed := req.removed
  simp only [returned, undeleted, not_mem_nil, false_or] at removed
  refine filter_congr fun vm inStart => decide_eq_decide.mpr (and_congr_right fun alive => ⟨fun dead => ?_, ?_⟩)
  · by_contra outside
    have gone := dead vm (req.kept vm inStart outside) rfl
    rw [alive] at gone
    cases gone
  intro target now present same
  have ident := ident_of_uid uids (req.sub.subset (mem_map_of_mem present)) (mem_map_of_mem inStart) same
  have name : now.name = vm.name := congrArg Prod.snd ident
  exact removed now present (name ▸ target)

section

variable {start : List VirtualMachine} {targets : List String} (names : (start.map VirtualMachine.name).Nodup)
include names

theorem targetedLive_subperm (targets : List String) :
    ((targetedLive start targets).map VirtualMachine.name).Subperm targets := by
  refine subperm_of_subset ((filter_sublist.map _).nodup names) fun name member => ?_
  obtain ⟨_, filtered, rfl⟩ := mem_map.mp member
  exact (of_decide_eq_true (mem_filter.mp filtered).2).2

/-- As many live members as names: no name comes twice, and none is that of a terminating member. -/
theorem targetedLive_length (present : ∀ target ∈ targets, target ∈ start.map VirtualMachine.name) :
    (targetedLive start targets).length = targets.length ↔
      targets.Nodup ∧ ∀ vm ∈ start, vm.name ∈ targets → vm.live = true := by
  constructor
  · intro same
    have perm := (targetedLive_subperm names targets).perm_of_length_le (by simp [same])
    refine ⟨perm.nodup_iff.mp ((filter_sublist.map _).nodup names), fun vm inStart target => ?_⟩
    obtain ⟨other, filtered, sameName⟩ := mem_map.mp (perm.mem_iff.mpr target)
    obtain ⟨otherIn, both⟩ := mem_filter.mp filtered
    rw [← inj_on_of_nodup_map names otherIn inStart sameName]
    exact (of_decide_eq_true both).1
  · rintro ⟨distinct, live⟩
    rw [← targeted_length names distinct present]
    refine congrArg length (filter_congr fun vm inStart => decide_eq_decide.mpr ?_)
    exact and_iff_right_of_imp (live vm inStart)

end

/-- A request that runs alone subtracts what it has removed exactly when it names distinct live members, or the live
    ones it names are as many as the pool asks for, so that the floor at zero hides the others. -/
theorem scaleDown_subtracts_removed {s t : Site} {moves : List Move}
    (names : (s.world.store.source.map VirtualMachine.name).Nodup)
    (uids : (s.world.store.source.map VirtualMachine.uid).Nodup) (fresh : s.call = .notStarted)
    (alone : Along siteStep (fun _ move => move.ofRequest = true) s moves) (reached : run siteStep s moves = some t)
    (returned : t.call = .returned) :
    t.current.desired = max 0 (s.current.desired - (removedBy s.world.store.source t.world.store.source).length) ↔
      (s.targets.Nodup ∧ ∀ vm ∈ s.world.store.source, vm.name ∈ s.targets → vm.live = true) ∨
        s.current.desired ≤ (targetedLive s.world.store.source s.targets).length := by
  have start : Requested s.current s.world.store.source s := by
    constructor <;> grind [unvalidated, undeleted]
  have step (u : Site) (move : Move) (v : Site)
      (inv : Requested s.current s.world.store.source u ∧ u.targets = s.targets) (own : move.ofRequest = true)
      (moved : siteStep u move = some v) :
      Requested s.current s.world.store.source v ∧ v.targets = s.targets := by
    have asked := siteStep_asked own moved
    refine ⟨inv.1.step uids names asked, ?_⟩
    cases asked <;> exact inv.2
  obtain ⟨req, targets⟩ := run_invariant step ⟨start, rfl⟩ alone reached
  have validated := req.validated
  simp only [returned, unvalidated, not_mem_nil, false_or] at validated
  rw [targets] at validated
  have exact_ := targetedLive_length names validated
  have bound := (targetedLive_subperm names s.targets).length_le
  rw [length_map] at bound
  rw [req.removedBy uids returned, req.current, if_pos returned, shrunk_desired, targets, ← exact_]
  omega

theorem Site.Initial.converging (initial : s.Initial) (distinct : s.targets.Nodup) :
    Converging s.current s.world.store.source s := by
  have whole : Shape s.current s.world.store.source s.targets s.world.store.source :=
    ⟨.refl _, fun _ member _ => member, initial.owned⟩
  have copy : s.world.store.copy = s.world.store.source := congrArg copy initial.synced
  have log : s.world.store.log = [] := congrArg log initial.synced
  refine ⟨whole, copy ▸ whole, by simp [log], ?_, .inl initial.known, ?_, ?_, ?_, ?_, distinct⟩
  · rw [initial.idle]
    exact True.intro
  · rw [initial.call]
    rfl
  all_goals rw [initial.call]
  · exact fun _ => .inl
  · exact fun _ _ => .inl
  · exact fun _ => id

theorem Site.Initial.grounds (initial : s.Initial) : Grounds s.current s.world.store.source :=
  ⟨initial.explicit, initial.names, initial.uids, initial.full, initial.alive⟩

/-- In every run in which no pass lists a cache that misses a target before the decrement has reached the pool
    informer, a request on distinct targets leaves as many live members as the pool then asks for. -/
theorem addressed_scaleDown_converges {s t : Site} {moves : List Move} (initial : s.Initial)
    (distinct : s.targets.Nodup) (along : Along siteStep Ordered s moves)
    (reached : run siteStep s moves = some t) (returned : t.call = .returned) :
    (liveCount t.world.store.source : Int) = t.current.desired := by
  have grounds := initial.grounds
  have inv : Converging s.current s.world.store.source t :=
    run_invariant (fun _ _ _ inv => inv.step grounds) (initial.converging distinct) along reached
  have validated := inv.validated
  have removed := inv.removed
  simp only [returned, unvalidated, undeleted, not_mem_nil, false_or] at validated removed
  have live := inv.source.liveCount grounds.uids grounds.alive removed
  have targeted := targeted_length grounds.names inv.distinct validated
  have split := length_split s.world.store.source t.targets
  have full := grounds.full
  rw [inv.current, if_pos returned, shrunk_desired, live]
  omega

def explicitPool : VirtualMachinePool :=
  { uid := 100, ns := "default", name := "workers", replicas := some 2, scaleDownPolicy := .explicit,
    deletionTimestamp := none }

def pair : List VirtualMachine := [newMember explicitPool 1 "workers-a" 1, newMember explicitPool 2 "workers-b" 2]

def requested (targets : List String) : Site :=
  { current := explicitPool, world := { workersAt pair with pool := explicitPool }, targets, call := .notStarted }

theorem requested_initial (targets : List String) : (requested targets).Initial := by
  have owned : ∀ vm ∈ pair, Owned explicitPool vm := by decide
  have alive : ∀ vm ∈ pair, vm.live := by decide
  have names : (pair.map VirtualMachine.name).Nodup := by decide
  have uids : (pair.map VirtualMachine.uid).Nodup := by decide
  exact ⟨rfl, rfl, rfl, rfl, owned, names, uids, rfl, alive, rfl⟩

def request : List Move := [.get, .validate, .validate, .delete .removed]

def passOver (members : List VirtualMachine) : List Move :=
  [.pass (.list members), .pass .check, .pass .expect]

def inTurn : List Move :=
  request ++ passOver pair ++ [.shrink, .pass .deliver, .pass .observe, .sync] ++
    passOver [newMember explicitPool 2 "workers-b" 2]

theorem addressed_scaleDown_converges_in_turn :
    ∃ t, run siteStep (requested ["workers-a"]) inTurn = some t ∧ Settled t ∧
      (liveCount t.world.store.source : Int) = t.current.desired :=
  ⟨_, rfl, by decide,
    addressed_scaleDown_converges (requested_initial ["workers-a"]) (by decide)
      (by decide : Along siteStep Ordered (requested ["workers-a"]) inTurn) rfl (by decide)⟩

/-- The pass in between sees the target gone and replaces it. The pool may not shrink by itself afterwards. -/
def replaced : List Move :=
  request ++ [.pass .deliver, .pass .observe] ++ passOver [newMember explicitPool 2 "workers-b" 2] ++
    [.pass (.create 3 "workers-c" 3), .pass .finish, .shrink, .pass .deliver, .pass .observe, .sync] ++
    passOver [newMember explicitPool 2 "workers-b" 2, newMember explicitPool 3 "workers-c" 3]

theorem replaced_target_surplus : (run siteStep (requested ["workers-a"]) replaced).any (fun t =>
      Settled t ∧ liveCount t.world.store.source = 2 ∧ t.current.desired = 1) = true ∧
    -- A target named twice is deleted once and subtracted twice.
    (run siteStep (requested ["workers-a", "workers-a"])
        ([.get, .validate, .validate, .validate, .delete .removed, .delete .removed, .shrink, .pass .deliver,
          .pass .observe, .sync] ++ passOver [newMember explicitPool 2 "workers-b" 2])).any (fun t =>
      Settled t ∧ liveCount t.world.store.source = 1 ∧ t.current.desired = 0) = true := by
  decide

def trio : List VirtualMachine := pair ++ [newMember explicitPool 3 "workers-c" 3]

/-- Two of three members are to go. -/
def twoOfThree : Site :=
  { requested ["workers-c", "workers-a"] with
    current := { explicitPool with replicas := some 3 }
    world := { workersAt trio with pool := { explicitPool with replicas := some 3 } } }

def twoRemoved : List Move :=
  [.get, .validate, .validate, .validate, .delete .removed, .delete .removed, .shrink]

theorem scaleDown_subtracts_removed_alone :
    ∃ t, run siteStep twoOfThree twoRemoved = some t ∧ t.current.desired = 1 ∧
      t.current.desired = max 0 (3 - (removedBy trio t.world.store.source).length) :=
  ⟨_, rfl, rfl, (@scaleDown_subtracts_removed twoOfThree _ twoRemoved (by decide) (by decide) rfl
    (by decide) rfl rfl).mpr (.inl ⟨by decide, by decide⟩)⟩

def repeatable : List Move := [.get, .validate, .validate, .delete (.marked 5), .shrink]

theorem target_subtracted_again : (run siteStep (requested ["workers-a", "workers-a"]) twoRemoved).any (fun t =>
      t.call = .returned ∧ t.current.desired = 0 ∧ (removedBy pair t.world.store.source).length = 1) = true ∧
    -- The second of two equal requests finds the target terminating and subtracts it again.
    (run siteStep (requested ["workers-a"]) repeatable).any (fun first =>
      (run siteStep { first with call := .notStarted } repeatable).any fun second =>
        second.call = .returned ∧ first.current.desired = 1 ∧ second.current.desired = 0 ∧
          removedBy first.world.store.source second.world.store.source = []) = true := by
  decide

end Virtualization.Pool.ScaleDownWith
