import Mathlib.Logic.Function.Basic
import Virtualization.Library.Run

namespace Virtualization.Route

open Library Option Function

structure VirtualMachine where
  (ip node : String)
  deleting : Bool

structure Addresses where
  (nodeIP vmIP : String)

/-- The indexers, the queue, what the workers have read of the VMs they process, the cache and the managed table, which
has a route to an address made from the route to a node. `updated` is history: what the last `UpdateRoute` has set up,
if it has not failed and the VM was not taken for deleted since. -/
structure World where
  vms : String → Option VirtualMachine
  nodes : String → Option String
  queue : List String
  processing : String → Option (Option VirtualMachine)
  vmAddr : String → Option Addresses
  (addrVm table : String → Option String)
  updated : String → Option Addresses

def World.start : World where
  vms _ := none
  nodes _ := none
  queue := []
  processing _ := none
  vmAddr _ := none
  addrVm _ := none
  table _ := none
  updated _ := none

/-- `tombstone` is a deletion that the informer has missed and reports as a `DeletedFinalStateUnknown`. -/
inductive Event where
  | vm (key : String) (vm : Option VirtualMachine)
  | tombstone (key : String)
  | node (name : String) (internalIP : Option String)
  | enqueue (key : String)
  | get (key : String)
  | process (key : String) (ok : Bool)

def enqueues : Option VirtualMachine → Option VirtualMachine → Bool
  | some old, some new => old.ip ≠ new.ip || old.node ≠ new.node
  | old, new => old.isSome || new.isSome

section Manager

-- `isManaged` is `none` for what is not an address.
variable (isManaged : String → Option Bool) (w : World) (key : String)

def World.set (addrs : Addresses) : World :=
  { w with
    vmAddr := update w.vmAddr key (some addrs)
    addrVm := update w.addrVm addrs.vmIP (some key) }

def World.deleteByKey : World :=
  { w with
    addrVm := match w.vmAddr key with
      | some addrs => update w.addrVm addrs.vmIP none
      | none => w.addrVm
    vmAddr := update w.vmAddr key none }

def updateRoute (vm : VirtualMachine) (ok : Bool) : Bool × World :=
  match w.nodes vm.node with
  | none => (false, w)
  | some nodeIP =>
    if vm.ip = "" then (true, w)
    else match isManaged vm.ip with
      | none => (false, w)
      | some false => (true, w)
      | some true =>
        if ok then
          (true, { w.set key ⟨nodeIP, vm.ip⟩ with
            table := update w.table vm.ip (some nodeIP)
            updated := update w.updated key (some ⟨nodeIP, vm.ip⟩) })
        else (false, { w.set key ⟨nodeIP, vm.ip⟩ with updated := update w.updated key none })

def World.recover (vmIP : String) : String :=
  if vmIP = "" then ((w.vmAddr key).map Addresses.vmIP).getD "" else vmIP

def deleteRoute (vmIP : String) (ok : Bool) : Bool × World :=
  if w.recover key vmIP = "" then (true, w)
  else if isManaged (w.recover key vmIP) = none ∨ ok = false then (false, w)
  else (true, { w.deleteByKey key with
    table := update w.table (w.recover key vmIP) none
    updated := update w.updated key none })

/-- `sync`. A VM without a node comes back to the queue later. -/
def sync (vm : Option VirtualMachine) (ok : Bool) : Bool × World :=
  match vm with
  | none => deleteRoute isManaged w key "" ok
  | some vm =>
    if vm.deleting then deleteRoute isManaged w key vm.ip ok
    else if vm.node = "" then (false, w)
    else updateRoute isManaged w key vm ok

def step : Event → Option World
  | .vm key vm => some
      { w with
        vms := update w.vms key vm
        queue := if enqueues (w.vms key) vm then w.queue ++ [key] else w.queue }
  -- `deleteVirtualMachine` returns at what is not a VM.
  | .tombstone key => some { w with vms := update w.vms key none }
  | .node name internalIP => some { w with nodes := update w.nodes name internalIP }
  | .enqueue key => some { w with queue := w.queue ++ [key] }
  | .get key =>
    if key ∈ w.queue ∧ w.processing key = none then some
      { w with
        queue := w.queue.filter (· ≠ key)
        processing := update w.processing key (some (w.vms key)) }
    else none
  | .process key ok =>
    (w.processing key).map fun vm =>
      match sync isManaged { w with processing := update w.processing key none } key vm ok with
      | (true, w) => w
      | (false, w) => { w with queue := w.queue ++ [key] }

end Manager

variable {isManaged : String → Option Bool} {w t : World} {key : String} {vm : Option VirtualMachine} {ok done : Bool}

inductive Synced (w : World) (key : String) (vm : Option VirtualMachine) (ok : Bool) : Bool → World → Prop where
  | kept (done : Bool) (nothing : done → vm = none → ∀ addrs ∈ w.vmAddr key, addrs.vmIP = "") :
      Synced w key vm ok done w
  | failed (live : VirtualMachine) (isLive : vm = some live) (nodeIP : String) (assigned : live.ip ≠ "")
      (fails : ok = false) : Synced w key vm ok false
        { w.set key ⟨nodeIP, live.ip⟩ with updated := update w.updated key none }
  | updated (live : VirtualMachine) (isLive : vm = some live) (nodeIP : String) (assigned : live.ip ≠ "") :
      Synced w key vm ok true
        { w.set key ⟨nodeIP, live.ip⟩ with
          table := update w.table live.ip (some nodeIP)
          updated := update w.updated key (some ⟨nodeIP, live.ip⟩) }
  | deleted (vmIP : String) (own : (∃ live, vm = some live ∧ live.ip ≠ "" ∧ live.ip = vmIP) ∨
        ∃ addrs, w.vmAddr key = some addrs ∧ addrs.vmIP = vmIP) :
      Synced w key vm ok true
        { w.deleteByKey key with
          table := update w.table vmIP none
          updated := update w.updated key none }

open World

theorem deleteRoute_synced {vmIP : String} (own : vmIP = "" ∨ ∃ live, vm = some live ∧ live.ip = vmIP)
    (synced : deleteRoute isManaged w key vmIP ok = (done, t)) : Synced w key vm ok done t := by
  unfold deleteRoute at synced
  split at synced
  · rename_i empty
    cases synced
    refine .kept true fun _ none _ cached => ?_
    have unnamed : vmIP = "" := own.resolve_right fun ⟨live, isLive, _⟩ => by rw [none] at isLive; cases isLive
    simpa [recover, unnamed, mem_def.mp cached] using empty
  rename_i named
  split at synced <;> cases synced
  · exact .kept false nofun
  refine .deleted _ ?_
  unfold recover at named ⊢
  split at named
  · cases cached : w.vmAddr key with
    | none => simp [cached] at named
    | some addrs => exact .inr ⟨addrs, rfl, by simp [*]⟩
  rename_i given
  obtain ⟨live, isLive, same⟩ := own.resolve_left given
  exact .inl ⟨live, isLive, same ▸ given, by rw [if_neg given, same]⟩

theorem sync_synced (synced : sync isManaged w key vm ok = (done, t)) : Synced w key vm ok done t := by
  unfold sync at synced
  split at synced
  · exact deleteRoute_synced (.inl rfl) synced
  rename_i live
  split at synced
  · exact deleteRoute_synced (.inr ⟨live, rfl, rfl⟩) synced
  have kept : ∀ done, Synced w key (some live) ok done w := fun done => .kept done fun _ none => by cases none
  split at synced
  · cases synced; exact kept false
  unfold updateRoute at synced
  split at synced
  · cases synced; exact kept false
  split at synced
  · cases synced; exact kept true
  rename_i assigned
  split at synced
  · cases synced; exact kept false
  · cases synced; exact kept true
  split at synced <;> cases synced
  · exact .updated live rfl _ assigned
  rename_i fails
  exact .failed live rfl _ assigned (Bool.eq_false_iff.mpr fails)

theorem step_process (taken : step isManaged w (.process key ok) = some t) :
    ∃ vm done later, w.processing key = some vm ∧
      Synced { w with processing := update w.processing key none } key vm ok done later ∧
      t = { later with queue := if done then later.queue else later.queue ++ [key] } := by
  obtain ⟨vm, reading, isNext⟩ := map_eq_some_iff.mp taken
  split at isNext <;> rename_i later synced <;> cases isNext
  · exact ⟨vm, true, _, reading, sync_synced synced, rfl⟩
  · exact ⟨vm, false, later, reading, sync_synced synced, rfl⟩

structure Owned (w : World) : Prop where
  updated : ∀ key addrs, w.updated key = some addrs → w.vmAddr key = some addrs ∧
    w.addrVm addrs.vmIP = some key ∧ w.table addrs.vmIP = some addrs.nodeIP
  distinct : ∀ key other addrs others, w.vmAddr key = some addrs → w.vmAddr other = some others →
    addrs.vmIP = others.vmIP → key = other

def World.Sole (w : World) (key vmIP : String) : Prop :=
  ∀ other addrs, w.vmAddr other = some addrs → addrs.vmIP = vmIP → other = key

/-- A VM is processed while no other VM has its address in the cache. -/
def Handover (w : World) : Event → Prop
  | .process key _ => ∀ live, w.processing key = some (some live) → live.ip ≠ "" → w.Sole key live.ip
  | _ => True

theorem Owned.synced (inv : Owned w) (sole : ∀ live, vm = some live → live.ip ≠ "" → w.Sole key live.ip)
    (synced : Synced w key vm ok done t) : Owned t := by
  obtain ⟨updated, distinct⟩ := inv
  cases synced with
  | kept => exact ⟨updated, distinct⟩
  | failed live isLive nodeIP assigned | updated live isLive nodeIP assigned =>
    unfold World.Sole at sole
    constructor <;> simp only [World.set, update_apply] <;> grind
  | deleted =>
    unfold World.Sole at sole
    constructor <;> simp only [deleteByKey, update_apply]
    · cases cached : w.vmAddr key with
      | none => grind
      | some =>
        grind
    · grind

theorem Owned.step (w : World) (event : Event) (t : World) (inv : Owned w) (lawful : Handover w event)
    (taken : Route.step isManaged w event = some t) : Owned t := by
  cases event with
  | vm | tombstone | node | enqueue => cases taken; exact ⟨inv.updated, inv.distinct⟩
  | get =>
    obtain ⟨-, isNext⟩ := ite_none_right_eq_some.mp taken
    cases isNext
    exact ⟨inv.updated, inv.distinct⟩
  | process key =>
    obtain ⟨_, _, _, reading, synced, rfl⟩ := step_process taken
    have before : Owned { w with processing := update w.processing key none } := ⟨inv.updated, inv.distinct⟩
    have after := before.synced (fun live isLive => lawful live (isLive ▸ reading)) synced
    exact ⟨after.updated, after.distinct⟩

/-- The route that was set up for a VM stays, and so does the cache, if addresses are handed over in the cache first. -/
theorem routes_not_removed {events : List Event} {addrs : Addresses}
    (along : Along (step isManaged) Handover .start events) (reached : run (step isManaged) .start events = some w)
    (updated : w.updated key = some addrs) :
    w.table addrs.vmIP = some addrs.nodeIP ∧ w.vmAddr key = some addrs ∧ w.addrVm addrs.vmIP = some key := by
  have start : Owned .start := ⟨nofun, nofun⟩
  obtain ⟨cached, back, routed⟩ := (run_invariant Owned.step start along reached).updated key addrs updated
  exact ⟨routed, cached, back⟩

def allManaged : String → Option Bool := fun _ => some true

def routed : List Event :=
  [.node "node-1" (some "10.0.0.1"), .vm "a" (some ⟨"10.1.0.5", "node-1", false⟩), .get "a", .process "a" true]

/-- The address goes from one VM to another when the first has been processed as deleted. -/
def handedOver : List Event :=
  routed ++ [.vm "a" none, .get "a", .process "a" true, .vm "b" (some ⟨"10.1.0.5", "node-1", false⟩), .get "b",
    .process "b" true]

theorem routes_not_removed_routed : ∃ w, run (step allManaged) .start handedOver = some w ∧ w.vms "a" = none ∧
    w.updated "a" = none ∧ w.updated "b" = some ⟨"10.0.0.1", "10.1.0.5"⟩ ∧ w.table "10.1.0.5" = some "10.0.0.1" := by
  have along : Along (step allManaged) Handover .start handedOver := by
    iterate 3
      refine ⟨trivial, ?_⟩
      rintro _ ⟨⟩
    refine ⟨nofun, ?_⟩
    rintro _ ⟨⟩
    iterate 2
      refine ⟨trivial, ?_⟩
      rintro _ ⟨⟩
    refine ⟨nofun, ?_⟩
    rintro _ ⟨⟩
    iterate 2
      refine ⟨trivial, ?_⟩
      rintro _ ⟨⟩
    -- Nothing is cached for `a` any more.
    refine ⟨fun live reading _ other addrs cached _ => ?_, fun _ _ => trivial⟩
    change update (update (fun _ => none) "a" _) "a" none other = some addrs at cached
    rw [update_idem, update_eq_self] at cached
    cases cached
  refine ⟨_, rfl, rfl, rfl, ?updated, (routes_not_removed along rfl ?updated).1⟩
  rfl

/-- If a VM gets the address of one that is deleted and is processed first, its route is removed with the other VM. -/
theorem route_removed_with_other : ∃ w, run (step allManaged) .start (routed ++ [.vm "a" none,
      .vm "b" (some ⟨"10.1.0.5", "node-1", false⟩), .get "b", .process "b" true, .get "a", .process "a" true]) =
      some w ∧ w.queue = [] ∧ (∀ key, w.processing key = none) ∧ w.vms "b" = some ⟨"10.1.0.5", "node-1", false⟩ ∧
    w.updated "b" = some ⟨"10.0.0.1", "10.1.0.5"⟩ ∧ w.table "10.1.0.5" = none ∧ w.addrVm "10.1.0.5" = none := by
  refine ⟨_, rfl, rfl, fun key => ?_, rfl, rfl, rfl, rfl⟩
  change update (update (update (update (update (update
    (fun _ => none) "a" _) "a" none) "b" _) "b" none) "a" _) "a" none key = none
  simp [update_apply]

def World.Covered (w : World) (key ip : String) : Prop :=
  (∃ vm, w.vms key = some vm ∧ vm.ip = ip) ∨ key ∈ w.queue ∨ w.processing key = some none

structure Served (w : World) : Prop where
  routes : ∀ ip, w.table ip ≠ none → ∃ key addrs, w.vmAddr key = some addrs ∧ addrs.vmIP = ip ∧ w.Covered key ip
  cached : ∀ key addrs, w.vmAddr key = some addrs →
    addrs.vmIP ≠ "" ∧ ∀ vm, w.vms key = some vm → vm.ip = addrs.vmIP
  copies : ∀ key live, w.processing key = some (some live) → live.ip ≠ "" →
    (∀ addrs, w.vmAddr key = some addrs → addrs.vmIP = live.ip) ∧
    ((∃ vm, w.vms key = some vm ∧ vm.ip = live.ip) ∨ w.vms key = none ∧ key ∈ w.queue)

def World.Forgotten (w : World) (key : String) : Prop := w.vmAddr key = none ∧ w.processing key = none

/-- A VM that is in the cache or being processed keeps its address, is not created anew, and its deletion is not
missed, unless it is in the queue anyway. Netlink calls succeed. -/
def Stable (w : World) : Event → Prop
  | .vm key (some new) => (∃ old ∈ w.vms key, old.ip = "" ∨ new.ip = old.ip) ∨ w.Forgotten key
  | .tombstone key => w.vms key = none ∨ key ∈ w.queue ∨ w.Forgotten key
  | .process _ ok => ok
  | _ => True

instance (w : World) : (event : Event) → Decidable (Stable w event)
  | .vm _ (some _) => inferInstanceAs (Decidable (_ ∨ _ ∧ _))
  | .tombstone _ => inferInstanceAs (Decidable (_ ∨ _ ∨ _ ∧ _))
  | .process _ ok => inferInstanceAs (Decidable (ok))
  | .vm _ none | .node _ _ | .enqueue _ | .get _ => .isTrue trivial

/-- A step that leaves the routes and the cache alone has to leave the cached VMs covered. -/
theorem Served.routes_of (inv : Served w) (table : t.table = w.table) (cache : t.vmAddr = w.vmAddr)
    (covers : ∀ key addrs, w.vmAddr key = some addrs → w.Covered key addrs.vmIP → t.Covered key addrs.vmIP) :
    ∀ ip, t.table ip ≠ none → ∃ key addrs, t.vmAddr key = some addrs ∧ addrs.vmIP = ip ∧ t.Covered key ip := by
  intro ip route
  rw [table] at route
  obtain ⟨key, addrs, isCached, rfl, covered⟩ := inv.routes ip route
  rw [cache]
  exact ⟨key, addrs, isCached, rfl, covers key addrs isCached covered⟩

theorem Served.synced (inv : Served w) (reading : w.processing key = some vm)
    (synced : Synced { w with processing := update w.processing key none } key vm true done t) :
    Served { t with queue := if done then t.queue else t.queue ++ [key] } := by
  have ⟨routes, cached, _⟩ := inv
  unfold World.Covered at routes
  cases synced with
  | kept _ =>
    refine ⟨inv.routes_of rfl rfl fun other addrs _ covered => ?_, cached, ?_⟩
    · simp only [World.Covered, update_apply] at covered ⊢
      grind
    · grind
  | failed _ _ _ _ fails => cases fails
  | updated live _ nodeIP =>
    refine ⟨fun ip route => ?_, ?_, ?_⟩
    · by_cases here : ip = live.ip
      · refine ⟨key, ⟨nodeIP, live.ip⟩, update_self .., here.symm, ?_⟩
        simp only [World.Covered, World.set]
        grind
      obtain ⟨other, addrs, _, same, _⟩ := routes ip ((update_of_ne here ..).symm.trans_ne route)
      refine ⟨other, addrs, ?_, same, ?_⟩ <;> simp only [World.Covered, World.set, update_apply] <;> grind
    all_goals simp only [World.set, update_apply]; grind
  | deleted =>
    refine ⟨fun ip _ => ?_, ?_, ?_⟩
    · obtain ⟨other, addrs, _, same, _⟩ := routes ip (by grind)
      refine ⟨other, addrs, ?_, same, ?_⟩ <;>
        simp only [World.Covered, deleteByKey, update_apply] <;> grind
    all_goals simp only [deleteByKey, update_apply]; grind

theorem Served.step (w : World) (event : Event) (t : World) (inv : Served w) (lawful : Stable w event)
    (taken : Route.step isManaged w event = some t) : Served t := by
  cases event with
  | process =>
    obtain ⟨_, _, _, reading, synced, rfl⟩ := step_process taken
    cases lawful
    exact inv.synced reading synced
  | node => cases taken; exact { inv with }
  | tombstone key =>
    cases taken
    have ⟨_, _, _⟩ := inv
    have noticed : w.vms key = none ∨ key ∈ w.queue ∨ w.vmAddr key = none ∧ w.processing key = none := lawful
    refine ⟨inv.routes_of rfl rfl fun other addrs _ covered => ?_, ?_, ?_⟩
    · simp only [World.Covered, update_apply] at covered ⊢
      grind
    all_goals grind
  | enqueue =>
    cases taken
    refine ⟨inv.routes_of rfl rfl fun other addrs _ covered => ?_, inv.cached, ?_⟩
    · unfold World.Covered at covered ⊢
      grind
    · have := inv.copies
      grind
  | vm key vm =>
    cases taken
    have ⟨_, _, _⟩ := inv
    have kept : ∀ new, vm = some new →
        (∃ old, w.vms key = some old ∧ (old.ip = "" ∨ new.ip = old.ip)) ∨
          w.vmAddr key = none ∧ w.processing key = none := by
      rintro new rfl
      exact lawful
    have noticed : ∀ old, w.vms key = some old → vm = none → enqueues (w.vms key) vm := by
      rintro old found rfl
      simp [enqueues, found]
    refine ⟨inv.routes_of rfl rfl fun other addrs _ covered => ?_, ?_, ?_⟩
    · simp only [World.Covered, update_apply] at covered ⊢
      cases vm <;> grind
    all_goals
      cases vm <;> cases found : w.vms key <;> grind
  | get key =>
    obtain ⟨⟨_, _⟩, isNext⟩ := ite_none_right_eq_some.mp taken
    cases isNext
    have ⟨_, cached, _⟩ := inv
    refine ⟨inv.routes_of rfl rfl fun other addrs _ covered => ?_, cached, ?_⟩
    · simp only [World.Covered, update_apply] at covered ⊢
      cases found : w.vms key <;> grind
    · grind

end Virtualization.Route
