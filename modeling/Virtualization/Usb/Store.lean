import Mathlib.Logic.Function.Basic
import Virtualization.Library.Run

namespace Virtualization.Usb.Store

open Library List

structure Config where
  nodeName : String
  (usbGatewayEnabled usbNodeLocalMultiAllocationEnabled : Bool)

structure Result where
  (pool device : String)
deriving DecidableEq

inductive Call where
  | ok | failed | failedLate
deriving DecidableEq

/-- What the calls of a `Prepare` answer. `found` is about the attached device, `allocatable` about a local one. -/
structure Answers where
  attach : String → Call
  (found allocatable : String → Bool)
  (createClaimSpecFile annotate : Bool)

structure DetachCall where
  (claim device : String)
  otherUsers : List String
deriving DecidableEq

/-- The allocation store with the devices that are attached here. Sets are lists, a count that is not there is 0, and an
allocation is the claim with a device. The rest is history: the claims that were prepared and not unprepared since,
those for which this was only tried, and the calls of `Detach`. -/
structure World where
  synchronized : Bool
  allocatedDevices : List String
  usbipAllocatedDevicesCount : String → Nat
  resourceClaimAllocations : List (String × String)
  attached : List String
  users : List (String × String)
  tried : List String
  detachCalls : List DetachCall

def World.start : World where
  synchronized := false
  allocatedDevices := []
  usbipAllocatedDevicesCount _ := 0
  resourceClaimAllocations := []
  attached := []
  users := []
  tried := []
  detachCalls := []

def World.devices (w : World) (claim : String) : List String :=
  (w.resourceClaimAllocations.filter (·.1 = claim)).map (·.2)

section Prepare

variable (c : Config)

def Config.isUSBGatewayRequest (r : Result) : Bool := r.pool ≠ c.nodeName

def prepareResult (a : Answers) (allocated attached : List String) (r : Result) : Bool × List String :=
  if r.device ∈ allocated ∧ c.usbNodeLocalMultiAllocationEnabled = false then (false, attached)
  else if c.isUSBGatewayRequest r then
    if c.usbGatewayEnabled = false then (false, attached)
    else if r.device ∈ allocated then (a.found r.device, attached)
    else match a.attach r.device with
      | .ok => (a.found r.device, r.device :: attached)
      | .failed => (false, attached)
      | .failedLate => (false, r.device :: attached)
  else (a.allocatable r.device, attached)

def prepareResults (a : Answers) (allocated : List String) : List String → List Result → Bool × List String
  | attached, [] => (true, attached)
  | attached, r :: rs =>
    match prepareResult c a allocated attached r with
    | (true, attached) => prepareResults a allocated attached rs
    | (false, attached) => (false, attached)

/-- `counted` are the devices behind the gateway. -/
def record (counted : List String) (w : World) (allocation : String × String) : World :=
  { w with
    allocatedDevices := allocation.2 :: w.allocatedDevices
    resourceClaimAllocations := w.resourceClaimAllocations ++ [allocation]
    usbipAllocatedDevicesCount := fun device =>
      w.usbipAllocatedDevicesCount device + if device = allocation.2 ∧ device ∈ counted then 1 else 0 }

def prepare (a : Answers) (claim : String) (results : List Result) (w : World) : Bool × World :=
  if w.synchronized = false then (false, w)
  else match prepareResults c a w.allocatedDevices w.attached results with
    | (false, attached) => (false, { w with attached })
    | (true, attached) =>
      if a.createClaimSpecFile && a.annotate then
        (true, (results.map fun r => (claim, r.device)).foldl
          (record ((results.filter c.isUSBGatewayRequest).map (·.device))) { w with attached })
      else (false, { w with attached })

def unprepareDevice (detach : String → Call) (claim : String) (w : World) (device : String) : Bool × World :=
  if c.usbGatewayEnabled = false ∨ w.usbipAllocatedDevicesCount device = 0 then
    (true, { w with allocatedDevices := w.allocatedDevices.filter (· ≠ device) })
  else if w.usbipAllocatedDevicesCount device = 1 then
    let called : World :=
      { w with
        attached := if detach device = .failed then w.attached else w.attached.filter (· ≠ device)
        detachCalls := w.detachCalls ++
          [⟨claim, device, (w.users.filter fun user => user.2 = device ∧ user.1 ≠ claim).map (·.1)⟩] }
    if detach device = .ok then
      (true, { called with
        usbipAllocatedDevicesCount := Function.update w.usbipAllocatedDevicesCount device 0
        allocatedDevices := w.allocatedDevices.filter (· ≠ device) })
    else (false, called)
  else
    (true, { w with
      usbipAllocatedDevicesCount :=
        Function.update w.usbipAllocatedDevicesCount device (w.usbipAllocatedDevicesCount device - 1)
      allocatedDevices := w.allocatedDevices.filter (· ≠ device) })

def unprepareDevices (detach : String → Call) (claim : String) : World → List String → Bool × World
  | w, [] => (true, w)
  | w, device :: devices =>
    match unprepareDevice c detach claim w device with
    | (true, w) => unprepareDevices detach claim w devices
    | (false, w) => (false, w)

def unprepare (detach : String → Call) (deleteClaimSpecFile : Bool) (claim : String) (w : World) : Bool × World :=
  if w.synchronized = false then (false, w)
  else match unprepareDevices c detach claim w (w.devices claim) with
    | (false, w) => (false, w)
    | (true, w) =>
      if deleteClaimSpecFile then
        (true, { w with resourceClaimAllocations := w.resourceClaimAllocations.filter (·.1 ≠ claim) })
      else (false, w)

/-- `names` are the devices that the gateway has attached, unless they cannot be read, and `listed` what the
environments of the containers tell. -/
def synchronize (names : Option (List String)) (listed : List (String × String)) (w : World) : World :=
  match if c.usbGatewayEnabled then names else some [] with
  | none => w
  | some names =>
    { listed.foldl (record names) w with synchronized := true }

inductive Event where
  | synchronize (names : Option (List String)) (listed : List (String × String))
  | prepare (claim : String) (results : List Result) (answers : Answers)
  | unprepare (claim : String) (detach : String → Call) (deleteClaimSpecFile : Bool)

def step (w : World) : Event → Option World
  | .synchronize names listed => some (synchronize c names listed w)
  | .prepare claim results answers =>
    match prepare c answers claim results { w with tried := claim :: w.tried } with
    | (true, w) => some { w with users := w.users ++ results.map fun r => (claim, r.device) }
    | (false, w) => some w
  | .unprepare claim detach deleteClaimSpecFile =>
    match unprepare c detach deleteClaimSpecFile claim w with
    | (true, w) => some
        { w with users := w.users.filter (·.1 ≠ claim), tried := w.tried.filter (· ≠ claim) }
    | (false, w) => some w

end Prepare

variable {c : Config} {remote : String → Bool} {w t : World} {claim : String} {detach : String → Call} {ok : Bool}

theorem record_loop (counted : List String) (allocations : List (String × String)) (w : World) :
    allocations.foldl (record counted) w =
      { w with
        allocatedDevices := (allocations.map (·.2)).reverse ++ w.allocatedDevices
        resourceClaimAllocations := w.resourceClaimAllocations ++ allocations
        usbipAllocatedDevicesCount := fun device => w.usbipAllocatedDevicesCount device +
          if device ∈ counted then allocations.countP (·.2 = device) else 0 } := by
  induction allocations generalizing w with
  | nil => simp
  | cons allocation allocations ih =>
    rw [foldl_cons, ih]
    have counts : ∀ device, (if device = allocation.2 ∧ device ∈ counted then 1 else 0) +
        (if device ∈ counted then allocations.countP (·.2 = device) else 0) =
        if device ∈ counted then (allocation :: allocations).countP (·.2 = device) else 0 := by
      intro device
      by_cases same : device = allocation.2
      · by_cases mem : allocation.2 ∈ counted <;> simp [same, mem, Nat.add_comm]
      · simp [same, Ne.symm same]
    simp [record, ← counts, Nat.add_assoc]

/-- The counts of the devices in `devices`, which are still to be released, and in the allocations of the other
claims. -/
def Midway (remote : String → Bool) (claim : String) (devices : List String) (w : World) : Prop :=
  ∀ device, w.usbipAllocatedDevicesCount device = if remote device then
    devices.count device + (w.resourceClaimAllocations.filter (·.1 ≠ claim)).countP (·.2 = device) else 0

structure Justified (w : World) : Prop where
  users : ∀ user ∈ w.users, user ∈ w.resourceClaimAllocations
  calls : ∀ call ∈ w.detachCalls, call.otherUsers = []

structure Counted (c : Config) (remote : String → Bool) (w : World) : Prop extends Justified w where
  count : ∀ device, w.usbipAllocatedDevicesCount device =
    if remote device then w.resourceClaimAllocations.countP (·.2 = device) else 0
  enabled : c.usbGatewayEnabled = false → ∀ allocation ∈ w.resourceClaimAllocations, remote allocation.2 = false

structure Frame (w t : World) : Prop where
  synchronized : t.synchronized = w.synchronized
  allocations : t.resourceClaimAllocations = w.resourceClaimAllocations
  users : t.users = w.users
  tried : t.tried = w.tried

theorem unprepareDevice_frame {device : String} (released : unprepareDevice c detach claim w device = (ok, t)) :
    Frame w t := by
  unfold unprepareDevice at released
  constructor <;> grind

theorem Midway.step {device : String} {devices : List String} (midway : Midway remote claim (device :: devices) w)
    (enabled : c.usbGatewayEnabled = false → remote device = false) (justified : Justified w)
    (released : unprepareDevice c detach claim w device = (ok, t)) : Justified t ∧
      if ok then Midway remote claim devices t ∧
        (remote device = false → t.usbipAllocatedDevicesCount = w.usbipAllocatedDevicesCount)
      else
        t.usbipAllocatedDevicesCount = w.usbipAllocatedDevicesCount ∧ remote device ∧ detach device ≠ .ok := by
  obtain ⟨users, calls⟩ := justified
  have here := midway device
  unfold unprepareDevice at released
  split at released
  · cases released
    refine ⟨⟨users, calls⟩, fun other => ?_, fun _ => rfl⟩
    have := midway other
    grind
  have isRemote : remote device := by grind
  split at released
  · have alone : (w.resourceClaimAllocations.filter (·.1 ≠ claim)).countP (·.2 = device) = 0 := by grind
    have quiet : (w.users.filter fun user => user.2 = device ∧ user.1 ≠ claim) = [] := by
      refine filter_eq_nil_iff.mpr fun user _ _ => ?_
      have := countP_eq_zero.mp alone user
      grind
    dsimp only at released
    split at released <;> cases released
    · refine ⟨⟨users, by grind⟩, fun other => ?_, by simp [isRemote]⟩
      have := midway other
      grind
    · exact ⟨⟨users, by grind⟩, rfl, isRemote, ‹_›⟩
  cases released
  refine ⟨⟨users, calls⟩, fun other => ?_, by simp [isRemote]⟩
  have := midway other
  grind

theorem Midway.loop {devices : List String} (midway : Midway remote claim devices w)
    (enabled : c.usbGatewayEnabled = false → ∀ device ∈ devices, remote device = false) (justified : Justified w)
    (released : unprepareDevices c detach claim w devices = (ok, t)) : Frame w t ∧ Justified t ∧
      if ok then Midway remote claim [] t
      else (∃ device ∈ devices, remote device ∧ detach device ≠ .ok) ∧
        (devices.countP remote ≤ 1 → t.usbipAllocatedDevicesCount = w.usbipAllocatedDevicesCount) := by
  induction devices generalizing w with
  | nil =>
    cases released
    exact ⟨⟨rfl, rfl, rfl, rfl⟩, justified, midway⟩
  | cons device _ ih =>
    have disabled := fun off => enabled off device mem_cons_self
    rw [unprepareDevices] at released
    split at released <;> rename_i later first
    · obtain ⟨synchronized, allocations, users, tried⟩ := unprepareDevice_frame first
      obtain ⟨justified, midway, _⟩ := midway.step disabled justified first
      obtain ⟨frame, justified, rest⟩ :=
        ih midway (fun off other mem => enabled off other (mem_cons_of_mem _ mem)) justified released
      refine ⟨⟨frame.synchronized.trans synchronized, frame.allocations.trans allocations,
        frame.users.trans users, frame.tried.trans tried⟩, justified, ?_⟩
      cases ok with
      | true => exact rest
      | false =>
        obtain ⟨⟨failing, mem, isRemote, failed⟩, _⟩ := rest
        have some := countP_pos_iff.mpr ⟨failing, mem, isRemote⟩
        refine ⟨⟨failing, mem_cons_of_mem _ mem, isRemote, failed⟩, fun _ => ?_⟩
        grind
    cases released
    obtain ⟨justified, same, isRemote, failed⟩ := midway.step disabled justified first
    exact ⟨unprepareDevice_frame first, justified, ⟨device, mem_cons_self, isRemote, failed⟩, fun _ => same⟩

theorem countP_allocations (w : World) (claim device : String) :
    w.resourceClaimAllocations.countP (·.2 = device) = (w.devices claim).count device +
      (w.resourceClaimAllocations.filter (·.1 ≠ claim)).countP (·.2 = device) := by
  rw [countP_eq_countP_filter_add _ _ fun allocation => decide (allocation.1 = claim), World.devices,
    count_eq_countP, countP_map]
  congr 1
  simp

/-- The names of the devices behind the gateway are no others' names, what is listed is attached, and an `Unprepare`
fails only with at most one such device, before the device is released. -/
def Steady (c : Config) (remote : String → Bool) (w : World) : Event → Prop
  | .synchronize names listed => ∀ attached ∈ if c.usbGatewayEnabled then names else some [],
      ∀ allocation ∈ listed, allocation.2 ∈ attached ↔ remote allocation.2
  | .prepare _ results _ => ∀ r ∈ results, c.isUSBGatewayRequest r = remote r.device
  | .unprepare claim detach deleted =>
    ((w.devices claim).countP remote ≤ 1 ∨ ∀ device ∈ w.devices claim, remote device → detach device = .ok) ∧
      (deleted ∨ (w.devices claim).countP remote = 0)

instance (event : Event) : Decidable (Steady c remote w event) := by
  cases event <;> unfold Steady <;> infer_instance

theorem Counted.record (inv : Counted c remote w) (counted : List String) (allocations : List (String × String))
    (named : ∀ allocation ∈ allocations, allocation.2 ∈ counted ↔ remote allocation.2)
    (enabled : c.usbGatewayEnabled = false → ∀ allocation ∈ allocations, remote allocation.2 = false) :
    Counted c remote (allocations.foldl (record counted) w) := by
  rw [record_loop]
  refine ⟨⟨fun user mem => mem_append_left _ (inv.users user mem), inv.calls⟩, fun device => ?_,
    fun off allocation mem => (mem_append.mp mem).elim (inv.enabled off allocation) (enabled off allocation)⟩
  dsimp only
  rw [inv.count, countP_append]
  rcases Nat.eq_zero_or_pos (allocations.countP (·.2 = device)) with none | occurs
  · simp [none]
  obtain ⟨_, _, _⟩ := countP_pos_iff.mp occurs
  grind

theorem prepareResults_disabled {a : Answers} {allocated attached later : List String} {results : List Result}
    (disabled : c.usbGatewayEnabled = false)
    (prepared : prepareResults c a allocated attached results = (true, later)) :
    ∀ r ∈ results, c.isUSBGatewayRequest r = false := by
  induction results generalizing attached with
  | nil => nofun
  | cons _ _ ih =>
    rw [prepareResults] at prepared
    split at prepared <;> rename_i middle first
    · refine forall_mem_cons.mpr ⟨?_, ih prepared⟩
      grind [prepareResult]
    · cases prepared

theorem Counted.prepared {a : Answers} {results : List Result} (inv : Counted c remote w)
    (named : ∀ r ∈ results, c.isUSBGatewayRequest r = remote r.device)
    (prepared : prepare c a claim results w = (ok, t)) :
    Counted c remote (if ok then { t with users := t.users ++ results.map fun r => (claim, r.device) } else t) := by
  have attaches : ∀ attached, Counted c remote { w with attached } :=
    fun _ => ⟨⟨inv.users, inv.calls⟩, inv.count, inv.enabled⟩
  unfold prepare at prepared
  split at prepared
  · cases prepared
    exact inv
  split at prepared <;> rename_i attached loop
  · cases prepared
    exact attaches attached
  split at prepared <;> cases prepared
  · have disabled := fun off => prepareResults_disabled off loop
    have recorded := (attaches attached).record ((results.filter c.isUSBGatewayRequest).map (·.device))
      (results.map fun r => (claim, r.device)) (by grind) (by grind)
    refine ⟨⟨fun user mem => ?_, recorded.calls⟩, recorded.count, recorded.enabled⟩
    rcases mem_append.mp mem with before | new
    · exact recorded.users user before
    simp only [record_loop]
    exact mem_append_right _ new
  · exact attaches attached

theorem Counted.unprepared {deleted : Bool} (inv : Counted c remote w)
    (steady : Steady c remote w (.unprepare claim detach deleted))
    (unprepared : unprepare c detach deleted claim w = (ok, t)) : Counted c remote
      (if ok then { t with users := t.users.filter (·.1 ≠ claim), tried := t.tried.filter (· ≠ claim) } else t) := by
  have midway : Midway remote claim (w.devices claim) w := fun device => by
    rw [inv.count, countP_allocations w claim]
  have enabled : c.usbGatewayEnabled = false → ∀ device ∈ w.devices claim, remote device = false := by
    have := inv.enabled
    grind [World.devices]
  unfold unprepare at unprepared
  split at unprepared
  · cases unprepared
    exact inv
  split at unprepared <;> rename_i later loop
  · cases unprepared
    obtain ⟨frame, justified, ⟨failing, mem, isRemote, failed⟩, same⟩ := midway.loop enabled inv.toJustified loop
    have few : (w.devices claim).countP remote ≤ 1 :=
      steady.1.resolve_right fun served => failed (served failing mem isRemote)
    refine ⟨justified, fun _ => ?_, ?_⟩
    · simp only [Bool.false_eq_true, if_false, same few, frame.allocations, inv.count]
    · simpa [frame.allocations] using inv.enabled
  obtain ⟨frame, justified, done⟩ := midway.loop enabled inv.toJustified loop
  split at unprepared <;> cases unprepared
  · refine ⟨⟨fun user mem => ?_, justified.calls⟩, fun device => ?_, fun off allocation mem => ?_⟩
    · obtain ⟨used, other⟩ := mem_filter.mp mem
      exact mem_filter.mpr ⟨justified.users user used, other⟩
    · simpa [frame.allocations] using done device
    · exact inv.enabled off allocation (frame.allocations ▸ mem_of_mem_filter mem)
  rename_i kept
  have none : ∀ device, remote device → (w.devices claim).count device = 0 := fun device isRemote =>
    count_eq_zero.mpr fun mem => countP_eq_zero.mp (steady.2.resolve_left kept) device mem isRemote
  refine ⟨justified, fun device => ?_, ?_⟩
  · have counted := done device
    have := countP_allocations w claim device
    grind [frame.allocations]
  · simpa [frame.allocations] using inv.enabled

theorem Counted.step (w : World) (event : Event) (t : World) (inv : Counted c remote w)
    (steady : Steady c remote w event) (taken : Store.step c w event = some t) : Counted c remote t := by
  cases event with
  | synchronize _ listed =>
    cases taken
    unfold synchronize
    split
    · exact inv
    rename_i attached isAttached
    have named := steady attached isAttached
    have recorded := inv.record attached listed named (by grind)
    exact ⟨⟨recorded.users, recorded.calls⟩, recorded.count, recorded.enabled⟩
  | prepare claim =>
    have trying : Counted c remote { w with tried := claim :: w.tried } :=
      ⟨⟨inv.users, inv.calls⟩, inv.count, inv.enabled⟩
    simp only [Store.step] at taken
    split at taken <;> rename_i later prepared <;> cases taken <;> exact trying.prepared steady prepared
  | unprepare =>
    simp only [Store.step] at taken
    split at taken <;> rename_i later unprepared <;> cases taken <;> exact inv.unprepared steady unprepared

/-- If releasing several devices behind the gateway never fails half-way, `Detach` is called for the last user only. -/
theorem detached_with_last_user {events : List Event} (along : Along (step c) (Steady c remote) .start events)
    (reached : run (step c) .start events = some w) : ∀ call ∈ w.detachCalls, call.otherUsers = [] := by
  have start : Counted c remote .start := ⟨⟨nofun, nofun⟩, fun device => by simp [World.start], nofun⟩
  exact (run_invariant Counted.step start along reached).calls

theorem unprepareDevices_frame {devices : List String}
    (released : unprepareDevices c detach claim w devices = (ok, t)) :
    Frame w t := by
  induction devices generalizing w with
  | nil =>
    cases released
    exact ⟨rfl, rfl, rfl, rfl⟩
  | cons device _ ih =>
    rw [unprepareDevices] at released
    split at released <;> rename_i later first <;> have here := unprepareDevice_frame first
    · have rest := ih released
      exact ⟨rest.1.trans here.1, rest.2.trans here.2, rest.3.trans here.3, rest.4.trans here.4⟩
    · cases released
      exact here

/-- Whatever fails, the allocations of a claim are kept from its preparation until it is unprepared. -/
theorem prepared_stays_allocated (c : Config) (events : List Event) :
    Along (step c) (fun w _ => ∀ user ∈ w.users, user ∈ w.resourceClaimAllocations) .start events := by
  refine .of_preserved (fun w event t inv taken => ?_) nofun events
  cases event with
  | synchronize =>
    cases taken
    grind [synchronize, record_loop]
  | prepare => grind [Store.step, prepare, record_loop]
  | unprepare claim detach deleted =>
    simp only [Store.step, unprepare] at taken
    cases released : unprepareDevices c detach claim w (w.devices claim)
    have frame := unprepareDevices_frame released
    grind [frame.users, frame.allocations]

def config : Config := ⟨"node-1", true, true⟩

def served : Answers := ⟨fun _ => .ok, fun _ => true, fun _ => true, true, true⟩

def sharing : List Event :=
  [.synchronize (some []) [], .prepare "a" [⟨"node-2", "camera"⟩, ⟨"node-2", "token"⟩] served,
    .prepare "b" [⟨"node-2", "camera"⟩] served]

theorem detached_with_last_user_sharing : ∃ w, run (step config) .start
      (sharing ++ [.unprepare "a" (fun _ => .ok) true, .unprepare "b" (fun _ => .ok) true]) = some w ∧
    w.detachCalls.map (·.device) = ["token", "camera"] ∧ ∀ call ∈ w.detachCalls, call.otherUsers = [] := by
  have along : Along (step config) (Steady config fun _ => true) .start
      (sharing ++ [.unprepare "a" (fun _ => .ok) true, .unprepare "b" (fun _ => .ok) true]) := by decide +kernel
  exact ⟨_, rfl, by decide, detached_with_last_user along rfl⟩

/-- The second device cannot be detached at first. When the claim is unprepared again, the first one is detached
although the other claim uses it. -/
theorem detached_while_used : ∃ w, run (step config) .start
      (sharing ++ [.unprepare "a" (fun device => if device = "token" then .failed else .ok) true,
        .unprepare "a" (fun _ => .ok) true]) = some w ∧
    ⟨"a", "camera", ["b"]⟩ ∈ w.detachCalls ∧ w.usbipAllocatedDevicesCount "camera" = 0 := by
  exact ⟨_, rfl, by decide, by decide⟩

end Virtualization.Usb.Store
