import Mathlib.Data.List.Nodup
import Virtualization.Usb.Addresses
import Virtualization.Usb.Store

namespace Virtualization.Usb.Gateway

open List Store

open Addresses (Net exporterNet)

structure Device where
  name : String
  busID : Option String

structure ResourceSlice where
  pool : String
  devices : List Device

structure AttachEntry where
  rhport : Nat
  (busID deviceName : String)
deriving DecidableEq

/-- The record of the attached devices. `AddEntry` takes no second entry for a device. -/
structure AttachRecord where
  entries : List AttachEntry
  unique : (entries.map (·.deviceName)).Nodup

structure USBGatewayController where
  nodeName : String
  resourceSlices : List ResourceSlice
  nodeAddresses : String → Option String
  ports : List Nat
  record : AttachRecord

inductive OpStatus where
  | ok | noDev | failed
deriving DecidableEq

structure Calls where
  refresh : Bool
  detach : Nat → Bool
  unexport : String → Int → String → Option OpStatus

section Detach

variable (net : Net) (calls : Calls) (c : USBGatewayController) (deviceName : String)

def getDevice : Except String (Device × String) :=
  match c.resourceSlices.findSome? fun slice =>
    (slice.devices.find? (·.name = deviceName)).map fun device => (device, slice.pool) with
  | none => .error ("device " ++ deviceName ++ " is not found")
  | some (device, pool) =>
    if pool = c.nodeName then .error "device is not allowed to be attached to itself" else .ok (device, pool)

def getBusID (device : Device) : Except String String :=
  match device.busID with
  | none => .error "busID attribute is not exist"
  | some busID => .ok busID

def resolveRemoteAddress (pool : String) : Except String (String × Int) :=
  match c.nodeAddresses pool with
  | none => .error ("pool " ++ pool ++ " is not found")
  | some addr =>
    match net.splitHostPort addr with
    | none => .error "failed to split host and port"
    | some (host, portStr) =>
      match net.atoi portStr with
      | none => .error "failed to parse port"
      | some port => .ok (host, port)

def getDeps : Except String (String × String × Int) := do
  let (device, pool) ← getDevice c deviceName
  let busID ← getBusID device
  let (host, port) ← resolveRemoteAddress net c pool
  return (busID, host, port)

def USBGatewayController.refreshed : USBGatewayController :=
  { c with
    record.entries := c.record.entries.filter (·.rhport ∈ c.ports)
    record.unique := c.record.unique.sublist (filter_sublist.map _) }

def findEntry : Option AttachEntry := c.record.entries.find? (·.deviceName = deviceName)

/-- `Unexport`: a device that the exporter does not have is unexported. -/
def unexport (host busID : String) (port : Int) : Except String Unit :=
  match calls.unexport host port busID with
  | some .ok | some .noDev => .ok ()
  | some .failed => .error "reply failed"
  | none => .error "failed to connect to usbipd"

def unexportDevice (host busID : String) (port : Int) : Except String Unit × USBGatewayController :=
  match unexport calls host busID port with
  | .error err => (.error ("failed to unexport device " ++ deviceName ++ ": " ++ err), c)
  | .ok () =>
    if calls.refresh then (.ok (), c.refreshed)
    else (.error ("failed to Refresh attach record after detach for device " ++ deviceName), c)

def detach : Except String Unit × USBGatewayController :=
  match getDeps net c deviceName with
  | .error err => (.error err, c)
  | .ok (busID, host, port) =>
    if calls.refresh = false then (.error "failed to Refresh attach record", c)
    else match findEntry c.refreshed deviceName with
      | none => unexportDevice calls c.refreshed deviceName host busID port
      | some entry =>
        if calls.detach entry.rhport then
          unexportDevice calls { c.refreshed with ports := c.ports.filter (· ≠ entry.rhport) } deviceName host busID
            port
        else (.error ("failed to detach device " ++ deviceName), c.refreshed)

def answer : Store.Call :=
  match (detach net calls c deviceName).1 with
  | .ok () => .ok
  | .error _ => .failed

/-- The first slice that has the device is one of another node and has the bus ID. -/
def Offered (pool busID : String) : Prop :=
  ∃ device, c.resourceSlices.findSome? (fun slice =>
      (slice.devices.find? (·.name = deviceName)).map fun device => (device, slice.pool)) = some (device, pool) ∧
    pool ≠ c.nodeName ∧ device.busID = some busID

/-- The node is in the address table with an address that can be parsed. -/
def Addressed (pool host : String) (port : Int) : Prop :=
  ∃ addr portStr, c.nodeAddresses pool = some addr ∧ net.splitHostPort addr = some (host, portStr) ∧
    net.atoi portStr = some port

/-- Another node still offers the device, its address is known, and its exporter answers. -/
def Reachable : Prop :=
  ∃ pool busID host port, Offered c deviceName pool busID ∧ Addressed net c pool host port ∧
    (calls.unexport host port busID = some .ok ∨ calls.unexport host port busID = some .noDev)

end Detach

variable {net : Net} {calls : Calls} {c : USBGatewayController} {deviceName : String}

theorem getDevice_ok {device : Device} {pool : String} : getDevice c deviceName = .ok (device, pool) ↔
    c.resourceSlices.findSome? (fun slice =>
        (slice.devices.find? (·.name = deviceName)).map fun device => (device, slice.pool)) = some (device, pool) ∧
      pool ≠ c.nodeName := by
  unfold getDevice
  split
  · rename_i absent
    simp [absent]
  rename_i found foundPool isFound
  rw [isFound]
  split
  · rename_i itself
    simp only [reduceCtorEq, Option.some.injEq, Prod.mk.injEq, false_iff, not_and]
    rintro ⟨-, rfl⟩
    exact not_not.mpr itself
  · rename_i other
    simp only [Except.ok.injEq, Option.some.injEq, Prod.mk.injEq, iff_self_and, and_imp]
    rintro - rfl
    exact other

theorem resolveRemoteAddress_ok {pool host : String} {port : Int} :
    resolveRemoteAddress net c pool = .ok (host, port) ↔ Addressed net c pool host port := by
  unfold resolveRemoteAddress Addressed
  constructor
  · intro resolved
    split at resolved
    · cases resolved
    rename_i addr known
    split at resolved
    · cases resolved
    rename_i portStr parts
    split at resolved
    · cases resolved
    rename_i parsed
    cases resolved
    exact ⟨addr, portStr, known, parts, parsed⟩
  · rintro ⟨addr, portStr, known, parts, parsed⟩
    simp [known, parts, parsed]

theorem getDeps_ok {busID host : String} {port : Int} : getDeps net c deviceName = .ok (busID, host, port) ↔
    ∃ pool, Offered c deviceName pool busID ∧ Addressed net c pool host port := by
  constructor
  · intro deps
    cases found : getDevice c deviceName with
    | error => simp [getDeps, found, bind, Except.bind] at deps
    | ok pair =>
      cases named : getBusID pair.1 with
      | error => simp [getDeps, found, named, bind, Except.bind] at deps
      | ok =>
        cases resolved : resolveRemoteAddress net c pair.2 with
        | error => simp [getDeps, found, named, resolved, bind, Except.bind] at deps
        | ok =>
          simp [getDeps, found, named, resolved, bind, Except.bind, pure, Except.pure] at deps
          obtain ⟨rfl, rfl, rfl⟩ := deps
          obtain ⟨first, other⟩ := getDevice_ok.mp found
          refine ⟨pair.2, ⟨pair.1, first, other, ?_⟩, resolveRemoteAddress_ok.mp resolved⟩
          unfold getBusID at named
          split at named <;> cases named
          assumption
  · rintro ⟨pool, ⟨device, first, other, busID⟩, addressed⟩
    simp [getDeps, getDevice_ok.mpr ⟨first, other⟩, getBusID, busID, resolveRemoteAddress_ok.mpr addressed, bind,
      Except.bind, pure, Except.pure]

theorem unexportDevice_ok {host busID : String} {port : Int} (refreshes : calls.refresh)
    (answered : calls.unexport host port busID = some .ok ∨ calls.unexport host port busID = some .noDev) :
    unexportDevice calls c deviceName host busID port = (.ok (), c.refreshed) := by
  rcases answered with ok | gone
  · simp [unexportDevice, unexport, ok, refreshes]
  · simp [unexportDevice, unexport, gone, refreshes]

theorem detach_ok (reachable : Reachable net calls c deviceName) (refreshes : calls.refresh)
    (detaches : ∀ port, calls.detach port) : (detach net calls c deviceName).1 = .ok () ∧
      ∀ entry ∈ c.record.entries, entry.deviceName = deviceName →
        entry.rhport ∉ (detach net calls c deviceName).2.ports ∧
          entry ∉ (detach net calls c deviceName).2.record.entries := by
  obtain ⟨pool, _, _, _, offered, addressed, answered⟩ := reachable
  unfold detach
  rw [getDeps_ok.mpr ⟨pool, offered, addressed⟩]
  simp only [refreshes, Bool.true_eq_false, if_false]
  split
  · rename_i absent
    rw [unexportDevice_ok refreshes answered]
    refine ⟨rfl, fun entry recorded named => ?_⟩
    have unused : entry.rhport ∉ c.ports := fun used =>
      List.find?_eq_none.mp absent entry (mem_filter.mpr ⟨recorded, decide_eq_true used⟩) (decide_eq_true named)
    exact ⟨unused, fun kept => unused (of_decide_eq_true (mem_filter.mp kept).2)⟩
  rename_i found isFound
  have same : found.deviceName = deviceName := by simpa using List.find?_some isFound
  rw [if_pos (detaches _), unexportDevice_ok refreshes answered]
  refine ⟨rfl, fun entry recorded named => ?_⟩
  have isEntry : entry = found := inj_on_of_nodup_map c.record.unique recorded
    (mem_of_mem_filter (mem_of_find?_eq_some isFound))
    (named.trans same.symm)
  subst isEntry
  have unused : entry.rhport ∉ c.ports.filter (· ≠ entry.rhport) := by simp
  exact ⟨unused, fun kept => unused (of_decide_eq_true (mem_filter.mp kept).2)⟩

theorem unexportDevice_answered {host busID : String} {port : Int}
    (done : (unexportDevice calls c deviceName host busID port).1 = .ok ()) :
    calls.unexport host port busID = some .ok ∨ calls.unexport host port busID = some .noDev := by
  unfold unexportDevice unexport at done
  cases answer : calls.unexport host port busID with
  | none => simp [answer] at done
  | some status =>
    cases status with
    | failed => simp [answer] at done
    | ok => exact .inl rfl
    | noDev => exact .inr rfl

theorem reachable_of_detach (done : (detach net calls c deviceName).1 = .ok ()) : Reachable net calls c deviceName := by
  unfold detach at done
  split at done
  · cases done
  rename_i deps
  obtain ⟨pool, offered, addressed⟩ := getDeps_ok.mp deps
  refine ⟨pool, _, _, _, offered, addressed, ?_⟩
  repeat' split at done
  · cases done
  · exact unexportDevice_answered done
  · exact unexportDevice_answered done
  · cases done

/-- A device is detached with its last user: when the claim has it as often as it is counted. -/
theorem unprepareDevices_iff {config : Store.Config} (enabled : config.usbGatewayEnabled = true)
    (call : String → Store.Call) (claim : String) (devices : List String) (w : Store.World) :
    (unprepareDevices config call claim w devices).1 = true ↔
      ∀ device, 0 < w.usbipAllocatedDevicesCount device →
        w.usbipAllocatedDevicesCount device ≤ devices.count device → call device = .ok := by
  induction devices generalizing w with
  | nil => simp [unprepareDevices]; omega
  | cons first rest ih =>
    unfold unprepareDevices unprepareDevice
    simp only [enabled, Bool.true_eq_false, false_or]
    split_ifs with unused last served
    all_goals try rw [ih]
    all_goals grind

/-- A device is released exactly when the exporter can be found and reached, and a claim exactly when that is so for the
    devices of which it is the last user. -/
theorem device_released (refreshes : calls.refresh = true) (detaches : ∀ port, calls.detach port = true) :
    ((detach net calls c deviceName).1 = .ok () ∧ (∀ entry ∈ c.record.entries, entry.deviceName = deviceName →
      entry.rhport ∉ (detach net calls c deviceName).2.ports ∧
        entry ∉ (detach net calls c deviceName).2.record.entries) ↔ Reachable net calls c deviceName) ∧
    ∀ (config : Store.Config) (w : Store.World) (claim : String), config.usbGatewayEnabled = true →
      w.synchronized = true → ((Store.unprepare config (answer net calls c) true claim w).1 = true ↔
        ∀ device, 0 < w.usbipAllocatedDevicesCount device →
          w.usbipAllocatedDevicesCount device ≤ (w.devices claim).count device → Reachable net calls c device) := by
  have served (device : String) : answer net calls c device = .ok ↔ Reachable net calls c device := by
    refine ⟨fun ok => reachable_of_detach ?_, fun reachable => ?_⟩
    · unfold answer at ok
      split at ok
      · assumption
      · cases ok
    · simp [answer, (detach_ok reachable refreshes detaches).1]
  refine ⟨⟨fun released => reachable_of_detach released.1, fun reachable => detach_ok reachable refreshes detaches⟩,
    fun config w claim enabled synchronized => ?_⟩
  rw [← forall_congr' fun device => forall_congr' fun _ => forall_congr' fun _ => served device,
    ← unprepareDevices_iff enabled (answer net calls c) claim (w.devices claim) w]
  unfold unprepare
  rw [if_neg (by simp [synchronized])]
  split <;> simp [*]

def gone : Calls := ⟨true, fun _ => true, fun _ _ _ => some .noDev⟩

def attached (resourceSlices : List ResourceSlice) : USBGatewayController where
  nodeName := "node-1"
  resourceSlices := resourceSlices
  nodeAddresses pool := if pool = "node-2" then some "10.0.0.2:3240" else none
  ports := [1, 2]
  record := ⟨[⟨1, "5-1", "camera"⟩, ⟨2, "5-2", "scanner"⟩], by decide⟩

def prepared : Store.World :=
  { Store.World.start with
    synchronized := true
    allocatedDevices := ["camera", "scanner"]
    usbipAllocatedDevicesCount := fun device => if device = "camera" ∨ device = "scanner" then 1 else 0
    resourceClaimAllocations := [("a", "camera"), ("b", "scanner")] }

/-- The devices of two other nodes. -/
def offered : List ResourceSlice :=
  [⟨"node-3", [⟨"microphone", some "1-1"⟩]⟩, ⟨"node-2", [⟨"scanner", some "3-1"⟩, ⟨"camera", some "3-2"⟩]⟩]

theorem device_released_camera : (detach exporterNet gone (attached offered) "camera").1 = .ok () ∧
    (detach exporterNet gone (attached offered) "camera").2.ports = [2] ∧
    (Store.unprepare ⟨"node-1", true, true⟩ (answer exporterNet gone (attached offered)) true "a" prepared).1 =
      true := by
  have reachable : Reachable exporterNet gone (attached offered) "camera" :=
    ⟨"node-2", "3-2", "10.0.0.2", 3240, ⟨_, rfl, by decide, rfl⟩, ⟨_, _, rfl, rfl, rfl⟩, .inr rfl⟩
  obtain ⟨detached, unprepared⟩ := @device_released exporterNet gone (attached offered) "camera" rfl fun _ => rfl
  refine ⟨(detached.mpr reachable).1, rfl, (unprepared _ prepared "a" rfl rfl).mpr fun device used last => ?_⟩
  have own : prepared.devices "a" = ["camera"] := rfl
  rw [own] at last
  have isCamera : device = "camera" := by simpa using List.count_pos_iff.mp (Nat.lt_of_lt_of_le used last)
  exact isCamera ▸ reachable

theorem device_not_released : (detach exporterNet gone (attached []) "camera").1 = .error "device camera is not found" ∧
      (detach exporterNet gone (attached []) "camera").2.ports = [1, 2] ∧
      (Store.unprepare ⟨"node-1", true, true⟩ (answer exporterNet gone (attached [])) true "a" prepared).1 = false :=
  ⟨rfl, rfl, by decide⟩

end Virtualization.Usb.Gateway
