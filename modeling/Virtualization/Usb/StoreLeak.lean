import Mathlib
import Virtualization.Usb.Store

namespace Virtualization.Usb.Store

open Library List

variable {c : Config} {remote : String → Bool} {w t : World} {claim : String} {detach : String → Call} {ok : Bool}

structure Ledger (w : World) : Prop where
  allocated : ∀ device, device ∈ w.allocatedDevices ↔ ∃ claim, (claim, device) ∈ w.resourceClaimAllocations
  attached : ∀ device, device ∈ w.attached ↔ 0 < w.usbipAllocatedDevicesCount device
  tried : ∀ allocation ∈ w.resourceClaimAllocations, allocation.1 ∈ w.tried

structure Tight (c : Config) (remote : String → Bool) (w : World) : Prop extends Counted c remote w, Ledger w

section Answers

variable (c : Config) (a : Answers) (allocated : List String) (r : Result) (results : List Result)

/-- The request leads to a call of `Attach`, if it is reached. -/
def Config.attaches : Bool := c.isUSBGatewayRequest r ∧ c.usbGatewayEnabled ∧ r.device ∉ allocated

/-- All that is asked for the request is answered well. -/
def granted : Bool :=
  (r.device ∉ allocated ∨ c.usbNodeLocalMultiAllocationEnabled) ∧
    if c.isUSBGatewayRequest r then
      c.usbGatewayEnabled ∧ (r.device ∈ allocated ∨ a.attach r.device = .ok) ∧ a.found r.device
    else a.allocatable r.device

/-- No request up to the first one that fails attaches a device, or that one alone would and `Attach` has no effect. -/
def Untouched : Prop :=
  (∀ r ∈ results.takeWhile (granted c a allocated), c.attaches allocated r = false) ∧
    ∀ r ∈ (results.dropWhile (granted c a allocated)).head?, c.attaches allocated r → a.attach r.device = .failed
deriving Decidable

end Answers

/-- A `Prepare` is answered well throughout or attaches nothing. An `Unprepare` fails before it has released anything,
or is answered well throughout and no other claim has one of its devices. -/
def Clean (c : Config) (remote : String → Bool) (w : World) : Event → Prop
  | .synchronize _ listed => listed = []
  | .prepare _ results answers => (∀ r ∈ results, c.isUSBGatewayRequest r = remote r.device) ∧
    (w.synchronized = false ∨ Untouched c answers w.allocatedDevices results ∨
      (∀ r ∈ results, granted c answers w.allocatedDevices r) ∧ answers.createClaimSpecFile ∧ answers.annotate)
  | .unprepare claim detach deleted => w.synchronized = false ∨ w.devices claim = [] ∨
    (∃ device ∈ (w.devices claim).head?, c.usbGatewayEnabled ∧ w.usbipAllocatedDevicesCount device = 1 ∧
      detach device = .failed) ∨
    (∀ device ∈ w.devices claim, w.usbipAllocatedDevicesCount device = 0 ∨ detach device = .ok) ∧ deleted ∧
      ∀ allocation ∈ w.resourceClaimAllocations, allocation.2 ∈ w.devices claim → allocation.1 = claim

instance (event : Event) : Decidable (Clean c remote w event) := by
  induction event using Event.casesOn <;> unfold Clean <;> infer_instance

theorem prepareResult_granted (a : Answers) (allocated attached : List String) (r : Result) :
    (prepareResult c a allocated attached r).1 = granted c a allocated r := by
  unfold prepareResult granted
  grind

theorem prepareResult_untouched {a : Answers} {allocated : List String} {r : Result} (attached : List String)
    (untouched : c.attaches allocated r → a.attach r.device = .failed) :
    (prepareResult c a allocated attached r).2 = attached := by
  unfold prepareResult
  unfold Config.attaches at untouched
  grind

theorem prepareResults_granted (a : Answers) (allocated attached : List String) (results : List Result) :
    (prepareResults c a allocated attached results).1 = results.all (granted c a allocated) := by
  induction results generalizing attached with
  | nil => rfl
  | cons r rs ih =>
    have first := prepareResult_granted (c := c) a allocated attached r
    rw [prepareResults, all_cons]
    split <;> rename_i later outcome <;> rw [outcome] at first <;> rw [← first]
    · exact ih later
    · rfl

theorem prepareResults_untouched {a : Answers} {allocated attached : List String} {results : List Result}
    (untouched : Untouched c a allocated results) : (prepareResults c a allocated attached results).2 = attached := by
  induction results generalizing attached with
  | nil => rfl
  | cons r rs ih =>
    have first := prepareResult_granted (c := c) a allocated attached r
    obtain ⟨before, failing⟩ := untouched
    rw [prepareResults]
    split <;> rename_i later outcome <;> rw [outcome] at first
    · rw [takeWhile_cons_of_pos first.symm] at before
      rw [dropWhile_cons_of_pos first.symm] at failing
      have none := before r mem_cons_self
      have same := prepareResult_untouched (a := a) attached fun attaches => by
        rw [none] at attaches
        cases attaches
      rw [outcome] at same
      obtain rfl : later = attached := same
      exact ih ⟨fun other mem => before other (mem_cons_of_mem _ mem), failing⟩
    · rw [dropWhile_cons_of_neg (by simp [← first])] at failing
      have same := prepareResult_untouched attached (failing r rfl)
      rw [outcome] at same
      exact same

def Attaches (c : Config) (allocated : List String) (results : List Result) (device : String) : Prop :=
  ∃ r ∈ results, c.isUSBGatewayRequest r ∧ r.device = device ∧ device ∉ allocated

theorem prepareResults_attached {a : Answers} {allocated attached later : List String} {results : List Result}
    (prepared : prepareResults c a allocated attached results = (ok, later)) : (∀ device ∈ attached, device ∈ later) ∧
      (∀ device ∈ later, device ∈ attached ∨ Attaches c allocated results device) ∧
      (ok → ∀ device, Attaches c allocated results device → device ∈ later) := by
  induction results generalizing attached with
  | nil =>
    cases prepared
    exact ⟨fun _ mem => mem, fun _ mem => .inl mem, fun _ _ ⟨_, mem, _⟩ => nomatch mem⟩
  | cons r rs =>
    have more : ∀ device, Attaches c allocated (r :: rs) device ↔
        (c.isUSBGatewayRequest r = true ∧ r.device = device ∧ device ∉ allocated) ∨ Attaches c allocated rs device := by
      simp [Attaches]
    have turn : ∀ {done middle}, prepareResult c a allocated attached r = (done, middle) →
        (middle = attached ∧ (done = true → c.isUSBGatewayRequest r = true → r.device ∈ allocated)) ∨
          middle = r.device :: attached ∧ c.isUSBGatewayRequest r = true ∧ r.device ∉ allocated := by
      grind [prepareResult]
    rw [prepareResults] at prepared
    split at prepared <;> rename_i middle first
    · rcases turn first with ⟨rfl, _⟩ | ⟨rfl, _, _⟩ <;> grind
    cases prepared
    rcases turn first with ⟨rfl, -⟩ | ⟨rfl, _, _⟩ <;> grind

theorem unprepareDevice_tight {device : String}
    (served : w.usbipAllocatedDevicesCount device = 0 ∨ detach device = .ok)
    (attached : ∀ other, other ∈ w.attached ↔ 0 < w.usbipAllocatedDevicesCount other)
    (released : unprepareDevice c detach claim w device = (ok, t)) :
    ok ∧ (∀ other, other ∈ t.attached ↔ 0 < t.usbipAllocatedDevicesCount other) ∧
      (∀ other, w.usbipAllocatedDevicesCount other = 0 → t.usbipAllocatedDevicesCount other = 0) ∧
      t.allocatedDevices = w.allocatedDevices.filter (· ≠ device) := by
  unfold unprepareDevice at released
  split at released
  · cases released
    exact ⟨rfl, attached, fun _ none => none, rfl⟩
  split at released
  · rename_i counted last
    have isServed : detach device = .ok := served.resolve_left (by omega)
    simp only [isServed, if_true] at released
    cases released
    refine ⟨rfl, fun _ => ?_, fun _ => ?_, rfl⟩ <;> grind
  cases released
  refine ⟨rfl, fun _ => ?_, fun _ => ?_, rfl⟩ <;> grind

theorem unprepareDevices_tight {devices : List String}
    (served : ∀ device ∈ devices, w.usbipAllocatedDevicesCount device = 0 ∨ detach device = .ok)
    (attached : ∀ device, device ∈ w.attached ↔ 0 < w.usbipAllocatedDevicesCount device)
    (released : unprepareDevices c detach claim w devices = (ok, t)) :
    ok ∧ t.resourceClaimAllocations = w.resourceClaimAllocations ∧ t.tried = w.tried ∧
      (∀ device, device ∈ t.attached ↔ 0 < t.usbipAllocatedDevicesCount device) ∧
      ∀ device, device ∈ t.allocatedDevices ↔ device ∈ w.allocatedDevices ∧ device ∉ devices := by
  induction devices generalizing w with
  | nil =>
    cases released
    exact ⟨rfl, rfl, rfl, attached, by simp⟩
  | cons device _ ih =>
    have isServed := served device mem_cons_self
    rw [unprepareDevices] at released
    split at released <;> rename_i middle first
    · obtain ⟨-, allocations, -, tried⟩ := unprepareDevice_frame first
      obtain ⟨-, attached, uncounted, allocated⟩ := unprepareDevice_tight isServed attached first
      obtain ⟨done, kept, triedKept, attached, rest⟩ := ih
        (fun other mem => (served other (mem_cons_of_mem _ mem)).imp_left (uncounted other)) attached released
      refine ⟨done, kept.trans allocations, triedKept.trans tried, attached, fun _ => ?_⟩
      rw [rest, allocated]
      simp [and_assoc]
    · cases (unprepareDevice_tight isServed attached first).1

theorem Tight.prepared {a : Answers} {results : List Result} (inv : Tight c remote w)
    (named : ∀ r ∈ results, c.isUSBGatewayRequest r = remote r.device) (listed : claim ∈ w.tried)
    (clean : w.synchronized = false ∨ Untouched c a w.allocatedDevices results ∨
      (∀ r ∈ results, granted c a w.allocatedDevices r) ∧ a.createClaimSpecFile ∧ a.annotate)
    (prepared : prepare c a claim results w = (ok, t)) : Ledger t := by
  obtain ⟨⟨-, _, -⟩, allocated, attached, tried⟩ := inv
  have all := prepareResults_granted (c := c) a w.allocatedDevices w.attached results
  have same : Untouched c a w.allocatedDevices results →
      (prepareResults c a w.allocatedDevices w.attached results).2 = w.attached := prepareResults_untouched
  unfold prepare at prepared
  split at prepared
  · cases prepared
    exact ⟨allocated, attached, tried⟩
  rename_i synchronized
  have answered := clean.resolve_left synchronized
  split at prepared <;> rename_i later loop <;> obtain ⟨kept, bound, reached⟩ := prepareResults_attached loop <;>
    rw [loop] at all same
  · cases prepared
    rcases answered with untouched | ⟨served, -⟩
    · obtain rfl : later = w.attached := same untouched
      exact ⟨allocated, attached, tried⟩
    · cases all.trans (all_eq_true.mpr served)
  split at prepared <;> cases prepared
  · rw [record_loop]
    refine ⟨?_, fun device => ?_, ?_⟩
    · grind
    · have occurs : ∀ r ∈ results, 0 < (results.map fun r => (claim, r.device)).countP (·.2 = r.device) :=
        fun r mem => countP_pos_iff.mpr ⟨_, mem_map.mpr ⟨r, mem, rfl⟩, by simp⟩
      have held : ∀ other, (other, device) ∈ w.resourceClaimAllocations →
          0 < w.resourceClaimAllocations.countP (·.2 = device) :=
        fun other mem => countP_pos_iff.mpr ⟨_, mem, by simp⟩
      grind [Attaches]
    · grind
  rename_i unwritten
  rcases answered with untouched | ⟨-, written⟩
  · obtain rfl : later = w.attached := same untouched
    exact ⟨allocated, attached, tried⟩
  · exact absurd (Bool.and_eq_true_iff.mpr written) unwritten

/-- Nothing is released yet when the first `Detach` fails. -/
theorem unprepare_failed {device : String} (deleted : Bool) (first : (w.devices claim).head? = some device)
    (enabled : c.usbGatewayEnabled) (last : w.usbipAllocatedDevicesCount device = 1) (failed : detach device = .failed)
    (synchronized : ¬w.synchronized = false) : ∃ detachCalls,
      unprepareDevice c detach claim w device = (false, { w with detachCalls }) ∧
        unprepare c detach deleted claim w = (false, { w with detachCalls }) := by
  obtain ⟨rest, devices⟩ := head?_eq_some_iff.mp first
  have here : ∃ detachCalls, unprepareDevice c detach claim w device = (false, { w with detachCalls }) := by
    unfold unprepareDevice
    simp [enabled, last, failed]
  obtain ⟨detachCalls, stopped⟩ := here
  refine ⟨detachCalls, stopped, ?_⟩
  unfold unprepare
  rw [if_neg synchronized, devices, unprepareDevices, stopped]

theorem Tight.unprepared {deleted : Bool} (inv : Tight c remote w)
    (served : ∀ device ∈ w.devices claim, w.usbipAllocatedDevicesCount device = 0 ∨ detach device = .ok)
    (own : w.devices claim = [] ∨ deleted ∧
      ∀ allocation ∈ w.resourceClaimAllocations, allocation.2 ∈ w.devices claim → allocation.1 = claim)
    (unprepared : unprepare c detach deleted claim w = (ok, t)) :
    Ledger t ∧ (ok → ∀ allocation ∈ t.resourceClaimAllocations, allocation.1 ≠ claim) := by
  obtain ⟨-, allocated, attached, tried⟩ := inv
  have listed : ∀ device, device ∈ w.devices claim ↔ (claim, device) ∈ w.resourceClaimAllocations := by
    simp [World.devices]
  unfold unprepare at unprepared
  split at unprepared
  · cases unprepared
    exact ⟨⟨allocated, attached, tried⟩, by simp⟩
  split at unprepared <;> rename_i later loop
  · cases (unprepareDevices_tight served attached loop).1
  obtain ⟨-, _, _, attached, _⟩ := unprepareDevices_tight served attached loop
  split at unprepared <;> cases unprepared
  · refine ⟨⟨?_, attached, ?_⟩, ?_⟩ <;> grind
  · refine ⟨⟨?_, attached, ?_⟩, by simp⟩ <;> grind

theorem Tight.released {deleted : Bool} (inv : Tight c remote w)
    (served : ∀ device ∈ w.devices claim, w.usbipAllocatedDevicesCount device = 0 ∨ detach device = .ok)
    (own : w.devices claim = [] ∨ deleted = true ∧
      ∀ allocation ∈ w.resourceClaimAllocations, allocation.2 ∈ w.devices claim → allocation.1 = claim)
    (taken : Store.step c w (.unprepare claim detach deleted) = some t) : Tight c remote t := by
  have counted : ∀ device ∈ w.devices claim, remote device → detach device = .ok := by
    intro device mem isRemote
    refine (served device mem).resolve_left fun none => ?_
    have held : (claim, device) ∈ w.resourceClaimAllocations := by simpa [World.devices] using mem
    rw [inv.count, if_pos isRemote] at none
    exact countP_eq_zero.mp none _ held (decide_eq_true rfl)
  have steady : Steady c remote w (.unprepare claim detach deleted) := by
    refine ⟨.inr counted, own.elim (fun none => .inr ?_) fun both => .inl both.1⟩
    simp [none]
  refine ⟨Counted.step w _ t inv.toCounted steady taken, ?_⟩
  simp only [Store.step] at taken
  split at taken <;> rename_i later unprepared <;> cases taken <;>
    obtain ⟨ledger, others⟩ := inv.unprepared served own unprepared
  · exact ⟨ledger.allocated, ledger.attached, fun allocation mem =>
      mem_filter.mpr ⟨ledger.tried allocation mem, decide_eq_true (others rfl allocation mem)⟩⟩
  · exact ledger

theorem Tight.justified_unprepared {device : String} (inv : Tight c remote w)
    (first : (w.devices claim).head? = some device) (released : unprepareDevice c detach claim w device = (ok, t)) :
    Justified t := by
  obtain ⟨rest, devices⟩ := head?_eq_some_iff.mp first
  have midway : Midway remote claim (device :: rest) w := fun other => by
    rw [inv.count, countP_allocations w claim, devices]
  have held : (claim, device) ∈ w.resourceClaimAllocations := by
    have mem : device ∈ w.devices claim := by simp [devices]
    simpa [World.devices] using mem
  exact (midway.step (fun off => inv.enabled off _ held) inv.toJustified released).1

theorem Tight.step (w : World) (event : Event) (t : World) (inv : Tight c remote w) (clean : Clean c remote w event)
    (taken : Store.step c w event = some t) : Tight c remote t := by
  cases event with
  | synchronize names listed =>
    have steady : Steady c remote w (.synchronize names listed) := fun _ _ _ mem => by
      rw [show listed = [] from clean] at mem
      cases mem
    refine ⟨Counted.step w _ t inv.toCounted steady taken, ?_⟩
    cases taken
    unfold synchronize
    split
    · exact inv.toLedger
    rw [show listed = [] from clean]
    exact { inv with }
  | prepare claim results answers =>
    have trying : Tight c remote { w with tried := claim :: w.tried } :=
      ⟨⟨⟨inv.users, inv.calls⟩, inv.count, inv.enabled⟩, inv.allocated, inv.attached,
        fun allocation mem => mem_cons_of_mem _ (inv.tried allocation mem)⟩
    obtain ⟨named, answered⟩ := clean
    have steady : Steady c remote w (.prepare claim results answers) := named
    refine ⟨Counted.step w _ t inv.toCounted steady taken, ?_⟩
    simp only [Store.step] at taken
    split at taken <;> rename_i later prepared <;> cases taken
    · have ledger := trying.prepared named mem_cons_self answered prepared
      exact { ledger with }
    · exact trying.prepared named mem_cons_self answered prepared
  | unprepare claim detach deleted =>
    by_cases unsynchronized : w.synchronized = false
    · have same : unprepare c detach deleted claim w = (false, w) := if_pos unsynchronized
      simp only [Store.step, same] at taken
      cases taken
      exact inv
    rcases clean.resolve_left unsynchronized with none | ⟨device, first, enabled, last, failed⟩ | ⟨served, written, own⟩
    · exact inv.released (by simp [none]) (.inl none) taken
    · obtain ⟨detachCalls, stopped, same⟩ := unprepare_failed deleted first enabled last failed unsynchronized
      simp only [Store.step, same] at taken
      cases taken
      exact ⟨⟨inv.justified_unprepared first stopped, inv.count, inv.enabled⟩, inv.allocated, inv.attached, inv.tried⟩
    · exact inv.released served (.inr ⟨written, own⟩) taken

theorem allocations_released {events : List Event} (along : Along (step c) (Clean c remote) .start events)
    (reached : run (step c) .start events = some w) :
    (∀ device, device ∈ w.allocatedDevices ↔ ∃ claim, (claim, device) ∈ w.resourceClaimAllocations) ∧
    (∀ device, device ∈ w.attached ↔ 0 < w.usbipAllocatedDevicesCount device) ∧
    (w.tried = [] → w.allocatedDevices = [] ∧ w.attached = [] ∧ ∀ device, w.usbipAllocatedDevicesCount device = 0) := by
  have start : Tight c remote .start := ⟨⟨⟨nofun, nofun⟩, fun device => by simp [World.start], nofun⟩,
    by simp [World.start], by simp [World.start], nofun⟩
  have inv := run_invariant Tight.step start along reached
  refine ⟨inv.allocated, inv.attached, fun untried => ?_⟩
  have none : w.resourceClaimAllocations = [] := by
    refine eq_nil_iff_forall_not_mem.mpr fun allocation mem => ?_
    have listed := inv.tried allocation mem
    rw [untried] at listed
    cases listed
  have uncounted : ∀ device, w.usbipAllocatedDevicesCount device = 0 := fun device => by simp [inv.count, none]
  refine ⟨eq_nil_iff_forall_not_mem.mpr fun device mem => ?_,
    eq_nil_iff_forall_not_mem.mpr fun device mem => ?_, uncounted⟩
  · obtain ⟨_, allocation⟩ := (inv.allocated device).mp mem
    rw [none] at allocation
    cases allocation
  · exact absurd ((inv.attached device).mp mem) (by simp [uncounted])

/-- Two claims, of which the second cannot get its device. -/
def releasing : List Event :=
  [.synchronize (some []) [], .prepare "a" [⟨"node-2", "camera"⟩, ⟨"node-2", "token"⟩] served,
    .prepare "b" [⟨"node-2", "reader"⟩] { served with attach := fun _ => .failed },
    .unprepare "a" (fun _ => .failed) true, .unprepare "b" (fun _ => .ok) true, .unprepare "a" (fun _ => .ok) true]

theorem allocations_released_sharing : ∃ w, run (step config) .start releasing = some w ∧ w.tried = [] ∧
    w.allocatedDevices = [] ∧ w.attached = [] := by
  have along : Along (step config) (Clean config fun _ => true) .start releasing := by decide +kernel
  obtain ⟨-, -, released⟩ := allocations_released along rfl
  obtain ⟨allocated, attached, -⟩ := released rfl
  exact ⟨_, rfl, rfl, allocated, attached⟩

/-- The device is attached and its claim cannot be annotated. When the claim is unprepared, the device stays
attached. -/
theorem device_stays_attached : ∃ w, run (step config) .start [.synchronize (some []) [],
      .prepare "a" [⟨"node-2", "camera"⟩] { served with annotate := false },
      .unprepare "a" (fun _ => .ok) true] = some w ∧
    w.tried = [] ∧ w.attached = ["camera"] ∧ w.usbipAllocatedDevicesCount "camera" = 0 := by
  exact ⟨_, rfl, by decide, by decide, by decide⟩

end Virtualization.Usb.Store
