import Mathlib
import Virtualization.Library.Run

namespace Virtualization.Usb.Vhci

open Library List

inductive HubSpeed where
  | high | super
deriving DecidableEq, Inhabited

def HubSpeed.string : HubSpeed → String
  | .high => "hs"
  | .super => "ss"

structure ImportDevice where
  hub : HubSpeed
  (port status devID busnum devnum : Nat)
  localBusID : String
deriving Inhabited

/-- The fields that `parseStatus` keeps of a line that the kernel prints for a port. -/
structure StatusLine where
  hub : String
  (port status devID : Nat)
  localBusID : String

/-- A line of a status attribute, by what `TrimSpace` and `Fscanf` make of it. -/
inductive Line where
  | blank | unreadable
  | read (line : StatusLine)

def vDeviceStatusNull : Nat := 4

def vDeviceStatusUsed : Nat := 6

def ImportDevice.fill (line : StatusLine) (idev : ImportDevice) : ImportDevice where
  port := line.port
  status := line.status
  devID := line.devID
  busnum := line.devID >>> 16
  devnum := line.devID &&& 0xffff
  localBusID := line.localBusID
  hub := if line.hub = "hs" then .high else if line.hub = "ss" then .super else idev.hub

def storeLine (idevs : List ImportDevice) (line : StatusLine) : List ImportDevice :=
  (if idevs.length ≤ line.port then idevs ++ replicate (line.port + 1 - idevs.length) default else idevs).modify
    line.port (.fill line)

def parseLine (idevs : List ImportDevice) : Line → Option (List ImportDevice)
  | .blank => some idevs
  | .unreadable => none
  | .read line => some (storeLine idevs line)

-- The first line is the header.
def parseStatus (idevs : List ImportDevice) (lines : List Line) : Option (List ImportDevice) :=
  lines.tail.foldlM parseLine idevs

structure VhciDriver where
  nports : Nat
  idevs : List ImportDevice

def newVhciDriver (nports : Nat) (statuses : List (List Line)) : Option VhciDriver :=
  (statuses.foldlM parseStatus []).map (⟨nports, ·⟩)

inductive Failure where
  | outOfRange | noFreePort | alreadyDetached | notFound
deriving DecidableEq

variable {α : Type}

/-- A loop over the ports of the driver. `body` has what the rest of the loop returns. -/
def VhciDriver.loop (driver : VhciDriver) (body : ImportDevice → Except Failure α → Except Failure α)
    (done : Except Failure α) : List Nat → Except Failure α
  | [] => done
  | i :: rest =>
    match driver.idevs[i]? with
    | none => .error .outOfRange
    | some idev => body idev (loop driver body done rest)

inductive USBDeviceSpeed where
  | unknown | low | full | high | wireless | super | superPlus

def hubOf (speed : Nat) : HubSpeed := if speed = USBDeviceSpeed.super.ctorIdx then .super else .high

def getFreePort (driver : VhciDriver) (speed : Nat) : Except Failure Nat :=
  driver.loop
    (fun idev next => if idev.hub = hubOf speed ∧ idev.status = vDeviceStatusNull then .ok idev.port else next)
    (.error .noFreePort) (range driver.nports)

def checkAttached (driver : VhciDriver) (rhport : Nat) : Except Failure Unit :=
  driver.loop (fun idev next =>
      if idev.port = rhport then if idev.status = vDeviceStatusNull then .error .alreadyDetached else .ok () else next)
    (.error .notFound) (range driver.nports)

structure AttachInfoItem where
  (port busnum devnum : Nat)
  (localBusID hub : String)

structure AttachInfo where
  nports : Nat
  items : List AttachInfoItem

def ImportDevice.item (idev : ImportDevice) : AttachInfoItem :=
  ⟨idev.port, idev.busnum, idev.devnum, idev.localBusID, idev.hub.string⟩

def getAttachInfo (driver : VhciDriver) : Except Failure AttachInfo :=
  (driver.loop (fun idev next => if idev.status = vDeviceStatusUsed then next.map (idev.item :: ·) else next)
    (.ok []) (range driver.nports)).map (⟨driver.nports, ·⟩)

/-- What the kernel can print: the controllers number their ports one after another, and half of the ports are of each
    hub. -/
def Printed (controllers : List (List StatusLine)) : Prop :=
  controllers.flatten.map (·.port) = range controllers.flatten.length ∧
    (∀ line ∈ controllers.flatten, line.hub = "hs" ∨ line.hub = "ss") ∧
    controllers.flatten.countP (·.hub = "hs") = controllers.flatten.length / 2 ∧
    controllers.flatten.countP (·.hub = "ss") = controllers.flatten.length / 2

instance (controllers : List (List StatusLine)) : Decidable (Printed controllers) :=
  inferInstanceAs (Decidable (_ ∧ _))

def status (lines : List StatusLine) : List Line := .unreadable :: lines.map .read ++ [.blank]

def driverOf (controllers : List (List StatusLine)) : Option VhciDriver :=
  newVhciDriver controllers.flatten.length (controllers.map status)

theorem parseStatus_status (idevs : List ImportDevice) (lines : List StatusLine) :
    parseStatus idevs (status lines) = some (lines.foldl storeLine idevs) := by
  unfold parseStatus status
  rw [cons_append, tail_cons]
  induction lines generalizing idevs with
  | nil => rfl
  | cons line _ ih => exact ih (storeLine idevs line)

theorem parseStatus_all (controllers : List (List StatusLine)) (idevs : List ImportDevice) :
    (controllers.map status).foldlM parseStatus idevs = some (controllers.flatten.foldl storeLine idevs) := by
  induction controllers generalizing idevs with
  | nil => rfl
  | cons lines _ ih =>
    rw [map_cons, foldlM_cons, parseStatus_status, flatten_cons, foldl_append]
    exact ih (lines.foldl storeLine idevs)

theorem storeLine_next {idevs : List ImportDevice} {line : StatusLine} (next : line.port = idevs.length) :
    storeLine idevs line = idevs ++ [.fill line default] := by
  unfold storeLine
  rw [next, if_pos (Nat.le_refl _), Nat.add_sub_cancel_left]
  simp [modify_eq_set_getElem?]

/-- Lines that go on where the table ends fill it in order. -/
theorem foldl_storeLine {lines : List StatusLine} {idevs : List ImportDevice}
    (numbered : lines.map (·.port) = range' idevs.length lines.length) :
    lines.foldl storeLine idevs = idevs ++ lines.map (.fill · default) := by
  induction lines generalizing idevs with
  | nil => simp
  | cons line rest ih =>
    rw [map_cons, length_cons, range'_succ, cons.injEq] at numbered
    rw [foldl_cons, storeLine_next numbered.1, ih (by simpa using numbered.2)]
    simp

theorem VhciDriver.loop_range' (driver : VhciDriver) (body : ImportDevice → Except Failure α → Except Failure α)
    (done : Except Failure α) (before rest : List ImportDevice) (split : driver.idevs = before ++ rest) :
    driver.loop body done (range' before.length rest.length) = rest.foldr body done := by
  induction rest generalizing before with
  | nil => rfl
  | cons idev rest ih =>
    have here : driver.idevs[before.length]? = some idev := by simp [split]
    have later := ih (before ++ [idev]) (by simp [split])
    rw [length_append, length_singleton] at later
    rw [length_cons, range'_succ, loop, here, foldr_cons, later]

/-- The driver has an entry for each of its ports, in order. -/
structure Parsed (driver : VhciDriver) : Prop where
  full : driver.idevs.length = driver.nports
  ports : ∀ (p : Nat) (idev : ImportDevice), driver.idevs[p]? = some idev → idev.port = p

def VhciDriver.attachInfo (driver : VhciDriver) : AttachInfo :=
  ⟨driver.nports, (driver.idevs.filter (·.status = vDeviceStatusUsed)).map (·.item)⟩

namespace Parsed

variable {driver : VhciDriver} (parsed : Parsed driver)
include parsed

theorem loop (body : ImportDevice → Except Failure α → Except Failure α) (done : Except Failure α) :
    driver.loop body done (range driver.nports) = driver.idevs.foldr body done := by
  have loops := driver.loop_range' body done [] driver.idevs rfl
  rwa [length_nil, parsed.full, ← range_eq_range'] at loops

theorem loop_in_range {body : ImportDevice → Except Failure α → Except Failure α} {done : Except Failure α}
    (ends : done ≠ .error .outOfRange)
    (goesOn : ∀ idev next, next ≠ .error .outOfRange → body idev next ≠ .error .outOfRange) :
    driver.loop body done (range driver.nports) ≠ .error .outOfRange := by
  rw [parsed.loop]
  exact foldrRecOn (motive := (· ≠ .error .outOfRange)) _ body ends fun next inRange idev _ =>
    goesOn idev next inRange

theorem getAttachInfo : getAttachInfo driver = .ok driver.attachInfo := by
  have items : ∀ idevs : List ImportDevice, idevs.foldr (fun idev (next : Except Failure _) =>
      if idev.status = vDeviceStatusUsed then next.map (idev.item :: ·) else next) (.ok []) =
        .ok ((idevs.filter (·.status = vDeviceStatusUsed)).map (·.item)) := by
    intro idevs
    induction idevs with
    | nil => rfl
    | cons idev rest ih =>
      rw [foldr_cons, ih, filter_cons]
      by_cases used : idev.status = vDeviceStatusUsed
      · simp [used, Except.map]
      · simp [used]
  unfold Vhci.getAttachInfo
  rw [parsed.loop, items]
  rfl

theorem in_range (speed rhport : Nat) : getFreePort driver speed ≠ .error .outOfRange ∧
    checkAttached driver rhport ≠ .error .outOfRange ∧ Vhci.getAttachInfo driver ≠ .error .outOfRange := by
  refine ⟨parsed.loop_in_range (by simp) fun idev next inRange => ?_,
    parsed.loop_in_range (by simp) fun idev next inRange => ?_, by simp [parsed.getAttachInfo]⟩
  · split
    · simp
    · exact inRange
  split
  · split <;> simp
  · exact inRange

end Parsed

theorem driverOf_printed {controllers : List (List StatusLine)} (printed : Printed controllers) :
    ∃ driver, driverOf controllers = some driver ∧ Parsed driver ∧ driver.nports = controllers.flatten.length ∧
      driver.idevs = controllers.flatten.map (.fill · default) := by
  have parsed := parseStatus_all controllers []
  rw [foldl_storeLine (printed.1.trans range_eq_range'), nil_append] at parsed
  refine ⟨⟨_, controllers.flatten.map (.fill · default)⟩, ?_, ⟨length_map .., fun p idev found => ?_⟩, rfl, rfl⟩
  · unfold driverOf newVhciDriver
    rw [parsed]
    rfl
  obtain ⟨line, here, rfl⟩ := Option.map_eq_some_iff.mp ((getElem?_map ..).symm.trans found)
  have number := congrArg (·[p]?) printed.1
  simp only [getElem?_map, here, Option.map_some] at number
  obtain ⟨_, isNumber⟩ := List.getElem?_eq_some_iff.mp number.symm
  exact isNumber.symm.trans (getElem_range _)

structure Attachment where
  (host busID : String)
  port : Nat
deriving DecidableEq

def Attachment.value (attachment : Attachment) : String :=
  attachment.host ++ " " ++ toString attachment.port ++ " " ++ attachment.busID

/-- The record files by their ports, and the attachments that have not ended. -/
structure World where
  files : List (Nat × String)
  attached : List (Nat × Attachment)

/-- Calls that succeed, each with what the kernel prints at the time. -/
inductive Event where
  | attach (controllers : List (List StatusLine)) (attachment : Attachment) (speed : Nat)
  | detach (controllers : List (List StatusLine)) (rhport : Nat)

def recordConnection (files : List (Nat × String)) (rhport : Nat) (attachment : Attachment) : List (Nat × String) :=
  (rhport, attachment.value) :: files.filter (·.1 ≠ rhport)

/-- `os.RemoveAll` of the state directory. -/
def removeAll (_ : List (Nat × String)) : List (Nat × String) := []

def step (w : World) : Event → Option World
  | .attach controllers attachment speed =>
    if Printed controllers then
      match (driverOf controllers).map (getFreePort · speed) with
      | some (.ok rhport) => some
          { files := recordConnection w.files rhport attachment
            attached := (rhport, attachment) :: w.attached.filter (·.1 ≠ rhport) }
      | _ => none
    else none
  | .detach controllers rhport =>
    if Printed controllers then
      match (driverOf controllers).map (checkAttached · rhport) with
      | some (.ok ()) => some
          { files := removeAll (w.files.filter (·.1 ≠ rhport))
            attached := w.attached.filter (·.1 ≠ rhport) }
      | _ => none
    else none

/-- A port is detached when no other is attached. -/
def alone (w : World) : Event → Bool
  | .attach .. => true
  | .detach _ rhport => w.attached.all (·.1 = rhport)

def Recorded (w : World) : Prop := w.files = w.attached.map fun (rhport, attachment) => (rhport, attachment.value)

theorem Recorded.filter {w : World} (recorded : Recorded w) (rhport : Nat) : w.files.filter (·.1 ≠ rhport) =
    (w.attached.filter (·.1 ≠ rhport)).map fun (rhport, attachment) => (rhport, attachment.value) := by
  rw [recorded, filter_map]
  rfl

theorem detach_next {w t : World} {controllers : List (List StatusLine)} {rhport : Nat}
    (taken : step w (.detach controllers rhport) = some t) : t = ⟨[], w.attached.filter (·.1 ≠ rhport)⟩ := by
  dsimp only [step] at taken
  split at taken
  · split at taken <;> cases taken
    rfl
  · cases taken

theorem others_of_alone {w : World} {controllers : List (List StatusLine)} {rhport : Nat}
    (ok : alone w (.detach controllers rhport)) : w.attached.filter (·.1 ≠ rhport) = [] := by
  simpa [alone] using ok

theorem Recorded.step (w : World) (event : Event) (t : World) (recorded : Recorded w) (ok : alone w event = true)
    (taken : step w event = some t) : Recorded t := by
  cases event with
  | attach =>
    dsimp only [Vhci.step] at taken
    split at taken
    · split at taken <;> cases taken
      exact congrArg _ (recorded.filter _)
    · cases taken
  | detach =>
    rw [detach_next taken, others_of_alone ok]
    rfl

/-- As long as a port is detached only when no other is attached, the record files are those of the attached ports. -/
theorem records_match_attached_ports (events : List Event)
    (along : Along step (fun w event => alone w event = true) ⟨[], []⟩ events) :
    (∀ w, run step ⟨[], []⟩ events = some w → Recorded w ∧ ∀ controllers rhport t,
      alone w (.detach controllers rhport) = true → step w (.detach controllers rhport) = some t →
        t.files.filter (·.1 ≠ rhport) = w.files.filter (·.1 ≠ rhport)) ∧
    ∀ controllers, Printed controllers → ∃ driver, driverOf controllers = some driver ∧
      (∀ (p : Nat) (idev : ImportDevice), driver.idevs[p]? = some idev → idev.port = p) ∧
      ∀ speed rhport, getFreePort driver speed ≠ .error .outOfRange ∧
        checkAttached driver rhport ≠ .error .outOfRange ∧ getAttachInfo driver ≠ .error .outOfRange := by
  constructor
  · intro w reached
    have start : Recorded ⟨[], []⟩ := rfl
    have recorded := run_invariant Recorded.step start along reached
    refine ⟨recorded, fun controllers rhport t ok taken => ?_⟩
    rw [detach_next taken, recorded.filter, others_of_alone ok]
    rfl
  intro controllers printed
  obtain ⟨driver, isDriver, parsed, -⟩ := driverOf_printed printed
  exact ⟨driver, isDriver, parsed.ports, parsed.in_range⟩

/-- A controller with ports of these statuses. -/
def portsOf (statuses : List Nat) : List (List StatusLine) :=
  [statuses.zipIdx.map fun (status, port) =>
    ⟨if port < statuses.length / 2 then "hs" else "ss", port, status, 0, "0-0"⟩]

def twoAttached : List Event :=
  [.attach (portsOf [4, 4, 4, 4]) ⟨"10.0.0.2", "3-1", 3240⟩ 3,
    .attach (portsOf [6, 4, 4, 4]) ⟨"10.0.0.3", "3-2", 3240⟩ 3]

/-- The first port is detached before two are attached. -/
def attachedAgain : List Event :=
  [.attach (portsOf [4, 4, 4, 4]) ⟨"10.0.0.9", "1-1", 3240⟩ 3, .detach (portsOf [6, 4, 4, 4]) 0] ++ twoAttached

theorem records_match_attached_ports_again :
    ∃ w, run step ⟨[], []⟩ attachedAgain = some w ∧
      w.files = [(1, "10.0.0.3 3240 3-2"), (0, "10.0.0.2 3240 3-1")] ∧ Recorded w :=
  exists_some_imp (p := (·.files = [(1, "10.0.0.3 3240 3-2"), (0, "10.0.0.2 3240 3-1")])) (by decide +kernel)
    fun w reached files =>
      ⟨files, ((records_match_attached_ports attachedAgain (by decide +kernel)).1 w reached).1⟩

/-- With two ports attached the record of the other one goes, too. -/
theorem detach_removes_every_record :
    ∃ w, run step ⟨[], []⟩ (twoAttached ++ [.detach (portsOf [6, 6, 4, 4]) 0]) = some w ∧
      w.attached = [(1, ⟨"10.0.0.3", "3-2", 3240⟩)] ∧ w.files = [] := by
  decide +kernel

end Virtualization.Usb.Vhci
