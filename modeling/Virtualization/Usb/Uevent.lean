import Virtualization.Library.Run

namespace Virtualization.Usb.Udev

open Library List

/-- A byte string; a byte is a character. -/
abbrev Bytes := List Char

inductive Action where
  | add | remove | change | move | online | offline | bind | unbind
deriving DecidableEq, Repr

namespace Action

def text : Action → String
  | .add => "add"
  | .remove => "remove"
  | .change => "change"
  | .move => "move"
  | .online => "online"
  | .offline => "offline"
  | .bind => "bind"
  | .unbind => "unbind"

def all : List Action := [.add, .remove, .change, .move, .online, .offline, .bind, .unbind]

end Action

def parseAction (s : Bytes) : Except String Action :=
  match Action.all.find? (·.text.toList = s) with
  | some a => .ok a
  | none => .error ("unknown action: " ++ String.ofList s)

/-- A parsed uevent. The entry of a variable that was set last is the first one. -/
structure UEvent where
  action : Action
  kObj : Bytes
  env : List (Bytes × Bytes)
deriving DecidableEq

def cut (s : Bytes) : Option (Bytes × Bytes) :=
  match s.dropWhile (· != '=') with
  | [] => none
  | _ :: value => some (s.takeWhile (· != '='), value)

def parseUEvent (raw : Bytes) : Except String UEvent :=
  let fields := raw.splitOn '\x00'
  if fields.length < 2 then .error "invalid uevent format" else
  match (fields.headD []).splitOn '@' with
  | [action, kObj] => do
    let action ← parseAction action
    return { action, kObj, env := (fields.tail.dropLast.filterMap cut).reverse }
  | _ => .error "invalid uevent format"

section

variable (e : UEvent)

def UEvent.get (key : String) : Bytes := (e.env.lookup key.toList).getD []

def UEvent.isUSBDevice : Bool :=
  e.get "SUBSYSTEM" = "usb".toList && e.get "DEVTYPE" = "usb_device".toList

def UEvent.message : Bytes :=
  ['\x00'].intercalate ((e.action.text.toList ++ '@' :: e.kObj) ::
    e.env.reverse.map (fun (key, value) => key ++ '=' :: value) ++ [[]])

end

structure UEvent.Regular (e : UEvent) : Prop where
  kObj : '\x00' ∉ e.kObj ∧ '@' ∉ e.kObj
  env : ∀ entry ∈ e.env, '\x00' ∉ entry.1 ∧ '=' ∉ entry.1 ∧ '\x00' ∉ entry.2

theorem parseAction_text (a : Action) : parseAction a.text.toList = .ok a := by
  cases a <;> rfl

theorem text_plain (a : Action) : '\x00' ∉ a.text.toList ∧ '@' ∉ a.text.toList := by
  cases a <;> decide

theorem cut_entry {key : Bytes} (value : Bytes) (plain : '=' ∉ key) :
    cut (key ++ '=' :: value) = some (key, value) := by
  have kept : ∀ c ∈ key, (c != '=') := by
    intro c mem
    simp only [bne_iff_ne, ne_eq]
    rintro rfl
    exact plain mem
  simp [cut, takeWhile_append_of_pos kept, dropWhile_append_of_pos kept]

theorem UEvent.Regular.fields {e : UEvent} (regular : e.Regular) : e.message.splitOn '\x00' =
    (e.action.text.toList ++ '@' :: e.kObj) :: e.env.reverse.map (fun (key, value) => key ++ '=' :: value) ++ [[]] := by
  refine splitOn_intercalate '\x00' ?_ (by simp)
  intro field mem
  simp only [cons_append, mem_cons, mem_append, mem_map, mem_reverse, not_mem_nil,
    or_false] at mem
  obtain rfl | ⟨⟨key, value⟩, mem, rfl⟩ | rfl := mem
  · simpa using ⟨(text_plain e.action).1, regular.kObj.1⟩
  · obtain ⟨key, -, value⟩ := regular.env _ mem
    simpa using ⟨key, value⟩
  · exact not_mem_nil

theorem UEvent.Regular.parse_message {e : UEvent} (regular : e.Regular) : parseUEvent e.message = .ok e := by
  have headers : (e.action.text.toList ++ '@' :: e.kObj).splitOn '@' = [e.action.text.toList, e.kObj] := by
    have plain : ∀ part ∈ [e.action.text.toList, e.kObj], '@' ∉ part := by
      simpa using ⟨(text_plain e.action).2, regular.kObj.2⟩
    simpa [List.intercalate] using splitOn_intercalate '@' plain (cons_ne_nil _ _)
  have env : (e.env.reverse.map fun (key, value) => key ++ '=' :: value).filterMap cut = e.env.reverse := by
    rw [filterMap_map]
    refine (filterMap_congr fun entry mem => ?_).trans filterMap_some
    exact cut_entry _ (regular.env entry (mem_reverse.mp mem)).2.1
  have enough : ¬ (e.env.reverse.map fun (key, value) => key ++ '=' :: value).length + 1 + 1 < 2 := by omega
  simp only [parseUEvent, regular.fields, cons_append, length_cons, length_append, length_nil,
    Nat.zero_add, if_neg enough, headD_cons, headers, parseAction_text, tail_cons, dropLast_concat, env,
    reverse_reverse, bind, Except.bind, pure, Except.pure]

def usbEvent (raw : Bytes) : Option UEvent := (parseUEvent raw).toOption.filter UEvent.isUSBDevice

inductive Reader where
  | reading
  | sending (e : UEvent)
  | ended
deriving DecidableEq

/-- `Monitor` and `UdevMonitor` with the socket, the two channels and what has been done so far. -/
structure Monitor where
  socket : List Bytes
  reader : Reader
  eventCh : List UEvent
  errCh : Option String
  running : Bool
  handled : List UEvent
  resyncs : Nat

def Monitor.start : Monitor :=
  { socket := [], reader := .reading, eventCh := [], errCh := none, running := true, handled := [], resyncs := 0 }

inductive Event where
  | kernel (raw : Bytes)
  | read | interrupt | send
  | handle | error | tick
deriving Repr

variable (m : Monitor) (e : UEvent)

def capacity : Nat := 100

def Monitor.pass : Monitor :=
  if m.eventCh.length < capacity then { m with eventCh := m.eventCh ++ [e], reader := .reading }
  else { m with reader := .sending e }

/-- A turn of the loop of `Monitor.Run`. After an error the goroutine of `Start` closes both channels. -/
def Monitor.readUEvent (raw : Bytes) : Monitor :=
  match parseUEvent raw with
  | .ok e => if e.isUSBDevice then m.pass e else m
  | .error text => { m with reader := .ended, errCh := some ("failed to read uevent: " ++ text) }

def step : Event → Option Monitor
  | .kernel raw => some { m with socket := m.socket ++ [raw] }
  | .read =>
    match m.reader, m.socket with
    | .reading, raw :: socket => some (Monitor.readUEvent { m with socket } raw)
    | _, _ => none
  | .interrupt => if m.reader = .reading then some m else none
  | .send =>
    match m.reader with
    | .sending e => if m.eventCh.length < capacity then some (m.pass e) else none
    | _ => none
  | .handle =>
    if m.running then
      match m.eventCh with
      | e :: eventCh => some { m with eventCh, handled := m.handled ++ [e] }
      | [] => if m.reader = .ended then some { m with running := false } else none
    else none
  | .error => if m.running && m.errCh.isSome then some { m with running := false, errCh := none } else none
  | .tick => if m.running then some { m with resyncs := m.resyncs + 1 } else none

def Reader.held : Reader → List UEvent
  | .sending e => [e]
  | _ => []

def Monitor.waiting : List UEvent := m.eventCh ++ m.reader.held ++ m.socket.filterMap usbEvent

def parses : Event → Bool
  | .kernel raw => (parseUEvent raw).toOption.isSome
  | _ => true

def messages (events : List Event) : List Bytes := events.filterMap fun
  | .kernel raw => some raw
  | _ => none

structure Alive (m : Monitor) : Prop where
  running : m.running
  reader : m.reader ≠ .ended
  errCh : m.errCh = none
  socket : ∀ raw ∈ m.socket, ∃ e, parseUEvent raw = .ok e

variable {m n : Monitor}

theorem Alive.pass (alive : Alive m) (e : UEvent) : Alive (m.pass e) := by
  unfold Monitor.pass
  split
  all_goals exact { alive with reader := Reader.noConfusion }

open Monitor

theorem handled_pass : (m.pass e).handled = m.handled := by
  unfold Monitor.pass
  split <;> rfl

open Reader

theorem waiting_pass : (m.pass e).waiting = m.eventCh ++ e :: m.socket.filterMap usbEvent := by
  unfold Monitor.pass
  split <;> simp [waiting, held]

theorem Alive.step {event : Event} (alive : Alive m) (parsed : parses event) (taken : Udev.step m event = some n) :
    Alive n ∧ n.handled ++ n.waiting = m.handled ++ m.waiting ++ (messages [event]).filterMap usbEvent := by
  cases event with
  | kernel =>
    cases taken
    refine ⟨{ alive with socket := fun other mem => ?_ }, by simp [messages, waiting]⟩
    obtain mem | rfl := mem_append.mp mem |>.imp_right mem_singleton.mp
    · exact alive.socket other mem
    cases result : parseUEvent other with
    | ok e => exact ⟨e, rfl⟩
    | error => simp [parses, result, Except.toOption] at parsed
  | read =>
    simp only [Udev.step] at taken
    split at taken <;> cases taken
    rename_i raw socket reading pending
    obtain ⟨e, result⟩ := alive.socket raw (by simp [pending])
    have rest : Alive { m with socket } :=
      { alive with socket := fun other mem => alive.socket other (by simp [pending, mem]) }
    simp only [readUEvent, result]
    split
    · rename_i usb
      have passed : usbEvent raw = some e := by simp [usbEvent, result, Except.toOption, usb]
      refine ⟨rest.pass e, ?_⟩
      rw [handled_pass, waiting_pass]
      simp [waiting, reading, held, pending, passed, messages]
    rename_i other
    have dropped : usbEvent raw = none := by simp [usbEvent, result, Except.toOption, other]
    refine ⟨rest, ?_⟩
    simp [waiting, pending, dropped, messages]
  | interrupt =>
    obtain ⟨-, same⟩ := Option.ite_none_right_eq_some.mp taken
    cases same
    exact ⟨alive, by simp [messages]⟩
  | send =>
    simp only [Udev.step] at taken
    split at taken
    · rename_i e sending
      obtain ⟨-, same⟩ := Option.ite_none_right_eq_some.mp taken
      cases same
      refine ⟨alive.pass e, ?_⟩
      rw [handled_pass, waiting_pass]
      simp [waiting, sending, held, messages]
    · cases taken
  | handle =>
    simp only [Udev.step, alive.running, if_true, if_neg alive.reader] at taken
    split at taken <;> cases taken
    rename_i pending
    exact ⟨{ alive with running := rfl }, by simp [waiting, pending, messages]⟩
  | error => simp [Udev.step, alive.errCh] at taken
  | tick =>
    simp only [Udev.step, alive.running, if_true] at taken
    cases taken
    exact ⟨{ alive with running := rfl }, by simp [waiting, messages]⟩

theorem messages_cons (event : Event) (events : List Event) :
    messages (event :: events) = messages [event] ++ messages events := by
  simp only [messages, filterMap_cons, filterMap_nil]
  split <;> rfl

theorem Alive.run {events : List Event} (alive : Alive m) (parsed : ∀ event ∈ events, parses event)
    (reached : Library.run Udev.step m events = some n) :
    Alive n ∧ n.handled ++ n.waiting = m.handled ++ m.waiting ++ (messages events).filterMap usbEvent := by
  induction events generalizing m with
  | nil => cases reached; exact ⟨alive, by simp [messages]⟩
  | cons event events ih =>
    obtain ⟨_, taken, rest⟩ := run_cons reached
    obtain ⟨alive, first⟩ := alive.step (parsed event mem_cons_self) taken
    obtain ⟨alive, later⟩ := ih alive (fun other mem => parsed other (mem_cons_of_mem _ mem)) rest
    refine ⟨alive, ?_⟩
    simp only [later, first, messages_cons event events, filterMap_append, append_assoc]

def Monitor.distance (m : Monitor) : Nat := m.eventCh.length + 2 * m.reader.held.length + 3 * m.socket.length

theorem distance_pass : (m.pass e).distance ≤ m.eventCh.length + 2 + 3 * m.socket.length := by
  unfold Monitor.pass
  split <;> simp [distance, held]

theorem Alive.progress (alive : Alive m) (far : m.distance ≠ 0) :
    ∃ event n, parses event ∧ messages [event] = [] ∧ Udev.step m event = some n ∧ n.distance < m.distance := by
  cases ready : m.eventCh with
  | cons =>
    refine ⟨.handle, _, rfl, rfl, by simp [Udev.step, alive.running, ready]; rfl, ?_⟩
    simp [Monitor.distance, ready]
  | nil =>
    cases at_ : m.reader with
    | ended => exact absurd at_ alive.reader
    | sending e =>
      refine ⟨.send, m.pass e, rfl, rfl, by simp [Udev.step, at_, ready, capacity], ?_⟩
      simp [Monitor.pass, Monitor.distance, ready, at_, held, capacity]
    | reading =>
      cases pending : m.socket with
      | nil => simp [Monitor.distance, ready, at_, pending, held] at far
      | cons raw socket =>
        obtain ⟨e, result⟩ := alive.socket raw (by simp [pending])
        refine ⟨.read, Monitor.readUEvent { m with socket } raw, rfl, rfl, by simp [Udev.step, at_, pending], ?_⟩
        simp only [Monitor.readUEvent, result]
        split
        · have := distance_pass (m := { m with socket }) e
          simp [Monitor.distance, pending, at_, held] at this ⊢
          omega
        · simp [Monitor.distance, pending]

theorem Alive.drains (alive : Alive m) : ∃ more n, (∀ event ∈ more, parses event) ∧ messages more = [] ∧
    Library.run Udev.step m more = some n ∧ n.distance = 0 := by
  induction far : m.distance using Nat.strongRecOn generalizing m with
  | _ distance ih =>
    by_cases near : m.distance = 0
    · exact ⟨[], m, by simp, rfl, rfl, near⟩
    obtain ⟨event, _, parsed, silent, taken, closer⟩ := alive.progress near
    obtain ⟨more, n, all, quiet, reached, done⟩ := ih _ (far ▸ closer) (alive.step parsed taken).1 rfl
    refine ⟨event :: more, n, ?_, ?_, ?_, done⟩
    · simpa [parsed] using all
    · rw [messages_cons, silent, quiet]
      rfl
    rw [Library.run, taken]
    exact reached

theorem waiting_of_distance (done : m.distance = 0) : m.waiting = [] := by
  have : m.eventCh = [] ∧ m.reader.held = [] ∧ m.socket = [] := by
    simp only [← length_eq_zero_iff]
    unfold distance at done
    omega
  simp [waiting, this]

theorem alive_start : Alive start where
  running := rfl
  reader := Reader.noConfusion
  errCh := rfl
  socket := fun _ mem => by cases mem

/-- If all messages can be parsed, the monitor goes on. It has handled a part of the USB events in their order, or is
able to take the others up, and the ticker can fire. -/
theorem usb_events_handled {events : List Event} (parsed : ∀ event ∈ events, parses event = true)
    (reached : run step Monitor.start events = some m) : m.handled ++ m.waiting = (messages events).filterMap usbEvent ∧
    (∀ e : UEvent, e.Regular → e.isUSBDevice = true → e.message ∈ messages events → e ∈ m.handled ++ m.waiting) ∧
    (∃ more n, messages more = [] ∧ run step m more = some n ∧ n.handled = m.handled ++ m.waiting) ∧
    step m .tick = some { m with resyncs := m.resyncs + 1 } := by
  obtain ⟨alive, order⟩ := alive_start.run parsed reached
  refine ⟨order, ?_, ?_, by simp [step, alive.running]⟩
  · intro e regular usb mem
    rw [order]
    refine mem_filterMap.mpr ⟨e.message, mem, ?_⟩
    simp [usbEvent, regular.parse_message, Except.toOption, usb]
  obtain ⟨more, n, all, quiet, drained, done⟩ := alive.drains
  refine ⟨more, n, quiet, drained, ?_⟩
  have kept := (alive.run all drained).2
  simpa [waiting_of_distance done, quiet] using kept

def strayMessage : Bytes := "change@/devices/virtual/block/a@b\x00SUBSYSTEM=block\x00".toList

def plugged : UEvent where
  action := .add
  kObj := "/devices/pci0000:00/usb3/3-2".toList
  env := [("DEVTYPE".toList, "usb_device".toList), ("SUBSYSTEM".toList, "usb".toList)]

def unplugged : UEvent := { plugged with action := .remove }

/-- A device comes and goes, and the second message is there before the first is handled. -/
def comesAndGoes : List Event :=
  [.kernel plugged.message, .read, .kernel unplugged.message, .handle, .read, .tick, .handle]

theorem usb_events_handled_plugged : (∀ event ∈ comesAndGoes, parses event = true) ∧
    ∃ m, run step Monitor.start comesAndGoes = some m ∧ m.handled = [plugged, unplugged] ∧
      step m .tick = some { m with resyncs := m.resyncs + 1 } := by
  have parsed : ∀ event ∈ comesAndGoes, parses event = true := by decide +kernel
  refine ⟨parsed, exists_some_imp (p := fun m => m.handled = [plugged, unplugged]) (by decide +kernel) ?_⟩
  intro _ reached handled
  exact ⟨handled, (usb_events_handled parsed reached).2.2.2⟩

theorem ended_run {events : List Event} (stopped : m.running = false) (ended : m.reader = .ended)
    (reached : run step m events = some n) : ∃ socket, n = { m with socket } := by
  induction events generalizing m with
  | nil =>
    cases reached
    exact ⟨n.socket, rfl⟩
  | cons event _ ih =>
    obtain ⟨_, taken, rest⟩ := run_cons reached
    cases event with
    | kernel raw =>
      cases taken
      exact @ih { m with socket := m.socket ++ [raw] } stopped ended rest
    | read | interrupt | send | handle | error | tick => simp [step, stopped, ended] at taken

/-- One message ends the monitor: the USB device that comes after it is never handled, and nothing is synced again. -/
theorem monitor_ends : ∃ m,
    run step Monitor.start [.kernel strayMessage, .read, .error, .kernel plugged.message] = some m ∧
    plugged.Regular ∧ plugged.isUSBDevice = true ∧
    ∀ more n, run step m more = some n → n.handled = [] ∧ n.resyncs = 0 ∧ step n .tick = none := by
  refine exists_some_imp (p := fun m => m.running = false ∧ m.reader = .ended ∧ m.handled = [] ∧ m.resyncs = 0)
    (by decide +kernel) ?_
  rintro m - ⟨stopped, ended, handled, resyncs⟩
  refine ⟨⟨by decide +kernel, by decide +kernel⟩, by decide +kernel, fun _ _ later => ?_⟩
  obtain ⟨_, rfl⟩ := ended_run stopped ended later
  exact ⟨handled, resyncs, by simp [step, stopped]⟩

end Virtualization.Usb.Udev
