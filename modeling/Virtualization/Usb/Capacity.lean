import Virtualization.Usb.Vhci

/-! What a node advertises of its USB ports, and whether it has one for a device that is scheduled by it. -/

namespace Virtualization.Usb.Vhci

open Library List

def resolveDeviceSpeed : Nat → USBDeviceSpeed
  | 1 => .low
  | 12 | 15 => .full
  | 480 => .high
  | 5000 => .super
  | 10000 | 20000 => .superPlus
  | _ => .unknown

def toSpeed (speed : Nat) : Nat := (resolveDeviceSpeed speed).ctorIdx

def usbGatewayLabelShort : String := "usb-gateway"

def usbGatewayLabel : String := "virtualization.deckhouse.io/usb-gateway"

def usbGatewayNodeLabel : String := "virtualization.deckhouse.io/usb-gateway-node"

def usbGatewayHighSpeedLabel : String := "virtualization.deckhouse.io/usb-gateway-high-speed"

def usbGatewaySuperSpeedLabel : String := "virtualization.deckhouse.io/usb-gateway-super-speed"

def mark (nodeName : String) (any hs ss : Bool) (labels : String → Option String) (name : String) : Option String :=
  if name = usbGatewayLabel ∨ name = usbGatewayLabelShort then some "true"
  else if name = usbGatewayNodeLabel then some (if any then "any" else nodeName)
  else if name = usbGatewayHighSpeedLabel then if hs then some "true" else none
  else if name = usbGatewaySuperSpeedLabel then if ss then some "true" else none
  else labels name

def calculateUsedPorts (attachInfo : AttachInfo) : Nat × Nat :=
  (attachInfo.items.countP (·.hub = "hs"), attachInfo.items.countP (·.hub = "ss"))

def markNode (partitionable : Bool) (nodeName : String) (attachInfo : AttachInfo) (labels : String → Option String) :
    String → Option String :=
  let perHub := attachInfo.nports / 2
  let (hsHub, ssHub) := calculateUsedPorts attachInfo
  let hsAvailable := decide (perHub > hsHub)
  let ssAvailable := decide (perHub > ssHub)
  let anyNode := if partitionable then hsAvailable || ssAvailable else hsAvailable && ssAvailable
  mark nodeName anyNode hsAvailable ssAvailable labels

def resolveSpeedLabel (speed : Nat) : String :=
  if toSpeed speed ≥ USBDeviceSpeed.super.ctorIdx then usbGatewaySuperSpeedLabel else usbGatewayHighSpeedLabel

def getPartitionableNodeSelector (nodeName : String) (speed : Nat) : List (List (String × List String)) :=
  [[("kubernetes.io/hostname", [nodeName])], [(usbGatewayLabel, ["true"]), (resolveSpeedLabel speed, ["true"])]]

def getCommonNodeSelector (nodeName : String) : List (List (String × List String)) :=
  [[(usbGatewayLabel, ["true"]), (usbGatewayNodeLabel, ["any", nodeName])]]

/-- The scheduler: terms are alternatives, and each expression has a key and its values. -/
def selects (selector : List (List (String × List String))) (labels : String → Option String) : Bool :=
  selector.any (·.all fun (key, values) => values.any (labels key = some ·))

def selected (partitionable : Bool) (exporter nodeName : String) (attachInfo : AttachInfo)
    (labels : String → Option String) (speed : Nat) : Bool :=
  selects (if partitionable then getPartitionableNodeSelector exporter speed else getCommonNodeSelector exporter)
    (markNode partitionable nodeName attachInfo labels)

section

variable (hub : HubSpeed) (lines : List StatusLine)

def HasFreePort : Prop := ∃ line ∈ lines, line.hub = hub.string ∧ line.status = vDeviceStatusNull
deriving Decidable

def AllUsed : Prop := ∀ line ∈ lines, line.hub = hub.string → line.status = vDeviceStatusUsed
deriving Decidable

end

/-- The hub that the label for the speed of a device is about. -/
def labelledHub (speed : Nat) : HubSpeed := if toSpeed speed ≥ USBDeviceSpeed.super.ctorIdx then .super else .high

/-- The hub that the device goes to has a free port, or the hub that its label is about has only used ports. Without
    labels for the speeds it is one of the two hubs that has only used ports. -/
def Truthful (partitionable : Bool) (nodeName : String) (speed : Nat) (lines : List StatusLine) : Prop :=
  HasFreePort (hubOf (toSpeed speed)) lines ∨
    if partitionable then AllUsed (labelledHub speed) lines
    else nodeName ≠ "any" ∧ (AllUsed .high lines ∨ AllUsed .super lines)
deriving Decidable

section

variable {hub : HubSpeed} {lines : List StatusLine}

theorem fill_hub {line : StatusLine} (known : line.hub = "hs" ∨ line.hub = "ss") :
    (ImportDevice.fill line default).hub = hub ↔ line.hub = hub.string := by
  rcases known with is | is <;> cases hub <;> simp [ImportDevice.fill, is, HubSpeed.string]

theorem countP_and_lt_countP {α : Type} {p q : α → Bool} {l : List α} :
    l.countP (fun a => p a && q a) < l.countP p ↔ ¬∀ a ∈ l, p a → q a := by
  have both : l.countP (fun a => p a && q a) = (l.filter p).countP q := by
    rw [countP_filter]
    simp only [Bool.and_comm]
  rw [both, countP_eq_length_filter (p := p), Nat.lt_iff_le_and_ne, and_iff_right countP_le_length, Ne,
    countP_eq_length]
  simp only [mem_filter, and_imp]

end

namespace Printed

variable {controllers : List (List StatusLine)} (printed : Printed controllers)
include printed

theorem half (hub : HubSpeed) : controllers.flatten.length / 2 = controllers.flatten.countP (·.hub = hub.string) := by
  cases hub
  · exact printed.2.2.1.symm
  · exact printed.2.2.2.symm

theorem free_iff {driver : VhciDriver} (idevs : driver.idevs = controllers.flatten.map (.fill · default))
    (hub : HubSpeed) : (∃ idev ∈ driver.idevs, idev.hub = hub ∧ idev.status = vDeviceStatusNull) ↔
      HasFreePort hub controllers.flatten := by
  rw [idevs]
  unfold HasFreePort
  simp only [mem_map, exists_exists_and_eq_and]
  refine exists_congr fun line => and_congr_right fun member => ?_
  rw [fill_hub (printed.2.1 line member)]
  rfl

theorem room_iff {driver : VhciDriver} (nports : driver.nports = controllers.flatten.length)
    (idevs : driver.idevs = controllers.flatten.map (.fill · default)) (hub : HubSpeed) :
    driver.attachInfo.nports / 2 > driver.attachInfo.items.countP (·.hub = hub.string) ↔
      ¬AllUsed hub controllers.flatten := by
  have used : driver.attachInfo.items.countP (·.hub = hub.string) =
      controllers.flatten.countP fun line => line.hub = hub.string && line.status = vDeviceStatusUsed := by
    unfold VhciDriver.attachInfo
    rw [idevs, countP_map, countP_filter, countP_map]
    refine countP_congr fun line member => ?_
    have string : (ImportDevice.fill line default).hub.string = hub.string ↔ line.hub = hub.string := by
      rw [← fill_hub (printed.2.1 line member)]
      cases (ImportDevice.fill line default).hub <;> cases hub <;> simp [HubSpeed.string]
    have status : (ImportDevice.fill line default).status = line.status := rfl
    simp [ImportDevice.item, string, status]
  unfold AllUsed
  rw [used, gt_iff_lt, show driver.attachInfo.nports = controllers.flatten.length from nports, printed.half hub,
    countP_and_lt_countP]
  simp

end Printed

theorem Parsed.getFreePort_iff {driver : VhciDriver} (parsed : Parsed driver) {speed : Nat} :
    (∃ port, getFreePort driver speed = .ok port) ↔
      ∃ idev ∈ driver.idevs, idev.hub = hubOf speed ∧ idev.status = vDeviceStatusNull := by
  unfold Vhci.getFreePort
  rw [parsed.loop]
  induction driver.idevs with
  | nil => simp
  | cons first rest ih =>
    rw [foldr_cons]
    by_cases fits : first.hub = hubOf speed ∧ first.status = vDeviceStatusNull
    · simp [fits]
    · simpa [fits] using ih

section

variable {exporter nodeName : String} {labels : String → Option String} {speed : Nat} {attachInfo : AttachInfo}

theorem selected_partitionable (elsewhere : labels "kubernetes.io/hostname" ≠ some exporter) :
    selected true exporter nodeName attachInfo labels speed ↔
      attachInfo.nports / 2 > attachInfo.items.countP (·.hub = (labelledHub speed).string) := by
  unfold selected getPartitionableNodeSelector resolveSpeedLabel labelledHub
  by_cases fast : toSpeed speed ≥ USBDeviceSpeed.super.ctorIdx <;>
    simp [fast, selects, markNode, mark, calculateUsedPorts, usbGatewayLabel, usbGatewayNodeLabel,
      usbGatewayLabelShort, usbGatewayHighSpeedLabel, usbGatewaySuperSpeedLabel, elsewhere, HubSpeed.string]

theorem selected_common (foreign : nodeName ≠ exporter) :
    selected false exporter nodeName attachInfo labels speed ↔ nodeName = "any" ∨
      attachInfo.nports / 2 > (calculateUsedPorts attachInfo).1 ∧
        attachInfo.nports / 2 > (calculateUsedPorts attachInfo).2 := by
  by_cases both : attachInfo.nports / 2 > (calculateUsedPorts attachInfo).1 ∧
      attachInfo.nports / 2 > (calculateUsedPorts attachInfo).2
  · simp [selected, selects, markNode, getCommonNodeSelector, mark, usbGatewayLabel, usbGatewayNodeLabel,
      usbGatewayLabelShort, both]
  · simp [selected, selects, markNode, getCommonNodeSelector, mark, usbGatewayLabel, usbGatewayNodeLabel,
      usbGatewayLabelShort, both, foreign]

end

/-- A node that is selected for a device of another node has a port for it exactly when its labels are true of the hub
    that the device goes to. -/
theorem selected_node_has_port_iff (partitionable : Bool) (exporter nodeName : String)
    (labels : String → Option String) (controllers : List (List StatusLine)) (speed : Nat)
    (printed : Printed controllers)
    (remote : nodeName ≠ exporter ∧ labels "kubernetes.io/hostname" ≠ some exporter) :
    ∃ driver attachInfo, driverOf controllers = some driver ∧ getAttachInfo driver = .ok attachInfo ∧
      ((selected partitionable exporter nodeName attachInfo labels speed = true →
          ∃ port, getFreePort driver (toSpeed speed) = .ok port) ∧
        (¬HasFreePort (hubOf (toSpeed speed)) controllers.flatten →
          selected partitionable exporter nodeName attachInfo labels speed = false) ↔
      Truthful partitionable nodeName speed controllers.flatten) := by
  obtain ⟨driver, isDriver, parsed, nports, idevs⟩ := driverOf_printed printed
  refine ⟨driver, _, isDriver, parsed.getAttachInfo, ?_⟩
  have room := printed.room_iff nports idevs
  rw [parsed.getFreePort_iff, printed.free_iff idevs]
  have isSelected : selected partitionable exporter nodeName driver.attachInfo labels speed ↔
      ¬if partitionable then AllUsed (labelledHub speed) controllers.flatten
        else nodeName ≠ "any" ∧ (AllUsed .high controllers.flatten ∨ AllUsed .super controllers.flatten) := by
    cases partitionable with
    | true => simp only [selected_partitionable remote.2, room, if_true]
    | false =>
      have high : driver.attachInfo.nports / 2 > (calculateUsedPorts driver.attachInfo).1 ↔ _ := room .high
      have super : driver.attachInfo.nports / 2 > (calculateUsedPorts driver.attachInfo).2 ↔ _ := room .super
      simp only [selected_common remote.1, high, super, Bool.false_eq_true, if_false]
      tauto
  unfold Truthful
  rw [← Bool.not_eq_true, isSelected]
  tauto

/-- The last port of the HighSpeed hub is free and the other hub is full. -/
theorem selected_node_has_port_last : ∃ driver attachInfo, driverOf (portsOf [6, 4, 6, 6]) = some driver ∧
    getAttachInfo driver = .ok attachInfo ∧ selected true "node-2" "node-1" attachInfo (fun _ => none) 480 = true ∧
      (∃ port, getFreePort driver (toSpeed 480) = .ok port) ∧
      selected true "node-2" "node-1" attachInfo (fun _ => none) 5000 = false := by
  have printed : Printed (portsOf [6, 4, 6, 6]) := by decide +kernel
  obtain ⟨driver, attachInfo, isDriver, info, high⟩ :=
    selected_node_has_port_iff true "node-2" "node-1" (fun _ => none) _ 480 printed (by decide)
  obtain ⟨_, _, same, sameInfo, super⟩ :=
    selected_node_has_port_iff true "node-2" "node-1" (fun _ => none) _ 5000 printed (by decide)
  cases isDriver.symm.trans same
  cases info.symm.trans sameInfo
  have isSelected : selected true "node-2" "node-1" attachInfo (fun _ => none) 480 = true := by
    cases isDriver
    cases info
    decide +kernel
  exact ⟨driver, attachInfo, isDriver, info, isSelected, (high.mpr (by decide +kernel)).1 isSelected,
    (super.mpr (by decide +kernel)).2 (by decide +kernel)⟩

/-- A device that is faster than SuperSpeed is selected by the SuperSpeed label and goes to the HighSpeed hub, which is
    full. A port that has been given to a device and has no address yet counts as free for the label only. -/
theorem selected_node_without_port :
    (∃ driver attachInfo, driverOf (portsOf [6, 6, 4, 4]) = some driver ∧ getAttachInfo driver = .ok attachInfo ∧
      selected true "node-2" "node-1" attachInfo (fun _ => none) 10000 = true ∧
      getFreePort driver (toSpeed 10000) = .error .noFreePort) ∧
    ∃ driver attachInfo, driverOf (portsOf [6, 5, 4, 4]) = some driver ∧ getAttachInfo driver = .ok attachInfo ∧
      selected true "node-2" "node-1" attachInfo (fun _ => none) 480 = true ∧
      getFreePort driver (toSpeed 480) = .error .noFreePort :=
  ⟨⟨_, _, rfl, rfl, by decide +kernel, rfl⟩, ⟨_, _, rfl, rfl, by decide +kernel, rfl⟩⟩

end Virtualization.Usb.Vhci
