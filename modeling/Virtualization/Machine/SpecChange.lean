import Virtualization.Machine.Builder

/-! The comparison of CPU and memory in the specification that was applied last with those that are asked for. -/

namespace Virtualization.Machine.SpecChange

open Builder List VirtualMachineSpec

inductive ChangeOperation where
  | none | add | remove | replace
deriving DecidableEq

inductive ActionType where
  | none | restart | applyImmediate

def actionDisruptionOrder : ActionType → Nat
  | .none => 0
  | .applyImmediate => 1
  | .restart => 2

inductive FieldValue where
  | text (value : String)
  | int (value : Int)
  | quantity (value : Nat)
  | cpu (cores : Int) (coreFraction : String)

structure FieldChange where
  operation : ChangeOperation
  path : String := ""
  currentValue : Option FieldValue := none
  desiredValue : Option FieldValue := none
  actionRequired : ActionType := .none
  restartMessage : String := ""

def hasChanges (changes : List FieldChange) : Bool := changes.any (·.operation ≠ .none)

def mostDisruptiveAction (actions : List ActionType) : ActionType :=
  actions.foldl (fun result action =>
    if actionDisruptionOrder result < actionDisruptionOrder action then action else result) .none

section Operations

structure Value where
  value : FieldValue
  (isEmpty isDefault : Bool)

variable (path : String)

def compareEmpty (current desired : Value) (onChange : ActionType) : List FieldChange :=
  if current.isEmpty && desired.isEmpty then [{ operation := .none }]
  else if current.isEmpty && !desired.isEmpty then
    [{ operation := .add, path, desiredValue := some desired.value
       actionRequired := if desired.isDefault then .none else onChange }]
  else if !current.isEmpty && desired.isEmpty then
    [{ operation := .remove, path, currentValue := some current.value
       actionRequired := if current.isDefault then .none else onChange }]
  else []

def compareValues (current desired : Value) (isEqual : Bool) (onChange : ActionType) : List FieldChange :=
  let changes := compareEmpty path current desired onChange
  if 0 < changes.length then changes
  else if !isEqual then
    [{ operation := .replace, path, currentValue := some current.value, desiredValue := some desired.value
       actionRequired := onChange }]
  else []

def newStringValue (value defaultValue : String) : Value :=
  ⟨.text value, value = "", value ≠ "" && value = defaultValue⟩

def newQuantityValue (value defaultValue : Nat) : Value :=
  ⟨.quantity value, value = 0, value ≠ 0 && value = defaultValue⟩

def newIntValue (value defaultValue : Int) : Value := ⟨.int value, value = 0, value ≠ 0 && value = defaultValue⟩

def compareStrings (path current desired defaultValue : String) (onChange : ActionType) : List FieldChange :=
  compareValues path (newStringValue current defaultValue) (newStringValue desired defaultValue) (current = desired)
    onChange

def compareQuantity (current desired defaultValue : Nat) (onChange : ActionType) : List FieldChange :=
  compareValues path (newQuantityValue current defaultValue) (newQuantityValue desired defaultValue)
    (current = desired) onChange

def compareInts (current desired defaultValue : Int) (onChange : ActionType) : List FieldChange :=
  compareValues path (newIntValue current defaultValue) (newIntValue desired defaultValue) (current = desired) onChange

end Operations

section Comparators

structure Gates where
  hotplugCPUWithLiveMigration : Bool
  hotplugMemoryWithLiveMigration : Bool
  hotplugCPUAndMemoryWithInPlaceResize : Bool

def defaultCPUCoreFraction : String := "100%"

variable (gates : Gates) (current desired : VirtualMachineSpec)

def parsePercent (text : String) : Option Int :=
  atoi (if text.toList.getLast? = some '%' then text.toList.dropLast else text.toList)

def isCPUGuaranteed (coreFraction : String) : Bool :=
  match parsePercent (if coreFraction = "" then defaultCPUCoreFraction else coreFraction) with
  | none => false
  | some fraction => 100 ≤ fraction

def setRestartMessage (message : String) : List FieldChange → List FieldChange
  | [] => []
  | change :: changes => { change with restartMessage := message } :: changes

def coresRestartMsg : String :=
  if (calculateCoresAndSockets current.cores).1 ≠ (calculateCoresAndSockets desired.cores).1 then
    "Changing the number of CPU cores requires changing the CPU topology (number of sockets)."
  else ""

def fractionRestartMsg : String :=
  if isCPUGuaranteed current.coreFraction ≠ isCPUGuaranteed desired.coreFraction then
    "Changing the CPU core fraction to or from 100% changes the pod QoS class, which cannot be applied in-place."
  else ""

def cpuNeedsRestart : Bool :=
  (!gates.hotplugCPUWithLiveMigration && !gates.hotplugCPUAndMemoryWithInPlaceResize) ||
    (desired.osType = .legacy || current.osType = .legacy)

def comparatorCPU : List FieldChange :=
  let coresRestartMsg := coresRestartMsg current desired
  let fractionRestartMsg := fractionRestartMsg current desired
  let coresChangedAction : ActionType :=
    if coresRestartMsg ≠ "" || cpuNeedsRestart gates current desired then .restart else .applyImmediate
  let fractionChangedAction : ActionType :=
    if fractionRestartMsg ≠ "" || cpuNeedsRestart gates current desired then .restart else .applyImmediate
  let coresChanges := compareInts "cpu.cores" current.cores desired.cores 0 coresChangedAction
  let coresChanges :=
    if hasChanges coresChanges && coresRestartMsg ≠ "" then setRestartMessage coresRestartMsg coresChanges
    else coresChanges
  let fractionChanges :=
    compareStrings "cpu.coreFraction" current.coreFraction desired.coreFraction defaultCPUCoreFraction
      fractionChangedAction
  let fractionChanges :=
    if hasChanges fractionChanges && fractionRestartMsg ≠ "" then setRestartMessage fractionRestartMsg fractionChanges
    else fractionChanges
  -- a full replace if both fields are changed
  if hasChanges coresChanges && hasChanges fractionChanges then
    [{ operation := .replace, path := "cpu"
       currentValue := some (.cpu current.cores current.coreFraction)
       desiredValue := some (.cpu desired.cores desired.coreFraction)
       actionRequired := mostDisruptiveAction [coresChangedAction, fractionChangedAction]
       restartMessage := if coresRestartMsg = "" then fractionRestartMsg else coresRestartMsg }]
  else if hasChanges coresChanges then coresChanges
  else if hasChanges fractionChanges then fractionChanges
  else []

def comparatorMemory : List FieldChange :=
  let isHotpluggable : Bool := enableMemoryHotplugThreshold ≤ current.memorySize
  let isHotpluggableDesired : Bool := enableMemoryHotplugThreshold ≤ desired.memorySize
  let actionType : ActionType :=
    if desired.osType = .legacy || current.osType = .legacy then .restart
    else if !gates.hotplugMemoryWithLiveMigration && !gates.hotplugCPUAndMemoryWithInPlaceResize then .restart
    else if desired.memorySize < current.memorySize then .restart
    else if isHotpluggable && isHotpluggableDesired then .applyImmediate
    else .restart
  compareQuantity "memory.size" current.memorySize desired.memorySize 0 actionType

end Comparators

theorem hasChanges_setRestartMessage (condition : Prop) [Decidable condition] (message : String)
    (changes : List FieldChange) :
    hasChanges (if condition then setRestartMessage message changes else changes) = hasChanges changes := by
  split
  · cases changes <;> rfl
  · rfl

def allGates : Gates := ⟨true, true, true⟩

end Virtualization.Machine.SpecChange
