import Virtualization.Machine.Spec

/-! The builder of the KubeVirt VirtualMachine that runs a VirtualMachine: CPU, memory and node affinity. -/

namespace Virtualization.Machine.Builder

open Reconcile

structure CPU where
  cores : Nat := 0
  sockets : Nat := 0
  maxSockets : Nat := 0

structure Memory where
  guest : Nat
  maxGuest : Option Nat

structure ResourceList where
  cpu : Option Int := none
  memory : Option Nat := none

structure Affinity where
  nodeAffinity : Option NodeAffinity := none

/-- The template of the instance. Maps that are nil are empty. -/
structure Template where
  annotations : StringMap := ∅
  cpu : Option CPU := none
  memory : Option Memory := none
  requests : ResourceList := {}
  limits : ResourceList := {}
  affinity : Option Affinity := none

def vcpuTopologyDynamicCoresAnnotation : String := "internal.virtualization.deckhouse.io/vcpu-topology-dynamic-cores"
def cpuResourcesRequestsFractionAnnotation : String :=
  "internal.virtualization.deckhouse.io/cpu-resources-requests-fraction"

def setKVVMIAnnotation (annoKey annoValue : String) (t : Template) : Template :=
  { t with annotations := t.annotations.insert annoKey annoValue }

section Domain

variable (cores : Int) (coreFraction : String)

def maxMemorySizeForHotplug : Nat := 256 * 1024 * 1024 * 1024
def enableMemoryHotplugThreshold : Nat := 1024 * 1024 * 1024

/-- A maximum of zero is a flag for the update, which takes it out. -/
def maxGuestOf (hotplug : Bool) (memorySize : Nat) (current : Option Memory) : Option Nat :=
  if memorySize < enableMemoryHotplugThreshold then
    if 0 < ((current.bind Memory.maxGuest).getD 0) then some 0 else none
  else if hotplug then some maxMemorySizeForHotplug
  else none

def setMemoryHotpluggable (hotplug : Bool) (memorySize : Nat) (t : Template) : Template :=
  { t with
    memory := some ⟨memorySize, maxGuestOf hotplug memorySize t.memory⟩
    requests.memory := none
    limits := { t.limits with memory := none } }

def digitsValue (digits : List Char) : Option Nat :=
  if digits ≠ [] ∧ digits.all Char.isDigit then
    some (digits.foldl (fun value digit => 10 * value + (digit.toNat - 48)) 0)
  else none

def atoi (text : List Char) : Option Int :=
  let value := match text with
    | '-' :: digits => (digitsValue digits).map fun n => -(n : Int)
    | '+' :: digits => (digitsValue digits).map Int.ofNat
    | digits => (digitsValue digits).map Int.ofNat
  value.filter fun n => -2 ^ 63 ≤ n ∧ n < 2 ^ 63

def getIntOrPercentValueSafely (text : String) : Except String Int :=
  if text.toList.getLast? ≠ some '%' then .error "invalid type: string is not a percentage"
  else
    match atoi text.toList.dropLast with
    | some value => .ok value
    | none => .error ("invalid value \"" ++ text ++ "\"")

def parseCPUCoreFraction (cpuFraction : String) : Except String Int :=
  if cpuFraction = "" then .ok 100
  else (getIntOrPercentValueSafely cpuFraction).mapError ("invalid value for cpu core fraction: " ++ ·)

def maxCoresPerSocketLow : Int := 16
def maxCoresPerSocketHigh : Int := 31
def maxSocketsCount : Int := 8

def calculateCoresAndSockets (desiredCores : Int) : Int × Int × Int :=
  if desiredCores ≤ 0 then (1, 1, maxCoresPerSocketLow)
  else if desiredCores ≤ maxCoresPerSocketLow then (1, desiredCores, maxCoresPerSocketLow)
  else
    let (sockets, maxCoresPerSocket) :=
      if desiredCores ≤ maxCoresPerSocketLow * 2 then (2, maxCoresPerSocketLow)
      else if desiredCores ≤ maxCoresPerSocketLow * 4 then (4, maxCoresPerSocketLow)
      else (maxSocketsCount, maxCoresPerSocketHigh)
    (sockets, desiredCores / sockets + (if desiredCores % sockets ≠ 0 then 1 else 0), maxCoresPerSocket)

def toUint32 (n : Int) : Nat := (n % 2 ^ 32).toNat

/-- Cores and sockets are swapped. -/
def setCPUHotpluggable (t : Template) : Except String Template :=
  (parseCPUCoreFraction coreFraction).map fun fraction =>
    let (socketsNeeded, coresPerSocketNeeded, maxCoresPerSocketNeeded) := calculateCoresAndSockets cores
    let t := setKVVMIAnnotation cpuResourcesRequestsFractionAnnotation (toString fraction) t
    let t := setKVVMIAnnotation vcpuTopologyDynamicCoresAnnotation "" t
    { t with
      cpu := some { t.cpu.getD {} with
        cores := toUint32 socketsNeeded, sockets := toUint32 coresPerSocketNeeded
        maxSockets := toUint32 maxCoresPerSocketNeeded }
      requests := { t.requests with cpu := none }
      limits := { t.limits with cpu := none } }

end Domain

def genericSpec : VirtualMachineSpec := ⟨.generic, 2, "50%", 2 * enableMemoryHotplugThreshold⟩

end Virtualization.Machine.Builder
