import Mathlib.Data.List.Sort
import Mathlib.Data.String.Basic
import Virtualization.Core.Objects

namespace Virtualization.Disk

open Virtualization.Core

structure MapOrder where
  keys : List String → List String
  perm : ∀ names, (keys names).Perm names

def MapOrder.asListed : MapOrder := { keys := id, perm := fun _ => .refl _ }

variable (order : MapOrder) (c : Cluster) (vd : VirtualDisk) (vm : VirtualMachine)

def isVMActive : Bool :=
  match c.fetchKVVM vm.ns vm.name with
  | some kvvm => kvvm.stateChangeRequests ≠ [] ∨ podRunning
  | none => podRunning
where
  podRunning : Bool :=
    c.pods.any fun pod => pod.ns = vm.ns ∧ pod.virtualMachineName = vm.name ∧ pod.phase = .running

def hasBlockDeviceStatusRef (kind : BlockDeviceKind) (name : String) : Bool :=
  vm.statusRefs.any fun ref => ref.kind = kind ∧ ref.name = name

def blockDeviceUsage (kind : BlockDeviceKind) (name : String) : Bool × Bool :=
  if hasBlockDeviceStatusRef vm kind name then
    match vm.phase with
    | .unset => (true, false)
    | .stopped => (true, isVMActive c vm)
    | _ => (true, true)
  else (false, false)

def usageEntry : Option (String × Bool) :=
  match blockDeviceUsage c vm .diskDevice vd.name with
  | (false, _) => none
  | (true, mounted) => some (vm.name, mounted)

def virtualMachineUsageMap : List (String × Bool) :=
  (c.vms.filter (·.ns = vd.ns)).filterMap (usageEntry c vd)

def getCurrentlyMountedVMName : String :=
  match vd.attachedToVirtualMachines.find? AttachedVirtualMachine.mounted with
  | some attached => attached.name
  | none => ""

def mountFirst : List (String × Bool) → List AttachedVirtualMachine
  | [] => []
  | (name, true) :: rest => { name, mounted := true } :: rest.map fun other => { name := other.1, mounted := false }
  | (name, false) :: rest => { name, mounted := false } :: mountFirst rest

def attachedVirtualMachines (usage : List (String × Bool)) : List AttachedVirtualMachine :=
  let current := getCurrentlyMountedVMName vd
  let ranged := (order.keys (usage.map Prod.fst)).filterMap fun name =>
    (usage.lookup name).map fun mounted => (name, mounted)
  if usage.lookup current = some true then
    ranged.map fun entry => { name := entry.1, mounted := entry.1 = current }
  else mountFirst ranged

def checkUsageByVM : Bool := vd.attachedToVirtualMachines.any AttachedVirtualMachine.mounted

def sortStrings (names : List String) : List String := names.insertionSort (· ≤ ·)

def imagePhasesUsingDisk : List ImagePhase := [.provisioning, .pending]

def firstImage (kind : String) (names : List String) : String :=
  match sortStrings names with
  | [] => ""
  | name :: _ => kind ++ " " ++ quoted name

def checkUsageByVI : String :=
  firstImage "VirtualImage" (((c.vis.filter (·.ns = vd.ns)).filter fun vi =>
    vi.phase ∈ imagePhasesUsingDisk ∧
      vi.objectRef.any fun ref => ref.kind = .virtualDisk ∧ ref.name = vd.name).map VirtualImage.name)

/-- The namespace of the referenced disk is not looked at. -/
def checkUsageByCVI : String :=
  firstImage "ClusterVirtualImage" ((c.cvis.filter fun cvi =>
    cvi.phase ∈ imagePhasesUsingDisk ∧
      cvi.objectRef.any fun ref => ref.kind = .virtualDisk ∧ ref.name = vd.name).map ClusterVirtualImage.name)

def checkImageUsage : String :=
  if vd.phase ≠ .ready then ""
  else if checkUsageByVI c vd ≠ "" then checkUsageByVI c vd
  else checkUsageByCVI c vd

def checkDataExportUsage : Bool :=
  if vd.target = "" then false
  else
    match c.fetchPVC vd.ns vd.target with
    | none => false
    | some pvc => pvc.dataExportRequested

def mountedVirtualMachineNames : List String :=
  sortStrings ((vd.attachedToVirtualMachines.filter AttachedVirtualMachine.mounted).map AttachedVirtualMachine.name)

def inUseCondition : Condition VDConditionType VDConditionReason :=
  if checkUsageByVM vd then
    { type := .inUse, status := .conditionTrue, reason := .attachedToVirtualMachine
      message := inUseByVirtualMachinesMessage "VirtualDisk" (mountedVirtualMachineNames vd)
      observedGeneration := vd.generation }
  else if checkImageUsage c vd ≠ "" then
    { type := .inUse, status := .conditionTrue, reason := .usedForImageCreation
      message := "The VirtualDisk is in use for creating the " ++ checkImageUsage c vd ++
        "; the creation must finish to release the disk."
      observedGeneration := vd.generation }
  else if checkDataExportUsage c vd then
    { type := .inUse, status := .conditionTrue, reason := .usedForDataExport
      message := "The VirtualDisk is in use by a data export request; the export must finish to release the disk."
      observedGeneration := vd.generation }
  else
    { type := .inUse, status := .conditionFalse, reason := .notInUse, message := ""
      observedGeneration := vd.generation }

def updateAttachedVirtualMachines : VirtualDisk :=
  { vd with attachedToVirtualMachines := attachedVirtualMachines order vd (virtualMachineUsageMap c vd) }

def setInUseCondition : VirtualDisk :=
  { vd with conditions := setCondition (inUseCondition c vd) vd.conditions }

def inUseHandler : VirtualDisk :=
  setInUseCondition c (updateAttachedVirtualMachines order c vd)

def protectionHandler : VirtualDisk :=
  if checkUsageByVM vd = false ∨ vd.phase = .pending then
    { vd with finalizers := vd.finalizers.filter (· ≠ .vdProtection) }
  else if vd.deletionTimestamp = none ∧ .vdProtection ∉ vd.finalizers then
    { vd with finalizers := vd.finalizers ++ [.vdProtection] }
  else vd

end Virtualization.Disk
