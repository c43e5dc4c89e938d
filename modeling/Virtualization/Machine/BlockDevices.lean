import Virtualization.Disk.InUse
import Virtualization.Machine.ClaimProtection
import Virtualization.Machine.VolumeNames

namespace Virtualization.Machine

open Virtualization.Core Disk

def vmBlockDeviceAttachedLimit : Nat := 16

def BlockDeviceStatusRef.key (ref : BlockDeviceStatusRef) : BlockDeviceRef := ⟨ref.kind, ref.name⟩

variable (vd : VirtualDisk) (order : MapOrder) (c : Cluster) (vm : VirtualMachine)
  (condition : Condition VDConditionType VDConditionReason)

def bdRefs : List BlockDeviceRef :=
  (vm.blockDeviceRefs ++ vm.statusRefs.map BlockDeviceStatusRef.key).dedup

def diskNames : List String :=
  ((bdRefs vm).filter (·.kind = .diskDevice)).map BlockDeviceRef.name

def virtualDisksByName : List VirtualDisk :=
  (order.keys (diskNames vm)).filterMap fun name => c.fetchVD vm.ns name

def virtualMachineBlockDeviceAttachments : List VirtualMachineBlockDeviceAttachment :=
  c.vmbdas.filter fun vmbda => vmbda.ns = vm.ns ∧ vmbda.virtualMachineName = vm.name

def countBlockDevicesAttachedToVM : Nat :=
  vm.blockDeviceRefs.length + (virtualMachineBlockDeviceAttachments c vm).length

structure VirtualDisksState where
  (readyToUse creatingImage onOtherVMs : Nat)
  (imageCreation usedByOtherVM : String)

def checkVDToUseVM : Bool :=
  vd.attachedToVirtualMachines.any (·.name = vm.name)

def checkVMToMountVD : Bool :=
  match vd.attachedToVirtualMachines.find? (·.name = vm.name) with
  | some attached => attached.mounted
  | none => false

variable (state : VirtualDisksState) (vds : List VirtualDisk)

def handleImageCreationDisk : VirtualDisksState :=
  if condition.status = .conditionTrue ∧ condition.reason = .usedForImageCreation then
    { state with creatingImage := state.creatingImage + 1, imageCreation := vd.name }
  else state

def handleAttachedDisk : VirtualDisksState :=
  if condition.status = .conditionTrue ∧ condition.reason = .attachedToVirtualMachine then
    if checkVMToMountVD vd vm then { state with readyToUse := state.readyToUse + 1 }
    else { state with onOtherVMs := state.onOtherVMs + 1, usedByOtherVM := vd.name }
  else state

def handleReadyForUseDisk : VirtualDisksState :=
  if condition.status ≠ .conditionTrue ∧ vm.phase = .stopped ∧ checkVDToUseVM vd vm then
    { state with readyToUse := state.readyToUse + 1 }
  else state

def handleDisk (vd : VirtualDisk) : VirtualDisksState :=
  let condition := (getCondition .inUse vd.conditions).1
  if isLastUpdated condition vd.generation then
    handleReadyForUseDisk vd vm condition
      (handleAttachedDisk vd vm condition (handleImageCreationDisk vd condition state))
  else state

def getVirtualDisksState : VirtualDisksState :=
  vds.foldl (handleDisk vm)
    { readyToUse := 0, creatingImage := 0, onOtherVMs := 0, imageCreation := "", usedByOtherVM := "" }

def usageMessage (count summaryCount : Nat) (name usageType : String) : List String :=
  if count = 0 then []
  else if count = 1 then ["Virtual disk " ++ quoted name ++ " is in use " ++ usageType]
  else [s!"Virtual disks {count}/{summaryCount} are in use {usageType}"]

def getStatusMessage : String :=
  let messages :=
    s!"Waiting for block devices to be ready to use: {state.readyToUse}/{vds.length}" ::
      (usageMessage state.creatingImage vds.length state.imageCreation "for image creation" ++
        usageMessage state.onOtherVMs vds.length state.usedByOtherVM "by another VM")
  match vds with
  | [vd] =>
    if state.creatingImage = 1 ∨ state.onOtherVMs = 1 then messages.getLast?.getD "" ++ "."
    else "Waiting for block device " ++ quoted vd.name ++ " to be ready to use."
  | _ => "; ".intercalate messages ++ "."

def blockDevicesCondition (status : ConditionStatus) (reason : VMConditionReason)
    (message : String) : Condition VMConditionType VMConditionReason :=
  { type := .blockDevicesReady, status, reason, message, observedGeneration := vm.generation }

structure ReadyCount where
  ready : Nat
  canStartKVVM : Bool
  warnings : List String

def countReadyDevice (wffc : Bool) (count : ReadyCount) (bd : BlockDeviceRef) : ReadyCount :=
  match bd.kind with
  | .imageDevice =>
    if (c.fetchVI vm.ns bd.name).any (·.phase = .ready) then { count with ready := count.ready + 1 }
    else { count with canStartKVVM := false }
  | .clusterImageDevice =>
    if (c.fetchCVI bd.name).any (·.phase = .ready) then { count with ready := count.ready + 1 }
    else { count with canStartKVVM := false }
  | .diskDevice =>
    match c.fetchVD vm.ns bd.name with
    | none => { count with canStartKVVM := false }
    | some vd =>
      if vd.target = "" then { count with canStartKVVM := false }
      else if vd.deletionTimestamp.isSome then
        { count with
          canStartKVVM := false
          warnings := count.warnings ++ [s!"Virtual disk {vd.name} is terminating"] }
      else if (getCondition .ready vd.conditions).1.status = .conditionTrue then
        { count with ready := count.ready + 1 }
      else
        let waiting :=
          if wffc ∧ vm.phase = .stopped then "the virtual machine to start" else "its storage to be provisioned"
        { count with
          warnings := count.warnings ++ ["Virtual disk " ++ quoted vd.name ++ " is waiting for " ++ waiting] }

def countReadyBlockDevices (wffc : Bool) : ReadyCount :=
  vm.blockDeviceRefs.foldl (countReadyDevice c vm wffc) { ready := 0, canStartKVVM := true, warnings := [] }

def checkVirtualDisksToBeWFFC : Bool := vds.any (·.phase = .waitForFirstConsumer)

inductive Readiness where
  | ready
  | waitForProvisioning (message : String)
  | notReady (message : String)

def handleBlockDevicesReady : Readiness :=
  let isWFFC := checkVirtualDisksToBeWFFC (virtualDisksByName order c vm)
  let count := countReadyBlockDevices c vm isWFFC
  if vm.blockDeviceRefs.length = count.ready then .ready
  else
    let summary :=
      match vm.blockDeviceRefs with
      | [bd] => "Waiting for block device " ++ quoted bd.name ++ " to be ready"
      | refs => s!"Waiting for block devices to be ready: {count.ready}/{refs.length}"
    let message := "; ".intercalate (summary :: count.warnings) ++ "."
    if count.canStartKVVM ∧ isWFFC then .waitForProvisioning message else .notReady message

def handleVirtualDisksReadyForUse : Option String :=
  let vds := virtualDisksByName order c vm
  let state := getVirtualDisksState vm vds
  if vds.length = state.readyToUse then none else some (getStatusMessage state vds)

def conflictedRefs : List BlockDeviceRef :=
  vm.blockDeviceRefs.filter fun bd =>
    (virtualMachineBlockDeviceAttachments c vm).any (·.blockDeviceRef = bd)

def kindText : BlockDeviceKind → String
  | .diskDevice => "virtualdisk"
  | .imageDevice => "virtualimage"
  | .clusterImageDevice => "clustervirtualimage"

def getBlockDeviceWarnings : String :=
  match conflictedRefs c vm with
  | [] => ""
  | refs =>
    "spec.blockDeviceRefs field contains block devices to hotplug (" ++
      ", ".intercalate (refs.map fun bd => kindText bd.kind ++ "/" ++ bd.name) ++
      "): unplug or remove them from spec to continue."

def getBlockDeviceRefSize (ns : String) (bd : BlockDeviceRef) : String :=
  match bd.kind with
  | .imageDevice => ((c.fetchVI ns bd.name).map VirtualImage.sizeUnpacked).getD ""
  | .diskDevice => ((c.fetchVD ns bd.name).map VirtualDisk.capacity).getD ""
  | .clusterImageDevice => ((c.fetchCVI bd.name).map ClusterVirtualImage.sizeUnpacked).getD ""

def volumeStatusByName (kvvmi : Option KVVMI) (name : String) : Option VolumeStatus :=
  kvvmi.bind fun kvvmi => kvvmi.volumeStatus.reverse.find? (·.name = name)

def isHotplugged (volume : Volume) (status : Option VolumeStatus) : Bool :=
  status.any VolumeStatus.hotplugVolume ||
    match volume.source with
    | .persistentVolumeClaim _ hotpluggable => hotpluggable
    | .containerDisk hotpluggable => hotpluggable
    | _ => false

def getBlockDeviceAttachmentName (bd : BlockDeviceRef) : String :=
  match (virtualMachineBlockDeviceAttachments c vm).find? (·.blockDeviceRef = bd) with
  | some vmbda => vmbda.name
  | none => ""

def resolverSeeds : List BlockDeviceRef :=
  vm.blockDeviceRefs ++ (virtualMachineBlockDeviceAttachments c vm).map
    VirtualMachineBlockDeviceAttachment.blockDeviceRef

def specStatusRef (ns : String) (bd : BlockDeviceRef) : BlockDeviceStatusRef :=
  { kind := bd.kind, name := bd.name, size := getBlockDeviceRefSize c ns bd, attached := false, hotplugged := false
    virtualMachineBlockDeviceAttachmentName := "" }

def volumeStatusRef (kvvmi : Option KVVMI) (volume : Volume) (bd : BlockDeviceRef) : BlockDeviceStatusRef :=
  let hotplugged := isHotplugged volume (volumeStatusByName kvvmi volume.name)
  { kind := bd.kind, name := bd.name, size := getBlockDeviceRefSize c vm.ns bd
    attached := (volumeStatusByName kvvmi volume.name).isSome, hotplugged
    virtualMachineBlockDeviceAttachmentName :=
      if hotplugged ∧ bd ∉ vm.blockDeviceRefs then getBlockDeviceAttachmentName c vm bd else "" }

def volumeStatusRefs (volumes : List Volume) : List BlockDeviceStatusRef :=
  volumes.filterMap fun volume =>
    (resolve (resolverSeeds c vm) volume.name).map fun bd =>
      volumeStatusRef c vm (c.fetchKVVMI vm.ns vm.name) volume bd

def missingRefs (attached : List BlockDeviceStatusRef) : List BlockDeviceRef :=
  vm.blockDeviceRefs.filter (· ∉ attached.map BlockDeviceStatusRef.key)

/-- The devices of the KVVM volumes, then those of the specification that are not among them.
    A KVVM without a template is an error. -/
def getBlockDeviceStatusRefs : Option (List BlockDeviceStatusRef) :=
  match c.fetchKVVM vm.ns vm.name with
  | none => some (vm.blockDeviceRefs.map (specStatusRef c vm.ns))
  | some kvvm =>
    kvvm.template.map fun volumes =>
      volumeStatusRefs c vm volumes ++
        (missingRefs vm (volumeStatusRefs c vm volumes)).map (specStatusRef c vm.ns)

def blockDevicesVerdict : Condition VMConditionType VMConditionReason :=
  let warning := getBlockDeviceWarnings c vm
  if warning ≠ "" then blockDevicesCondition vm .conditionFalse .blockDevicesNotReady warning
  else
    match handleBlockDevicesReady order c vm, handleVirtualDisksReadyForUse order c vm with
    | .notReady message, _ => blockDevicesCondition vm .conditionFalse .blockDevicesNotReady message
    | _, some message => blockDevicesCondition vm .conditionFalse .blockDevicesNotReady message
    | .waitForProvisioning message, none =>
      blockDevicesCondition vm .conditionFalse .waitingForWaitForFirstConsumerBlockDevicesToBeReady message
    | .ready, none => blockDevicesCondition vm .conditionTrue .blockDevicesReady ""

def setBlockDevicesCondition (condition : Condition VMConditionType VMConditionReason) (vm : VirtualMachine) :
    VirtualMachine := { vm with conditions := setCondition condition vm.conditions }

def blockDevicesStatus (current changed : VirtualMachine) : VirtualMachine :=
  let count := countBlockDevicesAttachedToVM c current
  if count > vmBlockDeviceAttachedLimit then
    setBlockDevicesCondition (blockDevicesCondition current .conditionFalse .blockDeviceLimitExceeded
      (s!"Cannot attach {count} block devices ({vmBlockDeviceAttachedLimit} is maximum) to VirtualMachine " ++
        quoted current.name)) changed
  else
    match getBlockDeviceStatusRefs c current with
    | none => changed
    | some statusRefs => setBlockDevicesCondition (blockDevicesVerdict order c current) { changed with statusRefs }

def addFinalizer (finalizer : Finalizer) (deletionTimestamp : Option Int) (finalizers : List Finalizer) :
    List Finalizer :=
  if deletionTimestamp.isSome ∨ finalizer ∈ finalizers then finalizers else finalizers ++ [finalizer]

def removeFinalizer (finalizer : Finalizer) (finalizers : List Finalizer) : List Finalizer :=
  finalizers.filter (· ≠ finalizer)

def updateDeviceFinalizers (update : Finalizer → Option Int → List Finalizer → List Finalizer) (ns : String)
    (c : Cluster) (bd : BlockDeviceRef) : Cluster :=
  match bd.kind with
  | .imageDevice =>
    { c with vis := c.vis.map fun vi =>
        if vi.ns = ns ∧ vi.name = bd.name then
          { vi with finalizers := update .viProtection vi.deletionTimestamp vi.finalizers }
        else vi }
  | .clusterImageDevice =>
    { c with cvis := c.cvis.map fun cvi =>
        if cvi.name = bd.name then
          { cvi with finalizers := update .cviProtection cvi.deletionTimestamp cvi.finalizers }
        else cvi }
  | .diskDevice =>
    { c with vds := c.vds.map fun vd =>
        if vd.ns = ns ∧ vd.name = bd.name then
          { vd with finalizers := update .vdProtection vd.deletionTimestamp vd.finalizers }
        else vd }

def setFinalizersOnBlockDevices : Cluster :=
  vm.blockDeviceRefs.foldl (updateDeviceFinalizers addFinalizer vm.ns) c

def removeFinalizersOnBlockDevices : Cluster :=
  vm.blockDeviceRefs.foldl (updateDeviceFinalizers (fun finalizer _ => removeFinalizer finalizer) vm.ns) c

def blockDeviceHandler (faults : Faults) (c : Cluster) (current : VirtualMachine) : Cluster × VirtualMachine :=
  let changed :=
    if (getCondition .blockDevicesReady current.conditions).2 then current
    else setBlockDevicesCondition (blockDevicesCondition current .conditionUnknown .unknown "") current
  if current.deletionTimestamp.isSome then (removeFinalizersOnBlockDevices c changed, changed)
  else
    let c := setFinalizersOnBlockDevices c changed
    match reconcilePVCProtection faults c changed.ns with
    | (pvcs, some _) => ({ c with pvcs }, changed)
    | (pvcs, none) => ({ c with pvcs }, blockDevicesStatus order { c with pvcs } current changed)

end Virtualization.Machine
