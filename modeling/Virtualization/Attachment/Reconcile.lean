import Virtualization.Attachment.Deletion

namespace Virtualization.Attachment

open Virtualization.Core Machine

structure Finding where
  status : ConditionStatus
  reason : AttachmentConditionReason
  message : String

def Finding.unknown : Finding := ⟨.conditionUnknown, .unknown, ""⟩

def Finding.deviceNotReady (message : String) : Finding := ⟨.conditionFalse, .blockDeviceNotReady, message⟩

def setFinding (type : AttachmentConditionType) (finding : Finding) (vmbda : VMBDA) : VMBDA :=
  { vmbda with
    conditions := setCondition ⟨type, finding.status, finding.reason, finding.message, vmbda.generation⟩
      vmbda.conditions }

variable (answers : Answers) (c : Cluster) (vmbda : VMBDA)

def countBlockDevicesAttachedToVMName (vmName ns : String) : Nat :=
  ((c.fetchVM ns vmName).map (·.blockDeviceRefs.length)).getD 0 +
    (c.vmbdas.filter fun vmbda => vmbda.ns = ns ∧ vmbda.virtualMachineName = vmName).length

def capacityFinding (count : Nat) (vmName : String) : Finding :=
  if count ≤ vmBlockDeviceAttachedLimit then ⟨.conditionTrue, .capacityAvailable, ""⟩
  else
    ⟨.conditionFalse, .capacityReached, s!"Cannot attach {count} block devices to VirtualMachine " ++ quoted vmName ++
      s!": the maximum is {vmBlockDeviceAttachedLimit}."⟩

def blockDeviceLimiter : VMBDA :=
  if .virtualMachine ∈ answers.failing ∨ .attachments ∈ answers.failing then vmbda
  else
    setFinding .diskAttachmentCapacityAvailable
      (if vmbda.deletionTimestamp.isSome then ⟨.conditionUnknown, .capacityUnknown, ""⟩
      else capacityFinding (countBlockDevicesAttachedToVMName c vmbda.virtualMachineName vmbda.ns)
        vmbda.virtualMachineName) vmbda

def claimFinding (ad : AttachmentDisk) (kind key : String) (mustBeBound : Bool) : Finding :=
  if .claim ∈ answers.failing then .unknown
  else
    match c.fetchPVC ad.ns ad.pvcName with
    | none => .deviceNotReady ("The " ++ kind ++ " " ++ key ++ " storage was not found.")
    | some pvc =>
      if mustBeBound ∧ pvc.phase ≠ .bound then
        .deviceNotReady ("The " ++ kind ++ " " ++ key ++ " storage is not ready yet.")
      else ⟨.conditionTrue, .blockDeviceReady, ""⟩

def diskReadyOrMigrating (vd : VirtualDisk) : Bool := vd.phase = .ready ∨ vd.phase = .migrating

def validateVirtualDiskReady : Finding :=
  let key := quoted (vmbda.ns ++ "/" ++ vmbda.blockDeviceRef.name)
  match c.fetchVD vmbda.ns vmbda.blockDeviceRef.name with
  | none => .deviceNotReady ("VirtualDisk " ++ key ++ " not found.")
  | some vd =>
    if vd.deletionTimestamp.isSome then
      .deviceNotReady ("VirtualDisk " ++ key ++ " is being deleted. Delete VirtualMachineBlockDeviceAttachment to " ++
        "detach disk from the VirtualMachine.")
    else if vd.generation ≠ vd.observedGeneration then
      .deviceNotReady ("Waiting for the VirtualDisk " ++ key ++ " to be observed in its latest state generation.")
    else if !diskReadyOrMigrating vd ∧ vd.phase ≠ .waitForFirstConsumer then
      .deviceNotReady ("VirtualDisk " ++ key ++ " is not ready to be attached to the virtual machine: waiting for " ++
        "the VirtualDisk to be ready for attachment.")
    else if diskReadyOrMigrating vd ∧ (getCondition .ready vd.conditions).1.status ≠ .conditionTrue then
      .deviceNotReady ("VirtualDisk " ++ key ++ " is not Ready: waiting for the VirtualDisk to be Ready.")
    else if vd.target = "" then
      .deviceNotReady ("Waiting for the VirtualDisk " ++ key ++ " storage to be provisioned.")
    else claimFinding answers c (newAttachmentDiskFromVirtualDisk vd) "VirtualDisk" key (diskReadyOrMigrating vd)

def virtualImageFinding : Finding :=
  let key := quoted (vmbda.ns ++ "/" ++ vmbda.blockDeviceRef.name)
  match c.fetchVI vmbda.ns vmbda.blockDeviceRef.name with
  | none => .deviceNotReady ("VirtualImage " ++ key ++ " not found.")
  | some vi =>
    if vi.deletionTimestamp.isSome then
      .deviceNotReady ("VirtualImage " ++ key ++ " is being deleted. Delete VirtualMachineBlockDeviceAttachment to " ++
        "detach image from the VirtualMachine.")
    else if vi.generation ≠ vi.observedGeneration then
      .deviceNotReady ("Waiting for the VirtualImage " ++ key ++ " changes to be processed.")
    else if vi.phase ≠ .ready then
      .deviceNotReady ("VirtualImage " ++ key ++ " is not ready to be attached to the virtual machine: waiting for " ++
        "the VirtualImage to be ready for attachment.")
    else if vi.storage = .containerRegistry then
      if vi.registryURL = "" then
        .deviceNotReady ("Waiting for the VirtualImage " ++ key ++ " to be published and become available.")
      else ⟨.conditionTrue, .blockDeviceReady, ""⟩
    else if vi.target = "" then
      .deviceNotReady ("Waiting for the VirtualImage " ++ key ++ " storage to be provisioned.")
    else claimFinding answers c (newAttachmentDiskFromVirtualImage vi) "VirtualImage" key true

def clusterVirtualImageFinding : Finding :=
  let key := quoted ("/" ++ vmbda.blockDeviceRef.name)
  match c.fetchCVI vmbda.blockDeviceRef.name with
  | none => .deviceNotReady ("ClusterVirtualImage " ++ key ++ " not found.")
  | some cvi =>
    if cvi.deletionTimestamp.isSome then
      .deviceNotReady ("ClusterVirtualImage " ++ key ++ " is being deleted. Delete " ++
        "VirtualMachineBlockDeviceAttachment to detach image from the VirtualMachine.")
    else if cvi.generation ≠ cvi.observedGeneration then
      .deviceNotReady ("Waiting for the ClusterVirtualImage " ++ key ++ " changes to be processed.")
    else if cvi.phase ≠ .ready then
      .deviceNotReady ("ClusterVirtualImage " ++ key ++ " is not ready to be attached to the virtual machine: " ++
        "waiting for the ClusterVirtualImage to be ready for attachment.")
    else if cvi.registryURL = "" then
      .deviceNotReady ("Waiting for the ClusterVirtualImage " ++ key ++ " to be published and become available.")
    else ⟨.conditionTrue, .blockDeviceReady, ""⟩

def blockDeviceFinding : Finding :=
  if vmbda.deletionTimestamp.isSome ∨ .device ∈ answers.failing then .unknown
  else
    match vmbda.blockDeviceRef.kind with
    | .diskDevice => validateVirtualDiskReady answers c vmbda
    | .imageDevice => virtualImageFinding answers c vmbda
    | .clusterImageDevice => clusterVirtualImageFinding c vmbda

def blockDeviceReadyHandler : VMBDA :=
  setFinding .blockDeviceReady (blockDeviceFinding answers c vmbda) vmbda

def Finding.machineNotReady (message : String) : Finding := ⟨.conditionFalse, .virtualMachineNotReady, message⟩

def instanceFinding (vm : VirtualMachine) : Finding :=
  let key := vm.ns ++ "/" ++ vm.name
  if .kvvm ∈ answers.failing then .unknown
  else if c.fetchKVVM vm.ns vm.name = none then .machineNotReady (instanceNotReadyMessage key)
  else if .kvvmi ∈ answers.failing then .unknown
  else if c.fetchKVVMI vm.ns vm.name = none then .machineNotReady (instanceNotReadyMessage key)
  else ⟨.conditionTrue, .virtualMachineReady, ""⟩

def waitForRunning (vm : VirtualMachine) (phase : String) (vmbda : VMBDA) : VMBDA :=
  setFinding .virtualMachineReady ⟨.conditionFalse, .notAttached, "VirtualMachine " ++ quoted vm.name ++ " is " ++
    phase ++ ": waiting for the VirtualMachine to be Running."⟩ { vmbda with phase := .pending }

def virtualMachineReadyHandler : VMBDA :=
  let key := quoted (vmbda.ns ++ "/" ++ vmbda.virtualMachineName)
  if vmbda.deletionTimestamp.isSome ∨ .virtualMachine ∈ answers.failing then
    setFinding .virtualMachineReady .unknown vmbda
  else
    match c.fetchVM vmbda.ns vmbda.virtualMachineName with
    | none => setFinding .virtualMachineReady (.machineNotReady ("VirtualMachine " ++ key ++ " not found.")) vmbda
    | some vm =>
      match vm.phase with
      | .running | .migrating => setFinding .virtualMachineReady (instanceFinding answers c vm) vmbda
      | .stopping => waitForRunning vm "Stopping" vmbda
      | .stopped => waitForRunning vm "Stopped" vmbda
      | .starting => waitForRunning vm "Starting" vmbda
      | .unset | .pending | .terminating | .pause | .degraded =>
        setFinding .virtualMachineReady
          (.machineNotReady ("Waiting for the VirtualMachine " ++ key ++ " to be Running.")) vmbda

def reconcileAttachment : VMBDA × List VolumeRequest :=
  let ready := virtualMachineReadyHandler answers c
    (blockDeviceReadyHandler answers c (blockDeviceLimiter answers c vmbda))
  let plugged := lifeCycleHandler answers c ready
  let unplugged := deletionHandler answers c plugged.1
  (unplugged.1, plugged.2.toList.map .addVolume ++ unplugged.2.toList.map .removeVolume)

end Virtualization.Attachment
