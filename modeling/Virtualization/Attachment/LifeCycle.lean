import Virtualization.Attachment.Service

namespace Virtualization.Attachment

open Virtualization.Core Machine

inductive Read where
  | device | virtualMachine | kvvm | attachments | kvvmi | claim
deriving DecidableEq

inductive RequestOutcome where
  | accepted | outdated | doesNotExist | rejected
deriving DecidableEq

/-- What the API servers answer during a pass: the reads that fail, whether the node of an
    instance matches the affinity of a volume (`none` when one of them cannot be read), and
    what becomes of a request to plug or unplug. -/
structure Answers where
  failing : List Read
  nodeMatches : (volumeName nodeName : String) → Option Bool
  (addVolume removeVolume : RequestOutcome)

variable (answers : Answers) (c : Cluster) (vmbda : VMBDA) (phase : AttachmentPhase)

def isPVAvailableOnVMNode (pvc : PersistentVolumeClaim) (kvvmi : KVVMI) : Option Bool :=
  if pvc.volumeName = "" ∨ kvvmi.nodeName = "" then some true
  else answers.nodeMatches pvc.volumeName kvvmi.nodeName

structure Verdict where
  phase : AttachmentPhase
  status : ConditionStatus
  reason : AttachmentConditionReason
  message : String
  attachedTo : Option String
  request : Option Volume

def Verdict.gaveUp : Verdict := ⟨phase, .conditionUnknown, .unknown, "", none, none⟩

def Verdict.waiting (message : String) : Verdict := ⟨.pending, .conditionFalse, .notAttached, message, none, none⟩

def Verdict.inProgress (message : String) (request : Option Volume) : Verdict :=
  ⟨.inProgress, .conditionFalse, .attachmentRequestSent, message, none, request⟩

def conditionHolds (type : AttachmentConditionType) : Bool :=
  (getCondition type vmbda.conditions).1.status = .conditionTrue

def instanceNotReadyMessage (name : String) : String :=
  "VirtualMachine " ++ quoted name ++ " is Running, but its underlying virtualization instance is not ready yet."

def claimAvailable (ad : AttachmentDisk) (kvvmi : KVVMI) : Option Bool :=
  if ad.pvcName = "" then some true
  else if .claim ∈ answers.failing then none
  else
    match c.fetchPVC ad.ns ad.pvcName with
    | some pvc => isPVAvailableOnVMNode answers pvc kvvmi
    | none => some true

def sendRequest (ad : AttachmentDisk) (kvvmi : KVVMI) : Verdict :=
  if conditionHolds vmbda .diskAttachmentCapacityAvailable then
    match claimAvailable answers c ad kvvmi with
    | none => .gaveUp phase
    | some false =>
      ⟨.failed, .conditionFalse, .deviceNotAvailableOnNode, "The disk storage is not available on node " ++
        quoted kvvmi.nodeName ++ " where the VirtualMachine is running.", none, none⟩
    | some true =>
      match answers.addVolume, hotPlugVolume ad with
      | .accepted, some volume =>
        .inProgress "Attachment request has been sent: attachment is in progress." (some volume)
      | _, _ => .gaveUp phase
  else .waiting "Virtual machine block device capacity reached."

def hotPlug (ad : AttachmentDisk) (vm : VirtualMachine) (kvvm : KVVM) (kvvmi : KVVMI) : Verdict :=
  match canHotPlug ad vm kvvm with
  | .error .blockDeviceIsSpecAttached =>
    ⟨.failed, .conditionFalse, .conflict, capitalizeFirstLetter HotPlugError.blockDeviceIsSpecAttached.text, none,
      none⟩
  | can =>
    match isHotPlugged ad kvvmi with
    | .error (.volumeStatusNotReady message) =>
      .inProgress (capitalizeFirstLetter ((HotPlugError.volumeStatusNotReady message).text ++ ".")) none
    | .error _ => .gaveUp phase
    | .ok true => ⟨.attached, .conditionTrue, .attached, "", some vm.name, none⟩
    | .ok false =>
      match can with
      | .ok () => sendRequest answers c vmbda phase ad kvvmi
      | .error .hotPlugRequestAlreadySent =>
        .inProgress "Attachment request sent: attachment is in progress." none
      | .error _ => .gaveUp phase

def goAhead : Verdict :=
  if !conditionHolds vmbda .blockDeviceReady then .waiting "Waiting for block device to be ready."
  else if !conditionHolds vmbda .virtualMachineReady then .waiting "Waiting for virtual machine to be ready."
  else
    match attachmentDisk c vmbda.ns vmbda.blockDeviceRef, c.fetchVM vmbda.ns vmbda.virtualMachineName with
    | none, _ => .waiting ("Block device " ++ quoted vmbda.blockDeviceRef.name ++ " not found.")
    | some _, none => .waiting ("VirtualMachine " ++ quoted vmbda.virtualMachineName ++ " not found.")
    | some ad, some vm =>
      match c.fetchKVVM vm.ns vm.name with
      | none => .waiting (instanceNotReadyMessage vm.name)
      | some kvvm =>
        if .kvvmi ∈ answers.failing then .gaveUp phase
        else
          match c.fetchKVVMI vm.ns vm.name with
          | none => .waiting (instanceNotReadyMessage vm.name)
          | some kvvmi => hotPlug answers c vmbda phase ad vm kvvm kvvmi

def conflictMessage (conflictWithName : String) : String :=
  "Another VirtualMachineBlockDeviceAttachment " ++ vmbda.ns ++ "/" ++ conflictWithName ++
    " already exists with the same block device " ++ quoted vmbda.blockDeviceRef.name ++ " for hot-plugging."

def readsFail : Bool :=
  .device ∈ answers.failing ∨ .virtualMachine ∈ answers.failing ∨
    (c.fetchVM vmbda.ns vmbda.virtualMachineName).isSome ∧ .kvvm ∈ answers.failing

def listFails : Bool :=
  vmbda.blockDeviceRef.kind = .diskDevice ∧ .attachments ∈ answers.failing

def lifeCycleVerdict : Verdict :=
  if readsFail answers c vmbda then .gaveUp vmbda.phase
  else if vmbda.deletionTimestamp.isSome then ⟨.terminating, .conditionUnknown, .unknown, "", none, none⟩
  else if listFails answers vmbda then .gaveUp vmbda.phase
  else
    match isConflictedAttachment c vmbda with
    | some conflictWithName =>
      ⟨.failed, .conditionFalse, .conflict, conflictMessage vmbda conflictWithName, none, none⟩
    | none => goAhead answers c vmbda (if vmbda.phase = .unset then .pending else vmbda.phase)

def applyVerdict (verdict : Verdict) (vmbda : VMBDA) : VMBDA :=
  { vmbda with
    phase := verdict.phase
    attachedVirtualMachineName := verdict.attachedTo.getD vmbda.attachedVirtualMachineName
    conditions := setCondition ⟨.attached, verdict.status, verdict.reason, verdict.message, vmbda.generation⟩
      vmbda.conditions }

theorem getCondition_applyVerdict (verdict : Verdict) (vmbda : VMBDA) :
    getCondition .attached (applyVerdict verdict vmbda).conditions =
      (⟨.attached, verdict.status, verdict.reason, verdict.message, vmbda.generation⟩, true) := by
  let new : Condition AttachmentConditionType AttachmentConditionReason :=
    ⟨.attached, verdict.status, verdict.reason, verdict.message, vmbda.generation⟩
  exact getCondition_setCondition new vmbda.conditions

def lifeCycleHandler : VMBDA × Option Volume :=
  let verdict := lifeCycleVerdict answers c vmbda
  (applyVerdict verdict vmbda, verdict.request)

def replaceAttachment (old new : VMBDA) (c : Cluster) : Cluster :=
  { c with vmbdas := c.vmbdas.map fun vmbda => if vmbda = old then new else vmbda }

structure Target (c : Cluster) (vmbda : VMBDA) (ad : AttachmentDisk) (vm : VirtualMachine) (kvvm : KVVM) : Prop where
  device : attachmentDisk c vmbda.ns vmbda.blockDeviceRef = some ad
  machine : c.fetchVM vmbda.ns vmbda.virtualMachineName = some vm
  kvvm : c.fetchKVVM vm.ns vm.name = some kvvm

inductive Advance (c : Cluster) (vmbda : VMBDA) (phase : AttachmentPhase) : Verdict → Prop where
  | gaveUp : Advance c vmbda phase (.gaveUp phase)
  | waiting (message : String) : Advance c vmbda phase (.waiting message)
  | specAttached
      (target : Target c vmbda ad vm kvvm) (refused : canHotPlug ad vm kvvm = .error .blockDeviceIsSpecAttached) :
      Advance c vmbda phase ⟨.failed, .conditionFalse, .conflict, message, none, none⟩
  | notAvailable (message : String) :
      Advance c vmbda phase ⟨.failed, .conditionFalse, .deviceNotAvailableOnNode, message, none, none⟩
  | attached (name : String) : Advance c vmbda phase ⟨.attached, .conditionTrue, .attached, "", some name, none⟩
  | inProgress (message : String) : Advance c vmbda phase (.inProgress message none)
  | sent (target : Target c vmbda ad vm kvvm) (blockDeviceReady : conditionHolds vmbda .blockDeviceReady)
      (virtualMachineReady : conditionHolds vmbda .virtualMachineReady) (free : canHotPlug ad vm kvvm = .ok ())
      (asked : hotPlugVolume ad = some volume) : Advance c vmbda phase (.inProgress message (some volume))

section

variable {answers : Answers} {c : Cluster} {vmbda : VMBDA} {phase : AttachmentPhase} {ad : AttachmentDisk}
  {vm : VirtualMachine} {kvvm : KVVM}

section

variable (kvvmi : KVVMI) (target : Target c vmbda ad vm kvvm)
  (blockDeviceReady : conditionHolds vmbda .blockDeviceReady)
  (virtualMachineReady : conditionHolds vmbda .virtualMachineReady)
include target blockDeviceReady virtualMachineReady

theorem sendRequest_advance (free : canHotPlug ad vm kvvm = .ok ()) :
    Advance c vmbda phase (sendRequest answers c vmbda phase ad kvvmi) := by
  unfold sendRequest
  split
  · split
    · exact .gaveUp
    · exact .notAvailable _
    split
    · rename_i asked
      exact .sent target blockDeviceReady virtualMachineReady free asked
    · exact .gaveUp
  · exact .waiting _

theorem hotPlug_advance : Advance c vmbda phase (hotPlug answers c vmbda phase ad vm kvvm kvvmi) := by
  unfold hotPlug
  split
  · exact .specAttached target ‹_›
  split
  · exact .inProgress _
  · exact .gaveUp
  · exact .attached _
  split
  · exact sendRequest_advance kvvmi target blockDeviceReady virtualMachineReady ‹_›
  · exact .inProgress _
  · exact .gaveUp

end

theorem goAhead_advance : Advance c vmbda phase (goAhead answers c vmbda phase) := by
  unfold goAhead
  split
  · exact .waiting _
  rename_i blockDeviceReady
  split
  · exact .waiting _
  rename_i virtualMachineReady
  split
  · exact .waiting _
  · exact .waiting _
  rename_i device machine
  split
  · exact .waiting _
  rename_i found
  split
  · exact .gaveUp
  split
  · exact .waiting _
  exact hotPlug_advance _ ⟨device, machine, found⟩ (by simpa using blockDeviceReady)
    (by simpa using virtualMachineReady)

end

inductive Pass (c : Cluster) (vmbda : VMBDA) : Verdict → Prop where
  | gaveUp : Pass c vmbda (.gaveUp vmbda.phase)
  | terminating (deleted : vmbda.deletionTimestamp.isSome) :
      Pass c vmbda ⟨.terminating, .conditionUnknown, .unknown, "", none, none⟩
  | conflict (present : vmbda.deletionTimestamp = none)
      (conflicted : isConflictedAttachment c vmbda = some conflictWithName) :
      Pass c vmbda ⟨.failed, .conditionFalse, .conflict, message, none, none⟩
  | advance (present : vmbda.deletionTimestamp = none) (clear : isConflictedAttachment c vmbda = none)
      (advance : Advance c vmbda (if vmbda.phase = .unset then .pending else vmbda.phase) verdict) :
      Pass c vmbda verdict

theorem lifeCycleVerdict_pass : Pass c vmbda (lifeCycleVerdict answers c vmbda) := by
  unfold lifeCycleVerdict
  split
  · exact .gaveUp
  split
  · exact .terminating ‹_›
  rename_i present
  have alive : vmbda.deletionTimestamp = none := by simpa using present
  split
  · exact .gaveUp
  split
  · exact .conflict alive ‹_›
  · exact .advance alive ‹_› goAhead_advance

section

variable {c : Cluster} {vmbda : VMBDA} {verdict : Verdict}

theorem Advance.phase_ne_unset {phase : AttachmentPhase} (advance : Advance c vmbda phase verdict)
    (begun : phase ≠ .unset) : verdict.phase ≠ .unset := by
  cases advance <;> first | exact begun | simp [Verdict.waiting, Verdict.inProgress]

section

variable (pass : Pass c vmbda verdict)
include pass

theorem Pass.phase_ne_unset (begun : vmbda.phase ≠ .unset) : verdict.phase ≠ .unset := by
  cases pass with
  | gaveUp => exact begun
  | terminating | conflict => simp
  | advance _ _ advance => exact advance.phase_ne_unset (by simp [begun])

theorem Pass.phase_of_request (sent : verdict.request.isSome) : verdict.phase = .inProgress := by
  cases pass with
  | gaveUp | terminating | conflict => simp [Verdict.gaveUp] at sent
  | advance _ _ advance =>
    cases advance <;> first | rfl | simp [Verdict.gaveUp, Verdict.waiting] at sent

theorem Pass.sent {volume : Volume} (sent : verdict.request = some volume) :
    ∃ ad vm kvvm, Target c vmbda ad vm kvvm ∧ conditionHolds vmbda .blockDeviceReady ∧
      conditionHolds vmbda .virtualMachineReady ∧ canHotPlug ad vm kvvm = .ok () ∧ hotPlugVolume ad = some volume := by
  cases pass with
  | gaveUp | terminating | conflict => simp [Verdict.gaveUp] at sent
  | advance _ _ advance =>
    cases advance with
    | sent target blockDeviceReady virtualMachineReady free asked =>
      cases sent
      exact ⟨_, _, _, target, blockDeviceReady, virtualMachineReady, free, asked⟩
    | gaveUp | waiting | specAttached | notAvailable | attached | inProgress =>
      simp [Verdict.gaveUp, Verdict.waiting, Verdict.inProgress] at sent

theorem Pass.started (present : vmbda.deletionTimestamp = none) (started : Started (applyVerdict verdict vmbda)) :
    Started vmbda ∨ isConflictedAttachment c vmbda = none := by
  cases pass with
  | gaveUp => exact .inl started
  | terminating deleted => simp [present] at deleted
  | conflict => exact absurd rfl started.2
  | advance _ clear => exact .inr clear

theorem Pass.conflict_cause (conflict : verdict.reason = .conflict) : (isConflictedAttachment c vmbda).isSome ∨
      ∃ ad vm kvvm, Target c vmbda ad vm kvvm ∧ canHotPlug ad vm kvvm = .error .blockDeviceIsSpecAttached := by
  cases pass with
  | gaveUp | terminating => simp [Verdict.gaveUp] at conflict
  | conflict _ conflicted => exact .inl (by simp [conflicted])
  | advance _ _ advance =>
    cases advance with
    | specAttached target refused => exact .inr ⟨_, _, _, target, refused⟩
    | gaveUp | waiting | notAvailable | attached | inProgress | sent =>
      simp [Verdict.gaveUp, Verdict.waiting, Verdict.inProgress] at conflict

end

end

def newAttachment (name : String) : VMBDA :=
  { ns := "default", name, generation := 1, creationTimestamp := 5, deletionTimestamp := none, finalizers := []
    virtualMachineName := "web", blockDeviceRef := ⟨.diskDevice, "data"⟩, phase := .unset
    attachedVirtualMachineName := "", conditions := [] }

def runningWith (blockDeviceRefs : List BlockDeviceRef) (vmbdas : List VMBDA) : Cluster :=
  { vms := [{ ns := "default", name := "web", generation := 1, deletionTimestamp := none, runPolicy := .alwaysOn
              paravirtualizationEnabled := true, blockDeviceRefs, phase := .running, statusRefs := []
              conditions := [] }]
    kvvms := [{ ns := "default", name := "web", template := some [], runStrategy := some .always
                vmStartRequested := false, vmRestartRequested := false, printableStatus := .running
                synchronizedReason := .unset, stateChangeRequests := [], volumeRequests := [] }]
    kvvmis := [{ ns := "default", name := "web", phase := .running, nodeName := "node-1", volumes := []
                 volumeStatus := [] }]
    pods := []
    pvcs := [{ ns := "default", name := "pvc-data", phase := .bound, deletionTimestamp := none, finalizers := []
               dataExportRequested := false, volumeName := "pv-1" }]
    vds := [{ ns := "default", name := "data", generation := 1, observedGeneration := 1, deletionTimestamp := none
              finalizers := [], phase := .ready, target := "pvc-data", capacity := "1Gi"
              attachedToVirtualMachines := [], conditions := [] }]
    vis := []
    cvis := []
    vmbdas }

def answering (available : Bool) : Answers :=
  { failing := [], nodeMatches := fun _ _ => some available, addVolume := .accepted, removeVolume := .accepted }

def allReady : List (Condition AttachmentConditionType AttachmentConditionReason) :=
  [⟨.blockDeviceReady, .conditionTrue, .blockDeviceReady, "", 1⟩,
    ⟨.virtualMachineReady, .conditionTrue, .virtualMachineReady, "", 1⟩,
    ⟨.diskAttachmentCapacityAvailable, .conditionTrue, .capacityAvailable, "", 1⟩]

end Virtualization.Attachment
