import Virtualization.Attachment.LifeCycle
import Virtualization.Library.Run
import Virtualization.Machine.BlockDevices

namespace Virtualization.Attachment

open Virtualization.Core Machine

def kindName : BlockDeviceKind → String
  | .diskDevice => "VirtualDisk"
  | .imageDevice => "VirtualImage"
  | .clusterImageDevice => "ClusterVirtualImage"

variable (vmbda : VMBDA)

def detachPendingMessage : String :=
  "Waiting for the " ++ kindName vmbda.blockDeviceRef.kind ++ " " ++ quoted vmbda.blockDeviceRef.name ++
    " to detach from the VirtualMachine " ++ quoted vmbda.virtualMachineName

def setTerminatingCondition : VMBDA :=
  { vmbda with
    conditions := setCondition ⟨.terminating, .conditionTrue, .detachPending,
      truncateMessage (capitalizeFirstLetter (detachPendingMessage vmbda) ++ "."), vmbda.generation⟩
      vmbda.conditions }

def holdFinalizer : VMBDA :=
  { vmbda with
    finalizers := if .vmbdaCleanup ∈ vmbda.finalizers then vmbda.finalizers else vmbda.finalizers ++ [.vmbdaCleanup] }

def clearTerminating : VMBDA :=
  { vmbda with conditions := removeCondition .terminating vmbda.conditions }

def releaseFinalizer : VMBDA :=
  { vmbda with finalizers := removeFinalizer .vmbdaCleanup vmbda.finalizers }

def deletionHandler (answers : Answers) (c : Cluster) (vmbda : VMBDA) : VMBDA × Option String :=
  if vmbda.deletionTimestamp = none then (clearTerminating (holdFinalizer vmbda), none)
  else if .virtualMachine ∈ answers.failing ∨ .kvvm ∈ answers.failing then (holdFinalizer vmbda, none)
  else if isAttached (c.fetchVM vmbda.ns vmbda.virtualMachineName) (c.fetchKVVM vmbda.ns vmbda.virtualMachineName)
      vmbda then
    (setTerminatingCondition (holdFinalizer vmbda),
      if answers.removeVolume = .accepted then some (generateVMBDADiskName vmbda.blockDeviceRef) else none)
  else (releaseFinalizer (clearTerminating (holdFinalizer vmbda)), none)

def Released (before after : VMBDA) : Prop :=
  .vmbdaCleanup ∈ before.finalizers ∧ .vmbdaCleanup ∉ after.finalizers
deriving Decidable

section

variable {answers : Answers} {c : Cluster} {vmbda : VMBDA}

theorem deletionHandler_released (released : Released vmbda (deletionHandler answers c vmbda).1) :
    vmbda.deletionTimestamp ≠ none ∧
      isAttached (c.fetchVM vmbda.ns vmbda.virtualMachineName)
        (c.fetchKVVM vmbda.ns vmbda.virtualMachineName) vmbda = false := by
  obtain ⟨held, gone⟩ := released
  unfold deletionHandler at gone
  have kept : .vmbdaCleanup ∈ (holdFinalizer vmbda).finalizers := by simp [holdFinalizer, held]
  split at gone
  · exact absurd kept gone
  rename_i deleted
  split at gone
  · exact absurd kept gone
  split at gone
  · exact absurd kept gone
  rename_i detached
  exact ⟨deleted, by simpa using detached⟩

theorem deletionHandler_unplugs {volume : String} (unplugged : (deletionHandler answers c vmbda).2 = some volume) :
    vmbda.deletionTimestamp ≠ none ∧ volume = generateVMBDADiskName vmbda.blockDeviceRef ∧
      isAttached (c.fetchVM vmbda.ns vmbda.virtualMachineName)
        (c.fetchKVVM vmbda.ns vmbda.virtualMachineName) vmbda := by
  unfold deletionHandler at unplugged
  split at unplugged
  · cases unplugged
  rename_i deleted
  split at unplugged
  · cases unplugged
  split at unplugged
  · rename_i attached
    simp only [Option.ite_none_right_eq_some, Option.some.injEq] at unplugged
    exact ⟨deleted, unplugged.2.symm, attached⟩
  · cases unplugged

end

end Virtualization.Attachment
