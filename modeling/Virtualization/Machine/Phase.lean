import Virtualization.Core.Objects

namespace Virtualization.Machine

open Virtualization.Core

def virtualMachineDependenciesAreReady (vm : VirtualMachine) : Bool :=
  vm.conditions.all fun c =>
    match c.type with
    | .blockDevicesReady =>
      ¬ (c.status ≠ .conditionTrue ∧ c.reason ≠ .waitingForWaitForFirstConsumerBlockDevicesToBeReady)
    | .snapshotting => ¬ (c.status = .conditionTrue ∧ c.reason = .snapshottingInProgress)
    | .ipAddressReady => ¬ (c.status ≠ .conditionTrue ∧ c.reason ≠ .ipAddressNotAssigned)
    | .provisioningReady | .classReady | .sizingPolicyMatched | .macAddressReady => c.status = .conditionTrue
    | .networkReady => ¬ (c.status = .conditionFalse ∧ c.reason = .sdnModuleDisabled)

variable (vm : Option VirtualMachine)

/-- The phase of a VM whose KVVM is stopped. A transient stop shows as Pending while the KVVM
    is expected to start by itself. -/
def stoppedPhase (kvvm : KVVM) : MachinePhase :=
  match vm with
  | none => .stopped
  | some vm =>
    if virtualMachineDependenciesAreReady vm = false ∧ kvvm.vmStartRequested then .pending
    else if vm.phase = .pending ∧ vm.runPolicy = .alwaysOn then .pending
    else if vm.phase = .pending ∧ vm.runPolicy = .alwaysOnUnlessStoppedManually ∧
        (kvvm.runStrategy ≠ some .manual ∨ kvvm.vmStartRequested ∨ kvvm.vmRestartRequested) then .pending
    else .stopped

def mapPhases (status : PrintableStatus) (vm : Option VirtualMachine) (kvvm : KVVM) : Option MachinePhase :=
  match status with
  | .stopped => some (stoppedPhase vm kvvm)
  | .provisioning => some .starting
  | .starting =>
    if kvvm.synchronizedReason = .failedCreatePod ∨ kvvm.synchronizedReason = .failedBackendStorageCreate then
      some .pending
    else some .starting
  | .running => some .running
  | .paused => some .pause
  | .stopping => some .stopping
  | .terminating => some .terminating
  | .migrating | .waitingForReceiver => some .migrating
  | .crashLoopBackOff | .unknown | .unschedulable | .errImagePull | .imagePullBackOff | .pvcNotFound
  | .dataVolumeError | .waitingForVolumeBinding | .unset => some .pending
  | .unmapped => none

def getPhase (kvvm : Option KVVM) : MachinePhase :=
  match kvvm with
  | none => .pending
  | some kvvm =>
    match mapPhases kvvm.printableStatus vm kvvm with
    | some phase => phase
    | none => .pending

def PhaseComputed (c : Cluster) (vm : VirtualMachine) : Prop :=
  ∃ before : MachinePhase, vm.phase = getPhase (some { vm with phase := before }) (c.fetchKVVM vm.ns vm.name)

theorem stoppedPhase_cases (kvvm : KVVM) : stoppedPhase vm kvvm = .pending ∨ stoppedPhase vm kvvm = .stopped := by
  unfold stoppedPhase
  split
  · exact .inr rfl
  iterate 3
    split
    · exact .inl rfl
  · exact .inr rfl

theorem mapPhases_range {status : PrintableStatus} {vm : Option VirtualMachine} {kvvm : KVVM} {phase : MachinePhase}
    (mapped : mapPhases status vm kvvm = some phase) : phase ≠ .unset ∧ phase ≠ .degraded := by
  cases status with
  | stopped =>
    cases mapped
    rcases stoppedPhase_cases vm kvvm with stopped | stopped <;> simp [stopped]
  | starting =>
    simp only [mapPhases] at mapped
    split at mapped <;> cases mapped <;> simp
  | unmapped => cases mapped
  | _ => cases mapped; simp

theorem getPhase_range (kvvm : Option KVVM) : getPhase vm kvvm ≠ .unset ∧ getPhase vm kvvm ≠ .degraded := by
  unfold getPhase
  split
  · simp
  split
  · rename_i mapped
    exact mapPhases_range mapped
  · simp

end Virtualization.Machine
