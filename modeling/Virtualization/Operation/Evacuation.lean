import Mathlib
import Virtualization.Operation.Objects

namespace Virtualization.Operation.Evacuation

open Virtualization.Core (ConditionStatus)

/-- `wait.Backoff`, with times in milliseconds. -/
structure Backoff where
  (duration factor jitter cap steps : Nat)

/-- What `wait.Backoff.Step` is known to return: the duration that it finds, and something else only with jitter. -/
def ReturnsDuration (step : Backoff → Nat) : Prop := ∀ b : Backoff, b.jitter = 0 → step b = b.duration

variable (step : Backoff → Nat)

def calculateBackOff (failedCount : Nat) : Nat :=
  if failedCount = 0 then 0
  else step { duration := 2000, factor := 2, jitter := 0, cap := 5 * 60 * 1000, steps := failedCount }

/-- `evacuation` says that the annotation is there, `protection` that the finalizer of this controller is, and
    `otherFinalizers` that there are others. -/
structure VirtualMachineOperation where
  (ns name virtualMachine : String)
  type : OperationType
  phase : OperationPhase
  (evacuation protection otherFinalizers deleting : Bool)

structure VirtualMachine where
  (ns name : String)
  (evictionRequired migrating : ConditionStatus)

structure Requests where
  list : Bool
  (update cancel : String → Bool)
  create : Bool
  generated : String

variable (requests : Requests) (vm : VirtualMachine) (vmops : List VirtualMachineOperation)
  (vmop : VirtualMachineOperation)

def isVMNeedEvict : Bool := vm.evictionRequired = .conditionTrue

def isVMMigrating : Bool := vm.migrating = .conditionTrue

def isOfVM : Bool :=
  vmop.ns = vm.ns ∧ vmop.virtualMachine = vm.name ∧ vmop.type.isMigration

def getVMOPsByVM : List VirtualMachineOperation × List VirtualMachineOperation :=
  ((vmops.filter (isOfVM vm)).filter (·.phase.isFinished = false),
    (vmops.filter (isOfVM vm)).filter (·.phase.isFinished))

def unprotected : Option VirtualMachineOperation :=
  if vmop.deleting ∧ vmop.otherFinalizers = false then none else some { vmop with protection := false }

def removeFinalizer : List VirtualMachineOperation × Bool :=
  if vmop.protection = false then (vmops, true)
  else if requests.update vmop.name = false then (vmops, false)
  else
    (vmops.filterMap fun other =>
      if other.ns = vmop.ns ∧ other.name = vmop.name then unprotected other else some other, true)

def forEach (act : List VirtualMachineOperation → VirtualMachineOperation → List VirtualMachineOperation × Bool)
    (vmops : List VirtualMachineOperation) : List VirtualMachineOperation → List VirtualMachineOperation × Bool
  | [] => (vmops, true)
  | vmop :: rest =>
    let (vmops, done) := act vmops vmop
    let (vmops, ok) := forEach act vmops rest
    (vmops, done && ok)

def removeFinalizerFromVMOPs (vmops finished : List VirtualMachineOperation) : List VirtualMachineOperation × Bool :=
  forEach (removeFinalizer requests) vmops finished

def cancelEvacuation : List VirtualMachineOperation × Bool :=
  if vmop.evacuation ∧ vmop.deleting then
    if requests.cancel vmop.name = false then (vmops, false) else removeFinalizer requests vmops vmop
  else (vmops, true)

def cancelEvacuationForTerminatingVMOPs (vmops running : List VirtualMachineOperation) :
    List VirtualMachineOperation × Bool :=
  forEach (cancelEvacuation requests) vmops running

def newEvacuationVMOP (generated : String) : VirtualMachineOperation :=
  { ns := vm.ns, name := generated, virtualMachine := vm.name, type := .evict, phase := .unset, evacuation := true
    protection := true, otherFinalizers := false, deleting := false }

def failedEvacuations (finished : List VirtualMachineOperation) : Nat :=
  finished.countP fun vmop => vmop.evacuation ∧ vmop.phase = .failed

structure Outcome where
  vmops : List VirtualMachineOperation
  requeueAfter : Nat
  (failed created : Bool)

def handle : Outcome :=
  if requests.list = false then { vmops, requeueAfter := 0, failed := true, created := false }
  else
    let (migrationVMOPs, finishedVMOPs) := getVMOPsByVM vm vmops
    let (vmops, removed) := removeFinalizerFromVMOPs requests vmops finishedVMOPs
    let requeueAfter := if removed then 0 else 100
    if migrationVMOPs ≠ [] then
      let (vmops, done) := cancelEvacuationForTerminatingVMOPs requests vmops migrationVMOPs
      if done then { vmops, requeueAfter, failed := false, created := false }
      else { vmops, requeueAfter := 0, failed := true, created := false }
    else if isVMNeedEvict vm = false ∨ isVMMigrating vm then
      { vmops, requeueAfter := 0, failed := false, created := false }
    else
      let backoff := calculateBackOff step (failedEvacuations finishedVMOPs)
      if backoff > 0 then { vmops, requeueAfter := backoff, failed := false, created := false }
      else if requests.create then
        { vmops := vmops ++ [newEvacuationVMOP vm requests.generated], requeueAfter, failed := false, created := true }
      else { vmops, requeueAfter := 0, failed := true, created := false }

structure World where
  vmops : List VirtualMachineOperation
  elapsed : Nat
  created : Option Nat

def World.call (w : World) : World :=
  let outcome := handle step requests vm w.vmops
  { vmops := outcome.vmops
    elapsed := w.elapsed + outcome.requeueAfter
    created := w.created <|> if outcome.created then some w.elapsed else none }

def expectedDelay (failedCount : Nat) : Nat :=
  if failedCount = 0 then 0 else min (5 * 60 * 1000) (2000 * 2 ^ (failedCount - 1))

variable {step} in
theorem calculateBackOff_eq (returns : ReturnsDuration step) (failedCount : Nat) :
    calculateBackOff step failedCount = if failedCount = 0 then 0 else 2000 := by
  unfold calculateBackOff
  split
  · rfl
  · exact returns _ rfl

theorem failedEvacuations_eq_zero : failedEvacuations (getVMOPsByVM vm vmops).2 = 0 ↔
    ∀ vmop ∈ vmops, isOfVM vm vmop → vmop.evacuation → vmop.phase ≠ .failed := by
  unfold failedEvacuations getVMOPsByVM
  rw [List.countP_eq_zero]
  simp only [List.mem_filter, decide_eq_true_eq, not_and, and_imp]
  refine ⟨fun none vmop member ofVM evacuation failed => ?_, fun none vmop member ofVM _ => none vmop member ofVM⟩
  exact none vmop member ofVM (by rw [failed]; rfl) evacuation failed

section Never

/-- A Failed evacuation of the virtual machine that stays when the finalizer is removed. -/
structure Kept (vm : VirtualMachine) (vmop : VirtualMachineOperation) : Prop where
  ofVM : isOfVM vm vmop
  evacuation : vmop.evacuation
  failed : vmop.phase = .failed
  stays : vmop.deleting = false ∨ vmop.otherFinalizers

variable {step : Backoff → Nat} {vm : VirtualMachine} {vmops : List VirtualMachineOperation}

theorem Kept.unprotected {vmop : VirtualMachineOperation} (kept : Kept vm vmop) :
    unprotected vmop = some { vmop with protection := false } := by
  unfold Evacuation.unprotected
  rw [if_neg]
  rintro ⟨deleting, last⟩
  rcases kept.stays with staying | held
  · rw [staying] at deleting
    cases deleting
  rw [held] at last
  cases last

variable (requests : Requests)

section

variable (kept : ∃ old ∈ vmops, Kept vm old)
include kept

theorem removeFinalizer_kept (vmop : VirtualMachineOperation) :
    ∃ old ∈ (removeFinalizer requests vmops vmop).1, Kept vm old := by
  obtain ⟨old, member, still⟩ := kept
  unfold removeFinalizer
  split
  · exact ⟨old, member, still⟩
  split
  · exact ⟨old, member, still⟩
  by_cases same : old.ns = vmop.ns ∧ old.name = vmop.name
  · refine ⟨{ old with protection := false }, List.mem_filterMap.mpr ⟨old, member, ?_⟩,
      { still with }⟩
    rw [if_pos same]
    exact still.unprotected
  refine ⟨old, List.mem_filterMap.mpr ⟨old, member, ?_⟩, still⟩
  rw [if_neg same]

theorem cancelEvacuation_kept (vmop : VirtualMachineOperation) :
    ∃ old ∈ (cancelEvacuation requests vmops vmop).1, Kept vm old := by
  unfold cancelEvacuation
  split
  · split
    · exact kept
    · exact removeFinalizer_kept requests kept vmop
  · exact kept

theorem forEach_kept
    {act : List VirtualMachineOperation → VirtualMachineOperation → List VirtualMachineOperation × Bool}
    (keeps : ∀ vmops, (∃ old ∈ vmops, Kept vm old) → ∀ vmop, ∃ old ∈ (act vmops vmop).1, Kept vm old)
    (items : List VirtualMachineOperation) : ∃ old ∈ (forEach act vmops items).1, Kept vm old := by
  induction items generalizing vmops with
  | nil => exact kept
  | cons vmop _ ih => exact ih (keeps vmops kept vmop)

theorem failedEvacuations_ne_zero : failedEvacuations (getVMOPsByVM vm vmops).2 ≠ 0 := by
  obtain ⟨old, member, still⟩ := kept
  exact fun none => (failedEvacuations_eq_zero vm vmops).mp none old member still.ofVM still.evacuation still.failed

theorem handle_kept (returns : ReturnsDuration step) :
    (handle step requests vm vmops).created = false ∧ ∃ old ∈ (handle step requests vm vmops).vmops, Kept vm old := by
  have remains : ∃ old ∈ (removeFinalizerFromVMOPs requests vmops (getVMOPsByVM vm vmops).2).1, Kept vm old :=
    forEach_kept kept (fun _ => removeFinalizer_kept requests) _
  have waits : calculateBackOff step (failedEvacuations (getVMOPsByVM vm vmops).2) > 0 := by
    rw [calculateBackOff_eq returns, if_neg (failedEvacuations_ne_zero kept)]
    decide
  unfold handle
  split
  · exact ⟨rfl, kept⟩
  dsimp only
  split
  · have after := forEach_kept remains (fun _ => cancelEvacuation_kept requests) (getVMOPsByVM vm vmops).1
    split
    · exact ⟨rfl, after⟩
    · exact ⟨rfl, after⟩
  split
  all_goals exact ⟨rfl, remains⟩

end

theorem never_created (returns : ReturnsDuration step) {w : World} (kept : ∃ old ∈ w.vmops, Kept vm old)
    (none : w.created = none) (n : Nat) : ((World.call step requests vm)^[n] w).created = Option.none := by
  induction n generalizing w with
  | zero => exact none
  | succ _ ih =>
    obtain ⟨waits, remains⟩ := handle_kept requests kept returns
    refine ih remains ?_
    unfold World.call
    simp [none, waits]

end Never

def allServed (generated : String) : Requests :=
  { list := true, update := fun _ => true, cancel := fun _ => true, create := true, generated }

def World.start : World := { vmops, elapsed := 0, created := none }

/-- A virtual machine gets an evacuation in the expected time exactly when it has no Failed one: then it gets one at the
    first call, and otherwise, as long as the Failed ones stay, at none. -/
theorem evacuation_after_delay (step : Backoff → Nat) (returns : ReturnsDuration step) (vm : VirtualMachine)
    (vmops : List VirtualMachineOperation) (generated : String) (needed : isVMNeedEvict vm = true)
    (still : isVMMigrating vm = false) (idle : (getVMOPsByVM vm vmops).1 = [])
    (stay : ∀ vmop ∈ vmops, vmop.evacuation = true → vmop.phase = .failed →
      vmop.deleting = false ∨ vmop.otherFinalizers = true) :
    (∃ n, ((World.call step (allServed generated) vm)^[n] (World.start vmops)).created =
        some (expectedDelay (failedEvacuations (getVMOPsByVM vm vmops).2))) ↔
      ∀ vmop ∈ vmops, isOfVM vm vmop = true → vmop.evacuation = true → vmop.phase ≠ .failed := by
  constructor
  · rintro ⟨n, created⟩ vmop member ofVM evacuation failed
    have never := never_created (allServed generated) returns (w := .start vmops)
      ⟨vmop, member, ofVM, evacuation, failed, stay vmop member evacuation failed⟩ rfl n
    cases never.symm.trans created
  · intro none
    have fresh := (failedEvacuations_eq_zero vm vmops).mpr none
    have created : (handle step (allServed generated) vm vmops).created = true := by
      unfold handle
      simp [allServed, idle, needed, still, fresh, calculateBackOff]
    exact ⟨1, by simp [World.call, World.start, created, fresh, expectedDelay]⟩

def evicted : VirtualMachine :=
  { ns := "ns", name := "vm", evictionRequired := .conditionTrue, migrating := .conditionFalse }

def failedEvacuation : VirtualMachineOperation :=
  { newEvacuationVMOP evicted "evacuation-1" with phase := .failed }

/-- The last evacuation is completed, and the Failed one is of another virtual machine. -/
def otherFailed : List VirtualMachineOperation :=
  [{ failedEvacuation with phase := .completed },
    { newEvacuationVMOP { evicted with name := "other" } "evacuation-0" with phase := .failed }]

theorem evacuation_after_delay_completed : ∃ n, ((World.call Backoff.duration (allServed "evacuation-2") evicted)^[n]
        (World.start otherFailed)).created = some (expectedDelay 0) :=
  (evacuation_after_delay Backoff.duration (fun _ _ => rfl) evicted otherFailed
    "evacuation-2" rfl rfl rfl (by decide)).mpr (by decide)

theorem evacuation_never_retried : failedEvacuations (getVMOPsByVM evicted [failedEvacuation]).2 = 1 ∧
    (getVMOPsByVM evicted [failedEvacuation]).1 = [] ∧ ∀ n,
      ((World.call Backoff.duration (allServed "evacuation-2") evicted)^[n] (World.start [failedEvacuation])).created =
        none := by
  refine ⟨rfl, rfl, never_created _ (fun _ _ => rfl) ⟨failedEvacuation, List.mem_singleton.mpr rfl, ?_⟩ rfl⟩
  exact ⟨rfl, rfl, rfl, .inl rfl⟩

end Virtualization.Operation.Evacuation
