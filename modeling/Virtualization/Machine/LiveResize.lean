import Virtualization.Machine.SpecChange

namespace Virtualization.Machine.SpecChange

open Builder

def requiresRestart (changes : List FieldChange) : Bool :=
  changes.any fun change => actionDisruptionOrder change.actionRequired = actionDisruptionOrder .restart

def setResources (gates : Gates) (spec : VirtualMachineSpec) (t : Template) : Except String Template :=
  (setCPUHotpluggable spec.cores spec.coreFraction t).map
    (setMemoryHotpluggable gates.hotplugMemoryWithLiveMigration spec.memorySize)

/-- What KubeVirt and the kubelet accept for a machine that runs. -/
structure LiveApplicable (first second : Template) : Prop where
  cpu : ∃ before after : CPU, first.cpu = some before ∧ second.cpu = some after ∧ after.cores = before.cores ∧
    after.maxSockets = before.maxSockets ∧ after.sockets ≤ after.maxSockets
  guaranteed : ∃ before after : Int,
    first.annotations.lookup cpuResourcesRequestsFractionAnnotation = some (toString before) ∧
    second.annotations.lookup cpuResourcesRequestsFractionAnnotation = some (toString after) ∧
    (before = 100 ↔ after = 100)
  memory : ∃ before after : Memory, first.memory = some before ∧ second.memory = some after ∧
    (after.guest ≠ before.guest → ∃ maxGuest, before.maxGuest = some maxGuest ∧ after.maxGuest = some maxGuest ∧
      after.guest ≤ maxGuest)

section Condition

variable (gates : Gates) (current desired : VirtualMachineSpec)

def socketsFor (cores : Int) : Int := if cores ≤ 16 then 1 else if cores ≤ 32 then 2 else if cores ≤ 64 then 4 else 8

/-- At most 31 cores on each of 8 sockets. The number for one socket is stored in 32 bits. -/
def CoresFit (cores : Int) : Prop := cores ≤ 64 ∨ (cores + 7) / 8 % 2 ^ 32 ≤ 31

def NotLegacy : Prop := current.osType ≠ .legacy ∧ desired.osType ≠ .legacy

/-- An unset fraction is the default. -/
def FractionChanged : Prop := current.coreFraction ≠ desired.coreFraction ∧
  ¬(current.coreFraction = "" ∧ desired.coreFraction = defaultCPUCoreFraction) ∧
  ¬(current.coreFraction = defaultCPUCoreFraction ∧ desired.coreFraction = "")

/-- The changes of the CPU need no restart. -/
@[mk_iff] structure CPULive : Prop where
  hot : current.cores ≠ desired.cores ∨ FractionChanged current desired →
    (gates.hotplugCPUWithLiveMigration = true ∨ gates.hotplugCPUAndMemoryWithInPlaceResize = true) ∧
      NotLegacy current desired
  sockets : socketsFor current.cores = socketsFor desired.cores
  fraction : parseCPUCoreFraction current.coreFraction = .ok 100 ↔ parseCPUCoreFraction desired.coreFraction = .ok 100

/-- A change of the memory needs no restart. -/
@[mk_iff] structure MemoryLive : Prop where
  hot : (gates.hotplugMemoryWithLiveMigration = true ∨ gates.hotplugCPUAndMemoryWithInPlaceResize = true) ∧
    NotLegacy current desired
  grows : enableMemoryHotplugThreshold ≤ current.memorySize ∧ current.memorySize ≤ desired.memorySize

structure ResourcesFit : Prop where
  cores : CoresFit desired.cores
  memory : current.memorySize ≠ desired.memorySize →
    gates.hotplugMemoryWithLiveMigration = true ∧ desired.memorySize ≤ maxMemorySizeForHotplug

end Condition

theorem calculateCoresAndSockets_band {cores : Int} (positive : 1 ≤ cores) :
    (calculateCoresAndSockets cores).1 = socketsFor cores ∧
    (calculateCoresAndSockets cores).2.2 = (if socketsFor cores = 8 then 31 else 16) ∧
    (toUint32 (calculateCoresAndSockets cores).2.1 ≤ toUint32 (calculateCoresAndSockets cores).2.2 ↔
      CoresFit cores) := by
  unfold calculateCoresAndSockets socketsFor CoresFit toUint32 maxSocketsCount maxCoresPerSocketHigh
    maxCoresPerSocketLow
  have small : ¬cores ≤ 0 := by omega
  rw [if_neg small]
  by_cases one : cores ≤ 16
  · simp only [one, if_true]
    exact ⟨trivial, by decide, by omega⟩
  simp only [one, if_false]
  by_cases two : cores ≤ 32
  · simp only [two, if_true, show cores ≤ 16 * 2 by omega]
    exact ⟨trivial, by decide, by split_ifs <;> omega⟩
  by_cases four : cores ≤ 64
  · simp only [two, four, if_true, if_false, show ¬cores ≤ 16 * 2 by omega, show cores ≤ 16 * 4 by omega]
    exact ⟨trivial, by decide, by split_ifs <;> omega⟩
  · have each : cores / 8 + (if cores % 8 ≠ 0 then 1 else 0) = (cores + 7) / 8 := by split_ifs <;> omega
    simp only [two, four, if_false, show ¬cores ≤ 16 * 2 by omega, show ¬cores ≤ 16 * 4 by omega, each]
    refine ⟨trivial, by decide, ?_⟩
    rw [false_or]
    generalize (cores + 7) / 8 = each
    omega

theorem isCPUGuaranteed_of_parse {coreFraction : String} {fraction : Int}
    (parsed : parseCPUCoreFraction coreFraction = .ok fraction) :
    isCPUGuaranteed coreFraction = decide (100 ≤ fraction) := by
  unfold parseCPUCoreFraction at parsed
  unfold isCPUGuaranteed
  split at parsed
  · rename_i unset
    cases parsed
    rw [if_pos unset]
    decide
  · grind [getIntOrPercentValueSafely, parsePercent, Except.mapError]

variable {gates : Gates} {current desired : VirtualMachineSpec}

theorem requiresRestart_setRestartMessage (condition : Prop) [Decidable condition] (message : String)
    (changes : List FieldChange) :
    requiresRestart (if condition then setRestartMessage message changes else changes) = requiresRestart changes := by
  split
  · cases changes <;> rfl
  · rfl

theorem compareInts_set {path : String} {first second : Int} {action : ActionType} (set : 1 ≤ first ∧ 1 ≤ second) :
    (hasChanges (compareInts path first second 0 action) = true ↔ first ≠ second) ∧
    (requiresRestart (compareInts path first second 0 action) = true ↔ first ≠ second ∧ action = .restart) := by
  have nonzero : first ≠ 0 ∧ second ≠ 0 := by omega
  simp only [compareInts, compareValues, compareEmpty, newIntValue, hasChanges, requiresRestart, nonzero]
  by_cases same : first = second <;> cases action <;> simp [same, actionDisruptionOrder]

theorem compareStrings_changes {path first second default : String} {action : ActionType} :
    hasChanges (compareStrings path first second default action) = true ↔ first ≠ second := by
  simp only [compareStrings, compareValues, compareEmpty, newStringValue, hasChanges]
  by_cases same : first = second <;> by_cases unset : first = "" <;> by_cases unset' : second = "" <;> simp_all

theorem compareStrings_restart {path first second default : String} {action : ActionType} :
    requiresRestart (compareStrings path first second default action) = true ↔
      first ≠ second ∧ ¬(first = "" ∧ second = default) ∧ ¬(first = default ∧ second = "") ∧ action = .restart := by
  simp only [compareStrings, compareValues, compareEmpty, newStringValue, requiresRestart]
  by_cases same : first = second <;> by_cases unset : first = "" <;> by_cases unset' : second = "" <;>
    by_cases isDefault : first = default <;> by_cases isDefault' : second = default <;> cases action <;>
    simp_all [actionDisruptionOrder]

theorem requiresRestart_both {first second : List FieldChange} {both : FieldChange} :
    requiresRestart (if hasChanges first && hasChanges second then [both]
      else if hasChanges first then first else if hasChanges second then second else []) = true ↔
    if hasChanges first = true then
      if hasChanges second = true then both.actionRequired = .restart else requiresRestart first = true
    else hasChanges second = true ∧ requiresRestart second = true := by
  cases isFirst : hasChanges first <;> cases isSecond : hasChanges second <;>
    cases action : both.actionRequired <;> simp [requiresRestart, actionDisruptionOrder, action]

theorem mostDisruptiveAction_restart (one two : ActionType) :
    mostDisruptiveAction [one, two] = .restart ↔ one = .restart ∨ two = .restart := by
  cases one <;> cases two <;> simp [mostDisruptiveAction, actionDisruptionOrder]

theorem compareQuantity_restart {path : String} {first second : Nat} {action : ActionType}
    (set : 0 < first ∧ 0 < second) :
    requiresRestart (compareQuantity path first second 0 action) = true ↔ first ≠ second ∧ action = .restart := by
  simp only [compareQuantity, compareValues, compareEmpty, newQuantityValue, requiresRestart, set.1.ne', set.2.ne']
  by_cases same : first = second <;> cases action <;> simp [same, actionDisruptionOrder]

theorem comparatorMemory_live (sizes : 0 < current.memorySize ∧ 0 < desired.memorySize) :
    requiresRestart (comparatorMemory gates current desired) = false ↔
      (current.memorySize ≠ desired.memorySize → MemoryLive gates current desired) := by
  rw [← not_iff_not, Bool.not_eq_false, comparatorMemory, compareQuantity_restart sizes, Classical.not_imp]
  refine and_congr_right fun _ => ?_
  rw [memoryLive_iff, NotLegacy]
  split_ifs <;> grind

theorem cpuNeedsRestart_iff : cpuNeedsRestart gates current desired = true ↔
    ¬((gates.hotplugCPUWithLiveMigration = true ∨ gates.hotplugCPUAndMemoryWithInPlaceResize = true) ∧
      NotLegacy current desired) := by
  unfold cpuNeedsRestart NotLegacy
  grind

theorem coresRestartMsg_iff (cores : 1 ≤ current.cores ∧ 1 ≤ desired.cores) :
    coresRestartMsg current desired ≠ "" ↔ socketsFor current.cores ≠ socketsFor desired.cores := by
  rw [coresRestartMsg, (calculateCoresAndSockets_band cores.1).1, (calculateCoresAndSockets_band cores.2).1]
  split <;> simp_all

theorem fractionRestartMsg_iff (valid : ∃ share ≤ 100, parseCPUCoreFraction current.coreFraction = .ok share)
    (valid' : ∃ share ≤ 100, parseCPUCoreFraction desired.coreFraction = .ok share) :
    fractionRestartMsg current desired ≠ "" ↔ ¬(parseCPUCoreFraction current.coreFraction = .ok 100 ↔
      parseCPUCoreFraction desired.coreFraction = .ok 100) := by
  obtain ⟨share, most, parsed⟩ := valid
  obtain ⟨share', most', parsed'⟩ := valid'
  rw [fractionRestartMsg, isCPUGuaranteed_of_parse parsed, isCPUGuaranteed_of_parse parsed', parsed, parsed']
  simp only [Except.ok.injEq, ne_eq, decide_eq_decide]
  have whole : 100 ≤ share ↔ share = 100 := by omega
  have whole' : 100 ≤ share' ↔ share' = 100 := by omega
  simp only [whole, whole']
  split <;> simp_all

theorem ite_restart {condition : Prop} [Decidable condition] :
    (if condition then ActionType.restart else .applyImmediate) = .restart ↔ condition := by
  split <;> simp_all

/-- The two fields with their own actions, put together: `C` and `E` say that the cores and the fractions are equal,
    `D` that the fractions mean the same, `H` that the CPU is hotpluggable. -/
theorem restart_iff {C E D D' H S F : Prop} [Decidable C] [Decidable E] (same : C → S)
    (unchanged : ¬(¬E ∧ ¬D ∧ ¬D') → F) :
    (if ¬C then if ¬E then (¬S ∨ ¬H) ∨ ¬F ∨ ¬H else ¬C ∧ (¬S ∨ ¬H) else ¬E ∧ ¬E ∧ ¬D ∧ ¬D' ∧ (¬F ∨ ¬H)) ↔
      ¬((¬C ∨ (¬E ∧ ¬D ∧ ¬D') → H) ∧ S ∧ F) := by
  by_cases sameCores : C <;> by_cases equal : E <;> simp only [sameCores, equal, not_true, not_false_eq_true, if_true,
    if_false] <;> grind

theorem comparatorCPU_live (cores : 1 ≤ current.cores ∧ 1 ≤ desired.cores)
    (valid : ∃ share ≤ 100, parseCPUCoreFraction current.coreFraction = .ok share)
    (valid' : ∃ share ≤ 100, parseCPUCoreFraction desired.coreFraction = .ok share) :
    requiresRestart (comparatorCPU gates current desired) = false ↔ CPULive gates current desired := by
  have sockets := coresRestartMsg_iff cores
  have fraction := fractionRestartMsg_iff valid valid'
  have same : current.cores = desired.cores → socketsFor current.cores = socketsFor desired.cores := congrArg _
  have unchanged (unchanged : ¬FractionChanged current desired) : (parseCPUCoreFraction current.coreFraction = .ok 100 ↔
      parseCPUCoreFraction desired.coreFraction = .ok 100) := by
    by_cases equal : current.coreFraction = desired.coreFraction
    · rw [equal]
    have whole : parseCPUCoreFraction "" = .ok 100 ∧ parseCPUCoreFraction defaultCPUCoreFraction = .ok 100 := by decide
    rcases not_and_or.mp (not_and.mp unchanged equal) with here | here
    all_goals
      obtain ⟨one, two⟩ := not_not.mp here
      rw [one, two, whole.1, whole.2]
  rw [← not_iff_not, Bool.not_eq_false]
  unfold comparatorCPU
  rw [requiresRestart_both]
  simp only [hasChanges_setRestartMessage, requiresRestart_setRestartMessage, compareInts_set cores,
    compareStrings_changes, compareStrings_restart, mostDisruptiveAction_restart, ite_restart, Bool.or_eq_true,
    decide_eq_true_eq, sockets, fraction, cpuNeedsRestart_iff, cPULive_iff]
  exact restart_iff same unchanged

theorem maxGuestOf_above {hotplug : Bool} {memorySize : Nat} (current : Option Memory)
    (above : enableMemoryHotplugThreshold ≤ memorySize) :
    maxGuestOf hotplug memorySize current = if hotplug then some maxMemorySizeForHotplug else none := by
  rw [maxGuestOf, if_neg (Nat.not_lt.mpr above)]

/-- What the comparators let pass without restart fits the machine that runs exactly where there are sockets for its
    cores, and a larger memory has the gate that sets the maximum and is below it. -/
theorem live_change_applicable {t t' first second : Template}
    (cores : 1 ≤ current.cores ∧ 1 ≤ desired.cores) (sizes : 0 < current.memorySize ∧ 0 < desired.memorySize)
    (valid : ∃ share ≤ 100, parseCPUCoreFraction current.coreFraction = .ok share)
    (valid' : ∃ share ≤ 100, parseCPUCoreFraction desired.coreFraction = .ok share)
    (isFirst : setResources gates current t = .ok first) (isSecond : setResources gates desired t' = .ok second) :
    (requiresRestart (comparatorCPU gates current desired) = false →
      requiresRestart (comparatorMemory gates current desired) = false → LiveApplicable first second) ↔
    (CPULive gates current desired →
      (current.memorySize ≠ desired.memorySize → MemoryLive gates current desired) →
      ResourcesFit gates current desired) := by
  rw [comparatorCPU_live cores valid valid', comparatorMemory_live sizes]
  refine forall_congr' fun liveCPU => forall_congr' fun liveMemory => ?_
  obtain ⟨share, most, parsed⟩ := valid
  obtain ⟨share', most', parsed'⟩ := valid'
  obtain ⟨sockets, maximum, -⟩ := calculateCoresAndSockets_band cores.1
  obtain ⟨sockets', maximum', fits⟩ := calculateCoresAndSockets_band cores.2
  have fraction := liveCPU.fraction
  rw [parsed, parsed', Except.ok.injEq, Except.ok.injEq] at fraction
  simp only [setResources, setCPUHotpluggable, parsed, parsed', Except.map, Except.ok.injEq] at isFirst isSecond
  subst isFirst isSecond
  constructor
  · rintro ⟨⟨_, _, ⟨⟩, ⟨⟩, -, -, below⟩, -, ⟨_, _, ⟨⟩, ⟨⟩, maximal⟩⟩
    refine ⟨fits.mp below, fun changed => ?_⟩
    obtain ⟨above, grows⟩ := (liveMemory changed).grows
    obtain ⟨maxGuest, before, after, fitting⟩ := maximal (Ne.symm changed)
    rw [maxGuestOf_above _ above] at before
    cases gate : gates.hotplugMemoryWithLiveMigration with
    | true =>
      rw [gate] at before
      cases before
      exact ⟨rfl, fitting⟩
    | false =>
      rw [gate] at before
      cases before
  · rintro ⟨few, grows⟩
    have names : cpuResourcesRequestsFractionAnnotation ≠ vcpuTopologyDynamicCoresAnnotation := by decide
    refine ⟨⟨_, _, rfl, rfl, congrArg toUint32 ?_, congrArg toUint32 ?_, fits.mpr few⟩,
      ⟨share, share', ?_, ?_, fraction⟩, ⟨_, _, rfl, rfl, ?_⟩⟩
    · rw [sockets, sockets', liveCPU.sockets]
    · rw [maximum, maximum', liveCPU.sockets]
    · simp [setMemoryHotpluggable, setKVVMIAnnotation, Finmap.lookup_insert_of_ne _ names]
    · simp [setMemoryHotpluggable, setKVVMIAnnotation, Finmap.lookup_insert_of_ne _ names]
    · intro changed
      obtain ⟨above, larger⟩ := (liveMemory (Ne.symm changed)).grows
      obtain ⟨gate, below⟩ := grows (Ne.symm changed)
      refine ⟨maxMemorySizeForHotplug, ?_, ?_, below⟩
      · rw [maxGuestOf_above _ above, gate, if_pos rfl]
      · rw [maxGuestOf_above _ (above.trans larger), gate, if_pos rfl]

def resized (cores : Int) (memorySize : Nat) : VirtualMachineSpec :=
  { genericSpec with cores, coreFraction := "20%", memorySize }

def gibibytes (n : Nat) : Nat := n * enableMemoryHotplugThreshold

theorem live_change_applicable_grown : ∃ first second,
    setResources allGates (resized 2 (gibibytes 2)) {} = .ok first ∧
    setResources allGates (resized 4 (gibibytes 4)) first = .ok second ∧ LiveApplicable first second :=
  ⟨_, _, rfl, rfl, (@live_change_applicable allGates (resized 2 (gibibytes 2)) (resized 4 (gibibytes 4)) _ _ _ _
    (by decide) (by decide) ⟨20, by decide⟩ ⟨20, by decide⟩ rfl rfl).mpr
    (fun _ _ => ⟨.inl (by decide), fun _ => by decide⟩) (by decide) (by decide)⟩

def Rejected (gates : Gates) (current desired : VirtualMachineSpec) : Prop :=
  requiresRestart (comparatorCPU gates current desired) = false ∧
  requiresRestart (comparatorMemory gates current desired) = false ∧ ∃ first second,
    setResources gates current {} = .ok first ∧ setResources gates desired first = .ok second ∧
    ¬ LiveApplicable first second

/-- With the gate of the in-place resize alone there is no maximum, and one can ask for more memory than the maximum,
    or for more cores than the sockets have. -/
theorem live_change_rejected :
    Rejected ⟨false, false, true⟩ (resized 2 (gibibytes 2)) (resized 2 (gibibytes 4)) ∧
    Rejected allGates (resized 2 (gibibytes 2)) (resized 2 (gibibytes 300)) ∧
    Rejected allGates (resized 240 (gibibytes 2)) (resized 249 (gibibytes 2)) := by
  refine ⟨⟨by decide, by decide, _, _, rfl, rfl, ?_⟩, ⟨by decide, by decide, _, _, rfl, rfl, ?_⟩,
    ⟨by decide, by decide, _, _, rfl, rfl, ?_⟩⟩
  · rintro ⟨-, -, _, _, ⟨⟩, ⟨⟩, grown⟩
    obtain ⟨_, ⟨⟩, -⟩ := grown (by decide)
  · rintro ⟨-, -, _, _, ⟨⟩, ⟨⟩, grown⟩
    obtain ⟨_, ⟨⟩, ⟨⟩, below⟩ := grown (by decide)
    revert below
    decide
  · rintro ⟨⟨_, _, ⟨⟩, ⟨⟩, -, -, below⟩, -⟩
    revert below
    decide

end Virtualization.Machine.SpecChange
