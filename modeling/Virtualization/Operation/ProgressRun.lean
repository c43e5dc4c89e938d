import Mathlib.Data.Rat.Floor
import Virtualization.Operation.Progress

namespace Virtualization.Operation.Progress

open Virtualization.Core Library Option World

theorem clampSyncRange_range (v : Int) : 10 ≤ clampSyncRange v ∧ clampSyncRange v ≤ 90 := by
  unfold clampSyncRange syncRangeMin syncRangeMax
  split
  · omega
  · split <;> omega

theorem clampSyncRange_of_range {v : Int} (low : 10 ≤ v) (high : v ≤ 90) : clampSyncRange v = v := by
  unfold clampSyncRange syncRangeMin syncRangeMax
  split
  · omega
  · split <;> omega

theorem limitStep_range (prev next : Int) {step : Int} (positive : 0 ≤ step) :
    prev ≤ limitStep prev step next ∧ limitStep prev step next ≤ prev + step ∧
      limitStep prev step next ≤ max prev next := by
  unfold limitStep
  dsimp only
  split <;> split <;> omega

section Numbers

variable {R : Type} [Field R] [LinearOrder R] [FloorRing R]

/-- Whatever the target, the next percentage is in the range and one limited step away. It falls below the last one
    only from above the cap of the stage. -/
theorem nextProgress_range {prev : Int} (low : 10 ≤ prev) (high : prev ≤ 90) (iterative : Bool) (target : R)
    (stalled : Bool) :
    (10 ≤ nextProgress prev iterative target stalled ∧ nextProgress prev iterative target stalled ≤ 90) ∧
      nextProgress prev iterative target stalled ≤ prev + maxStep iterative ∧
      (prev ≤ stageCap iterative → prev ≤ nextProgress prev iterative target stalled) := by
  unfold nextProgress
  dsimp only
  have clamped := clampSyncRange_range (truncate (max (prev : R) (min target ((stageCap iterative : Int) : R))))
  have step : 5 ≤ maxStep iterative := by cases iterative <;> decide
  have cap : 45 ≤ stageCap iterative ∧ stageCap iterative ≤ 90 := by cases iterative <;> decide
  unfold clampPercent
  generalize clampSyncRange _ = next at clamped ⊢
  obtain ⟨_, _, _⟩ := limitStep_range prev next (show 0 ≤ maxStep iterative by omega)
  split <;> split <;> omega

theorem syncProgress_progress (targets : Targets R) {stored : Option (State R)} {record : Record R}
    (agrees : ∀ state ∈ stored, state.progress = clampSyncRange record.previousProgress) :
    ∃ target stalled, (syncProgress targets stored record).progress =
      nextProgress (clampSyncRange record.previousProgress) (isIterative record) (target : R) stalled := by
  have known : (getState stored record).progress = clampSyncRange record.previousProgress := by
    cases stored with
    | none => rfl
    | some state => exact agrees state rfl
  unfold syncProgress
  dsimp only
  rw [known, if_neg (lt_irrefl _)]
  exact ⟨_, _, rfl⟩

end Numbers

section Run

variable {R : Type}

def MigrationPhase.rank : MigrationPhase → Nat
  | .unset | .pending => 0
  | .scheduling => 1
  | .scheduled | .preparingTarget => 2
  | .targetReady | .waitingForSync | .synchronizing | .running => 3
  | .succeeded | .failed => 4

def Migration.iterates (mig : Migration R) : Bool :=
  ((mig.migrationState.bind (·.transferStatus)).bind (·.iteration)).any fun count => 0 < count

def Forward (w : World R) : Event R → Prop
  | .changed none => True
  | .changed (some new) => w.migration.isSome ∧ ∀ old ∈ w.migration, old.phase.rank ≤ new.phase.rank ∧
      (old.resumed → new.resumed) ∧ (old.completed → new.completed)
  | .restarted => True
  | .pass _ target slot => target = .healthy ∧ slot = .none

def syncs (reason : ReasonCompleted) : Prop := reason = .syncing ∨ reason = .notConverging

structure Reported (w t : World R) : Prop where
  forward : ∀ p ∈ w.vmop.progress, ∃ q, t.vmop.progress = some q ∧ p ≤ q
  range : syncs t.vmop.completedReason → ∃ q, t.vmop.progress = some q ∧ 10 ≤ q ∧ q ≤ 90
  limited : syncs w.vmop.completedReason → syncs t.vmop.completedReason → ∀ p ∈ w.vmop.progress,
    ∀ q ∈ t.vmop.progress, q ≤ p + maxStep (w.migration.any Migration.iterates)

def phaseCeiling : MigrationPhase → Int
  | .unset | .pending => 0
  | .scheduling => 2
  | .scheduled | .preparingTarget => 3
  | _ => 90

def ceiling (mig : Migration R) : Int := if mig.completed ∨ mig.resumed then 92 else phaseCeiling mig.phase

structure Inv (w : World R) : Prop where
  range : syncs w.vmop.completedReason → ∃ p, w.vmop.progress = some p ∧ 10 ≤ p ∧ p ≤ 90
  below : w.vmop.phase.isFinished = false → ∀ mig ∈ w.migration, ∀ p ∈ w.vmop.progress, p ≤ ceiling mig
  stored : w.vmop.phase.isFinished = false → ∀ state ∈ w.store, w.vmop.progress = some state.progress ∧
    10 ≤ state.progress ∧ state.progress ≤ 90
  resumed : w.vmop.phase.isFinished = false → ∀ p ∈ w.vmop.progress, 91 < p → w.vmop.completedReason = .targetResumed

theorem phaseCeiling_mono {old new : MigrationPhase} (rank : old.rank ≤ new.rank) :
    phaseCeiling old ≤ phaseCeiling new ∧ phaseCeiling old ≤ 92 := by
  revert rank
  cases old <;> cases new <;> decide

theorem ceiling_mono {old new : Migration R} (rank : old.phase.rank ≤ new.phase.rank)
    (resumed : old.resumed → new.resumed) (completed : old.completed → new.completed) : ceiling old ≤ ceiling new := by
  obtain ⟨phases, high⟩ := phaseCeiling_mono rank
  unfold ceiling
  by_cases handedOver : old.completed = true ∨ old.resumed = true
  · rw [if_pos handedOver, if_pos (handedOver.imp completed resumed)]
  rw [if_neg handedOver]
  split
  · exact high
  · exact phases

structure Measured (w : World R) (mig : Migration R) (reason : ReasonCompleted) (value : Int × Option (State R)) :
    Prop where
  forward : ∀ p ∈ w.vmop.progress, p ≤ value.1
  below : value.1 ≤ ceiling mig
  stored : ∀ state ∈ value.2, value.1 = state.progress ∧ 10 ≤ state.progress ∧ state.progress ≤ 90
  resumed : 91 < value.1 → reason = .targetResumed
  range : syncs reason → 10 ≤ value.1 ∧ value.1 ≤ 90
  limited : syncs reason → ∀ p ∈ w.vmop.progress, 10 ≤ p → value.1 ≤ p + maxStep mig.iterates

variable {w : World R} {mig : Migration R} {reason : ReasonCompleted}

theorem Inv.measured_fixed (inv : Inv w) (unfinished : w.vmop.phase.isFinished = false)
    (current : w.migration = some mig) {value : Int} (top : ceiling mig = value) (early : value < 10)
    (other : ¬syncs reason) : Measured w mig reason (value, w.store) := by
  have below := inv.below unfinished mig current
  rw [top] at below
  refine ⟨below, by rw [top], fun state remembered => ?_, fun high => by omega, fun sync => absurd sync other,
    fun sync => absurd sync other⟩
  obtain ⟨reported, _, -⟩ := inv.stored unfinished state remembered
  have := below _ reported
  omega

variable [Field R] [LinearOrder R]

theorem Inv.previous (inv : Inv w) (unfinished : w.vmop.phase.isFinished = false) (mig : Migration R) (now : R) :
    ∀ state ∈ w.store,
      state.progress = clampSyncRange (buildRecord w.vmop mig now).previousProgress := by
  intro state remembered
  obtain ⟨reported, low, high⟩ := inv.stored unfinished state remembered
  have parsed : (buildRecord w.vmop mig now).previousProgress = state.progress := by
    simp only [buildRecord, reported, parsePercent]
  rw [parsed, clampSyncRange_of_range low high]

variable [FloorRing R]

theorem Inv.sync_range (inv : Inv w) (targets : Targets R) (unfinished : w.vmop.phase.isFinished = false)
    (mig : Migration R) (now : R) (high : ∀ p ∈ w.vmop.progress, p ≤ 90)
    (counted : mig.iterates ∨ ∀ p ∈ w.vmop.progress, p ≤ 45) :
    let next := (syncProgress targets w.store (buildRecord w.vmop mig now)).progress
    (10 ≤ next ∧ next ≤ 90) ∧
      ∀ p ∈ w.vmop.progress, p ≤ next ∧ (10 ≤ p → next ≤ p + maxStep mig.iterates) := by
  obtain ⟨target, stalled, value⟩ := syncProgress_progress targets (inv.previous unfinished mig now)
  rw [value]
  obtain ⟨low, top⟩ := clampSyncRange_range (buildRecord w.vmop mig now).previousProgress
  obtain ⟨range, limited, above⟩ := nextProgress_range low top mig.iterates target stalled
  refine ⟨range, fun p reported => ?_⟩
  have parsed : (buildRecord w.vmop mig now).previousProgress = p := by
    simp only [buildRecord, mem_def.mp reported, parsePercent]
  rw [parsed] at above limited ⊢
  have clamped : clampSyncRange p = if p < 10 then 10 else p := by
    unfold clampSyncRange syncRangeMin syncRangeMax
    have := high p reported
    split
    · rfl
    · rw [if_neg (by omega)]
  have cap : clampSyncRange p ≤ stageCap mig.iterates := by
    rcases counted with counted | early
    · rw [counted]
      exact (clampSyncRange_range p).2
    have := early p reported
    rw [clamped]
    cases mig.iterates <;> simp only [stageCap, Bool.false_eq_true, if_false, if_true] <;> split <;> omega
  have atLeast : p ≤ clampSyncRange p := by
    rw [clamped]
    split <;> omega
  refine ⟨atLeast.trans (above cap), fun inRange => ?_⟩
  rw [clampSyncRange_of_range inRange (high p reported)] at limited ⊢
  exact limited

theorem Inv.measured_sync (inv : Inv w) (targets : Targets R) (unfinished : w.vmop.phase.isFinished = false)
    (mig : Migration R) (now : R) (sync : syncs reason) (top : 90 ≤ ceiling mig)
    (below : ∀ p ∈ w.vmop.progress, p ≤ 90) (counted : mig.iterates ∨ ∀ p ∈ w.vmop.progress, p ≤ 45) :
    Measured w mig reason (w.calculateMigrationProgress targets mig reason now) := by
  obtain ⟨range, follows⟩ := inv.sync_range targets unfinished mig now below counted
  have value : w.calculateMigrationProgress targets mig reason now =
      ((syncProgress targets w.store (buildRecord w.vmop mig now)).progress,
        some (syncProgress targets w.store (buildRecord w.vmop mig now))) := by
    rcases sync with rfl | rfl <;> rfl
  rw [value]
  refine ⟨fun p reported => (follows p reported).1, range.2.trans top, ?_, ?_, fun _ => range, ?_⟩
  · rintro state ⟨⟩
    exact ⟨rfl, range⟩
  · intro high
    omega
  · exact fun _ p reported inRange => (follows p reported).2 inRange

def World.measuredReason (w : World R) (mig : Migration R) (now : R) (target : TargetPod) (slot : SlotWait) :
    ReasonCompleted :=
  if mig.phase = .failed then w.failedReason mig else w.inProgressReason mig now target slot

/-- What KubeVirt shows of the migration at a pass:
    - a sample that the percentage is taken from lacks the iteration counter only up to the ceiling of the bulk stage;
    - the migration is not shown as completed after the guest was reported to run on the target;
    - a failure is not put down to the target pod or its disks, nor to convergence after the guest was handed over. -/
def Steady (w : World R) : Event R → Prop
  | .pass now target slot => ∀ mig ∈ w.migration,
      (syncs (w.measuredReason mig now target slot) → mig.iterates ∨ ∀ p ∈ w.vmop.progress, p ≤ 45) ∧
      (mig.completed → mig.phase.rank < 4 → w.vmop.completedReason ≠ .targetResumed) ∧
      (mig.phase = .failed → getFailedReason mig ≠ .targetUnschedulable ∧ getFailedReason mig ≠ .targetDiskError ∧
        (getFailedReason mig = .notConverging → mig.completed = false ∧ mig.resumed = false))
  | _ => True

theorem Inv.measured_inProgress (inv : Inv w) (targets : Targets R) (unfinished : w.vmop.phase.isFinished = false)
    (current : w.migration = some mig) (running : mig.phase.rank < 4) (now : R)
    (counted : syncs (w.inProgressReason mig now .healthy .none) → mig.iterates ∨ ∀ p ∈ w.vmop.progress, p ≤ 45)
    (notBack : mig.completed → w.vmop.completedReason ≠ .targetResumed) :
    Measured w mig (w.inProgressReason mig now .healthy .none)
      (w.calculateMigrationProgress targets mig (w.inProgressReason mig now .healthy .none) now) := by
  unfold inProgressReason at counted ⊢
  dsimp only [getInProgressReason] at counted ⊢
  by_cases completed : mig.completed = true
  · rw [if_pos completed, if_neg (by simp)]
    refine ⟨fun p reported => ?_, ?_, nofun, fun high => ?_, nofun, nofun⟩
    · -- 92 was reported only as long as the guest ran on the target and the migration was not completed.
      by_contra high
      refine notBack completed (inv.resumed unfinished p reported ?_)
      exact lt_of_not_ge high
    · rw [ceiling, if_pos (.inl completed)]
      exact (by decide : (91 : Int) ≤ 92)
    · exact absurd high (lt_irrefl _)
  rw [if_neg completed]
  by_cases resumed : mig.resumed = true
  · rw [if_pos resumed, if_neg (by simp)]
    refine ⟨fun p reported => ?_, ?_, nofun, fun _ => rfl, nofun, nofun⟩
    · have top := inv.below unfinished mig current p reported
      rwa [ceiling, if_pos (.inr resumed)] at top
    rw [ceiling, if_pos (.inr resumed)]
    exact le_refl (92 : Int)
  rw [if_neg completed, if_neg resumed] at counted
  rw [if_neg resumed]
  have top : ceiling mig = phaseCeiling mig.phase := if_neg (not_or.mpr ⟨completed, resumed⟩)
  have below := inv.below unfinished mig current
  have syncing (phase : phaseReason mig.phase = .syncing) (top : ceiling mig = 90) : Measured w mig
      (if phaseReason mig.phase = .syncing ∧ isNotConverging w.store (buildRecord w.vmop mig now) = true then
        .notConverging else phaseReason mig.phase)
      (w.calculateMigrationProgress targets mig
        (if phaseReason mig.phase = .syncing ∧ isNotConverging w.store (buildRecord w.vmop mig now) = true then
          .notConverging else phaseReason mig.phase) now) := by
    have sync : syncs (if phaseReason mig.phase = .syncing ∧
        isNotConverging w.store (buildRecord w.vmop mig now) = true then .notConverging
        else phaseReason mig.phase) := by
      split
      · exact .inr rfl
      · exact .inl phase
    exact inv.measured_sync targets unfinished mig now sync top.ge (fun p there => top ▸ below p there)
      (counted sync)
  cases phase : mig.phase with
  | unset | pending | scheduling | scheduled | preparingTarget =>
    rw [phase] at top
    exact inv.measured_fixed unfinished current top (by decide) (by simp [phaseReason, syncs])
  | targetReady | waitingForSync | synchronizing | running =>
    rw [phase] at top syncing
    exact syncing rfl top
  | succeeded | failed =>
    rw [phase] at running
    exact absurd running (by decide)

variable {targets : Targets R} {now : R}

theorem Inv.reported (inv : Inv w) (current : w.migration = some mig) {measured : ReasonCompleted}
    (phase : OperationPhase) (value : Measured w mig measured (w.calculateMigrationProgress targets mig measured now))
    (same : syncs reason → reason = measured) : Reported w (w.report targets mig phase measured reason now) where
  forward p reported := ⟨_, rfl, value.forward p reported⟩
  range sync := ⟨_, rfl, value.range (same sync ▸ sync)⟩
  limited before sync p reported q written := by
    cases written
    obtain ⟨_, reported', low, -⟩ := inv.range before
    cases (mem_def.mp reported).symm.trans reported'
    rw [current]
    exact value.limited (same sync ▸ sync) p reported low

theorem Measured.inv (current : w.migration = some mig) (phase : OperationPhase)
    (value : Measured w mig reason (w.calculateMigrationProgress targets mig reason now)) :
    Inv (w.report targets mig phase reason reason now) where
  range sync := ⟨_, rfl, value.range sync⟩
  below _ shown there p written := by
    cases written
    cases (mem_def.mp there).symm.trans current
    exact value.below
  stored _ state remembered := by
    obtain ⟨same, range⟩ := value.stored state remembered
    exact ⟨congrArg some same, range⟩
  resumed _ p written high := by
    cases written
    exact value.resumed high

omit [Field R] [LinearOrder R] [FloorRing R] in
theorem getFailedReason_cases (mig : Migration R) (pod : getFailedReason mig ≠ .targetUnschedulable)
    (disks : getFailedReason mig ≠ .targetDiskError) :
    getFailedReason mig = .aborted ∨ getFailedReason mig = .notConverging ∨ getFailedReason mig = .failed := by
  revert pod disks
  unfold getFailedReason
  split
  · exact fun _ _ => .inl rfl
  split
  · exact fun _ _ => .inr (.inl rfl)
  split
  · exact fun _ _ => .inr (.inr rfl)
  dsimp only
  split
  · exact fun pod _ => absurd rfl pod
  split
  · exact fun _ disks => absurd rfl disks
  · exact fun _ _ => .inr (.inr rfl)

theorem Inv.kept (targets : Targets R) (now : R) (plain : reason = .aborted ∨ reason = .failed) :
    Reported w (w.report targets mig .failed reason reason now) ∧
      Inv (w.report targets mig .failed reason reason now) := by
  have value : w.calculateMigrationProgress targets mig reason now = (parsePercent w.vmop.progress, none) := by
    rcases plain with rfl | rfl <;> rfl
  have other : ¬syncs reason := by
    rcases plain with rfl | rfl <;> simp [syncs]
  refine ⟨⟨fun p reported => ⟨(w.calculateMigrationProgress targets mig reason now).1, rfl, ?_⟩,
      fun sync => absurd sync other, fun _ sync => absurd sync other⟩,
    ⟨fun sync => absurd sync other, nofun, nofun, nofun⟩⟩
  rw [value, mem_def.mp reported]
  exact le_refl p

theorem Inv.failed (inv : Inv w) (targets : Targets R) (unfinished : w.vmop.phase.isFinished = false)
    (current : w.migration = some mig) (now : R) (phase : mig.phase = .failed)
    (counted : syncs (w.failedReason mig) → mig.iterates ∨ ∀ p ∈ w.vmop.progress, p ≤ 45)
    (blamed : getFailedReason mig ≠ .targetUnschedulable ∧ getFailedReason mig ≠ .targetDiskError ∧
      (getFailedReason mig = .notConverging → mig.completed = false ∧ mig.resumed = false)) :
    Reported w (w.report targets mig .failed (w.failedReason mig) (w.failedReason mig) now) ∧
      Inv (w.report targets mig .failed (w.failedReason mig) (w.failedReason mig) now) := by
  have top : 90 ≤ ceiling mig := by
    unfold ceiling
    split
    · decide
    rw [phase]
    decide
  have measured (reason : w.failedReason mig = .notConverging) (below : ∀ p ∈ w.vmop.progress, p ≤ 90) :
      Reported w (w.report targets mig .failed (w.failedReason mig) (w.failedReason mig) now) ∧
        Inv (w.report targets mig .failed (w.failedReason mig) (w.failedReason mig) now) := by
    have sync : syncs (w.failedReason mig) := .inr reason
    have value := inv.measured_sync targets unfinished mig now sync top below (counted sync)
    exact ⟨inv.reported current .failed value fun _ => rfl, value.inv current .failed⟩
  obtain ⟨pod, disks, converges⟩ := blamed
  by_cases before : getFailedReason mig = .failed ∧ w.vmop.completedReason = .notConverging
  · -- The last pass was in the syncing stage, so what it reported is in its range.
    obtain ⟨_, reported, -, high⟩ := inv.range (.inr before.2)
    refine measured (if_pos before) fun _ reported' => ?_
    cases (mem_def.mp reported').symm.trans reported
    exact high
  have reason : w.failedReason mig = getFailedReason mig := if_neg before
  rcases getFailedReason_cases mig pod disks with plain | notConverging | plain
  · exact Inv.kept targets now (.inl (reason.trans plain))
  · obtain ⟨completed, resumed⟩ := converges notConverging
    refine measured (reason.trans notConverging) fun p reported => ?_
    have high := inv.below unfinished mig current p reported
    rw [ceiling, completed, resumed, if_neg (by simp), phase] at high
    exact high
  · exact Inv.kept targets now (.inr (reason.trans plain))

theorem Inv.pass (inv : Inv w) (targets : Targets R) (unfinished : w.vmop.phase.isFinished = false)
    (steady : Steady w (.pass now .healthy .none)) : Reported w (w.syncOperationComplete targets now .healthy .none) ∧
      Inv (w.syncOperationComplete targets now .healthy .none) := by
  unfold syncOperationComplete
  cases current : w.migration with
  | none =>
    have other : ¬syncs .operationFailed := by simp [syncs]
    refine ⟨⟨fun p reported => ⟨p, reported, le_refl p⟩,
      fun sync => absurd sync other, fun _ sync => absurd sync other⟩,
      ⟨fun sync => absurd sync other, nofun, nofun, nofun⟩⟩
  | some mig =>
    obtain ⟨counted, notBack, blamed⟩ := steady mig current
    have inProgress (running : mig.phase.rank < 4) :
        let reason := w.inProgressReason mig now .healthy .none
        let t := if isTargetPreparationStalled reason w.vmop.completed now then
            { w.report targets mig .failed reason .operationFailed now with migration := none }
          else if reason = .migrationPending ∨ reason = .waitingForSyncSlot then
            w.report targets mig .pending reason reason now
          else w.report targets mig .inProgress reason reason now
        Reported w t ∧ Inv t := by
      have unfailed : mig.phase ≠ .failed := by
        intro failed
        rw [failed] at running
        exact absurd running (by decide)
      rw [measuredReason, if_neg unfailed] at counted
      have value := inv.measured_inProgress targets unfinished current running now counted fun completed =>
        notBack completed running
      dsimp only
      split
      · have other : ¬syncs .operationFailed := by simp [syncs]
        have reported := inv.reported current .failed value fun sync => absurd sync other
        exact ⟨{ reported with },
          ⟨fun sync => absurd sync other, nofun, nofun, nofun⟩⟩
      split
      · exact ⟨inv.reported current .pending value fun _ => rfl, value.inv current .pending⟩
      · exact ⟨inv.reported current .inProgress value fun _ => rfl, value.inv current .inProgress⟩
    dsimp only
    split
    · rename_i phase
      rw [measuredReason, if_pos phase] at counted
      exact inv.failed targets unfinished current now phase counted (blamed phase)
    · have other : ¬syncs .migrationCompleted := by simp [syncs]
      refine ⟨⟨fun p reported => ⟨100, rfl, ?_⟩, fun sync => absurd sync other, fun _ sync => absurd sync other⟩,
        ⟨fun sync => absurd sync other, nofun, nofun, nofun⟩⟩
      have high := inv.below unfinished mig current p reported
      have top := (phaseCeiling_mono (le_refl mig.phase.rank)).2
      unfold ceiling at high
      split at high <;> omega
    rename_i unfailed unsucceeded
    refine inProgress ?_
    cases phase : mig.phase <;> first
      | exact absurd phase unfailed
      | exact absurd phase unsucceeded
      | decide

omit [Field R] [LinearOrder R] [FloorRing R] in
theorem Inv.start (creationTimestamp : R) (mig : Migration R) : Inv (start creationTimestamp mig) :=
  ⟨fun sync => absurd sync (by simp [World.start, VMOP.completedReason, syncs]),
    fun _ _ _ _ => nofun, fun _ _ => nofun, fun _ _ => nofun⟩

theorem Inv.step {t : World R} {event : Event R} (inv : Inv w) (lawful : Forward w event ∧ Steady w event)
    (moved : w.step targets event = some t) : Reported w t ∧ Inv t := by
  have same (vmop : t.vmop = w.vmop) : Reported w t := by
    refine ⟨?_, ?_, ?_⟩ <;> rw [vmop]
    · exact fun p reported => ⟨p, reported, le_refl p⟩
    · exact inv.range
    intro _ _ p reported q written
    cases (mem_def.mp reported).symm.trans written
    cases w.migration.any Migration.iterates <;> simp [maxStep]
  cases event with
  | changed =>
    cases moved
    refine ⟨same rfl, inv.range, ?_, inv.stored, inv.resumed⟩
    intro unfinished new there p reported
    cases there
    obtain ⟨some, forward⟩ := lawful.1
    obtain ⟨old, current⟩ := isSome_iff_exists.mp some
    obtain ⟨rank, resumed, completed⟩ := forward old current
    exact (inv.below unfinished old current p reported).trans (ceiling_mono rank resumed completed)
  | restarted =>
    cases moved
    exact ⟨same rfl, inv.range, inv.below, nofun, inv.resumed⟩
  | pass =>
    obtain ⟨⟨rfl, rfl⟩, steady⟩ := lawful
    simp only [World.step] at moved
    split at moved
    · cases moved
      exact ⟨same rfl, inv.range, inv.below, nofun, inv.resumed⟩
    rename_i unfinished
    cases moved
    exact inv.pass targets (Bool.eq_false_of_not_eq_true unfinished) steady

/-- In every run of a migration that moves forward and is shown steadily, the reported percentage never goes back, is
    between 10 and 90 in the syncing stage, and grows there by at most one step at a time. -/
theorem progress_never_goes_back {targets : Targets R} {creationTimestamp : R} {mig : Migration R}
    {events : List (Event R)} (along : Along (World.step targets) (fun w event => Forward w event ∧ Steady w event)
      (World.start creationTimestamp mig) events) :
    Along (World.step targets) (fun w event => ∀ t, w.step targets event = some t → Reported w t)
      (World.start creationTimestamp mig) events :=
  Along.of_invariant (fun _ _ _ inv lawful moved => (inv.step lawful moved).2)
    (fun _ _ inv lawful _ moved => (inv.step lawful moved).1) (Inv.start creationTimestamp mig) along

structure Bounded (w : World R) : Prop where
  stored : ∀ state ∈ w.store, 10 ≤ state.progress ∧ state.progress ≤ 90
  shown : w.vmop.phase ≠ .completed → ∀ p ∈ w.vmop.progress, 0 ≤ p ∧ p ≤ 92
  done : w.vmop.phase = .completed → w.vmop.progress = some 100

section Bounded

variable (bounded : Bounded w)
include bounded

theorem Bounded.syncProgress (targets : Targets R) (record : Record R) :
    10 ≤ (syncProgress targets w.store record).progress ∧ (syncProgress targets w.store record).progress ≤ 90 := by
  have clamped := clampSyncRange_range record.previousProgress
  have known : 10 ≤ (getState w.store record).progress ∧ (getState w.store record).progress ≤ 90 := by
    unfold getState
    cases stored : w.store with
    | none => exact clamped
    | some state => exact bounded.stored state stored
  unfold Progress.syncProgress
  dsimp only
  split
  · exact (nextProgress_range known.1 known.2 _ _ _).1
  · exact (nextProgress_range clamped.1 clamped.2 _ _ _).1

theorem Bounded.report (unfinished : w.vmop.phase ≠ .completed) {phase : OperationPhase} (other : phase ≠ .completed)
    {measured : ReasonCompleted} (running : measured ≠ .migrationCompleted) :
    Bounded (w.report targets mig phase measured reason now) := by
  have range := bounded.syncProgress targets (buildRecord w.vmop mig now)
  have kept : 0 ≤ parsePercent w.vmop.progress ∧ parsePercent w.vmop.progress ≤ 92 := by
    cases shown : w.vmop.progress with
    | none => decide
    | some p => exact bounded.shown unfinished p shown
  have stored := bounded.stored
  constructor <;> simp only [World.report, VMOP.setCompleted] <;> cases measured <;>
    grind [calculateMigrationProgress]

theorem Bounded.step {t : World R} {event : Event R} (moved : w.step targets event = some t) : Bounded t := by
  cases event with
  | changed =>
    cases moved
    exact { bounded with }
  | restarted =>
    cases moved
    exact { bounded with stored := nofun }
  | pass now target slot =>
    simp only [World.step] at moved
    split at moved <;> cases moved
    · exact { bounded with stored := nofun }
    rename_i unfinished
    have open' : w.vmop.phase ≠ .completed := fun done => unfinished (by rw [done]; rfl)
    unfold syncOperationComplete
    split
    · exact ⟨bounded.stored, fun _ => bounded.shown open', nofun⟩
    rename_i mig _
    have running : w.inProgressReason mig now target slot ≠ .migrationCompleted := by
      unfold inProgressReason getInProgressReason phaseReason
      cases target <;> cases slot <;> grind
    split
    · exact bounded.report open' (by simp) (by grind [failedReason, getFailedReason])
    · exact ⟨bounded.stored, fun other => absurd rfl other, fun _ => rfl⟩
    dsimp only
    split
    · have failed : Bounded (w.report targets mig .failed _ .operationFailed now) :=
        bounded.report open' (by simp) running
      exact { failed with }
    split <;> exact bounded.report open' (by simp) running

end Bounded

/-- However the migration is shown and whenever the controller restarts, the percentage is one, and it is 100 for the
    completed operations and no other. -/
theorem progress_bounded (targets : Targets R) (creationTimestamp : R) (mig : Migration R) (events : List (Event R)) :
    Along (World.step targets) (fun w _ => (∀ p ∈ w.vmop.progress, 0 ≤ p ∧ p ≤ 100) ∧
      (w.vmop.progress = some 100 ↔ w.vmop.phase = .completed)) (World.start creationTimestamp mig) events := by
  have start : Bounded (World.start creationTimestamp mig) := ⟨nofun, fun _ => nofun, nofun⟩
  refine (Along.of_preserved (fun _ _ _ inv => inv.step) start events).mono fun w _ inv => ?_
  by_cases completed : w.vmop.phase = .completed
  · simp [inv.done completed, completed]
  · cases shown : w.vmop.progress with
    | none => simp [completed]
    | some p =>
      have range := inv.shown completed p shown
      simp only [Option.mem_some_iff, forall_eq', some.injEq, completed, iff_false]
      omega

end Run

instance : DecidablePred syncs := fun reason => inferInstanceAs (Decidable (reason = _ ∨ reason = _))

instance (w : World ℚ) (event : Event ℚ) : Decidable (Forward w event) := by
  unfold Forward
  split <;> infer_instance

instance (w : World ℚ) (event : Event ℚ) : Decidable (Steady w event) := by
  unfold Steady
  split <;> infer_instance

def fullStages : Targets ℚ := ⟨fun _ _ => 45, fun _ _ _ => 90⟩

def migrationIn (phase : MigrationPhase) (iteration : Option Nat) (ready completed : Bool) : Migration ℚ where
  phase
  migrationState := some
    { startTimestamp := some 0, targetNodeDomainReadyTimestamp := if ready then some 1 else none, completed,
      abortRequested := false, abortSucceeded := false, failureReason := "", allowAutoConverge := some true,
      transferStatus := some ⟨iteration, none, some 1024, some 0, some 1024⟩ }
  failed := none

def passes (count : Nat) : List (Event ℚ) :=
  (List.range count).map fun (now : Nat) => Event.pass (now : ℚ) .healthy .none

def wholeMigration : List (Event ℚ) :=
  passes 2 ++ [.changed (migrationIn .running none false false)] ++ passes 3 ++ [.restarted] ++
    [.changed (migrationIn .running (some 1) false false)] ++ passes 4 ++
    [.changed (migrationIn .running (some 2) false true)] ++ passes 1 ++
    [.changed (migrationIn .succeeded (some 2) true true)] ++ passes 1

theorem progress_never_goes_back_wholeMigration :
    ((run (World.step fullStages) (World.start 0 (migrationIn .pending none false false)) wholeMigration).bind
        fun w => w.vmop.progress) = some 100 ∧
      Along (World.step fullStages) (fun w event => ∀ t, w.step fullStages event = some t → Reported w t)
        (World.start 0 (migrationIn .pending none false false)) wholeMigration :=
  ⟨by decide +kernel, progress_never_goes_back (by decide +kernel)⟩

/-- The guest is seen to run on the target before the migration is seen to be completed. -/
def resumedFirst : List (Event ℚ) :=
  [.changed (migrationIn .running (some 1) true false)] ++ passes 1 ++
    [.changed (migrationIn .running (some 1) true true)]

/-- The migration is at 50% and a sample comes without the iteration counter. -/
def counterMissing : List (Event ℚ) :=
  [.changed (migrationIn .running (some 1) false false)] ++ passes 8 ++
    [.changed (migrationIn .running none false false)]

/-- The percentage goes back from 92 to 91 when the two last steps come in the other order, and from 50 to 45 when a
    sample comes without the iteration counter. -/
theorem progress_goes_back :
    let start := World.start 0 (migrationIn .pending none false false)
    let reported (events : List (Event ℚ)) :=
      (run (step fullStages) start events).bind fun w => w.vmop.progress
    (Along (step fullStages) Forward start (resumedFirst ++ passes 1) ∧
        reported resumedFirst = some 92 ∧ reported (resumedFirst ++ passes 1) = some 91) ∧
      Along (step fullStages) Forward start (counterMissing ++ passes 1) ∧
        reported counterMissing = some 50 ∧ reported (counterMissing ++ passes 1) = some 45 := by
  decide +kernel

end Virtualization.Operation.Progress
