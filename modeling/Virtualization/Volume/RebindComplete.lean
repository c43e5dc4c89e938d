import Virtualization.Volume.RebindRun

namespace Virtualization.Volume

open Library List Option Store Transfer World

variable {j : Transfer} {w : World} {pv : PersistentVolume} {t : PersistentVolumeClaim} {u : World} {stage : Stage}

section After

def Stage.target : Stage → PersistentVolumeClaim
  | .fetchPrime copy => copy
  | .fetchVolume call | .readVolume call _ | .updateVolume call _ _ | .readTarget call | .updateTarget call _
  | .deletePrime call =>
    call.target

structure Sure (w : World) : Prop where
  stage : ∀ stage, w.call = some stage → stage.target.phase = .bound
  answer : w.answer ≠ some false

theorem Sure.goOn (w : World) (bound : stage.target.phase = .bound) : Sure (w.goOn stage) := by
  refine ⟨fun _ there => ?_, nofun⟩
  cases there
  exact bound

theorem Sure.returned (w : World) {answer : Option Bool} (sure : answer ≠ some false) : Sure (w.returned answer) :=
  ⟨fun _ there => (some_ne_none _ there.symm).elim, sure⟩

variable {call : Call}

theorem Sure.afterDelete (w : World) (bound : call.target.phase = .bound) : Sure (w.afterDelete call) := by
  unfold World.afterDelete
  rw [if_neg (not_not.mpr bound)]
  exact .goOn w bound

theorem Sure.afterTarget (w : World) (bound : call.target.phase = .bound) : Sure (w.afterTarget call) := by
  unfold World.afterTarget
  split
  · exact .goOn w bound
  · exact .afterDelete w bound

theorem Sure.afterTask (w : World) (task : Task) (bound : call.target.phase = .bound) :
    Sure (w.afterTask call task) := by
  cases task with
  | retain | rebind => exact .goOn w bound
  | restore => exact .returned w nofun

theorem Sure.move (sure : Sure w) (holds : j.Holds w pv t) (running : w.call = some stage) (answer : Answer) :
    Sure (w.move j.prime j.target stage answer) := by
  have bound := sure.stage stage running
  obtain ⟨staged, -⟩ := holds.stage stage running
  unfold World.move
  cases stage with
  | updateVolume _ task =>
    simp only [updateVolume]
    split
    · exact .afterTask _ task bound
    · exact .goOn _ bound
    all_goals exact .returned _ nofun
  | updateTarget =>
    simp only [updateTarget]
    split
    · exact .afterTarget _ bound
    · exact .goOn _ bound
    all_goals exact .returned _ nofun
  | deletePrime =>
    cases answer with
    | ok => exact .afterDelete _ bound
    | lost | error | conflict => exact .returned _ nofun
  | fetchPrime =>
    dsimp only
    split
    · exact .returned _ nofun
    unfold resolve
    rw [staged.named bound]
    exact .goOn _ bound
  | fetchVolume =>
    dsimp only
    split
    · exact .returned _ nofun
    · exact .goOn _ bound
  | readVolume _ task =>
    dsimp only
    split
    · exact .returned _ nofun
    split
    · exact .returned _ nofun
    split
    · exact .afterTask _ task bound
    · exact .goOn _ bound
  | readTarget =>
    dsimp only
    split
    · exact .returned _ nofun
    split
    · exact .returned _ nofun
    split
    · exact .afterTarget _ bound
    · exact .goOn _ bound

theorem Sure.step {event : Event} (sure : Sure w) (holds : j.Holds w pv t) (bound : t.phase = .bound)
    (moved : w.step j.prime j.target event = some u) : Sure u := by
  unfold World.step at moved
  split at moved
  · split at moved
    · cases moved
    split at moved
    · cases moved
      exact .returned w (by simp)
    rw [holds.target] at moved
    cases moved
    exact .goOn w bound
  · obtain ⟨_, running, rfl⟩ := map_eq_some_iff.mp moved
    exact sure.move holds running _
  · cases moved
    exact .returned w (by simp)
  · split at moved
    · cases moved
    split at moved <;> cases moved
    exact ⟨sure.stage, by simp⟩
  · split at moved
    · cases moved
    split at moved <;> cases moved
    exact ⟨sure.stage, by simp⟩
  · split at moved <;> cases moved
    exact ⟨sure.stage, by simp⟩
  · obtain ⟨_, _, rfl⟩ := map_eq_some_iff.mp moved
    exact ⟨sure.stage, by simp⟩
  obtain ⟨_, _, rfl⟩ := map_eq_some_iff.mp moved
  exact ⟨sure.stage, by simp⟩

structure Transfer.Complete (j : Transfer) (pv₀ : PersistentVolume) (t₀ : PersistentVolumeClaim) (w : World)
    (pv : PersistentVolume) (t : PersistentVolumeClaim) : Prop extends j.Holds w pv t where
  bound : t.phase = .bound
  ref : pv.claimRef = pv₀.claimRef
  same : stamp 0 t = stamp 0 t₀
  sure : Sure w

variable {pv₀ : PersistentVolume} {t₀ : PersistentVolumeClaim} (complete : j.Complete pv₀ t₀ w pv t)
include complete

theorem Transfer.Complete.step {event : Event}
    (moved : w.step j.prime j.target event = some u) : ∃ pv' t', j.Complete pv₀ t₀ u pv' t' := by
  obtain ⟨pv', t', holds, onward⟩ := complete.toHolds.step moved
  have refers := (complete.facts.volumeName j.volume (complete.facts.bound complete.bound)).2
  have same := onward.target complete.bound
  have phase : (stamp 0 t').phase = (stamp 0 t).phase := by rw [same]
  exact ⟨pv', t', holds, phase.trans complete.bound, (onward.ref refers).trans complete.ref,
    same.trans complete.same, complete.sure.step complete.toHolds complete.bound moved⟩

theorem Transfer.Complete.volume_same (plain : j.Plain pv) (before : j.Plain pv₀)
    (named : pv₀.name = j.volume) : stamp 0 pv = stamp 0 pv₀ := by
  have name : pv.name = j.volume := key_of_get? complete.volume
  obtain ⟨original, policy⟩ := plain
  obtain ⟨original₀, policy₀⟩ := before
  have ref := complete.ref
  cases pv
  cases pv₀
  subst name named original original₀ policy policy₀ ref
  rfl

end After

variable {call : Call}

section Served

def Transfer.Reaches (j : Transfer) (w u : World) : Prop :=
  ∃ n, run (World.step j.prime j.target) w (List.replicate n (.move .ok)) = some u

theorem Transfer.Reaches.refl (j : Transfer) (w : World) : j.Reaches w w := ⟨0, rfl⟩

theorem Transfer.Reaches.trans {u x : World} (first : j.Reaches w u) (second : j.Reaches u x) : j.Reaches w x := by
  obtain ⟨n, first⟩ := first
  obtain ⟨m, second⟩ := second
  refine ⟨n + m, ?_⟩
  rw [replicate_add, run_append, first]
  exact second

theorem Transfer.Reaches.move (running : w.call = some stage) : j.Reaches w (w.move j.prime j.target stage .ok) := by
  refine ⟨1, ?_⟩
  simp [run, step, running]

theorem Transfer.Reaches.called (idle : w.call = none) (found : w.claims.get? j.target = some t)
    (reaches : j.Reaches (w.goOn (.fetchPrime t)) u) :
    ∃ n, run (step j.prime j.target) w (.call true :: replicate n (.move .ok)) = some u := by
  obtain ⟨n, reached⟩ := reaches
  refine ⟨n, ?_⟩
  have begun : w.step j.prime j.target (.call true) = some (w.goOn (.fetchPrime t)) := by
    simp [step, idle, found]
  rw [run, begun]
  exact reached

theorem Transfer.Reaches.task (call : Call) (task : Task) (found : w.volumes.get? call.pvName = some pv) :
    ∃ volumes n, j.Reaches (w.goOn (.readVolume call task)) ({ w with volumes }.afterTask call task) ∧
      volumes.get? call.pvName = some (stamp n ((task.mutate call.target pv).getD pv)) := by
  have read : j.Reaches (w.goOn (.readVolume call task))
      ((w.goOn (.readVolume call task)).move j.prime j.target (.readVolume call task) .ok) := .move rfl
  have there : (w.goOn (.readVolume call task)).volumes.get? call.pvName = some pv := found
  unfold World.move at read
  simp only [ne_eq, not_true_eq_false, if_false, there] at read
  cases changed : task.mutate call.target pv with
  | none =>
    rw [changed] at read
    refine ⟨w.volumes, pv.resourceVersion, ?_, found⟩
    cases task <;> exact read
  | some new =>
    rw [changed] at read
    obtain ⟨sameName, sameVersion, different⟩ := mutate_name changed
    have named : new.name = call.pvName := sameName.trans (key_of_get? found)
    have keyed : key new = call.pvName := named
    have updated : w.volumes.update new = .ok (w.volumes.write new) :=
      update_of_current (keyed ▸ found) sameVersion.symm different.symm
    refine ⟨w.volumes.write new, w.volumes.revision + 1, read.trans ?_, get?_write_self found named⟩
    have write : j.Reaches ((w.goOn (.readVolume call task)).goOn (.updateVolume call task new))
        (((w.goOn (.readVolume call task)).goOn (.updateVolume call task new)).move j.prime j.target
          (.updateVolume call task new) .ok) := .move rfl
    simp only [World.move, World.updateVolume, World.goOn, updated, request] at write
    cases task <;> exact write

theorem Transfer.Reaches.stored (task : Task) (stored : j.Stored w pv t)
    (called : j.Called t (w.claims.get? j.prime) call) (ready : Ready pv t (w.claims.get? j.prime) task) :
    ∃ volumes pv', j.Reaches (w.goOn (.readVolume call task)) ({ w with volumes }.afterTask call task) ∧
      j.Stored { w with volumes } pv' t ∧ j.Done pv' task := by
  have found : w.volumes.get? call.pvName = some pv := by
    rw [called.pvName]
    exact stored.volume
  obtain ⟨volumes, n, reaches, after⟩ := Reaches.task (j := j) call task found
  rw [called.pvName] at after
  obtain ⟨facts, done⟩ := stored.facts.task called ready
  refine ⟨volumes, _, reaches, ⟨after, stored.target, facts.stamped n t.resourceVersion⟩, ?_⟩
  cases task <;> exact done

variable (stored : j.Stored w pv t)
include stored

theorem Transfer.Reaches.afterTarget (called : j.Called t (w.claims.get? j.prime) call) (done : j.Done pv .rebind)
    (named : t.volumeName = some j.volume) :
    ∃ claims, j.Reaches (w.afterTarget call) ({ w with claims }.afterDelete call) ∧
      j.Stored { w with claims } pv t ∧ Leaving (claims.get? j.prime) := by
  unfold World.afterTarget
  split
  · have delete : j.Reaches (w.goOn (.deletePrime call))
        ((w.goOn (.deletePrime call)).move j.prime j.target (.deletePrime call) .ok) := .move rfl
    refine ⟨deleteClaim w.claims j.prime, ?_, stored.delete done named⟩
    exact delete
  rename_i none
  refine ⟨w.claims, .refl j _, stored, called.leaving fun _ there => ?_⟩
  rw [there] at none
  simpa using none

theorem Transfer.Reaches.readTarget (called : j.Called t (w.claims.get? j.prime) call)
    (named : t.volumeName = some j.volume) : j.Reaches (w.goOn (.readTarget call)) (w.afterTarget call) := by
  have read : j.Reaches (w.goOn (.readTarget call))
      ((w.goOn (.readTarget call)).move j.prime j.target (.readTarget call) .ok) := .move rfl
  simp only [World.move, World.goOn, ne_eq, not_true_eq_false, if_false, stored.target, pointAtVolume, named,
    called.pvName, if_true] at read
  exact read

theorem Transfer.Reaches.fetched (named : t.volumeName = some j.volume) :
    j.Reaches (w.goOn (.fetchPrime t)) (w.goOn (.readVolume
      { target := t, prime := w.claims.get? j.prime, pvName := j.volume } .retain)) := by
  let call : Call := { target := t, prime := w.claims.get? j.prime, pvName := j.volume }
  have first : j.Reaches (w.goOn (.fetchPrime t))
      ((w.goOn (.fetchPrime t)).move j.prime j.target (.fetchPrime t) .ok) := .move rfl
  have second : j.Reaches (w.goOn (.fetchVolume call))
      ((w.goOn (.fetchVolume call)).move j.prime j.target (.fetchVolume call) .ok) := .move rfl
  simp only [World.move, World.resolve, World.goOn, ne_eq, not_true_eq_false, if_false, named] at first
  simp only [World.move, World.goOn, ne_eq, not_true_eq_false, false_or, call, stored.volume, isNone_some,
    Bool.false_eq_true, if_false] at second
  exact first.trans second

theorem Transfer.Stored.completes (bound : t.phase = .bound) (idle : w.call = none) :
    ∃ n u, run (step j.prime j.target) w (.call true :: replicate n (.move .ok)) = some u ∧
      u.answer = some true := by
  have named := stored.facts.bound bound
  have called : j.Called t (w.claims.get? j.prime)
      { target := t, prime := w.claims.get? j.prime, pvName := j.volume } :=
    ⟨⟨key_of_get? stored.target, stored.facts.uid, fun name named => (stored.facts.volumeName name named).1,
      stored.facts.bound, id⟩, rfl, id⟩
  obtain ⟨_, _, retain, stored₁, done₁⟩ := Reaches.stored .retain stored called True.intro
  obtain ⟨_, _, rebind, stored₂, done₂⟩ := Reaches.stored .rebind stored₁ called done₁
  have target := Reaches.readTarget stored₂ called named
  obtain ⟨claims, delete, stored₃, leaving⟩ := Reaches.afterTarget stored₂ called done₂ named
  have called₃ : j.Called t (claims.get? j.prime)
      { target := t, prime := w.claims.get? j.prime, pvName := j.volume } := ⟨called.copy, rfl, fun _ => leaving⟩
  obtain ⟨_, _, restore, -, -⟩ := Reaches.stored .restore stored₃ called₃ ⟨bound, leaving⟩
  rw [World.afterDelete, if_neg (not_not.mpr bound)] at delete
  obtain ⟨n, whole⟩ := Reaches.called idle stored.target ((Reaches.fetched stored named).trans <| retain.trans <|
    rebind.trans <| target.trans <| delete.trans restore)
  exact ⟨n, _, whole, rfl⟩

end Served

structure Transfer.Begins (j : Transfer) (w : World) : Prop where
  volume : ∃ pv, w.volumes.get? j.volume = some pv ∧ j.Plain pv ∧ pv.RefersTo j.prime j.primeUID
  prime : ∃ pvc, w.claims.get? j.prime = some pvc ∧ pvc.uid = j.primeUID ∧ pvc.volumeName = some j.volume ∧
    pvc.deleting = false
  target : ∃ pvc, w.claims.get? j.target = some pvc ∧ pvc.uid = j.targetUID ∧ pvc.volumeName = none ∧
    pvc.phase ≠ .bound ∧ pvc.deleting = false
  call : w.call = none
  answer : w.answer = none

theorem Transfer.Begins.holds (begins : j.Begins w) : ∃ pv t, j.Holds w pv t := by
  obtain ⟨pv, volume, plain, refers⟩ := begins.volume
  obtain ⟨pvc, prime, primeUID, primeVolume, here⟩ := begins.prime
  obtain ⟨t, target, uid, unnamed, unbound, staying⟩ := begins.target
  have present : ¬Leaving (w.claims.get? j.prime) := by
    intro leaving
    have deleting := leaving pvc prime
    rw [here] at deleting
    cases deleting
  refine ⟨pv, t, ⟨volume, target, .inl plain, .inr ⟨refers, present⟩, uid, staying, fun name named => ?_,
    fun bound => absurd bound unbound, fun other there => ?_, fun leaving => absurd leaving present⟩,
    fun stage running => ?_, fun done => ?_⟩
  · rw [unnamed] at named
    cases named
  · cases prime.symm.trans there
    exact ⟨primeUID, primeVolume⟩
  · rw [begins.call] at running
    cases running
  rw [begins.answer] at done
  cases done

theorem Transfer.Holds.run {events : List Event} (holds : j.Holds w pv t)
    (reached : Library.run (World.step j.prime j.target) w events = some u) : ∃ pv' t', j.Holds u pv' t' := by
  induction events generalizing w pv t with
  | nil =>
    cases reached
    exact ⟨pv, t, holds⟩
  | cons _ _ ih =>
    obtain ⟨_, moved, rest⟩ := run_cons reached
    obtain ⟨_, _, after, -⟩ := holds.step moved
    exact ih after rest

theorem Transfer.Complete.run {events : List Event} {pv₀ : PersistentVolume} {t₀ : PersistentVolumeClaim}
    (complete : j.Complete pv₀ t₀ w pv t) (reached : Library.run (World.step j.prime j.target) w events = some u) :
    ∃ pv' t', j.Complete pv₀ t₀ u pv' t' := by
  induction events generalizing w pv t with
  | nil =>
    cases reached
    exact ⟨pv, t, complete⟩
  | cons _ _ ih =>
    obtain ⟨_, moved, rest⟩ := run_cons reached
    obtain ⟨_, _, after⟩ := complete.step moved
    exact ih after rest

def Transfer.Unchanged (j : Transfer) (w u : World) : Prop :=
  (u.volumes.get? j.volume).map (stamp 0) = (w.volumes.get? j.volume).map (stamp 0) ∧
    (u.claims.get? j.target).map (stamp 0) = (w.claims.get? j.target).map (stamp 0)

structure Transfer.Completed (j : Transfer) (w : World) (pv : PersistentVolume) (t : PersistentVolumeClaim) : Prop where
  phase : t.phase = .bound
  volumeName : t.volumeName = some j.volume
  claimRef : pv.RefersTo j.target j.targetUID
  policy : pv.reclaimPolicy = j.policy
  never : ∀ later u, run (World.step j.prime j.target) w later = some u → u.answer ≠ some false
  same : ∀ later u, run (World.step j.prime j.target) w later = some u → u.answer = some true → j.Unchanged w u
  again : ∀ later u, run (World.step j.prime j.target) w later = some u → u.call = none →
    ∃ n x, run (World.step j.prime j.target) u (.call true :: List.replicate n (.move .ok)) = some x ∧
      x.answer = some true

theorem Transfer.Holds.completed (holds : j.Holds w pv t) (answered : w.answer = some true) : j.Completed w pv t := by
  obtain ⟨idle, bound, plain⟩ := holds.answered answered
  have named := holds.facts.bound bound
  have complete : j.Complete pv t w pv t := by
    refine ⟨holds, bound, rfl, rfl, fun _ running => ?_, ?_⟩
    · rw [idle] at running
      cases running
    rw [answered]
    nofun
  refine ⟨bound, named, (holds.facts.volumeName j.volume named).2, plain.2, ?_, ?_, ?_⟩
  · intro later u reached
    obtain ⟨_, _, after⟩ := complete.run reached
    exact after.sure.answer
  · intro later u reached done
    obtain ⟨_, _, after⟩ := complete.run reached
    have same := after.volume_same (after.answered done).2.2 plain (key_of_get? holds.volume)
    unfold Transfer.Unchanged
    rw [after.volume, holds.volume, after.target, holds.target]
    exact ⟨congrArg some same, congrArg some after.same⟩
  intro later u reached free
  obtain ⟨_, _, after⟩ := complete.run reached
  exact after.toStored.completes after.bound free

/-- In every run of calls that may stop anywhere, between the steps of the binder and of the volume controller, the
    volume stays; while the prime is being deleted, it belongs to the target and is retained until the target is Bound;
    and a call that answers `true` leaves it with its own policy. -/
theorem rebind_keeps_volume {events : List Event} {u : World} (begins : j.Begins w)
    (reached : run (World.step j.prime j.target) w events = some u) :
    ∃ pv t, u.volumes.get? j.volume = some pv ∧ u.claims.get? j.target = some t ∧
      (∀ pvc, u.claims.get? j.prime = some pvc → pvc.deleting = true → pv.RefersTo j.target j.targetUID ∧
        (pv.reclaimPolicy = .retain ∨ t.phase = .bound ∧ t.volumeName = some j.volume)) ∧
      (u.answer = some true → j.Completed u pv t) := by
  obtain ⟨_, _, start⟩ := begins.holds
  obtain ⟨pv, t, holds⟩ := start.run reached
  refine ⟨pv, t, holds.volume, holds.target, fun _ there deleting => ?_, holds.completed⟩
  have leaving : Leaving (u.claims.get? j.prime) := by
    rw [there, leaving_some]
    exact deleting
  obtain ⟨named, safe⟩ := holds.facts.leaving leaving
  exact ⟨(holds.facts.volumeName j.volume named).2, safe.imp_right fun bound => ⟨bound, named⟩⟩

def populated : Transfer :=
  { prime := ⟨"ns", "prime"⟩, target := ⟨"ns", "target"⟩, primeUID := 1, targetUID := 2, volume := "pv"
    policy := .delete, distinct := by decide }

def populatedWorld : World :=
  { volumes :=
      { revision := 1
        objects := [⟨"pv", 1, .delete, none, some ⟨⟨"ns", "prime"⟩, 1, 1⟩⟩]
        unique := by decide
        bounded := by decide }
    claims :=
      { revision := 1
        objects := [⟨⟨"ns", "prime"⟩, 1, 1, some "pv", .bound, false, true⟩,
          ⟨⟨"ns", "target"⟩, 2, 1, none, .pending, false, true⟩]
        unique := by decide
        bounded := by decide }
    call := none
    answer := none }

def twoCalls : List Event :=
  [.call true] ++ List.replicate 9 (.move .ok) ++ [.bind ⟨"ns", "target"⟩, .call true] ++
    List.replicate 7 (.move .ok)

theorem populated_begins : populated.Begins populatedWorld :=
  ⟨⟨_, rfl, ⟨rfl, rfl⟩, _, rfl, rfl, rfl⟩, ⟨_, rfl, rfl, rfl, rfl⟩, ⟨_, rfl, rfl, rfl, by decide, rfl⟩, rfl, rfl⟩

theorem rebind_keeps_volume_twoCalls :
    ((run (World.step populated.prime populated.target) populatedWorld twoCalls).map fun w =>
        (w.call.isNone, w.answer)) = some (true, some true) ∧
      ∀ u, run (World.step populated.prime populated.target) populatedWorld twoCalls = some u →
        ∃ pv t, u.volumes.get? "pv" = some pv ∧ u.claims.get? ⟨"ns", "target"⟩ = some t ∧
          (∀ pvc, u.claims.get? ⟨"ns", "prime"⟩ = some pvc → pvc.deleting = true → pv.RefersTo ⟨"ns", "target"⟩ 2 ∧
            (pv.reclaimPolicy = .retain ∨ t.phase = .bound ∧ t.volumeName = some "pv")) ∧
          (u.answer = some true → populated.Completed u pv t) :=
  ⟨by decide +kernel, fun _ reached => rebind_keeps_volume populated_begins reached⟩

/-- The second call restores the policy while the prime is still being deleted. -/
theorem policy_restored_before_prime_gone :
    ((run (World.step populated.prime populated.target) populatedWorld twoCalls).map fun w =>
      ((w.claims.get? populated.prime).map PersistentVolumeClaim.deleting,
        (w.volumes.get? populated.volume).map PersistentVolume.reclaimPolicy)) =
      some (some true, some .delete) := by
  decide +kernel

end Virtualization.Volume
