import Mathlib
import Virtualization.Volume.Rebind

namespace Virtualization.Volume

open Library Option PersistentVolume Store True

structure Transfer where
  (prime target : NamespacedName)
  (primeUID targetUID : Nat)
  volume : String
  policy : ReclaimPolicy
  distinct : primeUID ≠ targetUID

def PersistentVolume.RefersTo (pv : PersistentVolume) (key : NamespacedName) (uid : Nat) : Prop :=
  ∃ ref, pv.claimRef = some ref ∧ ref.key = key ∧ ref.uid = uid

def Leaving (pvc : Option PersistentVolumeClaim) : Prop := ∀ claim ∈ pvc, claim.deleting

theorem leaving_none : Leaving none := fun _ => nofun

theorem leaving_some {claim : PersistentVolumeClaim} : Leaving (some claim) ↔ claim.deleting := by
  simp [Leaving]

namespace Transfer

variable (j : Transfer) (pv : PersistentVolume)

def Plain : Prop :=
  pv.originalReclaimPolicy = none ∧ pv.reclaimPolicy = j.policy

def Parked : Prop :=
  pv.originalReclaimPolicy = some (some j.policy) ∧ pv.reclaimPolicy = .retain ∧ j.policy ≠ .retain

structure Facts (j : Transfer) (pv : PersistentVolume) (t : PersistentVolumeClaim) (p : Option PersistentVolumeClaim) :
    Prop where
  saved : j.Plain pv ∨ j.Parked pv
  ref : pv.RefersTo j.target j.targetUID ∨ pv.RefersTo j.prime j.primeUID ∧ ¬Leaving p
  uid : t.uid = j.targetUID
  staying : t.deleting = false
  volumeName : ∀ name ∈ t.volumeName, name = j.volume ∧ pv.RefersTo j.target j.targetUID
  bound : t.phase = .bound → t.volumeName = some j.volume
  prime : ∀ pvc ∈ p, pvc.uid = j.primeUID ∧ pvc.volumeName = some j.volume
  leaving : Leaving p → t.volumeName = some j.volume ∧ (pv.reclaimPolicy = .retain ∨ t.phase = .bound)

structure Copy (j : Transfer) (t copy : PersistentVolumeClaim) : Prop where
  key : copy.key = j.target
  uid : copy.uid = j.targetUID
  volumeName : ∀ name ∈ copy.volumeName, name = j.volume
  named : copy.phase = .bound → copy.volumeName = some j.volume
  bound : copy.phase = .bound → t.phase = .bound

structure Called (j : Transfer) (t : PersistentVolumeClaim) (p : Option PersistentVolumeClaim) (call : Call) :
    Prop where
  copy : j.Copy t call.target
  pvName : call.pvName = j.volume
  leaving : Leaving call.prime → Leaving p

def Ready (t : PersistentVolumeClaim) (p : Option PersistentVolumeClaim) : Task → Prop
  | .retain => True
  | .rebind => pv.reclaimPolicy = .retain
  | .restore => t.phase = .bound ∧ Leaving p

def Done : Task → Prop
  | .retain => pv.reclaimPolicy = .retain
  | .rebind => pv.reclaimPolicy = .retain ∧ pv.RefersTo j.target j.targetUID
  | .restore => j.Plain pv

def Staged (t : PersistentVolumeClaim) (p : Option PersistentVolumeClaim) : Stage → Prop
  | .fetchPrime copy => j.Copy t copy
  | .fetchVolume call => j.Called t p call
  | .readVolume call task | .updateVolume call task _ => j.Called t p call ∧ Ready pv t p task
  | .readTarget call | .updateTarget call _ => j.Called t p call ∧ j.Done pv .rebind
  | .deletePrime call => j.Called t p call ∧ j.Done pv .rebind ∧ t.volumeName = some j.volume

def Copies (w : World) : Stage → Prop
  | .updateVolume call task new => ∃ base, w.volumes.Snapshot base ∧ base.name = j.volume ∧
      task.mutate call.target base = some new
  | .updateTarget call new => ∃ base, w.claims.Snapshot base ∧ base.key = j.target ∧
      pointAtVolume call.pvName base = some new
  | _ => True

structure Stored (j : Transfer) (w : World) (pv : PersistentVolume) (t : PersistentVolumeClaim) : Prop where
  volume : w.volumes.get? j.volume = some pv
  target : w.claims.get? j.target = some t
  facts : j.Facts pv t (w.claims.get? j.prime)

structure Holds (j : Transfer) (w : World) (pv : PersistentVolume) (t : PersistentVolumeClaim) : Prop
    extends j.Stored w pv t where
  stage : ∀ stage, w.call = some stage → j.Staged pv t (w.claims.get? j.prime) stage ∧ j.Copies w stage
  answered : w.answer = some true → w.call = none ∧ t.phase = .bound ∧ j.Plain pv

end Transfer

structure Transfer.Onward (j : Transfer) (pv : PersistentVolume) (t : PersistentVolumeClaim) (pv' : PersistentVolume)
    (t' : PersistentVolumeClaim) : Prop where
  ref : pv.RefersTo j.target j.targetUID → pv'.claimRef = pv.claimRef
  target : t.phase = .bound → stamp 0 t' = stamp 0 t

theorem Transfer.Onward.refl (j : Transfer) (pv : PersistentVolume) (t : PersistentVolumeClaim) :
    j.Onward pv t pv t := ⟨fun _ => rfl, fun _ => rfl⟩

open Transfer

variable {j : Transfer} {w : World} {pv : PersistentVolume} {t : PersistentVolumeClaim}
  {p : Option PersistentVolumeClaim}

theorem Transfer.Stored.different (stored : j.Stored w pv t) : j.prime ≠ j.target := by
  intro same
  have there : w.claims.get? j.prime = some t := same ▸ stored.target
  exact j.distinct ((stored.facts.prime t there).1.symm.trans stored.facts.uid)

section Tasks

section

variable (facts : j.Facts pv t p)
include facts

theorem Transfer.Facts.retain :
    j.Facts ((retainVolume pv).getD pv) t p ∧ j.Done ((retainVolume pv).getD pv) .retain := by
  unfold retainVolume
  split
  · rename_i already
    exact ⟨facts, already⟩
  rename_i other
  have plain : j.Plain pv := facts.saved.resolve_right fun parked => other parked.2.1
  refine ⟨{ facts with
    saved := .inr ⟨?_, rfl, ?_⟩
    leaving := fun leaving => ⟨(facts.leaving leaving).1, .inl rfl⟩ }, rfl⟩
  · simp [plain.1, plain.2]
  · exact plain.2 ▸ other

theorem Transfer.Facts.rebind {copy : PersistentVolumeClaim} (known : j.Copy t copy)
    (retained : pv.reclaimPolicy = .retain) :
    j.Facts ((rebindVolume copy pv).getD pv) t p ∧ j.Done ((rebindVolume copy pv).getD pv) .rebind := by
  unfold rebindVolume
  split
  · rename_i already
    refine ⟨facts, retained, facts.ref.resolve_right fun old => ?_⟩
    obtain ⟨⟨ref, found, -, uid⟩, -⟩ := old
    rw [found] at already
    have same : ref.uid = copy.uid := of_decide_eq_true already
    exact j.distinct (uid.symm.trans (same.trans known.uid))
  have refers : PersistentVolume.RefersTo
      { pv with claimRef := some ⟨copy.key, copy.uid, copy.resourceVersion⟩ } j.target j.targetUID :=
    ⟨_, rfl, known.key, known.uid⟩
  exact ⟨{ facts with
    ref := .inl refers
    volumeName := fun name named => ⟨(facts.volumeName name named).1, refers⟩ }, retained, refers⟩

theorem Transfer.Facts.restore (bound : t.phase = .bound) :
    j.Facts ((restoreReclaimPolicy pv).getD pv) t p ∧ j.Done ((restoreReclaimPolicy pv).getD pv) .restore := by
  rcases facts.saved with plain | ⟨saved, _, other⟩
  · unfold restoreReclaimPolicy
    rw [plain.1]
    exact ⟨facts, plain⟩
  have restored : restoreReclaimPolicy pv =
      some { pv with reclaimPolicy := j.policy, originalReclaimPolicy := none } := by
    unfold restoreReclaimPolicy
    rw [saved]
    split
    · rename_i empty
      cases empty
    · rename_i empty
      cases empty
    · rename_i same
      exact absurd (Option.some.inj (Option.some.inj same)) other
    rename_i same
    cases same
    rfl
  rw [restored]
  have plain : j.Plain { pv with reclaimPolicy := j.policy, originalReclaimPolicy := none } := ⟨rfl, rfl⟩
  exact ⟨{ facts with
    saved := .inl plain
    leaving := fun leaving => ⟨(facts.leaving leaving).1, .inr bound⟩ }, plain⟩

theorem Transfer.Facts.task {call : Call} {task : Task} (called : j.Called t p call) (ready : Ready pv t p task) :
    j.Facts ((task.mutate call.target pv).getD pv) t p ∧ j.Done ((task.mutate call.target pv).getD pv) task := by
  cases task with
  | retain => exact facts.retain
  | rebind => exact facts.rebind called.copy ready
  | restore => exact facts.restore ready.1

end

theorem ready_mutate {task : Task} (ready : Ready pv t p task) (copy : PersistentVolumeClaim) :
    Ready ((task.mutate copy pv).getD pv) t p task := by
  cases task with
  | retain => exact intro
  | rebind =>
    show ((rebindVolume copy pv).getD pv).reclaimPolicy = .retain
    unfold rebindVolume
    split
    · exact ready
    · exact ready
  | restore => exact ready

theorem Transfer.Facts.pointAtVolume (facts : j.Facts pv t p) (done : j.Done pv .rebind) :
    j.Facts pv ((pointAtVolume j.volume t).getD t) p ∧
      ((Volume.pointAtVolume j.volume t).getD t).volumeName = some j.volume := by
  unfold Volume.pointAtVolume
  split
  · rename_i already
    exact ⟨facts, already⟩
  refine ⟨{ facts with
    volumeName := fun name named => ?_
    bound := fun _ => rfl
    leaving := fun leaving => ⟨rfl, (facts.leaving leaving).2⟩ }, rfl⟩
  cases named
  exact ⟨rfl, done.2⟩

end Tasks

variable {stage : Stage}

section Moves

variable {call : Call} {copy : PersistentVolumeClaim} {task : Task} {new : PersistentVolume}

theorem Transfer.Facts.stamped (facts : j.Facts pv t p) (n m : Nat) : j.Facts (stamp n pv) (stamp m t) p :=
  { facts with }

theorem mutate_name (changed : task.mutate copy pv = some new) :
    new.name = pv.name ∧ new.resourceVersion = pv.resourceVersion ∧ new ≠ pv := by
  cases task with
  | retain =>
    obtain ⟨other, ⟨⟩⟩ := ite_none_left_eq_some.mp changed
    exact ⟨rfl, rfl, fun same => other (congrArg reclaimPolicy same).symm⟩
  | rebind =>
    obtain ⟨other, ⟨⟩⟩ := ite_none_left_eq_some.mp changed
    refine ⟨rfl, rfl, fun same => other ?_⟩
    rw [← congrArg claimRef same]
    simp
  | restore =>
    simp only [Task.mutate, restoreReclaimPolicy] at changed
    split at changed
    · cases changed
    all_goals
      rename_i saved
      cases changed
      refine ⟨rfl, rfl, fun same => ?_⟩
      cases (congrArg originalReclaimPolicy same).trans saved

theorem mutate_ref (known : j.Copy t copy) (changed : task.mutate copy pv = some new)
    (refers : pv.RefersTo j.target j.targetUID) : new.claimRef = pv.claimRef := by
  cases task with
  | retain =>
    simp only [Task.mutate, retainVolume] at changed
    split at changed <;> cases changed
    rfl
  | rebind =>
    obtain ⟨_, found, -, uid⟩ := refers
    simp [Task.mutate, rebindVolume, found, uid, known.uid] at changed
  | restore =>
    simp only [Task.mutate, restoreReclaimPolicy] at changed
    split at changed <;> cases changed <;> rfl

theorem pointAtVolume_key {pvName : String} {new : PersistentVolumeClaim}
    (changed : pointAtVolume pvName t = some new) :
    new.key = t.key ∧ new.resourceVersion = t.resourceVersion ∧ new ≠ t := by
  obtain ⟨other, ⟨⟩⟩ := ite_none_left_eq_some.mp changed
  exact ⟨rfl, rfl, fun same => other (congrArg PersistentVolumeClaim.volumeName same).symm⟩

theorem Transfer.Facts.left {p' : Option PersistentVolumeClaim} (facts : j.Facts pv t p) (done : j.Done pv .rebind)
    (named : t.volumeName = some j.volume)
    (kept : ∀ pvc ∈ p', ∃ old ∈ p, pvc.uid = old.uid ∧ pvc.volumeName = old.volumeName) : j.Facts pv t p' := by
  refine { facts with
    ref := .inl done.2
    prime := fun pvc there => ?_
    leaving := fun _ => ⟨named, .inl done.1⟩ }
  obtain ⟨old, before, uid, volumeName⟩ := kept pvc there
  rw [uid, volumeName]
  exact facts.prime old before

section

variable (stored : j.Stored w pv t)
include stored

theorem Transfer.Stored.goOn (staged : j.Staged pv t (w.claims.get? j.prime) stage) (copies : j.Copies w stage) :
    j.Holds (w.goOn stage) pv t := by
  refine ⟨{ stored with }, fun _ there => ?_, nofun⟩
  cases there
  refine ⟨staged, ?_⟩
  cases stage <;> exact copies

theorem Transfer.Stored.returned {answer : Option Bool}
    (answered : answer = some true → t.phase = .bound ∧ j.Plain pv) : j.Holds (w.returned answer) pv t :=
  ⟨{ stored with }, fun _ there => (some_ne_none _ there.symm).elim,
    fun done => ⟨rfl, answered done⟩⟩

theorem Transfer.Stored.failed : j.Holds (w.returned none) pv t :=
  stored.returned nofun

theorem Transfer.Stored.resolve (known : j.Copy t copy) : j.Holds (w.resolve copy (w.claims.get? j.prime)) pv t := by
  unfold World.resolve
  split
  · rename_i resolved
    refine stored.goOn ⟨known, ?_, id⟩ intro
    cases own : copy.volumeName with
    | some =>
      rw [own] at resolved
      cases resolved
      exact known.volumeName _ own
    | none =>
      rw [own] at resolved
      obtain ⟨pvc, there, named⟩ := bind_eq_some_iff.mp resolved
      have volume := (stored.facts.prime pvc there).2
      exact Option.some.inj (named.symm.trans volume)
  split
  · exact stored.failed
  · exact stored.returned (by simp)

theorem Transfer.Stored.delete (done : j.Done pv .rebind) (named : t.volumeName = some j.volume) :
    j.Stored { w with claims := deleteClaim w.claims j.prime } pv t ∧
      Leaving ((deleteClaim w.claims j.prime).get? j.prime) := by
  unfold deleteClaim
  split
  · rename_i gone
    exact ⟨stored, gone ▸ leaving_none⟩
  rename_i pvc found
  have key : pvc.key = j.prime := key_of_get? found
  split
  · have prime : (w.claims.write { pvc with deleting := true }).get? j.prime =
        some (stamp (w.claims.revision + 1) { pvc with deleting := true }) := get?_write_self found key
    have target : (w.claims.write { pvc with deleting := true }).get? j.target = w.claims.get? j.target :=
      get?_write_other fun same => stored.different (key.symm.trans same.symm)
    refine ⟨⟨stored.volume, target.trans stored.target, stored.facts.left done named ?_⟩, ?_⟩
    · intro new there
      cases prime.symm.trans there
      exact ⟨pvc, found, rfl, rfl⟩
    intro new there
    cases prime.symm.trans there
    rfl
  have prime : (w.claims.remove j.prime).get? j.prime = none := by
    rw [get?_remove, if_pos rfl]
  have target : (w.claims.remove j.prime).get? j.target = w.claims.get? j.target := by
    rw [get?_remove, if_neg stored.different.symm]
  refine ⟨⟨stored.volume, target.trans stored.target, stored.facts.left done named ?_⟩, ?_⟩
  · intro new there
    cases prime.symm.trans there
  intro new there
  cases prime.symm.trans there

variable (called : j.Called t (w.claims.get? j.prime) call)
include called

theorem Transfer.Stored.afterDelete (leaving : Leaving (w.claims.get? j.prime)) :
    j.Holds (w.afterDelete call) pv t := by
  unfold World.afterDelete
  split
  · exact stored.returned nofun
  rename_i bound
  exact stored.goOn ⟨called, called.copy.bound (not_not.mp bound), leaving⟩ intro

theorem Transfer.Stored.afterTarget (done : j.Done pv .rebind) (named : t.volumeName = some j.volume) :
    j.Holds (w.afterTarget call) pv t := by
  unfold World.afterTarget
  split
  · exact stored.goOn ⟨called, done, named⟩ intro
  rename_i none
  refine stored.afterDelete called (called.leaving fun _ there => ?_)
  rw [there] at none
  simpa using none

theorem Transfer.Stored.afterTask (done : j.Done pv task) (ready : Ready pv t (w.claims.get? j.prime) task) :
    j.Holds (w.afterTask call task) pv t := by
  cases task with
  | retain | rebind => exact stored.goOn ⟨called, done⟩ intro
  | restore => exact stored.returned fun _ => ⟨ready.1, done⟩

theorem Transfer.Stored.volumeUpdated (ready : Ready pv t (w.claims.get? j.prime) task)
    (copies : j.Copies w (.updateVolume call task new)) (answer : Answer) :
    let after := w.volumes.request answer (w.volumes.update new)
    ∃ pv', j.Stored { w with volumes := after.2 } pv' t ∧ Ready pv' t (w.claims.get? j.prime) task ∧
      (after.1 = .done → j.Done pv' task) ∧ j.Onward pv t pv' t := by
  obtain ⟨base, snapshot, named, changed⟩ := copies
  obtain ⟨sameName, sameVersion, different⟩ := mutate_name changed
  dsimp only
  rcases w.volumes.request_cases answer (w.volumes.update new) with ⟨same, failed⟩ | updated
  · rw [same]
    exact ⟨pv, stored, ready, fun done => absurd done failed, .refl j pv t⟩
  obtain ⟨found, ⟨-, unchanged⟩ | written⟩ := update_ok updated snapshot sameName sameVersion
  · exact absurd unchanged different
  have keyed : key base = j.volume := named
  rw [keyed] at found
  cases found.symm.trans stored.volume
  have facts := stored.facts.task called ready
  have still := ready_mutate ready call.target
  rw [changed] at facts still
  rw [written]
  refine ⟨stamp (w.volumes.revision + 1) new, ⟨?_, stored.target, facts.1.stamped _ t.resourceVersion⟩, ?_, ?_,
    fun refers => show new.claimRef = _ from mutate_ref called.copy changed refers, fun _ => rfl⟩
  · exact get?_write_self stored.volume (sameName.trans named)
  · cases task <;> exact still
  intro _
  cases task <;> exact facts.2

theorem Transfer.Stored.updateVolume (ready : Ready pv t (w.claims.get? j.prime) task)
    (copies : j.Copies w (.updateVolume call task new)) (answer : Answer) :
    ∃ pv', j.Holds (w.updateVolume call task new answer) pv' t ∧ j.Onward pv t pv' t := by
  obtain ⟨pv', after, still, done, onward⟩ := stored.volumeUpdated called ready copies answer
  refine ⟨pv', ?_, onward⟩
  unfold World.updateVolume
  dsimp only
  split
  · rename_i reply
    exact after.afterTask called (done reply) still
  · exact after.goOn ⟨called, still⟩ intro
  all_goals exact after.failed

variable {new : PersistentVolumeClaim} (done : j.Done pv .rebind)
include done

theorem Transfer.Stored.targetUpdated (copies : j.Copies w (.updateTarget call new)) (answer : Answer) :
    let after := w.claims.request answer (w.claims.update new)
    ∃ t', j.Stored { w with claims := after.2 } pv t' ∧ j.Called t' (after.2.get? j.prime) call ∧
      (after.1 = .done → t'.volumeName = some j.volume) ∧ j.Onward pv t pv t' := by
  obtain ⟨base, snapshot, named, changed⟩ := copies
  obtain ⟨sameName, sameVersion, different⟩ := pointAtVolume_key changed
  dsimp only
  rcases w.claims.request_cases answer (w.claims.update new) with ⟨same, failed⟩ | updated
  · rw [same]
    exact ⟨t, stored, called, fun done => absurd done failed, .refl j pv t⟩
  obtain ⟨found, ⟨-, unchanged⟩ | written⟩ := update_ok updated snapshot sameName sameVersion
  · exact absurd unchanged different
  have keyed : key base = j.target := named
  rw [keyed] at found
  cases found.symm.trans stored.target
  have facts := stored.facts.pointAtVolume done
  rw [called.pvName] at changed
  rw [changed] at facts
  rw [written]
  have prime : (w.claims.write new).get? j.prime = w.claims.get? j.prime :=
    get?_write_other fun same => stored.different (same.trans (sameName.trans named))
  refine ⟨stamp (w.claims.revision + 1) new, ⟨stored.volume, ?_, ?_⟩, ?_, fun _ => facts.2, fun _ => rfl,
    fun bound => ?_⟩
  · exact get?_write_self stored.target (sameName.trans named)
  · rw [prime]
    exact facts.1.stamped pv.resourceVersion _
  · rw [prime]
    refine { called with copy.bound := fun bound => ?_ }
    have phase : new.phase = t.phase := by
      unfold pointAtVolume at changed
      split at changed <;> cases changed
      rfl
    exact phase.trans (called.copy.bound bound)
  rw [pointAtVolume, if_pos (stored.facts.bound bound)] at changed
  cases changed

theorem Transfer.Stored.updateTarget (copies : j.Copies w (.updateTarget call new))
    (answer : Answer) : ∃ t', j.Holds (w.updateTarget call new answer) pv t' ∧ j.Onward pv t pv t' := by
  obtain ⟨t', after, still, named, onward⟩ := stored.targetUpdated called done copies answer
  refine ⟨t', ?_, onward⟩
  unfold World.updateTarget
  dsimp only
  split
  · rename_i reply
    exact after.afterTarget still done (named reply)
  · exact after.goOn ⟨still, done⟩ intro
  all_goals exact after.failed

theorem Transfer.Stored.deletePrime (named : t.volumeName = some j.volume) (answer : Answer) :
    j.Holds (w.deletePrime j.prime call answer) pv t := by
  obtain ⟨after, leaving⟩ := stored.delete done named
  cases answer with
  | ok => exact after.afterDelete ⟨called.copy, called.pvName, fun _ => leaving⟩ leaving
  | lost => exact after.failed
  | error | conflict => exact stored.failed

end

theorem Transfer.Holds.move (holds : j.Holds w pv t) (running : w.call = some stage) (answer : Answer) :
    ∃ pv' t', j.Holds (w.move j.prime j.target stage answer) pv' t' ∧ j.Onward pv t pv' t' := by
  have same {u : World} (holds : j.Holds u pv t) : ∃ pv' t', j.Holds u pv' t' ∧ j.Onward pv t pv' t' :=
    ⟨pv, t, holds, .refl j pv t⟩
  have stored := holds.toStored
  obtain ⟨staged, copies⟩ := holds.stage stage running
  unfold World.move
  cases stage with
  | updateVolume =>
    obtain ⟨pv', after⟩ := stored.updateVolume staged.1 staged.2 copies answer
    exact ⟨pv', t, after⟩
  | updateTarget =>
    obtain ⟨t', after⟩ := stored.updateTarget staged.1 staged.2 copies answer
    exact ⟨pv, t', after⟩
  | deletePrime => exact same (stored.deletePrime staged.1 staged.2.1 staged.2.2 answer)
  | fetchPrime =>
    dsimp only
    split
    · exact same stored.failed
    · exact same (stored.resolve staged)
  | fetchVolume =>
    dsimp only
    split
    · exact same stored.failed
    · exact same (stored.goOn ⟨staged, intro⟩ intro)
  | readVolume _ task =>
    obtain ⟨called, ready⟩ := staged
    dsimp only
    split
    · exact same stored.failed
    rw [called.pvName, stored.volume]
    have facts := stored.facts.task called ready
    dsimp only
    split
    · rename_i unchanged
      rw [unchanged] at facts
      exact same (stored.afterTask called facts.2 ready)
    rename_i changed
    exact same (stored.goOn ⟨called, ready⟩
      ⟨pv, .of_get? stored.volume, key_of_get? stored.volume, changed⟩)
  | readTarget =>
    obtain ⟨called, done⟩ := staged
    dsimp only
    split
    · exact same stored.failed
    rw [stored.target]
    dsimp only
    split
    · rename_i unchanged
      have facts := stored.facts.pointAtVolume done
      rw [called.pvName] at unchanged
      rw [unchanged] at facts
      exact same (stored.afterTarget called done facts.2)
    rename_i changed
    exact same (stored.goOn ⟨called, done⟩
      ⟨t, .of_get? stored.target, key_of_get? stored.target, changed⟩)

end Moves

section Others

structure Aside (j : Transfer) (t t' : PersistentVolumeClaim) (p p' : Option PersistentVolumeClaim) : Prop where
  uid : t'.uid = t.uid
  volumeName : t'.volumeName = t.volumeName
  staying : t'.deleting = t.deleting
  phase : t'.phase = t.phase ∨ t'.phase = .bound ∧ t.volumeName = some j.volume
  prime : ∀ pvc ∈ p', ∃ old ∈ p, pvc.uid = old.uid ∧ pvc.volumeName = old.volumeName
  leaving : Leaving p' ↔ Leaving p

variable {t' : PersistentVolumeClaim} {p' : Option PersistentVolumeClaim}

section

variable (aside : Aside j t t' p p')
include aside

theorem Aside.stillBound (bound : t.phase = .bound) : t'.phase = .bound :=
  aside.phase.elim (·.trans bound) And.left

theorem Aside.facts (facts : j.Facts pv t p) : j.Facts pv t' p' := by
  refine ⟨facts.saved, facts.ref.imp_right fun old => ⟨old.1, fun leaving => old.2 (aside.leaving.mp leaving)⟩,
    aside.uid.trans facts.uid, aside.staying.trans facts.staying, fun name named => ?_, fun bound => ?_,
    fun pvc there => ?_, fun leaving => ?_⟩
  · rw [aside.volumeName] at named
    exact facts.volumeName name named
  · rw [aside.volumeName]
    rcases aside.phase with same | ⟨-, named⟩
    · exact facts.bound (same.symm.trans bound)
    · exact named
  · obtain ⟨old, before, uid, volumeName⟩ := aside.prime pvc there
    rw [uid, volumeName]
    exact facts.prime old before
  obtain ⟨named, safe⟩ := facts.leaving (aside.leaving.mp leaving)
  exact ⟨aside.volumeName.trans named, safe.imp_right aside.stillBound⟩

theorem Aside.called {call : Call} (called : j.Called t p call) : j.Called t' p' call :=
  { called with
    copy.bound := fun bound => aside.stillBound (called.copy.bound bound)
    leaving := fun leaving => aside.leaving.mpr (called.leaving leaving) }

theorem Aside.staged (staged : j.Staged pv t p stage) : j.Staged pv t' p' stage := by
  have ready : ∀ task, Ready pv t p task → Ready pv t' p' task := by
    intro task ready
    cases task with
    | retain => exact intro
    | rebind => exact ready
    | restore => exact ⟨aside.stillBound ready.1, aside.leaving.mpr ready.2⟩
  cases stage with
  | fetchPrime copy =>
    exact { (staged : j.Copy t copy) with bound := fun bound => aside.stillBound (staged.bound bound) }
  | fetchVolume => exact aside.called staged
  | readVolume call task | updateVolume call task new => exact ⟨aside.called staged.1, ready task staged.2⟩
  | readTarget call | updateTarget call new => exact ⟨aside.called staged.1, staged.2⟩
  | deletePrime => exact ⟨aside.called staged.1, staged.2.1, aside.volumeName.trans staged.2.2⟩

end

section

variable (holds : j.Holds w pv t)
include holds

theorem Transfer.Holds.claims {claims : Store PersistentVolumeClaim} (found : claims.get? j.target = some t')
    (aside : Aside j t t' (w.claims.get? j.prime) (claims.get? j.prime))
    (snapshots : ∀ copy, w.claims.Snapshot copy → claims.Snapshot copy) :
    j.Holds { w with claims, answer := none } pv t' := by
  refine ⟨⟨holds.volume, found, aside.facts holds.facts⟩, fun stage running => ?_, nofun⟩
  obtain ⟨staged, copies⟩ := holds.stage stage running
  refine ⟨aside.staged staged, ?_⟩
  cases stage with
  | updateTarget =>
    obtain ⟨base, snapshot, rest⟩ := copies
    exact ⟨base, snapshots base snapshot, rest⟩
  | fetchPrime | fetchVolume | readVolume | updateVolume | readTarget | deletePrime => exact copies

theorem Transfer.Holds.writeClaim {key : NamespacedName} {pvc : PersistentVolumeClaim} {phase : ClaimPhase}
    (found : w.claims.get? key = some pvc) (lawful : phase = pvc.phase ∨ phase = .bound ∧ pvc.volumeName ≠ none) :
    ∃ t', j.Holds { w with claims := w.claims.write { pvc with phase }, answer := none } pv t' ∧
      j.Onward pv t pv t' := by
  have named : pvc.key = key := key_of_get? found
  have kept (other : NamespacedName) (different : other ≠ key) :
      (w.claims.write { pvc with phase }).get? other = w.claims.get? other :=
    get?_write_other fun same => different (same.trans named)
  have self : (w.claims.write { pvc with phase }).get? key =
      some (stamp (w.claims.revision + 1) { pvc with phase }) := get?_write_self found named
  have prime : (∀ new ∈ (w.claims.write { pvc with phase }).get? j.prime, ∃ old ∈ w.claims.get? j.prime,
      new.uid = old.uid ∧ new.volumeName = old.volumeName) ∧
      (Leaving ((w.claims.write { pvc with phase }).get? j.prime) ↔ Leaving (w.claims.get? j.prime)) := by
    by_cases same : j.prime = key
    · subst same
      rw [self, found]
      refine ⟨fun new there => ⟨pvc, rfl, ?_⟩, ?_⟩
      · cases there
        exact ⟨rfl, rfl⟩
      rw [leaving_some, leaving_some]
      exact Iff.rfl
    rw [kept _ same]
    exact ⟨fun new there => ⟨new, there, rfl, rfl⟩, Iff.rfl⟩
  by_cases same : j.target = key
  · subst same
    cases found.symm.trans holds.target
    refine ⟨_, holds.claims self ⟨rfl, rfl, rfl, ?_, prime.1, prime.2⟩ fun copy snapshot => snapshot.write _,
      fun _ => rfl, fun bound => ?_⟩
    · refine lawful.imp id fun bound => ⟨bound.1, ?_⟩
      obtain ⟨name, volumeName⟩ := ne_none_iff_exists'.mp bound.2
      rw [volumeName, (holds.facts.volumeName name volumeName).1]
    have phase : phase = t.phase := lawful.elim id fun late => late.1.trans bound.symm
    rw [phase]
    rfl
  exact ⟨t, holds.claims ((kept _ same).trans holds.target) ⟨rfl, rfl, rfl, .inl rfl, prime.1, prime.2⟩
    fun copy snapshot => snapshot.write _, .refl j pv t⟩

theorem Transfer.Holds.removeClaim {key : NamespacedName} {pvc : PersistentVolumeClaim}
    (found : w.claims.get? key = some pvc) (deleting : pvc.deleting) :
    j.Holds { w with claims := w.claims.remove key, answer := none } pv t := by
  have other : j.target ≠ key := by
    rintro rfl
    cases found.symm.trans holds.target
    rw [holds.facts.staying] at deleting
    cases deleting
  refine holds.claims ?_ ⟨rfl, rfl, rfl, .inl rfl, fun new there => ?_, ?_⟩ fun copy snapshot => snapshot.remove key
  · rw [get?_remove, if_neg other]
    exact holds.target
  · exact ⟨new, of_get?_remove there, rfl, rfl⟩
  rw [get?_remove]
  split
  · rename_i same
    rw [same, found, leaving_some]
    exact iff_of_true leaving_none deleting
  · exact Iff.rfl

theorem Transfer.Holds.volumes {volumes : Store PersistentVolume} {n : Nat}
    (found : volumes.get? j.volume = some (stamp n pv))
    (snapshots : ∀ copy, w.volumes.Snapshot copy → volumes.Snapshot copy) :
    j.Holds { w with volumes, answer := none } (stamp n pv) t := by
  refine ⟨⟨found, holds.target, holds.facts.stamped n t.resourceVersion⟩, fun stage running => ?_, nofun⟩
  obtain ⟨staged, copies⟩ := holds.stage stage running
  constructor
  · cases stage with
    | readVolume call task | updateVolume call task => cases task <;> exact staged
    | fetchPrime | fetchVolume | readTarget | updateTarget | deletePrime => exact staged
  cases stage with
  | updateVolume =>
    obtain ⟨base, snapshot, rest⟩ := copies
    exact ⟨base, snapshots base snapshot, rest⟩
  | fetchPrime | fetchVolume | readVolume | updateTarget | readTarget | deletePrime => exact copies

end

theorem Transfer.Stored.unreleased (stored : j.Stored w pv t) : w.released pv = false := by
  unfold World.released
  have claimed : ∃ ref pvc, pv.claimRef = some ref ∧ w.claims.get? ref.key = some pvc ∧ pvc.uid = ref.uid := by
    rcases stored.facts.ref with ⟨ref, found, key, uid⟩ | ⟨⟨ref, found, key, uid⟩, staying⟩
    · exact ⟨ref, t, found, key ▸ stored.target, stored.facts.uid.trans uid.symm⟩
    cases there : w.claims.get? j.prime with
    | none => exact absurd (there ▸ leaving_none) staying
    | some pvc => exact ⟨ref, pvc, found, key ▸ there, ((stored.facts.prime pvc there).1).trans uid.symm⟩
  obtain ⟨_, _, found, there, uid⟩ := claimed
  simp [found, there, uid]

end Others

theorem Transfer.Holds.step {u : World} {event : Event} (holds : j.Holds w pv t)
    (moved : w.step j.prime j.target event = some u) : ∃ pv' t', j.Holds u pv' t' ∧ j.Onward pv t pv' t' := by
  unfold World.step at moved
  split at moved
  · split at moved
    · cases moved
    split at moved
    · cases moved
      exact ⟨pv, t, holds.toStored.failed, .refl j pv t⟩
    rw [holds.target] at moved
    cases moved
    have copy : j.Copy t t := ⟨key_of_get? holds.target, holds.facts.uid,
      fun name named => (holds.facts.volumeName name named).1, holds.facts.bound, id⟩
    exact ⟨pv, t, holds.toStored.goOn copy intro, .refl j pv t⟩
  · obtain ⟨stage, running, rfl⟩ := map_eq_some_iff.mp moved
    exact holds.move running _
  · cases moved
    exact ⟨pv, t, holds.toStored.failed, .refl j pv t⟩
  · split at moved
    · cases moved
    rename_i pvc found
    obtain ⟨pointed, ⟨⟩⟩ := ite_none_right_eq_some.mp moved
    refine ⟨pv, holds.writeClaim found (.inr ⟨rfl, fun none => ?_⟩)⟩
    simp [World.matched, none] at pointed
  · split at moved
    · cases moved
    rename_i old found
    split at moved
    · rename_i name _ due
      cases moved
      have other : j.volume ≠ name := by
        rintro rfl
        cases found.symm.trans holds.volume
        exact absurd due.2 (by simp [holds.unreleased])
      refine ⟨_, t, holds.volumes (n := pv.resourceVersion) ?_ fun copy snapshot => snapshot.remove name,
        fun _ => rfl, fun _ => rfl⟩
      rw [get?_remove, if_neg other]
      exact holds.volume
    · cases moved
  · obtain ⟨deleting, ⟨⟩⟩ := ite_none_right_eq_some.mp moved
    obtain ⟨pvc, found, deleting⟩ := (any_eq_true _ _).mp deleting
    exact ⟨pv, t, holds.removeClaim found deleting, .refl j pv t⟩
  · obtain ⟨old, found, rfl⟩ := map_eq_some_iff.mp moved
    rename_i name
    have named : old.name = name := key_of_get? found
    by_cases same : j.volume = name
    · subst same
      cases found.symm.trans holds.volume
      exact ⟨_, t, holds.volumes (get?_write_self found named) fun copy snapshot => snapshot.write _,
        fun _ => rfl, fun _ => rfl⟩
    refine ⟨_, t, holds.volumes (n := pv.resourceVersion) ?_ fun copy snapshot => snapshot.write _, fun _ => rfl,
      fun _ => rfl⟩
    rw [get?_write_other fun equal => same (equal.trans named)]
    exact holds.volume
  obtain ⟨pvc, found, rfl⟩ := map_eq_some_iff.mp moved
  exact ⟨pv, holds.writeClaim found (.inl rfl)⟩

end Virtualization.Volume
