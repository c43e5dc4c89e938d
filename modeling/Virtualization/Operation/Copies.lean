import Virtualization.Operation.World

namespace Virtualization.Operation

open Library Store Function

structure SameOperation (a b : VirtualMachineOperation) : Prop where
  name : a.name = b.name
  uid : a.uid = b.uid
  creationTimestamp : a.creationTimestamp = b.creationTimestamp
  virtualMachine : a.virtualMachine = b.virtualMachine
  type : a.type = b.type
  force : a.force = b.force
  restore : a.restore = b.restore

theorem SameOperation.refl (vmop : VirtualMachineOperation) : SameOperation vmop vmop :=
  ⟨rfl, rfl, rfl, rfl, rfl, rfl, rfl⟩

theorem SameOperation.symm {a b : VirtualMachineOperation} (same : SameOperation a b) : SameOperation b a :=
  ⟨same.name.symm, same.uid.symm, same.creationTimestamp.symm, same.virtualMachine.symm, same.type.symm,
    same.force.symm, same.restore.symm⟩

theorem SameOperation.trans {a b c : VirtualMachineOperation} (first : SameOperation a b) (second : SameOperation b c) :
    SameOperation a c :=
  ⟨first.name.trans second.name, first.uid.trans second.uid, first.creationTimestamp.trans second.creationTimestamp,
    first.virtualMachine.trans second.virtualMachine, first.type.trans second.type, first.force.trans second.force,
    first.restore.trans second.restore⟩

structure Tracked (w : World) : Prop where
  snapshot : ∀ copy ∈ w.seen, w.store.Snapshot copy
  stored : ∀ name vmop, w.store.get? name = some vmop → vmop ∈ w.seen
  base : ∀ name pass, w.passes name = some pass → pass.base ∈ w.seen ∧ pass.base.name = name

inductive Written (w : World) : Event → String → VirtualMachineOperation → Prop where
  | same (found : w.store.get? name = some vmop) : Written w event name vmop
  | born (revision : Nat) (fresh : w.store.get? vmop.name = none) :
      Written w (.create vmop) vmop.name { vmop with resourceVersion := revision }
  | amended (found : w.store.get? name = some old) (kept : SameOperation new old) (status : new.status = old.status)
      (deleting : event = .delete name ∧ new.deleting ∨ event = .touched name ∧ new.deleting = old.deleting) :
      Written w event name new
  | marked (revision : Nat) (running : w.passes worker = some p) (marking : p.stage = .marking vm copy rest)
      (found : w.store.get? copy.name = some current) : Written w (.pass worker (.patch answer now)) copy.name
        { mergePatch current copy now with resourceVersion := revision }
  | updated (revision : Nat) (running : w.passes name = some p)
      (updating : p.stage = .updating) (changed : p.status ≠ p.base.status)
      (found : w.store.get? name = some p.base) :
      Written w (.pass name (.update answer)) name { p.base with status := p.status, resourceVersion := revision }

/-- How a step left the pass of an operation. -/
inductive Ran (w t : World) : Event → String → Pass → Prop where
  | same (before : w.passes name = some p) : Ran w t event name p
  | fetched (free : w.passes name = none) (known : copy ∈ w.seen) (named : copy.name = name) :
      Ran w t (.pass name (.fetch copy)) name
        { base := copy, status := copy.status, stage := .fetched, cancelled := [], sent := none }
  | advanced (running : w.passes name = some p) (advance : Advance w name p m next) : Ran w t (.pass name m) name next
  | marked (running : w.passes name = some p) (marking : p.stage = .marking vm copy rest)
      (found : w.store.get? copy.name = some current) (store : t.store = w.store.write (mergePatch current copy now))
      (next : answer = .ok ∧ stage = .superseding vm rest ∨ answer = .lost ∧ stage = .updating) :
      Ran w t (.pass name (.patch answer now)) name { p with stage, cancelled := copy.name :: p.cancelled }
  | executed (running : w.passes name = some p) (ready : p.stage = .superseding vm [])
      (outcome : p.base.execute p.status vm reads (w.machines p.base.virtualMachine) = done) :
      Ran w t (.pass name (.execute reads)) name { p with status := done.status, stage := .updating, sent := done.sent }

@[simp] theorem stored_store (w : World) (t : Store VirtualMachineOperation) : (w.stored t).store = t := rfl

variable {w : World} {copy : VirtualMachineOperation}

theorem mem_stored {t : Store VirtualMachineOperation} :
    copy ∈ (w.stored t).seen ↔ copy ∈ w.seen ∨ copy ∈ t.objects := List.mem_append

@[simp] theorem setPass_store (w : World) (name : String) (pass : Option Pass) :
    (w.setPass name pass).store = w.store := rfl

variable {name : String}

theorem setPass_passes {other : String} {pass : Option Pass} {found : Pass}
    (running : (w.setPass name pass).passes other = some found) :
    other = name ∧ pass = some found ∨ other ≠ name ∧ w.passes other = some found := by
  unfold World.setPass at running
  dsimp only at running
  by_cases same : other = name
  · subst same
    rw [update_self] at running
    exact .inl ⟨rfl, running⟩
  rw [update_of_ne same] at running
  exact .inr ⟨same, running⟩

variable {pass : Pass}

theorem advance_base {next : Pass} {m : Move} (advance : Advance w name pass m next) : next.base = pass.base := by
  cases advance <;> rfl

theorem Tracked.update (tracked : Tracked w) (running : w.passes name = some pass) (answer : Answer) :
    (w.store.request answer (w.store.update { pass.base with status := pass.status })).2 = w.store ∨
      w.store.get? name = some pass.base ∧
        (w.store.request answer (w.store.update { pass.base with status := pass.status })).2 =
          w.store.write { pass.base with status := pass.status } := by
  obtain ⟨known, named⟩ := tracked.base name pass running
  rcases request_cases w.store answer (w.store.update { pass.base with status := pass.status }) with kept | written
  · exact .inl kept.1
  obtain ⟨found, unchanged | changed⟩ := update_ok written (tracked.snapshot _ known) rfl rfl
  · exact .inl unchanged.1
  · exact .inr ⟨named ▸ found, changed⟩

variable {t : World} {event : Event}

section

variable (stepped : Stepped w event t)
include stepped

theorem Tracked.written (tracked : Tracked w) {new : VirtualMachineOperation}
    (found : t.store.get? name = some new) : Written w event name new := by
  cases stepped with
  | created _ _ _ _ created =>
    rw [stored_store, get?_create created] at found
    split at found
    · rename_i same
      cases found
      subst same
      exact .born _ (create_fresh created)
    · exact .same found
  | deleted there =>
    rcases found_write found with ⟨same, rfl⟩ | ⟨-, found⟩
    · have named := key_of_get? there
      cases same.trans named
      exact .amended there ⟨rfl, rfl, rfl, rfl, rfl, rfl, rfl⟩ rfl (.inl ⟨rfl, rfl⟩)
    · exact .same found
  | touched there =>
    rcases found_write found with ⟨same, rfl⟩ | ⟨-, found⟩
    · have named := key_of_get? there
      cases same.trans named
      exact .amended there ⟨rfl, rfl, rfl, rfl, rfl, rfl, rfl⟩ rfl (.inr ⟨rfl, rfl⟩)
    · exact .same found
  | removed => exact .same (of_get?_remove found)
  | machine | migrationGone | fetched | advanced | executed | kept => exact .same found
  | marked running marking there next =>
    rename_i worker pass vm copy rest current answer stage now
    rcases found_write found with ⟨same, rfl⟩ | ⟨-, found⟩
    · have named : (mergePatch current copy now).name = copy.name := key_of_get? there
      cases same.trans named
      exact .marked _ running marking there
    · exact .same found
  | updated running updating changed =>
    rename_i worker pass answer
    rcases tracked.update running answer with kept | ⟨there, written⟩
    · rw [kept] at found
      exact .same found
    rw [written] at found
    obtain ⟨-, named⟩ := tracked.base worker pass running
    rcases found_write found with ⟨same, rfl⟩ | ⟨-, found⟩
    · have : name = worker := same.trans named
      subst this
      exact .updated _ running updating changed there
    · exact .same found

theorem seen_step : (∀ copy ∈ w.seen, copy ∈ t.seen) ∧
      ∀ copy ∈ t.seen, copy ∈ w.seen ∨ t.store.get? copy.name = some copy := by
  have kept (store : Store VirtualMachineOperation) : (∀ copy ∈ w.seen, copy ∈ (w.stored store).seen) ∧
      ∀ copy ∈ (w.stored store).seen, copy ∈ w.seen ∨ store.get? copy.name = some copy := by
    refine ⟨fun copy known => mem_stored.mpr (.inl known), fun _ known => ?_⟩
    exact (mem_stored.mp known).imp_right get?_of_mem
  cases stepped with
  | created | deleted | touched | marked | updated => exact kept _
  | removed | machine | migrationGone | fetched | advanced | executed | kept =>
    exact ⟨fun _ known => known, fun _ known => .inl known⟩

theorem snapshot_step (tracked : Tracked w) (snapshot : w.store.Snapshot copy) : t.store.Snapshot copy := by
  cases stepped with
  | created _ _ _ _ created => exact snapshot.create created
  | deleted | touched | marked => exact snapshot.write _
  | removed => exact snapshot.remove _
  | machine | migrationGone | fetched | advanced | executed | kept => exact snapshot
  | updated running updating changed =>
    rename_i answer
    rcases tracked.update running answer with kept | ⟨-, written⟩
    · rw [kept]
      exact snapshot
    rw [written]
    exact snapshot.write _

theorem Stepped.ran (there : t.passes name = some pass) : Ran w t event name pass := by
  cases stepped with
  | created | deleted | removed | touched | machine | migrationGone => exact .same there
  | fetched free known same =>
    rcases setPass_passes there with ⟨rfl, ⟨⟩⟩ | ⟨-, before⟩
    · exact .fetched free known same
    · exact .same before
  | advanced running advance =>
    rcases setPass_passes there with ⟨rfl, ⟨⟩⟩ | ⟨-, before⟩
    · exact .advanced running advance
    · exact .same before
  | marked running marking found next =>
    rcases setPass_passes there with ⟨rfl, ⟨⟩⟩ | ⟨-, before⟩
    · exact .marked running marking found rfl next
    · exact .same before
  | executed running ready outcome =>
    rcases setPass_passes there with ⟨rfl, ⟨⟩⟩ | ⟨-, before⟩
    · exact .executed running ready outcome
    · exact .same before
  | kept | updated =>
    rcases setPass_passes there with ⟨-, ⟨⟩⟩ | ⟨-, before⟩
    exact .same before

theorem base_step (running : t.passes name = some pass) : (∃ old, w.passes name = some old ∧ old.base = pass.base) ∨
      pass.base ∈ w.seen ∧ pass.base.name = name ∧ pass.stage = .fetched ∧ pass.status = pass.base.status := by
  cases stepped.ran running with
  | same before => exact .inl ⟨pass, before, rfl⟩
  | fetched _ known same => exact .inr ⟨known, same, rfl, rfl⟩
  | advanced before advance => exact .inl ⟨_, before, (advance_base advance).symm⟩
  | marked before | executed before => exact .inl ⟨_, before, rfl⟩

theorem Tracked.step (tracked : Tracked w) : Tracked t := by
  obtain ⟨older, newer⟩ := seen_step stepped
  refine ⟨fun copy known => ?_, fun name vmop found => ?_, fun name _ running => ?_⟩
  · rcases newer copy known with before | found
    · exact snapshot_step stepped tracked (tracked.snapshot copy before)
    · exact .of_get? found
  · cases stepped with
    | created | deleted | touched | marked | updated => exact mem_stored.mpr (.inr (mem_of_get? found))
    | removed =>
      exact tracked.stored name vmop (of_get?_remove found)
    | machine | migrationGone | fetched | advanced | executed | kept => exact tracked.stored name vmop found
  rcases base_step stepped running with ⟨old, before, same⟩ | ⟨known, named, -⟩
  · obtain ⟨known, named⟩ := tracked.base name old before
    rw [same] at known named
    exact ⟨older _ known, named⟩
  · exact ⟨older _ known, named⟩

theorem Stepped.keeps (there : w.passes name = some pass) (last : pass.stage = .updating) :
    t.passes name = some pass ∨ ∃ answer, event = .pass name (.update answer) := by
  have other {worker : String} {old : Pass} {u : World} {next : Option Pass} (passes : u.passes = w.passes)
      (running : w.passes worker = some old) (open' : old.stage ≠ .updating) :
      (u.setPass worker next).passes name = some pass := by
    have different : name ≠ worker := by
      rintro rfl
      cases there.symm.trans running
      exact open' last
    have same : (u.setPass worker next).passes name = u.passes name := update_of_ne different ..
    rw [same, passes]
    exact there
  cases stepped with
  | created | deleted | removed | touched | machine | migrationGone => exact .inl there
  | fetched free =>
    rename_i worker _ _ _
    have different : name ≠ worker := by
      rintro rfl
      rw [there] at free
      cases free
    exact .inl ((update_of_ne different ..).trans there)
  | advanced running advance =>
    refine .inl (other rfl running ?_)
    cases advance <;> simp [*]
  | marked running ready | executed running ready => exact .inl (other rfl running (by simp [ready]))
  | kept running | updated running =>
    rename_i worker _ answer _ _
    by_cases same : name = worker
    · subst same
      exact .inr ⟨answer, rfl⟩
    · exact .inl ((update_of_ne same ..).trans there)

theorem Tracked.origin (tracked : Tracked w) (known : copy ∈ t.seen) : (∃ old ∈ w.seen, SameOperation copy old) ∨
      ∃ vmop, event = .create vmop ∧ SameOperation copy vmop ∧ ∀ other ∈ w.seen, other.uid ≠ vmop.uid := by
  have written : ∀ name new, t.store.get? name = some new → (∃ old ∈ w.seen, SameOperation new old) ∨
      ∃ vmop, event = .create vmop ∧ SameOperation new vmop ∧ ∀ other ∈ w.seen, other.uid ≠ vmop.uid := by
    intro name new found
    cases tracked.written stepped found with
    | same found => exact .inl ⟨new, tracked.stored _ _ found, .refl new⟩
    | born =>
      cases stepped with
      | created _ _ uid => exact .inr ⟨_, rfl, ⟨rfl, rfl, rfl, rfl, rfl, rfl, rfl⟩, uid⟩
    | amended found kept => exact .inl ⟨_, tracked.stored _ _ found, kept⟩
    | marked _ _ _ there | updated _ running _ _ there =>
      exact .inl ⟨_, tracked.stored _ _ there, ⟨rfl, rfl, rfl, rfl, rfl, rfl, rfl⟩⟩
  rcases (seen_step stepped).2 copy known with before | found
  · exact .inl ⟨copy, before, .refl copy⟩
  · exact written copy.name copy found

theorem Tracked.kept (tracked : Tracked w) {vmop : VirtualMachineOperation}
    (found : w.store.get? name = some vmop) (staying : event ≠ .removed name) :
    ∃ new, t.store.get? name = some new ∧ SameOperation new vmop := by
  have written {new : VirtualMachineOperation}
      (same : ∀ old, w.store.get? new.name = some old → SameOperation new old) :
      ∃ after, (w.store.write new).get? name = some after ∧ SameOperation after vmop := by
    by_cases key : name = new.name
    · subst key
      have kept := same vmop found
      exact ⟨_, get?_write_self found rfl, { kept with }⟩
    · exact ⟨vmop, (get?_write_other key).trans found, .refl vmop⟩
  cases stepped with
  | created _ _ _ _ created =>
    refine ⟨vmop, ?_, .refl vmop⟩
    rw [stored_store, get?_create created, if_neg]
    · exact found
    rintro rfl
    rw [create_fresh created] at found
    cases found
  | deleted there | touched there | marked running marking there =>
    refine written fun old before => ?_
    have named := key_of_get? there
    cases (show w.store.get? _ = some old from before).symm.trans (named ▸ there)
    exact ⟨rfl, rfl, rfl, rfl, rfl, rfl, rfl⟩
  | removed =>
    refine ⟨vmop, ?_, .refl vmop⟩
    rw [get?_remove, if_neg]
    · exact found
    rintro rfl
    exact staying rfl
  | machine | migrationGone | fetched | advanced | executed | kept => exact ⟨vmop, found, .refl vmop⟩
  | updated running =>
    rename_i worker pass answer _ _
    rcases tracked.update running answer with same | ⟨there, write⟩
    · rw [same]
      exact ⟨vmop, found, .refl vmop⟩
    rw [write]
    refine written fun old before => ?_
    have named := (tracked.base worker pass running).2
    cases (show w.store.get? pass.base.name = some old from before).symm.trans (named ▸ there)
    exact ⟨rfl, rfl, rfl, rfl, rfl, rfl, rfl⟩

def Identified (w : World) : Prop := ∀ a ∈ w.seen, ∀ b ∈ w.seen, a.uid = b.uid → SameOperation a b

theorem Identified.step (identified : Identified w) (tracked : Tracked w) : Identified t := by
  intro a seenA b seenB uid
  rcases tracked.origin stepped seenA with ⟨oldA, beforeA, sameA⟩ | ⟨vmop, created, sameA, fresh⟩
  · rcases tracked.origin stepped seenB with ⟨oldB, beforeB, sameB⟩ | ⟨_, _, sameB, fresh⟩
    · have equal : oldA.uid = oldB.uid := sameA.uid.symm.trans (uid.trans sameB.uid)
      exact sameA.trans ((identified oldA beforeA oldB beforeB equal).trans sameB.symm)
    · exact absurd (sameA.uid.symm.trans (uid.trans sameB.uid)) (fresh oldA beforeA)
  rcases tracked.origin stepped seenB with ⟨oldB, beforeB, sameB⟩ | ⟨_, again, sameB, -⟩
  · exact absurd (sameB.uid.symm.trans (uid.symm.trans sameA.uid)) (fresh oldB beforeB)
  cases created.symm.trans again
  exact sameA.trans sameB.symm

end

def World.start (machines : String → Cluster) : World where
  store := { revision := 0, objects := [], unique := List.nodup_nil, bounded := fun _ => nofun }
  seen := []
  migrations := []
  machines
  passes _ := none
  signals := []

theorem Tracked.start (machines : String → Cluster) : Tracked (World.start machines) where
  snapshot _ := nofun
  stored _ _ := nofun
  base _ _ := nofun

end Virtualization.Operation
