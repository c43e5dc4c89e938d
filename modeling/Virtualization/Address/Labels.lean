import Mathlib
import Virtualization.Address.World

namespace Virtualization.Address.Labels

open Lease LeasePass Library Option Store

def Alive (vmips : Store VMIP) (uid : UID) : Prop := ∃ vmip, vmips.get? uid.key = some vmip ∧ vmip.uid = uid

def Succeeds (vmips later : Store VMIP) : Prop :=
  vmips.revision ≤ later.revision ∧ ∀ uid, Alive later uid → uid.serial ≤ vmips.revision → Alive vmips uid

theorem Succeeds.refl (vmips : Store VMIP) : Succeeds vmips vmips := ⟨Nat.le_refl _, fun _ alive _ => alive⟩

theorem Succeeds.trans {one two three : Store VMIP} (first : Succeeds one two) (second : Succeeds two three) :
    Succeeds one three := by
  refine ⟨Nat.le_trans first.1 second.1, fun uid alive old => ?_⟩
  exact first.2 uid (second.2 uid alive (Nat.le_trans old first.1)) old

variable {vmips : Store VMIP} {key : NamespacedName}

theorem alive_of_get? {vmip : VMIP} (found : vmips.get? key = some vmip) : Alive vmips vmip.uid :=
  ⟨vmip, (congrArg vmips.get? (key_of_get? found)).trans found, rfl⟩

variable {later : Store VMIP}

theorem Succeeds.amended {kept : VMIP → Bool} {change : VMIP → Except WriteError VMIP}
    (amended : vmips.Amended key kept change later)
    (keyed : ∀ stored new, change stored = .ok new → new.uid = stored.uid) : Succeeds vmips later := by
  refine ⟨amended.revision_le, fun uid alive _ => ?_⟩
  obtain ⟨_, found, rfl⟩ := alive
  rcases amended.reads (fun stored new changed => congrArg UID.key (keyed stored new changed)) found with
    before | ⟨stored, new, before, changed, -, -, rfl⟩
  · exact alive_of_get? before
  change Alive vmips new.uid
  rw [keyed stored new changed]
  exact alive_of_get? before

theorem Succeeds.created {staticIP : Option String} (created : vmips.create (newVMIP vmips key staticIP) = .ok later) :
    Succeeds vmips later := by
  refine ⟨by rw [revision_create created]; exact Nat.le_succ _, fun _ alive old => ?_⟩
  obtain ⟨_, found, rfl⟩ := alive
  rw [get?_create created] at found
  split at found
  · cases found
    change vmips.revision + 1 ≤ vmips.revision at old
    omega
  · exact alive_of_get? found

variable {copy : VMIP}

section Copies

/-- A lease only gains a finalizer and a deletion mark, and the label of somebody who is alive it has had always. -/
structure Ages (vmips : Store VMIP) (old lease : Lease) : Prop where
  finalizer : old.finalizer → lease.finalizer
  deleting : old.deleting → lease.deleting
  label : ∀ uid ∈ lease.label, Alive vmips uid → old.label = some uid

def Labelled (leases : Store Lease) (address : String) (uid : UID) : Prop :=
  ∃ lease, leases.get? address = some lease ∧ lease.label = some uid

structure LeaseCopy (vmips : Store VMIP) (leases : Store Lease) (copy : Lease) : Prop where
  serial : copy.serial ≤ leases.revision
  known : ∀ uid ∈ copy.label, uid.serial ≤ vmips.revision
  ref : ∀ uid ∈ copy.label, copy.ref = uid.ref
  stays : ∀ uid ∈ copy.label, Alive vmips uid → Labelled leases copy.address uid
  guarded : copy.label = none → copy.finalizer
  ages : ∀ lease, leases.get? copy.address = some lease → lease.serial = copy.serial → Ages vmips copy lease

structure VMIPCopy (vmips : Store VMIP) (leases : Store Lease) (copy : VMIP) : Prop where
  auto : copy.staticIP = none
  young : vmips.revision < copy.uid.serial → copy.address = none
  only : ∀ address ∈ copy.address, ∀ other, Labelled leases other copy.uid → other = address
  has : Alive vmips copy.uid → ∀ address ∈ copy.address, Labelled leases address copy.uid

/-- What a request does to the leases: the labels of those who are alive stay, and only `owner` gets a new one. -/
structure Evolves (vmips : Store VMIP) (owner : Option UID) (leases later : Store Lease) : Prop where
  revision : leases.revision ≤ later.revision
  stays : ∀ address uid, Labelled leases address uid → Alive vmips uid → Labelled later address uid
  labels : ∀ address uid, Labelled later address uid → some uid ≠ owner → Labelled leases address uid
  ages : ∀ address lease, later.get? address = some lease → leases.revision < lease.serial ∨
    ∃ old, leases.get? address = some old ∧ old.serial = lease.serial ∧ Ages vmips old lease

variable {vmips : Store VMIP} {leases later : Store Lease} {owner : Option UID}

theorem Ages.refl (vmips : Store VMIP) (lease : Lease) : Ages vmips lease lease := ⟨id, id, fun _ label _ => label⟩

theorem Ages.trans {one two three : Lease} (first : Ages vmips one two) (second : Ages vmips two three) :
    Ages vmips one three :=
  ⟨second.finalizer ∘ first.finalizer, second.deleting ∘ first.deleting,
    fun uid label alive => first.label uid (second.label uid label alive) alive⟩

theorem Evolves.refl (vmips : Store VMIP) (owner : Option UID) (leases : Store Lease) :
    Evolves vmips owner leases leases :=
  ⟨Nat.le_refl _, fun _ _ labelled _ => labelled, fun _ _ labelled _ => labelled,
    fun _ lease found => .inr ⟨lease, found, rfl, .refl vmips lease⟩⟩

theorem VMIPCopy.unassigned (auto : copy.staticIP = none) (unassigned : copy.address = none) :
    VMIPCopy vmips leases copy := by
  refine ⟨auto, fun _ => unassigned, ?_, ?_⟩
  · intro address assigned
    cases unassigned.symm.trans assigned
  intro _ address assigned
  cases unassigned.symm.trans assigned

theorem LeaseCopy.evolves {copy : Lease} (ok : LeaseCopy vmips leases copy)
    (evolves : Evolves vmips owner leases later) :
    LeaseCopy vmips later copy := by
  refine { ok with serial := Nat.le_trans ok.serial evolves.revision, stays := ?_, ages := ?_ }
  · exact fun uid label alive => evolves.stays _ uid (ok.stays uid label alive) alive
  intro lease found same
  rcases evolves.ages _ lease found with _ | ⟨old, there, serial, ages⟩
  · have := ok.serial
    omega
  · exact (ok.ages old there (serial.trans same)).trans ages

theorem VMIPCopy.evolves (ok : VMIPCopy vmips leases copy) (evolves : Evolves vmips owner leases later)
    (other : some copy.uid ≠ owner) : VMIPCopy vmips later copy := by
  refine { ok with only := ?_, has := ?_ }
  · exact fun address assigned lease labelled => ok.only address assigned lease (evolves.labels _ _ labelled other)
  · exact fun alive address assigned => evolves.stays _ _ (ok.has alive address assigned) alive

structure Change (vmips : Store VMIP) (owner : Option UID) (kept : Lease → Bool) (stored new : Lease) : Prop where
  address : new.address = stored.address
  serial : new.serial = stored.serial
  labels : ∀ uid ∈ new.label, some uid ≠ owner → stored.label = some uid
  stays : ∀ uid ∈ stored.label, Alive vmips uid → new.label = some uid ∧ kept new
  ages : kept new → Ages vmips stored new
  ref : ∀ uid ∈ new.label, new.ref = uid.ref
  known : ∀ uid ∈ new.label, uid.serial ≤ vmips.revision
  guarded : new.label = none → kept new → new.finalizer

section Amended

variable {address : String} {kept : Lease → Bool} {change : Lease → Except WriteError Lease}

theorem Evolves.amended (amended : leases.Amended address kept change later)
    (keyed : ∀ stored new, change stored = .ok new → new.address = stored.address)
    (changes : ∀ stored new, leases.get? address = some stored → change stored = .ok new →
      Change vmips owner kept stored new) : Evolves vmips owner leases later := by
  refine ⟨amended.revision_le, ?_, ?_, ?_⟩
  · rintro other uid ⟨lease, found, label⟩ alive
    rcases amended.stays keyed found with after | ⟨rfl, new, changed, after⟩
    · exact ⟨lease, after, label⟩
    obtain ⟨stays, keep⟩ := (changes lease new found changed).stays uid label alive
    exact ⟨_, after keep, stays⟩
  · rintro other uid ⟨lease, found, label⟩ foreign
    rcases amended.reads keyed found with before | ⟨stored, new, before, changed, -, rfl, rfl⟩
    · exact ⟨lease, before, label⟩
    · exact ⟨stored, before, (changes stored new before changed).labels uid label foreign⟩
  intro other lease found
  rcases amended.reads keyed found with before | ⟨stored, new, before, changed, keep, rfl, rfl⟩
  · exact .inr ⟨lease, before, rfl, .refl vmips lease⟩
  have change := changes stored new before changed
  obtain ⟨finalizer, deleting, label⟩ := change.ages keep
  exact .inr ⟨stored, before, change.serial.symm, finalizer, deleting, label⟩

theorem LeaseCopy.amended (amended : leases.Amended address kept change later)
    (keyed : ∀ stored new, change stored = .ok new → new.address = stored.address)
    (changes : ∀ stored new, leases.get? address = some stored → change stored = .ok new →
      Change vmips owner kept stored new) (all : leases.All (LeaseCopy vmips leases)) :
    later.All (LeaseCopy vmips later) := by
  have evolves := Evolves.amended amended keyed changes
  have old : leases.All (LeaseCopy vmips later) := fun other lease found => (all other lease found).evolves evolves
  intro other lease found
  rcases amended.reads keyed found with before | ⟨stored, new, before, changed, keep, rfl, rfl⟩
  · exact old other lease before
  have change := changes stored new before changed
  have there : later.get? new.address = some (stamp (leases.revision + 1) new) := by
    rw [change.address]
    exact (congrArg later.get? (key_of_get? before)).trans found
  refine ⟨?_, change.known, change.ref, fun uid label _ => ⟨_, there, label⟩, fun none => change.guarded none keep, ?_⟩
  · exact change.serial ▸ (old other stored before).serial
  intro lease again _
  obtain rfl := some.inj (again.symm.trans there)
  exact .refl vmips _

end Amended

end Copies

variable {answer : Answer} {new : Lease}

section LeasePass

variable {vmips : Store VMIP} {leases : Store Lease} {address : String} {pass : LeasePass}

structure LeasePassOk (vmips : Store VMIP) (leases : Store Lease) (address : String) (pass : LeasePass) : Prop where
  named : pass.current.address = address
  copy : LeaseCopy vmips leases pass.current
  current : leases.Snapshot pass.current
  seen : leases.Snapshot pass.seen
  seenNamed : pass.seen.address = address
  bound : pass.stage ≠ .fetched → pass.releases = false →
    pass.changed.label = pass.current.label ∧ pass.changed.ref = pass.current.ref ∧ pass.changed.finalizer
  released : pass.stage ≠ .fetched → pass.releases →
    pass.changed.label = none ∧ pass.changed.finalizer = !pass.current.deleting ∧
      ∀ uid ∈ pass.current.label, ¬ Alive vmips uid
  label : pass.stage ≠ .patched → pass.seen.label = pass.current.label
  free : pass.stage = .patched → pass.releases → pass.seen.label = none

def OwnedCopy (vmips : Store VMIP) (pass : LeasePass) : Prop :=
  ∀ vmip ∈ LeasePass.referenced vmips pass.current, pass.current.label = some vmip.uid

def SameLease (leases : Store Lease) (pass : LeasePass) : Prop :=
  ∀ lease ∈ leases.get? pass.current.address, lease.serial = pass.current.serial

theorem referenced_label {uid : UID} (copy : LeaseCopy vmips leases pass.current)
    (label : pass.current.label = some uid) :
    referenced vmips pass.current = vmips.get? uid.key := by
  unfold referenced
  rw [copy.ref uid label]
  rfl

theorem LeasePassOk.lifecycle (ok : LeasePassOk vmips leases address pass) (fails : Bool)
    (copies : vmips.All (VMIPCopy vmips leases)) (owned : OwnedCopy vmips pass) (stage : pass.stage = .fetched) :
    LeasePassOk vmips leases address (pass.lifecycle fails vmips) := by
  have label := ok.label (by rw [stage]; nofun)
  unfold LeasePass.lifecycle
  split
  · rw [handleLease_failed]
    exact { ok with bound := fun _ _ => ⟨rfl, rfl, rfl⟩, released := nofun, label := fun _ => label, free := nofun }
  dsimp only
  cases found : referenced vmips pass.current with
  | none =>
    rw [handleLease_released rfl]
    refine { ok with bound := nofun, released := fun _ _ => ⟨rfl, rfl, ?_⟩, label := fun _ => label, free := nofun }
    rintro uid labelled ⟨vmip, there, -⟩
    rw [referenced_label ok.copy labelled] at found
    cases found.symm.trans there
  | some vmip =>
    have labelled := owned vmip found
    have there := (referenced_label ok.copy labelled).symm.trans found
    have alive := alive_of_get? there
    -- The lease is the one that its holder has, so the holder has no other address.
    have bound : isBound pass.current (some vmip) := by
      refine decide_eq_true ⟨hasReference_iff.mpr (ok.copy.ref _ labelled), ?_⟩
      cases assigned : vmip.address with
      | none => exact .inl rfl
      | some other =>
        have same := (copies _ vmip there).only other assigned _ (ok.copy.stays _ labelled alive)
        exact .inr (congrArg some same.symm)
    rw [handleLease_bound bound]
    exact { ok with
      bound := fun _ _ => ⟨labelled.symm, rfl, rfl⟩, released := nofun, label := fun _ => label, free := nofun }

variable {stored : Lease}

theorem Change.status (copy : LeaseCopy vmips leases stored) (bound : Option LeaseCondition) :
    Change vmips none (fun _ => true) stored { stored with bound } :=
  ⟨rfl, rfl, fun _ label _ => label, fun _ label _ => ⟨label, rfl⟩, fun _ => ⟨id, id, fun _ label _ => label⟩,
    copy.ref, copy.known, fun none _ => copy.guarded none⟩

section

variable (ok : LeasePassOk vmips leases address pass)
include ok

section

variable (started : pass.stage ≠ .fetched)
include started

theorem LeasePassOk.unowned (releases : pass.releases) (found : leases.get? address = some stored)
    (same : SameLease leases pass) {uid : UID} (label : stored.label = some uid) : ¬ Alive vmips uid := by
  obtain rfl := ok.named
  intro alive
  have had := (ok.copy.ages stored found (same stored found)).label uid label alive
  exact (ok.released started releases).2.2 uid had alive

theorem LeasePassOk.delete (releases : pass.releases) (same : SameLease leases pass)
    (found : leases.get? address = some stored) (copy : LeaseCopy vmips leases stored)
    (deleted : deleteLease stored = .ok new) : Change vmips none kept stored new := by
  rw [deleteLease_ok deleted]
  refine ⟨rfl, rfl, fun _ label _ => label, ?_, fun _ => ⟨id, fun _ => rfl, fun _ label _ => label⟩,
    copy.ref, copy.known,
    fun none _ => copy.guarded none⟩
  exact fun uid label alive => absurd alive (ok.unowned started releases found same label)

theorem LeasePassOk.finalizer (same : SameLease leases pass) {finalizer : Bool} {label : Option UID}
    (found : leases.get? address = some stored)
    (patched : patchFinalizer pass.current.finalizer pass.changed.finalizer stored.finalizer
      stored.deleting = .ok finalizer)
    (kept : kept { stored with finalizer, label }) :
    pass.current.finalizer = pass.changed.finalizer ∧ finalizer = stored.finalizer ∨ finalizer := by
  obtain rfl := ok.named
  have ages := ok.copy.ages stored found (same stored found)
  rcases patchFinalizer_ok patched with ⟨unchanged, rfl⟩ | ⟨-, rfl⟩
  · exact .inl ⟨unchanged, rfl⟩
  refine .inr ?_
  cases releases : pass.releases with
  | false => exact (ok.bound started releases).2.2
  | true =>
    have finalizes := (ok.released started releases).2.1
    cases deleting : pass.current.deleting with
    | false => rw [finalizes, deleting, Bool.not_false]
    | true =>
      rw [ages.deleting deleting, finalizes, deleting] at kept
      cases kept

theorem LeasePassOk.metadata (same : SameLease leases pass) (found : leases.get? address = some stored)
    (copy : LeaseCopy vmips leases stored) (patched : patchLeaseMetadata pass.current pass.changed stored = .ok new) :
    Change vmips none kept stored new := by
  obtain ⟨finalizer, label, finalized, relabelled, rfl⟩ := patchLeaseMetadata_ok patched
  obtain rfl := ok.named
  have ages := ok.copy.ages stored found (same stored found)
  have protects : kept { stored with finalizer, label } → _ := ok.finalizer started same found finalized
  -- The label is the one that was stored, or a releasing pass has removed it.
  have label_cases : label = stored.label ∨ label = none ∧ pass.releases := by
    rcases patchLabel_ok relabelled with ⟨-, kept⟩ | ⟨other, -, changed⟩
    · exact .inl kept
    cases releases : pass.releases with
    | false => exact absurd (ok.bound started releases).1.symm other
    | true => exact .inr ⟨changed.trans (ok.released started releases).1, rfl⟩
  have labels : ∀ uid ∈ label, stored.label = some uid := by
    intro uid labelled
    rcases label_cases with kept | ⟨none, -⟩
    · exact kept.symm.trans labelled
    · cases none.symm.trans labelled
  refine ⟨rfl, rfl, fun uid labelled _ => labels uid labelled, ?_, fun kept => ⟨?_, id, ?_⟩,
    fun uid labelled => copy.ref uid (labels uid labelled),
    fun uid labelled => copy.known uid (labels uid labelled), ?_⟩
  · intro uid labelled alive
    cases releases : pass.releases with
    | true => exact absurd alive (ok.unowned started releases found same labelled)
    | false =>
      have kept := label_cases.resolve_right fun removed => by rw [releases] at removed; cases removed.2
      refine ⟨kept.trans labelled, ?_⟩
      -- The finalizer was there or it is added.
      have wanted := (ok.bound started releases).2.2
      unfold Lease.kept
      rcases patchFinalizer_ok finalized with ⟨unchanged, rfl⟩ | ⟨-, rfl⟩
      · rw [ages.finalizer (unchanged.trans wanted), Bool.or_true]
      · rw [wanted, Bool.or_true]
  · intro had
    rcases protects kept with ⟨-, unchanged⟩ | added
    · exact unchanged.trans had
    · exact added
  · exact fun uid labelled _ => labels uid labelled
  intro unlabelled kept
  rcases protects kept with ⟨unchanged, rfl⟩ | added
  · rcases label_cases with same | ⟨-, releases⟩
    · exact copy.guarded (same.symm.trans unlabelled)
    -- Either the pass wants the finalizer, or the lease is terminating and has it still.
    have finalizes := (ok.released started releases).2.1
    cases deleting : pass.current.deleting with
    | false =>
      rw [deleting] at finalizes
      exact ages.finalizer (unchanged.trans finalizes)
    | true =>
      unfold Lease.kept at kept
      rw [ages.deleting deleting, Bool.not_true, Bool.false_or] at kept
      exact kept
  · exact added

end

theorem LeasePassOk.spec (stage : pass.stage = .patched) (releases : pass.releases)
    (found : leases.get? address = some stored) (copy : LeaseCopy vmips leases stored)
    (updated : updateLeaseSpec pass.seen pass.changed stored = .ok new) :
    Change vmips none (fun _ => true) stored new := by
  obtain ⟨version, written⟩ := updateLeaseSpec_ok updated
  have isSeen : stored = pass.seen := by
    refine ok.seen.2 stored ?_ version
    exact (congrArg leases.get? ok.seenNamed).trans found
  have free : stored.label = none := (congrArg Lease.label isSeen).trans (ok.free stage releases)
  rw [written]
  refine ⟨rfl, rfl, fun _ label _ => label, ?_, fun _ => ⟨id, id, fun _ label _ => label⟩, ?_, copy.known,
    fun none _ => copy.guarded none⟩
  · intro uid label
    cases free.symm.trans label
  intro uid label
  cases free.symm.trans label

theorem LeasePassOk.evolves {later : Store Lease} {owner : Option UID}
    (evolves : Evolves vmips owner leases later) (snapshot : ∀ copy, leases.Snapshot copy → later.Snapshot copy) :
    LeasePassOk vmips later address pass :=
  { ok with copy := ok.copy.evolves evolves, current := snapshot _ ok.current, seen := snapshot _ ok.seen }

theorem LeasePassOk.retain (stage : pass.stage = .handled) :
    LeasePassOk vmips leases address { pass with stage := .retained } :=
  { ok with
    bound := fun _ => ok.bound (by rw [stage]; nofun), released := fun _ => ok.released (by rw [stage]; nofun)
    label := fun _ => ok.label (by rw [stage]; nofun), free := nofun }

theorem LeasePassOk.commit {later : LeasePass} {served : Store Lease} (stage : pass.stage = .retained)
    (after : LeasePassOk vmips served address pass) (went : (pass.commit answer leases).1 = some later)
    (leads : (pass.commit answer leases).2 = served) : LeasePassOk vmips served address later := by
  have bound := ok.bound (by rw [stage]; nofun)
  have released := ok.released (by rw [stage]; nofun)
  have label := ok.label (by rw [stage]; nofun)
  obtain rfl := ok.named
  obtain ⟨seen, rfl, rfl | ⟨there, stored, _, found, updated, made⟩⟩ := commit_pass went
  · exact { after with bound := fun _ => bound, released := fun _ => released, label := fun _ => label, free := nofun }
  rw [leads] at there
  refine { after with
    seen := .of_get? there, seenNamed := key_of_get? there, bound := fun _ => bound
    released := fun _ => released, label := fun _ => ?_, free := nofun }
  obtain ⟨version, rfl⟩ := updateLeaseStatus_ok updated
  have isCurrent : stored = pass.current := ok.current.2 stored found version
  rw [made, isCurrent]

theorem LeasePassOk.patch {later : LeasePass} {served : Store Lease} (stage : pass.stage = .updated)
    (same : SameLease leases pass) (after : LeasePassOk vmips served address pass)
    (went : (pass.patch answer leases).1 = some later) (leads : (pass.patch answer leases).2 = served) :
    LeasePassOk vmips served address later := by
  have started : pass.stage ≠ .fetched := by rw [stage]; nofun
  have bound := ok.bound started
  have released := ok.released started
  have label := ok.label (by rw [stage]; nofun)
  obtain rfl := ok.named
  obtain ⟨seen, rfl, ⟨rfl, unchanged⟩ | ⟨changes, there, stored, new, found, patched, keep, made⟩⟩ :=
    patch_pass went
  · refine { after with
      bound := fun _ => bound, released := fun _ => released, label := fun other => absurd rfl other
      free := fun _ releases => ?_ }
    exact label.trans (unchanged.symm.trans (released releases).1)
  rw [leads] at there
  refine { after with
    seen := .of_get? there, seenNamed := key_of_get? there, bound := fun _ => bound
    released := fun _ => released, label := fun other => absurd rfl other, free := fun _ releases => ?_ }
  rw [made]
  obtain ⟨unlabels, finalizes, -⟩ := released releases
  obtain ⟨finalizer, label, finalized, relabelled, rfl⟩ := patchLeaseMetadata_ok patched
  rcases patchLabel_ok relabelled with ⟨sameLabel, -⟩ | ⟨-, -, rfl⟩
  · -- The label was removed before, so it is the finalizer that goes, and the lease with it.
    have has := ok.copy.guarded (sameLabel.trans unlabels)
    have wants : pass.changed.finalizer = false := by
      cases wanted : pass.changed.finalizer with
      | false => rfl
      | true => exact absurd ⟨sameLabel.symm, wanted.trans has.symm⟩ changes
    have ages := ok.copy.ages stored found (same stored found)
    rcases patchFinalizer_ok finalized with ⟨equal, -⟩ | ⟨-, rfl⟩
    · rw [has, wants] at equal
      cases equal
    rcases keep with kept | unchanged
    · have deleting : pass.current.deleting := by
        rw [wants] at finalizes
        simpa using finalizes
      rw [ages.deleting deleting, wants] at kept
      cases kept
    have lost := congrArg Lease.finalizer unchanged
    rw [ages.finalizer has] at lost
    cases wants.symm.trans lost
  · exact unlabels

end

end LeasePass

variable {address : String}

section VMIPPass

variable {cached vmips : Store VMIP} {leases served : Store Lease} {key : NamespacedName} {pass : VMIPPass}

def Unique (leases : Store Lease) : Prop :=
  ∀ one other uid, Labelled leases one uid → Labelled leases other uid → one = other

structure VMIPPassOk (cached vmips : Store VMIP) (leases : Store Lease) (key : NamespacedName) (pass : VMIPPass) :
    Prop where
  key : pass.current.key = key
  current : vmips.Snapshot pass.current
  known : pass.current.uid.serial ≤ cached.revision
  copy : VMIPCopy cached leases pass.current
  lease : ∀ lease ∈ pass.lease, LeaseCopy cached leases lease ∧ leases.Snapshot lease
  missing : pass.stage = .found → pass.lease = none → pass.current.address = none →
    ∀ address, ¬ Labelled leases address pass.current.uid
  given : pass.stage = .found → ∀ lease ∈ pass.lease,
    pass.current.address = some lease.address ∨ lease.label = some pass.current.uid
  changed : pass.stage = .handled → Alive cached pass.current.uid → ∀ address ∈ pass.changed.address,
    Labelled leases address pass.current.uid

theorem VMIPPassOk.mono (ok : VMIPPassOk cached vmips leases key pass)
    (snapshot : ∀ copy, vmips.Snapshot copy → later.Snapshot copy) : VMIPPassOk cached later leases key pass :=
  { ok with current := snapshot _ ok.current }

theorem VMIPPassOk.evolves {owner : Option UID} (ok : VMIPPassOk cached vmips leases key pass)
    (evolves : Evolves cached owner leases served) (other : some pass.current.uid ≠ owner)
    (snapshot : ∀ copy, leases.Snapshot copy → served.Snapshot copy) : VMIPPassOk cached vmips served key pass :=
  { ok with
    copy := ok.copy.evolves evolves other
    lease := fun lease given => ⟨(ok.lease lease given).1.evolves evolves, snapshot lease (ok.lease lease given).2⟩
    missing := fun stage none unassigned address labelled =>
      ok.missing stage none unassigned address (evolves.labels _ _ labelled other)
    changed := fun stage alive address assigned => evolves.stays _ _ (ok.changed stage alive address assigned) alive }

variable {vmip : VMIP}

theorem getLease_some {tooMany : Nat → LookupError} {source : Store Lease} {lease : Lease}
    (auto : vmip.staticIP = none) (found : getLease tooMany source vmip = .ok (some lease)) :
    vmip.address = some lease.address ∨ lease.label = some vmip.uid := by
  unfold getLease assignedIPAddress at found
  rw [auto] at found
  dsimp only at found
  split at found
  · rename_i assigned
    rw [assigned, ← key_of_get? (Except.ok.inj found)]
    exact .inl rfl
  unfold getLeaseByLabel at found
  split at found
  · cases found
  · rename_i filtered
    cases found
    have member : lease ∈ source.objects.filter (·.label = some vmip.uid) := by
      rw [filtered]
      exact List.mem_singleton_self lease
    exact .inr (of_decide_eq_true (List.mem_filter.mp member).2)
  · cases found

theorem getLease_none {tooMany : Nat → LookupError} {source : Store Lease} (auto : vmip.staticIP = none)
    (missing : getLease tooMany source vmip = .ok none) (unassigned : vmip.address = none) (address : String) :
    ¬ Labelled source address vmip.uid := by
  rintro ⟨lease, there, label⟩
  unfold getLease assignedIPAddress at missing
  rw [auto, unassigned] at missing
  dsimp only at missing
  unfold getLeaseByLabel at missing
  split at missing
  · rename_i filtered
    have member : lease ∈ source.objects.filter (·.label = some vmip.uid) :=
      List.mem_filter.mpr ⟨mem_of_get? there, decide_eq_true label⟩
    rw [filtered] at member
    cases member
  · cases missing
  · cases missing

variable {local_ : Store Lease}

theorem VMIPPassOk.lookUp (ok : VMIPPassOk cached vmips leases key pass)
    (copies : local_.All fun lease => LeaseCopy cached leases lease ∧ leases.Snapshot lease) :
    VMIPPassOk cached vmips leases key (pass.lookUp local_) := by
  unfold VMIPPass.lookUp
  split
  · exact { ok with missing := nofun, given := nofun, changed := nofun }
  · rename_i lease found
    refine { ok with lease := ?_, missing := fun _ none => ?_, given := fun _ => ?_, changed := nofun }
    · rintro read ⟨⟩
      exact copies _ _ (get?_of_getLease found)
    · cases none
    rintro read ⟨⟩
    exact getLease_some ok.copy.auto found
  · exact { ok with missing := nofun, given := nofun, changed := nofun }

theorem VMIPPassOk.doubleCheck (ok : VMIPPassOk cached vmips leases key pass) (fails : Bool)
    (copies : leases.All (LeaseCopy cached leases)) :
    VMIPPassOk cached vmips leases key (pass.doubleCheck fails leases) := by
  unfold VMIPPass.doubleCheck
  split
  · exact { ok with missing := nofun, given := nofun, changed := nofun }
  split
  · exact { ok with missing := nofun, given := nofun, changed := nofun }
  rename_i lease found
  refine { ok with lease := ?_, missing := fun _ none => ?_, given := fun _ => ?_, changed := nofun }
  · rintro read ⟨⟩
    have there := get?_of_getLease found
    exact ⟨copies _ _ there, .of_get? there⟩
  · obtain rfl : lease = _ := none
    exact getLease_none ok.copy.auto found
  rintro read ⟨⟩
  exact getLease_some ok.copy.auto found

structure Binding (cached : Store VMIP) (vmip : VMIP) (leases served : Store Lease) : Prop where
  evolves : Evolves cached (some vmip.uid) leases served
  copies : served.All (LeaseCopy cached served)
  own : ∃ address, ∀ other, Labelled served other vmip.uid → other = address
  current : VMIPCopy cached served vmip
  alive : ∀ copy, VMIPCopy cached leases copy → copy.uid = vmip.uid → Alive cached vmip.uid →
    VMIPCopy cached served copy

theorem Unique.own (unique : Unique leases) (uid : UID) :
    ∃ address, ∀ other, Labelled leases other uid → other = address := by
  by_cases labelled : ∃ address, Labelled leases address uid
  · obtain ⟨address, labelled⟩ := labelled
    exact ⟨address, fun other also => unique other address _ also labelled⟩
  · exact ⟨"", fun other also => absurd ⟨other, also⟩ labelled⟩

theorem Binding.same (copies : leases.All (LeaseCopy cached leases)) (unique : Unique leases)
    (current : VMIPCopy cached leases vmip) : Binding cached vmip leases leases :=
  ⟨.refl _ _ _, copies, unique.own vmip.uid, current, fun _ copy _ _ => copy⟩

theorem Binding.taken {free : Lease} (copies : leases.All (LeaseCopy cached leases))
    (current : VMIPCopy cached leases vmip) (known : vmip.uid.serial ≤ cached.revision)
    (assigned : vmip.address = some free.address) (unlabelled : free.label = none)
    (there : leases.get? free.address = some free)
    (amended : leases.Amended free.address (fun _ => true) (takeLease free vmip) served) :
    Binding cached vmip leases served := by
  have gone : ¬ Alive cached vmip.uid := by
    intro alive
    obtain ⟨_, found, label⟩ := current.has alive free.address assigned
    obtain rfl := some.inj (there.symm.trans found)
    cases unlabelled.symm.trans label
  have keyed : ∀ stored new, takeLease free vmip stored = .ok new → new.address = stored.address := by
    intro stored new taken
    rw [(takeLease_ok taken).2]
  have changes : ∀ stored new, leases.get? free.address = some stored → takeLease free vmip stored = .ok new →
      Change cached (some vmip.uid) (fun _ => true) stored new := by
    intro stored new found taken
    obtain rfl := some.inj (there.symm.trans found)
    rw [(takeLease_ok taken).2]
    refine ⟨rfl, rfl, ?_, ?_, fun _ => ⟨id, id, ?_⟩, ?_, ?_, nofun⟩
    · rintro uid ⟨⟩ foreign
      exact absurd rfl foreign
    · intro uid label
      cases unlabelled.symm.trans label
    · rintro uid ⟨⟩ alive
      exact absurd alive gone
    · rintro uid ⟨⟩
      rfl
    rintro uid ⟨⟩
    exact known
  have own : ∀ other, Labelled served other vmip.uid → other = free.address := by
    rintro other ⟨lease, found, label⟩
    rcases amended.reads keyed found with before | ⟨-, -, -, -, -, same, -⟩
    · exact current.only free.address assigned other ⟨lease, before, label⟩
    · exact same
  refine ⟨.amended amended keyed changes, .amended amended keyed changes copies, ⟨free.address, own⟩, ?_, ?_⟩
  · refine { current with only := fun _ same other labelled => ?_, has := fun alive => absurd alive gone }
    exact (own other labelled).trans (some.inj (assigned.symm.trans same))
  · exact fun copy _ _ alive => absurd alive gone

theorem Evolves.created (created : leases.create (buildVirtualMachineIPAddressLease leases vmip address) = .ok served) :
    Evolves cached (some vmip.uid) leases served := by
  have fresh := create_fresh created
  have read := get?_create created
  refine ⟨by rw [revision_create created]; exact Nat.le_succ _, ?_, ?_, ?_⟩
  · rintro other uid ⟨lease, found, label⟩ _
    refine ⟨lease, ?_, label⟩
    rw [read, if_neg]
    · exact found
    rintro rfl
    cases fresh.symm.trans found
  · rintro other uid ⟨lease, found, label⟩ foreign
    rw [read] at found
    split at found
    · cases found
      exact absurd label.symm foreign
    · exact ⟨lease, found, label⟩
  intro other lease found
  rw [read] at found
  split at found
  · cases found
    exact .inl (Nat.lt_succ_self _)
  · exact .inr ⟨lease, found, rfl, .refl _ lease⟩

theorem Binding.created (copies : leases.All (LeaseCopy cached leases)) (current : VMIPCopy cached leases vmip)
    (known : vmip.uid.serial ≤ cached.revision) (unassigned : vmip.address = none)
    (missing : ∀ address, ¬ Labelled leases address vmip.uid)
    (created : leases.create (buildVirtualMachineIPAddressLease leases vmip address) = .ok served) :
    Binding cached vmip leases served := by
  have evolves : Evolves cached (some vmip.uid) leases served := .created created
  have read := get?_create created
  have there : served.get? address = some (stamp (leases.revision + 1)
      (buildVirtualMachineIPAddressLease leases vmip address)) := (read address).trans (if_pos rfl)
  refine ⟨evolves, ?_, ⟨address, ?_⟩, ?_, ?_⟩
  · intro other lease found
    rw [read] at found
    split at found
    · cases found
      refine ⟨?_, ?_, ?_, ?_, by rintro ⟨⟩, ?_⟩
      · rw [revision_create created]
        exact Nat.le_refl _
      · rintro uid ⟨⟩
        exact known
      · rintro uid ⟨⟩
        rfl
      · rintro uid ⟨⟩ _
        exact ⟨_, there, rfl⟩
      intro lease again _
      obtain rfl := some.inj (there.symm.trans again)
      exact .refl _ _
    · exact (copies other lease found).evolves evolves
  · rintro other ⟨lease, found, label⟩
    rw [read] at found
    split at found
    · assumption
    · exact absurd ⟨lease, found, label⟩ (missing other)
  · exact .unassigned current.auto unassigned
  -- An address would come with a lease.
  intro copy ok same alive
  refine .unassigned ok.auto (eq_none_iff_forall_ne_some.mpr fun other assigned => ?_)
  have labelled := ok.has (same ▸ alive) other assigned
  rw [same] at labelled
  exact missing other labelled

theorem VMIPPassOk.binding (ok : VMIPPassOk cached vmips leases key pass) (stage : pass.stage = .found)
    (copies : leases.All (LeaseCopy cached leases)) (unique : Unique leases)
    (leased : Leased local_ leases pass.lease pass.current served) : Binding cached pass.current leases served := by
  cases leased with
  | same => exact .same copies unique ok.copy
  | @taken free _ given unnamed unlabelled amended =>
    have assigned : pass.current.address = some free.address := by
      refine (ok.given stage free given).resolve_right fun label => ?_
      cases unlabelled.symm.trans label
    have amended' := amended
    cases amended with
    | same => exact .same copies unique ok.copy
    | written stored _ found taken =>
      have isFree : stored = free := (ok.lease free given).2.2 stored found (takeLease_ok taken).1
      exact .taken copies ok.copy ok.known assigned unlabelled (isFree ▸ found) amended'
    | removed _ _ _ _ dropped => cases dropped
  | created given unassigned created =>
    exact .created copies ok.copy ok.known unassigned (ok.missing stage given unassigned) created

theorem VMIPPassOk.bind {ranges : Ranges} {attached : Bool} {later : VMIPPass}
    (ok : VMIPPassOk cached vmips leases key pass) (copies : leases.All (LeaseCopy cached leases))
    (unique : Unique leases) (bound : pass.bind ranges attached answer local_ leases = some (later, served)) :
    Binding cached pass.current leases served ∧ (∀ copy, leases.Snapshot copy → served.Snapshot copy) ∧
      VMIPPassOk cached vmips served key later := by
  unfold VMIPPass.bind at bound
  split at bound
  · cases bound
    refine ⟨.same copies unique ok.copy, fun _ => id, ?_⟩
    exact { ok with missing := nofun, given := nofun, changed := fun _ => ok.copy.has }
  · rename_i stage
    obtain ⟨leased, handled⟩ := boundHandler_spec ranges answer local_ leases pass.lease pass.current
    cases bound
    have binding := ok.binding stage copies unique leased
    refine ⟨binding, leased.snapshot, ?_⟩
    refine { ok with
      copy := binding.current
      lease := fun lease given =>
        ⟨(ok.lease lease given).1.evolves binding.evolves, leased.snapshot _ (ok.lease lease given).2⟩
      missing := nofun, given := nofun, changed := fun _ alive address assigned => ?_ }
    refine binding.evolves.stays _ _ ?_ alive
    have assigned := handled.address.symm.trans assigned
    cases given : pass.lease with
    | none =>
      rw [given] at assigned
      exact ok.copy.has alive address assigned
    | some lease =>
      rw [given] at assigned
      obtain rfl := some.inj assigned
      rcases ok.given stage lease given with sameAddress | label
      · exact ok.copy.has alive lease.address sameAddress
      · exact (ok.lease lease given).1.stays _ label alive
  · cases bound

end VMIPPass

section Observe

variable {cached later : Store VMIP} {leases : Store Lease} (succeeds : Succeeds cached later)
include succeeds

theorem LeaseCopy.observe {copy : Lease} (ok : LeaseCopy cached leases copy)
    (copies : leases.All (LeaseCopy cached leases)) : LeaseCopy later leases copy := by
  refine { ok with known := ?_, stays := ?_, ages := ?_ }
  · exact fun uid label => Nat.le_trans (ok.known uid label) succeeds.1
  · exact fun uid label alive => ok.stays uid label (succeeds.2 uid alive (ok.known uid label))
  intro lease found same
  obtain ⟨finalizer, deleting, labels⟩ := ok.ages lease found same
  refine ⟨finalizer, deleting, fun uid label alive => labels uid label ?_⟩
  exact succeeds.2 uid alive ((copies _ lease found).known uid label)

theorem VMIPCopy.observe (ok : VMIPCopy cached leases copy) : VMIPCopy later leases copy := by
  refine { ok with young := fun new => ok.young (Nat.lt_of_le_of_lt succeeds.1 new), has := ?_ }
  intro alive address assigned
  by_cases known : copy.uid.serial ≤ cached.revision
  · exact ok.has (succeeds.2 _ alive known) address assigned
  · cases (ok.young (Nat.lt_of_not_le known)).symm.trans assigned

theorem VMIPPassOk.observe {vmips : Store VMIP} {key : NamespacedName} {pass : VMIPPass}
    (ok : VMIPPassOk cached vmips leases key pass)
    (copies : leases.All (LeaseCopy cached leases)) : VMIPPassOk later vmips leases key pass :=
  { ok with
    known := Nat.le_trans ok.known succeeds.1
    copy := ok.copy.observe succeeds
    lease := fun lease given => ⟨(ok.lease lease given).1.observe succeeds copies, (ok.lease lease given).2⟩
    changed := fun stage alive => ok.changed stage (succeeds.2 _ alive ok.known) }

theorem LeasePassOk.observe {pass : LeasePass} (ok : LeasePassOk cached leases address pass)
    (copies : leases.All (LeaseCopy cached leases)) :
    LeasePassOk later leases address pass := by
  refine { ok with copy := ok.copy.observe succeeds copies, released := fun started releases => ?_ }
  obtain ⟨label, finalizer, gone⟩ := ok.released started releases
  refine ⟨label, finalizer, fun uid labelled alive => gone uid labelled ?_⟩
  exact succeeds.2 uid alive (ok.copy.known uid labelled)

end Observe

end Virtualization.Address.Labels
