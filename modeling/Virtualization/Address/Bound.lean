import Virtualization.Address.World

namespace Virtualization.Address

open LeasePass Library Option Store VMIPPass Watched World

def Held (vmips : Store VMIP) (leases : Store Lease) : Prop :=
  ∀ key vmip, vmips.get? key = some vmip → vmip.isBound →
    ∃ address lease, vmip.address = some address ∧ leases.get? address = some lease ∧ lease.ref = vmip.ref

def Unheld (vmips : Store VMIP) (address : String) (lease : Lease) : Prop :=
  ∀ key vmip, vmips.get? key = some vmip → vmip.isBound → vmip.address = some address → lease.ref ≠ vmip.ref

def Observed (vmip : VMIP) : Prop := ∀ condition ∈ vmip.bound, condition.observedGeneration ≤ vmip.generation

variable {change : VMIP → Except WriteError VMIP} {later : Store VMIP} {vmip : VMIP}

section Held

variable {vmips : Store VMIP} {leases : Store Lease}

section

variable (held : Held vmips leases)
include held

theorem Held.leases_amended {later : Store Lease} {address : String} {kept : Lease → Bool}
    {change : Lease → Except WriteError Lease} (amended : leases.Amended address kept change later)
    (keyed : ∀ stored new, change stored = .ok new → new.address = stored.address)
    (safe : ∀ stored new, leases.get? address = some stored → change stored = .ok new → new.ref = stored.ref ∧
      kept new ∨ Unheld vmips address stored) :
    Held vmips later := by
  intro key vmip found bound
  obtain ⟨assigned, lease, addressed, there, referenced⟩ := held key vmip found bound
  rcases amended.stays keyed there with after | ⟨rfl, new, changed, after⟩
  · exact ⟨assigned, lease, addressed, after, referenced⟩
  rcases safe lease new there changed with ⟨ref, keep⟩ | unheld
  · exact ⟨assigned, _, addressed, after keep, ref.trans referenced⟩
  · exact absurd referenced (unheld key vmip found bound addressed)

theorem Held.lease_created {later : Store Lease} {lease : Lease} (created : leases.create lease = .ok later) :
    Held vmips later := by
  intro key vmip found bound
  obtain ⟨address, old, addressed, there, referenced⟩ := held key vmip found bound
  refine ⟨address, old, addressed, ?_, referenced⟩
  have other : address ≠ lease.address := by
    rintro rfl
    cases there.symm.trans (create_fresh created)
  rw [get?_create created]
  exact (if_neg other).trans there

theorem Held.vmips_amended {key : NamespacedName} {kept : VMIP → Bool} (amended : vmips.Amended key kept change later)
    (keyed : ∀ stored new, change stored = .ok new → new.uid = stored.uid)
    (safe : ∀ stored new, vmips.get? key = some stored → change stored = .ok new → new.isBound → stored.isBound ∧
      new.address = stored.address ∨ ∃ address lease, new.address = some address ∧ leases.get? address = some lease ∧
      lease.ref = new.ref) :
    Held later leases := by
  intro other vmip found bound
  rcases amended.reads (fun stored new changed => congrArg UID.key (keyed stored new changed)) found with
    before | ⟨stored, new, before, changed, -, rfl, rfl⟩
  · exact held other vmip before bound
  rcases safe stored new before changed bound with ⟨wasBound, addressed⟩ | there
  · obtain ⟨address, lease, assigned, there, referenced⟩ := held other stored before wasBound
    refine ⟨address, lease, addressed.trans assigned, there, referenced.trans ?_⟩
    exact congrArg UID.ref (keyed stored new changed).symm
  · exact there

theorem Held.vmip_created {new : VMIP} (unbound : new.bound = none) (created : vmips.create new = .ok later) :
    Held later leases := by
  intro key vmip found bound
  rw [get?_create created] at found
  split at found
  · obtain rfl := some.inj found
    change (new.bound.any _) = true at bound
    rw [unbound] at bound
    cases bound
  · exact held key vmip found bound

end

theorem not_isBound_of_generation (observed : Observed vmip) (staticIP : Option String) (deleting : Bool) :
    VMIP.isBound { vmip with staticIP, deleting, generation := vmip.generation + 1 } = false := by
  unfold VMIP.isBound
  cases stored : vmip.bound with
  | none => rfl
  | some condition =>
    have := observed condition stored
    rw [any_some, decide_eq_false_iff_not]
    dsimp only
    omega

end Held

section Passes

variable {vmips : Store VMIP} {leases : Store Lease}

structure VMIPPass.Ok (vmips : Store VMIP) (leases : Store Lease) (key : NamespacedName) (pass : VMIPPass) : Prop where
  key : pass.current.key = key
  current : vmips.Snapshot pass.current
  lease : ∀ lease ∈ pass.lease, leases.Snapshot lease
  uid : pass.changed.uid = pass.current.uid
  observed : pass.stage = .handled → ∀ condition ∈ pass.changed.bound,
    condition.observedGeneration = pass.current.generation
  bound : pass.stage = .handled → ∀ condition ∈ pass.changed.bound, condition.outcome = .bound →
    ∃ held, pass.lease = some held ∧ held.ref = pass.current.ref ∧ pass.changed.address = some held.address

structure LeasePass.Ok (leases : Store Lease) (address : String) (pass : LeasePass) : Prop where
  named : pass.current.address = address
  current : leases.Snapshot pass.current
  seen : leases.Snapshot pass.seen
  seenNamed : pass.seen.address = address
  ref : pass.stage ≠ .patched ∨ pass.releases → pass.seen.ref = pass.current.ref
  bound : pass.stage ≠ .fetched → pass.releases = false →
    pass.changed.ref = pass.current.ref ∧ pass.changed.finalizer
  released : pass.stage ≠ .fetched → pass.releases → isBound pass.current pass.vmip = false

variable {key : NamespacedName}

theorem VMIPPass.Ok.mono {served : Store Lease} {pass : VMIPPass} (ok : pass.Ok vmips leases key)
    (current : ∀ copy, vmips.Snapshot copy → later.Snapshot copy)
    (lease : ∀ copy, leases.Snapshot copy → served.Snapshot copy) : pass.Ok later served key :=
  { ok with current := current _ ok.current, lease := fun copy read => lease copy (ok.lease copy read) }

variable {pass : LeasePass} {later : Store Lease} {address : String}

theorem LeasePass.Ok.mono (ok : pass.Ok leases address) (kept : ∀ copy, leases.Snapshot copy → later.Snapshot copy) :
    pass.Ok later address :=
  { ok with current := kept _ ok.current, seen := kept _ ok.seen }

variable {cached : Store Lease}

theorem VMIPPass.Ok.lookUp {pass : VMIPPass} (ok : pass.Ok vmips leases key)
    (copies : ∀ address lease, cached.get? address = some lease → leases.Snapshot lease) :
    (pass.lookUp cached).Ok vmips leases key := by
  unfold VMIPPass.lookUp
  split
  · exact { ok with observed := nofun, bound := nofun }
  · rename_i lease found
    refine { ok with lease := ?_, observed := nofun, bound := nofun }
    rintro read ⟨⟩
    exact copies _ _ (get?_of_getLease found)
  · exact { ok with observed := nofun, bound := nofun }

theorem VMIPPass.Ok.doubleCheck {pass : VMIPPass} (ok : pass.Ok vmips leases key) (fails : Bool) :
    (pass.doubleCheck fails leases).Ok vmips leases key := by
  unfold VMIPPass.doubleCheck
  split
  · exact { ok with observed := nofun, bound := nofun }
  split
  · exact { ok with observed := nofun, bound := nofun }
  rename_i lease found
  refine { ok with lease := ?_, observed := nofun, bound := nofun }
  rintro read ⟨⟩
  exact .of_get? (get?_of_getLease found)

variable {answer : Answer}

theorem VMIPPass.Ok.bind {pass later : VMIPPass} {ranges : Ranges} {attached : Bool} {served : Store Lease}
    (ok : pass.Ok vmips leases key) (bound : pass.bind ranges attached answer cached leases = some (later, served)) :
    Leased cached leases pass.lease pass.current served ∧
      ((∀ copy, leases.Snapshot copy → served.Snapshot copy) → later.Ok vmips served key) := by
  unfold VMIPPass.bind at bound
  split at bound
  · cases bound
    refine ⟨.same, fun _ => { ok with uid := rfl, observed := ?_, bound := ?_ }⟩
    · rintro - condition ⟨⟩
      rfl
    rintro - condition ⟨⟩ isBound
    cases isBound
  · obtain ⟨leased, handled⟩ := boundHandler_spec ranges answer cached leases pass.lease pass.current
    cases bound
    refine ⟨leased, fun kept => ⟨ok.key, ok.current, fun lease read => kept lease (ok.lease lease read), handled.uid,
      fun _ => handled.observed, fun _ condition stored isBound => ?_⟩⟩
    obtain ⟨held, given, referenced⟩ := handled.bound condition stored isBound
    refine ⟨held, given, hasReference_iff.mp referenced, handled.address.trans ?_⟩
    rw [given]
    rfl
  · cases bound

theorem Held.leased {lease : Option Lease} (held : Held vmips leases) (copies : ∀ copy ∈ lease, leases.Snapshot copy)
    (leased : Leased cached leases lease vmip later) : Held vmips later := by
  cases leased with
  | same => exact held
  | taken given unnamed _ amended =>
    refine held.leases_amended amended ?_ ?_
    · intro stored new taken
      rw [(takeLease_ok taken).2]
    -- The lease that is taken refers to nobody.
    intro stored new found taken
    have same : stored = _ := (copies _ given).2 stored found (takeLease_ok taken).1
    refine .inr fun _ _ _ _ _ referenced => ?_
    rw [same] at referenced
    have named := congrArg LeaseRef.name referenced
    rw [unnamed] at named
    cases named
  | created _ _ created => exact held.lease_created created

def Fresh (vmips : Store VMIP) (leases : Store Lease) (pass : LeasePass) : Prop :=
  LeasePass.referenced vmips pass.current = pass.vmip ∧
    ∀ lease ∈ leases.get? pass.current.address, lease.resourceVersion = pass.seen.resourceVersion
deriving Decidable

section

variable (ok : pass.Ok leases address)
include ok

theorem LeasePass.Ok.unheld (stage : pass.stage ≠ .fetched)
    (releases : pass.releases) (fresh : Fresh vmips leases pass) {stored : Lease}
    (found : leases.get? address = some stored) : Unheld vmips address stored := by
  obtain ⟨read, version⟩ := fresh
  obtain rfl := ok.named
  have same : stored = pass.seen := by
    refine ok.seen.2 stored ?_ (version stored found)
    exact (congrArg leases.get? ok.seenNamed).trans found
  intro key vmip there _ assigned referenced
  -- It is the one that the pass has found, so the pass has found it bound.
  rw [same, ok.ref (.inr releases)] at referenced
  have isIt : pass.vmip = some vmip := by
    rw [← read, LeasePass.referenced, referenced]
    exact (congrArg vmips.get? (key_of_get? there)).trans there
  have bound : isBound _ (some vmip) := decide_eq_true ⟨hasReference_iff.mpr referenced, .inr assigned⟩
  rw [← isIt, ok.released stage releases] at bound
  cases bound

theorem LeasePass.Ok.lifecycle (fails : Bool) (cached : Store VMIP)
    (stage : pass.stage = .fetched) : (pass.lifecycle fails cached).Ok leases address := by
  have ref := ok.ref (.inl (by rw [stage]; nofun))
  unfold LeasePass.lifecycle
  split
  · rw [handleLease_failed]
    exact { ok with ref := fun _ => ref, bound := fun _ _ => ⟨rfl, rfl⟩, released := nofun }
  dsimp only
  by_cases bound : isBound pass.current (referenced cached pass.current) = true
  · rw [handleLease_bound bound]
    exact { ok with ref := fun _ => ref, bound := fun _ _ => ⟨rfl, rfl⟩, released := nofun }
  have unbound := Bool.eq_false_iff.mpr bound
  rw [handleLease_released unbound]
  exact { ok with ref := fun _ => ref, bound := nofun, released := fun _ _ => unbound }

theorem LeasePass.Ok.advance {next : LeaseStage} {seen : Lease}
    (started : pass.stage ≠ .fetched) (unpatched : pass.stage ≠ .patched)
    (kept : ∀ copy, leases.Snapshot copy → later.Snapshot copy)
    (answered : seen = pass.seen ∨ later.get? address = some seen ∧ (next ≠ .patched ∨ pass.releases →
      seen.ref = pass.current.ref)) :
    LeasePass.Ok later address { pass with seen, stage := next } := by
  have bound := ok.bound started
  have released := ok.released started
  rcases answered with rfl | ⟨there, ref⟩
  · exact ⟨ok.named, kept _ ok.current, kept _ ok.seen, ok.seenNamed, fun _ => ok.ref (.inl unpatched), fun _ => bound,
      fun _ => released⟩
  · exact ⟨ok.named, kept _ ok.current, .of_get? there, key_of_get? there, ref, fun _ => bound, fun _ => released⟩

theorem LeasePass.Ok.commit {later : LeasePass} (stage : pass.stage = .retained)
    (went : (pass.commit answer leases).1 = some later) : later.Ok (pass.commit answer leases).2 address := by
  obtain rfl := ok.named
  obtain ⟨_, rfl, answered⟩ := commit_pass went
  refine ok.advance (by rw [stage]; nofun) (by rw [stage]; nofun)
    (fun _ => (commit_amended answer leases pass).snapshot) ?_
  refine answered.imp_right fun ⟨there, stored, new, found, updated, shown⟩ => ⟨there, fun _ => ?_⟩
  obtain ⟨version, rfl⟩ := updateLeaseStatus_ok updated
  have isCurrent : stored = pass.current := ok.current.2 stored found version
  rw [shown, isCurrent]

theorem LeasePass.Ok.patch {later : LeasePass} (stage : pass.stage = .updated)
    (fresh : pass.releases → Fresh vmips leases pass) (went : (pass.patch answer leases).1 = some later) :
    later.Ok (pass.patch answer leases).2 address := by
  obtain rfl := ok.named
  obtain ⟨seen, rfl, answered⟩ := patch_pass went
  refine ok.advance (by rw [stage]; nofun) (by rw [stage]; nofun)
    (fun _ => (patch_amended answer leases pass).snapshot) ?_
  refine answered.imp And.left fun ⟨_, there, stored, new, found, patched, _, shown⟩ => ⟨there, fun releases => ?_⟩
  -- The patch carries no version, so it is the condition that tells what has been patched.
  have releases := releases.resolve_left fun other => other rfl
  have isSeen : stored = pass.seen := by
    refine ok.seen.2 stored ?_ ((fresh releases).2 stored found)
    exact (congrArg leases.get? ok.seenNamed).trans found
  obtain ⟨_, _, -, -, rfl⟩ := patchLeaseMetadata_ok patched
  rw [shown, isSeen]
  exact ok.ref (.inr releases)

end

end Passes

structure Inv (w : World) : Prop where
  vmips : w.vmips.Tracked
  leases : w.leases.Tracked
  observed : w.vmips.now.All Observed
  kept : w.leases.now.All (·.kept)
  vmipPass : ∀ key pass, w.vmipPass key = some pass → pass.Ok w.vmips.now w.leases.now key
  leasePass : ∀ address pass, w.leasePass address = some pass → pass.Ok w.leases.now address
  held : Held w.vmips.now w.leases.now

section Inv

variable {w : World}

theorem Inv.empty : Inv .empty where
  vmips := all_synced rfl
  leases := all_synced rfl
  observed := all_synced rfl _ (now_mem _)
  kept := all_synced rfl _ (now_mem _)
  vmipPass := fun _ _ (running : none = some _) => nomatch running
  leasePass := fun _ _ (running : none = some _) => nomatch running
  held := all_synced rfl _ (now_mem _)

variable {later : Store VMIP}

theorem Inv.setVMIPs (inv : Inv w) (snapshot : ∀ copy, w.vmips.now.Snapshot copy → later.Snapshot copy)
    (observed : later.All Observed) (held : Held later w.leases.now) : Inv (w.setVMIPs later) := by
  refine ⟨inv.vmips.push snapshot, inv.leases, ?_, inv.kept, ?_, inv.leasePass, ?_⟩ <;>
    rw [vmips_setVMIPs, now_push]
  · exact observed
  · intro key pass running
    exact (inv.vmipPass key pass running).mono snapshot fun _ => id
  · exact held

theorem Inv.setLeases (inv : Inv w) {later : Store Lease}
    (snapshot : ∀ copy, w.leases.now.Snapshot copy → later.Snapshot copy)
    (kept : later.All (·.kept)) (held : Held w.vmips.now later) : Inv (w.setLeases later) := by
  refine ⟨inv.vmips, inv.leases.push snapshot, inv.observed, ?_, ?_, ?_, ?_⟩ <;>
    rw [leases_setLeases, now_push]
  · exact kept
  · intro key pass running
    exact (inv.vmipPass key pass running).mono (fun _ => id) snapshot
  · intro address pass running
    exact (inv.leasePass address pass running).mono snapshot
  · exact held

variable {key : NamespacedName}

theorem Inv.setVMIPPass (inv : Inv w) {pass : Option VMIPPass}
    (ok : ∀ running ∈ pass, running.Ok w.vmips.now w.leases.now key) : Inv (w.setVMIPPass key pass) := by
  refine { inv with vmipPass := fun other running there => ?_ }
  rcases found_set there with ⟨rfl, new⟩ | ⟨-, old⟩
  · exact ok running new
  · exact inv.vmipPass other running old

variable {address : String}

theorem Inv.setLeasePass (inv : Inv w) {pass : Option LeasePass}
    (ok : ∀ running ∈ pass, running.Ok w.leases.now address) : Inv (w.setLeasePass address pass) := by
  refine { inv with leasePass := fun other running there => ?_ }
  rcases found_set there with ⟨rfl, new⟩ | ⟨-, old⟩
  · exact ok running new
  · exact inv.leasePass other running old

theorem Inv.endVMIPPass (inv : Inv w) (key : NamespacedName) : Inv (w.setVMIPPass key none) :=
  inv.setVMIPPass fun _ => nofun

theorem Inv.endLeasePass (inv : Inv w) (address : String) : Inv (w.setLeasePass address none) :=
  inv.setLeasePass fun _ => nofun

theorem Inv.vmips_amended (inv : Inv w) {kept : VMIP → Bool} (amended : w.vmips.now.Amended key kept change later)
    (keyed : ∀ stored new, change stored = .ok new → new.uid = stored.uid)
    (safe : ∀ stored new, w.vmips.now.get? key = some stored → Observed stored → change stored = .ok new →
      Observed new ∧ (new.isBound → stored.isBound ∧ new.address = stored.address ∨
      ∃ address lease, new.address = some address ∧ w.leases.now.get? address = some lease ∧ lease.ref = new.ref)) :
    Inv (w.setVMIPs later) := by
  refine inv.setVMIPs (fun _ => amended.snapshot) ?_ (inv.held.vmips_amended amended keyed ?_)
  · refine amended.all (fun stored new changed => congrArg UID.key (keyed stored new changed)) inv.observed ?_
    exact fun stored new n found changed _ => (safe stored new found (inv.observed _ _ found) changed).1
  · exact fun stored new found changed => (safe stored new found (inv.observed _ _ found) changed).2

theorem Inv.respecified (inv : Inv w) (amended : w.vmips.now.Amended key VMIP.kept change later)
    (changes : ∀ stored new, change stored = .ok new → new = stored ∨
      ∃ staticIP deleting, new = { stored with staticIP, deleting, generation := stored.generation + 1 }) :
    Inv (w.setVMIPs later) := by
  refine inv.vmips_amended amended ?_ ?_
  · intro stored new changed
    rcases changes stored new changed with rfl | ⟨_, _, rfl⟩ <;> rfl
  intro stored new _ observed changed
  rcases changes stored new changed with rfl | ⟨staticIP, deleting, rfl⟩
  · exact ⟨observed, fun bound => .inl ⟨bound, rfl⟩⟩
  refine ⟨fun condition there => Nat.le_succ_of_le (observed condition there), fun bound => ?_⟩
  rw [not_isBound_of_generation observed staticIP deleting] at bound
  cases bound

def VMIPPass.binds (pass : VMIPPass) : Bool := pass.changed.bound.any (·.outcome = .bound)

variable (inv : Inv w)
include inv

theorem Inv.committed {pass : VMIPPass} (answer : Answer) (running : w.vmipPass key = some pass)
    (stage : pass.stage = .handled)
    (current : pass.binds → ∀ lease ∈ pass.lease, w.leases.now.get? lease.address = some lease) :
    Inv (w.setVMIPs (pass.commit answer w.vmips.now).2) := by
  have ok := inv.vmipPass key pass running
  refine inv.vmips_amended (commit_amended answer w.vmips.now pass) ?_ ?_
  · intro stored new updated
    rw [(updateVMIPStatus_ok updated).2]
  intro stored new found _ updated
  obtain ⟨version, rfl⟩ := updateVMIPStatus_ok updated
  obtain rfl : stored = pass.current := ok.current.2 stored found version
  refine ⟨fun condition there => Nat.le_of_eq (ok.observed stage condition there), fun bound => .inr ?_⟩
  obtain ⟨condition, there, isBound⟩ := (any_eq_true _ _).mp bound
  have outcome := (of_decide_eq_true isBound).1
  obtain ⟨held, given, referenced, assigned⟩ := ok.bound stage condition there outcome
  refine ⟨held.address, held, assigned, current ?_ held given, referenced⟩
  exact (any_eq_true _ _).mpr ⟨condition, there, decide_eq_true outcome⟩

theorem Inv.unprotected (pass : VMIPPass) (answer : Answer) : Inv (w.setVMIPs (pass.patch answer w.vmips.now)) := by
  refine inv.vmips_amended (patch_amended answer w.vmips.now pass) ?_ ?_
  · intro stored new patched
    rw [patchVMIPMetadata_ok patched]
  intro stored new _ observed patched
  rw [patchVMIPMetadata_ok patched]
  exact ⟨observed, fun bound => .inl ⟨bound, rfl⟩⟩

theorem Inv.bound {cached later : Store Lease} {lease : Option Lease}
    (copies : ∀ copy ∈ lease, w.leases.now.Snapshot copy) (leased : Leased cached w.leases.now lease vmip later) :
    Inv (w.setLeases later) := by
  refine inv.setLeases leased.snapshot ?_ (inv.held.leased copies leased)
  cases leased with
  | same => exact inv.kept
  | taken _ _ _ amended =>
    refine amended.all ?_ inv.kept ?_
    · intro stored new taken
      rw [(takeLease_ok taken).2]
      rfl
    intro stored new n found taken _
    rw [(takeLease_ok taken).2]
    exact inv.kept _ stored found
  | created _ _ created => exact inv.kept.create created fun _ => rfl

theorem Inv.leases_amended {kept : Lease → Bool} {change : Lease → Except WriteError Lease} {later : Store Lease}
    (amended : w.leases.now.Amended address kept change later)
    (keyed : ∀ stored new, change stored = .ok new → new.address = stored.address)
    (safe : ∀ stored new, w.leases.now.get? address = some stored → stored.kept → change stored = .ok new →
      (kept new → new.kept) ∧ (new.ref = stored.ref ∧ kept new ∨ Unheld w.vmips.now address stored)) :
    Inv (w.setLeases later) := by
  refine inv.setLeases (fun _ => amended.snapshot) (amended.all keyed inv.kept ?_)
    (inv.held.leases_amended amended keyed ?_)
  · exact fun stored new n found changed keep => (safe stored new found (inv.kept _ _ found) changed).1 keep
  · exact fun stored new found changed => (safe stored new found (inv.kept _ _ found) changed).2

variable {pass : LeasePass} (answer : Answer)

theorem Inv.retained (due : Bool) (running : w.leasePass address = some pass) (stage : pass.stage = .handled)
    (fresh : pass.releases → Fresh w.vmips.now w.leases.now pass) :
    Inv (w.setLeases (pass.retain due answer w.leases.now).2) := by
  have ok := inv.leasePass address pass running
  obtain rfl := ok.named
  rcases retain_amended answer w.leases.now pass due with same | ⟨released, amended⟩
  · rw [same]
    exact inv.setLeases (fun _ => id) inv.kept inv.held
  refine inv.leases_amended amended (fun _ _ => deleteLease_address) ?_
  intro stored new found _ deleted
  have releases := releases_of_lastUpdated released
  exact ⟨id, .inr (ok.unheld (by rw [stage]; nofun) releases (fresh releases) found)⟩

theorem Inv.leaseCommitted : Inv (w.setLeases (pass.commit answer w.leases.now).2) := by
  refine inv.leases_amended (commit_amended answer w.leases.now pass) (fun _ _ => updateLeaseStatus_address) ?_
  intro stored new found kept updated
  rw [(updateLeaseStatus_ok updated).2]
  exact ⟨fun _ => kept, .inl ⟨rfl, rfl⟩⟩

theorem Inv.leasePatched (running : w.leasePass address = some pass) (stage : pass.stage = .updated)
    (fresh : pass.releases → Fresh w.vmips.now w.leases.now pass) :
    Inv (w.setLeases (pass.patch answer w.leases.now).2) := by
  have ok := inv.leasePass address pass running
  obtain rfl := ok.named
  refine inv.leases_amended (patch_amended answer w.leases.now pass) (fun _ _ => patchLeaseMetadata_address) ?_
  intro stored new found kept patched
  refine ⟨id, ?_⟩
  cases releases : pass.releases with
  | true => exact .inr (ok.unheld (by rw [stage]; nofun) releases (fresh releases) found)
  | false =>
    -- A pass that releases nothing leaves the finalizer or adds it.
    have protects := (ok.bound (by rw [stage]; nofun) releases).2
    obtain ⟨_, _, finalized, -, rfl⟩ := patchLeaseMetadata_ok patched
    refine .inl ⟨rfl, ?_⟩
    rcases patchFinalizer_ok finalized with ⟨-, rfl⟩ | ⟨-, rfl⟩
    · exact kept
    unfold Lease.kept
    rw [protects, Bool.or_true]

theorem Inv.specWritten (running : w.leasePass address = some pass) (stage : pass.stage = .patched)
    (fresh : pass.releases → Fresh w.vmips.now w.leases.now pass) :
    Inv (w.setLeases (pass.writeSpec answer w.leases.now)) := by
  have ok := inv.leasePass address pass running
  obtain rfl := ok.named
  rcases writeSpec_amended answer w.leases.now pass with same | ⟨changes, amended⟩
  · rw [same]
    exact inv.setLeases (fun _ => id) inv.kept inv.held
  refine inv.leases_amended amended (fun _ _ => updateLeaseSpec_address) ?_
  intro stored new found kept updated
  have releases : pass.releases := by
    by_contra other
    exact changes (ok.bound (by rw [stage]; nofun) (Bool.eq_false_iff.mpr other)).1
  refine ⟨fun _ => ?_, .inr (ok.unheld (by rw [stage]; nofun) releases (fresh releases) found)⟩
  rw [(updateLeaseSpec_ok updated).2]
  exact kept

end Inv

/-- A status update to Bound is made while the lease is what the pass has read. A pass that releases its lease deletes
    it, patches it and clears its reference while the lease and the VirtualMachineIPAddress under the reference are what
    the pass takes them for. -/
def Current (w : World) : Event → Prop
  | .commitVMIP key _ => ∀ pass ∈ w.vmipPass key, pass.binds →
      ∀ lease ∈ pass.lease, w.leases.now.get? lease.address = some lease
  | .retain address _ _ | .patchLease address _ | .writeSpec address _ =>
    ∀ pass ∈ w.leasePass address, pass.releases → Fresh w.vmips.now w.leases.now pass
  | _ => True

instance (w : World) (event : Event) : Decidable (Current w event) := by
  cases event <;> unfold Current <;> infer_instance

theorem Inv.step {ranges : Ranges} (w : World) (event : Event) (t : World) (inv : Inv w) (current : Current w event)
    (moved : World.step ranges w event = some t) : Inv t := by
  cases taken_of_step moved with
  | createVMIP _ created =>
    refine inv.setVMIPs (fun _ snapshot => snapshot.create created) ?_ (inv.held.vmip_created rfl created)
    exact inv.observed.create created fun _ => nofun
  | editVMIP edited =>
    exact inv.respecified (amend_ok edited) fun _ _ changed => (editSpec_ok changed).imp_right fun same => ⟨_, _, same⟩
  | deleteVMIP deleted =>
    exact inv.respecified (amend_ok deleted) fun _ _ changed =>
      (deleteVMIP_ok changed).imp_right fun same => ⟨_, _, same⟩
  | observeVMIPs =>
    refine ⟨inv.vmips.observe _, inv.leases, ?_, inv.kept, ?_, inv.leasePass, ?_⟩ <;> rw [now_observe]
    · exact inv.observed
    · exact inv.vmipPass
    · exact inv.held
  | observeLeases =>
    refine ⟨inv.vmips, inv.leases.observe _, inv.observed, ?_, ?_, ?_, ?_⟩ <;> rw [now_observe]
    · exact inv.kept
    · exact inv.vmipPass
    · exact inv.leasePass
    · exact inv.held
  | fetchVMIP _ found =>
    refine inv.setVMIPPass ?_
    rintro pass ⟨⟩
    exact ⟨key_of_get? found, inv.vmips _ (cached_mem _) _ _ found, nofun, rfl, nofun, nofun⟩
  | lookUp running =>
    refine inv.setVMIPPass ?_
    rintro pass ⟨⟩
    exact (inv.vmipPass _ _ running).lookUp fun address lease => inv.leases _ (cached_mem _) address lease
  | doubleCheck running =>
    refine inv.setVMIPPass ?_
    rintro pass ⟨⟩
    exact (inv.vmipPass _ _ running).doubleCheck _
  | bind running bound =>
    have ok := inv.vmipPass _ _ running
    obtain ⟨leased, later⟩ := ok.bind bound
    refine (inv.bound ok.lease leased).setVMIPPass ?_
    rintro pass ⟨⟩
    rw [leases_setLeases, now_push]
    exact later leased.snapshot
  | @commitVMIP key pass answer running stage =>
    have committed := inv.committed answer running stage (current pass running)
    have kept := committed.vmipPass key pass running
    refine committed.setVMIPPass fun _ went => ?_
    obtain rfl := commit_pass went
    exact { kept with observed := nofun, bound := nofun }
  | patchVMIP => exact (inv.unprotected _ _).endVMIPPass _
  | dropVMIP => exact inv.endVMIPPass _
  | fetchLease _ found =>
    refine inv.setLeasePass ?_
    rintro pass ⟨⟩
    have copy := inv.leases _ (cached_mem _) _ _ found
    have named := key_of_get? found
    exact ⟨named, copy, copy, named, fun _ => rfl, fun other => absurd rfl other, fun other => absurd rfl other⟩
  | lifecycle running stage =>
    refine inv.setLeasePass ?_
    rintro pass ⟨⟩
    exact (inv.leasePass _ _ running).lifecycle _ _ stage
  | @retain address pass due answer running stage =>
    have retained := inv.retained answer due running stage (current pass running)
    refine retained.setLeasePass ?_
    rintro later ⟨⟩
    refine (retained.leasePass address pass running).advance ?_ ?_ (fun _ => id) (.inl rfl)
    · rw [stage]
      nofun
    rw [stage]
    nofun
  | @commitLease address pass answer running stage =>
    refine (inv.leaseCommitted answer).setLeasePass fun _ went => ?_
    rw [leases_setLeases, now_push]
    exact (inv.leasePass address pass running).commit stage went
  | @patchLease address pass answer running stage =>
    refine (inv.leasePatched answer running stage (current pass running)).setLeasePass fun _ went => ?_
    rw [leases_setLeases, now_push]
    exact (inv.leasePass address pass running).patch stage (current pass running) went
  | @writeSpec address pass answer running stage =>
    exact (inv.specWritten answer running stage (current pass running)).endLeasePass address
  | dropLease => exact inv.endLeasePass _

/-- In every run whose steps are current, no two VirtualMachineIPAddresses are bound to one address, and the lease of a
    bound one refers to it. -/
theorem bound_address_unique {ranges : Ranges} {events : List Event} {w : World}
    (along : Along (World.step ranges) Current .empty events)
    (reached : run (World.step ranges) .empty events = some w) :
    (∀ vmip ∈ w.vmips.now.objects, ∀ other ∈ w.vmips.now.objects, vmip.isBound = true → other.isBound = true →
      vmip.address = other.address → vmip = other) ∧
    ∀ vmip ∈ w.vmips.now.objects, vmip.isBound = true →
      ∃ address lease, vmip.address = some address ∧ w.leases.now.get? address = some lease ∧
        hasReference vmip lease = true := by
  have inv := run_invariant Inv.step Inv.empty along reached
  refine ⟨fun vmip member other listed bound alsoBound same => ?_, fun vmip member bound => ?_⟩
  · obtain ⟨_, lease, assigned, there, ref⟩ := inv.held _ vmip (get?_of_mem member) bound
    obtain ⟨_, _, assigned', there', ref'⟩ := inv.held _ other (get?_of_mem listed) alsoBound
    obtain rfl := some.inj (assigned.symm.trans (same.trans assigned'))
    obtain rfl := some.inj (there.symm.trans there')
    -- One lease refers to one name, and that is the key.
    have sameKey : vmip.key = other.key := UID.key_of_ref (ref.symm.trans ref')
    exact some.inj ((get?_of_mem member).symm.trans
      ((congrArg w.vmips.now.get? sameKey).trans (get?_of_mem listed)))
  obtain ⟨address, lease, assigned, there, ref⟩ := inv.held _ vmip (get?_of_mem member) bound
  exact ⟨address, lease, assigned, there, hasReference_iff.mpr ref⟩

def everyAddress : Ranges where
  configured := true
  addresses := []
  isInsideOfRange _ := .inside

def vmipNamed (name : String) : NamespacedName := { ns := "n", name }

def leaseReconcile (address : String) : List Event :=
  [.fetchLease address, .lifecycle address false, .retain address false .ok, .commitLease address .ok,
    .patchLease address .ok, .writeSpec address .ok]

/-- Both want x: the lease goes to `a`, and `b` finds it taken. -/
def bindingRun : List Event :=
  [.createVMIP (vmipNamed "a") (some "x"), .createVMIP (vmipNamed "b") (some "x"), .observeVMIPs 2,
    .fetchVMIP (vmipNamed "a"), .lookUp (vmipNamed "a"), .doubleCheck (vmipNamed "a") false,
    .bind (vmipNamed "a") false .ok, .commitVMIP (vmipNamed "a") .ok, .patchVMIP (vmipNamed "a") .ok,
    .observeVMIPs 2, .observeLeases 1] ++
  leaseReconcile "x" ++
  [.observeLeases 4, .fetchVMIP (vmipNamed "b"), .lookUp (vmipNamed "b"), .bind (vmipNamed "b") false .ok,
    .commitVMIP (vmipNamed "b") .ok, .fetchVMIP (vmipNamed "a"), .lookUp (vmipNamed "a"),
    .bind (vmipNamed "a") false .ok, .commitVMIP (vmipNamed "a") .ok]

theorem bound_address_unique_bindingRun :
    (run (World.step everyAddress) .empty bindingRun).map (fun w => w.vmips.now.objects.map fun vmip =>
        (vmip.key.name, vmip.staticIP, vmip.isBound)) = some [("a", some "x", true), ("b", some "x", false)] ∧
      ∀ w, run (World.step everyAddress) .empty bindingRun = some w →
        ∀ vmip ∈ w.vmips.now.objects, ∀ other ∈ w.vmips.now.objects, vmip.isBound = true → other.isBound = true →
          vmip.address = other.address → vmip = other :=
  ⟨by decide +kernel, fun _ reached => (bound_address_unique (by decide +kernel) reached).1⟩

/-- The lease of x is free. `a` takes it, is moved to y before its status is written, gets the address y without being
    bound to it, and is moved back to x. Its pass reads the lease while that is still bound to it; the lease is released
    because of the address y, `b` gets it, and then the pass of `a` writes its status. -/
def rebindingRun : List Event :=
  [.createVMIP (vmipNamed "z") (some "x"), .observeVMIPs 1,
    .fetchVMIP (vmipNamed "z"), .lookUp (vmipNamed "z"), .doubleCheck (vmipNamed "z") false,
    .bind (vmipNamed "z") false .ok, .dropVMIP (vmipNamed "z"), .deleteVMIP (vmipNamed "z"), .observeVMIPs 1,
    .observeLeases 1] ++
  leaseReconcile "x" ++
  [.observeLeases 4, .createVMIP (vmipNamed "a") (some "x"), .createVMIP (vmipNamed "c") (some "y"), .observeVMIPs 2,
    .fetchVMIP (vmipNamed "a"), .lookUp (vmipNamed "a"), .editVMIP (vmipNamed "a") (some "y"),
    .bind (vmipNamed "a") false .ok, .commitVMIP (vmipNamed "a") .ok,
    .fetchVMIP (vmipNamed "c"), .lookUp (vmipNamed "c"), .doubleCheck (vmipNamed "c") false,
    .bind (vmipNamed "c") false .ok, .dropVMIP (vmipNamed "c"), .observeLeases 2] ++
  leaseReconcile "x" ++
  [.observeVMIPs 2, .fetchVMIP (vmipNamed "a"), .lookUp (vmipNamed "a"), .bind (vmipNamed "a") false .ok,
    .commitVMIP (vmipNamed "a") .ok, .dropVMIP (vmipNamed "a"), .editVMIP (vmipNamed "a") (some "x"),
    .observeVMIPs 2, .observeLeases 5, .fetchVMIP (vmipNamed "a"), .lookUp (vmipNamed "a"),
    .bind (vmipNamed "a") false .ok] ++
  leaseReconcile "x" ++
  [.observeLeases 5, .createVMIP (vmipNamed "b") (some "x"), .observeVMIPs 1, .fetchVMIP (vmipNamed "b"),
    .lookUp (vmipNamed "b"), .bind (vmipNamed "b") false .ok, .dropVMIP (vmipNamed "b"), .observeLeases 1] ++
  leaseReconcile "x" ++
  [.observeLeases 4, .fetchVMIP (vmipNamed "b"), .lookUp (vmipNamed "b"), .bind (vmipNamed "b") false .ok,
    .commitVMIP (vmipNamed "b") .ok, .commitVMIP (vmipNamed "a") .ok]

theorem two_bound_to_one_address : ∃ w, run (World.step everyAddress) .empty rebindingRun = some w ∧
    ∃ vmip ∈ w.vmips.now.objects, ∃ other ∈ w.vmips.now.objects, vmip ≠ other ∧ vmip.isBound = true ∧
      other.isBound = true ∧ vmip.address = some "x" ∧ other.address = some "x" := by
  decide +kernel

end Virtualization.Address
