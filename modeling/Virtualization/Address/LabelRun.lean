import Virtualization.Address.Labels

namespace Virtualization.Address.Labels

open LeasePass Library List Option Store VMIPPass Watched World

structure Inv (w : World) : Prop where
  vmips : w.vmips.Tracked
  leases : w.leases.Tracked
  ordered : w.vmips.states.Pairwise Succeeds
  born : ∀ s ∈ w.vmips.states, s.All (·.uid.serial ≤ s.revision)
  vmipCopies : ∀ s ∈ w.vmips.states, s.All (VMIPCopy w.vmips.cached w.leases.now)
  leaseCopies : ∀ s ∈ w.leases.states, s.All (LeaseCopy w.vmips.cached w.leases.now)
  unique : ∀ s ∈ w.leases.states, Unique s
  vmipPass : ∀ key pass, w.vmipPass key = some pass → VMIPPassOk w.vmips.cached w.vmips.now w.leases.now key pass
  leasePass : ∀ address pass, w.leasePass address = some pass → LeasePassOk w.vmips.cached w.leases.now address pass

variable {leases : Store Lease}

section Inv

variable {w : World}

theorem Inv.empty : Inv .empty where
  vmips := all_synced rfl
  leases := all_synced rfl
  ordered := pairwise_singleton _ _
  born := fun _ => all_synced rfl _
  vmipCopies := all_synced rfl
  leaseCopies := all_synced rfl
  unique := by
    rintro s member one other uid ⟨lease, found, -⟩
    have none : s.All fun _ => False := all_synced rfl s member
    exact (none one lease found).elim
  vmipPass := fun _ _ (running : none = some _) => nomatch running
  leasePass := fun _ _ (running : none = some _) => nomatch running

section

variable (inv : Inv w)
include inv

theorem Inv.now_copies : w.leases.now.All (LeaseCopy w.vmips.cached w.leases.now) :=
  inv.leaseCopies _ w.leases.now_mem

variable {key : NamespacedName}

theorem Inv.alive {s : Store VMIP} (member : s ∈ w.vmips.states) {vmip : VMIP} (found : s.get? key = some vmip)
    (known : vmip.uid.serial ≤ w.vmips.cached.revision) : Alive w.vmips.cached vmip.uid := by
  have succeeds : Succeeds w.vmips.cached s := by
    rcases mem_cons.mp member with rfl | after
    · exact .refl _
    · exact (pairwise_cons.mp inv.ordered).1 s after
  exact succeeds.2 _ (alive_of_get? found) known

theorem Inv.setVMIPs {later : Store VMIP} (snapshot : ∀ copy, w.vmips.now.Snapshot copy → later.Snapshot copy)
    (succeeds : Succeeds w.vmips.now later) (born : later.All (·.uid.serial ≤ later.revision))
    (copies : later.All (VMIPCopy w.vmips.cached w.leases.now)) : Inv (w.setVMIPs later) := by
  refine ⟨inv.vmips.push snapshot, inv.leases, pairwise_push Succeeds.refl Succeeds.trans inv.ordered succeeds, ?_,
    ?_, inv.leaseCopies, inv.unique, ?_, inv.leasePass⟩
  · exact forall_push inv.born born
  · exact forall_push inv.vmipCopies copies
  intro key pass running
  rw [vmips_setVMIPs, now_push]
  exact (inv.vmipPass key pass running).mono snapshot

theorem Inv.vmips_amended {kept : VMIP → Bool} {change : VMIP → Except WriteError VMIP} {later : Store VMIP}
    (amended : w.vmips.now.Amended key kept change later)
    (keyed : ∀ stored new, change stored = .ok new → new.uid = stored.uid)
    (copies : ∀ stored new, w.vmips.now.get? key = some stored → change stored = .ok new →
      VMIPCopy w.vmips.cached w.leases.now new) :
    Inv (w.setVMIPs later) := by
  have sameKey : ∀ stored new, change stored = .ok new → Library.key new = Library.key stored :=
    fun stored new changed => congrArg UID.key (keyed stored new changed)
  refine inv.setVMIPs (fun _ => amended.snapshot) (.amended amended keyed) ?_ ?_
  · have born : w.vmips.now.All (·.uid.serial ≤ later.revision) := fun key vmip found =>
      Nat.le_trans (inv.born _ w.vmips.now_mem key vmip found) amended.revision_le
    refine amended.all sameKey born fun stored new _ found changed _ => ?_
    change new.uid.serial ≤ later.revision
    rw [keyed stored new changed]
    exact born _ stored found
  refine amended.all sameKey (inv.vmipCopies _ w.vmips.now_mem) fun stored new _ found changed _ => ?_
  obtain ⟨auto, young, only, has⟩ := copies stored new found changed
  exact ⟨auto, young, only, has⟩

theorem Inv.setLeases {later : Store Lease} (snapshot : ∀ copy, w.leases.now.Snapshot copy → later.Snapshot copy)
    (evolves : Evolves w.vmips.cached none w.leases.now later) (copies : later.All (LeaseCopy w.vmips.cached later)) :
    Inv (w.setLeases later) := by
  have now : (w.setLeases later).leases.now = later := now_push _ _
  refine ⟨inv.vmips, inv.leases.push snapshot, inv.ordered, inv.born, ?_, ?_, ?_, ?_, ?_⟩
  · intro s member key vmip found
    rw [now]
    exact (inv.vmipCopies s member key vmip found).evolves evolves nofun
  · rw [now]
    refine forall_push (fun s member address lease found => ?_) copies
    exact (inv.leaseCopies s member address lease found).evolves evolves
  · refine forall_push inv.unique fun one other uid first second => ?_
    exact inv.unique _ w.leases.now_mem one other uid (evolves.labels _ _ first nofun) (evolves.labels _ _ second nofun)
  · intro key pass running
    rw [now]
    exact (inv.vmipPass key pass running).evolves evolves nofun snapshot
  intro address pass running
  rw [now]
  exact (inv.leasePass address pass running).evolves evolves snapshot

variable {address : String}

theorem Inv.leases_amended {kept : Lease → Bool} {change : Lease → Except WriteError Lease} {later : Store Lease}
    (amended : w.leases.now.Amended address kept change later)
    (keyed : ∀ stored new, change stored = .ok new → new.address = stored.address)
    (changes : ∀ stored new, w.leases.now.get? address = some stored → LeaseCopy w.vmips.cached w.leases.now stored →
      change stored = .ok new → Change w.vmips.cached none kept stored new) :
    Inv (w.setLeases later) := by
  have changes := fun stored new found => changes stored new found (inv.now_copies _ stored found)
  exact inv.setLeases (fun _ => amended.snapshot) (.amended amended keyed changes)
    (.amended amended keyed changes inv.now_copies)

theorem Inv.setVMIPPass {pass : Option VMIPPass}
    (ok : ∀ running ∈ pass, VMIPPassOk w.vmips.cached w.vmips.now w.leases.now key running) :
    Inv (w.setVMIPPass key pass) := by
  refine { inv with vmipPass := fun other running there => ?_ }
  rcases found_set there with ⟨rfl, new⟩ | ⟨-, old⟩
  · exact ok running new
  · exact inv.vmipPass other running old

theorem Inv.setLeasePass {pass : Option LeasePass}
    (ok : ∀ running ∈ pass, LeasePassOk w.vmips.cached w.leases.now address running) :
    Inv (w.setLeasePass address pass) := by
  refine { inv with leasePass := fun other running there => ?_ }
  rcases found_set there with ⟨rfl, new⟩ | ⟨-, old⟩
  · exact ok running new
  · exact inv.leasePass other running old

theorem Inv.endVMIPPass (key : NamespacedName) : Inv (w.setVMIPPass key none) :=
  inv.setVMIPPass fun _ => nofun

theorem Inv.endLeasePass (address : String) : Inv (w.setLeasePass address none) :=
  inv.setLeasePass fun _ => nofun

theorem Inv.bound {ranges : Ranges} {attached : Bool} {answer : Answer} {pass later : VMIPPass} {served : Store Lease}
    (running : w.vmipPass key = some pass)
    (bound : pass.bind ranges attached answer w.leases.cached w.leases.now = some (later, served)) :
    Inv ((w.setLeases served).setVMIPPass key (some later)) := by
  have before := inv.vmipPass key pass running
  have unique := inv.unique _ w.leases.now_mem
  obtain ⟨binding, snapshot, after⟩ := before.bind inv.now_copies unique bound
  have now : ((w.setLeases served).setVMIPPass key (some later)).leases.now = served := now_push _ _
  refine ⟨inv.vmips, inv.leases.push snapshot, inv.ordered, inv.born, ?_, ?_, ?_, ?_, ?_⟩
  · intro s member name copy found
    rw [now]
    have ok := inv.vmipCopies s member name copy found
    by_cases same : copy.uid = pass.current.uid
    · have alive := inv.alive member found (same ▸ before.known)
      exact binding.alive copy ok same (same ▸ alive)
    · exact ok.evolves binding.evolves fun equal => same (some.inj equal)
  · rw [now]
    refine forall_push (fun s member address lease found => ?_) binding.copies
    exact (inv.leaseCopies s member address lease found).evolves binding.evolves
  · refine forall_push inv.unique fun one other uid first second => ?_
    by_cases same : uid = pass.current.uid
    · obtain ⟨_, own⟩ := binding.own
      exact (own one (same ▸ first)).trans (own other (same ▸ second)).symm
    have foreign : some uid ≠ some pass.current.uid := fun equal => same (some.inj equal)
    exact unique one other uid (binding.evolves.labels _ _ first foreign) (binding.evolves.labels _ _ second foreign)
  · intro other pass' there
    rw [now]
    rcases found_set there with ⟨rfl, new⟩ | ⟨different, old⟩
    · cases new
      exact after
    -- Another pass is about another name.
    have ok := inv.vmipPass other pass' old
    refine ok.evolves binding.evolves (fun equal => different ?_) snapshot
    rw [← ok.key, ← before.key]
    exact congrArg UID.key (some.inj equal)
  intro address pass' there
  rw [now]
  exact (inv.leasePass address pass' there).evolves binding.evolves snapshot

theorem Inv.committed {pass : VMIPPass} (answer : Answer) (running : w.vmipPass key = some pass)
    (stage : pass.stage = .handled) : Inv (w.setVMIPs (pass.commit answer w.vmips.now).2) := by
  have ok := inv.vmipPass key pass running
  refine inv.vmips_amended (commit_amended answer w.vmips.now pass) ?_ ?_
  · intro stored new updated
    rw [(updateVMIPStatus_ok updated).2]
  intro stored new found updated
  obtain ⟨version, rfl⟩ := updateVMIPStatus_ok updated
  obtain rfl : stored = pass.current := ok.current.2 stored found version
  have alive := inv.alive w.vmips.now_mem found ok.known
  have labelled := ok.changed stage alive
  refine ⟨ok.copy.auto, fun young => absurd ok.known (Nat.not_le_of_lt young), ?_, fun _ => labelled⟩
  intro address assigned other also
  exact inv.unique _ w.leases.now_mem other address _ also (labelled address assigned)

variable {pass : LeasePass}

theorem Inv.retained (answer : Answer) (due : Bool) (running : w.leasePass address = some pass)
    (stage : pass.stage = .handled) (same : SameLease w.leases.now pass) :
    Inv (w.setLeases (pass.retain due answer w.leases.now).2) := by
  have ok := inv.leasePass address pass running
  obtain rfl := ok.named
  rcases retain_amended answer w.leases.now pass due with unchanged | ⟨released, amended⟩
  · rw [unchanged]
    exact inv.setLeases (fun _ => id) (.refl _ _ _) inv.now_copies
  refine inv.leases_amended amended (fun _ _ => deleteLease_address) fun _ _ found copy deleted => ?_
  exact ok.delete (by rw [stage]; nofun) (releases_of_lastUpdated released) same found copy deleted

theorem Inv.leaseCommitted (pass : LeasePass) (answer : Answer) :
    Inv (w.setLeases (pass.commit answer w.leases.now).2) := by
  refine inv.leases_amended (commit_amended answer w.leases.now pass) (fun _ _ => updateLeaseStatus_address)
    fun stored new found copy updated => ?_
  obtain ⟨-, rfl⟩ := updateLeaseStatus_ok updated
  exact .status copy _

theorem Inv.leasePatched (answer : Answer) (running : w.leasePass address = some pass) (stage : pass.stage = .updated)
    (same : SameLease w.leases.now pass) : Inv (w.setLeases (pass.patch answer w.leases.now).2) := by
  have ok := inv.leasePass address pass running
  obtain rfl := ok.named
  refine inv.leases_amended (patch_amended answer w.leases.now pass) (fun _ _ => patchLeaseMetadata_address)
    fun stored new found copy patched => ?_
  exact ok.metadata (by rw [stage]; nofun) same found copy patched

theorem Inv.specWritten (answer : Answer) (running : w.leasePass address = some pass) (stage : pass.stage = .patched) :
    Inv (w.setLeases (pass.writeSpec answer w.leases.now)) := by
  have ok := inv.leasePass address pass running
  obtain rfl := ok.named
  rcases writeSpec_amended answer w.leases.now pass with unchanged | ⟨changes, amended⟩
  · rw [unchanged]
    exact inv.setLeases (fun _ => id) (.refl _ _ _) inv.now_copies
  have releases : pass.releases := by
    by_contra other
    exact changes (ok.bound (by rw [stage]; nofun) (Bool.eq_false_iff.mpr other)).2.1
  refine inv.leases_amended amended (fun _ _ => updateLeaseSpec_address) fun _ _ found copy updated => ?_
  exact ok.spec stage releases found copy updated

end

theorem VMIPCopy.congr {cached : Store VMIP} {copy new : VMIP} (ok : VMIPCopy cached leases copy)
    (uid : new.uid = copy.uid) (address : new.address = copy.address) (staticIP : new.staticIP = copy.staticIP) :
    VMIPCopy cached leases new := by
  refine ⟨staticIP.trans ok.auto, ?_, ?_, ?_⟩
  · intro young
    exact address.trans (ok.young (uid ▸ young))
  · intro other assigned lease labelled
    exact ok.only other (address ▸ assigned) lease (uid ▸ labelled)
  intro alive other assigned
  rw [uid] at alive ⊢
  exact ok.has alive other (address ▸ assigned)

end Inv

def AutoOnly : Event → Prop
  | .createVMIP _ staticIP => staticIP = none
  | .editVMIP _ _ => False
  | _ => True

/-- Whatever a pass finds under the name in its lease has the UID in the label, and what the pass deletes or patches is
    the lease it has read. -/
def Owned (w : World) : Event → Prop
  | .lifecycle address _ => ∀ pass ∈ w.leasePass address, OwnedCopy w.vmips.cached pass
  | .retain address _ _ | .patchLease address _ => ∀ pass ∈ w.leasePass address, SameLease w.leases.now pass
  | _ => True

theorem Inv.step {ranges : Ranges} (w : World) (event : Event) (t : World) (inv : Inv w)
    (lawful : AutoOnly event ∧ Owned w event) (moved : step ranges w event = some t) : Inv t := by
  obtain ⟨auto, owned⟩ := lawful
  cases taken_of_step moved with
  | createVMIP _ created =>
    refine inv.setVMIPs (fun _ snapshot => snapshot.create created) (.created created) ?_ ?_
    · rw [revision_create created]
      refine Store.All.create (fun key vmip found => ?_) created fun _ => Nat.le_refl _
      exact Nat.le_succ_of_le (inv.born _ w.vmips.now_mem key vmip found)
    · exact (inv.vmipCopies _ w.vmips.now_mem).create created fun _ => .unassigned auto rfl
  | editVMIP => exact auto.elim
  | deleteVMIP deleted =>
    refine inv.vmips_amended (amend_ok deleted) ?_ fun stored new found deleted => ?_
    · intro stored new changed
      rcases deleteVMIP_ok changed with rfl | rfl <;> rfl
    have ok := inv.vmipCopies _ w.vmips.now_mem _ stored found
    rcases deleteVMIP_ok deleted with rfl | rfl
    · exact ok
    · exact ok.congr rfl rfl rfl
  | @observeVMIPs count =>
    have succeeds : Succeeds w.vmips.cached (w.vmips.observe count).cached :=
      cached_observe count (.refl _) inv.ordered
    refine ⟨inv.vmips.observe count, inv.leases, inv.ordered.sublist (w.vmips.observe_suffix count).sublist, ?_, ?_, ?_,
      inv.unique, ?_, ?_⟩
    · exact fun s member => inv.born s (mem_of_observe member)
    · exact fun s member key vmip found =>
        (inv.vmipCopies s (mem_of_observe member) key vmip found).observe succeeds
    · exact fun s member address lease found =>
        (inv.leaseCopies s member address lease found).observe succeeds inv.now_copies
    · intro key pass running
      rw [now_observe]
      exact (inv.vmipPass key pass running).observe succeeds inv.now_copies
    · exact fun address pass running => (inv.leasePass address pass running).observe succeeds inv.now_copies
  | @observeLeases count =>
    refine ⟨inv.vmips, inv.leases.observe count, inv.ordered, inv.born, ?_, ?_, ?_, ?_, ?_⟩ <;>
      simp only [now_observe]
    · exact inv.vmipCopies
    · exact fun s member => inv.leaseCopies s (mem_of_observe member)
    · exact fun s member => inv.unique s (mem_of_observe member)
    · exact inv.vmipPass
    · exact inv.leasePass
  | fetchVMIP _ found =>
    refine inv.setVMIPPass ?_
    rintro pass ⟨⟩
    have copy := inv.vmipCopies _ (cached_mem _) _ _ found
    have snapshot := inv.vmips _ (cached_mem _) _ _ found
    have known := inv.born _ (cached_mem _) _ _ found
    exact ⟨key_of_get? found, snapshot, known, copy, nofun, nofun, nofun, nofun⟩
  | lookUp running =>
    refine inv.setVMIPPass ?_
    rintro pass ⟨⟩
    refine (inv.vmipPass _ _ running).lookUp fun address lease found => ?_
    exact ⟨inv.leaseCopies _ (cached_mem _) address lease found,
      inv.leases _ (cached_mem _) address lease found⟩
  | doubleCheck running =>
    refine inv.setVMIPPass ?_
    rintro pass ⟨⟩
    exact (inv.vmipPass _ _ running).doubleCheck _ inv.now_copies
  | bind running bound => exact inv.bound running bound
  | @commitVMIP key pass answer running stage =>
    have committed := inv.committed answer running stage
    have kept := committed.vmipPass key pass running
    refine committed.setVMIPPass fun _ went => ?_
    obtain rfl := commit_pass went
    exact { kept with missing := nofun, given := nofun, changed := nofun }
  | @patchVMIP key pass answer running stage =>
    refine Inv.endVMIPPass (inv.vmips_amended (patch_amended answer w.vmips.now pass) ?_ ?_) key
    · intro stored new patched
      rw [patchVMIPMetadata_ok patched]
    intro stored new found patched
    rw [patchVMIPMetadata_ok patched]
    exact (inv.vmipCopies _ w.vmips.now_mem _ stored found).congr rfl rfl rfl
  | dropVMIP => exact inv.endVMIPPass _
  | fetchLease _ found =>
    refine inv.setLeasePass ?_
    rintro pass ⟨⟩
    have copy := inv.leaseCopies _ (cached_mem _) _ _ found
    have snapshot := inv.leases _ (cached_mem _) _ _ found
    have named := key_of_get? found
    exact ⟨named, copy, snapshot, snapshot, named, fun other => absurd rfl other, fun other => absurd rfl other,
      fun _ => rfl, nofun⟩
  | lifecycle running stage =>
    refine inv.setLeasePass ?_
    rintro pass ⟨⟩
    exact (inv.leasePass _ _ running).lifecycle _ (inv.vmipCopies _ (cached_mem _)) (owned _ running) stage
  | @retain address pass due answer running stage =>
    have retained := inv.retained answer due running stage (owned pass running)
    refine retained.setLeasePass ?_
    rintro later ⟨⟩
    exact (retained.leasePass address pass running).retain stage
  | @commitLease address pass answer running stage =>
    have committed := inv.leaseCommitted pass answer
    refine committed.setLeasePass fun _ went => ?_
    exact (inv.leasePass address pass running).commit stage (committed.leasePass address pass running) went
      (now_push _ _).symm
  | @patchLease address pass answer running stage =>
    have patched := inv.leasePatched answer running stage (owned pass running)
    refine patched.setLeasePass fun _ went => ?_
    exact (inv.leasePass address pass running).patch stage (owned pass running)
      (patched.leasePass address pass running) went (now_push _ _).symm
  | @writeSpec address pass answer running stage => exact (inv.specWritten answer running stage).endLeasePass address
  | dropLease => exact inv.endLeasePass _

theorem Unique.getLeaseByLabel (unique : Unique leases) (tooMany : Nat → LookupError) (uid : UID) :
    ∃ lease, getLeaseByLabel tooMany leases uid = .ok lease := by
  obtain ⟨address, own⟩ := unique.own uid
  have few : leases.objects.countP (·.label = some uid) ≤ 1 := by
    refine countP_le_one (k := address) fun lease member label => ?_
    exact own _ ⟨lease, get?_of_mem member, of_decide_eq_true label⟩
  rw [countP_eq_length_filter] at few
  unfold Address.getLeaseByLabel
  generalize (leases.objects.filter (·.label = some uid)) = found at few ⊢
  match found with
  | [] => exact ⟨none, rfl⟩
  | [lease] => exact ⟨some lease, rfl⟩
  | one :: other :: rest =>
    rw [length_cons, length_cons] at few
    omega

theorem Unique.getLease (unique : Unique leases) (tooMany : Nat → LookupError) (vmip : VMIP) :
    ∃ lease, getLease tooMany leases vmip = .ok lease := by
  unfold Address.getLease
  split
  · exact ⟨_, rfl⟩
  · exact unique.getLeaseByLabel tooMany vmip.uid

/-- In every run in which passes find their own VirtualMachineIPAddress by its name and write to the lease they have
    read, no two leases have one UID as label. So a pass finds out whether there is a lease, and it can go on. -/
theorem uid_labels_one_lease {ranges : Ranges} {events : List Event} {w : World}
    (along : Along (World.step ranges) (fun w event => AutoOnly event ∧ Owned w event) .empty events)
    (reached : run (World.step ranges) .empty events = some w) :
    (∀ one ∈ w.leases.now.objects, ∀ other ∈ w.leases.now.objects, ∀ uid, one.label = some uid →
      other.label = some uid → one = other) ∧
    (∀ uid, (∃ lease, getLeaseByLabel .moreThanOneCached w.leases.cached uid = .ok lease) ∧
      ∃ lease, getLeaseByLabel .moreThanOneServed w.leases.now uid = .ok lease) ∧
    ∀ pass : VMIPPass,
      ((pass.lookUp w.leases.cached).stage = .found ∨ (pass.lookUp w.leases.cached).stage = .uncached) ∧
      (pass.doubleCheck false w.leases.now).stage = .found := by
  have inv := run_invariant Inv.step Inv.empty along reached
  have cached := inv.unique _ w.leases.cached_mem
  have now := inv.unique _ w.leases.now_mem
  refine ⟨?_, fun uid => ⟨cached.getLeaseByLabel _ uid, now.getLeaseByLabel _ uid⟩, fun pass => ⟨?_, ?_⟩⟩
  · intro one member other listed uid label also
    have there := get?_of_mem member
    have alsoThere := get?_of_mem listed
    have same := now _ _ uid ⟨one, there, label⟩ ⟨other, alsoThere, also⟩
    exact some.inj (there.symm.trans ((congrArg w.leases.now.get? same).trans alsoThere))
  · obtain ⟨lease, found⟩ := cached.getLease .moreThanOneCached pass.current
    unfold lookUp
    rw [found]
    cases lease with
    | none => exact .inr rfl
    | some => exact .inl rfl
  obtain ⟨_, found⟩ := now.getLease .moreThanOneServed pass.current
  unfold doubleCheck
  rw [found]
  rfl

instance (event : Event) : Decidable (AutoOnly event) := by
  induction event using Event.casesOn <;> unfold AutoOnly <;> infer_instance

instance (w : World) (event : Event) : Decidable (Owned w event) := by
  induction event using Event.casesOn <;> unfold Owned OwnedCopy SameLease <;> infer_instance

def threeAddresses : Ranges where
  configured := true
  addresses := ["x", "y", "z"]
  isInsideOfRange _ := .inside

def someVMIP : NamespacedName := { ns := "n", name := "a" }

def otherVMIP : NamespacedName := { ns := "n", name := "b" }

def leasingPass (key : NamespacedName) : List Event :=
  [.fetchVMIP key, .lookUp key, .doubleCheck key false, .bind key false .ok, .commitVMIP key .ok, .patchVMIP key .ok]

def labellingPass (address : String) : List Event :=
  [.fetchLease address, .lifecycle address false, .retain address false .ok, .commitLease address .ok,
    .patchLease address .ok, .writeSpec address .ok]

/-- Two addresses lease x and y. The first goes, its lease loses the label, and another one that comes with its name
    leases z. -/
def leasingRun : List Event :=
  [.createVMIP someVMIP none, .createVMIP otherVMIP none, .observeVMIPs 2] ++
  leasingPass someVMIP ++ [.observeLeases 1] ++ leasingPass otherVMIP ++ [.observeVMIPs 4, .observeLeases 1] ++
  labellingPass "x" ++ labellingPass "y" ++
  [.observeLeases 8, .deleteVMIP someVMIP, .observeVMIPs 1, .fetchVMIP someVMIP, .lookUp someVMIP,
    .bind someVMIP false .ok, .commitVMIP someVMIP .ok, .patchVMIP someVMIP .ok, .observeVMIPs 2] ++
  labellingPass "x" ++
  [.observeLeases 4, .createVMIP someVMIP none, .observeVMIPs 2] ++ leasingPass someVMIP ++
  [.observeLeases 2] ++ labellingPass "z"

theorem uid_labels_one_lease_leasingRun :
    (run (World.step threeAddresses) .empty leasingRun).map (fun w => w.leases.now.objects.map fun lease =>
        (lease.address, lease.label.map fun uid => (uid.key.name, uid.serial), lease.lastUpdated .bound)) =
      some [("x", none, false), ("y", some ("b", 2), true), ("z", some ("a", 10), true)] ∧
      ∀ w, run (World.step threeAddresses) .empty leasingRun = some w →
        ∀ one ∈ w.leases.now.objects, ∀ other ∈ w.leases.now.objects, ∀ uid, one.label = some uid →
          other.label = some uid → one = other :=
  ⟨by decide +kernel, fun _ reached => (uid_labels_one_lease (by decide +kernel) reached).1⟩

/-- The address goes and another one comes with its name. The new one gets a lease of its own, and the old lease is
    given its UID too, because it is found by the name and has no address yet. -/
def renamingRun : List Event :=
  [.createVMIP someVMIP none, .observeVMIPs 1, .fetchVMIP someVMIP, .lookUp someVMIP, .doubleCheck someVMIP false,
    .bind someVMIP false .ok, .dropVMIP someVMIP, .deleteVMIP someVMIP, .createVMIP someVMIP none, .observeVMIPs 2,
    .observeLeases 1, .fetchVMIP someVMIP, .lookUp someVMIP, .doubleCheck someVMIP false, .bind someVMIP false .ok,
    .dropVMIP someVMIP, .fetchLease "x", .lifecycle "x" false, .retain "x" false .ok, .commitLease "x" .ok,
    .patchLease "x" .ok]

theorem uid_labels_two_leases : ∃ w, run (World.step threeAddresses) .empty renamingRun = some w ∧
    ∃ one ∈ w.leases.now.objects, ∃ other ∈ w.leases.now.objects, one ≠ other ∧ one.label.isSome = true ∧
      one.label = other.label ∧
      ∀ uid ∈ one.label, getLeaseByLabel .moreThanOneServed w.leases.now uid = .error (.moreThanOneServed 2) := by
  decide +kernel

end Virtualization.Address.Labels
