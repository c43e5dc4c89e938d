import Virtualization.Address.Handlers
import Virtualization.Library.Run
import Virtualization.Library.Watched

namespace Virtualization.Address

open Library Option

inductive VMIPStage where
  | fetched
  | uncached
  | found
  | failed (error : LookupError)
  | handled
  | stored
deriving DecidableEq

structure VMIPPass where
  current : VMIP
  lease : Option Lease
  changed : VMIP
  stage : VMIPStage

inductive LeaseStage where
  | fetched
  | handled
  | retained
  | updated
  | patched
deriving DecidableEq

/-- A pass of the lease controller. `vmip` is what it has found under the reference, and `seen` is the lease as the last
    answer of the API server has shown it. -/
structure LeasePass where
  current : Lease
  vmip : Option VMIP
  (changed seen : Lease)
  stage : LeaseStage

/-- The API server with the cache that both controllers share. A controller has one pass at a time for a key. -/
structure World where
  vmips : Watched (Store VMIP)
  leases : Watched (Store Lease)
  vmipPass : NamespacedName → Option VMIPPass
  leasePass : String → Option LeasePass

inductive Event where
  | createVMIP (key : NamespacedName) (staticIP : Option String)
  | editVMIP (key : NamespacedName) (staticIP : Option String)
  | deleteVMIP (key : NamespacedName)
  | observeVMIPs (count : Nat)
  | observeLeases (count : Nat)
  | fetchVMIP (key : NamespacedName)
  | lookUp (key : NamespacedName)
  | doubleCheck (key : NamespacedName) (fails : Bool)
  | bind (key : NamespacedName) (attached : Bool) (answer : Answer)
  | commitVMIP (key : NamespacedName) (answer : Answer)
  | patchVMIP (key : NamespacedName) (answer : Answer)
  | dropVMIP (key : NamespacedName)
  | fetchLease (address : String)
  | lifecycle (address : String) (fails : Bool)
  | retain (address : String) (due : Bool) (answer : Answer)
  | commitLease (address : String) (answer : Answer)
  | patchLease (address : String) (answer : Answer)
  | writeSpec (address : String) (answer : Answer)
  | dropLease (address : String)

variable {seen : Lease}

section Requests

def newVMIP (vmips : Store VMIP) (key : NamespacedName) (staticIP : Option String) : VMIP where
  uid := { key, serial := vmips.revision + 1 }
  resourceVersion := 0
  generation := 1
  staticIP := staticIP
  address := none
  bound := none
  attached := false
  deleting := false
  finalizer := false

def editSpec (ranges : Ranges) (cached : Store Lease) (staticIP : Option String) (stored : VMIP) :
    Except WriteError VMIP :=
  if validateUpdate ranges cached stored staticIP then
    .ok (if stored.staticIP = staticIP then stored else { stored with staticIP, generation := stored.generation + 1 })
  else .error .conflict

def deleteVMIP (stored : VMIP) : Except WriteError VMIP :=
  .ok (if stored.deleting then stored else { stored with deleting := true, generation := stored.generation + 1 })

def deleteLease (stored : Lease) : Except WriteError Lease :=
  .ok (if stored.deleting then stored else { stored with deleting := true, generation := stored.generation + 1 })

/-- A JSON patch of the finalizers: a terminating object takes no new one. -/
def patchFinalizer (current changed stored deleting : Bool) : Except WriteError Bool :=
  if current = changed then .ok stored
  else if changed ∧ !stored ∧ deleting then .error .conflict
  else .ok changed

def patchLabel (current changed stored : Option UID) : Except WriteError (Option UID) :=
  if current = changed then .ok stored
  else if stored ≠ current then .error .conflict
  else .ok changed

def updateVMIPStatus (current changed stored : VMIP) : Except WriteError VMIP :=
  if stored.resourceVersion ≠ current.resourceVersion then .error .conflict
  else .ok { stored with address := changed.address, bound := changed.bound, attached := changed.attached }

def patchVMIPMetadata (current changed stored : VMIP) : Except WriteError VMIP :=
  (patchFinalizer current.finalizer changed.finalizer stored.finalizer stored.deleting).map
    fun finalizer => { stored with finalizer }

def updateLeaseStatus (current changed stored : Lease) : Except WriteError Lease :=
  if stored.resourceVersion ≠ current.resourceVersion then .error .conflict
  else .ok { stored with bound := changed.bound }

def patchLeaseMetadata (current changed stored : Lease) : Except WriteError Lease :=
  match patchFinalizer current.finalizer changed.finalizer stored.finalizer stored.deleting,
    patchLabel current.label changed.label stored.label with
  | .ok finalizer, .ok label => .ok { stored with finalizer, label }
  | .error error, _ | _, .error error => .error error

def updateLeaseSpec (seen changed stored : Lease) : Except WriteError Lease :=
  if stored.resourceVersion ≠ seen.resourceVersion then .error .conflict
  else if stored.ref = changed.ref then .ok stored
  else .ok { stored with ref := changed.ref, generation := stored.generation + 1 }

theorem editSpec_ok {ranges : Ranges} {cached : Store Lease} {staticIP : Option String} {stored new : VMIP}
    (edited : editSpec ranges cached staticIP stored = .ok new) :
    new = stored ∨ new = { stored with staticIP, generation := stored.generation + 1 } := by
  unfold editSpec at edited
  split at edited
  · cases edited
    split
    · exact .inl rfl
    · exact .inr rfl
  · cases edited

theorem deleteVMIP_ok {stored new : VMIP} (deleted : deleteVMIP stored = .ok new) :
    new = stored ∨ new = { stored with deleting := true, generation := stored.generation + 1 } := by
  cases deleted
  split
  · exact .inl rfl
  · exact .inr rfl

theorem updateVMIPStatus_ok {current changed stored new : VMIP}
    (updated : updateVMIPStatus current changed stored = .ok new) : stored.resourceVersion = current.resourceVersion ∧
      new = { stored with address := changed.address, bound := changed.bound, attached := changed.attached } := by
  unfold updateVMIPStatus at updated
  split at updated
  · cases updated
  rename_i same
  cases updated
  exact ⟨not_not.mp same, rfl⟩

theorem patchVMIPMetadata_ok {current changed stored new : VMIP}
    (patched : patchVMIPMetadata current changed stored = .ok new) :
    new = { stored with finalizer := new.finalizer } := by
  unfold patchVMIPMetadata at patched
  cases outcome : patchFinalizer current.finalizer changed.finalizer stored.finalizer stored.deleting with
  | error =>
    rw [outcome] at patched
    cases patched
  | ok =>
    rw [outcome] at patched
    cases patched
    rfl

variable {stored new : Lease}

theorem deleteLease_ok (deleted : deleteLease stored = .ok new) :
    new = { stored with deleting := true, generation := new.generation } := by
  unfold deleteLease at deleted
  split at deleted
  · rename_i deleting
    cases deleted
    rw [← deleting]
  cases deleted
  rfl

variable {current changed : Lease}

theorem updateLeaseStatus_ok (updated : updateLeaseStatus current changed stored = .ok new) :
    stored.resourceVersion = current.resourceVersion ∧ new = { stored with bound := changed.bound } := by
  unfold updateLeaseStatus at updated
  split at updated
  · cases updated
  rename_i same
  cases updated
  exact ⟨not_not.mp same, rfl⟩

theorem patchLeaseMetadata_ok (patched : patchLeaseMetadata current changed stored = .ok new) : ∃ finalizer label,
      patchFinalizer current.finalizer changed.finalizer stored.finalizer stored.deleting = .ok finalizer ∧
        patchLabel current.label changed.label stored.label = .ok label ∧ new = { stored with finalizer, label } := by
  unfold patchLeaseMetadata at patched
  split at patched
  · rename_i finalizer label one other
    cases patched
    exact ⟨finalizer, label, one, other, rfl⟩
  · cases patched
  · cases patched

theorem deleteLease_address (deleted : deleteLease stored = .ok new) : new.address = stored.address := by
  rw [deleteLease_ok deleted]

theorem updateLeaseStatus_address (updated : updateLeaseStatus current changed stored = .ok new) :
    new.address = stored.address := by
  rw [(updateLeaseStatus_ok updated).2]

theorem patchLeaseMetadata_address (patched : patchLeaseMetadata current changed stored = .ok new) :
    new.address = stored.address := by
  obtain ⟨_, _, -, -, rfl⟩ := patchLeaseMetadata_ok patched
  rfl

theorem patchFinalizer_ok {current changed stored deleting finalizer : Bool}
    (patched : patchFinalizer current changed stored deleting = .ok finalizer) :
    current = changed ∧ finalizer = stored ∨ current ≠ changed ∧ finalizer = changed := by
  revert patched
  cases current <;> cases changed <;> cases stored <;> cases deleting <;> cases finalizer <;> decide

theorem patchLabel_ok {current changed stored label : Option UID}
    (patched : patchLabel current changed stored = .ok label) :
    current = changed ∧ label = stored ∨ current ≠ changed ∧ stored = current ∧ label = changed := by
  unfold patchLabel at patched
  split at patched
  · rename_i same
    cases patched
    exact .inl ⟨same, rfl⟩
  rename_i other
  split at patched
  · cases patched
  rename_i tested
  cases patched
  exact .inr ⟨other, not_not.mp tested, rfl⟩

theorem updateLeaseSpec_ok (updated : updateLeaseSpec seen changed stored = .ok new) :
    stored.resourceVersion = seen.resourceVersion ∧
      new = { stored with ref := changed.ref, generation := new.generation } := by
  unfold updateLeaseSpec at updated
  split at updated
  · cases updated
  rename_i same
  refine ⟨not_not.mp same, ?_⟩
  split at updated
  · rename_i ref
    cases updated
    rw [← ref]
  cases updated
  rfl

theorem updateLeaseSpec_address (updated : updateLeaseSpec seen changed stored = .ok new) :
    new.address = stored.address := by
  rw [(updateLeaseSpec_ok updated).2]

end Requests

namespace VMIPPass

def lookUp (cached : Store Lease) (pass : VMIPPass) : VMIPPass :=
  match getLease .moreThanOneCached cached pass.current with
  | .error error => { pass with stage := .failed error }
  | .ok (some lease) => { pass with lease := some lease, stage := .found }
  | .ok none => { pass with stage := .uncached }

def doubleCheck (fails : Bool) (served : Store Lease) (pass : VMIPPass) : VMIPPass :=
  if fails then
    { pass with stage := .failed (if (assignedIPAddress pass.current).isSome then .getLease else .listLeases) }
  else
    match getLease .moreThanOneServed served pass.current with
    | .error error => { pass with stage := .failed error }
    | .ok lease => { pass with lease, stage := .found }

def bind (ranges : Ranges) (attached : Bool) (answer : Answer) (cached served : Store Lease) (pass : VMIPPass) :
    Option (VMIPPass × Store Lease) :=
  match pass.stage with
  | .failed error =>
    some ({ pass with
            changed := protectVMIP attached (withBound pass.current (.lookupFailed error)), stage := .handled },
      served)
  | .found =>
    let (vmip, served) := boundHandler ranges answer cached served pass.lease pass.current
    some ({ pass with changed := protectVMIP attached vmip, stage := .handled }, served)
  | _ => none

def commit (answer : Answer) (vmips : Store VMIP) (pass : VMIPPass) : Option VMIPPass × Store VMIP :=
  if pass.changed.address = pass.current.address ∧ pass.changed.bound = pass.current.bound ∧
      pass.changed.attached = pass.current.attached then
    (some { pass with stage := .stored }, vmips)
  else
    match vmips.request answer
      (vmips.amend pass.current.key (fun _ => true) (updateVMIPStatus pass.current pass.changed)) with
    | (.done, vmips) | (.refused .notFound, vmips) => (some { pass with stage := .stored }, vmips)
    | (_, vmips) => (none, vmips)

def patch (answer : Answer) (vmips : Store VMIP) (pass : VMIPPass) : Store VMIP :=
  if pass.changed.finalizer = pass.current.finalizer then vmips
  else
    (vmips.request answer
      (vmips.amend pass.current.key VMIP.kept (patchVMIPMetadata pass.current pass.changed))).2

section Requests

variable (answer : Answer) (vmips : Store VMIP) (pass : VMIPPass)

theorem commit_amended : vmips.Amended pass.current.key (fun _ => true)
    (updateVMIPStatus pass.current pass.changed) (pass.commit answer vmips).2 := by
  have amended := vmips.request_amended answer pass.current.key (fun _ => true)
    (updateVMIPStatus pass.current pass.changed)
  unfold commit
  split
  · exact .same
  split <;> rename_i answered <;> rw [answered] at amended <;> exact amended

variable {answer vmips pass} in
theorem commit_pass {later : VMIPPass} (went : (pass.commit answer vmips).1 = some later) :
    later = { pass with stage := .stored } := by
  unfold commit at went
  split at went
  · cases went
    rfl
  split at went <;> cases went <;> rfl

theorem patch_amended : vmips.Amended pass.current.key VMIP.kept (patchVMIPMetadata pass.current pass.changed)
    (pass.patch answer vmips) := by
  unfold patch
  split
  · exact .same
  · exact vmips.request_amended answer _ _ _

end Requests

end VMIPPass

namespace LeasePass

def releases (pass : LeasePass) : Bool := pass.changed.bound.any (·.reason = .released)

theorem releases_of_lastUpdated {pass : LeasePass} (released : pass.changed.lastUpdated .released) : pass.releases := by
  obtain ⟨condition, stored, reason⟩ := (any_eq_true _ _).mp released
  exact (any_eq_true _ _).mpr ⟨condition, stored, decide_eq_true (of_decide_eq_true reason).1⟩

def referenced (vmips : Store VMIP) (lease : Lease) : Option VMIP :=
  lease.ref.name.bind fun name => vmips.get? { ns := lease.ref.ns, name }

def lifecycle (fails : Bool) (cached : Store VMIP) (pass : LeasePass) : LeasePass :=
  if fails then { pass with changed := protectLease (withLeaseBound pass.current .unknown), stage := .handled }
  else
    let vmip := referenced cached pass.current
    { pass with vmip, changed := protectLease (lifecycleHandler vmip pass.current), stage := .handled }

def retain (due : Bool) (answer : Answer) (leases : Store Lease) (pass : LeasePass) : LeasePass × Store Lease :=
  ({ pass with stage := .retained },
    if deletesLease due pass.changed then
      (leases.request answer (leases.amend pass.current.address Lease.kept deleteLease)).2
    else leases)

def commit (answer : Answer) (leases : Store Lease) (pass : LeasePass) : Option LeasePass × Store Lease :=
  if pass.changed.bound = pass.current.bound then (some { pass with stage := .updated }, leases)
  else
    match leases.request answer
      (leases.amend pass.current.address (fun _ => true) (updateLeaseStatus pass.current pass.changed)) with
    | (.done, leases) =>
      ((leases.get? pass.current.address).map fun seen => { pass with seen, stage := .updated }, leases)
    | (.refused .notFound, leases) => (some { pass with stage := .updated }, leases)
    | (_, leases) => (none, leases)

def patch (answer : Answer) (leases : Store Lease) (pass : LeasePass) : Option LeasePass × Store Lease :=
  if pass.changed.label = pass.current.label ∧ pass.changed.finalizer = pass.current.finalizer then
    (some { pass with stage := .patched }, leases)
  else
    match leases.request answer
      (leases.amend pass.current.address Lease.kept (patchLeaseMetadata pass.current pass.changed)) with
    | (.done, leases) =>
      -- With the finalizer the lease may have gone, and then there is no spec to update.
      ((leases.get? pass.current.address).map fun seen => { pass with seen, stage := .patched }, leases)
    | (_, leases) => (none, leases)

def writeSpec (answer : Answer) (leases : Store Lease) (pass : LeasePass) : Store Lease :=
  if pass.changed.ref = pass.current.ref then leases
  else
    (leases.request answer
      (leases.amend pass.current.address (fun _ => true) (updateLeaseSpec pass.seen pass.changed))).2

section Requests

variable (answer : Answer) (leases : Store Lease) (pass : LeasePass)

theorem retain_amended (due : Bool) : (pass.retain due answer leases).2 = leases ∨ pass.changed.lastUpdated .released ∧
      leases.Amended pass.current.address Lease.kept deleteLease (pass.retain due answer leases).2 := by
  unfold retain deletesLease
  split
  · rename_i deletes
    exact .inr ⟨(Bool.and_eq_true_iff.mp deletes).1, leases.request_amended answer _ _ _⟩
  · exact .inl rfl

theorem commit_amended : leases.Amended pass.current.address (fun _ => true)
    (updateLeaseStatus pass.current pass.changed) (pass.commit answer leases).2 := by
  have amended := leases.request_amended answer pass.current.address (fun _ => true)
    (updateLeaseStatus pass.current pass.changed)
  unfold commit
  split
  · exact .same
  split <;> rename_i answered <;> rw [answered] at amended <;> exact amended

theorem patch_amended : leases.Amended pass.current.address Lease.kept
    (patchLeaseMetadata pass.current pass.changed) (pass.patch answer leases).2 := by
  have amended := leases.request_amended answer pass.current.address Lease.kept
    (patchLeaseMetadata pass.current pass.changed)
  unfold patch
  split
  · exact .same
  split <;> rename_i answered <;> rw [answered] at amended <;> exact amended

variable {answer leases pass} in
theorem seen_of_done {kept : Lease → Bool} {change : Lease → Except WriteError Lease}
    (keyed : ∀ stored new, change stored = .ok new → new.address = stored.address)
    (done : (leases.request answer (leases.amend pass.current.address kept change)).1 = .done)
    (shown : (leases.request answer (leases.amend pass.current.address kept change)).2.get? pass.current.address =
      some seen) :
    ∃ stored new, leases.get? pass.current.address = some stored ∧
    change stored = .ok new ∧ (kept new ∨ new = stored) ∧ seen = { new with resourceVersion :=
    seen.resourceVersion } := by
  obtain ⟨stored, new, found, changed, gone | ⟨_, stamped, keep⟩ | ⟨same, unchanged⟩⟩ := Store.amend_done done keyed
  · cases gone.symm.trans shown
  · obtain rfl := Option.some.inj (stamped.symm.trans shown)
    exact ⟨stored, new, found, changed, .inl keep, rfl⟩
  obtain rfl := Option.some.inj (unchanged.symm.trans shown)
  subst same
  exact ⟨new, new, found, changed, .inr rfl, rfl⟩

variable {answer leases pass} in
theorem commit_pass {later : LeasePass} (went : (pass.commit answer leases).1 = some later) :
    ∃ seen, later = { pass with seen, stage := .updated } ∧
      (seen = pass.seen ∨ (pass.commit answer leases).2.get? pass.current.address = some seen ∧
        ∃ stored new, leases.get? pass.current.address = some stored ∧
          updateLeaseStatus pass.current pass.changed stored = .ok new ∧
          seen = { new with resourceVersion := seen.resourceVersion }) := by
  unfold commit at went ⊢
  split at went
  · cases went
    exact ⟨pass.seen, rfl, .inl rfl⟩
  rename_i changed
  rw [if_neg changed]
  split at went
  · rename_i answered
    obtain ⟨seen, shown, rfl⟩ := map_eq_some_iff.mp went
    have answer := seen_of_done (fun stored new => updateLeaseStatus_address) (congrArg Prod.fst answered)
      ((congrArg (·.2.get? pass.current.address) answered).trans shown)
    obtain ⟨stored, new, found, updated, -, made⟩ := answer
    exact ⟨seen, rfl, .inr ⟨shown, stored, new, found, updated, made⟩⟩
  · cases went
    exact ⟨pass.seen, rfl, .inl rfl⟩
  · cases went

variable {answer leases pass} in
theorem patch_pass {later : LeasePass} (went : (pass.patch answer leases).1 = some later) :
    ∃ seen, later = { pass with seen, stage := .patched } ∧
      (seen = pass.seen ∧ pass.changed.label = pass.current.label ∨
        ¬ (pass.changed.label = pass.current.label ∧ pass.changed.finalizer = pass.current.finalizer) ∧
        (pass.patch answer leases).2.get? pass.current.address = some seen ∧
        ∃ stored new, leases.get? pass.current.address = some stored ∧
          patchLeaseMetadata pass.current pass.changed stored = .ok new ∧ (new.kept = true ∨ new = stored) ∧
          seen = { new with resourceVersion := seen.resourceVersion }) := by
  unfold patch at went ⊢
  split at went
  · rename_i same
    cases went
    exact ⟨pass.seen, rfl, .inl ⟨rfl, same.1⟩⟩
  rename_i changed
  rw [if_neg changed]
  split at went
  · rename_i answered
    obtain ⟨seen, shown, rfl⟩ := map_eq_some_iff.mp went
    have answer := seen_of_done (fun stored new => patchLeaseMetadata_address) (congrArg Prod.fst answered)
      ((congrArg (·.2.get? pass.current.address) answered).trans shown)
    exact ⟨seen, rfl, .inr ⟨changed, shown, answer⟩⟩
  · cases went

theorem writeSpec_amended : pass.writeSpec answer leases = leases ∨ pass.changed.ref ≠ pass.current.ref ∧
      leases.Amended pass.current.address (fun _ => true) (updateLeaseSpec pass.seen pass.changed)
        (pass.writeSpec answer leases) := by
  unfold writeSpec
  split
  · exact .inl rfl
  rename_i other
  exact .inr ⟨other, leases.request_amended answer _ _ _⟩

end Requests

end LeasePass

namespace World

def setVMIPs (w : World) (vmips : Store VMIP) : World := { w with vmips := w.vmips.push vmips }

def setLeases (w : World) (leases : Store Lease) : World := { w with leases := w.leases.push leases }

def setVMIPPass (w : World) (key : NamespacedName) (pass : Option VMIPPass) : World :=
  { w with vmipPass := fun other => if other = key then pass else w.vmipPass other }

def setLeasePass (w : World) (address : String) (pass : Option LeasePass) : World :=
  { w with leasePass := fun other => if other = address then pass else w.leasePass other }

@[simp] theorem vmips_setVMIPs (w : World) (vmips : Store VMIP) : (w.setVMIPs vmips).vmips = w.vmips.push vmips := rfl

@[simp] theorem leases_setLeases (w : World) (leases : Store Lease) :
    (w.setLeases leases).leases = w.leases.push leases := rfl

theorem found_set {κ β : Type} [DecidableEq κ] {passes : κ → Option β} {key other : κ} {pass : Option β} {running : β}
    (there : (if other = key then pass else passes other) = some running) :
    other = key ∧ pass = some running ∨ other ≠ key ∧ passes other = some running := by
  split at there
  · rename_i same
    exact .inl ⟨same, there⟩
  rename_i different
  exact .inr ⟨different, there⟩

def vmipPassAt (w : World) (key : NamespacedName) (stage : VMIPStage) : Option VMIPPass :=
  (w.vmipPass key).filter (·.stage = stage)

def leasePassAt (w : World) (address : String) (stage : LeaseStage) : Option LeasePass :=
  (w.leasePass address).filter (·.stage = stage)

def empty : World where
  vmips := .synced { revision := 0, objects := [], unique := List.nodup_nil, bounded := nofun }
  leases := .synced { revision := 0, objects := [], unique := List.nodup_nil, bounded := nofun }
  vmipPass _ := none
  leasePass _ := none

variable (ranges : Ranges)

def step (w : World) : Event → Option World
  | .createVMIP key staticIP =>
    if validateCreate ranges w.leases.cached staticIP then
      (w.vmips.now.create (newVMIP w.vmips.now key staticIP)).toOption.map w.setVMIPs
    else none
  | .editVMIP key staticIP =>
    (w.vmips.now.amend key VMIP.kept (editSpec ranges w.leases.cached staticIP)).toOption.map w.setVMIPs
  | .deleteVMIP key => (w.vmips.now.amend key VMIP.kept deleteVMIP).toOption.map w.setVMIPs
  | .observeVMIPs count => some { w with vmips := w.vmips.observe count }
  | .observeLeases count => some { w with leases := w.leases.observe count }
  | .fetchVMIP key =>
    if (w.vmipPass key).isSome then none
    else (w.vmips.cached.get? key).map fun vmip =>
      w.setVMIPPass key (some { current := vmip, lease := none, changed := vmip, stage := .fetched })
  | .lookUp key =>
    (w.vmipPassAt key .fetched).map fun pass => w.setVMIPPass key (some (pass.lookUp w.leases.cached))
  | .doubleCheck key fails =>
    (w.vmipPassAt key .uncached).map fun pass => w.setVMIPPass key (some (pass.doubleCheck fails w.leases.now))
  | .bind key attached answer =>
    (w.vmipPass key).bind fun pass =>
      (pass.bind ranges attached answer w.leases.cached w.leases.now).map fun (pass, leases) =>
        (w.setLeases leases).setVMIPPass key (some pass)
  | .commitVMIP key answer =>
    (w.vmipPassAt key .handled).map fun pass =>
      (w.setVMIPs (pass.commit answer w.vmips.now).2).setVMIPPass key (pass.commit answer w.vmips.now).1
  | .patchVMIP key answer =>
    (w.vmipPassAt key .stored).map fun pass =>
      (w.setVMIPs (pass.patch answer w.vmips.now)).setVMIPPass key none
  | .dropVMIP key => some (w.setVMIPPass key none)
  | .fetchLease address =>
    if (w.leasePass address).isSome then none
    else (w.leases.cached.get? address).map fun lease =>
      w.setLeasePass address
        (some { current := lease, vmip := none, changed := lease, seen := lease, stage := .fetched })
  | .lifecycle address fails =>
    (w.leasePassAt address .fetched).map fun pass =>
      w.setLeasePass address (some (pass.lifecycle fails w.vmips.cached))
  | .retain address due answer =>
    (w.leasePassAt address .handled).map fun pass =>
      (w.setLeases (pass.retain due answer w.leases.now).2).setLeasePass address
        (some (pass.retain due answer w.leases.now).1)
  | .commitLease address answer =>
    (w.leasePassAt address .retained).map fun pass =>
      (w.setLeases (pass.commit answer w.leases.now).2).setLeasePass address (pass.commit answer w.leases.now).1
  | .patchLease address answer =>
    (w.leasePassAt address .updated).map fun pass =>
      (w.setLeases (pass.patch answer w.leases.now).2).setLeasePass address (pass.patch answer w.leases.now).1
  | .writeSpec address answer =>
    (w.leasePassAt address .patched).map fun pass =>
      (w.setLeases (pass.writeSpec answer w.leases.now)).setLeasePass address none
  | .dropLease address => some (w.setLeasePass address none)

inductive Taken (w : World) : Event → World → Prop where
  | createVMIP (valid : validateCreate ranges w.leases.cached staticIP)
      (created : w.vmips.now.create (newVMIP w.vmips.now name staticIP) = .ok later) :
      Taken w (.createVMIP name staticIP) (w.setVMIPs later)
  | editVMIP (edited : w.vmips.now.amend name VMIP.kept (editSpec ranges w.leases.cached staticIP) = .ok later) :
      Taken w (.editVMIP name staticIP) (w.setVMIPs later)
  | deleteVMIP (deleted : w.vmips.now.amend name VMIP.kept Address.deleteVMIP = .ok later) :
      Taken w (.deleteVMIP name) (w.setVMIPs later)
  | observeVMIPs : Taken w (.observeVMIPs count) { w with vmips := w.vmips.observe count }
  | observeLeases : Taken w (.observeLeases count) { w with leases := w.leases.observe count }
  | fetchVMIP (idle : w.vmipPass name = none)
      (found : w.vmips.cached.get? name = some vmip) : Taken w (.fetchVMIP name)
      (w.setVMIPPass name (some { current := vmip, lease := none, changed := vmip, stage := .fetched }))
  | lookUp (running : w.vmipPass name = some p) (stage : p.stage = .fetched) :
      Taken w (.lookUp name) (w.setVMIPPass name (some (p.lookUp w.leases.cached)))
  | doubleCheck (running : w.vmipPass name = some p) (stage : p.stage = .uncached) :
      Taken w (.doubleCheck name fails) (w.setVMIPPass name (some (p.doubleCheck fails w.leases.now)))
  | bind (running : w.vmipPass name = some p)
      (bound : p.bind ranges attached answer w.leases.cached w.leases.now = some (later, served)) :
      Taken w (.bind name attached answer) ((w.setLeases served).setVMIPPass name (some later))
  | commitVMIP (running : w.vmipPass name = some p)
      (stage : p.stage = .handled) : Taken w (.commitVMIP name answer)
      ((w.setVMIPs (p.commit answer w.vmips.now).2).setVMIPPass name (p.commit answer w.vmips.now).1)
  | patchVMIP (running : w.vmipPass name = some p) (stage : p.stage = .stored) :
      Taken w (.patchVMIP name answer) ((w.setVMIPs (p.patch answer w.vmips.now)).setVMIPPass name none)
  | dropVMIP : Taken w (.dropVMIP name) (w.setVMIPPass name none)
  | fetchLease (idle : w.leasePass address = none)
      (found : w.leases.cached.get? address = some lease) : Taken w (.fetchLease address) (w.setLeasePass address
        (some { current := lease, vmip := none, changed := lease, seen := lease, stage := .fetched }))
  | lifecycle (running : w.leasePass address = some p) (stage : p.stage = .fetched) :
      Taken w (.lifecycle address fails) (w.setLeasePass address (some (p.lifecycle fails w.vmips.cached)))
  | retain
      (running : w.leasePass address = some p) (stage : p.stage = .handled) : Taken w (.retain address due answer)
      ((w.setLeases (p.retain due answer w.leases.now).2).setLeasePass address
        (some (p.retain due answer w.leases.now).1))
  | commitLease (running : w.leasePass address = some p)
      (stage : p.stage = .retained) : Taken w (.commitLease address answer)
      ((w.setLeases (p.commit answer w.leases.now).2).setLeasePass address (p.commit answer w.leases.now).1)
  | patchLease (running : w.leasePass address = some p)
      (stage : p.stage = .updated) : Taken w (.patchLease address answer)
      ((w.setLeases (p.patch answer w.leases.now).2).setLeasePass address (p.patch answer w.leases.now).1)
  | writeSpec (running : w.leasePass address = some p)
      (stage : p.stage = .patched) : Taken w (.writeSpec address answer)
      ((w.setLeases (p.writeSpec answer w.leases.now)).setLeasePass address none)
  | dropLease : Taken w (.dropLease address) (w.setLeasePass address none)

section Taken

variable {ranges} {w t : World}

theorem of_map_filter {α β : Type} {found : Option α} {ready : α → Prop} [DecidablePred ready] {next : α → β} {t : β}
    (moved : (found.filter fun pass => ready pass).map next = some t) :
    ∃ pass, found = some pass ∧ ready pass ∧ next pass = t := by
  obtain ⟨pass, reached, isNext⟩ := map_eq_some_iff.mp moved
  obtain ⟨running, isReady⟩ := filter_eq_some_iff.mp reached
  exact ⟨pass, running, of_decide_eq_true isReady, isNext⟩

theorem taken_of_step {event : Event} (moved : step ranges w event = some t) : Taken ranges w event t := by
  cases event <;> simp only [step] at moved
  case createVMIP key staticIP =>
    split at moved
    · rename_i valid
      obtain ⟨_, created, rfl⟩ := map_eq_some_iff.mp moved
      exact .createVMIP valid (ok_of_toOption created)
    · cases moved
  case editVMIP key staticIP =>
    obtain ⟨_, edited, rfl⟩ := map_eq_some_iff.mp moved
    exact .editVMIP (ok_of_toOption edited)
  case deleteVMIP key =>
    obtain ⟨_, deleted, rfl⟩ := map_eq_some_iff.mp moved
    exact .deleteVMIP (ok_of_toOption deleted)
  case observeVMIPs count =>
    cases moved
    exact .observeVMIPs
  case observeLeases count =>
    cases moved
    exact .observeLeases
  case fetchVMIP key =>
    split at moved
    · cases moved
    rename_i idle
    obtain ⟨_, found, rfl⟩ := map_eq_some_iff.mp moved
    exact .fetchVMIP (not_isSome_iff_eq_none.mp idle) found
  case lookUp key =>
    obtain ⟨_, running, stage, rfl⟩ := of_map_filter moved
    exact .lookUp running stage
  case doubleCheck key fails =>
    obtain ⟨_, running, stage, rfl⟩ := of_map_filter moved
    exact .doubleCheck running stage
  case bind key attached answer =>
    obtain ⟨_, running, went⟩ := bind_eq_some_iff.mp moved
    obtain ⟨⟨_, _⟩, bound, rfl⟩ := map_eq_some_iff.mp went
    exact .bind running bound
  case commitVMIP key answer =>
    obtain ⟨_, running, stage, rfl⟩ := of_map_filter moved
    exact .commitVMIP running stage
  case patchVMIP key answer =>
    obtain ⟨_, running, stage, rfl⟩ := of_map_filter moved
    exact .patchVMIP running stage
  case dropVMIP key =>
    cases moved
    exact .dropVMIP
  case fetchLease address =>
    split at moved
    · cases moved
    rename_i idle
    obtain ⟨_, found, rfl⟩ := map_eq_some_iff.mp moved
    exact .fetchLease (not_isSome_iff_eq_none.mp idle) found
  case lifecycle address fails =>
    obtain ⟨_, running, stage, rfl⟩ := of_map_filter moved
    exact .lifecycle running stage
  case retain address due answer =>
    obtain ⟨_, running, stage, rfl⟩ := of_map_filter moved
    exact .retain running stage
  case commitLease address answer =>
    obtain ⟨_, running, stage, rfl⟩ := of_map_filter moved
    exact .commitLease running stage
  case patchLease address answer =>
    obtain ⟨_, running, stage, rfl⟩ := of_map_filter moved
    exact .patchLease running stage
  case writeSpec address answer =>
    obtain ⟨_, running, stage, rfl⟩ := of_map_filter moved
    exact .writeSpec running stage
  case dropLease address =>
    cases moved
    exact .dropLease

end Taken

end World

end Virtualization.Address
