import Virtualization.Library.Store

namespace Virtualization.Address

open Library

@[ext]
structure NamespacedName where
  (ns name : String)
deriving DecidableEq

/-- A UID belongs to one object for ever: it tells its name and the revision of the API server that created it. -/
structure UID where
  key : NamespacedName
  serial : Nat
deriving DecidableEq

inductive LookupError where
  | getLease
  | listLeases
  | moreThanOneCached (leases : Nat)
  | moreThanOneServed (leases : Nat)
deriving DecidableEq

inductive BoundOutcome where
  | lookupFailed (error : LookupError)
  | waitingForLease (lease : String)
  | bound
  | otherNamespace (lease : String)
  | occupied (lease : String)
  | takeFailed (lease : String)
  | taken (lease : String)
  | lost (lease : String)
  | allocationFailed
  | outOfRange (staticIP : Option String)
  | rangeFailed
  | alreadyAllocated (address : String)
  | created (address : String)
  | leaseAlreadyExists
  | createFailed
deriving DecidableEq

structure BoundCondition where
  outcome : BoundOutcome
  observedGeneration : Nat
deriving DecidableEq

/-- A VirtualMachineIPAddress. It has the type Static with a static address and the type Auto without one. -/
structure VMIP where
  uid : UID
  (resourceVersion generation : Nat)
  (staticIP address : Option String)
  bound : Option BoundCondition
  (attached deleting finalizer : Bool)
deriving DecidableEq

variable (vmip : VMIP)

def VMIP.key : NamespacedName := vmip.uid.key

instance : Object VMIP NamespacedName where
  key := VMIP.key
  version := VMIP.resourceVersion
  stamp n vmip := { vmip with resourceVersion := n }
  key_stamp _ _ := rfl
  version_stamp _ _ := rfl

inductive LeaseReason where
  | bound | released | unknown
deriving DecidableEq

structure LeaseCondition where
  reason : LeaseReason
  observedGeneration : Nat
deriving DecidableEq

structure LeaseRef where
  ns : String
  name : Option String
deriving DecidableEq

/-- A VirtualMachineIPAddressLease. Its name stands for the address, and the label for the UID of the
    VirtualMachineIPAddress it is bound to, if that is not empty. -/
structure Lease where
  address : String
  (serial resourceVersion generation : Nat)
  label : Option UID
  ref : LeaseRef
  bound : Option LeaseCondition
  (deleting finalizer : Bool)
deriving DecidableEq

open Lease

instance : Object Lease String where
  key := address
  version := resourceVersion
  stamp n lease := { lease with resourceVersion := n }
  key_stamp _ _ := rfl
  version_stamp _ _ := rfl

def UID.ref (uid : UID) : LeaseRef := { ns := uid.key.ns, name := some uid.key.name }

theorem UID.key_of_ref {one other : UID} (same : one.ref = other.ref) : one.key = other.key := by
  obtain ⟨ns, name⟩ := LeaseRef.mk.inj same
  exact NamespacedName.ext ns (Option.some.inj name)

def VMIP.ref : LeaseRef := vmip.uid.ref

def VMIP.kept : Bool := !vmip.deleting || vmip.finalizer

def Lease.kept (lease : Lease) : Bool := !lease.deleting || lease.finalizer

def Lease.lastUpdated (lease : Lease) (reason : LeaseReason) : Bool :=
  lease.bound.any fun condition => condition.reason = reason ∧ condition.observedGeneration = lease.generation

def VMIP.isBound : Bool :=
  vmip.bound.any fun condition => condition.outcome = .bound ∧ condition.observedGeneration = vmip.generation

inductive RangeAnswer where
  | inside | outOfRange | invalid
deriving DecidableEq

structure Ranges where
  configured : Bool
  addresses : List String
  isInsideOfRange : String → RangeAnswer

variable {lease : Lease} {vmip : VMIP}

def allocatedIPs (leases : Store Lease) : List String := leases.objects.map (·.address)

def allocateNewIP (ranges : Ranges) (allocated : List String) : Option String :=
  ranges.addresses.find? (· ∉ allocated)

def assignedIPAddress (vmip : VMIP) : Option String :=
  match vmip.staticIP with
  | some address => some address
  | none => vmip.address

def getLeaseByLabel (tooMany : Nat → LookupError) (leases : Store Lease) (uid : UID) :
    Except LookupError (Option Lease) :=
  match leases.objects.filter (·.label = some uid) with
  | [] => .ok none
  | [lease] => .ok (some lease)
  | found => .error (tooMany found.length)

/-- `GetLease` in one of the two places it looks at, first the cache and then the API server. -/
def getLease (tooMany : Nat → LookupError) (leases : Store Lease) (vmip : VMIP) : Except LookupError (Option Lease) :=
  match assignedIPAddress vmip with
  | some address => .ok (leases.get? address)
  | none => getLeaseByLabel tooMany leases vmip.uid

def hasReference (vmip : VMIP) (lease : Lease) : Bool :=
  lease.ref.name = some vmip.key.name ∧ lease.ref.ns = vmip.key.ns

theorem get?_of_getLease {tooMany : Nat → LookupError} {leases : Store Lease}
    (found : getLease tooMany leases vmip = .ok (some lease)) : leases.get? lease.address = some lease := by
  unfold getLease at found
  split at found
  · have there := Except.ok.inj found
    exact (congrArg leases.get? (Store.key_of_get? there)).trans there
  unfold getLeaseByLabel at found
  split at found
  · cases found
  · rename_i filtered
    cases found
    have member : lease ∈ leases.objects.filter (·.label = some vmip.uid) := by
      rw [filtered]
      exact List.mem_singleton_self lease
    exact Store.get?_of_mem (List.mem_filter.mp member).1
  · cases found

theorem hasReference_iff : hasReference vmip lease ↔ lease.ref = vmip.ref := by
  unfold hasReference
  rw [decide_eq_true_iff]
  constructor
  · rintro ⟨name, ns⟩
    change lease.ref = { ns := vmip.key.ns, name := some vmip.key.name }
    rw [← name, ← ns]
  intro ref
  rw [ref]
  exact ⟨rfl, rfl⟩

section Bound

def bindStep (lease : Option Lease) (vmip : VMIP) : VMIP × Option BoundOutcome :=
  match lease with
  | none => (vmip, none)
  | some lease =>
    let vmip := { vmip with address := some lease.address }
    if !hasReference vmip lease then (vmip, none)
    else if !lease.lastUpdated .bound then (vmip, some (.waitingForLease lease.address))
    else (vmip, some .bound)

def takeLease (copy : Lease) (vmip : VMIP) (stored : Lease) : Except WriteError Lease :=
  if stored.resourceVersion ≠ copy.resourceVersion then .error .conflict
  else .ok { stored with
    ref := vmip.ref, label := some vmip.uid
    generation := stored.generation + 1 }

theorem takeLease_ok {copy stored new : Lease} (taken : takeLease copy vmip stored = .ok new) :
    stored.resourceVersion = copy.resourceVersion ∧ new = { stored with
      ref := vmip.ref, label := some vmip.uid, generation := stored.generation + 1 } := by
  unfold takeLease at taken
  split at taken
  · cases taken
  rename_i same
  cases taken
  exact ⟨not_not.mp same, rfl⟩

variable (ranges : Ranges) (answer : Answer) (cached leases : Store Lease)

def takeLeaseStep (leases : Store Lease) (lease : Lease) (vmip : VMIP) : BoundOutcome × Store Lease :=
  if lease.ref.ns ≠ "" ∧ lease.ref.ns ≠ vmip.key.ns then (.otherNamespace lease.address, leases)
  else if lease.ref.name.isSome ∨ lease.label.isSome then (.occupied lease.address, leases)
  else
    match leases.request answer (leases.amend lease.address (fun _ => true) (takeLease lease vmip)) with
    | (.done, leases) => (.taken lease.address, leases)
    | (_, leases) => (.takeFailed lease.address, leases)

def buildVirtualMachineIPAddressLease (leases : Store Lease) (vmip : VMIP) (address : String) : Lease where
  address := address
  serial := leases.revision + 1
  resourceVersion := 0
  generation := 1
  label := some vmip.uid
  ref := vmip.ref
  bound := none
  deleting := false
  finalizer := false

def createLeaseStep (vmip : VMIP) : BoundOutcome × Store Lease :=
  match vmip.address with
  | some address => (.lost address, leases)
  | none =>
    let allocated := allocatedIPs cached
    match vmip.staticIP.or (allocateNewIP ranges allocated) with
    | none => (.allocationFailed, leases)
    | some address =>
      match ranges.isInsideOfRange address with
      | .outOfRange => (.outOfRange vmip.staticIP, leases)
      | .invalid => (.rangeFailed, leases)
      | .inside =>
        if address ∈ allocated then (.alreadyAllocated address, leases)
        else
          match leases.request answer (leases.create (buildVirtualMachineIPAddressLease leases vmip address)) with
          | (.done, leases) => (.created address, leases)
          | (.refused .alreadyExists, leases) => (.leaseAlreadyExists, leases)
          | (_, leases) => (.createFailed, leases)

def withBound (vmip : VMIP) (outcome : BoundOutcome) : VMIP :=
  { vmip with bound := some { outcome, observedGeneration := vmip.generation } }

def boundHandler (lease : Option Lease) (vmip : VMIP) : VMIP × Store Lease :=
  match bindStep lease vmip with
  | (vmip, some outcome) => (withBound vmip outcome, leases)
  | (vmip, none) =>
    match lease with
    | some lease =>
      let (outcome, leases) := takeLeaseStep answer leases lease vmip
      (withBound vmip outcome, leases)
    | none =>
      let (outcome, leases) := createLeaseStep ranges answer cached leases vmip
      (withBound vmip outcome, leases)

def protectVMIP (attached : Bool) (vmip : VMIP) : VMIP :=
  { vmip with attached, finalizer := !vmip.deleting || attached }

inductive Leased (cached leases : Store Lease) (lease : Option Lease) (vmip : VMIP) : Store Lease → Prop where
  | same : Leased cached leases lease vmip leases
  | taken {free : Lease} {later : Store Lease} (given : lease = some free) (unnamed : free.ref.name = none)
      (unlabelled : free.label = none)
      (amended : leases.Amended free.address (fun _ => true) (takeLease free vmip) later) :
      Leased cached leases lease vmip later
  | created {address : String} {later : Store Lease} (given : lease = none) (unassigned : vmip.address = none)
      (created : leases.create (buildVirtualMachineIPAddressLease leases vmip address) = .ok later) :
      Leased cached leases lease vmip later

theorem Leased.snapshot {cached leases later : Store Lease} {lease : Option Lease}
    (leased : Leased cached leases lease vmip later) (copy : Lease) (snapshot : leases.Snapshot copy) :
    later.Snapshot copy := by
  cases leased with
  | same => exact snapshot
  | taken _ _ _ amended => exact amended.snapshot snapshot
  | created _ _ created => exact snapshot.create created

structure Handled (lease : Option Lease) (vmip later : VMIP) : Prop where
  uid : later.uid = vmip.uid
  generation : later.generation = vmip.generation
  address : later.address = (lease.map (·.address)).or vmip.address
  observed : ∀ condition ∈ later.bound, condition.observedGeneration = vmip.generation
  bound : ∀ condition ∈ later.bound, condition.outcome = .bound →
    ∃ held, lease = some held ∧ hasReference vmip held

theorem Leased.of_address {cached leases later : Store Lease} {address : Option String}
    (leased : Leased cached leases (some lease) { vmip with address } later) :
    Leased cached leases (some lease) vmip later := by
  cases leased with
  | same => exact .same
  | taken given unnamed unlabelled amended => exact .taken given unnamed unlabelled amended
  | created given => cases given

theorem takeLeaseStep_leased (lease : Lease) (vmip : VMIP) :
    Leased cached leases (some lease) vmip (takeLeaseStep answer leases lease vmip).2 ∧
      (takeLeaseStep answer leases lease vmip).1 ≠ .bound := by
  unfold takeLeaseStep
  split
  · exact ⟨.same, nofun⟩
  split
  · exact ⟨.same, nofun⟩
  rename_i free
  obtain ⟨unnamed, unlabelled⟩ := not_or.mp free
  rw [Option.not_isSome_iff_eq_none] at unnamed unlabelled
  have amended := leases.request_amended answer lease.address (fun _ => true) (takeLease lease vmip)
  split <;> rename_i answered <;> rw [answered] at amended
  all_goals exact ⟨.taken rfl unnamed unlabelled amended, nofun⟩

theorem createLeaseStep_leased (vmip : VMIP) :
    Leased cached leases none vmip (createLeaseStep ranges answer cached leases vmip).2 ∧
      (createLeaseStep ranges answer cached leases vmip).1 ≠ .bound := by
  unfold createLeaseStep
  split
  · exact ⟨.same, nofun⟩
  rename_i unassigned
  dsimp only
  split
  · exact ⟨.same, nofun⟩
  split
  · exact ⟨.same, nofun⟩
  · exact ⟨.same, nofun⟩
  split
  · exact ⟨.same, nofun⟩
  rename_i address _ _ _ _
  have outcome := leases.request_cases answer (leases.create (buildVirtualMachineIPAddressLease leases vmip address))
  have leased : ∀ later, (later = leases ∨
      leases.create (buildVirtualMachineIPAddressLease leases vmip address) = .ok later) →
      Leased cached leases none vmip later := by
    rintro later (rfl | created)
    · exact .same
    · exact .created rfl unassigned created
  split <;> rename_i answered <;> rw [answered] at outcome
  all_goals exact ⟨leased _ (outcome.imp_left And.left), nofun⟩

theorem bindStep_some (lease : Lease) (vmip : VMIP) :
    (bindStep (some lease) vmip).1 = { vmip with address := some lease.address } ∧
      ((bindStep (some lease) vmip).2 = some .bound → hasReference vmip lease = true) := by
  unfold bindStep
  dsimp only
  split
  · exact ⟨rfl, nofun⟩
  rename_i referenced
  split
  · exact ⟨rfl, nofun⟩
  rw [Bool.not_eq_true', Bool.not_eq_false] at referenced
  exact ⟨rfl, fun _ => referenced⟩

theorem handled_some {outcome : BoundOutcome} (bound : outcome = .bound → hasReference vmip lease) :
    Handled (some lease) vmip (withBound { vmip with address := some lease.address } outcome) := by
  refine ⟨rfl, rfl, rfl, ?_, ?_⟩
  · rintro condition ⟨⟩
    rfl
  rintro condition ⟨⟩ isBound
  exact ⟨lease, rfl, bound isBound⟩

theorem boundHandler_spec (lease : Option Lease)
    (vmip : VMIP) : Leased cached leases lease vmip (boundHandler ranges answer cached leases lease vmip).2 ∧
      Handled lease vmip (boundHandler ranges answer cached leases lease vmip).1 := by
  cases lease with
  | none =>
    obtain ⟨leased, other⟩ := createLeaseStep_leased ranges answer cached leases vmip
    refine ⟨leased, rfl, rfl, rfl, ?_, ?_⟩
    · rintro condition ⟨⟩
      rfl
    rintro condition ⟨⟩ bound
    exact absurd bound other
  | some lease =>
    obtain ⟨assigned, bound⟩ := bindStep_some lease vmip
    unfold boundHandler
    split <;> rename_i bound?
    · rw [bound?] at assigned bound
      obtain rfl := assigned
      exact ⟨.same, handled_some fun isBound => bound (congrArg some isBound)⟩
    rw [bound?] at assigned
    obtain rfl := assigned
    obtain ⟨leased, other⟩ :=
      takeLeaseStep_leased answer cached leases lease { vmip with address := some lease.address }
    exact ⟨leased.of_address, handled_some fun isBound => absurd isBound other⟩

end Bound

def isBound (lease : Lease) (vmip : Option VMIP) : Bool :=
  vmip.any fun vmip => hasReference vmip lease ∧ (vmip.address = none ∨ vmip.address = some lease.address)

def withLeaseBound (lease : Lease) (reason : LeaseReason) : Lease :=
  { lease with bound := some { reason, observedGeneration := lease.generation } }

def lifecycleHandler (vmip : Option VMIP) (lease : Lease) : Lease :=
  if isBound lease vmip then
    withLeaseBound { lease with label := vmip.map (·.uid) } .bound
  else
    withLeaseBound { lease with label := none, ref.name := none } .released

def protectLease (lease : Lease) : Lease :=
  { lease with finalizer := !lease.deleting || !lease.lastUpdated .released }

/-- `RetentionHandler.Handle` deletes the lease; `due` tells that the retention duration is over. -/
def deletesLease (due : Bool) (lease : Lease) : Bool := lease.lastUpdated .released && due

theorem handleLease_bound {vmip : Option VMIP} (bound : isBound lease vmip) :
    protectLease (lifecycleHandler vmip lease) =
      { lease with
        label := vmip.map (·.uid), finalizer := true
        bound := some { reason := .bound, observedGeneration := lease.generation } } := by
  unfold lifecycleHandler
  rw [if_pos bound]
  simp [protectLease, withLeaseBound, lastUpdated]

theorem handleLease_released {vmip : Option VMIP} (unbound : isBound lease vmip = false) :
    protectLease (lifecycleHandler vmip lease) =
      { lease with
        label := none, ref.name := none, finalizer := !lease.deleting
        bound := some { reason := .released, observedGeneration := lease.generation } } := by
  unfold lifecycleHandler
  rw [unbound, if_neg Bool.false_ne_true]
  simp [protectLease, withLeaseBound, lastUpdated]

theorem handleLease_failed (lease : Lease) : protectLease (withLeaseBound lease .unknown) =
      { lease with
        finalizer := true, bound := some { reason := .unknown, observedGeneration := lease.generation } } := by
  simp [protectLease, withLeaseBound, lastUpdated]

def validateAllocatedIPAddresses (cached : Store Lease) (address : String) : Bool :=
  (cached.get? address).all fun lease => lease.bound.any (·.reason = .released)

def validateCreate (ranges : Ranges) (cached : Store Lease) (staticIP : Option String) : Bool :=
  ranges.configured &&
    staticIP.all fun address =>
      ranges.isInsideOfRange address = .inside ∧ validateAllocatedIPAddresses cached address

/-- An address out of the range is only warned of. -/
def validateUpdate (ranges : Ranges) (cached : Store Lease) (old : VMIP) (staticIP : Option String) : Bool :=
  (old.staticIP = staticIP ∨ ranges.configured) &&
    (staticIP.all fun address => old.staticIP = some address ∨ ranges.isInsideOfRange address = .outOfRange ∨
      ranges.isInsideOfRange address = .inside ∧ validateAllocatedIPAddresses cached address) &&
    (if old.bound.any (·.outcome = .bound) then
      old.staticIP = staticIP ∨ old.staticIP = none ∧ staticIP = old.address
    else true)

end Virtualization.Address
