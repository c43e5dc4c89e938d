import Mathlib.Data.List.Nodup
import Virtualization.Machine.Phase

namespace Virtualization.Machine

open Virtualization.Core List

def vmRequiresPVCProtection (vm : VirtualMachine) : Bool :=
  if vm.deletionTimestamp.isSome then true
  else
    match vm.phase with
    | .starting | .running | .stopping | .terminating | .migrating | .pause | .degraded => true
    | .unset | .pending | .stopped => false

def claimNames (volumes : List Volume) : List String :=
  volumes.filterMap fun volume =>
    match volume.source with
    | .persistentVolumeClaim claimName _ => some claimName
    | .memoryDump claimName => some claimName
    | _ => none

def instanceClaimNames (kvvmi : KVVMI) : List String :=
  claimNames kvvmi.volumes ++
    (kvvmi.volumeStatus.filterMap VolumeStatus.claimName).filter (· ≠ "")

def volumeClaimNames (kvvm : Option KVVM) (kvvmi : Option KVVMI) : List String :=
  ((kvvm.bind KVVM.template).map claimNames).getD [] ++ (kvvmi.map instanceClaimNames).getD []

inductive PatchOutcome where
  | applied
  | notFound
  | beingDeleted (timestamp : Int)
  | failed

structure Faults where
  listVMs : Bool
  (fetchKVVM fetchKVVMI : String → Bool)
  listPVCs : Bool
  patch : String → PatchOutcome

inductive ProtectionError where
  | listVirtualMachines
  | fetchKVVM (ns name : String)
  | fetchKVVMI (ns name : String)
  | listPersistentVolumeClaims
  | addFinalizer (claimName : String)
  | removeFinalizer (claimName : String)

def collectClaimNames (faults : Faults) (c : Cluster) : List VirtualMachine → Except ProtectionError (List String)
  | [] => .ok []
  | vm :: rest =>
    if vmRequiresPVCProtection vm then
      if faults.fetchKVVM vm.name then .error (.fetchKVVM vm.ns vm.name)
      else if faults.fetchKVVMI vm.name then .error (.fetchKVVMI vm.ns vm.name)
      else
        match collectClaimNames faults c rest with
        | .error failure => .error failure
        | .ok claims => .ok (volumeClaimNames (c.fetchKVVM vm.ns vm.name) (c.fetchKVVMI vm.ns vm.name) ++ claims)
    else collectClaimNames faults c rest

def protectedClaimNames (faults : Faults) (c : Cluster) (ns : String) : Except ProtectionError (List String) :=
  if faults.listVMs then .error .listVirtualMachines
  else collectClaimNames faults c (c.vms.filter (·.ns = ns))

/-- `AddProtection` on a claim: what is stored afterwards. A claim that is gone or starts to be
    deleted meanwhile has nothing left to protect. -/
def addProtection (outcome : PatchOutcome) (pvc : PersistentVolumeClaim) :
    Except ProtectionError (Option PersistentVolumeClaim) :=
  if pvc.deletionTimestamp.isSome ∨ .pvcProtection ∈ pvc.finalizers then .ok (some pvc)
  else
    match outcome with
    | .applied => .ok (some { pvc with finalizers := pvc.finalizers ++ [.pvcProtection] })
    | .notFound => .ok none
    | .beingDeleted timestamp => .ok (some { pvc with deletionTimestamp := some timestamp })
    | .failed => .error (.addFinalizer pvc.name)

def removeProtection (outcome : PatchOutcome) (pvc : PersistentVolumeClaim) :
    Except ProtectionError (Option PersistentVolumeClaim) :=
  match outcome with
  | .notFound => .ok none
  | .failed => .error (.removeFinalizer pvc.name)
  | .applied => .ok (some { pvc with finalizers := pvc.finalizers.filter (· ≠ .pvcProtection) })
  | .beingDeleted timestamp =>
    .ok (some { pvc with
      deletionTimestamp := some timestamp, finalizers := pvc.finalizers.filter (· ≠ .pvcProtection) })

def reconcileClaim (claims : List String) (outcome : PatchOutcome) (pvc : PersistentVolumeClaim) :
    Except ProtectionError (Option PersistentVolumeClaim) :=
  if pvc.name ∈ claims then addProtection outcome pvc
  else if .pvcProtection ∈ pvc.finalizers then removeProtection outcome pvc
  else .ok (some pvc)

def reconcileClaims (claims : List String) (faults : Faults) (ns : String) :
    List PersistentVolumeClaim → List PersistentVolumeClaim × Option ProtectionError
  | [] => ([], none)
  | pvc :: rest =>
    if pvc.ns = ns then
      match reconcileClaim claims (faults.patch pvc.name) pvc with
      | .error failure => (pvc :: rest, some failure)
      | .ok stored =>
        let (after, failure) := reconcileClaims claims faults ns rest
        (stored.toList ++ after, failure)
    else
      let (after, failure) := reconcileClaims claims faults ns rest
      (pvc :: after, failure)

def reconcilePVCProtection (faults : Faults) (c : Cluster) (ns : String) :
    List PersistentVolumeClaim × Option ProtectionError :=
  match protectedClaimNames faults c ns with
  | .error failure => (c.pvcs, some failure)
  | .ok claims =>
    if faults.listPVCs then (c.pvcs, some .listPersistentVolumeClaims)
    else reconcileClaims claims faults ns c.pvcs

variable {faults : Faults} {c : Cluster} {claims : List String}

theorem collectClaimNames_mem {vms : List VirtualMachine} (collected : collectClaimNames faults c vms = .ok claims)
    {vm : VirtualMachine} (member : vm ∈ vms) (required : vmRequiresPVCProtection vm) {claimName : String}
    (named : claimName ∈ volumeClaimNames (c.fetchKVVM vm.ns vm.name) (c.fetchKVVMI vm.ns vm.name)) :
    claimName ∈ claims := by
  induction vms generalizing claims with
  | nil => cases member
  | cons _ _ ih =>
    unfold collectClaimNames at collected
    rcases mem_cons.mp member with rfl | member
    · rw [if_pos required] at collected
      iterate 3
        split at collected
        · cases collected
      cases collected
      exact mem_append_left _ named
    split at collected
    · split at collected
      · cases collected
      split at collected
      · cases collected
      split at collected
      · cases collected
      rename_i tail
      cases collected
      exact mem_append_right _ (ih tail member)
    · exact ih collected member

variable {after : PersistentVolumeClaim}

theorem reconcileClaims_mem {ns : String} {pvcs : List PersistentVolumeClaim}
    (stored : after ∈ (reconcileClaims claims faults ns pvcs).1) :
    ∃ pvc ∈ pvcs, (after = pvc ∧ ((reconcileClaims claims faults ns pvcs).2 ≠ none ∨ pvc.ns ≠ ns)) ∨
      reconcileClaim claims (faults.patch pvc.name) pvc = .ok (some after) := by
  induction pvcs with
  | nil => cases stored
  | cons first _ ih =>
    unfold reconcileClaims at stored ⊢
    split at stored
    · rename_i same
      rw [if_pos same]
      cases outcome : reconcileClaim claims (faults.patch first.name) first with
      | error =>
        rw [outcome] at stored
        exact ⟨after, stored, .inl ⟨rfl, .inl (by simp)⟩⟩
      | ok result =>
        rw [outcome] at stored
        rcases mem_append.mp stored with kept | later
        · have found : result = some after := Option.mem_toList.mp kept
          exact ⟨first, .head _, .inr (by rw [outcome, found])⟩
        obtain ⟨pvc, member, origin⟩ := ih later
        exact ⟨pvc, .tail _ member, origin⟩
    rename_i foreign
    rw [if_neg foreign]
    rcases mem_cons.mp stored with rfl | later
    · exact ⟨after, .head _, .inl ⟨rfl, .inr foreign⟩⟩
    obtain ⟨pvc, member, origin⟩ := ih later
    exact ⟨pvc, .tail _ member, origin⟩

variable {outcome : PatchOutcome} {pvc : PersistentVolumeClaim}

theorem addProtection_spec (stored : addProtection outcome pvc = .ok (some after)) :
    after.ns = pvc.ns ∧ after.name = pvc.name ∧
      (.pvcProtection ∈ pvc.finalizers → .pvcProtection ∈ after.finalizers) ∧
      (after.deletionTimestamp = none → .pvcProtection ∈ after.finalizers) := by
  unfold addProtection at stored
  split at stored
  · rename_i settled
    cases stored
    refine ⟨rfl, rfl, id, fun present => ?_⟩
    rcases settled with terminating | protected_
    · simp [present] at terminating
    · exact protected_
  cases outcome with
  | applied | beingDeleted timestamp => cases stored; simp
  | notFound | failed => cases stored

theorem reconcileClaim_key (stored : reconcileClaim claims outcome pvc = .ok (some after)) :
    after.ns = pvc.ns ∧ after.name = pvc.name := by
  unfold reconcileClaim at stored
  split at stored
  · obtain ⟨ns, name, _⟩ := addProtection_spec stored
    exact ⟨ns, name⟩
  split at stored
  · cases outcome <;> cases stored <;> exact ⟨rfl, rfl⟩
  cases stored
  exact ⟨rfl, rfl⟩

def ClaimsUnique (c : Cluster) : Prop := (c.pvcs.map fun pvc => (pvc.ns, pvc.name)).Nodup
deriving Decidable

theorem ClaimsUnique.eq (unique : ClaimsUnique c) {a b : PersistentVolumeClaim} (left : a ∈ c.pvcs)
    (right : b ∈ c.pvcs) (ns : a.ns = b.ns) (name : a.name = b.name) : a = b :=
  inj_on_of_nodup_map unique left right (Prod.ext ns name)

theorem required_of_active {vm : VirtualMachine} (computed : PhaseComputed c vm)
    (active : vm.deletionTimestamp.isSome ∨ vm.phase ≠ .pending ∧ vm.phase ≠ .stopped) :
    vmRequiresPVCProtection vm := by
  unfold vmRequiresPVCProtection
  split
  · rfl
  rename_i present
  obtain ⟨before, _⟩ := computed
  have range := getPhase_range (some { vm with phase := before }) (c.fetchKVVM vm.ns vm.name)
  rcases active with terminating | ⟨_, _⟩
  · exact absurd terminating present
  · cases phase : vm.phase <;> simp_all

theorem reconcileClaims_protects {ns : String} (unique : ClaimsUnique c) (named : after.name ∈ claims)
    (stored : after ∈ (reconcileClaims claims faults ns c.pvcs).1) (inside : after.ns = ns) :
    (∀ pvc ∈ c.pvcs, pvc.ns = ns → pvc.name = after.name → .pvcProtection ∈ pvc.finalizers →
      .pvcProtection ∈ after.finalizers) ∧
    ((reconcileClaims claims faults ns c.pvcs).2 = none → after.deletionTimestamp = none →
      .pvcProtection ∈ after.finalizers) := by
  obtain ⟨_, member, ⟨rfl, stopped⟩ | reconciled⟩ := reconcileClaims_mem stored
  · refine ⟨fun _ present ns name finalizer => ?_, fun finished => ?_⟩
    · rw [unique.eq member present (inside.trans ns.symm) name.symm]
      exact finalizer
    rcases stopped with failed | foreign
    · exact absurd finished failed
    · exact absurd inside foreign
  obtain ⟨sameNs, sameName⟩ := reconcileClaim_key reconciled
  unfold reconcileClaim at reconciled
  rw [if_pos (sameName ▸ named)] at reconciled
  obtain ⟨_, _, kept, added⟩ := addProtection_spec reconciled
  refine ⟨fun pvc present ns name finalizer => kept ?_, fun _ => added⟩
  rw [unique.eq member present (sameNs.symm.trans (inside.trans ns.symm)) (sameName.symm.trans name.symm)]
  exact finalizer

/-- No call takes the finalizer from a claim that an instance of an active VM references, and
    after a successful call every such claim that is not being deleted has it. -/
theorem active_instance_claims_protected (faults : Faults) {c : Cluster} {ns : String} (unique : ClaimsUnique c)
    {kvvmi : KVVMI} (running : c.fetchKVVMI ns kvvmi.name = some kvvmi) {vm : VirtualMachine} (member : vm ∈ c.vms)
    (ofInstance : vm.ns = ns ∧ vm.name = kvvmi.name) (computed : PhaseComputed c vm)
    (active : vm.deletionTimestamp.isSome ∨ vm.phase ≠ .pending ∧ vm.phase ≠ .stopped)
    {after : PersistentVolumeClaim} (stored : after ∈ (reconcilePVCProtection faults c ns).1)
    (inside : after.ns = ns) (referenced : after.name ∈ instanceClaimNames kvvmi) :
    (∀ pvc ∈ c.pvcs, pvc.ns = ns → pvc.name = after.name → .pvcProtection ∈ pvc.finalizers →
      .pvcProtection ∈ after.finalizers) ∧
    ((reconcilePVCProtection faults c ns).2 = none → after.deletionTimestamp = none →
      .pvcProtection ∈ after.finalizers) := by
  obtain ⟨vmNs, vmName⟩ := ofInstance
  unfold reconcilePVCProtection at stored ⊢
  have unchanged : after ∈ c.pvcs → ∀ pvc ∈ c.pvcs, pvc.ns = ns → pvc.name = after.name →
      .pvcProtection ∈ pvc.finalizers → .pvcProtection ∈ after.finalizers := by
    intro there pvc present samens samename finalizer
    rw [unique.eq there present (inside.trans samens.symm) samename.symm]
    exact finalizer
  cases collected : protectedClaimNames faults c ns with
  | error =>
    rw [collected] at stored
    exact ⟨unchanged stored, by simp⟩
  | ok =>
    simp only [collected] at stored ⊢
    split at stored
    · rename_i failed
      simp only [failed, if_true]
      exact ⟨unchanged stored, by simp⟩
    rename_i listed
    simp only [listed]
    refine reconcileClaims_protects unique ?_ stored inside
    unfold protectedClaimNames at collected
    split at collected
    · cases collected
    refine collectClaimNames_mem collected (mem_filter.mpr ⟨member, by simp [vmNs]⟩)
      (required_of_active computed active) ?_
    rw [volumeClaimNames, vmNs, vmName, running]
    exact mem_append_right _ referenced

def dataVolume : Volume := { name := "vd-data", source := .persistentVolumeClaim "data" true }

def webInstance : KVVMI :=
  { ns := "default", name := "web", phase := .running, nodeName := "node-1", volumes := [dataVolume],
    volumeStatus := [] }

def singleDisk (status : PrintableStatus) (phase : MachinePhase) (claim : PersistentVolumeClaim) : Cluster :=
  { vms := [{ ns := "default", name := "web", generation := 1, deletionTimestamp := none, runPolicy := .alwaysOn,
              paravirtualizationEnabled := true, blockDeviceRefs := [⟨.diskDevice, "data"⟩], phase,
              statusRefs := [], conditions := [] }]
    kvvms := [{ ns := "default", name := "web", template := some [dataVolume], runStrategy := some .manual,
                vmStartRequested := false, vmRestartRequested := false, printableStatus := status,
                synchronizedReason := .unset, stateChangeRequests := [], volumeRequests := [] }]
    kvvmis := [webInstance]
    pods := []
    pvcs := [claim]
    vds := []
    vis := []
    cvis := []
    vmbdas := [] }

def dataClaim (deletionTimestamp : Option Int) (finalizers : List Finalizer) : PersistentVolumeClaim :=
  { ns := "default", name := "data", phase := .bound, deletionTimestamp, finalizers, dataExportRequested := false,
    volumeName := "pv-1" }

def faultless : Faults :=
  { listVMs := false, fetchKVVM := fun _ => false, fetchKVVMI := fun _ => false, listPVCs := false,
    patch := fun _ => .applied }

theorem active_instance_claims_protected_running :
    (reconcilePVCProtection faultless (singleDisk .running .running (dataClaim none [])) "default").1 =
      [dataClaim none [.pvcProtection]] ∧
      Finalizer.pvcProtection ∈ (dataClaim none [.pvcProtection]).finalizers := by
  have claims : ClaimsUnique (singleDisk .running .running (dataClaim none [])) := by decide
  have running : (singleDisk .running .running (dataClaim none [])).fetchKVVMI "default" webInstance.name =
    some webInstance := rfl
  have stored : dataClaim none [.pvcProtection] ∈
    (reconcilePVCProtection faultless (singleDisk .running .running (dataClaim none [])) "default").1 := by decide
  have protects := active_instance_claims_protected faultless claims running (.head _) ⟨rfl, rfl⟩ ⟨.unset, rfl⟩
    (.inr (by decide)) stored rfl (by decide)
  exact ⟨by decide, protects.2 (by decide) rfl⟩

/-- A running instance whose VM is Pending because its node is unreachable, is Stopped already, or is gone. -/
def unguarded : List Cluster :=
  [singleDisk .unknown .pending (dataClaim none [.pvcProtection]),
    singleDisk .stopped .stopped (dataClaim none [.pvcProtection]),
    { singleDisk .stopped .stopped (dataClaim none [.pvcProtection]) with vms := [] }]

theorem unguarded_computed : ∀ c ∈ unguarded, (∀ vm ∈ c.vms, PhaseComputed c vm) ∧ c.kvvmis = [webInstance] := by
  intro c member
  simp only [unguarded, mem_cons, not_mem_nil, or_false] at member
  obtain rfl | rfl | rfl := member
  · exact ⟨fun vm present => by cases mem_singleton.mp present; exact ⟨.running, rfl⟩, rfl⟩
  · exact ⟨fun vm present => by cases mem_singleton.mp present; exact ⟨.running, rfl⟩, rfl⟩
  · exact ⟨nofun, rfl⟩

/-- With the node unreachable the KVVM is Unknown and the VM Pending, and the claim of the
    instance is released. So it is with the VM Stopped or gone. A claim that is being deleted cannot get the finalizer
    at all. -/
theorem unknown_instance_claim_released :
    ("data" ∈ instanceClaimNames webInstance ∧ webInstance.finished = false ∧
      (∀ c ∈ unguarded, (∀ vm ∈ c.vms, PhaseComputed c vm) ∧ c.kvvmis = [webInstance]) ∧
      ∀ c ∈ unguarded, c.pvcs = [dataClaim none [.pvcProtection]] ∧
        (reconcilePVCProtection faultless c "default").1 = [dataClaim none []]) ∧
    (¬ ∀ (faults : Faults) (c : Cluster) (ns : String), ClaimsUnique c → (∀ vm ∈ c.vms, PhaseComputed c vm) →
      ∀ kvvmi ∈ c.kvvmis, kvvmi.ns = ns → kvvmi.finished = false → ∀ pvc ∈ c.pvcs, pvc.ns = ns →
        pvc.name ∈ instanceClaimNames kvvmi → .pvcProtection ∈ pvc.finalizers →
        ∀ after ∈ (reconcilePVCProtection faults c ns).1, after.ns = ns → after.name = pvc.name →
          .pvcProtection ∈ after.finalizers) ∧
    (¬ ∀ (faults : Faults) (c : Cluster) (ns : String), ClaimsUnique c → (∀ vm ∈ c.vms, PhaseComputed c vm) →
      ∀ kvvmi ∈ c.kvvmis, kvvmi.ns = ns → kvvmi.finished = false →
        (reconcilePVCProtection faults c ns).2 = none → ∀ after ∈ (reconcilePVCProtection faults c ns).1,
          after.ns = ns → after.name ∈ instanceClaimNames kvvmi → .pvcProtection ∈ after.finalizers) := by
  refine ⟨⟨by decide, rfl, unguarded_computed, by decide⟩, ?_, ?_⟩
  · intro keeps
    have kept := keeps faultless (singleDisk .unknown .pending (dataClaim none [.pvcProtection])) "default"
      (by decide) (unguarded_computed _ (.head _)).1 _ (.head _) rfl rfl
      _ (.head _) rfl (by decide) (by decide) (dataClaim none []) (by decide) rfl rfl
    exact absurd kept (by decide)
  intro adds
  have added := adds faultless (singleDisk .running .running (dataClaim (some 5) [])) "default"
    (by decide) (by intro vm member; cases mem_singleton.mp member; exact ⟨.running, rfl⟩) _ (.head _) rfl rfl
    (by decide) (dataClaim (some 5) []) (by decide) rfl (by decide)
  exact absurd added (by decide)

end Virtualization.Machine
