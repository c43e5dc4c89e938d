import Mathlib.Data.List.Sort
import Virtualization.Pool.Expectations

namespace Virtualization.Pool

open List

def virtualMachinePoolKind : String := "VirtualMachinePool"
def schemeGroupVersion : String := "virtualization.deckhouse.io/v1alpha2"

structure OwnerReference where
  (apiVersion kind name : String)
  uid : UID
deriving DecidableEq

structure VirtualMachine where
  uid : UID
  (ns name : String)
  poolUIDLabel : Option UID
  controllerOf : Option OwnerReference
  creationTimestamp : Int
  deletionTimestamp : Option Int
deriving DecidableEq

inductive ScaleDownPolicy where
  | newestFirst | oldestFirst | explicit
deriving DecidableEq

structure VirtualMachinePool where
  uid : UID
  (ns name : String)
  replicas : Option Int
  scaleDownPolicy : ScaleDownPolicy
  deletionTimestamp : Option Int
deriving DecidableEq

variable (pool : VirtualMachinePool)

def VirtualMachinePool.key : NamespacedName := { ns := pool.ns, name := pool.name }
def VirtualMachinePool.desired (pool : VirtualMachinePool) : Int := pool.replicas.getD 0

def VirtualMachinePool.controllerRef : OwnerReference :=
  { apiVersion := schemeGroupVersion, kind := virtualMachinePoolKind, name := pool.name, uid := pool.uid }

/-- The pool-uid label scopes the list; the controller reference is the authoritative guard. -/
def listMembers (vms : List VirtualMachine) : List VirtualMachine :=
  (vms.filter fun vm => vm.ns = pool.ns ∧ vm.poolUIDLabel = some pool.uid).filter fun vm =>
    match vm.controllerOf with
    | none => false
    | some ref => ref.uid = pool.uid

def ownerKey (vm : VirtualMachine) : Option NamespacedName :=
  match vm.controllerOf with
  | none => none
  | some ref =>
    if ref.kind ≠ virtualMachinePoolKind ∨ ref.apiVersion ≠ schemeGroupVersion then none
    else some { ns := vm.ns, name := ref.name }

/-- The managed metadata of a new replica. The name, the UID and the creation timestamp come
    from the API server; the managed labels overwrite those of the template. -/
def newMember (uid : UID) (name : String) (creationTimestamp : Int) : VirtualMachine :=
  { uid, ns := pool.ns, name, poolUIDLabel := some pool.uid, controllerOf := some pool.controllerRef,
    creationTimestamp, deletionTimestamp := none }

/-- Insertion sort is stable, as the sort of the candidates is. -/
def pickVictims (policy : ScaleDownPolicy) (candidates : List VirtualMachine) (n : Int) : List VirtualMachine :=
  if n ≤ 0 ∨ policy = .explicit then []
  else
    let sorted :=
      if policy = .oldestFirst then
        candidates.insertionSort fun a b => a.creationTimestamp ≤ b.creationTimestamp
      else candidates.insertionSort fun a b => b.creationTimestamp ≤ a.creationTimestamp
    sorted.take (if n > sorted.length then sorted.length else n.toNat)

def scaleDownVictims (members : List VirtualMachine) (surplus : Int) : List VirtualMachine :=
  let terminating := members.countP (·.deletionTimestamp.isSome)
  let candidates := members.filter (·.deletionTimestamp.isNone)
  let toDelete := surplus - terminating
  if toDelete ≤ 0 then [] else pickVictims pool.scaleDownPolicy candidates toDelete

inductive Decision where
  | keep
  | scaleUp (n : Int)
  | scaleDown (victims : List VirtualMachine)
deriving DecidableEq

def decision (members : List VirtualMachine) : Decision :=
  let live : Int := members.length
  if live < pool.desired then .scaleUp (pool.desired - live)
  else if live > pool.desired then
    match scaleDownVictims pool members (live - pool.desired) with
    | [] => .keep
    | victims => .scaleDown victims
  else .keep

def VirtualMachine.live (vm : VirtualMachine) : Bool := vm.deletionTimestamp.isNone

def liveCount (vms : List VirtualMachine) : Nat := vms.countP VirtualMachine.live

def Owned (pool : VirtualMachinePool) (vm : VirtualMachine) : Prop :=
  vm.ns = pool.ns ∧ vm.poolUIDLabel = some pool.uid ∧ vm.controllerOf = some pool.controllerRef
deriving Decidable

variable {pool : VirtualMachinePool}

open VirtualMachinePool

theorem Owned.ownerKey {vm : VirtualMachine} (owned : Owned pool vm) : ownerKey vm = some pool.key := by
  obtain ⟨ns, _, controller⟩ := owned
  simp [Pool.ownerKey, controller, controllerRef, key, ns]

theorem listMembers_owned {vms : List VirtualMachine} (owned : ∀ vm ∈ vms, Owned pool vm) :
    listMembers pool vms = vms := by
  unfold listMembers
  rw [filter_filter, filter_eq_self]
  intro vm member
  obtain ⟨ns, label, controller⟩ := owned vm member
  simp [ns, label, controller, controllerRef]

theorem pickVictims_spec (policy : ScaleDownPolicy) (candidates : List VirtualMachine) (n : Int) :
    ∃ sorted : List VirtualMachine, sorted.Perm candidates ∧ (pickVictims policy candidates n).Sublist sorted ∧
      ((pickVictims policy candidates n).length : Int) ≤ max n 0 := by
  unfold pickVictims
  split
  · exact ⟨candidates, .refl _, nil_sublist _, by simp⟩
  refine ⟨_, ?_, take_sublist _ _, ?_⟩
  · split <;> exact perm_insertionSort _ _
  rw [length_take]
  split <;> split <;> omega

open VirtualMachine

theorem decision_scaleDown {members victims : List VirtualMachine}
    (decided : decision pool members = .scaleDown victims) :
    (∃ sorted : List VirtualMachine, sorted.Perm (members.filter live) ∧ victims.Sublist sorted) ∧
      pool.desired + victims.length ≤ liveCount members := by
  unfold decision at decided
  dsimp only at decided
  split at decided
  · cases decided
  split at decided
  · split at decided
    · cases decided
    rename_i nonempty
    cases decided
    have split := length_eq_countP_add_countP live (l := members)
    have terminating : (members.countP (·.deletionTimestamp.isSome)) =
        members.countP fun vm => ¬ vm.live = true := by
      congr 1
      funext vm
      cases stamp : vm.deletionTimestamp <;> simp [live, stamp]
    unfold scaleDownVictims at nonempty ⊢
    dsimp only at nonempty ⊢
    split
    · rename_i settled
      rw [if_pos settled] at nonempty
      exact absurd rfl nonempty
    obtain ⟨sorted, same, sub, _⟩ := pickVictims_spec pool.scaleDownPolicy
      (members.filter (·.deletionTimestamp.isNone))
      ((members.length : Int) - pool.desired - (members.countP fun vm => vm.deletionTimestamp.isSome : Nat))
    refine ⟨⟨sorted, same, sub⟩, ?_⟩
    unfold liveCount
    omega
  · cases decided

theorem decision_scaleUp {members : List VirtualMachine} {n : Int} (decided : decision pool members = .scaleUp n) :
    0 < n ∧ (members.length : Int) + n = pool.desired := by
  unfold decision at decided
  dsimp only at decided
  split at decided
  · cases decided
    omega
  split at decided
  · split at decided <;> cases decided
  · cases decided

end Virtualization.Pool
