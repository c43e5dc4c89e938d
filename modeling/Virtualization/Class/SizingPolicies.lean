import Mathlib.Data.List.Perm.Basic
import Mathlib.Tactic.Common
import Virtualization.Library.Run

namespace Virtualization.Class

open List

structure SizingPolicyCores where
  (min max step : Int)

structure MemoryMinMax where
  (min max : Option Int)

structure SizingPolicyMemory where
  range : MemoryMinMax
  step : Option Int
  perCore : Option MemoryMinMax

structure SizingPolicy where
  memory : Option SizingPolicyMemory
  coreFractions : List Int
  defaultCoreFraction : Option (Int ⊕ String)
  dedicatedCores : List Bool
  cores : Option SizingPolicyCores

structure VirtualMachineClass where
  name : String
  sizingPolicies : List SizingPolicy

/-- The inner loop of the cross check for one outer policy. `none` is the early
    `return true`; otherwise the pairs seen so far are handed on. -/
def crossesRow (i : Nat) (policy1 : SizingPolicy) :
    Nat → List SizingPolicy → List (Nat × Nat) → Option (List (Nat × Nat))
  | _, [], usedPairs => some usedPairs
  | j, policy2 :: rest, usedPairs =>
    if i = j then crossesRow i policy1 (j + 1) rest usedPairs
    else if (i, j) ∈ usedPairs then crossesRow i policy1 (j + 1) rest usedPairs
    else
      match policy1.cores, policy2.cores with
      | some cores1, some cores2 =>
        if cores1.min ≥ cores2.min ∧ cores1.min ≤ cores2.max then none
        else if cores1.max ≥ cores2.min ∧ cores1.max ≤ cores2.max then none
        else crossesRow i policy1 (j + 1) rest ((j, i) :: (i, j) :: usedPairs)
      | _, _ => crossesRow i policy1 (j + 1) rest usedPairs

def crossesRows (policies : List SizingPolicy) : Nat → List SizingPolicy → List (Nat × Nat) → Bool
  | _, [], _ => false
  | i, policy1 :: rest, usedPairs =>
    match crossesRow i policy1 0 policies usedPairs with
    | none => true
    | some usedPairs => crossesRows policies (i + 1) rest usedPairs

variable (policies : List SizingPolicy)

def hasCPUSizePoliciesCrosses : Bool :=
  crossesRows policies 0 policies []

def hasValidCores : Bool :=
  if policies.length = 0 then true else policies.all (·.cores.isSome)

def validateCreate (vmclass : VirtualMachineClass) : Except String Unit :=
  if !hasValidCores vmclass.sizingPolicies then
    .error s!"vmclass {vmclass.name} has sizing policies but none of them specify cores"
  else if hasCPUSizePoliciesCrosses vmclass.sizingPolicies then
    .error s!"vmclass {vmclass.name} has size policy cpu crosses"
  else .ok ()

/-- An update repeats only the second check of a creation. -/
def validateUpdate (_oldVMClass newVMClass : VirtualMachineClass) : Except String Unit :=
  if hasCPUSizePoliciesCrosses newVMClass.sizingPolicies then
    .error s!"vmclass {newVMClass.name} has size policy cpu crosses"
  else .ok ()

def SizingPolicy.covers (policy : SizingPolicy) (cores : Int) : Bool :=
  match policy.cores with
  | none => false
  | some range => cores ≥ range.min && cores ≤ range.max

def matchSizingPolicy (vmclass : Option VirtualMachineClass) (cores : Int) : Option SizingPolicy :=
  match vmclass with
  | none => none
  | some vmclass => vmclass.sizingPolicies.find? fun policy => policy.covers cores

inductive Admission where
  | create (vmclass : VirtualMachineClass)
  | update (vmclass : VirtualMachineClass)

def Admission.vmclass : Admission → VirtualMachineClass
  | .create vmclass => vmclass
  | .update vmclass => vmclass

def accept (stored : Option VirtualMachineClass) (request : Admission) : Option (Option VirtualMachineClass) :=
  match stored, request with
  | none, .create vmclass => if (validateCreate vmclass).isOk then some (some vmclass) else none
  | some old, .update vmclass => if (validateUpdate old vmclass).isOk then some (some vmclass) else none
  | _, _ => none

def EndpointIn (policy1 policy2 : SizingPolicy) : Prop :=
  match policy1.cores, policy2.cores with
  | some cores1, some cores2 =>
    cores2.min ≤ cores1.min ∧ cores1.min ≤ cores2.max ∨ cores2.min ≤ cores1.max ∧ cores1.max ≤ cores2.max
  | _, _ => False

theorem EndpointIn.isSome {policy1 policy2 : SizingPolicy} (inside : EndpointIn policy1 policy2) :
    policy1.cores.isSome ∧ policy2.cores.isSome := by
  unfold EndpointIn at inside
  split at inside
  · rename_i first second
    simp [first, second]
  · exact inside.elim

def hasCoresAt (i : Nat) : Prop :=
  ∃ policy, policies[i]? = some policy ∧ policy.cores.isSome

/-- The pairs recorded when row `i` has reached column `j`: both orders of every pair of
    policies with cores whose earlier member is in a finished row or, up to `j`, in this one. -/
def PairsUsed (i j : Nat) (usedPairs : List (Nat × Nat)) : Prop :=
  ∀ x y, (x, y) ∈ usedPairs ↔
    x ≠ y ∧ hasCoresAt policies x ∧ hasCoresAt policies y ∧
      (x < i ∨ y < i ∨ x = i ∧ y < j ∨ y = i ∧ x < j)

def RowOutcome (i : Nat) (policy1 : SizingPolicy) (j : Nat) : Option (List (Nat × Nat)) → Prop
  | none => ∃ k policy2, i < k ∧ policies[k]? = some policy2 ∧ EndpointIn policy1 policy2
  | some usedPairs => PairsUsed policies (i + 1) 0 usedPairs ∧
      ∀ k policy2, i < k → j ≤ k → policies[k]? = some policy2 → ¬ EndpointIn policy1 policy2

variable {policies : List SizingPolicy} {usedPairs : List (Nat × Nat)}

theorem PairsUsed.next {i j : Nat} (used : PairsUsed policies i j usedPairs)
    (skipped : j ≤ i ∨ ¬ hasCoresAt policies i ∨ ¬ hasCoresAt policies j) : PairsUsed policies i (j + 1) usedPairs := by
  intro x y
  rw [used x y]
  constructor
  · rintro ⟨distinct, hx, hy, recorded⟩
    exact ⟨distinct, hx, hy, by omega⟩
  rintro ⟨distinct, hx, hy, recorded⟩
  refine ⟨distinct, hx, hy, ?_⟩
  by_contra fresh
  have ends : x = i ∧ y = j ∨ x = j ∧ y = i := by omega
  rcases ends with ⟨rfl, rfl⟩ | ⟨rfl, rfl⟩
  · rcases skipped with _ | missing | missing
    · omega
    · exact missing hx
    · exact missing hy
  rcases skipped with _ | missing | missing
  · omega
  · exact missing hy
  · exact missing hx

theorem PairsUsed.record {i j : Nat} (used : PairsUsed policies i j usedPairs) (above : i < j)
    (hi : hasCoresAt policies i) (hj : hasCoresAt policies j) :
    PairsUsed policies i (j + 1) ((j, i) :: (i, j) :: usedPairs) := by
  intro x y
  simp only [mem_cons, Prod.mk.injEq, used x y]
  constructor
  · rintro (⟨rfl, rfl⟩ | ⟨rfl, rfl⟩ | ⟨distinct, hx, hy, recorded⟩)
    · exact ⟨by omega, hj, hi, by omega⟩
    · exact ⟨by omega, hi, hj, by omega⟩
    · exact ⟨distinct, hx, hy, by omega⟩
  rintro ⟨distinct, hx, hy, recorded⟩
  by_cases first : x = j ∧ y = i
  · exact .inl first
  by_cases second : x = i ∧ y = j
  · exact .inr (.inl second)
  exact .inr (.inr ⟨distinct, hx, hy, by omega⟩)

theorem RowOutcome.skip {i j : Nat} {policy1 policy2 : SizingPolicy} {outcome : Option (List (Nat × Nat))}
    (here : policies[j]? = some policy2) (harmless : ¬ (i < j ∧ EndpointIn policy1 policy2))
    (tail : RowOutcome policies i policy1 (j + 1) outcome) : RowOutcome policies i policy1 j outcome := by
  cases outcome with
  | none => exact tail
  | some =>
    refine ⟨tail.1, ?_⟩
    intro k policy above beyond present
    rcases Nat.eq_or_lt_of_le beyond with rfl | later
    · have same : policy = policy2 := Option.some.inj (present.symm.trans here)
      subst same
      exact fun inside => harmless ⟨above, inside⟩
    · exact tail.2 k policy above later present

theorem PairsUsed.row_end {i j : Nat} (used : PairsUsed policies i j usedPairs) (ended : policies.length ≤ j) :
    PairsUsed policies (i + 1) 0 usedPairs := by
  intro x y
  rw [used x y]
  constructor
  · rintro ⟨distinct, hx, hy, recorded⟩
    exact ⟨distinct, hx, hy, by omega⟩
  rintro ⟨distinct, hx, hy, recorded⟩
  obtain ⟨first, atX, someX⟩ := hx
  obtain ⟨second, atY, someY⟩ := hy
  have boundX := (List.getElem?_eq_some_iff.mp atX).1
  have boundY := (List.getElem?_eq_some_iff.mp atY).1
  exact ⟨distinct, ⟨first, atX, someX⟩, ⟨second, atY, someY⟩, by omega⟩

theorem crossesRow_spec (policies : List SizingPolicy) (i : Nat) (policy1 : SizingPolicy)
    (row : policies[i]? = some policy1) (j : Nat) (rest : List SizingPolicy)
    (usedPairs : List (Nat × Nat)) (column : policies.drop j = rest) (used : PairsUsed policies i j usedPairs) :
    RowOutcome policies i policy1 j (crossesRow i policy1 j rest usedPairs) := by
  induction rest generalizing j usedPairs with
  | nil =>
    have ended : policies.length ≤ j := drop_eq_nil_iff.mp column
    refine ⟨used.row_end ended, ?_⟩
    intro k policy2 _ beyond present
    have bound := (List.getElem?_eq_some_iff.mp present).1
    omega
  | cons policy2 rest ih =>
    have here : policies[j]? = some policy2 := by
      rw [← head?_drop, column]
      rfl
    have following : policies.drop (j + 1) = rest := by
      rw [← tail_drop, column]
      rfl
    unfold crossesRow
    split
    · exact (ih _ _ following (used.next (.inl (by omega)))).skip here (by omega)
    split
    · rename_i known
      have recorded := ((used i j).mp known).2.2.2
      exact (ih _ _ following (used.next (.inl (by omega)))).skip here (by omega)
    rename_i distinct unknown
    split
    · rename_i first second
      have hi : hasCoresAt policies i := ⟨policy1, row, by simp [first]⟩
      have hj : hasCoresAt policies j := ⟨policy2, here, by simp [second]⟩
      -- The mirrored pair of an earlier row is on record, so a comparison lies above the diagonal.
      have above : i < j := by
        by_contra below
        exact unknown ((used i j).mpr ⟨distinct, hi, hj, by omega⟩)
      split
      · rename_i inside
        exact ⟨j, policy2, above, here, by simp only [EndpointIn, first, second]; exact .inl inside⟩
      split
      · rename_i inside
        exact ⟨j, policy2, above, here, by simp only [EndpointIn, first, second]; exact .inr inside⟩
      rename_i outsideMin outsideMax
      refine (ih _ _ following (used.record above hi hj)).skip here ?_
      rintro ⟨_, inside⟩
      simp only [EndpointIn, first, second] at inside
      exact inside.elim outsideMin outsideMax
    rename_i missing
    have absent : ¬ (policy1.cores.isSome ∧ policy2.cores.isSome) := by
      rintro ⟨hp, hq⟩
      obtain ⟨cores1, first⟩ := Option.isSome_iff_exists.mp hp
      obtain ⟨cores2, second⟩ := Option.isSome_iff_exists.mp hq
      exact missing cores1 cores2 first second
    refine (ih _ _ following (used.next ?_)).skip here (fun h => absent h.2.isSome)
    by_contra both
    simp only [not_or, not_not] at both
    obtain ⟨_, ⟨_, atP, hp⟩, ⟨_, atQ, hq⟩⟩ := both
    rw [row] at atP
    rw [here] at atQ
    cases atP
    cases atQ
    exact absent ⟨hp, hq⟩

theorem crossesRows_spec (policies : List SizingPolicy) (i : Nat) (rest : List SizingPolicy)
    (usedPairs : List (Nat × Nat)) (outer : policies.drop i = rest) (used : PairsUsed policies i 0 usedPairs) :
    crossesRows policies i rest usedPairs = false ↔ rest.Pairwise fun p q => ¬ EndpointIn p q := by
  induction rest generalizing i usedPairs with
  | nil => simp [crossesRows]
  | cons policy1 rest ih =>
    have row : policies[i]? = some policy1 := by
      rw [← head?_drop, outer]
      rfl
    have following : policies.drop (i + 1) = rest := by
      rw [← tail_drop, outer]
      rfl
    have scanned := crossesRow_spec policies i policy1 row 0 policies usedPairs rfl used
    rw [pairwise_cons]
    unfold crossesRows
    cases outcome : crossesRow i policy1 0 policies usedPairs with
    | none =>
      rw [outcome] at scanned
      obtain ⟨k, policy2, _, present, inside⟩ := scanned
      simp only [Bool.true_eq_false, false_iff, not_and]
      intro clear
      refine absurd inside (clear policy2 ?_)
      have shifted : (policies.drop (i + 1))[k - (i + 1)]? = some policy2 := by
        rw [getElem?_drop, ← present]
        congr 1
        omega
      rw [← following]
      exact mem_of_getElem? shifted
    | some recorded =>
      rw [outcome] at scanned
      rw [ih (i + 1) recorded following scanned.1]
      refine ⟨fun tail => ⟨?_, tail⟩, (·.2)⟩
      intro policy2 member
      rw [← following] at member
      obtain ⟨_, present⟩ := getElem?_of_mem member
      rw [getElem?_drop] at present
      exact scanned.2 _ policy2 (by omega) (Nat.zero_le _) present

theorem hasCPUSizePoliciesCrosses_eq_false (policies : List SizingPolicy) :
    hasCPUSizePoliciesCrosses policies = false ↔ policies.Pairwise fun p q => ¬ EndpointIn p q := by
  refine crossesRows_spec policies 0 policies [] rfl ?_
  intro x y
  simp

end Virtualization.Class
