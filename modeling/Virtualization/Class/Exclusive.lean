import Virtualization.Class.SizingPolicies

namespace Virtualization.Class

open Library List Option

def StrictlyContains (policy1 policy2 : SizingPolicy) : Prop :=
  match policy1.cores, policy2.cores with
  | some cores1, some cores2 => cores1.min < cores2.min ∧ cores2.max < cores1.max
  | _, _ => False

instance (policy1 policy2 : SizingPolicy) : Decidable (StrictlyContains policy1 policy2) := by
  unfold StrictlyContains
  split <;> infer_instance

def RangesOrdered (vmclass : VirtualMachineClass) : Prop :=
  ∀ policy ∈ vmclass.sizingPolicies, ∀ range ∈ policy.cores, range.min ≤ range.max
deriving Decidable

def SomeCoresShared (policy1 policy2 : SizingPolicy) : Prop :=
  ∃ cores, policy1.covers cores ∧ policy2.covers cores

theorem covers_some {policy : SizingPolicy} {cores : Int} :
    policy.covers cores ↔ ∃ range, policy.cores = some range ∧ range.min ≤ cores ∧ cores ≤ range.max := by
  unfold SizingPolicy.covers
  cases policy.cores <;> simp

/-- Two ranges meet when the first has an end in the second or surrounds it. Only the
    former is what the loop looks for. -/
theorem someCoresShared_iff {policy1 policy2 : SizingPolicy}
    (ordered1 : ∀ range, policy1.cores = some range → range.min ≤ range.max)
    (ordered2 : ∀ range, policy2.cores = some range → range.min ≤ range.max) :
    SomeCoresShared policy1 policy2 ↔ EndpointIn policy1 policy2 ∨ StrictlyContains policy1 policy2 := by
  simp only [SomeCoresShared, covers_some, EndpointIn, StrictlyContains]
  cases first : policy1.cores with
  | none => simp
  | some cores1 =>
    cases second : policy2.cores with
    | none => simp
    | some cores2 =>
      have range1 := ordered1 cores1 first
      have range2 := ordered2 cores2 second
      simp only [some.injEq, exists_eq_left']
      constructor
      · rintro ⟨cores, inside1, inside2⟩
        omega
      rintro ((inside | inside) | inside)
      · exact ⟨cores1.min, by omega⟩
      · exact ⟨cores1.max, by omega⟩
      · exact ⟨cores2.min, by omega⟩

theorem SomeCoresShared.symm {policy1 policy2 : SizingPolicy} (shared : SomeCoresShared policy1 policy2) :
    SomeCoresShared policy2 policy1 := by
  obtain ⟨cores, first, second⟩ := shared
  exact ⟨cores, second, first⟩

variable (policies : List SizingPolicy)

theorem pairwise_disjoint_iff : (policies.Pairwise fun p q => ¬ SomeCoresShared p q) ↔
      ∀ cores, (policies.filter fun policy => policy.covers cores).length ≤ 1 := by
  induction policies with
  | nil => simp
  | cons _ rest ih =>
    rw [pairwise_cons, ih]
    constructor
    · rintro ⟨apart, tail⟩ cores
      rw [filter_cons]
      split
      · rename_i covered
        have none : rest.filter (·.covers cores) = [] := by
          rw [filter_eq_nil_iff]
          exact fun q member covering => apart q member ⟨cores, covered, covering⟩
        simp [none]
      · exact tail cores
    intro single
    refine ⟨?_, ?_⟩
    · rintro q member ⟨cores, covered, covering⟩
      have bound := single cores
      rw [filter_cons, if_pos covered, length_cons] at bound
      have kept : q ∈ rest.filter (·.covers cores) := mem_filter.mpr ⟨member, covering⟩
      have positive := length_pos_of_mem kept
      omega
    intro cores
    have bound := single cores
    rw [filter_cons] at bound
    split at bound
    · rw [length_cons] at bound
      omega
    · exact bound

theorem find_covering_perm {policies reordered : List SizingPolicy} (same : reordered.Perm policies)
    (cores : Int) (single : (policies.filter fun policy => policy.covers cores).length ≤ 1) :
    reordered.find? (·.covers cores) = policies.find? fun policy => policy.covers cores := by
  have filtered := same.filter fun policy => policy.covers cores
  rw [← head?_filter, ← head?_filter]
  cases matched : policies.filter fun policy => policy.covers cores with
  | nil =>
    rw [matched] at filtered
    rw [filtered.eq_nil]
  | cons _ rest =>
    rw [matched] at filtered single
    have ended : rest = [] := by
      rw [length_cons] at single
      exact length_eq_zero_iff.mp (by omega)
    subst ended
    rw [perm_singleton.mp filtered]

/-- What the sizing policies of a stored class are for: every policy has a core range, a core
    count selects at most one policy, and the selection does not depend on the list order. -/
structure Exclusive (vmclass : VirtualMachineClass) : Prop where
  ranged : ∀ policy ∈ vmclass.sizingPolicies, policy.cores.isSome
  single : ∀ cores, (vmclass.sizingPolicies.filter fun policy => policy.covers cores).length ≤ 1
  unordered : ∀ reordered : List SizingPolicy, reordered.Perm vmclass.sizingPolicies → ∀ cores,
    matchSizingPolicy (some { vmclass with sizingPolicies := reordered }) cores =
      matchSizingPolicy (some vmclass) cores

def RangedWithoutLaterInside (vmclass : VirtualMachineClass) : Prop :=
  (∀ policy ∈ vmclass.sizingPolicies, policy.cores.isSome) ∧
    vmclass.sizingPolicies.Pairwise fun p q => ¬ StrictlyContains p q
deriving Decidable

variable {vmclass : VirtualMachineClass}

theorem pairwise_disjoint_split (ordered : RangesOrdered vmclass) :
    (vmclass.sizingPolicies.Pairwise fun p q => ¬ SomeCoresShared p q) ↔
      (vmclass.sizingPolicies.Pairwise fun p q => ¬ EndpointIn p q) ∧
        vmclass.sizingPolicies.Pairwise fun p q => ¬ StrictlyContains p q := by
  rw [← pairwise_and_iff]
  refine List.Pairwise.iff_of_mem ?_
  intro p q hp hq
  rw [someCoresShared_iff (ordered p hp) (ordered q hq), not_or]

theorem exclusive_iff (ordered : RangesOrdered vmclass)
    (accepted : hasCPUSizePoliciesCrosses vmclass.sizingPolicies = false) :
    Exclusive vmclass ↔ RangedWithoutLaterInside vmclass := by
  have clear := (hasCPUSizePoliciesCrosses_eq_false vmclass.sizingPolicies).mp accepted
  have disjoint := pairwise_disjoint_split ordered
  rw [pairwise_disjoint_iff] at disjoint
  constructor
  · intro exclusive
    exact ⟨exclusive.ranged, (disjoint.mp exclusive.single).2⟩
  rintro ⟨ranged, apart⟩
  have single := disjoint.mpr ⟨clear, apart⟩
  exact ⟨ranged, single, fun reordered same cores => find_covering_perm same cores (single cores)⟩

theorem accept_some {stored : Option VirtualMachineClass} {request : Admission}
    {result : Option VirtualMachineClass} (moved : accept stored request = some result) :
    result = some request.vmclass ∧
      hasCPUSizePoliciesCrosses request.vmclass.sizingPolicies = false := by
  cases stored <;> cases request <;> simp only [accept] at moved
  case none.create vmclass =>
    obtain ⟨passed, ⟨⟩⟩ := ite_none_right_eq_some.mp moved
    refine ⟨rfl, ?_⟩
    unfold validateCreate at passed
    split at passed
    · cases passed
    split at passed
    · cases passed
    rename_i clear
    simpa [Admission.vmclass] using clear
  case none.update vmclass => cases moved
  case some.create old vmclass => cases moved
  case some.update old vmclass =>
    obtain ⟨passed, ⟨⟩⟩ := ite_none_right_eq_some.mp moved
    refine ⟨rfl, ?_⟩
    unfold validateUpdate at passed
    split at passed
    · cases passed
    rename_i clear
    simpa [Admission.vmclass] using clear

theorem run_stored_accepted {history : List Admission} {start : Option VirtualMachineClass}
    {stored : VirtualMachineClass} (absent : start = none) (reached : run accept start history = some (some stored)) :
    ∃ request ∈ history, request.vmclass = stored ∧
      hasCPUSizePoliciesCrosses stored.sizingPolicies = false := by
  have general : ∀ (requests : List Admission) (before : Option VirtualMachineClass),
      run accept before requests = some (some stored) →
      (before = some stored ∧ requests = []) ∨ ∃ request ∈ requests, request.vmclass = stored ∧
        hasCPUSizePoliciesCrosses stored.sizingPolicies = false := by
    intro requests
    induction requests with
    | nil =>
      intro before ended
      cases ended
      exact .inl ⟨rfl, rfl⟩
    | cons request _ ih =>
      intro before moved
      obtain ⟨middle, taken, tail⟩ := run_cons moved
      obtain ⟨kept, clear⟩ := accept_some taken
      rcases ih middle tail with ⟨last, _⟩ | ⟨later, member, same, passed⟩
      · have same : request.vmclass = stored := some.inj (kept.symm.trans last)
        exact .inr ⟨request, by simp, same, same ▸ clear⟩
      · exact .inr ⟨later, mem_cons_of_mem _ member, same, passed⟩
  rcases general history start reached with ⟨same, _⟩ | found
  · rw [absent] at same
    cases same
  · exact found

def EarlierLater (related : SizingPolicy → SizingPolicy → Prop) (policies : List SizingPolicy) : Prop :=
  ∃ (i j : Nat) (p q : SizingPolicy), i < j ∧ policies[i]? = some p ∧ policies[j]? = some q ∧ related p q

theorem earlierLater_iff (related : SizingPolicy → SizingPolicy → Prop) (policies : List SizingPolicy) :
    EarlierLater related policies ↔ ¬ policies.Pairwise fun p q => ¬ related p q := by
  rw [pairwise_iff_getElem]
  constructor
  · rintro ⟨i, j, p, q, order, atI, atJ, holds⟩ clear
    obtain ⟨boundI, rfl⟩ := List.getElem?_eq_some_iff.mp atI
    obtain ⟨boundJ, rfl⟩ := List.getElem?_eq_some_iff.mp atJ
    exact clear i j boundI boundJ order holds
  intro crossing
  simp only [not_forall, not_not] at crossing
  obtain ⟨i, j, boundI, boundJ, order, holds⟩ := crossing
  exact ⟨i, j, _, _, order, getElem?_eq_getElem boundI, getElem?_eq_getElem boundJ, holds⟩

def Overlapping : Prop :=
  ∃ (i j : Nat) (p q : SizingPolicy), i ≠ j ∧ policies[i]? = some p ∧ policies[j]? = some q ∧ SomeCoresShared p q

theorem overlapping_iff : Overlapping policies ↔ EarlierLater SomeCoresShared policies := by
  constructor
  · rintro ⟨i, j, p, q, distinct, atI, atJ, shared⟩
    rcases Nat.lt_or_gt_of_ne distinct with order | order
    · exact ⟨i, j, p, q, order, atI, atJ, shared⟩
    · exact ⟨j, i, q, p, order, atJ, atI, shared.symm⟩
  rintro ⟨i, j, p, q, order, atI, atJ, shared⟩
  exact ⟨i, j, p, q, Nat.ne_of_lt order, atI, atJ, shared⟩

theorem crosses_iff : hasCPUSizePoliciesCrosses policies ↔ EarlierLater EndpointIn policies := by
  rw [earlierLater_iff, ← hasCPUSizePoliciesCrosses_eq_false, Bool.not_eq_false]

theorem overlapping_split (ordered : RangesOrdered vmclass) : Overlapping vmclass.sizingPolicies ↔
      EarlierLater EndpointIn vmclass.sizingPolicies ∨ EarlierLater StrictlyContains vmclass.sizingPolicies := by
  rw [overlapping_iff, earlierLater_iff, earlierLater_iff, earlierLater_iff, pairwise_disjoint_split ordered,
    not_and_or]

/-- A stored class keeps its policies apart exactly when every policy has a range and none
    strictly contains a later one, and the cross check answers the overlap question exactly
    when such a containment does not stand alone. -/
theorem stored_class_exclusive_iff {vmclass : VirtualMachineClass} (ordered : RangesOrdered vmclass) :
    (∀ history : List Admission, run accept none history = some (some vmclass) →
      (Exclusive vmclass ↔ RangedWithoutLaterInside vmclass)) ∧
    ((hasCPUSizePoliciesCrosses vmclass.sizingPolicies = true ↔ Overlapping vmclass.sizingPolicies) ↔
      (EarlierLater StrictlyContains vmclass.sizingPolicies → EarlierLater EndpointIn vmclass.sizingPolicies)) := by
  constructor
  · intro history reached
    obtain ⟨_, _, rfl, accepted⟩ := run_stored_accepted rfl reached
    exact exclusive_iff ordered accepted
  rw [crosses_iff, overlapping_split ordered]
  tauto

def coresPolicy (min max : Int) : SizingPolicy :=
  { memory := none, coreFractions := [], defaultCoreFraction := none, dedicatedCores := [],
    cores := some { min, max, step := 1 } }

def adjacentClass : VirtualMachineClass :=
  { name := "adjacent", sizingPolicies := [coresPolicy 1 4, coresPolicy 5 9] }

theorem stored_class_exclusive_adjacent : Exclusive adjacentClass ∧
      (hasCPUSizePoliciesCrosses adjacentClass.sizingPolicies = true ↔ Overlapping adjacentClass.sizingPolicies) := by
  have ordered : RangesOrdered adjacentClass := by decide
  have apart : ¬ EarlierLater StrictlyContains adjacentClass.sizingPolicies := by
    rw [earlierLater_iff]
    decide
  obtain ⟨stored, crosses⟩ := stored_class_exclusive_iff ordered
  exact ⟨(stored [.create adjacentClass] rfl).mpr (by decide), crosses.mpr fun inside => absurd inside apart⟩

def containingClass : VirtualMachineClass :=
  { name := "containing", sizingPolicies := [coresPolicy 1 8, coresPolicy 2 4] }

theorem containing_policy_first_accepted : (¬ ∀ (history : List Admission) (stored : VirtualMachineClass),
      (∀ request ∈ history, RangesOrdered request.vmclass) →
      run accept none history = some (some stored) → Exclusive stored) ∧
    (¬ ∀ vmclass : VirtualMachineClass, RangesOrdered vmclass →
      (hasCPUSizePoliciesCrosses vmclass.sizingPolicies = true ↔ Overlapping vmclass.sizingPolicies)) := by
  have ordered : RangesOrdered containingClass := by decide
  refine ⟨fun all => ?_, fun all => ?_⟩
  · have exclusive := all [.create containingClass] containingClass (by simpa [Admission.vmclass] using ordered) rfl
    have single := exclusive.single 3
    exact absurd single (by decide)
  have shared : Overlapping containingClass.sizingPolicies :=
    ⟨0, 1, coresPolicy 1 8, coresPolicy 2 4, by decide, rfl, rfl, 3, by decide, by decide⟩
  have answered := (all containingClass ordered).mpr shared
  cases answered

end Virtualization.Class
