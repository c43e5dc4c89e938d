import Virtualization.Machine.Spec

/-! The IDs that are given to the network interfaces of a machine. -/

namespace Virtualization.Machine.Builder

open List

def reservedMainID : Int := 1

def startGenericID : Int := 2

/-- The loop from an ID on, with the number of IDs that are left up to `maxID`. -/
def allocateNextID (used : List Int) : Nat → Int → Option Int
  | 0, _ => none
  | left + 1, id => if id = reservedMainID ∨ id ∈ used then allocateNextID used left (id + 1) else some id

def ensureIDs (used : List Int) (nextID : Int) : List NetworksSpec → List NetworksSpec × Bool
  | [] => ([], false)
  | network :: networks =>
    if network.id ≠ none then
      let (networks, changed) := ensureIDs used nextID networks
      (network :: networks, changed)
    else if network.type = .main then
      ({ network with id := some reservedMainID } :: (ensureIDs (reservedMainID :: used) nextID networks).1, true)
    else
      match allocateNextID used (maxID + 1 - nextID).toNat nextID with
      | none => (network :: networks, false)
      | some id => ({ network with id := some id } :: (ensureIDs (id :: used) (id + 1) networks).1, true)

/-- The networks with their IDs, and whether one was assigned. -/
def ensureNetworkInterfaceIDs (networks : List NetworksSpec) : List NetworksSpec × Bool :=
  ensureIDs ((networks.filterMap (·.id)).filter (0 < ·)) startGenericID networks

/-- Main is not behind another network, and two networks have neither their type and name nor an ID in common. -/
def Apart (a b : NetworksSpec) : Prop :=
  b.type ≠ .main ∧ (a.type, a.name) ≠ (b.type, b.name) ∧ ∀ id, a.id = some id → b.id ≠ some id

def ValidID (network : NetworksSpec) (id : Int) : Prop :=
  1 ≤ id ∧ id ≤ maxID ∧ (id = 1 ↔ network.type = .main)

/-- Every network has an ID: its own one, that of Main, or the least one that is not used. -/
inductive Assigned : List Int → List NetworksSpec → List NetworksSpec → Prop
  | nil {used} : Assigned used [] []
  | kept {used network networks out id} (own : network.id = some id) (rest : Assigned used networks out) :
    Assigned used (network :: networks) (network :: out)
  | missing {used network networks out id} (absent : network.id = none) (valid : ValidID network id)
    (least : network.type ≠ .main → id ∉ used ∧ ∀ k, 2 ≤ k → k ∉ used → id ≤ k)
    (rest : Assigned (id :: used) networks out) :
    Assigned used (network :: networks) ({ network with id := some id } :: out)

variable {used : List Int} {nextID : Int} {networks out seen : List NetworksSpec}

theorem allocateNextID_spec (left : Nat) (start : 2 ≤ nextID) (low : ∀ k, 2 ≤ k → k ∉ used → nextID ≤ k) :
    match allocateNextID used left nextID with
    | some id => 2 ≤ id ∧ id < nextID + left ∧ id ∉ used ∧ ∀ k, 2 ≤ k → k ∉ used → id ≤ k
    | none => ∀ k, 2 ≤ k → k ∉ used → nextID + left ≤ k := by
  induction left generalizing nextID with
  | zero => simpa [allocateNextID] using low
  | succ left ih =>
    rw [allocateNextID, show nextID + (left + 1 : Nat) = nextID + 1 + left by omega]
    by_cases taken : nextID = reservedMainID ∨ nextID ∈ used
    · rw [if_pos taken]
      refine ih (by omega) fun k two unused => (low k two unused).lt_of_ne ?_
      rintro rfl
      exact taken.elim (by unfold reservedMainID; omega) unused
    · rw [if_neg taken]
      exact ⟨start, by omega, fun member => taken (.inr member), low⟩

/-- The networks without an ID get one each, as long as those used leave enough of them. -/
theorem ensureIDs_assigned (start : 2 ≤ nextID) (last : nextID ≤ maxID + 1) (low : ∀ k, 2 ≤ k → k ∉ used → nextID ≤ k)
    (room : (used.filter (· ≠ 1)).length + (networks.filter fun n => n.id = none ∧ n.type ≠ .main).length < maxID) :
    Assigned used networks (ensureIDs used nextID networks).1 := by
  induction networks generalizing used nextID with
  | nil => exact .nil
  | cons network _ ih =>
    rw [ensureIDs]
    cases own : network.id with
    | some =>
      exact .kept own (ih start last low (by simpa [own] using room))
    | none =>
      by_cases main : network.type = .main
      · rw [if_pos main]
        refine .missing own ⟨le_rfl, by decide, by simp [main, reservedMainID]⟩ (absurd main) (ih start last ?_ ?_)
        · exact fun k two unused => low k two fun member => unused (.tail _ member)
        · simpa [own, main, reservedMainID] using room
      · rw [filter_cons_of_pos (by simp [own, main]), length_cons] at room
        have spec := allocateNextID_spec (maxID + 1 - nextID).toNat start low
        rw [if_neg main]
        cases allocated : allocateNextID used (maxID + 1 - nextID).toNat nextID with
        | some =>
          rw [allocated] at spec
          obtain ⟨two, _, least⟩ := spec
          refine .missing own ⟨by omega, by omega, by omega, (absurd · main)⟩ (fun _ => least)
            (ih (by omega) (by omega) (fun k two unused => ?_) ?_)
          · rw [mem_cons, not_or] at unused
            exact (least.2 k two unused.2).lt_of_ne (Ne.symm unused.1)
          · rw [filter_cons_of_pos (by simp; omega), length_cons]
            omega
        | none =>
          -- The IDs that are used would be all of them.
          rw [allocated] at spec
          have all : Finset.Icc 2 maxID ⊆ (used.filter (· ≠ 1)).toFinset := by
            intro k member
            rw [Finset.mem_Icc] at member
            have taken : k ∈ used := by
              by_contra unused
              have := spec k member.1 unused
              omega
            simpa using ⟨taken, by omega⟩
          have := (Finset.card_le_card all).trans (toFinset_card_le _)
          rw [Int.card_Icc] at this
          omega

theorem ensureIDs_present (present : ∀ n ∈ networks, n.id ≠ none) :
    ensureIDs used nextID networks = (networks, false) := by
  induction networks with
  | nil => rfl
  | cons _ _ ih =>
    obtain ⟨own, rest⟩ := forall_mem_cons.mp present
    rw [ensureIDs, if_pos own, ih rest]

section

variable (assigned : Assigned used networks out) (valid : ∀ n ∈ networks, ∀ id ∈ n.id, ValidID n id)
include assigned valid

theorem Assigned.mem : ∀ b ∈ out, ∃ n ∈ networks, ∃ id, b = { n with id := some id } ∧ ValidID n id ∧
    (n.type ≠ .main → n.id = some id ∨ id ∉ used) := by
  induction assigned with
  | nil => nofun
  | @kept _ network _ _ id own rest ih =>
    obtain ⟨first, valid⟩ := forall_mem_cons.mp valid
    refine forall_mem_cons.mpr ⟨⟨network, .head _, id, own ▸ rfl, first id own, fun _ => .inl own⟩, fun b member => ?_⟩
    obtain ⟨n, stored, found⟩ := ih valid b member
    exact ⟨n, .tail _ stored, found⟩
  | missing _ chosen least _ ih =>
    refine forall_mem_cons.mpr ⟨⟨_, .head _, _, rfl, chosen, fun other => .inr (least other).1⟩, fun b member => ?_⟩
    obtain ⟨n, stored, id, same, valid, found⟩ := ih (forall_mem_cons.mp valid).2 b member
    exact ⟨n, .tail _ stored, id, same, valid,
      fun other => (found other).imp_right fun new taken => new (.tail _ taken)⟩

theorem Assigned.apart (apart : networks.Pairwise Apart) (explicit : ∀ n ∈ networks, ∀ id ∈ n.id, id ∈ used) :
    out.Pairwise Apart := by
  induction assigned with
  | nil => exact .nil
  | kept _ rest ih =>
    obtain ⟨-, valid⟩ := forall_mem_cons.mp valid
    obtain ⟨taken, explicit⟩ := forall_mem_cons.mp explicit
    obtain ⟨first, apart⟩ := pairwise_cons.mp apart
    refine pairwise_cons.mpr ⟨fun b member => ?_, ih valid apart explicit⟩
    obtain ⟨n, stored, id, rfl, -, found⟩ := rest.mem valid b member
    obtain ⟨other, name, ids⟩ := first n stored
    refine ⟨other, name, fun _ same again => ?_⟩
    obtain rfl := Option.some.inj again
    exact (found other).elim (ids id same) fun new => new (taken id same)
  | @missing _ network _ _ _ absent chosen least rest ih =>
    obtain ⟨-, valid⟩ := forall_mem_cons.mp valid
    obtain ⟨-, explicit⟩ := forall_mem_cons.mp explicit
    obtain ⟨first, apart⟩ := pairwise_cons.mp apart
    refine pairwise_cons.mpr ⟨fun b member => ?_,
      ih valid apart fun n stored id own => .tail _ (explicit n stored id own)⟩
    obtain ⟨n, stored, _, rfl, again, found⟩ := rest.mem valid b member
    obtain ⟨other, name, -⟩ := first n stored
    refine ⟨other, name, fun _ same both => ?_⟩
    obtain rfl := Option.some.inj (same.trans both.symm)
    by_cases main : network.type = .main
    · exact other (again.2.2.mp (chosen.2.2.mpr main))
    · exact (found other).elim (fun own => (least main).1 (explicit n stored _ own)) fun new => new (.head _)

end

theorem validateNetworksSpec_ok
    (each : ∀ n ∈ networks, validateNetworkName n = .ok () ∧ validateNetworkID n = .ok ())
    (before : ∀ a ∈ seen, ∀ b ∈ networks, Apart a b) (apart : networks.Pairwise Apart) :
    validateNetworksSpec seen networks = .ok () := by
  induction networks generalizing seen with
  | nil => rfl
  | cons network _ ih =>
    obtain ⟨⟨name, id⟩, each⟩ := forall_mem_cons.mp each
    obtain ⟨first, apart⟩ := pairwise_cons.mp apart
    have head a member := before a member network (.head _)
    have position : ¬(network.type = .main ∧ seen ≠ []) := by
      rintro ⟨main, some⟩
      obtain ⟨a, member⟩ := exists_mem_of_ne_nil _ some
      exact (head a member).1 main
    have unique : (network.type, network.name) ∉ seen.map fun n => (n.type, n.name) := by
      intro member
      obtain ⟨a, member, same⟩ := mem_map.mp member
      exact (head a member).2.1 same
    have ids : network.id.getD 0 = 0 ∨ network.id.getD 0 ∉ seen.map fun n => n.id.getD 0 := by
      refine or_iff_not_imp_left.mpr fun _ member => ?_
      obtain ⟨a, member, _⟩ := mem_map.mp member
      have differ := (head a member).2.2
      cases own : network.id <;> cases other : a.id <;> simp_all
    have rest := ih each (forall_mem_cons.mpr ⟨first, fun a member b later => before a member b (.tail _ later)⟩) apart
    rw [validateNetworksSpec, if_neg position, name, validateNetworkUniqueness, if_pos unique,
      validateNetworkIDUniqueness,
      if_pos ids, id]
    exact rest

/-- Every network gets its ID once, and the list is accepted, if there are IDs enough: those from 2 on that are
    explicit, and one for every network without one. -/
theorem interface_ids_assigned (networks : List NetworksSpec) (apart : networks.Pairwise Apart)
    (named : ∀ n ∈ networks, validateNetworkName n = .ok ()) (valid : ∀ n ∈ networks, ∀ id ∈ n.id, ValidID n id)
    (enough : ((networks.filterMap (·.id)).filter (· ≠ 1)).length +
      (networks.filter fun n => n.id = none ∧ n.type ≠ .main).length < maxID) :
    let out := (ensureNetworkInterfaceIDs networks).1
    Assigned (networks.filterMap (·.id)) networks out ∧ (out.map (·.id)).Nodup ∧
      (∀ n ∈ out, ∃ id, n.id = some id ∧ ValidID n id) ∧
      ensureNetworkInterfaceIDs out = (out, false) ∧ validateNetworksSpec [] out = .ok () := by
  intro out
  have positive : (networks.filterMap (·.id)).filter (0 < ·) = networks.filterMap (·.id) := by
    refine filter_eq_self.mpr fun id member => decide_eq_true ?_
    obtain ⟨n, member, own⟩ := mem_filterMap.mp member
    exact (valid n member id own).1
  have assigned : Assigned (networks.filterMap (·.id)) networks out := by
    unfold out ensureNetworkInterfaceIDs
    rw [positive]
    exact ensureIDs_assigned (by decide) (by decide) (fun _ two _ => two) enough
  have distinct := assigned.apart valid apart fun n member id own => mem_filterMap.mpr ⟨n, member, own⟩
  have ids : ∀ n ∈ out, ∃ id, n.id = some id ∧ ValidID n id := by
    intro b member
    obtain ⟨_, _, id, rfl, valid, -⟩ := assigned.mem valid b member
    exact ⟨id, rfl, valid⟩
  refine ⟨assigned, pairwise_map.mpr (distinct.imp_of_mem fun member _ apart => ?_), ids,
    ensureIDs_present fun n member => ?_, validateNetworksSpec_ok (fun b member => ⟨?_, ?_⟩) nofun distinct⟩
  · obtain ⟨id, own, -⟩ := ids _ member
    exact fun same => apart.2.2 id own (same ▸ own)
  · obtain ⟨_, own, -⟩ := ids n member
    exact own ▸ nofun
  · obtain ⟨n, stored, _, rfl, -⟩ := assigned.mem valid b member
    exact named n stored
  · obtain ⟨_, own, _, _, main⟩ := ids b member
    rw [validateNetworkID, own]
    exact (if_neg (by omega)).trans (if_neg fun ⟨isMain, other⟩ => other (main.mpr isMain))

/-- The first of two networks without an ID gets the least one the second does not have. -/
theorem interface_ids_assigned_three :
    let networks := [⟨none, .main, "", "", ""⟩, ⟨none, .network, "office", "", ""⟩, ⟨some 2, .network, "lab", "", ""⟩]
    (ensureNetworkInterfaceIDs networks).1.map (·.id) = [some 1, some 3, some 2] ∧
      validateNetworksSpec [] (ensureNetworkInterfaceIDs networks).1 = .ok () := by
  intro networks
  refine ⟨by decide +kernel, (interface_ids_assigned networks ?_ ?_ ?_ ?_).2.2.2.2⟩
  · simp [networks, Apart]
  · decide +kernel
  · simp [networks, ValidID, maxID]
  · decide +kernel

/-- A network without a name gets an ID and is refused. -/
theorem interface_without_name :
    let networks : List NetworksSpec := [⟨none, .network, "", "", ""⟩]
    networks.Pairwise Apart ∧ (ensureNetworkInterfaceIDs networks).1.map (·.id) = [some 2] ∧
      (validateNetworksSpec [] (ensureNetworkInterfaceIDs networks).1).isOk = false :=
  ⟨pairwise_singleton .., by decide +kernel, by decide +kernel⟩

end Virtualization.Machine.Builder
