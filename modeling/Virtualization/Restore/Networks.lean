import Mathlib.Data.List.Basic

namespace Virtualization.Restore

open List

inductive NetworkType where
  | main | network | clusterNetwork
deriving DecidableEq

structure NetworksSpec where
  type : NetworkType
  (name virtualMachineMACAddressName : String)
deriving DecidableEq

structure NetworksStatus where
  type : NetworkType
  (name mac virtualMachineMACAddressName : String)
deriving DecidableEq

structure VMMAC where
  (name address : String)
deriving DecidableEq

/-- What the snapshot stores; `none` where an address object is not found and the snapshot is not made. -/
def setVirtualMachineMACAddresses (fetch : String → Option VMMAC) : List NetworksStatus → Option (List VMMAC)
  | [] => some []
  | ns :: rest =>
    if ns.type = .main then setVirtualMachineMACAddresses fetch rest
    else
      match fetch ns.virtualMachineMACAddressName, setVirtualMachineMACAddresses fetch rest with
      | some vmmac, some vmmacs => some (vmmac :: vmmacs)
      | _, _ => none

def restoreMACAddressOrder (networks : List NetworksStatus) : List String :=
  networks.map fun ns => if ns.type = .main then "" else ns.mac

/-- The last address object with the address, as in the map of the source. -/
def macAddressNamesByAddress (vmmacs : List VMMAC) (address : String) : String :=
  ((vmmacs.reverse.find? (·.address = address)).map VMMAC.name).getD ""

/-- The networks that `Prepare` gives the VM. `none` is the panic on an index beyond the recorded order. -/
def prepareNetworks (restore : Bool) (vmmacs : List VMMAC) (macAddressOrder : List String)
    (networks : List NetworksSpec) : Option (List NetworksSpec) :=
  if vmmacs ≠ [] ∧ restore then
    if (networks.drop macAddressOrder.length).any (·.type ≠ .main) then none
    else some (networks.mapIdx fun i ns =>
      if ns.type = .main then ns
      else { ns with
        virtualMachineMACAddressName := macAddressNamesByAddress vmmacs (macAddressOrder.getD i "") })
  else some (networks.map fun ns => { ns with virtualMachineMACAddressName := "" })

structure KeepsMACAddresses (vmmacs : List VMMAC) (status : List NetworksStatus) (restored : List NetworksSpec) :
    Prop where
  same : ∀ ns ∈ restored, ns.type ≠ .main → ∀ before ∈ status, before.type = ns.type → before.name = ns.name →
    before.mac ≠ "" → ∃ vmmac ∈ vmmacs, vmmac.name = ns.virtualMachineMACAddressName ∧ vmmac.address = before.mac
  unrecorded : ∀ ns ∈ restored, ns.type ≠ .main →
    (∀ before ∈ status, before.type = ns.type → before.name = ns.name → before.mac = "") →
    ns.virtualMachineMACAddressName = ""
  once : restored.Pairwise fun ns other => ns.type ≠ .main → other.type ≠ .main →
    ns.virtualMachineMACAddressName ≠ "" → ns.virtualMachineMACAddressName ≠ other.virtualMachineMACAddressName

section Positions

variable (fetch : String → Option VMMAC) (status : List NetworksStatus) (spec : List NetworksSpec)

/-- The address of an additional network at a position of the status. -/
def addressAt (i : Nat) : String :=
  match status[i]? with
  | some ns => if ns.type = .main then "" else ns.mac
  | none => ""

/-- An address object that the status names has the address. -/
def Held (address : String) : Prop :=
  ∃ ns ∈ status, ns.type ≠ .main ∧ ∃ vmmac ∈ fetch ns.virtualMachineMACAddressName, vmmac.address = address

instance (address : String) : Decidable (Held fetch status address) :=
  inferInstanceAs (Decidable (∃ ns ∈ status, _))

/-- The status has at the position of each additional network of the spec what belongs to this network. -/
structure InStep : Prop where
  placed : ∀ (i : Nat) (ns : NetworksSpec), spec[i]? = some ns → ns.type ≠ .main → i < status.length
  same : ∀ (i : Nat) (ns : NetworksSpec), spec[i]? = some ns → ns.type ≠ .main →
    ∀ before ∈ status, before.type = ns.type → before.name = ns.name → before.mac ≠ "" →
      addressAt status i = before.mac ∧ Held fetch status before.mac
  unrecorded : ∀ (i : Nat) (ns : NetworksSpec), spec[i]? = some ns → ns.type ≠ .main →
    (∀ before ∈ status, before.type = ns.type → before.name = ns.name → before.mac = "") →
      ¬Held fetch status (addressAt status i)
  once : ∀ (i j : Nat) (ns other : NetworksSpec), spec[i]? = some ns → spec[j]? = some other → i < j →
    ns.type ≠ .main → other.type ≠ .main → addressAt status i = addressAt status j →
      ¬Held fetch status (addressAt status i)

end Positions

section Prepare

variable {fetch : String → Option VMMAC} {status : List NetworksStatus} {spec : List NetworksSpec} {vmmacs : List VMMAC}

theorem macAddressNamesByAddress_cases (vmmacs : List VMMAC) (address : String) :
    (∃ found ∈ vmmacs, found.name = macAddressNamesByAddress vmmacs address ∧ found.address = address) ∨
      macAddressNamesByAddress vmmacs address = "" ∧ ∀ vmmac ∈ vmmacs, vmmac.address ≠ address := by
  unfold macAddressNamesByAddress
  cases found : vmmacs.reverse.find? (·.address = address) with
  | none =>
    have absent := find?_eq_none.mp found
    simp only [mem_reverse, decide_eq_true_eq] at absent
    exact .inr ⟨rfl, absent⟩
  | some vmmac =>
    have same := find?_some found
    exact .inl ⟨vmmac, mem_reverse.mp (mem_of_find?_eq_some found), rfl, of_decide_eq_true same⟩

section

variable (stored : setVirtualMachineMACAddresses fetch status = some vmmacs)
include stored

theorem stored_spec : (∀ ns ∈ status, ns.type ≠ .main →
      ∃ vmmac ∈ vmmacs, fetch ns.virtualMachineMACAddressName = some vmmac) ∧
    ∀ vmmac ∈ vmmacs, ∃ ns ∈ status, ns.type ≠ .main ∧ fetch ns.virtualMachineMACAddressName = some vmmac := by
  induction status generalizing vmmacs with
  | nil => grind [setVirtualMachineMACAddresses]
  | cons =>
    unfold setVirtualMachineMACAddresses at stored
    grind

theorem held_iff (address : String) :
    Held fetch status address ↔ ∃ vmmac ∈ vmmacs, vmmac.address = address := by
  obtain ⟨held, named⟩ := stored_spec stored
  constructor
  · rintro ⟨ns, member, additional, vmmac, found, same⟩
    obtain ⟨other, isOther, again⟩ := held ns member additional
    obtain rfl := Option.some.inj (again.symm.trans found)
    exact ⟨other, isOther, same⟩
  · rintro ⟨vmmac, member, same⟩
    obtain ⟨ns, inStatus, additional, found⟩ := named vmmac member
    exact ⟨ns, inStatus, additional, vmmac, found, same⟩

theorem stored_eq_nil : vmmacs = [] ↔ ∀ ns ∈ status, ns.type = .main := by
  obtain ⟨held, named⟩ := stored_spec stored
  constructor
  · rintro rfl ns member
    refine Decidable.byContradiction fun additional => ?_
    obtain ⟨_, absent, -⟩ := held ns member additional
    cases absent
  · intro main
    refine eq_nil_iff_forall_not_mem.mpr fun vmmac member => ?_
    obtain ⟨ns, inStatus, additional, -⟩ := named vmmac member
    exact additional (main ns inStatus)

variable (named : ∀ name vmmac, fetch name = some vmmac → vmmac.name = name ∧ name ≠ "")
include named

theorem stored_named {vmmac : VMMAC} (member : vmmac ∈ vmmacs) :
    fetch vmmac.name = some vmmac ∧ vmmac.name ≠ "" := by
  obtain ⟨ns, -, -, found⟩ := (stored_spec stored).2 vmmac member
  obtain ⟨name, nonempty⟩ := named _ _ found
  rw [name]
  exact ⟨found, nonempty⟩

theorem name_eq_empty (address : String) :
    macAddressNamesByAddress vmmacs address = "" ↔ ¬Held fetch status address := by
  rw [held_iff stored]
  rcases macAddressNamesByAddress_cases vmmacs address with ⟨vmmac, member, name, same⟩ | ⟨empty, absent⟩
  · refine iff_of_false (fun empty => ?_) (not_not.mpr ⟨vmmac, member, same⟩)
    exact (stored_named stored named member).2 (name.trans empty)
  · exact iff_of_true empty fun ⟨vmmac, member, same⟩ => absent vmmac member same

/-- The name of an address object gives its address away. -/
theorem address_of_name {vmmac : VMMAC} (member : vmmac ∈ vmmacs) {address : String}
    (name : vmmac.name = macAddressNamesByAddress vmmacs address) : vmmac.address = address := by
  obtain ⟨found, nonempty⟩ := stored_named stored named member
  rcases macAddressNamesByAddress_cases vmmacs address with ⟨other, isOther, otherName, same⟩ | ⟨empty, -⟩
  · have again := (stored_named stored named isOther).1
    rw [otherName, ← name, found] at again
    rw [Option.some.inj again, same]
  · exact absurd (name.trans empty) nonempty

theorem named_iff (address mac : String) :
    (∃ vmmac ∈ vmmacs, vmmac.name = macAddressNamesByAddress vmmacs address ∧ vmmac.address = mac) ↔
      address = mac ∧ Held fetch status mac := by
  rw [held_iff stored]
  constructor
  · rintro ⟨vmmac, member, name, rfl⟩
    exact ⟨(address_of_name stored named member name).symm, vmmac, member, rfl⟩
  · rintro ⟨rfl, vmmac, member, same⟩
    rcases macAddressNamesByAddress_cases vmmacs address with found | ⟨-, absent⟩
    · exact found
    · exact absurd same (absent vmmac member)

theorem same_name_iff (address other : String) :
    (macAddressNamesByAddress vmmacs address ≠ "" →
      macAddressNamesByAddress vmmacs address ≠ macAddressNamesByAddress vmmacs other) ↔
    (address = other → ¬Held fetch status address) := by
  rw [ne_eq, name_eq_empty stored named, not_not]
  constructor
  · rintro differ rfl held
    exact differ held rfl
  · intro unheld held same
    obtain ⟨vmmac, member, name, isAddress⟩ := (named_iff stored named address address).mpr ⟨rfl, held⟩
    exact unheld (isAddress.symm.trans (address_of_name stored named member (name.trans same))) held

end

theorem order_getD (status : List NetworksStatus) (i : Nat) :
    (restoreMACAddressOrder status).getD i "" = addressAt status i := by
  simp only [restoreMACAddressOrder, getD_eq_getElem?_getD, getElem?_map, addressAt]
  cases status[i]? <;> rfl

/-- The panic is the index of an additional network beyond the status. -/
theorem beyond_iff : (spec.drop (restoreMACAddressOrder status).length).any (·.type ≠ .main) = true ↔
    ¬∀ (i : Nat) (ns : NetworksSpec), spec[i]? = some ns → ns.type ≠ .main → i < status.length := by
  simp only [any_eq_true, mem_iff_getElem?, getElem?_drop, restoreMACAddressOrder, length_map, decide_eq_true_eq]
  constructor
  · rintro ⟨ns, ⟨i, here⟩, additional⟩ placed
    exact absurd (placed _ ns here additional) (Nat.not_lt.mpr (Nat.le_add_right ..))
  · intro unplaced
    simp only [not_forall, Nat.not_lt] at unplaced
    obtain ⟨i, ns, here, additional, beyond⟩ := unplaced
    refine ⟨ns, ⟨i - status.length, ?_⟩, additional⟩
    rwa [Nat.add_sub_cancel' beyond]

theorem forall_mem_mapIdx {α β : Type} {f : Nat → α → β} {l : List α} {p : β → Prop} :
    (∀ b ∈ l.mapIdx f, p b) ↔ ∀ i a, l[i]? = some a → p (f i a) := by
  simp only [mem_iff_getElem?, getElem?_mapIdx, Option.map_eq_some_iff]
  grind

theorem pairwise_mapIdx {α β : Type} {f : Nat → α → β} {l : List α} {r : β → β → Prop} :
    (l.mapIdx f).Pairwise r ↔ ∀ i j a b, l[i]? = some a → l[j]? = some b → i < j → r (f i a) (f j b) := by
  simp only [pairwise_iff_getElem, getElem_mapIdx, length_mapIdx]
  grind

def given (vmmacs : List VMMAC) (status : List NetworksStatus) (i : Nat) (ns : NetworksSpec) : NetworksSpec :=
  if ns.type = .main then ns
  else { ns with virtualMachineMACAddressName := macAddressNamesByAddress vmmacs (addressAt status i) }

@[simp] theorem given_type (i : Nat) (ns : NetworksSpec) : (given vmmacs status i ns).type = ns.type := by
  unfold given
  split <;> rfl

@[simp] theorem given_name (i : Nat) (ns : NetworksSpec) : (given vmmacs status i ns).name = ns.name := by
  unfold given
  split <;> rfl

theorem given_address {ns : NetworksSpec} (additional : ns.type ≠ .main) (i : Nat) :
    (given vmmacs status i ns).virtualMachineMACAddressName =
      macAddressNamesByAddress vmmacs (addressAt status i) := by
  rw [given, if_neg additional]

theorem keeps_given (named : ∀ name vmmac, fetch name = some vmmac → vmmac.name = name ∧ name ≠ "")
    (stored : setVirtualMachineMACAddresses fetch status = some vmmacs)
    (placed : ∀ (i : Nat) (ns : NetworksSpec), spec[i]? = some ns → ns.type ≠ .main → i < status.length) :
    KeepsMACAddresses vmmacs status (spec.mapIdx (given vmmacs status)) ↔ InStep fetch status spec := by
  constructor
  · rintro ⟨same, unrecorded, once⟩
    rw [forall_mem_mapIdx] at same unrecorded
    rw [pairwise_mapIdx] at once
    simp only [given_type, given_name] at same unrecorded once
    refine ⟨placed, fun i ns here additional before member type name recorded => ?_,
      fun i ns here additional none => ?_, fun i j ns other here there below additional otherAdditional => ?_⟩
    · have found := same i ns here additional before member type name recorded
      rwa [given_address additional, named_iff stored named] at found
    · have cleared := unrecorded i ns here additional none
      rwa [given_address additional, name_eq_empty stored named] at cleared
    · have differ := once i j ns other here there below additional otherAdditional
      rwa [given_address additional, given_address otherAdditional, same_name_iff stored named] at differ
  · rintro ⟨-, same, unrecorded, once⟩
    refine ⟨forall_mem_mapIdx.mpr ?_, forall_mem_mapIdx.mpr ?_, pairwise_mapIdx.mpr ?_⟩
    all_goals simp only [given_type, given_name]
    · intro i ns here additional before member type name recorded
      rw [given_address additional, named_iff stored named]
      exact same i ns here additional before member type name recorded
    · intro i ns here additional none
      rw [given_address additional, name_eq_empty stored named]
      exact unrecorded i ns here additional none
    · intro i j ns other here there below additional otherAdditional
      rw [given_address additional, given_address otherAdditional, same_name_iff stored named]
      exact once i j ns other here there below additional otherAdditional

/-- A restore keeps the MAC address of every additional network exactly where the status is in step with the spec, or
    has no additional network. -/
theorem restore_keeps_mac_addresses (named : ∀ name vmmac, fetch name = some vmmac → vmmac.name = name ∧ name ≠ "")
    (stored : setVirtualMachineMACAddresses fetch status = some vmmacs) :
    (∃ restored, prepareNetworks true vmmacs (restoreMACAddressOrder status) spec = some restored ∧
      KeepsMACAddresses vmmacs status restored) ↔ (∀ ns ∈ status, ns.type = .main) ∨ InStep fetch status spec := by
  unfold prepareNetworks
  by_cases empty : vmmacs = []
  · have main := (stored_eq_nil stored).mp empty
    rw [if_neg fun both => both.1 empty]
    refine iff_of_true ⟨_, rfl, ?_, ?_, pairwise_map.mpr (pairwise_of_forall (by simp))⟩ (.inl main)
    · intro ns _ additional before member type
      exact absurd (type.symm.trans (main before member)) additional
    · intro ns member _ _
      obtain ⟨_, -, rfl⟩ := mem_map.mp member
      rfl
  rw [or_iff_right fun main => empty ((stored_eq_nil stored).mpr main), if_pos ⟨empty, rfl⟩]
  by_cases placed : ∀ (i : Nat) (ns : NetworksSpec), spec[i]? = some ns → ns.type ≠ .main → i < status.length
  · rw [if_neg (beyond_iff.not.mpr (not_not.mpr placed))]
    simp only [order_getD, Option.some.injEq, exists_eq_left']
    exact keeps_given named stored placed
  · rw [if_pos (beyond_iff.mpr placed)]
    exact iff_of_false nofun fun inStep => placed inStep.placed

end Prepare

def macOf (name : String) : Option VMMAC :=
  [⟨"mac-a", "02:0a"⟩, ⟨"mac-b", "02:0b"⟩].find? (·.name = name)

def statusOf (name : String) : NetworksStatus := ⟨.network, name, "02:0" ++ name, "mac-" ++ name⟩

theorem restore_keeps_mac_addresses_both : ∃ restored, prepareNetworks true [⟨"mac-a", "02:0a"⟩, ⟨"mac-b", "02:0b"⟩]
        (restoreMACAddressOrder [statusOf "a", statusOf "b"])
        [⟨.network, "a", ""⟩, ⟨.network, "b", ""⟩] = some restored ∧
      KeepsMACAddresses [⟨"mac-a", "02:0a"⟩, ⟨"mac-b", "02:0b"⟩] [statusOf "a", statusOf "b"] restored := by
  refine (@restore_keeps_mac_addresses macOf _ _ _ ?_ (by decide)).mpr (.inr ⟨?_, ?_, ?_, ?_⟩)
  · intro name vmmac found
    have nonempty : ∀ vmmac ∈ [⟨"mac-a", "02:0a"⟩, ⟨"mac-b", "02:0b"⟩], VMMAC.name vmmac ≠ "" := by decide
    obtain rfl : vmmac.name = name := by simpa using find?_some found
    exact ⟨rfl, nonempty vmmac (mem_of_find?_eq_some found)⟩
  · rintro (_ | _ | i) ns ⟨⟩ - <;> decide
  · rintro (_ | _ | i) ns ⟨⟩ - <;> decide
  · rintro (_ | _ | i) ns ⟨⟩ - <;> decide
  · rintro (_ | _ | i) (_ | _ | j) ns other ⟨⟩ ⟨⟩ below - - <;> revert below <;> decide

/-- A network that waits for a restart is in the spec only, or the order differs. -/
theorem restore_mistakes_mac_addresses :
    prepareNetworks true [⟨"mac-a", "02:0a"⟩] (restoreMACAddressOrder [statusOf "a"])
      [⟨.network, "a", ""⟩, ⟨.network, "b", ""⟩] = none ∧
    prepareNetworks true [⟨"mac-b", "02:0b"⟩, ⟨"mac-a", "02:0a"⟩] (restoreMACAddressOrder [statusOf "b", statusOf "a"])
      [⟨.network, "a", ""⟩, ⟨.network, "b", ""⟩] = some [⟨.network, "a", "mac-b"⟩, ⟨.network, "b", "mac-a"⟩] := by
  decide

end Virtualization.Restore
