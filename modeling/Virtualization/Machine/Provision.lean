import Virtualization.Machine.Spec

/-! The interfaces of the additional networks, as the specification of the pod has them and as the readiness of the
machine expects them. -/

namespace Virtualization.Machine.Provision

open Builder List

/-- An IPAddress of the SDN module. It is labelled with the UID of the machine it was made for. -/
structure SDNIPAddress where
  (name virtualMachineUID : String)
  networkRef : NetworksType × String
  allocated : Bool

structure NetworksStatus where
  type : NetworksType
  (name mac : String)

structure VirtualMachine where
  (name uid : String)
  networks : List NetworksSpec
  statusNetworks : List NetworksStatus

/-- What is read in the namespace of the machine. The requests are served: an error of one of them is the error of both
    sides. -/
structure Namespace where
  hasIPAM : NetworksType × String → Bool
  ipAddresses : List SDNIPAddress
  vms : List VirtualMachine

structure MacAddressPool where
  reservedByName : String → Option String
  available : List String

def newMacAddressPool (vm : VirtualMachine) (vmmacs : List String) : MacAddressPool :=
  let reserved := vm.statusNetworks.filter fun n => n.type ≠ .main ∧ n.mac ≠ ""
  -- A later entry of the status overwrites an earlier one of its name.
  { reservedByName := fun name => (reserved.reverse.find? (·.name = name)).map (·.mac)
    available := vmmacs.filter fun mac => mac ≠ "" ∧ mac ∉ reserved.map (·.mac) }

def MacAddressPool.assign (p : MacAddressPool) (networkName : String) : String × MacAddressPool :=
  match p.reservedByName networkName, p.available with
  | some mac, _ => (mac, p)
  | none, mac :: available => (mac, { p with available })
  | none, [] => ("", p)

def deckhouseUID : Nat := 64535

def createMainInterfaceSpec (net : NetworksSpec) : InterfaceSpec :=
  ⟨net.id.getD 0, net.type, net.name, "default", "", deckhouseUID, deckhouseUID, "", []⟩

section

-- the first eight digits of the MD5 hash
variable (hash : String → String)

def generateInterfaceName (mac : String) : NetworksType → String
  | .network => "veth_n" ++ hash mac
  | .clusterNetwork => "veth_cn" ++ hash mac
  | .main => ""

def createAdditionalInterfaceSpec (net : NetworksSpec) (mac : String) : InterfaceSpec :=
  ⟨net.id.getD 0, net.type, net.name, generateInterfaceName hash mac net.type, mac, deckhouseUID, deckhouseUID, "",
    if net.ipAddressName = "" then [] else [net.ipAddressName]⟩

def createSpecs (macPool : MacAddressPool) : List NetworksSpec → List InterfaceSpec
  | [] => []
  | net :: nets =>
    if net.type = .main then createMainInterfaceSpec net :: createSpecs macPool nets
    else
      let (mac, macPool) := macPool.assign net.name
      if mac = "" then createSpecs macPool nets
      else createAdditionalInterfaceSpec hash net mac :: createSpecs macPool nets

def createNetworkSpec (vm : VirtualMachine) (vmmacs : List String) : List InterfaceSpec :=
  if vm.networks = [] then [createMainInterfaceSpec ⟨some 1, .main, "", "", ""⟩]
  else createSpecs hash (newMacAddressPool vm vmmacs) vm.networks

end

variable (c : Namespace) (vm : VirtualMachine)

def findSDNIPAddress (network : NetworksType × String) : String :=
  ((c.ipAddresses.find? fun ip => ip.virtualMachineUID = vm.uid ∧ ip.networkRef = network).map (·.name)).getD ""

def isAllocated (name : String) : Bool := (c.ipAddresses.find? (·.name = name)).any (·.allocated)

def sdnIPAddressExists (name : String) (network : NetworksType × String) : Bool :=
  (c.ipAddresses.find? (·.name = name)).any (·.networkRef = network)

def isIPAddressNameUsedByAnotherVM (ipAddressName : String) (network : NetworksType × String) : String :=
  ((c.vms.find? fun other => other.name ≠ vm.name ∧ other.networks.any fun net =>
    net.ipAddressName = ipAddressName ∧ (net.type, net.name) = network).map (·.name)).getD ""

def willProvisionInterface (netSpec : NetworksSpec) : Bool :=
  let network := (netSpec.type, netSpec.name)
  if netSpec.type = .main then false
  else if !c.hasIPAM network then netSpec.ipAddressName = ""
  else if netSpec.ipAddressName ≠ "" then
    sdnIPAddressExists c netSpec.ipAddressName network && isAllocated c netSpec.ipAddressName &&
      isIPAddressNameUsedByAnotherVM c vm netSpec.ipAddressName network = ""
  else findSDNIPAddress c vm network ≠ "" && isAllocated c (findSDNIPAddress c vm network)

/-- `none` is an interface that is skipped. -/
def enrichInterface (spec : InterfaceSpec) : Option InterfaceSpec :=
  let network := (spec.type, spec.name)
  if spec.type = .main then some spec
  else if !c.hasIPAM network then if spec.ipAddressNames ≠ [] then none else some { spec with ipAddressNames := [] }
  else
    match spec.ipAddressNames with
    | name :: _ =>
      if !sdnIPAddressExists c name network || !isAllocated c name ||
          isIPAddressNameUsedByAnotherVM c vm name network ≠ ""
      then none
      else some { spec with ipAssignmentMode := "DHCP" }
    | [] =>
      let name := findSDNIPAddress c vm network
      if name = "" || !isAllocated c name then none
      else some { spec with ipAssignmentMode := "DHCP", ipAddressNames := [name] }

def enrichWithIPAM (specs : List InterfaceSpec) : List InterfaceSpec := specs.filterMap (enrichInterface c vm)

/-- The additional networks of a list of interfaces, by their IDs, types and names. -/
def additional (specs : List InterfaceSpec) : List (Int × NetworksType × String) :=
  (specs.filter (·.type ≠ .main)).map fun spec => (spec.id, spec.type, spec.name)

def provisioned (nets : List NetworksSpec) : List (Int × NetworksType × String) :=
  (nets.filter (willProvisionInterface c vm)).map fun net => (net.id.getD 0, net.type, net.name)

/-- The networks that take an address of the pool. -/
def MacAddressPool.takers (macPool : MacAddressPool) (nets : List NetworksSpec) : List NetworksSpec :=
  nets.filter fun net => net.type ≠ .main ∧ macPool.reservedByName net.name = none

/-- A network gets no interface because of its IP address. -/
def Refused (net : NetworksSpec) : Prop :=
  let network := (net.type, net.name)
  if c.hasIPAM network then
    if net.ipAddressName = "" then
      findSDNIPAddress c vm network = "" ∨ isAllocated c (findSDNIPAddress c vm network) = false
    else
      sdnIPAddressExists c net.ipAddressName network = false ∨ isAllocated c net.ipAddressName = false ∨
        isIPAddressNameUsedByAnotherVM c vm net.ipAddressName network ≠ ""
  else net.ipAddressName ≠ ""
deriving Decidable

/-- The additional networks without a MAC address in the status of the machine. -/
def unrecorded : List NetworksSpec :=
  vm.networks.filter fun net => net.type ≠ .main ∧
    ∀ n ∈ vm.statusNetworks, n.type ≠ .main → n.mac ≠ "" → n.name ≠ net.name

/-- The MAC addresses that are not in the status of the machine. -/
def freeMacs (vmmacs : List String) : List String :=
  vmmacs.filter fun mac => mac ≠ "" ∧ ∀ n ∈ vm.statusNetworks, n.type ≠ .main → n.mac ≠ mac

def MacAddressPool.Filled (macPool : MacAddressPool) : Prop :=
  (∀ name, ∀ mac ∈ macPool.reservedByName name, mac ≠ "") ∧ ∀ mac ∈ macPool.available, mac ≠ ""

variable {c vm} {hash : String → String} {net : NetworksSpec}

theorem additional_enriched (mac : String) (other : net.type ≠ .main) :
    additional (enrichInterface c vm (createAdditionalInterfaceSpec hash net mac)).toList = provisioned c vm [net] := by
  unfold enrichInterface createAdditionalInterfaceSpec provisioned willProvisionInterface additional
  by_cases static : net.ipAddressName = "" <;> cases pool : c.hasIPAM (net.type, net.name) <;>
    simp [other, static, pool]
  all_goals split <;> simp_all [or_iff_not_imp_left]

theorem additional_cons (spec : InterfaceSpec) (specs : List InterfaceSpec) :
    additional (enrichWithIPAM c vm (spec :: specs)) =
      additional (enrichInterface c vm spec).toList ++ additional (enrichWithIPAM c vm specs) := by
  unfold enrichWithIPAM additional
  rw [← map_append, ← filter_append, filterMap_cons]
  cases enrichInterface c vm spec <;> rfl

theorem provisioned_cons (net : NetworksSpec) (nets : List NetworksSpec) :
    provisioned c vm (net :: nets) = provisioned c vm [net] ++ provisioned c vm nets := by
  unfold provisioned
  rw [← map_append, ← filter_append]
  rfl

theorem newMacAddressPool_filled (vm : VirtualMachine) (vmmacs : List String) :
    (newMacAddressPool vm vmmacs).Filled := by
  refine ⟨fun _ mac reserved => ?_, fun _ member => ?_⟩
  · obtain ⟨_, found, rfl⟩ := Option.map_eq_some_iff.mp reserved
    have member := mem_of_find?_eq_some found
    simp_all
  · simp_all [newMacAddressPool]

variable {macPool : MacAddressPool} {nets : List NetworksSpec}

theorem provisioned_main (main : net.type = .main) : provisioned c vm [net] = [] := by
  simp [provisioned, willProvisionInterface, main]

theorem provisioned_other (other : net.type ≠ .main) : provisioned c vm [net] = [] ↔ Refused c vm net := by
  unfold provisioned willProvisionInterface Refused
  cases pool : c.hasIPAM (net.type, net.name) <;> by_cases static : net.ipAddressName = "" <;>
    simp [other, pool, static, or_iff_not_imp_left]

theorem additional_sublist (macPool : MacAddressPool) (nets : List NetworksSpec) :
    additional (enrichWithIPAM c vm (createSpecs hash macPool nets)) <+ provisioned c vm nets := by
  induction nets generalizing macPool with
  | nil => exact .slnil
  | cons net _ ih =>
    rw [createSpecs, provisioned_cons]
    split
    · rename_i main
      rw [additional_cons, provisioned_main main]
      simpa [additional, enrichInterface, createMainInterfaceSpec, main] using ih macPool
    · rename_i other
      dsimp only
      split
      · exact (ih _).trans (sublist_append_right ..)
      · rw [additional_cons, additional_enriched _ other]
        exact (ih _).append_left _

/-- Of what is appended in front of a list nothing is in a sublist of the list alone. -/
theorem eq_append_iff_of_sublist {α : Type} {made front rest : List α} (sub : made <+ rest) :
    made = front ++ rest ↔ front = [] ∧ made = rest := by
  constructor
  · intro equal
    have shorter := sub.length_le
    have none : front = [] := by
      rw [equal, length_append] at shorter
      exact length_eq_zero_iff.mp (by omega)
    exact ⟨none, by rw [equal, none, nil_append]⟩
  · rintro ⟨none, equal⟩
    rw [none, nil_append, equal]

/-- The networks beyond the addresses of the pool are left out, which makes no difference for those that are refused. -/
theorem additional_createSpecs (filled : macPool.Filled) :
    additional (enrichWithIPAM c vm (createSpecs hash macPool nets)) = provisioned c vm nets ↔
      ∀ net ∈ (macPool.takers nets).drop macPool.available.length, Refused c vm net := by
  induction nets generalizing macPool with
  | nil => simp [createSpecs, enrichWithIPAM, additional, provisioned, MacAddressPool.takers]
  | cons net nets ih =>
    rw [createSpecs, provisioned_cons]
    by_cases main : net.type = .main
    · have untaken : macPool.takers (net :: nets) = macPool.takers nets := by simp [MacAddressPool.takers, main]
      rw [if_pos main, additional_cons, provisioned_main main, untaken, ← ih filled]
      simp [additional, enrichInterface, createMainInterfaceSpec, main]
    rw [if_neg main]
    cases reserved : macPool.reservedByName net.name with
    | some mac =>
      have assigned : macPool.assign net.name = (mac, macPool) := by simp [MacAddressPool.assign, reserved]
      have untaken : macPool.takers (net :: nets) = macPool.takers nets := by simp [MacAddressPool.takers, reserved]
      rw [assigned, untaken, ← ih filled]
      dsimp only
      rw [if_neg (filled.1 _ mac reserved), additional_cons, additional_enriched mac main, append_right_inj]
    | none =>
      have taken : macPool.takers (net :: nets) = net :: macPool.takers nets := by
        simp [MacAddressPool.takers, reserved, main]
      cases available : macPool.available with
      | cons mac rest =>
        have assigned : macPool.assign net.name = (mac, { macPool with available := rest }) := by
          simp [MacAddressPool.assign, reserved, available]
        obtain ⟨reservedFilled, filled⟩ := filled
        rw [available, forall_mem_cons] at filled
        have same := @ih { macPool with available := rest } ⟨reservedFilled, filled.2⟩
        rw [assigned, taken, length_cons, drop_succ_cons]
        dsimp only
        rw [if_neg filled.1, additional_cons, additional_enriched mac main, append_right_inj]
        exact same
      | nil =>
        have assigned : macPool.assign net.name = ("", macPool) := by simp [MacAddressPool.assign, reserved, available]
        have same := ih filled
        rw [available, length_nil, drop_zero] at same
        rw [assigned, taken, length_nil, drop_zero, forall_mem_cons, ← same, ← provisioned_other main]
        dsimp only
        rw [if_pos rfl]
        -- what is left out can only be missing
        exact eq_append_iff_of_sublist (additional_sublist macPool nets)

theorem takers_newMacAddressPool (vm : VirtualMachine) (vmmacs : List String) :
    (newMacAddressPool vm vmmacs).takers vm.networks = unrecorded vm := by
  unfold MacAddressPool.takers unrecorded newMacAddressPool
  refine filter_congr fun net _ => ?_
  simp

theorem available_newMacAddressPool (vm : VirtualMachine) (vmmacs : List String) :
    (newMacAddressPool vm vmmacs).available = freeMacs vm vmmacs := by
  unfold freeMacs newMacAddressPool
  refine filter_congr fun mac _ => decide_eq_decide.mpr (and_congr_right fun present => ?_)
  simp only [mem_map, mem_filter, decide_eq_true_eq, not_exists, not_and, and_imp]
  exact forall_congr' fun n => forall_congr' fun _ => forall_congr' fun _ =>
    ⟨fun unused same => unused (same ▸ present) same, fun unused _ => unused⟩

/-- The additional interfaces that are made are those the readiness expects exactly when the networks for which there is
    no MAC address are refused for their IP address. -/
theorem interfaces_provisioned (c : Namespace) (vm : VirtualMachine) (hash : String → String) (vmmacs : List String) :
    additional (enrichWithIPAM c vm (createNetworkSpec hash vm vmmacs)) = provisioned c vm vm.networks ↔
      ∀ net ∈ (unrecorded vm).drop (freeMacs vm vmmacs).length, Refused c vm net := by
  unfold createNetworkSpec
  split
  · rename_i none
    rw [none]
    refine iff_of_true rfl ?_
    simp [unrecorded, none]
  · rw [additional_createSpecs (newMacAddressPool_filled vm vmmacs), takers_newMacAddressPool,
      available_newMacAddressPool]

/-- The second network has IPAM and waits for its address. -/
def twoNetworks : VirtualMachine :=
  ⟨"web", "u", [⟨some 2, .network, "office", "", ""⟩, ⟨some 3, .network, "lab", "", ""⟩], []⟩

def labIPAM : Namespace := ⟨fun network => network.2 = "lab", [], []⟩

/-- There is one MAC address for two networks, and the other network is waited for by neither side. -/
theorem interfaces_provisioned_first :
    additional (enrichWithIPAM labIPAM twoNetworks (createNetworkSpec id twoNetworks ["02:00"])) =
      [(2, .network, "office")] :=
  (interfaces_provisioned labIPAM twoNetworks id ["02:00"]).mpr (by decide)

def oneNetwork : VirtualMachine := ⟨"web", "u", [⟨some 2, .network, "office", "", ""⟩], []⟩

/-- A network for which there is no MAC address yet is expected and not made. -/
theorem interface_without_mac :
    let c : Namespace := ⟨fun _ => false, [], []⟩
    ∃ net ∈ oneNetwork.networks, willProvisionInterface c oneNetwork net = true ∧
      enrichWithIPAM c oneNetwork (createNetworkSpec id oneNetwork []) = [] :=
  ⟨_, .head _, rfl, rfl⟩

end Virtualization.Machine.Provision
