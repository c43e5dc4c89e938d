import Mathlib
import Virtualization.Reconcile.Resource

/-! The parts of the specification of a VirtualMachine that are compared or rendered, and the checks of its networks at
    admission. -/

namespace Virtualization.Machine.Builder

open Reconcile

abbrev Json := String

inductive OsType where
  | unset | windows | generic | legacy
deriving DecidableEq

inductive NetworksType where
  | main | network | clusterNetwork
deriving DecidableEq

structure NetworksSpec where
  id : Option Int
  type : NetworksType
  (name virtualMachineMACAddressName ipAddressName : String)
deriving DecidableEq

structure NodeSelectorTerm where
  matchExpressions : List Json
  matchFields : List Json := []
deriving DecidableEq

structure NodeAffinity where
  required : Option (List NodeSelectorTerm) := none
  preferred : List Json := []
deriving DecidableEq

structure VirtualMachineSpec where
  osType : OsType
  cores : Int
  coreFraction : String
  memorySize : Nat

section Validators

def networkTypeText : NetworksType → String
  | .main => "Main"
  | .network => "Network"
  | .clusterNetwork => "ClusterNetwork"

def maxID : Int := 16 * 1024 - 1

variable (network : NetworksSpec)

def getNetworkIdentifier : String :=
  if network.type = .main then networkTypeText .main else networkTypeText network.type ++ "/" ++ network.name

def validateNetworkName : Except String Unit :=
  if network.type = .main then
    if network.name = "" then .ok () else .error "network with type 'Main' should not have a name"
  else if network.name = "" then
    .error ("network with type '" ++ networkTypeText network.type ++ "' must have a non-empty name")
  else .ok ()

def validateNetworkUniqueness (names : List (NetworksType × String)) (network : NetworksSpec) : Except String Unit :=
  if (network.type, network.name) ∉ names then .ok ()
  else if network.name = "" then .error ("network " ++ networkTypeText network.type ++ " is duplicated")
  else .error ("network " ++ networkTypeText network.type ++ ":" ++ network.name ++ " is duplicated")

def validateNetworkIDUniqueness (ids : List Int) (network : NetworksSpec) : Except String Unit :=
  if network.id.getD 0 = 0 ∨ network.id.getD 0 ∉ ids then .ok ()
  else
    .error ("network id " ++ toString (network.id.getD 0) ++ " is duplicated for network " ++
      getNetworkIdentifier network)

def validateNetworkID : Except String Unit :=
  match network.id with
  | none => .ok ()
  | some id =>
    if id < 1 ∨ id > maxID then
      .error ("network id must be between 1 and " ++ toString maxID ++ " for network " ++
        getNetworkIdentifier network ++ ", got " ++ toString id)
    else if network.type = .main ∧ id ≠ 1 then
      .error ("network id for network Main must be 1, got " ++ toString id)
    else .ok ()

def validateNetworksSpec (seen : List NetworksSpec) : List NetworksSpec → Except String Unit
  | [] => .ok ()
  | network :: networks => do
    if network.type = .main ∧ seen ≠ [] then
      throw ("network type 'Main' occurs at unexpected position " ++ toString seen.length ++ ", it should be first")
    validateNetworkName network
    validateNetworkUniqueness (seen.map fun n => (n.type, n.name)) network
    validateNetworkIDUniqueness (seen.map fun n => n.id.getD 0) network
    validateNetworkID network
    validateNetworksSpec (network :: seen) networks

end Validators

structure InterfaceSpec where
  id : Int
  type : NetworksType
  (name interfaceName mac : String)
  (uid gid : Nat)
  ipAssignmentMode : String
  ipAddressNames : List String

end Virtualization.Machine.Builder
