import Virtualization.Core.Objects
import Virtualization.Reconcile.Resource

/-! The limits on concurrent live migrations: a registry of slots for each node, and the handler that lets a migration
    start only when it holds a slot. -/

namespace Virtualization.Migration.Slots

open Virtualization.Core Library Reconcile

inductive LiveMigrationPolicy where
  | manual | never | alwaysSafe | preferSafe | alwaysForced | preferForced

def defaultLiveMigrationPolicy : LiveMigrationPolicy := .preferSafe

def autoConvergeForPolicy : LiveMigrationPolicy → Option Bool
  | .alwaysSafe | .preferSafe => some false
  | .alwaysForced | .preferForced => some true
  | .manual | .never => none

/-- The auto-converge setting, from the override of the system, the policy of the machine and the force setting of the
    operation in progress (if there is one). `none` is an error: the operation asks for what the policy forbids. -/
def calculateEffectivePolicy (override vmPolicy : Option LiveMigrationPolicy) (vmop : Option (Option Bool)) :
    Option Bool :=
  let effectivePolicy := (override <|> vmPolicy).getD defaultLiveMigrationPolicy
  let autoConverge := autoConvergeForPolicy effectivePolicy
  match override, vmop with
  | none, some force =>
    match effectivePolicy with
    | .preferSafe | .preferForced => some ((force <|> autoConverge).getD false)
    | .alwaysSafe => if force = some true then none else some (autoConverge.getD false)
    | .alwaysForced => if force = some false then none else some (autoConverge.getD false)
    | .manual | .never => some (autoConverge.getD false)
  | _, _ => some (autoConverge.getD false)

structure KubeVirtConfig where
  (parallelMigrationsPerCluster parallelOutboundMigrationsPerNode : Option Nat)
  bandwidthPerMigration : Option String
  disableTLS : Option Bool

structure MigrationConfiguration where
  (parallelMigrationsPerCluster parallelOutboundMigrationsPerNode : Nat)
  (nodeDrainTaintKey bandwidthPerMigration : String)
  (progressTimeout completionTimeoutPerGiB : Nat)
  (unsafeMigrationOverride allowAutoConverge allowPostCopy allowWorkloadDisruption disableTLS : Bool)
deriving DecidableEq

def newMigrationConfiguration (allowAutoConverge : Bool) (kvconfig : Option KubeVirtConfig) :
    MigrationConfiguration where
  parallelMigrationsPerCluster := (kvconfig.bind (·.parallelMigrationsPerCluster)).getD 5
  parallelOutboundMigrationsPerNode := (kvconfig.bind (·.parallelOutboundMigrationsPerNode)).getD 2
  nodeDrainTaintKey := "kubevirt.io/drain"
  bandwidthPerMigration := (kvconfig.bind (·.bandwidthPerMigration)).getD "0Mi"
  progressTimeout := 150
  completionTimeoutPerGiB := 800
  unsafeMigrationOverride := false
  allowAutoConverge
  allowPostCopy := false
  allowWorkloadDisruption := false
  disableTLS := (kvconfig.bind (·.disableTLS)).getD false

structure MigrationState where
  migrationUID : String
  (completed failed : Bool)
  (sourceNode targetNode targetPod : String)
  migrationConfiguration : Option MigrationConfiguration

structure KVVMI where
  key : NamespacedName
  resourceVersion : Nat
  annotations : Option StringMap
  nodeName : String
  migrationState : Option MigrationState

instance : Object KVVMI NamespacedName where
  key := KVVMI.key
  version := KVVMI.resourceVersion
  stamp n kvvmi := { kvvmi with resourceVersion := n }
  key_stamp _ _ := rfl
  version_stamp _ _ := rfl

structure VMIM where
  (uid ns vmiName : String)
  final : Bool
deriving DecidableEq

/-- Which of the two limits: inbound migrations of a target node, or outbound ones of a source node. -/
inductive Kind where
  | inbound | sync
deriving DecidableEq

def Kind.slotKey : Kind → String
  | .inbound => "virtualization.deckhouse.io/inbound-migration-slot"
  | .sync => "virtualization.deckhouse.io/sync-migration-slot"

def Kind.nodeKey : Kind → String
  | .inbound => "virtualization.deckhouse.io/inbound-migration-target-node"
  | .sync => "virtualization.deckhouse.io/sync-migration-source-node"

def slotKeys : List String :=
  [Kind.inbound.slotKey, Kind.inbound.nodeKey, Kind.sync.slotKey, Kind.sync.nodeKey]

def slotWaiting : String := "waiting"

def slotAcquired : String := "acquired"

namespace KVVMI

variable (kind : Kind) (kvvmi : KVVMI)

def annotation? (name : String) : Option String := (entries kvvmi.annotations).lookup name

def setMigrationSlot (state node : String) (kvvmi : KVVMI) : KVVMI :=
  { kvvmi with
    annotations := some (((entries kvvmi.annotations).insert kind.slotKey state).insert kind.nodeKey node) }

def markMigrationSlotWaiting (node : String) (kvvmi : KVVMI) : KVVMI :=
  kvvmi.setMigrationSlot kind slotWaiting node

def markMigrationSlotAcquired (node : String) (kvvmi : KVVMI) : KVVMI :=
  kvvmi.setMigrationSlot kind slotAcquired node

def clearMigrationSlot : KVVMI :=
  match kvvmi.annotations with
  | none => kvvmi
  | some map =>
    let map := (map.erase kind.slotKey).erase kind.nodeKey
    { kvvmi with annotations := if map = ∅ then none else some map }

def isMigrationSlotWaiting : Bool := kvvmi.annotation? kind.slotKey = some slotWaiting

def waitingNode : String := (kvvmi.annotation? kind.nodeKey).getD ""

def hasMigrationSlot : Bool :=
  (kvvmi.annotation? Kind.inbound.slotKey).isSome || (kvvmi.annotation? Kind.sync.slotKey).isSome

end KVVMI

/-- The owner of a slot. Neither a namespace nor a name has a slash in it, so the text `ns/name/uid` of the registry
    tells the three apart, and begins with `ns/name/` for the owners of one machine only. -/
structure Owner where
  kvvmi : NamespacedName
  migrationUID : String
deriving DecidableEq

def ownerKey (kvvmi : KVVMI) : Option Owner :=
  kvvmi.migrationState.map fun state => { kvvmi := kvvmi.key, migrationUID := state.migrationUID }

structure Slot where
  node : String
  owner : Owner
deriving DecidableEq

structure MigrationSlotLimiter where
  kind : Kind
  enabled : Bool
  limit : Nat
  slots : List Slot
deriving DecidableEq

namespace MigrationSlotLimiter

def newMigrationSlotLimiter (enabled : Bool) (limit : Nat) (kind : Kind) : MigrationSlotLimiter where
  kind
  enabled
  limit := max limit 1
  slots := []

variable (l : MigrationSlotLimiter)

def held (node : String) : Nat := l.slots.countP (·.node = node)

def tryAcquire (kvvmi : KVVMI) (node : String) : Bool × MigrationSlotLimiter :=
  if node = "" then (false, l)
  else match ownerKey kvvmi with
    | none => (false, l)
    | some owner =>
      if { node, owner } ∈ l.slots then (true, l)
      else if l.held node ≥ l.limit then (false, l)
      else (true, { l with slots := l.slots ++ [{ node, owner }] })

def acquireIfEnabled (kvvmi : KVVMI) (node : String) : Bool × MigrationSlotLimiter :=
  if l.enabled then l.tryAcquire kvvmi node else (true, l)

/-- Frees the slot on the node; if the state of the migration is gone, every slot of the machine on the node. -/
def release (kvvmi : KVVMI) (node : String) : MigrationSlotLimiter :=
  if node = "" then l
  else match ownerKey kvvmi with
    | some owner => { l with slots := l.slots.filter (· ≠ { node, owner }) }
    | none => { l with slots := l.slots.filter fun slot => ¬ (slot.node = node ∧ slot.owner.kvvmi = kvvmi.key) }

def releaseByKVVMI (name : NamespacedName) : MigrationSlotLimiter :=
  { l with slots := l.slots.filter (·.owner.kvvmi ≠ name) }

def restored (kind : Kind) (migrations : List VMIM) (kvvmi : KVVMI) : Option Slot :=
  if kvvmi.annotation? kind.slotKey ≠ some slotAcquired then none
  else if ¬ migrations.any (fun m => ¬ m.final ∧ m.ns = kvvmi.key.ns ∧ m.vmiName = kvvmi.key.name) then none
  else if kvvmi.waitingNode kind = "" then none
  else (ownerKey kvvmi).map fun owner => { node := kvvmi.waitingNode kind, owner }

/-- The registry is rebuilt from the annotations. The limit is not consulted. -/
def restore (vmis : List KVVMI) (migrations : List VMIM) : MigrationSlotLimiter :=
  if l.enabled then
    { l with slots :=
        (vmis.filterMap (restored l.kind migrations)).foldl (fun slots slot => slots.insert slot) l.slots }
  else l

end MigrationSlotLimiter

structure Reads where
  migrations : Option (List VMIM)
  targetPod : Option (Option String)
  vm : Option (Option LiveMigrationPolicy)
  kvconfig : Option (Option KubeVirtConfig)
  vmopInProgress : Option (Option (Option Bool))
  override : Option LiveMigrationPolicy

structure Handled where
  kvvmi : KVVMI
  (inbound sync : MigrationSlotLimiter)
  (requeue failed : Bool)

variable (current changed : KVVMI) (reads : Reads) (inbound sync : MigrationSlotLimiter) (kvvmi : KVVMI)

def hasActiveMigration (migrations : List VMIM) (kvvmi : KVVMI) : Bool :=
  migrations.any fun m => m.ns = kvvmi.key.ns ∧ m.vmiName = kvvmi.key.name ∧ ¬ m.final

def shouldReleaseSlots (migrations : Option (List VMIM)) (kvvmi : KVVMI) : Option Bool :=
  if kvvmi.migrationState.any fun state => state.completed || state.failed then some true
  else if ¬ kvvmi.hasMigrationSlot then some false
  else migrations.map fun migrations => ¬ hasActiveMigration migrations kvvmi

def shouldUpdateMigrationConfiguration : Bool :=
  kvvmi.migrationState.any fun state => ¬ state.completed ∧ ¬ state.failed ∧ state.migrationConfiguration = none

def resolveTargetNode (targetPod : Option (Option String)) (kvvmi : KVVMI) : Option String :=
  match kvvmi.migrationState with
  | none => some ""
  | some state =>
    if state.targetNode ≠ "" then some state.targetNode
    else if state.targetPod = "" then some ""
    else targetPod.map (·.getD "")

def resolveSourceNode : String :=
  match kvvmi.migrationState with
  | none => kvvmi.nodeName
  | some state => if state.sourceNode ≠ "" then state.sourceNode else kvvmi.nodeName

def migrationConfigurationFor : Option MigrationConfiguration :=
  match reads.vm, reads.kvconfig, reads.vmopInProgress with
  | some policy, some kvconfig, some vmop =>
    (calculateEffectivePolicy reads.override policy vmop).map (newMigrationConfiguration · kvconfig)
  | _, _, _ => none

def KVVMI.setMigrationConfiguration (configuration : MigrationConfiguration) (kvvmi : KVVMI) : KVVMI :=
  { kvvmi with
    migrationState := kvvmi.migrationState.map ({ · with migrationConfiguration := some configuration }) }

def setConfiguration (targetNode sourceNode : String) (kvvmi : KVVMI) : Handled :=
  let kvvmi := if inbound.enabled then kvvmi.markMigrationSlotAcquired .inbound targetNode else kvvmi
  let kvvmi := if sync.enabled then kvvmi.markMigrationSlotAcquired .sync sourceNode else kvvmi
  match migrationConfigurationFor reads with
  | none => { kvvmi, inbound, sync, requeue := false, failed := true }
  | some configuration =>
    { kvvmi := kvvmi.setMigrationConfiguration configuration, inbound, sync, requeue := false, failed := false }

def acquireSlots (targetNode sourceNode : String) (kvvmi : KVVMI) : Handled :=
  let (inboundOk, inbound) := inbound.acquireIfEnabled kvvmi targetNode
  if ¬ inboundOk then
    let kvvmi := kvvmi.markMigrationSlotWaiting .inbound targetNode
    let kvvmi := if kvvmi.isMigrationSlotWaiting .sync then kvvmi.clearMigrationSlot .sync else kvvmi
    { kvvmi, inbound, sync, requeue := true, failed := false }
  else
    let (syncOk, sync) := sync.acquireIfEnabled kvvmi sourceNode
    if ¬ syncOk then
      let inbound := if inbound.enabled then inbound.release kvvmi targetNode else inbound
      let kvvmi := if kvvmi.isMigrationSlotWaiting .inbound then kvvmi.clearMigrationSlot .inbound else kvvmi
      { kvvmi := kvvmi.markMigrationSlotWaiting .sync sourceNode, inbound, sync, requeue := true, failed := false }
    else setConfiguration reads inbound sync targetNode sourceNode kvvmi

def startMigration : Handled :=
  match if inbound.enabled then resolveTargetNode reads.targetPod kvvmi else some "" with
  | none => { kvvmi, inbound, sync, requeue := false, failed := true }
  | some targetNode =>
    if inbound.enabled ∧ targetNode = "" then { kvvmi, inbound, sync, requeue := true, failed := false }
    else if sync.enabled ∧ resolveSourceNode kvvmi = "" then
      { kvvmi, inbound, sync, requeue := true, failed := false }
    else acquireSlots reads inbound sync targetNode (resolveSourceNode kvvmi) kvvmi

def handle : Handled :=
  match shouldReleaseSlots reads.migrations kvvmi with
  | none => { kvvmi, inbound, sync, requeue := false, failed := true }
  | some true =>
    let inbound := inbound.release kvvmi (kvvmi.waitingNode .inbound)
    let kvvmi := kvvmi.clearMigrationSlot .inbound
    let sync := sync.release kvvmi (kvvmi.waitingNode .sync)
    { kvvmi := kvvmi.clearMigrationSlot .sync, inbound, sync, requeue := false, failed := false }
  | some false =>
    if shouldUpdateMigrationConfiguration kvvmi then startMigration reads inbound sync kvvmi
    else { kvvmi, inbound, sync, requeue := false, failed := false }

inductive Field where
  | migrationConfiguration | annotations
deriving DecidableEq

def Field.Value : Field → Type
  | .migrationConfiguration => MigrationConfiguration
  | .annotations => StringMap

instance : (f : Field) → DecidableEq f.Value
  | .migrationConfiguration => inferInstanceAs (DecidableEq MigrationConfiguration)
  | .annotations => inferInstanceAs (DecidableEq StringMap)

def configurationPatch : List (PatchOperation Field Field.Value) :=
  match current.migrationState, changed.migrationState with
  | some currentState, some changedState =>
    if currentState.migrationConfiguration ≠ changedState.migrationConfiguration then
      [{ op := if currentState.migrationConfiguration = none then .add else .replace
         path := .migrationConfiguration, value := changedState.migrationConfiguration }]
    else []
  | _, _ => []

/-- The whole map is replaced, and no test guards it. -/
def annotationsPatch : List (PatchOperation Field Field.Value) :=
  if entries current.annotations ≠ entries changed.annotations then
    match changed.annotations, current.annotations with
    | none, _ => [{ op := .remove, path := .annotations, value := none }]
    | some map, none => [{ op := .add, path := .annotations, value := some map }]
    | some map, some _ => [{ op := .replace, path := .annotations, value := some map }]
  else []

def generateMigrationConfigurationPatch : List (PatchOperation Field Field.Value) :=
  configurationPatch current changed ++ annotationsPatch current changed

def KVVMI.document : (f : Field) → Option f.Value
  | .migrationConfiguration => kvvmi.migrationState.bind (·.migrationConfiguration)
  | .annotations => kvvmi.annotations

def KVVMI.withDocument (d : (f : Field) → Option f.Value) : KVVMI :=
  { kvvmi with
    annotations := d .annotations
    migrationState := kvvmi.migrationState.map ({ · with migrationConfiguration := d .migrationConfiguration }) }

def KVVMI.patch (ops : List (PatchOperation Field Field.Value)) (stored : KVVMI) : Option KVVMI :=
  if stored.migrationState = none ∧ (ops.any (·.path = .migrationConfiguration)) then none
  else (applyPatch stored.document ops).map stored.withDocument

end Virtualization.Migration.Slots
