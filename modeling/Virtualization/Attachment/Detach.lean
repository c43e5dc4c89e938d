import Virtualization.Attachment.Deletion

namespace Virtualization.Attachment

open Virtualization.Core Library List Machine Option

/-- Among the volumes of the template exactly those with the name that is generated for the device
    are taken for it. -/
def NamesResolve (c : Cluster) (vm : VirtualMachine) (kvvm : KVVM) (device : BlockDeviceRef) : Prop :=
  ∀ volume ∈ kvvm.template.getD [],
    resolve (resolverSeeds c vm) volume.name = some device ↔ volume.name = generateVMBDADiskName device
deriving Decidable

section

variable {c : Cluster} {vm : VirtualMachine} {kvvm : KVVM} {device : BlockDeviceRef}

theorem find?_volumeStatusRefs {volumes : List Volume} (resolved : ∀ volume ∈ volumes,
      resolve (resolverSeeds c vm) volume.name = some device ↔ volume.name = generateVMBDADiskName device) :
    (volumeStatusRefs c vm volumes).find? (fun bdRef => bdRef.kind = device.kind ∧ bdRef.name = device.name) =
      (volumes.find? (·.name = generateVMBDADiskName device)).map fun volume =>
        volumeStatusRef c vm (c.fetchKVVMI vm.ns vm.name) volume device := by
  induction volumes with
  | nil => rfl
  | cons volume _ ih =>
    have head := resolved volume (.head _)
    have tail := ih fun other member => resolved other (.tail _ member)
    unfold volumeStatusRefs at tail ⊢
    by_cases here : volume.name = generateVMBDADiskName device
    · simp only [filterMap_cons, head.mpr here, map_some]
      rw [find?_cons_of_pos (by simp [volumeStatusRef]), find?_cons_of_pos (by simpa using here)]
      rfl
    rw [find?_cons_of_neg (by simpa using here), ← tail]
    cases other : resolve (resolverSeeds c vm) volume.name with
    | none => simp only [filterMap_cons, other, map_none]
    | some bd =>
      have different : ¬ (bd.kind = device.kind ∧ bd.name = device.name) := by
        rintro ⟨sameKind, sameName⟩
        have same : bd = device := by
          cases bd
          cases device
          simp_all
        exact here (head.mp (same ▸ other))
      simp only [filterMap_cons, other, map_some]
      rw [find?_cons_of_neg (by rwa [decide_eq_true_eq])]

theorem find?_statusRefs {refs : List BlockDeviceStatusRef} (found : c.fetchKVVM vm.ns vm.name = some kvvm)
    (computed : getBlockDeviceStatusRefs c vm = some refs) (resolved : NamesResolve c vm kvvm device) :
    refs.find? (fun bdRef => bdRef.kind = device.kind ∧ bdRef.name = device.name) =
        (templateVolume kvvm (generateVMBDADiskName device)).map (fun volume =>
          volumeStatusRef c vm (c.fetchKVVMI vm.ns vm.name) volume device) ∨
      templateVolume kvvm (generateVMBDADiskName device) = none ∧
        ∀ bdRef ∈ refs.find? (fun bdRef => bdRef.kind = device.kind ∧ bdRef.name = device.name),
          bdRef.hotplugged = false := by
  simp only [getBlockDeviceStatusRefs, found, map_eq_some_iff] at computed
  obtain ⟨volumes, template, rfl⟩ := computed
  unfold NamesResolve at resolved
  unfold templateVolume
  rw [template, getD_some] at resolved ⊢
  rw [find?_append, find?_volumeStatusRefs resolved]
  cases volumes.find? (·.name = generateVMBDADiskName device) with
  | some => exact .inl rfl
  | none =>
    refine .inr ⟨rfl, fun _ listed => ?_⟩
    have member := mem_of_find?_eq_some listed
    obtain ⟨_, -, rfl⟩ := mem_map.mp member
    rfl

end

namespace Detach

structure Request where
  (ns name virtualMachineName : String)
  device : BlockDeviceRef
deriving DecidableEq

def requestOf (vmbda : VMBDA) : Request :=
  ⟨vmbda.ns, vmbda.name, vmbda.virtualMachineName, vmbda.blockDeviceRef⟩

structure World where
  cluster : Cluster
  requested : List Request

variable (w : World) (c : Cluster) (vmbda : VMBDA)

inductive Action where
  | lifeCycle (ns name : String) (answers : Answers)
  | deletion (ns name : String) (answers : Answers)
  | refresh (ns name : String)
  | takeUp (ns name : String) (request : VolumeRequest)
  | delete (ns name : String) (now : Int)
  | specify (ns name : String) (blockDeviceRefs : List BlockDeviceRef)
  | edit (c : Cluster)

def fetchAttachment (ns name : String) : Option VMBDA :=
  c.vmbdas.find? fun vmbda => vmbda.ns = ns ∧ vmbda.name = name

/-- The API server refuses new finalizers on an object that is being deleted, and drops the
    object with its last finalizer. -/
def storeAttachment (before after : VMBDA) (c : Cluster) : Cluster :=
  if before.deletionTimestamp.isSome ∧ ∃ finalizer ∈ after.finalizers, finalizer ∉ before.finalizers then c
  else if before.deletionTimestamp.isSome ∧ after.finalizers = [] then
    { c with vmbdas := c.vmbdas.filter (· ≠ before) }
  else replaceAttachment before after c

def ask (request : VolumeRequest) (kvvm : KVVM) : KVVM :=
  { kvvm with volumeRequests := kvvm.volumeRequests ++ [request] }

def changeVolumes (volumes : List Volume) : VolumeRequest → List Volume
  | .addVolume volume => if volumes.any (·.name = volume.name) then volumes else volumes ++ [volume]
  | .removeVolume name => volumes.filter (·.name ≠ name)

def takeUpRequest (request : VolumeRequest) (kvvm : KVVM) : KVVM :=
  { kvvm with
    volumeRequests := kvvm.volumeRequests.erase request
    template := kvvm.template.map (changeVolumes · request) }

def lifeCyclePass (result : VMBDA × Option Volume) : World :=
  let written := replaceAttachment vmbda result.1 w.cluster
  match result.2 with
  | none => { w with cluster := written }
  | some volume =>
    { cluster := written.updateKVVM vmbda.ns vmbda.virtualMachineName (ask (.addVolume volume))
      requested := requestOf vmbda :: w.requested }

def deletionPass (result : VMBDA × Option String) : World :=
  let written := storeAttachment vmbda result.1 w.cluster
  match result.2 with
  | none => { w with cluster := written }
  | some volume =>
    { w with cluster := written.updateKVVM vmbda.ns vmbda.virtualMachineName (ask (.removeVolume volume)) }

def step : Action → Option World
  | .lifeCycle ns name answers =>
    (fetchAttachment w.cluster ns name).map fun vmbda =>
      lifeCyclePass w vmbda (lifeCycleHandler answers w.cluster vmbda)
  | .deletion ns name answers =>
    (fetchAttachment w.cluster ns name).map fun vmbda =>
      deletionPass w vmbda (deletionHandler answers w.cluster vmbda)
  | .refresh ns name =>
    (w.cluster.fetchVM ns name).bind fun vm =>
      (getBlockDeviceStatusRefs w.cluster vm).map fun statusRefs =>
        { w with cluster := w.cluster.updateVM ns name fun vm => { vm with statusRefs } }
  | .takeUp ns name request =>
    if (w.cluster.fetchKVVM ns name).any fun kvvm => request ∈ kvvm.volumeRequests then
      some { w with cluster := w.cluster.updateKVVM ns name (takeUpRequest request) }
    else none
  | .delete ns name now =>
    (fetchAttachment w.cluster ns name).map fun vmbda =>
      { w with cluster := replaceAttachment vmbda { vmbda with deletionTimestamp := some now } w.cluster }
  | .specify ns name blockDeviceRefs =>
    some { w with cluster := w.cluster.updateVM ns name fun vm => { vm with blockDeviceRefs } }
  | .edit c =>
    if c.kvvms = w.cluster.kvvms ∧ ∀ vmbda ∈ c.vmbdas, vmbda.name ≠ "" then some { w with cluster := c } else none

structure Initial (c : Cluster) : Prop where
  named : ∀ vmbda ∈ c.vmbdas, vmbda.name ≠ ""
  pending : ∀ kvvm ∈ c.kvvms, ∀ request ∈ kvvm.volumeRequests, ∀ volume, request = .addVolume volume →
    Hotpluggable volume

def World.start : World := { cluster := c, requested := [] }

structure Sound (w : World) : Prop where
  named : ∀ vmbda ∈ w.cluster.vmbdas, vmbda.name ≠ ""
  pending : ∀ ns name kvvm, w.cluster.fetchKVVM ns name = some kvvm →
    ∀ volume, .addVolume volume ∈ kvvm.volumeRequests → Hotpluggable volume
  plugged : ∀ request ∈ w.requested, ∀ kvvm, w.cluster.fetchKVVM request.ns request.virtualMachineName = some kvvm →
    ∀ volume ∈ kvvm.template.getD [], volume.name = generateVMBDADiskName request.device → Hotpluggable volume

namespace Sound

variable {w : World}

theorem start {c : Cluster} (initial : Initial c) : Sound (World.start c) where
  named := initial.named
  pending := fun _ _ kvvm found volume listed =>
    initial.pending kvvm (mem_of_find?_eq_some found) _ listed volume rfl
  plugged := by
    intro request sent
    cases sent

section

variable (sound : Sound w)
include sound

open Cluster

theorem withAttachments {c : Cluster} (same : c.kvvms = w.cluster.kvvms)
    (named : ∀ vmbda ∈ c.vmbdas, vmbda.name ≠ "") : Sound { w with cluster := c } := by
  have fetched : ∀ ns name, c.fetchKVVM ns name = w.cluster.fetchKVVM ns name := by
    intro ns name
    rw [fetchKVVM, same]
    rfl
  constructor
  · exact named
  · intro ns name kvvm found
    exact sound.pending ns name kvvm (fetched ns name ▸ found)
  intro request sent kvvm found
  exact sound.plugged request sent kvvm (fetched _ _ ▸ found)

theorem updateKVVM {ns name : String} {f : KVVM → KVVM}
    (keyed : ∀ kvvm, (f kvvm).ns = kvvm.ns ∧ (f kvvm).name = kvvm.name)
    (requests : ∀ kvvm volume, .addVolume volume ∈ (f kvvm).volumeRequests →
      .addVolume volume ∈ kvvm.volumeRequests ∨ Hotpluggable volume)
    (volumes : ∀ kvvm, w.cluster.fetchKVVM ns name = some kvvm → ∀ volume ∈ (f kvvm).template.getD [],
      volume ∈ kvvm.template.getD [] ∨ .addVolume volume ∈ kvvm.volumeRequests) :
    Sound { w with cluster := w.cluster.updateKVVM ns name f } := by
  constructor
  · exact sound.named
  · intro ns' name' kvvm found volume listed
    rw [fetchKVVM_updateKVVM keyed] at found
    obtain ⟨before, fetched, rfl⟩ := map_eq_some_iff.mp found
    split at listed
    · rcases requests before volume listed with earlier | hotpluggable
      · exact sound.pending ns' name' before fetched volume earlier
      · exact hotpluggable
    · exact sound.pending ns' name' before fetched volume listed
  intro request sent kvvm found volume listed generated
  rw [fetchKVVM_updateKVVM keyed] at found
  obtain ⟨before, fetched, rfl⟩ := map_eq_some_iff.mp found
  split at listed
  · rename_i here
    obtain ⟨rfl, rfl⟩ := here
    rcases volumes before fetched volume listed with earlier | requested
    · exact sound.plugged request sent before fetched volume earlier generated
    · exact sound.pending _ _ before fetched volume requested
  · exact sound.plugged request sent before fetched volume listed generated

theorem replaceAttachment {before after : VMBDA} (named : after.name ≠ "") :
    Sound { w with cluster := Attachment.replaceAttachment before after w.cluster } := by
  refine sound.withAttachments rfl fun _ member => ?_
  obtain ⟨old, present, rfl⟩ := mem_map.mp member
  split
  · exact named
  · exact sound.named old present

theorem storeAttachment {before after : VMBDA} (named : after.name ≠ "") :
    Sound { w with cluster := Detach.storeAttachment before after w.cluster } := by
  unfold Detach.storeAttachment
  split
  · exact sound
  split
  · exact sound.withAttachments rfl fun vmbda member => sound.named vmbda (mem_of_mem_filter member)
  · exact sound.replaceAttachment named

theorem ask (ns name : String) {request : VolumeRequest}
    (hotpluggable : ∀ volume, request = .addVolume volume → Hotpluggable volume) :
    Sound { w with cluster := w.cluster.updateKVVM ns name (Detach.ask request) } := by
  refine sound.updateKVVM (fun _ => ⟨rfl, rfl⟩) (fun _ volume listed => ?_) fun _ _ _ present => .inl present
  rcases mem_append.mp listed with earlier | last
  · exact .inl earlier
  · exact .inr (hotpluggable volume (mem_singleton.mp last).symm)

theorem takeUp {ns name : String} {request : VolumeRequest}
    (listed : (w.cluster.fetchKVVM ns name).any fun kvvm => request ∈ kvvm.volumeRequests) :
    Sound { w with cluster := w.cluster.updateKVVM ns name (takeUpRequest request) } := by
  refine sound.updateKVVM (fun _ => ⟨rfl, rfl⟩) (fun _ _ member => .inl (mem_of_mem_erase member)) ?_
  intro kvvm found volume present
  rw [found] at listed
  have asked : request ∈ kvvm.volumeRequests := by simpa using listed
  unfold takeUpRequest at present
  cases template : kvvm.template with
  | none => simp [template] at present
  | some =>
    simp only [template, map_some, getD_some] at present ⊢
    cases request with
    | removeVolume => exact .inl (mem_of_mem_filter present)
    | addVolume =>
      simp only [changeVolumes] at present
      split at present
      · exact .inl present
      rcases mem_append.mp present with earlier | last
      · exact .inl earlier
      · exact .inr (mem_singleton.mp last ▸ asked)

theorem request (request : Request)
    (absent : ∀ kvvm, w.cluster.fetchKVVM request.ns request.virtualMachineName = some kvvm →
      templateVolume kvvm (generateVMBDADiskName request.device) = none) :
    Sound { w with requested := request :: w.requested } := by
  refine { sound with plugged := fun other sent kvvm found volume present generated => ?_ }
  rcases mem_cons.mp sent with rfl | earlier
  · have missing := find?_eq_none.mp (absent kvvm found) volume present
    exact absurd generated (by simpa using missing)
  · exact sound.plugged other earlier kvvm found volume present generated

theorem lifeCycle {vmbda : VMBDA} (member : vmbda ∈ w.cluster.vmbdas) (answers : Answers) :
    Sound (lifeCyclePass w vmbda (lifeCycleHandler answers w.cluster vmbda)) := by
  have pass := lifeCycleVerdict_pass answers w.cluster vmbda
  have named : (lifeCycleHandler answers w.cluster vmbda).1.name ≠ "" := sound.named vmbda member
  unfold lifeCyclePass
  cases sent : (lifeCycleHandler answers w.cluster vmbda).2 with
  | none => exact sound.replaceAttachment named
  | some volume =>
    obtain ⟨_, _, kvvm, target, -, -, free, asked⟩ := pass.sent sent
    obtain ⟨vmNs, vmName⟩ := fetchVM_key target.machine
    have absent : ∀ found, w.cluster.fetchKVVM vmbda.ns vmbda.virtualMachineName = some found →
        templateVolume found (generateVMBDADiskName vmbda.blockDeviceRef) = none := by
      intro found fetched
      have same := target.kvvm
      rw [vmNs, vmName, fetched] at same
      cases same
      rw [← (attachmentDisk_names target.device).2.2]
      exact (canHotPlug_ok free).2.1
    have asking : ∀ other, VolumeRequest.addVolume volume = .addVolume other → Hotpluggable other := by
      intro other same
      cases same
      exact (hotPlugVolume_spec asked).2
    exact ((sound.request (requestOf vmbda) absent).replaceAttachment named).ask vmbda.ns vmbda.virtualMachineName
      asking

theorem deletion {vmbda : VMBDA} (member : vmbda ∈ w.cluster.vmbdas) (answers : Answers) :
    Sound (deletionPass w vmbda (deletionHandler answers w.cluster vmbda)) := by
  have named : (deletionHandler answers w.cluster vmbda).1.name ≠ "" := by
    have kept : (deletionHandler answers w.cluster vmbda).1.name = vmbda.name := by
      unfold deletionHandler
      repeat' split
      all_goals rfl
    rw [kept]
    exact sound.named vmbda member
  unfold deletionPass
  split
  · exact sound.storeAttachment named
  · exact (sound.storeAttachment named).ask _ _ (by simp)

theorem step {action : Action} {next : World} (taken : Detach.step w action = some next) : Sound next := by
  cases action with
  | lifeCycle _ _ answers =>
    obtain ⟨_, found, rfl⟩ := map_eq_some_iff.mp taken
    exact sound.lifeCycle (mem_of_find?_eq_some found) answers
  | deletion _ _ answers =>
    obtain ⟨_, found, rfl⟩ := map_eq_some_iff.mp taken
    exact sound.deletion (mem_of_find?_eq_some found) answers
  | refresh =>
    obtain ⟨_, -, refreshed⟩ := bind_eq_some_iff.mp taken
    obtain ⟨_, -, rfl⟩ := map_eq_some_iff.mp refreshed
    exact sound.withAttachments rfl sound.named
  | takeUp =>
    obtain ⟨listed, ⟨⟩⟩ := Option.ite_none_right_eq_some.mp taken
    exact sound.takeUp listed
  | delete =>
    obtain ⟨vmbda, found, rfl⟩ := map_eq_some_iff.mp taken
    exact sound.replaceAttachment (sound.named vmbda (mem_of_find?_eq_some found))
  | specify =>
    cases taken
    exact sound.withAttachments rfl sound.named
  | edit =>
    obtain ⟨allowed, ⟨⟩⟩ := Option.ite_none_right_eq_some.mp taken
    exact sound.withAttachments allowed.1 allowed.2

end

end Sound

def otherAttachment : Bool :=
  c.vmbdas.any fun other => other.ns = vmbda.ns ∧ other.name ≠ vmbda.name ∧
    other.virtualMachineName = vmbda.virtualMachineName ∧ other.blockDeviceRef = vmbda.blockDeviceRef

def namedElsewhere : Bool :=
  (c.fetchVM vmbda.ns vmbda.virtualMachineName).any (fun vm => vmbda.blockDeviceRef ∈ vm.blockDeviceRefs) ∨
    otherAttachment c vmbda

def plugged : Bool :=
  (c.fetchKVVM vmbda.ns vmbda.virtualMachineName).any fun kvvm =>
    (templateVolume kvvm (generateVMBDADiskName vmbda.blockDeviceRef)).isSome ∨
      pendingAdd kvvm (generateVMBDADiskName vmbda.blockDeviceRef)

/-- A pass lets go of an attachment only when its device is out, and unplugs no device that is
    named elsewhere. -/
def Lawful : Action → Prop
  | .deletion ns name answers => ∀ vmbda ∈ fetchAttachment w.cluster ns name,
      (Released vmbda (deletionHandler answers w.cluster vmbda).1 → requestOf vmbda ∈ w.requested →
        plugged w.cluster vmbda → namedElsewhere w.cluster vmbda) ∧
      ((deletionHandler answers w.cluster vmbda).2.isSome → namedElsewhere w.cluster vmbda = false)
  | _ => True

instance (w : World) (action : Action) : Decidable (Lawful w action) := by
  cases action <;> unfold Lawful <;> infer_instance

/-- The VM of a KVVM exists, its status is what its controller computes now, all volume requests
    are taken up, and volume names are not mistaken. -/
def UpToDate (c : Cluster) (vmbda : VMBDA) : Prop :=
  ∀ kvvm ∈ c.fetchKVVM vmbda.ns vmbda.virtualMachineName,
    kvvm.volumeRequests = [] ∧ ∃ vm ∈ c.fetchVM vmbda.ns vmbda.virtualMachineName,
      getBlockDeviceStatusRefs c vm = some vm.statusRefs ∧ NamesResolve c vm kvvm vmbda.blockDeviceRef
deriving Decidable

def Settled (w : World) : Action → Prop
  | .deletion ns name _ => ∀ vmbda ∈ fetchAttachment w.cluster ns name, vmbda.deletionTimestamp.isSome →
      UpToDate w.cluster vmbda ∧ otherAttachment w.cluster vmbda = false
  | _ => True

instance (w : World) (action : Action) : Decidable (Settled w action) := by
  cases action <;> unfold Settled <;> infer_instance

variable {vm : VirtualMachine}

section

variable {c : Cluster} {vmbda : VMBDA}

theorem getBlockDeviceAttachmentName_eq (member : vmbda ∈ c.vmbdas) (sameNs : vm.ns = vmbda.ns)
    (sameName : vm.name = vmbda.virtualMachineName) (alone : otherAttachment c vmbda = false) :
    getBlockDeviceAttachmentName c vm vmbda.blockDeviceRef = vmbda.name := by
  unfold getBlockDeviceAttachmentName
  have own : vmbda ∈ virtualMachineBlockDeviceAttachments c vm := by
    simp [virtualMachineBlockDeviceAttachments, member, sameNs, sameName]
  split
  · rename_i other found
    have listed := mem_of_find?_eq_some found
    have device : other.blockDeviceRef = vmbda.blockDeviceRef := by simpa using find?_some found
    simp only [virtualMachineBlockDeviceAttachments, mem_filter, decide_eq_true_eq, sameNs, sameName] at listed
    by_contra different
    have excluded := any_eq_false.mp alone other listed.1
    simp [listed.2.1, listed.2.2, device, different] at excluded
  rename_i absent
  have missing := find?_eq_none.mp absent vmbda own
  simp at missing

theorem isAttached_of_templateVolume {kvvm : KVVM} {volume : Volume} (member : vmbda ∈ c.vmbdas)
    (machine : c.fetchVM vmbda.ns vmbda.virtualMachineName = some vm)
    (found : c.fetchKVVM vmbda.ns vmbda.virtualMachineName = some kvvm)
    (computed : getBlockDeviceStatusRefs c vm = some vm.statusRefs)
    (resolved : NamesResolve c vm kvvm vmbda.blockDeviceRef) (alone : otherAttachment c vmbda = false)
    (unnamed : vmbda.blockDeviceRef ∉ vm.blockDeviceRefs)
    (present : templateVolume kvvm (generateVMBDADiskName vmbda.blockDeviceRef) = some volume)
    (hotpluggable : Hotpluggable volume) : isAttached (some vm) (some kvvm) vmbda := by
  obtain ⟨sameNs, sameName⟩ := Cluster.fetchVM_key machine
  have plugged : isHotplugged volume (volumeStatusByName (c.fetchKVVMI vm.ns vm.name) volume.name) := by
    unfold isHotplugged
    unfold Hotpluggable at hotpluggable
    cases source : volume.source <;> simp_all
  rcases find?_statusRefs (by rwa [sameNs, sameName]) computed resolved with listed | ⟨absent, -⟩
  · simp only [isAttached, listed, present, map_some, volumeStatusRef, plugged, unnamed, not_false_eq_true,
      and_self, if_true, getBlockDeviceAttachmentName_eq member sameNs sameName alone, decide_true]
  rw [present] at absent
  cases absent

theorem unnamed_of_isAttached {kvvm : KVVM} (named : vmbda.name ≠ "")
    (machine : c.fetchVM vmbda.ns vmbda.virtualMachineName = some vm)
    (found : c.fetchKVVM vmbda.ns vmbda.virtualMachineName = some kvvm)
    (computed : getBlockDeviceStatusRefs c vm = some vm.statusRefs)
    (resolved : NamesResolve c vm kvvm vmbda.blockDeviceRef) (attached : isAttached (some vm) (some kvvm) vmbda) :
    vmbda.blockDeviceRef ∉ vm.blockDeviceRefs := by
  obtain ⟨sameNs, sameName⟩ := Cluster.fetchVM_key machine
  intro specified
  dsimp only [isAttached] at attached
  rcases find?_statusRefs (by rwa [sameNs, sameName]) computed resolved with listed | ⟨-, fixed⟩
  · rw [listed] at attached
    cases volume : templateVolume kvvm (generateVMBDADiskName vmbda.blockDeviceRef) with
    | none => simp [volume] at attached
    | some volume =>
      simp only [volume, map_some, volumeStatusRef, specified, not_true_eq_false, and_false, if_false,
        decide_eq_true_eq] at attached
      exact named attached.2.symm
  split at attached
  · rename_i bdRef listed
    have plain := fixed bdRef listed
    simp [plain] at attached
  · cases attached

end

theorem Sound.lawful {w : World} (sound : Sound w) {action : Action} (settled : Settled w action) :
    Lawful w action := by
  cases action with
  | lifeCycle | refresh | takeUp | delete | specify | edit => exact True.intro
  | deletion ns name =>
    intro vmbda listed
    have member : vmbda ∈ w.cluster.vmbdas := mem_of_find?_eq_some listed
    constructor
    · intro released requested plugged
      obtain ⟨deleted, detached⟩ := deletionHandler_released released
      obtain ⟨upToDate, alone⟩ := settled vmbda listed (isSome_iff_ne_none.mpr deleted)
      obtain ⟨kvvm, found, held⟩ := (any_eq_true _ _).mp plugged
      obtain ⟨idle, vm, machine, computed, resolved⟩ := upToDate kvvm found
      obtain ⟨volume, present⟩ : ∃ volume,
          templateVolume kvvm (generateVMBDADiskName vmbda.blockDeviceRef) = some volume := by
        rcases of_decide_eq_true held with present | pending
        · exact isSome_iff_exists.mp present
        · simp [pendingAdd, idle] at pending
      have hotpluggable : Hotpluggable volume := by
        have generated : volume.name = generateVMBDADiskName vmbda.blockDeviceRef := by simpa using find?_some present
        exact sound.plugged _ requested kvvm found volume (mem_of_find?_eq_some present) generated
      by_cases specified : vmbda.blockDeviceRef ∈ vm.blockDeviceRefs
      · rw [mem_def] at machine
        simp [namedElsewhere, machine, specified]
      rw [machine, found, isAttached_of_templateVolume member machine found computed resolved alone specified present
        hotpluggable] at detached
      cases detached
    intro unplugged
    obtain ⟨_, sent⟩ := isSome_iff_exists.mp unplugged
    obtain ⟨deleted, -, attached⟩ := deletionHandler_unplugs sent
    obtain ⟨upToDate, alone⟩ := settled vmbda listed (isSome_iff_ne_none.mpr deleted)
    cases found : w.cluster.fetchKVVM vmbda.ns vmbda.virtualMachineName with
    | none => simp [isAttached, found] at attached
    | some kvvm =>
      obtain ⟨-, _, machine, computed, resolved⟩ := upToDate kvvm found
      rw [mem_def] at machine
      rw [machine, found] at attached
      have unnamed := unnamed_of_isAttached (sound.named vmbda member) machine found computed resolved attached
      simp [namedElsewhere, machine, unnamed, alone]

/-- In every run in which deletions are handled with the VM up to date, an attachment goes away
    only after its device is out. -/
theorem released_after_detach {c : Cluster} (initial : Initial c) {actions : List Action}
    (along : Along step Settled (World.start c) actions) : Along step Lawful (World.start c) actions := by
  have preserved : ∀ s e t, Sound s → Settled s e → step s e = some t → Sound t :=
    fun _ _ _ sound _ taken => sound.step taken
  exact along.of_invariant preserved (fun _ _ sound settled => sound.lawful settled) (Sound.start initial)

/-- What waits to be plugged in is hotpluggable, and so is what is plugged in under the name of a device that was asked
    for, whatever becomes of the attachment, the VM and its specification meanwhile. -/
theorem requested_volumes_hotpluggable {c : Cluster} (initial : Initial c) (actions : List Action) :
    Along step (fun w _ => Sound w) (World.start c) actions :=
  Along.of_preserved (fun _ _ _ sound => sound.step) (Sound.start initial) actions

def readyAttachment : VMBDA :=
  { newAttachment "data" with conditions := allReady, finalizers := [.vmbdaCleanup] }

def plugIn : List Action :=
  [.lifeCycle "default" "data" (answering true),
    .takeUp "default" "web" (.addVolume ⟨"vd-data", .persistentVolumeClaim "pvc-data" true⟩)]

theorem readyAttachment_initial : Initial (runningWith [] [readyAttachment]) :=
  ⟨by decide, by simp [runningWith]⟩

/-- The first pass asks for the volume to be taken out, the second one finds it gone and removes the finalizer. -/
def deletedInTurn : List Action :=
  plugIn ++ [.refresh "default" "web", .delete "default" "data" 9, .deletion "default" "data" (answering true),
    .takeUp "default" "web" (.removeVolume "vd-data"), .refresh "default" "web",
    .deletion "default" "data" (answering true)]

theorem released_after_detach_refreshed :
    ((run step (World.start (runningWith [] [readyAttachment])) deletedInTurn).map (·.cluster.vmbdas)) = some [] ∧
      Along step Lawful (World.start (runningWith [] [readyAttachment])) deletedInTurn :=
  ⟨by decide, released_after_detach readyAttachment_initial (by decide)⟩

theorem requested_volumes_hotpluggable_plugIn :
    ((run step (World.start (runningWith [] [readyAttachment])) plugIn).map (·.requested.length)) = some 1 ∧
      Along step (fun w _ => Sound w) (World.start (runningWith [] [readyAttachment])) plugIn :=
  ⟨by decide, requested_volumes_hotpluggable readyAttachment_initial plugIn⟩

/-- Handled before the VM controller has refreshed its status, a deletion lets go of a plugged
    device, and one that has come into the specification since is unplugged. -/
theorem stale_status_released :
    (¬ ∀ (c : Cluster) (actions : List Action), Initial c → Along step Lawful (World.start c) actions) ∧
    ¬ Along step Lawful (World.start (runningWith [] [readyAttachment]))
      (plugIn ++ [.delete "default" "data" 9, .deletion "default" "data" (answering true)]) ∧
    ¬ Along step Lawful (World.start (runningWith [] [readyAttachment]))
      (plugIn ++ [.refresh "default" "web", .specify "default" "web" [⟨.diskDevice, "data"⟩],
        .delete "default" "data" 9, .deletion "default" "data" (answering true)]) := by
  have released : ¬ Along step Lawful (World.start (runningWith [] [readyAttachment]))
      (plugIn ++ [.delete "default" "data" 9, .deletion "default" "data" (answering true)]) := by decide
  exact ⟨fun holds => released (holds _ _ readyAttachment_initial), released, by decide⟩

end Detach

end Virtualization.Attachment
