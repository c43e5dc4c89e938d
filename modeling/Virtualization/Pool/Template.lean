import Virtualization.Pool.Disks

namespace Virtualization.Pool.Template

open Virtualization.Core Disks Library List Store

variable {σ : Type} [DecidableEq σ]

inductive Failure where
  | listMembers
  | patchReplica (vm : String)
  | markReplica (vm : String)

structure Env (σ : Type) where
  answers : Nat → Answer
  computeTemplateHash : VirtualMachineTemplateSpec σ → String

structure Session (σ : Type) where
  vms : Store (Member σ)
  calls : Nat
  errors : List Failure

variable (env : Env σ) (pool : TemplatedPool σ) (s : Session σ) (vm : Member σ)

def applyTemplateSpec (template : VirtualMachineTemplateSpec σ) : Member σ :=
  { vm with spec := template.spec }

def awaitingRestart : Bool := vm.awaitingRestart = .conditionTrue

def updateVM (failure : Failure) (s : Session σ) : Session σ :=
  match s.vms.request (env.answers s.calls) (s.vms.update vm) with
  | (.done, vms) => { s with vms, calls := s.calls + 1 }
  | (_, vms) => { vms, calls := s.calls + 1, errors := s.errors ++ [failure] }

def handleMember : Session σ :=
  let desiredHash := env.computeTemplateHash pool.virtualMachineTemplate
  if vm.deletionTimestamp.isSome then s
  else if vm.patchedTemplateHash.getD "" ≠ desiredHash then
    updateVM env { applyTemplateSpec vm pool.virtualMachineTemplate with patchedTemplateHash := some desiredHash }
      (.patchReplica vm.name) s
  else if awaitingRestart vm then s
  else if vm.templateHash.getD "" ≠ desiredHash then
    updateVM env { vm with templateHash := some desiredHash } (.markReplica vm.name) s
  else s

def handle : Session σ :=
  if pool.deletionTimestamp.isSome then s
  else if env.answers s.calls ≠ .ok then { s with calls := s.calls + 1, errors := s.errors ++ [.listMembers] }
  else (members pool s.vms).foldl (handleMember env pool) { s with calls := s.calls + 1 }

section Treated

variable {env pool}

inductive Treated (hash : VirtualMachineTemplateSpec σ → String) (pool : TemplatedPool σ) (vm : Member σ) :
    Member σ → Prop where
  | same : Treated hash pool vm vm
  | patched (n : Nat) (ofPool : isMember pool vm) (live : vm.deletionTimestamp = none)
      (other : vm.patchedTemplateHash.getD "" ≠ hash pool.virtualMachineTemplate) : Treated hash pool vm
      (stamp n { applyTemplateSpec vm pool.virtualMachineTemplate with
        patchedTemplateHash := some (hash pool.virtualMachineTemplate) })
  | advanced (n : Nat) (ofPool : isMember pool vm) (live : vm.deletionTimestamp = none)
      (current : vm.patchedTemplateHash.getD "" = hash pool.virtualMachineTemplate)
      (quiet : awaitingRestart vm = false) (behind : vm.templateHash.getD "" ≠ hash pool.virtualMachineTemplate) :
      Treated hash pool vm (stamp n { vm with templateHash := some (hash pool.virtualMachineTemplate) })

variable {vm : Member σ}

omit [DecidableEq σ] in
theorem Treated.keeps {hash : VirtualMachineTemplateSpec σ → String} {later : Member σ}
    (treated : Treated hash pool vm later) :
    later.toVirtualMachine = vm.toVirtualMachine ∧ later.blockDeviceRefs = vm.blockDeviceRefs := by
  cases treated <;> exact ⟨rfl, rfl⟩

variable {s : Session σ}

theorem updateVM_cases (env : Env σ) (found : s.vms.get? vm.name = some vm) (new : Member σ)
    (named : new.name = vm.name) (version : new.resourceVersion = vm.resourceVersion) (failure : Failure) :
    (updateVM env new failure s).vms = s.vms ∨ (updateVM env new failure s).vms = s.vms.write new := by
  have outcome := s.vms.request_cases (env.answers s.calls) (s.vms.update new)
  have written : ∀ vms, s.vms.update new = .ok vms → vms = s.vms ∨ vms = s.vms.write new := by
    intro vms updated
    exact (update_ok updated (.of_get? found) named version).2.imp_left And.left
  unfold updateVM
  split <;> rename_i answered <;> rw [answered] at outcome
  all_goals exact outcome.elim (fun kept => .inl kept.1) (written _)

theorem updateVM_get? (env : Env σ) (found : s.vms.get? vm.name = some vm) (new : Member σ)
    (named : new.name = vm.name) (version : new.resourceVersion = vm.resourceVersion) (failure : Failure) :
    (∀ name, name ≠ vm.name → (updateVM env new failure s).vms.get? name = s.vms.get? name) ∧
      ∀ later, (updateVM env new failure s).vms.get? vm.name = some later → later = vm ∨ ∃ n, later = stamp n new := by
  rcases updateVM_cases env found new named version failure with kept | written
  · rw [kept]
    refine ⟨fun _ _ => rfl, fun later there => .inl ?_⟩
    exact Option.some.inj (there.symm.trans found)
  rw [written]
  refine ⟨fun name other => get?_write_other fun same => other (same.trans named), fun later there => .inr ?_⟩
  rw [get?_write_self found named] at there
  exact ⟨_, (Option.some.inj there).symm⟩

theorem handleMember_spec (env : Env σ) (pool : TemplatedPool σ) (found : s.vms.get? vm.name = some vm)
    (ofPool : isMember pool vm) :
    (∀ name, name ≠ vm.name → (handleMember env pool s vm).vms.get? name = s.vms.get? name) ∧
      ∀ later, (handleMember env pool s vm).vms.get? vm.name = some later →
        Treated env.computeTemplateHash pool vm later := by
  have idle : (∀ name, name ≠ vm.name → s.vms.get? name = s.vms.get? name) ∧
      ∀ later, s.vms.get? vm.name = some later →
        Treated env.computeTemplateHash pool vm later := by
    refine ⟨fun _ _ => rfl, fun _ there => ?_⟩
    cases found.symm.trans there
    exact .same
  unfold handleMember
  dsimp only
  split
  · exact idle
  rename_i running
  have live : vm.deletionTimestamp = none := by simpa using running
  split
  · rename_i other
    have outcome := updateVM_get? env found ({ applyTemplateSpec vm pool.virtualMachineTemplate with
      patchedTemplateHash := some (env.computeTemplateHash pool.virtualMachineTemplate) }) rfl rfl
      (.patchReplica vm.name)
    refine ⟨outcome.1, fun later there => ?_⟩
    rcases outcome.2 later there with rfl | ⟨n, rfl⟩
    · exact .same
    · exact .patched n ofPool live other
  rename_i current
  split
  · exact idle
  rename_i quiet
  split
  · rename_i behind
    have outcome := updateVM_get? env found ({ vm with
      templateHash := some (env.computeTemplateHash pool.virtualMachineTemplate) }) rfl rfl (.markReplica vm.name)
    refine ⟨outcome.1, fun later there => ?_⟩
    rcases outcome.2 later there with rfl | ⟨n, rfl⟩
    · exact .same
    · exact .advanced n ofPool live (not_not.mp current) (Bool.not_eq_true _ ▸ quiet) behind
  · exact idle

theorem handle_treated (env : Env σ) (pool : TemplatedPool σ) (s : Session σ) {name : String} {later : Member σ}
    (there : (handle env pool s).vms.get? name = some later) : ∃ before, s.vms.get? name = some before ∧
      Treated env.computeTemplateHash pool before later := by
  have loop : ∀ (list : List (Member σ)) (t : Session σ), (list.map (·.name)).Nodup →
      (∀ vm ∈ list, t.vms.get? vm.name = some vm ∧ isMember pool vm = true) →
      (∀ name, name ∉ list.map (·.name) →
        (list.foldl (handleMember env pool) t).vms.get? name = t.vms.get? name) ∧
      ∀ vm ∈ list, ∀ later, (list.foldl (handleMember env pool) t).vms.get? vm.name = some later →
        Treated env.computeTemplateHash pool vm later := by
    intro list
    induction list with
    | nil => exact fun t _ _ => ⟨fun _ _ => rfl, nofun⟩
    | cons vm rest ih =>
      intro t distinct read
      obtain ⟨absent, distinctRest⟩ := nodup_cons.mp distinct
      obtain ⟨others, treated⟩ := handleMember_spec env pool (read vm mem_cons_self).1 (read vm mem_cons_self).2
      have readRest : ∀ other ∈ rest, (handleMember env pool t vm).vms.get? other.name = some other ∧
          isMember pool other = true := by
        intro other member
        have different : other.name ≠ vm.name := fun same => absent (mem_map.mpr ⟨other, member, same⟩)
        rw [others _ different]
        exact read other (mem_cons_of_mem _ member)
      obtain ⟨outside, inside⟩ := ih _ distinctRest readRest
      refine ⟨fun name away => ?_, fun other member later found => ?_⟩
      · obtain ⟨different, notRest⟩ := not_or.mp (fun either => away (mem_cons.mpr either))
        exact (outside name notRest).trans (others name different)
      rcases mem_cons.mp member with rfl | listed
      · exact treated later ((outside _ absent).symm.trans found)
      · exact inside other listed later found
  have untouched : s.vms.get? name = some later → ∃ before, s.vms.get? name = some before ∧
      Treated env.computeTemplateHash pool before later := fun found => ⟨later, found, .same⟩
  unfold handle at there
  split at there
  · exact untouched there
  split at there
  · exact untouched there
  have distinct : ((members pool s.vms).map (·.name)).Nodup :=
    s.vms.unique.sublist (filter_sublist.map _)
  obtain ⟨outside, inside⟩ := loop (members pool s.vms) { s with calls := s.calls + 1 } distinct
    fun vm member => ⟨get?_of_mem (mem_of_mem_filter member), (mem_filter.mp member).2⟩
  by_cases listed : name ∈ (members pool s.vms).map (·.name)
  · obtain ⟨vm, member, rfl⟩ := mem_map.mp listed
    exact ⟨vm, get?_of_mem (mem_of_mem_filter member), inside vm member later there⟩
  · exact untouched ((outside name listed).symm.trans there)

end Treated

end Virtualization.Pool.Template
