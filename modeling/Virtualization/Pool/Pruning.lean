import Virtualization.Pool.DiskPass

namespace Virtualization.Pool.Disks

open Virtualization.Core Library List Store

variable {σ : Type} {env : Env} {pool : TemplatedPool σ} {s t : Session σ} {disk : String} {vm : Member σ}
  {p : Pruning σ}

section Boot

def BootKept (s t : Session σ) : Prop :=
  ∀ name vm, s.vms.get? name = some vm →
    ∃ later, t.vms.get? name = some later ∧ later.blockDeviceRefs.head? = vm.blockDeviceRefs.head?

variable [DecidableEq σ]

theorem BootKept.pruneMember (kept : BootKept s p.session) (listed : vm ∈ members pool s.vms) (env : Env)
    (disk : String) : BootKept s (pruneMember env disk p vm).session := by
  rcases pruneMember_cases env disk p vm with same | ⟨-, -, other, detached⟩
  · rwa [same]
  intro name before found
  obtain ⟨current, there, head⟩ := kept name before found
  by_cases own : name = vm.name
  · subst own
    cases (get?_of_mem (mem_of_mem_filter listed)).symm.trans found
    -- The stored machine still boots from the device that the copy shows.
    obtain ⟨later, after, same⟩ := detached.boot current there (by rwa [bootsFrom, head])
    exact ⟨later, after, same.trans head⟩
  · exact ⟨current, (detached.other name own).trans there, head⟩

theorem BootKept.pruneDisk (kept : BootKept s t) (env : Env) (disk : VirtualDisk) :
    BootKept s (pruneDisk env pool (members pool s.vms) t disk) := by
  have pruned : BootKept s ((members pool s.vms).foldl (Disks.pruneMember env disk.name) ⟨t, false, false⟩).session :=
    foldlRecOn (motive := fun p : Pruning σ => BootKept s p.session) _ _ kept fun _ kept _ listed =>
      kept.pruneMember listed env disk.name
  unfold BootKept at kept pruned ⊢
  rcases pruneDisk_cases env pool (members pool s.vms) t disk with ⟨-, vms, -⟩ | ⟨-, vms, -⟩
  · rwa [vms]
  · rwa [vms]

end Boot

section Unattached

variable [DecidableEq σ]

theorem pruneMember_unattached (unattached : (pruneMember env disk p vm).attached = false) : p.attached = false ∧
      (sparedBy disk vm ∨ Without (pruneMember env disk p vm).session.vms vm.name disk) := by
  have without := @detachDisk_without σ env p.session vm.name disk _
  revert unattached
  unfold pruneMember
  split
  · rename_i terminating
    exact fun free => ⟨free, .inl (.inl terminating)⟩
  split
  · rename_i absent
    refine fun free => ⟨free, .inl (.inr ?_)⟩
    rw [hasDiskRef, any_eq_false]
    simpa [diskRefIndex] using absent
  · simp
  split
  · rename_i answered
    rw [answered] at without
    exact fun free => ⟨free, .inr (without (.inl rfl))⟩
  · simp

theorem pruneMembers_unattached {copies : List (Member σ)}
    (unattached : (copies.foldl (pruneMember env disk) p).attached = false) : p.attached = false ∧ ∀ vm ∈ copies,
      sparedBy disk vm ∨ Without (copies.foldl (pruneMember env disk) p).session.vms vm.name disk := by
  induction copies generalizing p with
  | nil => exact ⟨unattached, fun _ => nofun⟩
  | cons _ rest ih =>
    obtain ⟨free, others⟩ := ih unattached
    obtain ⟨free, own⟩ := pruneMember_unattached free
    refine ⟨free, fun vm member => ?_⟩
    rcases mem_cons.mp member with rfl | later
    · exact own.imp_right (·.lessened (.foldl Pruning.session (pruneMember_lessens env disk) rest _))
    · exact others vm later

theorem unheld_of_unattached (lessens : Lessens s t)
    (unattached : ((members pool s.vms).foldl (pruneMember env disk) ⟨t, false, false⟩).attached = false) :
    ∀ vm ∈ ((members pool s.vms).foldl (pruneMember env disk) ⟨t, false, false⟩).session.vms.objects,
      holdsDisk pool disk vm = false := by
  intro later stored
  have found := get?_of_mem stored
  obtain ⟨vm, listed, same, refs⟩ := (lessens.trans (.foldl Pruning.session (pruneMember_lessens env disk)
    (members pool s.vms) ⟨t, false, false⟩)).refs _ later found
  by_contra holds
  have before := holdsDisk_mono (Bool.not_eq_false _ ▸ holds) same (hasDiskRef_mono refs)
  obtain ⟨member, live, held⟩ := of_decide_eq_true before
  have isCopy : vm ∈ members pool s.vms := mem_filter.mpr ⟨mem_of_get? listed, member⟩
  rcases (pruneMembers_unattached unattached).2 vm isCopy with (terminating | absent) | without
  · rw [← Option.not_isSome, terminating] at live
    cases live
  · cases held.symm.trans absent
  · have absent := without later ((congrArg _ (key_of_get? listed)).trans found)
    obtain ⟨-, -, there⟩ := of_decide_eq_true (Bool.not_eq_false _ ▸ holds)
    cases there.symm.trans absent

end Unattached

/-- The pass deletes a disk only if its template is gone and no live member refers to it then, and no machine loses
    its boot device. -/
theorem pruning_spares_attached [DecidableEq σ] (env : Env) (pool : TemplatedPool σ) (s : Session σ) :
    let copies := members pool s.vms
    (∀ done disk rest, poolDisks pool s.disks = done ++ disk :: rest →
      let before := done.foldl (pruneDisk env pool copies) (s.read env).2
      match deletionOf env pool copies before disk with
      | none => (pruneDisk env pool copies before disk).disks = before.disks
      | some moment =>
        ofRemovedTemplate pool disk ∧ (∀ vm ∈ moment.vms.objects, holdsDisk pool disk.name vm = false) ∧
          (pruneDisk env pool copies before disk).disks =
            (moment.writeDisks env (deleteDisk env.now disk.name none moment.disks)).2.disks) ∧
    ∀ name vm, s.vms.get? name = some vm → ∃ later,
      (pruneRemovedTemplates env pool copies s).vms.get? name = some later ∧
      later.toVirtualMachine = vm.toVirtualMachine ∧ later.blockDeviceRefs.head? = vm.blockDeviceRefs.head? := by
  have lessens := pruneRemovedTemplates_lessens env pool (members pool s.vms) s
  have kept : BootKept s (pruneRemovedTemplates env pool (members pool s.vms) s) := by
    unfold pruneRemovedTemplates
    split <;> rename_i answered <;> obtain rfl := read_eq answered
    · exact fun name vm found => ⟨vm, found, rfl⟩
    · exact foldlRecOn (motive := BootKept s) _ _ (fun name vm found => ⟨vm, found, rfl⟩) fun _ kept disk _ =>
        kept.pruneDisk env disk
  refine ⟨fun done disk _ _ => ?_, fun name vm found => ?_⟩
  · have earlier : Lessens s (done.foldl (pruneDisk env pool (members pool s.vms)) (s.read env).2) :=
      (read_idle env s).lessens.trans (.foldl id (pruneDisk_lessens env pool _) done _)
    revert earlier
    generalize done.foldl (pruneDisk env pool (members pool s.vms)) (s.read env).2 = before
    intro earlier
    rcases pruneDisk_cases env pool (members pool s.vms) before disk with
      ⟨none, -, same⟩ | ⟨removed, -, ⟨none, same⟩ | ⟨unattached, issued, deleted⟩⟩
    · simp only [none, same]
    · simp only [none, same, pruneMembers_disks]
    · simp only [issued, deleted]
      exact ⟨removed, unheld_of_unattached earlier unattached, trivial⟩
  obtain ⟨later, there, head⟩ := kept name vm found
  obtain ⟨_, was, same, -⟩ := lessens.refs name later there
  cases found.symm.trans was
  exact ⟨later, there, same, head⟩

end Virtualization.Pool.Disks
