import Virtualization.Library.Run
import Virtualization.Machine.Configuration
import Virtualization.Pool.Template

namespace Virtualization.Pool.Revision

open Virtualization.Core Library List.Subset Option Store Template
open Disks (isMember)
open Machine.Configuration (Comparator Surroundings isDisruptive agrees agrees_self concludes handle_applied
  handle_agrees)

variable {σ : Type} [DecidableEq σ]

structure Setting (σ : Type) where
  pool : TemplatedPool σ
  comparator : Comparator σ
  computeTemplateHash : VirtualMachineTemplateSpec σ → String

/-- The members, the templates that the pool has had and, for each member, the spec that is applied to its KVVM.
    `confirmed` is history: the last reconcile of the member that has left a mark came after the last patch, and it has
    concluded or applied the spec. -/
structure Fleet (σ : Type) where
  vms : Store (Member σ)
  revisions : List (VirtualMachineTemplateSpec σ)
  kvvms : String → Option σ
  confirmed : String → Bool

inductive Move (σ : Type) where
  | edit (template : VirtualMachineTemplateSpec σ)
  | create (template : VirtualMachineTemplateSpec σ) (vm : Member σ)
  | pass (answers : Nat → Answer) (template : VirtualMachineTemplateSpec σ)
  | reconcile (name : String) (env : Surroundings) (recorded : Bool)
  | restart (name : String)

def patchedAt (vms : Store (Member σ)) (name : String) : Option String :=
  (vms.get? name).bind (·.patchedTemplateHash)

variable (setting : Setting σ) (f : Fleet σ)

/-- A pass of `TemplateHandler` over the pool with a template that it has or had: the pool it is given may be old. -/
def passed (answers : Nat → Answer) (template : VirtualMachineTemplateSpec σ)
    (vms : Store (Member σ)) : Store (Member σ) :=
  (Template.handle { answers, computeTemplateHash := setting.computeTemplateHash }
    { setting.pool with virtualMachineTemplate := template } { vms, calls := 0, errors := [] }).vms

def isNewMember (template : VirtualMachineTemplateSpec σ) (vm : Member σ) : Prop :=
  vm.spec = template.spec ∧ vm.templateHash = some (setting.computeTemplateHash template) ∧
    vm.patchedTemplateHash = none ∧ vm.awaitingRestart = .unset

instance (setting : Setting σ) (template : VirtualMachineTemplateSpec σ) (vm : Member σ) :
    Decidable (isNewMember setting template vm) := by
  unfold isNewMember
  infer_instance

def withAwaitingRestart (vm : Member σ) (awaiting : Bool) : Member σ :=
  { vm with awaitingRestart := if awaiting then .conditionTrue else .unset }

def step : Move σ → Option (Fleet σ)
  | .edit template => some { f with revisions := template :: f.revisions }
  | .create template vm =>
    if template ∈ f.revisions ∧ isNewMember setting template vm ∧ f.kvvms vm.name = none then
      match f.vms.create vm with
      | .error _ => none
      | .ok vms => some { f with vms, confirmed := fun name => name ≠ vm.name ∧ f.confirmed name }
    else none
  | .pass answers template =>
    if template ∈ f.revisions then
      let vms := passed setting answers template f.vms
      some { f with vms, confirmed := fun name => f.confirmed name ∧ patchedAt vms name = patchedAt f.vms name }
    else none
  | .reconcile name env recorded =>
    match f.vms.get? name with
    | none => none
    | some vm =>
      let deleted := vm.deletionTimestamp.isSome
      let result := Machine.Configuration.handle setting.comparator env deleted vm.spec (f.kvvms name)
      some { f with
        vms := if recorded then f.vms.write (withAwaitingRestart vm result.1) else f.vms
        kvvms := fun other => if other = name then result.2 else f.kvvms other
        confirmed := fun other =>
          if other = name then
            result.2 = some vm.spec ∨ (if recorded then concludes env deleted else f.confirmed name)
          else f.confirmed other }
  | .restart name =>
    match f.vms.get? name, f.kvvms name with
    | some vm, some _ =>
      some { f with
        kvvms := fun other => if other = name then some vm.spec else f.kvvms other
        confirmed := fun other => other = name ∨ f.confirmed other }
    | _, _ => none

/-- A pass advances a label only after the reconcile that follows the patch, and it patches no member back to the
    revision in its label as long as a restart is needed to get there. -/
def Timely : Move σ → Prop
  | .pass _ template => ∀ vm ∈ f.vms.objects, isMember setting.pool vm → vm.deletionTimestamp = none →
    let desired := setting.computeTemplateHash template
    (vm.patchedTemplateHash = some desired → vm.templateHash ≠ some desired → Template.awaitingRestart vm = false →
      f.confirmed vm.name) ∧
    (vm.patchedTemplateHash ≠ some desired → vm.templateHash = some desired →
      agrees setting.comparator (f.kvvms vm.name) template.spec)
  | .edit _ | .create _ _ | .reconcile _ _ _ | .restart _ => True

instance (setting : Setting σ) (f : Fleet σ) (move : Move σ) : Decidable (Timely setting f move) := by
  cases move <;> unfold Timely <;> infer_instance

def Initial : Prop :=
  (∀ vm ∈ f.vms.objects, isMember setting.pool vm →
    (∃ template ∈ f.revisions, isNewMember setting template vm) ∧ f.kvvms vm.name = none) ∧
  ∀ name, f.confirmed name = false

/-- What is known of a member: its spec is that of the revision it has been patched to last, or created on, and what is
    applied agrees with it where the label says so or a reconcile has confirmed it. -/
structure Sound (setting : Setting σ) (f : Fleet σ) (vm : Member σ) : Prop where
  revision : ∀ hash, (vm.patchedTemplateHash = some hash ∨
    vm.patchedTemplateHash = none ∧ vm.templateHash = some hash) →
    ∃ template ∈ f.revisions, setting.computeTemplateHash template = hash ∧ template.spec = vm.spec
  labelled : ∀ hash, vm.templateHash = some hash →
    (vm.patchedTemplateHash = none ∨ vm.patchedTemplateHash = some hash) →
      agrees setting.comparator (f.kvvms vm.name) vm.spec
  confirmed : f.confirmed vm.name → Template.awaitingRestart vm = false →
    agrees setting.comparator (f.kvvms vm.name) vm.spec

def AllSound : Prop :=
  ∀ vm ∈ f.vms.objects, isMember setting.pool vm → Sound setting f vm

variable {setting : Setting σ} {f : Fleet σ} {template : VirtualMachineTemplateSpec σ} {g : Fleet σ}

section

omit [DecidableEq σ]

variable {vm : Member σ}

theorem Sound.carried (sound : Sound setting f vm) (revisions : f.revisions ⊆ g.revisions)
    (applied : g.kvvms vm.name = f.kvvms vm.name) (confirmed : g.confirmed vm.name → f.confirmed vm.name) :
    Sound setting g vm where
  revision := by
    intro hash recorded
    obtain ⟨template, listed, same⟩ := sound.revision hash recorded
    exact ⟨template, revisions listed, same⟩
  labelled := by
    rw [applied]
    exact sound.labelled
  confirmed := by
    rw [applied]
    exact fun now => sound.confirmed (confirmed now)

theorem isNewMember_sound (listed : template ∈ f.revisions) (new : isNewMember setting template vm)
    (unapplied : f.kvvms vm.name = none) : Sound setting f vm where
  revision := by
    obtain ⟨spec, label, unpatched, -⟩ := new
    rintro hash (patched | ⟨-, labelled⟩)
    · rw [unpatched] at patched
      cases patched
    · exact ⟨template, listed, some.inj (label.symm.trans labelled), spec.symm⟩
  labelled := by
    rw [unapplied]
    exact fun _ _ _ => rfl
  confirmed := by
    rw [unapplied]
    exact fun _ _ => rfl

theorem some_of_getD {hash : String} {value : Option String} (nonempty : hash ≠ "") (same : value.getD "" = hash) :
    value = some hash := by
  cases value with
  | none => exact absurd same.symm nonempty
  | some => rw [← same]; rfl

theorem Sound.treated {answers : Nat → Answer} {before later : Member σ}
    (nonempty : setting.computeTemplateHash template ≠ "") (listed : template ∈ f.revisions)
    (timely : Timely setting f (.pass answers template)) (stored : before ∈ f.vms.objects)
    (sound : Sound setting f before)
    (treated : Template.Treated setting.computeTemplateHash { setting.pool with virtualMachineTemplate := template }
      before later)
    (revisions : g.revisions = f.revisions) (kvvms : g.kvvms = f.kvvms)
    (confirmed : g.confirmed before.name = true → f.confirmed before.name = true ∧
      later.patchedTemplateHash = before.patchedTemplateHash) :
    Sound setting g later := by
  cases treated with
  | same =>
    exact sound.carried (by rw [revisions]; exact refl _) (by rw [kvvms]) fun now => (confirmed now).1
  | patched _ ofPool live other =>
    have moved : before.patchedTemplateHash ≠ some (setting.computeTemplateHash template) := by
      intro same
      rw [same] at other
      exact other rfl
    refine ⟨fun hash recorded => ?_, fun _ label patched => ?_, fun now _ => ?_⟩
    · rcases recorded with patched | ⟨unpatched, -⟩
      · exact ⟨template, revisions ▸ listed, some.inj patched, rfl⟩
      · cases unpatched
    · -- The label can only be that of the desired revision where the pass goes back to it.
      have back : before.templateHash = some (setting.computeTemplateHash template) := by
        rcases patched with unpatched | same
        · cases unpatched
        · exact label.trans same.symm
      rw [kvvms]
      exact (timely before stored ofPool live).2 moved back
    · exact absurd (confirmed now).2.symm moved
  | advanced _ ofPool live current quiet behind =>
    have patchedNow := some_of_getD nonempty current
    have agreed : agrees setting.comparator (f.kvvms before.name) before.spec := by
      refine sound.confirmed ((timely before stored ofPool live).1 patchedNow (fun label => ?_) quiet) quiet
      rw [label] at behind
      exact behind rfl
    refine ⟨fun hash recorded => ?_, fun hash _ patched => ?_, fun _ _ => ?_⟩
    · rw [revisions]
      refine sound.revision hash (.inl ?_)
      rcases recorded with patched | ⟨unpatched, -⟩
      · exact patched
      · exact absurd (patchedNow.symm.trans unpatched) nofun
    · rw [kvvms]
      exact agreed
    rw [kvvms]
    exact agreed

theorem Sound.reapplied {later : Member σ} (sound : Sound setting f vm) (name : later.name = vm.name)
    (spec : later.spec = vm.spec) (label : later.templateHash = vm.templateHash)
    (patched : later.patchedTemplateHash = vm.patchedTemplateHash) (revisions : g.revisions = f.revisions)
    (applied : g.kvvms vm.name = f.kvvms vm.name ∨ g.kvvms vm.name = some vm.spec)
    (confirmed : g.confirmed vm.name → awaitingRestart later = false →
      agrees setting.comparator (g.kvvms vm.name) vm.spec) :
    Sound setting g later where
  revision := by
    rw [patched, label, spec, revisions]
    exact sound.revision
  labelled := by
    rw [label, patched, name, spec]
    intro hash labelled recorded
    rcases applied with kept | new
    · rw [kept]
      exact sound.labelled hash labelled recorded
    rw [new]
    exact agrees_self _ _
  confirmed := by
    rw [name, spec]
    exact confirmed

theorem isMember_congr {pool : TemplatedPool σ} {one other : Member σ}
    (same : one.toVirtualMachine = other.toVirtualMachine) (ofPool : isMember pool one) : isMember pool other := by
  unfold isMember at ofPool ⊢
  rw [← same]
  exact ofPool

end

variable {vm : Member σ} {g : Fleet σ}

theorem create_sound (sound : AllSound setting f) (created : step setting f (.create template vm) = some g) :
    AllSound setting g := by
  simp only [step] at created
  split at created
  · rename_i guard
    obtain ⟨listed, new, unapplied⟩ := guard
    split at created
    · cases created
    rename_i vms stored
    cases created
    intro later member ofPool
    have found := get?_of_mem member
    rw [get?_create stored] at found
    split at found
    · cases found
      exact isNewMember_sound (f := { f with vms, confirmed := _ }) listed new unapplied
    refine (sound later (mem_of_get? found) ofPool).carried (refl _) rfl fun now => ?_
    exact (of_decide_eq_true now).2
  · cases created

theorem pass_sound {answers : Nat → Answer} (nonempty : setting.computeTemplateHash template ≠ "")
    (sound : AllSound setting f) (timely : Timely setting f (.pass answers template))
    (moved : step setting f (.pass answers template) = some g) : AllSound setting g := by
  obtain ⟨listed, ⟨⟩⟩ := ite_none_right_eq_some.mp moved
  intro later member ofPool
  have there := get?_of_mem member
  obtain ⟨before, found, treated⟩ := handle_treated _ _ _ there
  have named : before.name = later.name := congrArg (·.name) treated.keeps.1.symm
  have ofPoolBefore := isMember_congr treated.keeps.1 ofPool
  refine (sound before (mem_of_get? found) ofPoolBefore).treated nonempty listed timely
    (mem_of_get? found) treated rfl rfl fun now => ?_
  obtain ⟨was, same⟩ := of_decide_eq_true now
  refine ⟨was, ?_⟩
  have after : patchedAt (passed setting answers template f.vms) before.name = later.patchedTemplateHash := by
    rw [named]
    exact congrArg (fun vm : Option (Member σ) => vm.bind (·.patchedTemplateHash)) there
  have initially : patchedAt f.vms before.name = before.patchedTemplateHash := by
    rw [named]
    exact congrArg (fun vm : Option (Member σ) => vm.bind (·.patchedTemplateHash)) found
  exact after.symm.trans (same.trans initially)

omit [DecidableEq σ] in
theorem not_awaiting_of_quiet {n : Nat} {awaiting : Bool}
    (quiet : awaitingRestart (stamp n (withAwaitingRestart vm awaiting)) = false) : awaiting = false := by
  cases awaiting with
  | false => rfl
  | true => cases quiet

variable {name : String}

omit [DecidableEq σ] in
theorem Sound.elsewhere {vms : Store (Member σ)} {applied : Option σ} {confirmed : Bool} (other : vm.name ≠ name)
    (sound : Sound setting f vm) : Sound setting
      { vms, revisions := f.revisions, kvvms := fun other => if other = name then applied else f.kvvms other
        confirmed := fun other => if other = name then confirmed else f.confirmed other } vm := by
  refine sound.carried (refl _) (if_neg other) fun now => ?_
  dsimp only at now
  rw [if_neg other] at now
  exact now

theorem reconcile_sound {env : Surroundings} {recorded : Bool} (sound : AllSound setting f)
    (moved : step setting f (.reconcile name env recorded) = some g) : AllSound setting g := by
  simp only [step] at moved
  split at moved
  · cases moved
  rename_i vm found
  cases moved
  have named : vm.name = name := key_of_get? found
  subst named
  have applied := handle_applied setting.comparator env vm.deletionTimestamp.isSome vm.spec (f.kvvms vm.name)
  intro later member ofPool
  have there := get?_of_mem member
  cases recorded with
  | false =>
    by_cases same : later.name = vm.name
    · have isVM : later = vm := some.inj ((there.symm.trans (congrArg _ same)).trans found)
      subst isVM
      refine (sound later (mem_of_get? found) ofPool).reapplied rfl rfl rfl rfl rfl ?_ ?_
      · simpa using applied
      intro now quiet
      simp only [if_true, Bool.false_eq_true, if_false, decide_eq_true_eq] at now ⊢
      rcases now with new | before
      · rw [new]
        exact agrees_self _ _
      rcases applied with kept | new
      · rw [kept]
        exact (sound later (mem_of_get? found) ofPool).confirmed before quiet
      rw [new]
      exact agrees_self _ _
    · exact (sound later (mem_of_get? there) ofPool).elsewhere same
  | true =>
    rw [if_pos rfl, get?_write] at there
    split at there
    · obtain ⟨_, -, rfl⟩ := map_eq_some_iff.mp there
      have before := sound vm (mem_of_get? found) (isMember_congr rfl ofPool)
      refine before.reapplied rfl rfl rfl rfl rfl ?_ ?_
      · simpa using applied
      intro now quiet
      simp only [if_true, decide_eq_true_eq] at now ⊢
      rcases now with new | concluded
      · rw [new]
        exact agrees_self _ _
      · exact handle_agrees concluded (not_awaiting_of_quiet quiet)
    rename_i other
    exact (sound later (mem_of_get? there) ofPool).elsewhere other

theorem restart_sound (sound : AllSound setting f) (moved : step setting f (.restart name) = some g) :
    AllSound setting g := by
  simp only [step] at moved
  split at moved
  · rename_i vm _ found _
    cases moved
    have named : vm.name = name := key_of_get? found
    subst named
    intro later member ofPool
    by_cases same : later.name = vm.name
    · have isVM : later = vm :=
        some.inj (((get?_of_mem member).symm.trans (congrArg _ same)).trans found)
      subst isVM
      refine (sound later (mem_of_get? found) ofPool).reapplied rfl rfl rfl rfl rfl (.inr (if_pos rfl)) fun _ _ => ?_
      dsimp only
      rw [if_pos rfl]
      exact agrees_self _ _
    refine (sound later member ofPool).carried (refl _) (if_neg same) fun now => ?_
    exact (of_decide_eq_true now).resolve_left same
  · cases moved

theorem step_sound (nonempty : ∀ template, setting.computeTemplateHash template ≠ "") (f : Fleet σ) (move : Move σ)
    (g : Fleet σ) (sound : AllSound setting f) (timely : Timely setting f move)
    (moved : step setting f move = some g) : AllSound setting g := by
  cases move with
  | edit =>
    cases moved
    exact fun vm stored ofPool =>
      (sound vm stored ofPool).carried (List.subset_cons_self _ _) rfl id
  | create => exact create_sound sound moved
  | pass _ template => exact pass_sound (nonempty template) sound timely moved
  | reconcile => exact reconcile_sound sound moved
  | restart => exact restart_sound sound moved

def numbered : Setting Nat :=
  { pool :=
      { uid := 1, ns := "default", name := "workers", replicas := some 1, scaleDownPolicy := .explicit
        deletionTimestamp := none
        virtualMachineTemplate := { metadata := "", spec := 0, blockDeviceRefs := [] }, virtualDiskTemplates := [] }
    comparator :=
      { compare := fun one other => if one = other then [] else [.restart], compare_self := fun _ => if_pos rfl }
    computeTemplateHash := fun template => if template.spec = 0 then "a" else "b" }

def revision (spec : Nat) : VirtualMachineTemplateSpec Nat := { metadata := "", spec, blockDeviceRefs := [] }

def newborn : Member Nat :=
  { uid := 2, ns := "default", name := "workers-a", poolUIDLabel := some 1
    controllerOf := some ⟨schemeGroupVersion, virtualMachinePoolKind, "workers", 1⟩, creationTimestamp := 0
    deletionTimestamp := none, resourceVersion := 1, blockDeviceRefs := [], spec := 0, templateHash := some "a"
    patchedTemplateHash := none, awaitingRestart := .unset, blockDevicesReady := .unset }

def newFleet : Fleet Nat :=
  { vms :=
      { revision := 1, objects := [newborn], unique := List.nodup_singleton _
        bounded := by
          intro vm member
          rw [List.mem_singleton.mp member]
          exact Nat.le_refl 1 }
    revisions := [revision 0], kvvms := fun _ => none, confirmed := fun _ => false }

theorem newFleet_initial : Initial numbered newFleet := by
  refine ⟨?_, fun _ => rfl⟩
  decide

def reconcileRunning : Move Nat :=
  .reconcile "workers-a"
    { phase := .running, kvvmFails := false, classFails := false, blockDeviceChanges := [], upgraded := fun _ => false
      quotaFails := false, pendingFails := false, classChanges := [], waiting := false, stateFails := false
      unschedulable := false, placementPolicyChanged := false, stopped := false, kvvmiExists := true, pending := false
      written := .done, kvvmiFails := false, restartRequired := false } true

def passOver (spec : Nat) : Move Nat := .pass (fun _ => .ok) (revision spec)

def misreported (setting : Setting σ) (template : VirtualMachineTemplateSpec σ) (f : Fleet σ) : Bool :=
  f.vms.objects.any fun vm => isMember setting.pool vm ∧ vm.deletionTimestamp = none ∧
    vm.templateHash = some (setting.computeTemplateHash template) ∧
    agrees setting.comparator (f.kvvms vm.name) template.spec = false

end Virtualization.Pool.Revision
