import Mathlib.Data.Finmap
import Virtualization.Library.Patch
import Virtualization.Library.Store

namespace Virtualization.Reconcile

open Library List Option PatchOperation

abbrev StringMap := Finmap fun _ : String => String

structure Metadata where
  finalizers : List String
  (annotations labels : Option StringMap)
deriving DecidableEq

inductive MetadataField where
  | finalizers | annotations | labels
deriving DecidableEq

def MetadataField.Value : MetadataField → Type
  | .finalizers => List String
  | .annotations | .labels => StringMap

instance : (f : MetadataField) → DecidableEq f.Value
  | .finalizers => inferInstanceAs (DecidableEq (List String))
  | .annotations => inferInstanceAs (DecidableEq StringMap)
  | .labels => inferInstanceAs (DecidableEq StringMap)

def finalizersValue (finalizers : List String) : Option MetadataField.finalizers.Value :=
  if finalizers = [] then none else some finalizers

def Metadata.document (m : Metadata) : (f : MetadataField) → Option f.Value
  | .finalizers => finalizersValue m.finalizers
  | .annotations => m.annotations
  | .labels => m.labels

def Metadata.ofDocument (d : (f : MetadataField) → Option f.Value) : Metadata where
  finalizers := (d .finalizers).getD []
  annotations := d .annotations
  labels := d .labels

structure Obj (σ : Type) where
  resourceVersion : Nat
  deleting : Bool
  metadata : Metadata
  status : σ
deriving DecidableEq

structure Resource (σ : Type) where
  (current changed : Obj σ)

def entries (map : Option StringMap) : StringMap := map.getD ∅

variable (current changed : Metadata)

def jsonPatchOpsForFinalizers : List (PatchOperation MetadataField MetadataField.Value) :=
  [{ op := if current.finalizers.length = 0 then .add else .replace, path := .finalizers
     value := finalizersValue changed.finalizers }]

def jsonPatchOpsForMetadataMap (path : MetadataField) (empty : path.Value → Bool)
    (current changed : Option path.Value) :
    List (PatchOperation MetadataField MetadataField.Value) :=
  match current with
  | none => [{ op := .add, path, value := changed }]
  | some map =>
    [{ op := .test, path, value := some map }, { op := if empty map then .add else .replace, path, value := changed }]

def jsonPatchOpsForAnnotations : List (PatchOperation MetadataField MetadataField.Value) :=
  jsonPatchOpsForMetadataMap .annotations (fun map : StringMap => map = ∅) current.annotations changed.annotations

def jsonPatchOpsForLabels : List (PatchOperation MetadataField MetadataField.Value) :=
  jsonPatchOpsForMetadataMap .labels (fun map : StringMap => map = ∅) current.labels changed.labels

def finalizersPatch : List (PatchOperation MetadataField MetadataField.Value) :=
  if current.finalizers ≠ changed.finalizers then jsonPatchOpsForFinalizers current changed else []

def annotationsPatch : List (PatchOperation MetadataField MetadataField.Value) :=
  if entries current.annotations ≠ entries changed.annotations then jsonPatchOpsForAnnotations current changed else []

def labelsPatch : List (PatchOperation MetadataField MetadataField.Value) :=
  if entries current.labels ≠ entries changed.labels then jsonPatchOpsForLabels current changed else []

def metadataPatch : List (PatchOperation MetadataField MetadataField.Value) :=
  finalizersPatch current changed ++ (annotationsPatch current changed ++ labelsPatch current changed)

inductive Told where
  | ok | notFound | failed
deriving DecidableEq

section Update

variable {σ : Type}

def updateStatus (changed : Obj σ) (stored : Option (Obj σ)) (answer : Answer) : Told × Option (Obj σ) :=
  match answer, stored with
  | .error, _ | .conflict, _ => (.failed, stored)
  | _, none => (.notFound, none)
  | answer, some object =>
    if object.resourceVersion ≠ changed.resourceVersion then (.failed, stored)
    else
      let stored := some { object with resourceVersion := object.resourceVersion + 1, status := changed.status }
      if answer = .ok then (.ok, stored) else (.failed, stored)

/-- An object that is being deleted is gone with its last finalizer. -/
def patchMetadata (ops : List (PatchOperation MetadataField MetadataField.Value)) (stored : Option (Obj σ))
    (answer : Answer) : Told × Option (Obj σ) :=
  match answer, stored with
  | .error, _ | .conflict, _ => (.failed, stored)
  | _, none => (.notFound, none)
  | answer, some object =>
    match applyPatch object.metadata.document ops with
    | none => (.failed, stored)
    | some document =>
      let metadata := Metadata.ofDocument document
      let stored := if object.deleting ∧ metadata.finalizers = [] then none
        else some { object with resourceVersion := object.resourceVersion + 1, metadata }
      if answer = .ok then (.ok, stored) else (.failed, stored)

structure Updated (σ : Type) where
  ok : Bool
  (before after : Option (Obj σ))

def updateMetadata (current changed : Metadata) (deleting : Bool) (answer : Answer) (before : Option (Obj σ)) :
    Updated σ :=
  let ops := metadataPatch current changed
  if ops.isEmpty then { ok := true, before, after := before }
  else
    let (told, after) := patchMetadata ops before answer
    { ok := told = .ok ∨ told = .notFound ∧ deleting ∧ changed.finalizers = [], before, after }

variable [DecidableEq σ]

def writeStatus (current changed : Obj σ) (answer : Answer) (stored : Option (Obj σ)) : Told × Option (Obj σ) × Bool :=
  if current.status = changed.status then (.ok, stored, changed.deleting)
  else
    let (told, written) := updateStatus changed stored answer
    (told, written, if told = .ok then (written.map Obj.deleting).getD changed.deleting else changed.deleting)

/-- `rewrite` puts old conditions right, and `others` is what the other clients do between the two requests. -/
def Resource.update (r : Resource σ) (rewrite : σ → σ) (others : Option (Obj σ) → Option (Obj σ))
    (answer answer' : Answer) (stored : Option (Obj σ)) : Updated σ :=
  let changed := { r.changed with status := rewrite r.changed.status }
  let (told, written, deleting) := writeStatus r.current changed answer stored
  if told = .failed then { ok := false, before := none, after := written }
  else updateMetadata r.current.metadata changed.metadata deleting answer' (others written)

end Update

/-- The edit of the handlers over what the others have made: what the handlers have changed is theirs, and everything
    else is as it was before. -/
structure Merged (current changed before after : Metadata) : Prop where
  finalizers : ∀ name, name ∈ after.finalizers ↔
    if name ∈ changed.finalizers ↔ name ∈ current.finalizers then name ∈ before.finalizers
    else name ∈ changed.finalizers
  annotations : ∀ key, (entries after.annotations).lookup key =
    if (entries changed.annotations).lookup key = (entries current.annotations).lookup key then
      (entries before.annotations).lookup key
    else (entries changed.annotations).lookup key
  labels : ∀ key, (entries after.labels).lookup key =
    if (entries changed.labels).lookup key = (entries current.labels).lookup key then
      (entries before.labels).lookup key
    else (entries changed.labels).lookup key

/-- Of a map that the copy does not have at all and the handlers have set, nobody else has set other keys than they. -/
def MapAlone (current changed before : Option StringMap) : Prop :=
  current = none → entries changed ≠ ∅ → ∀ key, (entries changed).lookup key = none → (entries before).lookup key = none

/-- If the handlers have changed the finalizers, nobody else has added or removed one that they have not, and likewise
    for a map that the copy does not have. -/
structure Unguarded (current changed before : Metadata) : Prop where
  finalizers : current.finalizers ≠ changed.finalizers → ∀ name,
    (name ∈ changed.finalizers ↔ name ∈ current.finalizers) → (name ∈ before.finalizers ↔ name ∈ current.finalizers)
  annotations : MapAlone current.annotations changed.annotations before.annotations
  labels : MapAlone current.labels changed.labels before.labels

section Merge

variable {current changed before : Metadata} {d : (f : MetadataField) → Option f.Value}
  {e : (f : MetadataField) → Option f.Value}

theorem jsonPatchOps_ok {path : MetadataField} {empty : path.Value → Bool} {current changed : Option path.Value}
    (applied : applyPatch d (jsonPatchOpsForMetadataMap path empty current changed) = some e) :
    e path = changed ∧ (current ≠ none → d path = current) := by
  unfold jsonPatchOpsForMetadataMap at applied
  split at applied
  · obtain ⟨_, set, rest⟩ := bind_eq_some_iff.mp applied
    cases rest
    exact ⟨apply_set set (.inl rfl), fun some => absurd rfl some⟩
  rename_i map
  obtain ⟨_, test, rest⟩ := bind_eq_some_iff.mp applied
  obtain ⟨_, set, rest⟩ := bind_eq_some_iff.mp rest
  cases rest
  obtain ⟨rfl, same⟩ := apply_test test rfl
  refine ⟨apply_set set ?_, fun _ => same⟩
  by_cases none : empty map = true
  · exact .inl (if_pos none)
  · exact .inr (if_neg none)

theorem jsonPatchOps_path {path : MetadataField} {empty : path.Value → Bool} {current changed : Option path.Value} :
    ∀ o ∈ jsonPatchOpsForMetadataMap path empty current changed, o.path = path := by
  intro o member
  unfold jsonPatchOpsForMetadataMap at member
  split at member
  · cases mem_singleton.mp member
    rfl
  rcases mem_cons.mp member with rfl | second
  · rfl
  cases mem_singleton.mp second
  rfl

/-- What a patch makes of a map: the one of the handlers, which only a map that was there is guarded against, or the one
    before. -/
def MapOutcome (current changed before after : Option StringMap) : Prop :=
  entries current ≠ entries changed ∧ after = changed ∧ (current ≠ none → before = current) ∨
    entries current = entries changed ∧ after = before

theorem merged_map_iff {current changed before after : Option StringMap}
    (outcome : MapOutcome current changed before after) :
    (∀ key, (entries after).lookup key =
      if (entries changed).lookup key = (entries current).lookup key then (entries before).lookup key
      else (entries changed).lookup key) ↔ MapAlone current changed before := by
  rcases outcome with ⟨edited, rfl, guarded⟩ | ⟨same, rfl⟩
  · cases current with
    | none =>
      have absent (key : String) : (entries none).lookup key = none := Finmap.lookup_empty key
      simp only [absent]
      constructor
      · intro merged _ _ key unset
        have kept := merged key
        rw [if_pos unset, unset] at kept
        exact kept.symm
      · intro alone key
        split
        · rename_i unset
          rw [unset, alone rfl (Ne.symm edited) key unset]
        · rfl
    | some map =>
      refine iff_of_true (fun key => ?_) nofun
      rw [guarded nofun]
      split
      · assumption
      · rfl
  · refine iff_of_true (fun key => by rw [same, if_pos rfl]) fun none edited => ?_
    subst none
    exact absurd same.symm edited

theorem merged_finalizers_iff {current changed before after : Metadata}
    (outcome : current.finalizers ≠ changed.finalizers ∧ after.finalizers = changed.finalizers ∨
      current.finalizers = changed.finalizers ∧ after.finalizers = before.finalizers) :
    (∀ name, name ∈ after.finalizers ↔
      if name ∈ changed.finalizers ↔ name ∈ current.finalizers then name ∈ before.finalizers
      else name ∈ changed.finalizers) ↔
      (current.finalizers ≠ changed.finalizers → ∀ name, (name ∈ changed.finalizers ↔ name ∈ current.finalizers) →
        (name ∈ before.finalizers ↔ name ∈ current.finalizers)) := by
  rcases outcome with ⟨edited, set⟩ | ⟨same, kept⟩
  · rw [set, forall_prop_of_true edited]
    refine forall_congr' fun name => ?_
    split
    · rename_i untouched
      rw [forall_prop_of_true untouched, untouched]
      exact Iff.comm
    · rename_i touched
      exact iff_of_true Iff.rfl fun untouched => absurd untouched touched
  · rw [kept, same]
    exact iff_of_true (fun name => by rw [if_pos Iff.rfl]) fun edited => absurd rfl edited

theorem finalizersPatch_path (current changed : Metadata) : ∀ o ∈ finalizersPatch current changed,
    o.path = .finalizers := by
  intro o member
  unfold finalizersPatch at member
  split at member
  · cases mem_singleton.mp member
    rfl
  · cases member

theorem annotationsPatch_path (current changed : Metadata) : ∀ o ∈ annotationsPatch current changed,
    o.path = .annotations := by
  intro o member
  unfold annotationsPatch at member
  split at member
  · exact jsonPatchOps_path o member
  · cases member

theorem labelsPatch_path (current changed : Metadata) : ∀ o ∈ labelsPatch current changed, o.path = .labels := by
  intro o member
  unfold labelsPatch at member
  split at member
  · exact jsonPatchOps_path o member
  · cases member

theorem finalizersValue_getD (finalizers : List String) :
    (finalizersValue finalizers).getD ([] : List String) = finalizers := by
  unfold finalizersValue
  split
  · rename_i empty
    exact empty.symm
  · rfl

theorem finalizersPatch_ok (applied : applyPatch before.document (finalizersPatch current changed) = some e) :
    current.finalizers ≠ changed.finalizers ∧ e .finalizers = finalizersValue changed.finalizers ∨
      current.finalizers = changed.finalizers ∧ e .finalizers = finalizersValue before.finalizers := by
  unfold finalizersPatch at applied
  split at applied
  · rename_i edited
    obtain ⟨_, set, rest⟩ := bind_eq_some_iff.mp applied
    cases rest
    refine .inl ⟨edited, apply_set set ?_⟩
    by_cases none : current.finalizers.length = 0
    · exact .inl (if_pos none)
    · exact .inr (if_neg none)
  rename_i same
  cases applied
  exact .inr ⟨not_not.mp same, rfl⟩

theorem annotationsPatch_ok (applied : applyPatch d (annotationsPatch current changed) = some e) :
    MapOutcome current.annotations changed.annotations (d .annotations) (e .annotations) := by
  unfold annotationsPatch at applied
  split at applied
  · rename_i edited
    exact .inl ⟨edited, jsonPatchOps_ok applied⟩
  · rename_i same
    cases applied
    exact .inr ⟨not_not.mp same, rfl⟩

theorem labelsPatch_ok (applied : applyPatch d (labelsPatch current changed) = some e) :
    MapOutcome current.labels changed.labels (d .labels) (e .labels) := by
  unfold labelsPatch at applied
  split at applied
  · rename_i edited
    exact .inl ⟨edited, jsonPatchOps_ok applied⟩
  · rename_i same
    cases applied
    exact .inr ⟨not_not.mp same, rfl⟩

open Metadata

theorem metadataPatch_merged (applied : applyPatch before.document (metadataPatch current changed) = some e) :
    Merged current changed before (ofDocument e) ↔ Unguarded current changed before := by
  rw [metadataPatch, applyPatch_append] at applied
  obtain ⟨d₁, one, applied⟩ := bind_eq_some_iff.mp applied
  rw [applyPatch_append] at applied
  obtain ⟨d₂, two, three⟩ := bind_eq_some_iff.mp applied
  have pathOne := finalizersPatch_path current changed
  have pathTwo := annotationsPatch_path current changed
  have pathThree := labelsPatch_path current changed
  -- Each part leaves the fields of the others alone.
  have finalizers : e .finalizers = d₁ .finalizers :=
    (applyPatch_other (f := .finalizers) three pathThree nofun).trans (applyPatch_other two pathTwo nofun)
  have annotations : e .annotations = d₂ .annotations := applyPatch_other three pathThree nofun
  have annotationsBefore : d₁ .annotations = before.annotations := applyPatch_other one pathOne nofun
  have labelsBefore : d₂ .labels = before.labels :=
    (applyPatch_other (f := .labels) two pathTwo nofun).trans (applyPatch_other one pathOne nofun)
  have finalized : current.finalizers ≠ changed.finalizers ∧ (ofDocument e).finalizers = changed.finalizers ∨
      current.finalizers = changed.finalizers ∧ (ofDocument e).finalizers = before.finalizers := by
    have after : (ofDocument e).finalizers = (d₁ .finalizers).getD ([] : List String) := by
      rw [← finalizers]
      rfl
    rw [after]
    obtain ⟨edited, set⟩ | ⟨same, kept⟩ := finalizersPatch_ok one
    · exact .inl ⟨edited, by rw [set, finalizersValue_getD]⟩
    · exact .inr ⟨same, by rw [kept, finalizersValue_getD]⟩
  have annotated := annotationsPatch_ok two
  rw [annotationsBefore, ← annotations] at annotated
  have labelled := labelsPatch_ok three
  rw [labelsBefore] at labelled
  constructor
  · intro merged
    exact ⟨(merged_finalizers_iff finalized).mp merged.finalizers, (merged_map_iff annotated).mp merged.annotations,
      (merged_map_iff labelled).mp merged.labels⟩
  · intro alone
    exact ⟨(merged_finalizers_iff finalized).mpr alone.finalizers, (merged_map_iff annotated).mpr alone.annotations,
      (merged_map_iff labelled).mpr alone.labels⟩

theorem ofDocument_document (m : Metadata) : ofDocument m.document = m := by
  have same : (finalizersValue m.finalizers).getD ([] : List String) = m.finalizers := finalizersValue_getD _
  unfold ofDocument document
  rw [same]

end Merge

theorem patchMetadata_ok {σ : Type} {ops : List (PatchOperation MetadataField MetadataField.Value)}
    {before after : Obj σ} {answer : Answer} (patched : patchMetadata ops (some before) answer = (.ok, some after)) :
    ∃ document, applyPatch before.metadata.document ops = some document ∧
      after.metadata = Metadata.ofDocument document := by
  unfold patchMetadata at patched
  split at patched
  · cases patched
  · cases patched
  · cases patched
  rename_i there
  cases there
  split at patched
  · cases patched
  rename_i document applied
  refine ⟨document, applied, ?_⟩
  split at patched
  · obtain ⟨-, stored⟩ := Prod.ext_iff.mp patched
    dsimp only at stored
    split at stored
    · cases stored
    cases stored
    rfl
  · cases patched

theorem updateMetadata_merged {σ : Type} {current changed : Metadata} {deleting : Bool} {answer : Answer}
    {before after : Obj σ} (ok : (updateMetadata current changed deleting answer (some before)).ok)
    (left : (updateMetadata current changed deleting answer (some before)).after = some after) :
    Merged current changed before.metadata after.metadata ↔ Unguarded current changed before.metadata := by
  by_cases none : (metadataPatch current changed).isEmpty = true
  · simp only [updateMetadata, none, if_true] at left
    cases left
    have applied : applyPatch before.metadata.document (metadataPatch current changed) =
        some before.metadata.document := by
      rw [isEmpty_iff.mp none]
      rfl
    have merged := metadataPatch_merged applied
    rwa [ofDocument_document] at merged
  simp only [updateMetadata, none] at ok left
  have told : (patchMetadata (metadataPatch current changed) (some before) answer).1 = .ok := by
    rcases of_decide_eq_true ok with told | ⟨missing, -⟩
    · exact told
    -- The object is there.
    unfold patchMetadata at missing
    split at missing
    · cases missing
    · cases missing
    · rename_i gone
      cases gone
    split at missing
    · cases missing
    · split at missing <;> cases missing
  obtain ⟨_, applied, same⟩ := patchMetadata_ok (Prod.ext told left)
  rw [same]
  exact metadataPatch_merged applied

/-- An update that returns no error loses no change of the others exactly when they leave alone what the patch does not
    guard. -/
theorem update_loses_nothing {σ : Type} [DecidableEq σ] (r : Resource σ) (rewrite : σ → σ)
    (others : Option (Obj σ) → Option (Obj σ)) (answer answer' : Answer) (stored : Option (Obj σ))
    {before after : Obj σ} (ok : (r.update rewrite others answer answer' stored).ok = true)
    (found : (r.update rewrite others answer answer' stored).before = some before)
    (left : (r.update rewrite others answer answer' stored).after = some after) :
    Merged r.current.metadata r.changed.metadata before.metadata after.metadata ↔
      Unguarded r.current.metadata r.changed.metadata before.metadata := by
  unfold Resource.update at ok found left
  dsimp only at ok found left
  generalize writeStatus r.current { r.changed with status := rewrite r.changed.status } answer stored = written
    at ok found left
  obtain ⟨told, written, _⟩ := written
  by_cases failed : told = .failed
  · simp [failed] at ok
  simp only [failed, if_false] at ok found left
  have same : others written = some before := by
    unfold updateMetadata at found
    dsimp only at found
    split at found <;> exact found
  rw [same] at ok left
  exact updateMetadata_merged ok left

def protecting : Resource Unit where
  current :=
    { resourceVersion := 1, deleting := false, status := ()
      metadata := ⟨["a"], none, some (Finmap.singleton "team" "x")⟩ }
  changed :=
    { resourceVersion := 1, deleting := false, status := ()
      metadata := ⟨["a", "b"], some (Finmap.singleton "seen" "yes"),
        some ((Finmap.singleton "team" "x").insert "kind" "y")⟩ }

def storedWith (finalizers : List String) : Obj Unit :=
  { resourceVersion := 2, deleting := false, metadata := { protecting.current.metadata with finalizers }, status := () }

/-- Another client adds the finalizer that the handlers add. -/
theorem update_loses_nothing_protecting :
    let updated := protecting.update id id .ok .ok (some (storedWith ["a", "b"]))
    updated.ok = true ∧ ∀ before after, updated.before = some before → updated.after = some after →
      Merged protecting.current.metadata protecting.changed.metadata before.metadata after.metadata := by
  refine ⟨by decide +kernel, fun before _ found left => ?_⟩
  have same : before = storedWith ["a", "b"] := by
    have there :
        (protecting.update id id .ok .ok (some (storedWith ["a", "b"]))).before = some (storedWith ["a", "b"]) := by
      decide +kernel
    exact (Option.some.inj (found.symm.trans there))
  refine (update_loses_nothing protecting id id .ok .ok (some (storedWith ["a", "b"])) (by decide +kernel) found
    left).mpr ?_
  rw [same]
  exact ⟨fun _ _ untouched => untouched, fun _ _ key _ => Finmap.lookup_empty key, nofun⟩

theorem update_loses_finalizer :
    let updated := protecting.update id id .ok .ok (some (storedWith ["a", "c"]))
    updated.ok = true ∧ (updated.before.map fun object => object.metadata.finalizers) = some ["a", "c"] ∧
      (updated.after.map fun object => object.metadata.finalizers) = some ["a", "b"] := by
  decide +kernel

end Virtualization.Reconcile
