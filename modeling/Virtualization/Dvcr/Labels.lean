import Virtualization.Dvcr.Process

namespace Virtualization.Dvcr

open Library Option

variable {size : Nat} {checksums : List (String × String)} {digest : String → List UInt8 → String} {s t : State}

def Labels.Tell (labels : Labels) (s : State) : Prop :=
  s.waitClosed ∧ ∃ info, s.passed = some info ∧ labels.sourceImageVirtualSize = toString info.virtualSize ∧
    labels.sourceImageFormat = info.format

namespace Inspecting

def info? : Inspecting → Option ImageInfo
  | .inspected info | .sizeSet info | .formatSet info => some info
  | _ => none

def ended : Inspecting → Bool
  | .finished _ | .pipeClosed _ | .returned => true
  | _ => false

end Inspecting

structure Informed (s : State) : Prop where
  headers : s.streaming = .headers → s.inspecting = .notStarted
  passing : ∀ info, s.inspecting.info? = some info → s.passed = some info
  sizeSet : ∀ info, s.inspecting = .sizeSet info → s.virtualSize = info.virtualSize
  formatSet : ∀ info, s.inspecting = .formatSet info → s.virtualSize = info.virtualSize ∧ s.format = info.format
  closed : s.waitClosed → s.inspecting.ended ∧
    s.passed = some { virtualSize := s.virtualSize, format := s.format }
  labelled : ∀ layer labels, s.uploading = .labelled layer labels → labels.Tell s
  image : ∀ image, s.image = some image → image.labels.Tell s

theorem informed_initial : Informed initial where
  headers := fun _ => rfl
  passing := nofun
  sizeSet := nofun
  formatSet := nofun
  closed := nofun
  labelled := nofun
  image := nofun

def informed (s : State) : Event → Bool
  | .upload .readLabels => s.waitClosed
  | _ => true

namespace Informed

variable {group : Option Err}

theorem streams (inv : Informed s) {source : List UInt8} {tar : Tar} {pipe infoPipe : Pipe} {streaming : Streaming}
    (phase : streaming ≠ .headers) : Informed { s with source, tar, pipe, infoPipe, streaming, group } :=
  { inv with headers := fun is => absurd is phase }

variable {inspecting : Inspecting}

section

variable (inv : Informed s)
include inv

theorem startsInspection (headers : s.streaming = .headers) {tar : Tar} {streaming : Streaming}
    (phase : streaming ≠ .headers) (new : inspecting = .running ∨ inspecting = .returned) :
    Informed { s with tar, streaming, inspecting, group } := by
  have isOpen : s.waitClosed ≠ true := by
    intro closed
    have ended := (inv.closed closed).1
    rw [inv.headers headers] at ended
    cases ended
  refine
    { headers := fun is => absurd is phase
      passing := fun info is => ?_
      sizeSet := fun info is => ?_
      formatSet := fun info is => ?_
      closed := fun closed => absurd closed isOpen
      labelled := inv.labelled
      image := inv.image }
  all_goals rcases new with rfl | rfl <;> cases is

theorem stepStreaming {event : StreamEvent}
    (taken : stepStreaming size checksums digest s event = some t) : Informed t := by
  cases streams_of_step taken with
  | headersFail headers => exact inv.startsInspection headers nofun (.inr rfl)
  | starts headers => exact inv.startsInspection headers nofun (.inl rfl)
  | copies copying =>
    refine inv.streams ?_
    rw [copying]
    nofun
  | stops | completes | closesInfoWriter | closesPipeWriter | returns => exact inv.streams nofun

theorem inspects (before : s.inspecting.ended = false) (started : s.inspecting ≠ .notStarted)
    {virtualSize : Nat} {format : String} {passed : Option ImageInfo}
    (passing : ∀ info, inspecting.info? = some info → passed = some info)
    (sizeSet : ∀ info, inspecting = .sizeSet info → virtualSize = info.virtualSize)
    (formatSet : ∀ info, inspecting = .formatSet info → virtualSize = info.virtualSize ∧ format = info.format) :
    Informed { s with inspecting, virtualSize, format, passed } := by
  have isOpen : s.waitClosed ≠ true := by
    intro closed
    rw [(inv.closed closed).1] at before
    cases before
  have untold : ∀ labels : Labels, ¬ labels.Tell s := fun labels tell => isOpen tell.1
  exact
    { headers := fun is => absurd (inv.headers is) started
      passing, sizeSet, formatSet
      closed := fun closed => absurd closed isOpen
      labelled := fun layer labels is => absurd (inv.labelled layer labels is) (untold labels)
      image := fun image is => absurd (inv.image image is) (untold image.labels) }

theorem inspectionEnds (before : s.inspecting.ended) {infoPipe : Pipe} (after : inspecting.ended) :
    Informed { s with inspecting, infoPipe, group } := by
  have silent : inspecting.info? = none := by
    cases inspecting <;> first | rfl | cases after
  exact
    { headers := fun is => by
        rw [inv.headers is] at before
        cases before
      passing := fun info is => by
        rw [silent] at is
        cases is
      sizeSet := fun info is => by
        have is : inspecting = .sizeSet info := is
        rw [is] at after
        cases after
      formatSet := fun info is => by
        have is : inspecting = .formatSet info := is
        rw [is] at after
        cases after
      closed := fun closed => ⟨after, (inv.closed closed).2⟩
      labelled := inv.labelled
      image := inv.image }

theorem stepInspecting {event : InspectEvent} (taken : stepInspecting s event = some t) : Informed t := by
  cases event with
  | inspected =>
    obtain ⟨ready, ⟨⟩⟩ := ite_none_right_eq_some.mp taken
    refine inv.inspects (by rw [ready.1]; rfl) (by rw [ready.1]; nofun) (fun other is => is) nofun nofun
  | fails =>
    obtain ⟨running, ⟨⟩⟩ := ite_none_right_eq_some.mp taken
    exact inv.inspects (by rw [running]; rfl) (by rw [running]; nofun) nofun nofun nofun
  | setVirtualSize =>
    dsimp only [Dvcr.stepInspecting] at taken
    split at taken <;> cases taken
    rename_i info is
    refine inv.inspects (by rw [is]; rfl) (by rw [is]; nofun) (fun other same => ?_) (fun other same => ?_) nofun
    · cases same
      exact inv.passing info (by rw [is]; rfl)
    cases same
    rfl
  | setFormat =>
    dsimp only [Dvcr.stepInspecting] at taken
    split at taken <;> cases taken
    rename_i info is
    refine inv.inspects (by rw [is]; rfl) (by rw [is]; nofun) (fun other same => ?_) nofun fun other same => ?_
    · cases same
      exact inv.passing info (by rw [is]; rfl)
    cases same
    exact ⟨inv.sizeSet info is, rfl⟩
  | closeWait =>
    dsimp only [Dvcr.stepInspecting] at taken
    split at taken <;> cases taken
    rename_i info is
    obtain ⟨virtualSize, format⟩ := inv.formatSet info is
    have passed : s.passed = some info := inv.passing info (by rw [is]; rfl)
    exact
      { headers := fun phase => by
          rw [inv.headers phase] at is
          cases is
        passing := nofun
        sizeSet := nofun
        formatSet := nofun
        closed := fun _ => ⟨rfl, by dsimp only; rw [passed, virtualSize, format]⟩
        labelled := fun layer labels same => ⟨rfl, (inv.labelled layer labels same).2⟩
        image := fun image same => ⟨rfl, (inv.image image same).2⟩ }
  | closeInfoReader | returns =>
    dsimp only [Dvcr.stepInspecting] at taken
    split at taken <;> cases taken
    rename_i is
    exact inv.inspectionEnds (by rw [is]; rfl) rfl

theorem stepUploading {event : UploadEvent} (ok : informed s (.upload event))
    (taken : stepUploading size s event = some t) : Informed t := by
  cases event with
  | layerUploaded | ends =>
    dsimp only [Dvcr.stepUploading] at taken
    split at taken
    · cases taken
      exact { inv with labelled := nofun }
    · cases taken
  | readLabels =>
    dsimp only [Dvcr.stepUploading] at taken
    split at taken
    · cases taken
      refine { inv with labelled := fun _ _ is => ?_ }
      cases is
      exact ⟨ok, _, (inv.closed ok).2, rfl, rfl⟩
    · cases taken
  | writeImage =>
    dsimp only [Dvcr.stepUploading] at taken
    split at taken
    · rename_i layer labels labelled
      split at taken
      · cases taken
      cases taken
      refine { inv with labelled := fun layer labels is => ?_, image := fun _ is => ?_ }
      · cases is
      cases is
      exact inv.labelled layer labels labelled
    · cases taken
  | fails =>
    dsimp only [Dvcr.stepUploading] at taken
    split at taken
    · cases taken
      exact { inv with labelled := nofun }
    · cases taken
      exact { inv with labelled := nofun }
    · cases taken
      exact { inv with labelled := nofun }
    · cases taken

theorem step {event : Event} (ok : informed s event)
    (taken : step size checksums digest s event = some t) : Informed t := by
  cases event with
  | stream => exact inv.stepStreaming taken
  | inspect => exact inv.stepInspecting taken
  | upload => exact inv.stepUploading ok taken
  | streamingEnds =>
    dsimp only [Dvcr.step, streamingEnds] at taken
    split at taken
    · split at taken
      · cases taken
        exact { inv with }
      · cases taken
        exact { inv with }
      cases taken
      exact { inv with }
    · cases taken
  | cancel =>
    cases taken
    exact { inv with }

end

end Informed

/-- The labels of a published image tell what the inspection has found, if the upload has read them after the informer
    was set. -/
theorem published_labels_inspected (size : Nat) (checksums : List (String × String))
    (digest : String → List UInt8 → String) (events : List Event) (s : State) (image : Image)
    (along : Along (step size checksums digest) (fun s event => informed s event = true) initial events)
    (reached : run (step size checksums digest) initial events = some s) (published : s.image = some image) :
    ∃ info, s.passed = some info ∧ image.labels.sourceImageVirtualSize = toString info.virtualSize ∧
      image.labels.sourceImageFormat = info.format := by
  have inv : Informed s :=
    run_invariant (fun _ _ _ inv ok taken => inv.step ok taken) informed_initial along reached
  exact (inv.image image published).2

def importOne : List Event :=
  [.stream .writeHeaders, .stream (.read [7]), .stream .sourceEnds, .stream .closeInfoWriter,
    .inspect (.inspected { virtualSize := 1, format := "raw" }), .inspect .setVirtualSize, .inspect .setFormat,
    .inspect .closeWait, .stream .closePipeWriter, .upload .layerUploaded, .upload .readLabels,
    .upload (.writeImage true)]

theorem published_labels_inspected_one :
    ∃ s image, run (step 1 [] fun _ _ => "") initial importOne = some s ∧ s.image = some image ∧
      s.passed = some { virtualSize := 1, format := "raw" } ∧ image.labels.sourceImageVirtualSize = "1" ∧
      image.labels.sourceImageFormat = "raw" := by
  have published : ((run (step 1 [] fun _ _ => "") initial importOne).map fun s => (s.image.isSome, s.passed)) =
      some (true, some { virtualSize := 1, format := "raw" }) := by
    decide +kernel
  obtain ⟨s, reached, facts⟩ := map_eq_some_iff.mp published
  obtain ⟨image, isImage⟩ := isSome_iff_exists.mp (congrArg Prod.fst facts)
  have passed : s.passed = some { virtualSize := 1, format := "raw" } := congrArg Prod.snd facts
  obtain ⟨info, isInfo, virtualSize, format⟩ :=
    published_labels_inspected 1 [] (fun _ _ => "") importOne s image (by decide +kernel) reached isImage
  rw [passed] at isInfo
  cases isInfo
  exact ⟨s, image, reached, isImage, passed, virtualSize, format⟩

def importUninspected : List Event :=
  [.stream .writeHeaders, .stream (.read [7]), .stream .sourceEnds, .stream .closeInfoWriter,
    .stream .closePipeWriter, .upload .layerUploaded, .upload .readLabels, .upload (.writeImage true),
    .inspect (.inspected { virtualSize := 1, format := "raw" }), .inspect .setVirtualSize, .inspect .setFormat,
    .inspect .closeWait, .inspect .closeInfoReader, .inspect .returns, .stream .returns, .streamingEnds, .upload .ends]

theorem published_labels_zero :
    (run (step 1 [] fun _ _ => "") initial importUninspected).map (fun s => (s.image.map (·.labels), s.passed)) =
        some (some { sourceImageVirtualSize := "0", sourceImageSize := "1", sourceImageFormat := "" },
          some { virtualSize := 1, format := "raw" }) ∧
      (run (step 1 [] fun _ _ => "") initial importUninspected).map (fun s => (s.streamed, s.uploading, s.group)) =
        some (some none, .ended, none) := by
  constructor
  · decide +kernel
  · decide +kernel

end Virtualization.Dvcr
