import Virtualization.Dvcr.Process

namespace Virtualization.Dvcr

open Library Option Uploading

variable {size : Nat} {checksums : List (String × String)} {digest : String → List UInt8 → String} {s t : State}

/-- The archive holds the announced number of bytes, which are all the source has delivered, and the checksums are
    those that were asked for. -/
structure Complete (size : Nat) (checksums : List (String × String)) (digest : String → List UInt8 → String)
    (source : List UInt8) (tar : Tar) : Prop where
  header : tar.header = some size
  body : tar.body = source
  length : tar.body.length = size
  checksums : checksumsMatch checksums digest tar.body
  eofMarker : tar.eofMarker

namespace Streaming

def Ended (streaming : Streaming) (err : Option Err) : Prop :=
  streaming = .finished err ∨ streaming = .infoClosed err ∨ streaming = .pipeClosed err

def infoOpen : Streaming → Bool
  | .headers | .copying | .finished _ => true
  | .infoClosed _ | .pipeClosed _ | .returned => false

def pipeOpen : Streaming → Bool
  | .headers | .copying | .finished _ | .infoClosed _ => true
  | .pipeClosed _ | .returned => false

theorem pipeOpen_of_infoOpen {streaming : Streaming} (phase : streaming.infoOpen) : streaming.pipeOpen := by
  cases streaming <;> first | rfl | cases phase

end Streaming

namespace Inspecting

def pipeOpen : Inspecting → Bool
  | .running | .inspected _ | .sizeSet _ | .formatSet _ | .finished _ => true
  | .notStarted | .pipeClosed _ | .returned => false

def drained : Inspecting → Bool
  | .inspected _ | .sizeSet _ | .formatSet _ | .finished none => true
  | _ => false

def error? : Inspecting → Option Err
  | .finished err | .pipeClosed err => err
  | _ => none

end Inspecting

def InspectionFailed (s : State) : Prop :=
  s.inspecting = .pipeClosed (some .info) ∨ s.inspecting = .returned ∧ ∃ err, s.group = some err ∧ err ≠ .closedPipe

def Uploading.Has (uploading : Uploading) (layer : Tar) : Prop :=
  uploading = .layerUploaded layer ∨ ∃ labels, uploading = .labelled layer labels

structure Sound (size : Nat) (checksums : List (String × String)) (digest : String → List UInt8 → String)
    (s : State) : Prop where
  headers : s.streaming = .headers → s.inspecting = .notStarted ∧ s.tar.body = s.source
  copying : s.streaming = .copying → s.tar.header = some size ∧ s.tar.body = s.source
  ended : s.streaming.Ended none → Complete size checksums digest s.source s.tar
  returned : s.streaming = .returned → s.group = none → Complete size checksums digest s.source s.tar
  pipeWriter : s.pipe.writerClosed → s.streaming.pipeOpen = false
  infoWriter : s.infoPipe.writerClosed → s.streaming.infoOpen = false
  closedPipe : s.streaming.Ended (some .closedPipe) → s.pipe.readerClosed ∨ InspectionFailed s
  group : s.group = some .closedPipe → s.pipe.readerClosed ∧ s.streaming = .returned
  inspectError : ∀ err, s.inspecting.error? = some err → err = .info
  infoReader : s.infoPipe.readerClosed → s.infoPipe.writerClosed ∨ InspectionFailed s ∨
    s.streaming = .returned
  drained : s.inspecting.drained → s.infoPipe.writerClosed
  pipeReader : s.pipe.readerClosed → s.uploading = .ended
  uploaded : ∀ layer, s.uploading.Has layer → layer = s.tar ∧ s.pipe.writerClosed
  streamedWell : s.streamed = some none → s.streaming = .returned ∧ s.inspecting = .returned ∧
    (s.group = none ∨ s.group = some .closedPipe)
  streamedBadly : ∀ err, s.streamed = some (some err) → s.cancelled
  image : ∀ image, s.image = some image → s.streamed = some none ∧ Complete size checksums digest s.source image.layer

variable {layer : Tar}

theorem Uploading.not_has_finished {err : Option Err} (has : (finished err).Has layer) : False := by
  rcases has with is | ⟨_, is⟩ <;> cases is

theorem sound_initial : Sound size checksums digest initial where
  headers := fun _ => ⟨rfl, rfl⟩
  copying := nofun
  ended := by simp [Streaming.Ended, initial]
  returned := nofun
  pipeWriter := nofun
  infoWriter := nofun
  closedPipe := by simp [Streaming.Ended, initial]
  group := nofun
  inspectError := nofun
  infoReader := nofun
  drained := nofun
  pipeReader := nofun
  uploaded := fun layer is => by rcases is with is | ⟨labels, is⟩ <;> cases is
  streamedWell := nofun
  streamedBadly := nofun
  image := nofun

/-- The image is written only after the streaming side has ended, and an error of the inspection is recorded before the
    error that it causes in the stream. -/
def orderly (s : State) : Event → Bool
  | .upload (.writeImage _) => s.streamed.isSome
  | .stream .returns => s.inspecting.error?.isNone
  | _ => true

namespace Sound

variable {err : Option Err} (inv : Sound size checksums digest s)
include inv

theorem infoWriter_open (phase : s.streaming.infoOpen) : s.infoPipe.writerClosed ≠ true := by
  intro closed
  rw [inv.infoWriter closed] at phase
  cases phase

theorem unpublished (phase : s.streaming ≠ .returned) :
    (∀ image, s.image ≠ some image) ∧ s.streamed ≠ some none ∧ s.group ≠ some .closedPipe := by
  have notStreamed : s.streamed ≠ some none := fun is => phase (inv.streamedWell is).1
  exact ⟨fun image is => notStreamed (inv.image image is).1, notStreamed, fun is => phase (inv.group is).2⟩

theorem not_uploaded (phase : s.streaming.pipeOpen) :
    s.pipe.writerClosed ≠ true ∧ s.streaming ≠ .returned ∧ ∀ layer, ¬ s.uploading.Has layer := by
  have pipeOpen : s.pipe.writerClosed ≠ true := by
    intro closed
    rw [inv.pipeWriter closed] at phase
    cases phase
  refine ⟨pipeOpen, fun is => ?_, fun layer has => pipeOpen (inv.uploaded layer has).2⟩
  rw [is] at phase
  cases phase

theorem streams (phase : s.streaming.infoOpen) {source : List UInt8} {tar : Tar} {streaming : Streaming}
    {inspecting : Inspecting} (isOpen : streaming.infoOpen)
    (sameInspection : inspecting = s.inspecting ∨ s.streaming = .headers ∧ inspecting = .running)
    (headers : streaming ≠ .headers) (copying : streaming = .copying → tar.header = some size ∧ tar.body = source)
    (ended : streaming = .finished none → Complete size checksums digest source tar)
    (closedPipe : streaming = .finished (some .closedPipe) → s.pipe.readerClosed ∨ InspectionFailed s) :
    Sound size checksums digest { s with source, tar, streaming, inspecting } := by
  obtain ⟨pipeOpen, notReturned, notUploaded⟩ := inv.not_uploaded (Streaming.pipeOpen_of_infoOpen phase)
  obtain ⟨noImage, notStreamed, noGroup⟩ := inv.unpublished notReturned
  have infoOpen := inv.infoWriter_open phase
  have notClosed : ∀ {err : Option Err}, streaming.Ended err → streaming = .finished err := by
    intro err is
    rcases is with is | is | is
    · exact is
    all_goals
      rw [is] at isOpen
      cases isOpen
  have failed : InspectionFailed s → InspectionFailed { s with source, tar, streaming, inspecting } := by
    intro failed
    rcases sameInspection with rfl | ⟨is, -⟩
    · exact failed
    · rcases failed with fails | ⟨fails, -⟩ <;> rw [(inv.headers is).1] at fails <;> cases fails
  exact
    { inv with
      headers := fun is => absurd is headers
      copying := copying
      ended := fun is => ended (notClosed is)
      returned := fun is => by
        have is : streaming = .returned := is
        rw [is] at isOpen
        cases isOpen
      pipeWriter := fun closed => absurd closed pipeOpen
      infoWriter := fun closed => absurd closed infoOpen
      closedPipe := fun is => (closedPipe (notClosed is)).imp_right failed
      group := fun is => absurd is noGroup
      inspectError := by
        rcases sameInspection with rfl | ⟨-, rfl⟩
        · exact inv.inspectError
        · exact fun err is => by cases is
      infoReader := fun closed => by
        rcases inv.infoReader closed with isClosed | fails | is
        · exact absurd isClosed infoOpen
        · exact .inr (.inl (failed fails))
        · exact absurd is notReturned
      drained := by
        rcases sameInspection with rfl | ⟨-, rfl⟩
        · exact inv.drained
        · exact fun is => by cases is
      uploaded := fun layer has => absurd has (notUploaded layer)
      streamedWell := fun is => absurd is notStreamed
      image := fun image is => absurd is (noImage image) }

theorem headersFail (headers : s.streaming = .headers) {err : Err}
    (closedPipe : err = .closedPipe → s.pipe.readerClosed) :
    Sound size checksums digest { s with streaming := .returned, inspecting := .returned, group := some err } := by
  obtain ⟨-, notReturned, _⟩ := inv.not_uploaded (by rw [headers]; rfl)
  obtain ⟨_, notStreamed, -⟩ := inv.unpublished notReturned
  exact
    { inv with
      headers := nofun
      copying := nofun
      ended := by simp [Streaming.Ended]
      returned := nofun
      pipeWriter := fun _ => rfl
      infoWriter := fun _ => rfl
      closedPipe := by simp [Streaming.Ended]
      group := fun is => ⟨closedPipe (Option.some.inj is), rfl⟩
      inspectError := nofun
      infoReader := fun _ => .inr (.inr rfl)
      drained := nofun
      streamedWell := fun is => absurd is notStreamed }

theorem closesInfoWriter (finished : s.streaming = .finished err) : Sound size checksums digest
      { s with streaming := .infoClosed err, infoPipe.writerClosed := true } := by
  obtain ⟨pipeOpen, notReturned, _⟩ := inv.not_uploaded (by rw [finished]; rfl)
  obtain ⟨_, notStreamed, noGroup⟩ := inv.unpublished notReturned
  exact
    { inv with
      headers := nofun
      copying := nofun
      ended := fun is => by
        rcases is with is | is | is <;> cases is
        exact inv.ended (.inl finished)
      returned := nofun
      pipeWriter := fun closed => absurd closed pipeOpen
      infoWriter := fun _ => rfl
      closedPipe := fun is => by
        rcases is with is | is | is <;> cases is
        exact inv.closedPipe (.inl finished)
      group := fun is => absurd is noGroup
      infoReader := fun _ => .inl rfl
      drained := fun _ => rfl
      streamedWell := fun is => absurd is notStreamed }

theorem closesPipeWriter (closed : s.streaming = .infoClosed err) : Sound size checksums digest
      { s with streaming := .pipeClosed err, pipe.writerClosed := true } := by
  obtain ⟨-, notReturned, notUploaded⟩ := inv.not_uploaded (by rw [closed]; rfl)
  obtain ⟨_, notStreamed, noGroup⟩ := inv.unpublished notReturned
  exact
    { inv with
      headers := nofun
      copying := nofun
      ended := fun is => by
        rcases is with is | is | is <;> cases is
        exact inv.ended (.inr (.inl closed))
      returned := nofun
      pipeWriter := fun _ => rfl
      infoWriter := fun _ => rfl
      closedPipe := fun is => by
        rcases is with is | is | is <;> cases is
        exact inv.closedPipe (.inr (.inl closed))
      group := fun is => absurd is noGroup
      infoReader := fun reader => (inv.infoReader reader).imp_right
        (Or.imp_right fun is => absurd is notReturned)
      uploaded := fun layer has => absurd has (notUploaded layer)
      streamedWell := fun is => absurd is notStreamed }

theorem streamReturns (closed : s.streaming = .pipeClosed err) (ok : s.inspecting.error?.isNone) :
    Sound size checksums digest { s with streaming := .returned, group := record s.group err } := by
  have notReturned : s.streaming ≠ .returned := by
    rw [closed]
    nofun
  obtain ⟨_, notStreamed, noGroup⟩ := inv.unpublished notReturned
  exact
    { inv with
      headers := nofun
      copying := nofun
      ended := by simp [Streaming.Ended]
      returned := fun _ none => by
        cases isGroup : s.group with
        | some =>
          rw [isGroup] at none
          cases none
        | none =>
          rw [isGroup] at none
          exact inv.ended (.inr (.inr (none ▸ closed)))
      pipeWriter := fun _ => rfl
      infoWriter := fun _ => rfl
      closedPipe := by simp [Streaming.Ended]
      group := fun is => by
        refine ⟨?_, rfl⟩
        cases isGroup : s.group with
        | some =>
          rw [isGroup] at is
          exact absurd (isGroup.trans is) noGroup
        | none =>
          rw [isGroup] at is
          -- The inspection has not failed without having recorded it.
          rcases inv.closedPipe (.inr (.inr (is ▸ closed))) with reader | failed | ⟨-, _, isFirst, -⟩
          · exact reader
          · rw [failed] at ok
            cases ok
          rw [isGroup] at isFirst
          cases isFirst
      infoReader := fun _ => .inr (.inr rfl)
      streamedWell := fun is => absurd is notStreamed }

theorem inspecting_open (before : s.inspecting.pipeOpen) :
    ¬ InspectionFailed s ∧ s.streaming ≠ .headers ∧ s.streamed ≠ some none := by
  refine ⟨?_, fun is => ?_, fun is => ?_⟩
  · rintro (is | ⟨is, -⟩) <;> rw [is] at before <;> cases before
  · rw [(inv.headers is).1] at before
    cases before
  · rw [(inv.streamedWell is).2.1] at before
    cases before

theorem inspects (before : s.inspecting.pipeOpen)
    {inspecting : Inspecting} {virtualSize : Nat} {format : String} {waitClosed : Bool} {passed : Option ImageInfo}
    (error : ∀ err, inspecting.error? = some err → err = .info)
    (drained : inspecting.drained → s.infoPipe.writerClosed) :
    Sound size checksums digest { s with inspecting, virtualSize, format, waitClosed, passed } := by
  obtain ⟨running, started, notStreamed⟩ := inv.inspecting_open before
  exact
    { inv with
      headers := fun is => absurd is started
      closedPipe := fun is => .inl ((inv.closedPipe is).resolve_right running)
      inspectError := error
      infoReader := fun closed => (inv.infoReader closed).imp_right fun is => .inr (is.resolve_left running)
      drained := drained
      streamedWell := fun is => absurd is notStreamed }

theorem closesInfoReader (finished : s.inspecting = .finished err) : Sound size checksums digest
    { s with inspecting := .pipeClosed err, infoPipe.readerClosed := true } := by
  obtain ⟨running, started, notStreamed⟩ := inv.inspecting_open (by rw [finished]; rfl)
  exact
    { inv with
      headers := fun is => absurd is started
      closedPipe := fun is => .inl ((inv.closedPipe is).resolve_right running)
      inspectError := fun other is => inv.inspectError other (by rw [finished]; exact is)
      infoReader := fun _ => by
        cases err with
        | none => exact .inl (inv.drained (by rw [finished]; rfl))
        | some err =>
          obtain rfl := inv.inspectError err (by rw [finished]; rfl)
          exact .inr (.inl (.inl rfl))
      drained := nofun
      streamedWell := fun is => absurd is notStreamed }

theorem inspectReturns (closed : s.inspecting = .pipeClosed err) :
    Sound size checksums digest { s with inspecting := .returned, group := record s.group err } := by
  have notReturned : s.inspecting ≠ .returned := by
    rw [closed]
    nofun
  have notStreamed : s.streamed ≠ some none := fun is => notReturned (inv.streamedWell is).2.1
  have same : ∀ first, s.group = some first → record s.group err = some first := by
    intro first is
    rw [is]
    rfl
  -- The failure is in the group now, unless a closed pipe was there before it.
  have failed : InspectionFailed s → s.group = some .closedPipe ∨
      InspectionFailed { s with inspecting := .returned, group := record s.group err } := by
    rintro (is | ⟨is, -⟩)
    · cases isGroup : s.group with
      | none =>
        rw [closed] at is
        cases is
        exact .inr (.inr ⟨rfl, .info, rfl, nofun⟩)
      | some first =>
        by_cases isClosed : first = .closedPipe
        · exact .inl (isClosed ▸ rfl)
        · exact .inr (.inr ⟨rfl, first, rfl, isClosed⟩)
    · exact absurd is notReturned
  exact
    { inv with
      headers := fun is => by
        rw [(inv.headers is).1] at closed
        cases closed
      returned := fun is none => by
        cases isGroup : s.group with
        | none => exact inv.returned is isGroup
        | some first =>
          rw [same first isGroup] at none
          cases none
      closedPipe := fun is => by
        rcases inv.closedPipe is with reader | fails
        · exact .inl reader
        · exact (failed fails).imp_left fun isClosed => (inv.group isClosed).1
      group := fun is => by
        cases isGroup : s.group with
        | some first =>
          rw [same first isGroup] at is
          exact inv.group (isGroup.trans is)
        | none =>
          rw [isGroup] at is
          have is : err = some .closedPipe := is
          cases inv.inspectError .closedPipe (by rw [closed, is]; rfl)
      inspectError := nofun
      infoReader := fun reader => by
        rcases inv.infoReader reader with writer | fails | is
        · exact .inl writer
        · exact .inr ((failed fails).elim (fun isClosed => .inr (inv.group isClosed).2) .inl)
        · exact .inr (.inr is)
      drained := nofun
      streamedWell := fun is => absurd is notStreamed }

theorem uploads (before : s.uploading ≠ .ended) {uploading : Uploading}
    (uploaded : ∀ layer, uploading.Has layer → layer = s.tar ∧ s.pipe.writerClosed) :
    Sound size checksums digest { s with uploading } :=
  { inv with
    pipeReader := fun closed => absurd (inv.pipeReader closed) before
    uploaded := uploaded }

theorem writesImage {labels : Labels} (labelled : s.uploading = .labelled layer labels) (active : ¬ s.cancelled)
    (ok : s.streamed.isSome) : Sound size checksums digest
      { s with uploading := .finished err, image := some { layer, labels } } := by
  have notEnded : s.uploading ≠ .ended := by
    rw [labelled]
    nofun
  obtain ⟨isTar, -⟩ := inv.uploaded layer (.inr ⟨labels, labelled⟩)
  have streamed : s.streamed = some none := by
    obtain ⟨result, is⟩ := isSome_iff_exists.mp ok
    cases result with
    | none => exact is
    | some err => exact absurd (inv.streamedBadly err is) active
  obtain ⟨returned, -, group⟩ := inv.streamedWell streamed
  have succeeded : s.group = none := by
    refine group.resolve_right fun isClosed => notEnded ?_
    exact inv.pipeReader (inv.group isClosed).1
  exact
    { inv with
      pipeReader := fun closed => absurd (inv.pipeReader closed) notEnded
      uploaded := fun layer has => (not_has_finished has).elim
      image := fun image is => by
        cases is
        exact ⟨streamed, isTar ▸ inv.returned returned succeeded⟩ }

theorem uploadEnds (cancelled : Bool) : Sound size checksums digest
      { s with
        uploading := .ended, cancelled := s.cancelled || cancelled, pipe.readerClosed := true } :=
  { inv with
    closedPipe := fun _ => .inl rfl
    group := fun is => ⟨rfl, (inv.group is).2⟩
    pipeReader := fun _ => rfl
    uploaded := fun layer has => by rcases has with is | ⟨labels, is⟩ <;> cases is
    streamedBadly := fun err is => by
      rw [inv.streamedBadly err is, Bool.true_or] }

theorem streamingEnds (taken : streamingEnds s = some t) : Sound size checksums digest t := by
  unfold Dvcr.streamingEnds at taken
  split at taken
  · rename_i ready
    obtain ⟨returned, inspected, pending⟩ := ready
    have noImage : ∀ image, s.image ≠ some image := by
      intro image is
      have streamed := (inv.image image is).1
      rw [pending] at streamed
      cases streamed
    split at taken
    · rename_i isGroup
      cases taken
      exact
        { inv with
          streamedWell := fun _ => ⟨returned, inspected, .inl isGroup⟩
          streamedBadly := nofun
          image := fun image is => absurd is (noImage image) }
    · rename_i isGroup
      cases taken
      exact
        { inv with
          streamedWell := fun _ => ⟨returned, inspected, .inr isGroup⟩
          streamedBadly := nofun
          image := fun image is => absurd is (noImage image) }
    cases taken
    exact
      { inv with
        streamedWell := nofun
        streamedBadly := fun _ _ => rfl
        image := fun image is => absurd is (noImage image) }
  · cases taken

theorem stepStreaming {event : StreamEvent}
    (ok : orderly s (.stream event)) (taken : stepStreaming size checksums digest s event = some t) :
    Sound size checksums digest t := by
  cases streams_of_step taken with
  | headersFail headers closed => exact inv.headersFail headers closed
  | starts headers =>
    refine inv.streams (by rw [headers]; rfl) rfl (.inr ⟨headers, rfl⟩) nofun ?_ nofun nofun
    exact fun _ => ⟨rfl, (inv.headers headers).2⟩
  | copies copying =>
    obtain ⟨header, body⟩ := inv.copying copying
    have phase : s.streaming.infoOpen := by rw [copying]; rfl
    refine inv.streams phase phase (.inl rfl) ?_ (fun _ => ⟨header, by rw [body]⟩) ?_ ?_
    all_goals
      rw [copying]
      nofun
  | stops copying closed =>
    have phase : s.streaming.infoOpen := by rw [copying]; rfl
    refine inv.streams phase rfl (.inl rfl) nofun nofun nofun fun is => ?_
    rcases closed (Option.some.inj (Streaming.finished.inj is)) with info | closed
    · -- The inspection reads no more, so it has failed.
      rcases inv.infoReader info with isClosed | failed | is
      · exact absurd isClosed (inv.infoWriter_open phase)
      · exact .inr failed
      rw [copying] at is
      cases is
    · exact .inl closed
  | completes copying length sums =>
    obtain ⟨header, body⟩ := inv.copying copying
    refine inv.streams (by rw [copying]; rfl) rfl (.inl rfl) nofun nofun (fun _ => ?_) nofun
    exact ⟨header, body, length, sums, rfl⟩
  | closesInfoWriter finished => exact inv.closesInfoWriter finished
  | closesPipeWriter closed => exact inv.closesPipeWriter closed
  | returns closed => exact inv.streamReturns closed ok

theorem stepInspecting {event : InspectEvent}
    (taken : stepInspecting s event = some t) : Sound size checksums digest t := by
  have keeps : ∀ {old : Inspecting}, s.inspecting = old → old.drained → s.infoPipe.writerClosed :=
    fun is drained => inv.drained (is ▸ drained)
  cases event with
  | inspected =>
    obtain ⟨ready, ⟨⟩⟩ := ite_none_right_eq_some.mp taken
    exact inv.inspects (by rw [ready.1]; rfl) nofun fun _ => ready.2
  | fails =>
    obtain ⟨running, ⟨⟩⟩ := ite_none_right_eq_some.mp taken
    exact inv.inspects (by rw [running]; rfl) (fun err is => (Option.some.inj is).symm) nofun
  | setVirtualSize | setFormat | closeWait =>
    dsimp only [Dvcr.stepInspecting] at taken
    split at taken <;> cases taken
    rename_i is
    exact inv.inspects (by rw [is]; rfl) nofun fun _ => keeps is rfl
  | closeInfoReader =>
    dsimp only [Dvcr.stepInspecting] at taken
    split at taken <;> cases taken
    rename_i finished
    exact inv.closesInfoReader finished
  | returns =>
    dsimp only [Dvcr.stepInspecting] at taken
    split at taken <;> cases taken
    rename_i closed
    exact inv.inspectReturns closed

theorem stepUploading {event : UploadEvent}
    (ok : orderly s (.upload event)) (taken : stepUploading size s event = some t) : Sound size checksums digest t := by
  cases event with
  | layerUploaded =>
    obtain ⟨ready, ⟨⟩⟩ := ite_none_right_eq_some.mp taken
    refine inv.uploads (by rw [ready.1]; nofun) fun _ has => ?_
    rcases has with is | ⟨_, is⟩ <;> cases is
    exact ⟨rfl, ready.2.1⟩
  | readLabels =>
    dsimp only [Dvcr.stepUploading] at taken
    split at taken <;> cases taken
    rename_i layer is
    refine inv.uploads (by rw [is]; nofun) fun other has => ?_
    rcases has with other | ⟨_, other⟩ <;> cases other
    exact inv.uploaded layer (.inl is)
  | writeImage ok =>
    dsimp only [Dvcr.stepUploading] at taken
    split at taken
    · rename_i labelled
      obtain ⟨active, ⟨⟩⟩ := ite_none_left_eq_some.mp taken
      exact inv.writesImage labelled active ok
    · cases taken
  | fails =>
    dsimp only [Dvcr.stepUploading] at taken
    split at taken <;> cases taken
    all_goals
      rename_i is
      exact inv.uploads (by rw [is]; nofun) fun layer has => (not_has_finished has).elim
  | ends =>
    dsimp only [Dvcr.stepUploading] at taken
    split at taken
    · cases taken
      exact inv.uploadEnds _
    · cases taken

theorem step {event : Event} (ok : orderly s event)
    (taken : step size checksums digest s event = some t) : Sound size checksums digest t := by
  cases event with
  | stream => exact inv.stepStreaming ok taken
  | inspect => exact inv.stepInspecting taken
  | upload => exact inv.stepUploading ok taken
  | streamingEnds => exact inv.streamingEnds taken
  | cancel =>
    cases taken
    exact { inv with streamedBadly := fun _ _ => rfl }

end Sound

/-- An image is published only when it is complete and verified, if it is written after the end of the streaming side
    and an error of the inspection is recorded before the one that it causes in the stream. -/
theorem published_image_complete (size : Nat) (checksums : List (String × String))
    (digest : String → List UInt8 → String) (events : List Event) (s : State) (image : Image)
    (along : Along (step size checksums digest) (fun s event => orderly s event = true) initial events)
    (reached : run (step size checksums digest) initial events = some s) (published : s.image = some image) :
    Complete size checksums digest s.source image.layer ∧ ∀ err, s.streamed ≠ some (some err) := by
  have inv : Sound size checksums digest s :=
    run_invariant (fun _ _ _ inv ok taken => inv.step ok taken) sound_initial along reached
  obtain ⟨streamed, complete⟩ := inv.image image published
  refine ⟨complete, fun _ is => ?_⟩
  rw [streamed] at is
  cases is

def importThree : List Event :=
  [.stream .writeHeaders, .stream (.read [1, 2]), .stream (.read [3]), .stream .sourceEnds, .stream .closeInfoWriter,
    .stream .closePipeWriter, .inspect (.inspected { virtualSize := 3, format := "raw" }), .upload .layerUploaded,
    .inspect .setVirtualSize, .inspect .setFormat, .inspect .closeWait, .inspect .closeInfoReader,
    .inspect .returns, .stream .returns, .streamingEnds, .upload .readLabels, .upload (.writeImage true),
    .upload .ends]

def lengthDigest : String → List UInt8 → String := fun _ bytes => toString bytes.length

theorem published_image_complete_three :
    ∃ s image, run (step 3 [("md5", "3")] lengthDigest) initial importThree = some s ∧ s.image = some image ∧
      image.layer.body = [1, 2, 3] ∧ Complete 3 [("md5", "3")] lengthDigest s.source image.layer := by
  obtain ⟨s, reached, image, published, body⟩ : ∃ s, run (step 3 [("md5", "3")] lengthDigest) initial importThree =
      some s ∧ ∃ image, s.image = some image ∧ image.layer.body = [1, 2, 3] := by
    decide +kernel
  exact ⟨s, image, reached, published, body,
    (published_image_complete 3 [("md5", "3")] lengthDigest importThree s image (by decide +kernel) reached
      published).1⟩

/-- A source that ends before its time. The stream closes the pipe as after a good end, and the upload is done before
    the error has cancelled it. -/
def importTruncated : List Event :=
  [.stream .writeHeaders, .stream (.read [1, 2]), .stream .sourceEnds, .stream .closeInfoWriter,
    .stream .closePipeWriter, .upload .layerUploaded, .upload .readLabels, .upload (.writeImage true)]

theorem truncated_image_published : (run (step 3 [] lengthDigest) initial importTruncated).bind (·.image) =
      some
        { layer := { header := some 3, body := [1, 2], eofMarker := false }
          labels := { sourceImageVirtualSize := "0", sourceImageSize := "3", sourceImageFormat := "" } } := by
  decide +kernel

end Virtualization.Dvcr
