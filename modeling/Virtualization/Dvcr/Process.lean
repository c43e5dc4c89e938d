import Virtualization.Library.Run

/-! The import of an image into DVCR: one goroutine streams the source through a pipe as a tar archive, one inspects it
    through a second pipe, and one uploads what comes out of the first pipe and then publishes the image. -/

namespace Virtualization.Dvcr

open Library

inductive Err where
  | closedPipe
  | header | read | tooLong | sizeMismatch | badImageChecksum | eofMarker | info | upload
deriving DecidableEq

structure ImageInfo where
  virtualSize : Nat
  format : String
deriving DecidableEq

structure Tar where
  header : Option Nat
  body : List UInt8
  eofMarker : Bool
deriving DecidableEq

structure Labels where
  (sourceImageVirtualSize sourceImageSize sourceImageFormat : String)
deriving DecidableEq

structure Image where
  layer : Tar
  labels : Labels
deriving DecidableEq

structure Pipe where
  (writerClosed readerClosed : Bool)

/-- Where the goroutine that reads the source is. Its deferred calls close the pipe to the inspection before the pipe to
    the upload. -/
inductive Streaming where
  | headers | copying
  | finished (err : Option Err)
  | infoClosed (err : Option Err)
  | pipeClosed (err : Option Err)
  | returned
deriving DecidableEq

inductive Inspecting where
  | notStarted | running
  | inspected (info : ImageInfo)
  | sizeSet (info : ImageInfo)
  | formatSet (info : ImageInfo)
  | finished (err : Option Err)
  | pipeClosed (err : Option Err)
  | returned
deriving DecidableEq

inductive Uploading where
  | layer
  | layerUploaded (layer : Tar)
  | labelled (layer : Tar) (labels : Labels)
  | finished (err : Option Err)
  | ended
deriving DecidableEq

structure State where
  source : List UInt8
  tar : Tar
  (pipe infoPipe : Pipe)
  streaming : Streaming
  inspecting : Inspecting
  group : Option Err
  streamed : Option (Option Err)
  cancelled : Bool
  virtualSize : Nat
  format : String
  waitClosed : Bool
  passed : Option ImageInfo
  uploading : Uploading
  image : Option Image

inductive StreamEvent where
  | writeHeaders | headersFail
  | read (chunk : List UInt8) | readFails | sourceEnds
  | closeInfoWriter | closePipeWriter | returns

inductive InspectEvent where
  | inspected (info : ImageInfo) | fails
  | setVirtualSize | setFormat | closeWait
  | closeInfoReader | returns

inductive UploadEvent where
  | layerUploaded | readLabels | writeImage (ok : Bool) | fails | ends

inductive Event where
  | stream (event : StreamEvent)
  | inspect (event : InspectEvent)
  | upload (event : UploadEvent)
  | streamingEnds
  | cancel

def record (group err : Option Err) : Option Err := group <|> err

section Step

-- The announced size, the requested checksums by algorithm, and what the algorithms compute.
variable (size : Nat) (checksums : List (String × String)) (digest : String → List UInt8 → String)

def checksumsMatch (bytes : List UInt8) : Bool := checksums.all fun (algorithm, sum) => digest algorithm bytes = sum

def initial : State where
  source := []
  tar := { header := none, body := [], eofMarker := false }
  pipe := { writerClosed := false, readerClosed := false }
  infoPipe := { writerClosed := false, readerClosed := false }
  streaming := .headers
  inspecting := .notStarted
  group := none
  streamed := none
  cancelled := false
  virtualSize := 0
  format := ""
  waitClosed := false
  passed := none
  uploading := .layer
  image := none

variable (s : State)

/-- One turn of the copy loop: the bytes go to the inspection first, then to the archive. A write to a pipe waits for
    its reader. -/
def copyChunk (chunk : List UInt8) : Option State :=
  let s := { s with source := s.source ++ chunk }
  if s.infoPipe.readerClosed then some { s with streaming := .finished (some .closedPipe) }
  else if s.inspecting ≠ .running then none
  else if s.pipe.readerClosed then some { s with streaming := .finished (some .closedPipe) }
  else if s.uploading ≠ .layer then none
  else if s.tar.body.length + chunk.length > size then
    some { s with
      tar.body := (s.tar.body ++ chunk).take size
      streaming := .finished (some .tooLong) }
  else some { s with tar.body := s.tar.body ++ chunk }

def endCopy : Option State :=
  if s.tar.body.length ≠ size then some { s with streaming := .finished (some .sizeMismatch) }
  else if ¬ checksumsMatch checksums digest s.tar.body then
    some { s with streaming := .finished (some .badImageChecksum) }
  else if s.pipe.readerClosed then some { s with streaming := .finished (some .eofMarker) }
  else if s.uploading ≠ .layer then none
  else some { s with tar.eofMarker := true, streaming := .finished none }

def stepStreaming : StreamEvent → Option State
  | .writeHeaders =>
    if s.streaming ≠ .headers then none
    else if s.pipe.readerClosed then
      some { s with streaming := .returned, inspecting := .returned, group := some .closedPipe }
    else if s.uploading ≠ .layer then none
    else some { s with tar.header := some size, streaming := .copying, inspecting := .running }
  | .headersFail =>
    if s.streaming ≠ .headers then none
    else some { s with streaming := .returned, inspecting := .returned, group := some .header }
  | .read chunk => if s.streaming ≠ .copying then none else copyChunk size s chunk
  | .readFails => if s.streaming ≠ .copying then none else some { s with streaming := .finished (some .read) }
  | .sourceEnds => if s.streaming ≠ .copying then none else endCopy size checksums digest s
  | .closeInfoWriter =>
    match s.streaming with
    | .finished err =>
      some { s with streaming := .infoClosed err, infoPipe.writerClosed := true }
    | _ => none
  | .closePipeWriter =>
    match s.streaming with
    | .infoClosed err =>
      some { s with streaming := .pipeClosed err, pipe.writerClosed := true }
    | _ => none
  | .returns =>
    match s.streaming with
    | .pipeClosed err => some { s with streaming := .returned, group := record s.group err }
    | _ => none

/-- The inspection reads its pipe to the end before it succeeds, and may fail at any time. -/
def stepInspecting : InspectEvent → Option State
  | .inspected info =>
    if s.inspecting = .running ∧ s.infoPipe.writerClosed then
      some { s with inspecting := .inspected info, passed := some info }
    else none
  | .fails =>
    if s.inspecting = .running then some { s with inspecting := .finished (some .info) } else none
  | .setVirtualSize =>
    match s.inspecting with
    | .inspected info => some { s with inspecting := .sizeSet info, virtualSize := info.virtualSize }
    | _ => none
  | .setFormat =>
    match s.inspecting with
    | .sizeSet info => some { s with inspecting := .formatSet info, format := info.format }
    | _ => none
  | .closeWait =>
    match s.inspecting with
    | .formatSet _ => some { s with inspecting := .finished none, waitClosed := true }
    | _ => none
  | .closeInfoReader =>
    match s.inspecting with
    | .finished err =>
      some { s with inspecting := .pipeClosed err, infoPipe.readerClosed := true }
    | _ => none
  | .returns =>
    match s.inspecting with
    | .pipeClosed err => some { s with inspecting := .returned, group := record s.group err }
    | _ => none

/-- The upload. A layer is uploaded when the pipe was read to its end; a request whose context is cancelled is not
    sent. The channel that `informer.Wait()` returns is not received from. -/
def stepUploading : UploadEvent → Option State
  | .layerUploaded =>
    if s.uploading = .layer ∧ s.pipe.writerClosed ∧ ¬ s.cancelled then
      some { s with uploading := .layerUploaded s.tar }
    else none
  | .readLabels =>
    match s.uploading with
    | .layerUploaded layer =>
      some { s with
        uploading := .labelled layer
          { sourceImageVirtualSize := toString s.virtualSize, sourceImageSize := toString size
            sourceImageFormat := s.format } }
    | _ => none
  | .writeImage ok =>
    match s.uploading with
    | .labelled layer labels =>
      if s.cancelled then none
      else some { s with
        uploading := .finished (if ok then none else some .upload), image := some { layer, labels } }
    | _ => none
  | .fails =>
    match s.uploading with
    | .layer | .layerUploaded _ | .labelled _ _ => some { s with uploading := .finished (some .upload) }
    | _ => none
  | .ends =>
    match s.uploading with
    | .finished err =>
      some { s with
        uploading := .ended, cancelled := s.cancelled || err.isSome, pipe.readerClosed := true }
    | _ => none

/-- The end of the streaming side: a closed pipe is taken for the doing of the upload. -/
def streamingEnds : Option State :=
  if s.streaming = .returned ∧ s.inspecting = .returned ∧ s.streamed = none then
    match s.group with
    | none | some .closedPipe => some { s with streamed := some none }
    | some err => some { s with streamed := some (some err), cancelled := true }
  else none

def step : Event → Option State
  | .stream event => stepStreaming size checksums digest s event
  | .inspect event => stepInspecting s event
  | .upload event => stepUploading size s event
  | .streamingEnds => streamingEnds s
  | .cancel => some { s with cancelled := true }

inductive Streams (s : State) : StreamEvent → State → Prop where
  | headersFail (headers : s.streaming = .headers) (closed : err = .closedPipe → s.pipe.readerClosed) :
      Streams s event { s with streaming := .returned, inspecting := .returned, group := some err }
  | starts (headers : s.streaming = .headers) : Streams s event
      { s with tar.header := some size, streaming := .copying, inspecting := .running }
  | copies (copying : s.streaming = .copying) : Streams s event
      { s with source := s.source ++ chunk, tar.body := s.tar.body ++ chunk }
  | stops (copying : s.streaming = .copying)
      (closed : err = .closedPipe → s.infoPipe.readerClosed ∨ s.pipe.readerClosed) :
      Streams s event { s with source, tar, streaming := .finished (some err) }
  | completes (copying : s.streaming = .copying) (length : s.tar.body.length = size)
      (sums : checksumsMatch checksums digest s.tar.body) :
      Streams s event { s with tar.eofMarker := true, streaming := .finished none }
  | closesInfoWriter (finished : s.streaming = .finished err) : Streams s event
      { s with streaming := .infoClosed err, infoPipe.writerClosed := true }
  | closesPipeWriter (closed : s.streaming = .infoClosed err) : Streams s event
      { s with streaming := .pipeClosed err, pipe.writerClosed := true }
  | returns (closed : s.streaming = .pipeClosed err) :
      Streams s .returns { s with streaming := .returned, group := record s.group err }

end Step

variable {size : Nat} {checksums : List (String × String)} {digest : String → List UInt8 → String} {s t : State}

theorem streams_of_step {event : StreamEvent} (taken : stepStreaming size checksums digest s event = some t) :
    Streams size checksums digest s event t := by
  cases event <;> simp only [stepStreaming, copyChunk, endCopy, ne_eq, ite_not] at taken
  case writeHeaders =>
    split_ifs at taken with headers closed <;> cases taken
    · exact .headersFail headers fun _ => closed
    · exact .starts headers
  case headersFail =>
    split_ifs at taken with headers
    cases taken
    exact .headersFail headers nofun
  case read chunk =>
    split_ifs at taken with copying infoClosed inspecting closed <;> cases taken
    · exact .stops copying fun _ => .inl infoClosed
    · exact .stops copying fun _ => .inr closed
    · exact .stops copying nofun
    · exact .copies copying
  case readFails =>
    split_ifs at taken with copying
    cases taken
    exact .stops copying nofun
  case sourceEnds =>
    split_ifs at taken with copying length sums <;> cases taken
    · exact .stops copying nofun
    · exact .completes copying length sums
    all_goals exact .stops copying nofun
  case closeInfoWriter =>
    split at taken <;> cases taken
    exact .closesInfoWriter ‹_›
  case closePipeWriter =>
    split at taken <;> cases taken
    exact .closesPipeWriter ‹_›
  case returns =>
    split at taken <;> cases taken
    exact .returns ‹_›

end Virtualization.Dvcr
