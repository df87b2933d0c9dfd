import Multihead.Pacing.Timings
import Multihead.Scanout.Bypass
import Multihead.Scanout.Pipeline
import Multihead.Settings.Basic

/-! # Surfaces
A group of outputs that show the same frames. A frame is flipped to on every output; if no output takes the flip, a
mode-set brings it up instead. The flips of a frame are waited for before the next frame is fetched, or at once if
there is one output or the frame is a client's. A frame is visible once its flips were waited for, and the frame
that was visible until then is let go. -/

set_option autoImplicit false

namespace Multihead.Scanout

/-- What is shown: a buffer drawn by the compositor, or one drawn by a client. -/
inductive Frame where
  | composite (buffer : FrontBuffer)
  | bypass (buffer : ClientBuffer)
  deriving DecidableEq

def Frame.kind : Frame → FrameKind
  | composite _ => .composite
  | bypass _ => .bypass

structure Surface where
  /-- The number of outputs. -/
  outputs : Nat
  pipeline : Pipeline
  area : Rect
  transform : Transform
  option : BypassOption
  /-- The client buffer that the next frame shows. -/
  candidate : Option Candidate
  /-- The frame that was posted and is not known to be visible. -/
  scheduled : Option Frame
  visible : Option Frame
  needsModeSet : Bool
  flipsPending : Bool
  timings : Timings
  deriving DecidableEq

/-! ## Errors -/

/-- Why a frame could not be posted. -/
inductive PresentError where
  | noFrontBuffer (reason : String)
  | migration (reason : String)
  | noFramebuffer
  deriving DecidableEq

namespace PresentError

def message : PresentError → String
  | noFrontBuffer _ => "failed to get front buffer"
  | migration _ => "failed to migrate front buffer to the scan-out device"
  | noFramebuffer => "failed to get framebuffer for front buffer"

def causes : PresentError → List String
  | noFrontBuffer reason | migration reason => [reason]
  | noFramebuffer => []

end PresentError

/-- Why a surface could not be created. -/
inductive CreateError where
  | noOutputs
  | notCurrent (reason : String)
  | noSwap (reason : String)
  | noFrontBuffer (reason : String)
  | bounce (e : BounceError)
  | migration (reason : String)
  /-- Some output cannot show what the first one can. -/
  | severalDomains
  | noFramebuffer
  deriving DecidableEq

namespace CreateError

def message : CreateError → String
  | noOutputs => "Cannot create a display buffer without outputs"
  | notCurrent _ => "Failed to make render surface current"
  | noSwap _ => "Failed to submit initial frame"
  | noFrontBuffer _ => "Failed to get frontbuffer"
  | bounce e => e.message
  | migration _ => "Failed to migrate initial frame"
  | severalDomains => "Attempted to create a DisplayBuffer spanning multiple GPU memory domains"
  | noFramebuffer => "Failed to get framebuffer for initial frame"

def causes : CreateError → List String
  | notCurrent reason | noSwap reason | noFrontBuffer reason | migration reason => [reason]
  | bounce e => e.causes
  | noOutputs | severalDomains | noFramebuffer => []

end CreateError

namespace Surface

variable {σ : Type} [Hardware σ]

/-! ## Letting go -/

def letGo : Option Frame → Drive σ Unit
  | none => pure ()
  | some (.composite buffer) => Drive.release buffer
  | some (.bypass buffer) => Drive.releaseClient buffer

def letGoClients : List ClientBuffer → Drive σ Unit
  | [] => pure ()
  | b :: bs => do
    Drive.releaseClient b
    letGoClients bs

def letGoCandidate : Option Candidate → Drive σ Unit
  | none => pure ()
  | some c => Drive.releaseClient c.buffer

/-! ## Showing a frame -/

/-- The outputs, by their place. -/
def places (s : Surface) : List Nat := List.range s.outputs

/-- Sets the mode of every output in turn, whether the ones before it succeeded or not. -/
def setCrtcs (fb : Framebuffer) : List Nat → Drive σ Unit
  | [] => pure ()
  | k :: ks => do
    let _ ← Drive.setCrtc fb k
    setCrtcs fb ks

/-- Asks every output in turn to flip, and tells whether any will. -/
def flips (fb : Framebuffer) : List Nat → Drive σ Bool
  | [] => pure false
  | k :: ks => do
    let taken ← Drive.flip fb k
    let more ← flips fb ks
    return taken || more

def waits : List Nat → Drive σ Unit
  | [] => pure ()
  | k :: ks => do
    Drive.wait k
    waits ks

/-- Waits for the flips that are pending. -/
def awaitFlips (s : Surface) : Drive σ Surface :=
  if s.flipsPending then do
    waits s.places
    let now ← Drive.now
    return { s with flipsPending := false, timings := s.timings.flipCompleted now }
  else pure s

/-- Makes the scheduled frame the visible one. -/
def promote (s : Surface) : Drive σ Surface :=
  match s.scheduled with
  | none => pure s
  | some frame => do
    letGo s.visible
    return { s with scheduled := none, visible := some frame }

/-- Waits until what was posted is on screen. -/
def settle (s : Surface) : Drive σ Surface := do
  let s ← s.awaitFlips
  s.promote

/-- Brings up a framebuffer on every output: by a mode-set if one is due, else by flips, and by a mode-set if no
output takes the flip. -/
def present (s : Surface) (fb : Framebuffer) : Drive σ Surface :=
  if s.needsModeSet then do
    setCrtcs fb s.places
    return { s with needsModeSet := false }
  else do
    let taken ← flips fb s.places
    if taken then
      let now ← Drive.now
      return { s with flipsPending := true, timings := s.timings.flipScheduled now }
    else
      setCrtcs fb s.places
      return s

/-! ## Posting -/

/-- Takes the front buffer of the render surface to where the outputs can show it. -/
def fetch (s : Surface) : Drive σ (Except PresentError (FrontBuffer × Framebuffer)) := do
  match ← Drive.lockFront with
  | .error reason => return .error (.noFrontBuffer reason)
  | .ok front =>
    match ← s.pipeline.migrate front with
    | .error reason => return .error (.migration reason)
    | .ok buffer =>
      match ← Drive.framebuffer 0 buffer with
      | some fb => return .ok (buffer, fb)
      | none =>
        Drive.release buffer
        return .error .noFramebuffer

/-- The candidate if there is one, else a composited frame. -/
def nextFrame (s : Surface) : Drive σ (Except PresentError (Frame × Framebuffer)) :=
  match s.candidate with
  | some c => pure (.ok (.bypass c.buffer, c.fb))
  | none => do
    let fetched ← s.fetch
    return fetched.map fun (buffer, fb) => (.composite buffer, fb)

/-- Only a single output tells how long one may sleep. -/
def refreshInterval (s : Surface) : Drive σ (Option Duration) :=
  if s.outputs = 1 then do
    let rate ← Drive.look (Hardware.refreshRate · 0)
    return Timings.interval rate
  else pure none

/-- Whether a frame is waited for as soon as it is presented. -/
def waitsAtOnce (s : Surface) : Frame → Bool
  | .bypass _ => true
  | .composite _ => s.outputs == 1

/-- Presents a frame that was obtained. -/
def showFrame (s : Surface) (frame : Frame) (fb : Framebuffer) : Drive σ Surface := do
  let s ← { s with candidate := none, scheduled := some frame : Surface }.present fb
  let s ← if s.waitsAtOnce frame then s.settle else pure s
  let interval ← s.refreshInterval
  return { s with timings := s.timings.framePosted frame.kind interval }

/-- Posts the next frame. -/
def post (s : Surface) : Drive σ (Except PresentError Unit × Surface) := do
  let s ← s.settle
  match ← s.nextFrame with
  | .error e => return (.error e, s)
  | .ok (frame, fb) =>
    let s ← s.showFrame frame fb
    return (.ok (), s)

/-! ## Other operations -/

/-- Offers renderables, from the bottom up, in place of the next drawn frame, and tells whether one of them will
be shown. The buffers that are not kept are let go. -/
def overlay (s : Surface) (renderables : List Renderable) : Drive σ (Bool × Surface) := do
  letGoCandidate s.candidate
  if s.transform = .normal ∧ s.option = .allowed then
    let size ← Drive.look Hardware.surfaceSize
    let selection ← select renderables s.area size 0
    letGoClients selection.rest
    return (selection.candidate.isSome, { s with candidate := selection.candidate })
  else
    letGoClients (renderables.map (·.buffer))
    return (false, { s with candidate := none })

/-- Submits what was drawn; a candidate is then no longer wanted. -/
def swapBuffers (s : Surface) : Drive σ (Except String Unit × Surface) := do
  match ← Drive.swapBuffers with
  | .error reason => return (.error reason, s)
  | .ok () =>
    letGoCandidate s.candidate
    return (.ok (), { s with candidate := none })

def scheduleModeSet (s : Surface) : Surface := { s with needsModeSet := true }

def setTransform (s : Surface) (transform : Transform) (area : Rect) : Surface :=
  { s with transform, area }

def recommendedSleep (s : Surface) : Duration := s.timings.sleep

/-- The numbers of the connectors. -/
def connectors (s : Surface) (state : σ) : List UInt32 := s.places.map (Hardware.connector state)

/-! ## Creation -/

/-- Chooses the pipeline for a first front buffer. -/
def choosePipeline (front : FrontBuffer) : Drive σ (Except BounceError Pipeline) := do
  if ← Drive.look (Hardware.isForeign · 0 front) then
    let device ← Drive.look (Hardware.device · 0)
    let size ← Drive.look Hardware.surfaceSize
    Pipeline.createBounce device size
  else return .ok .direct

/-- Draws a first frame and takes it to where every output can show it. -/
def firstFrame (outputs : Nat) : Drive σ (Except CreateError (Pipeline × FrontBuffer × Framebuffer)) := do
  match ← Drive.makeCurrent with
  | .error reason => return .error (.notCurrent reason)
  | .ok () =>
  match ← Drive.swapBuffers with
  | .error reason => return .error (.noSwap reason)
  | .ok () =>
  match ← Drive.lockFront with
  | .error reason => return .error (.noFrontBuffer reason)
  | .ok front =>
  match ← choosePipeline front with
  | .error e =>
    Drive.release front
    return .error (.bounce e)
  | .ok pipeline =>
  match ← pipeline.migrate front with
  | .error reason => return .error (.migration reason)
  | .ok buffer =>
  if ← Drive.look fun state => (List.range outputs).any (Hardware.isForeign state · buffer) then
    Drive.release buffer
    return .error .severalDomains
  else
  match ← Drive.framebuffer 0 buffer with
  | some fb => return .ok (pipeline, buffer, fb)
  | none =>
    Drive.release buffer
    return .error .noFramebuffer

/-- A surface for a number of outputs, with its first frame on each. -/
def create (settings : Settings) (outputs : Nat) (area : Rect) (transform : Transform) :
    Drive σ (Except CreateError Surface) := do
  if outputs = 0 then return .error .noOutputs
  else
  match ← firstFrame outputs with
  | .error e => return .error e
  | .ok (pipeline, buffer, fb) =>
    setCrtcs fb (List.range outputs)
    Drive.releaseCurrent
    return .ok
      { outputs, pipeline, area, transform,
        option := settings.bypass
        candidate := none
        scheduled := none
        visible := some (.composite buffer)
        needsModeSet := false
        flipsPending := false
        timings := Timings.fresh (.ofMillis settings.compositeBudget) (.ofMillis settings.bypassBudget) }

end Surface

end Multihead.Scanout
