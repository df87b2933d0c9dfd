import Multihead.Scanout.Extensions
import Multihead.Scanout.Hardware

/-! # The pipeline
The way from the render surface to the outputs. Either they share memory and frames are shown as they are, or each
frame is first copied to the device of the outputs. -/

set_option autoImplicit false

namespace Multihead.Scanout

inductive Pipeline where
  | direct
  | bounce
  deriving DecidableEq

/-- Why no copier could be made. -/
inductive BounceError where
  | missing (m : MissingExtensions)
  | copier (reason : String)
  deriving DecidableEq

namespace BounceError

def message : BounceError → String
  | missing m => m.message
  | copier _ => "Failed to create buffer copier for hybrid output"

def causes : BounceError → List String
  | missing _ => []
  | copier reason => [reason]

end BounceError

namespace Pipeline

variable {σ : Type} [Hardware σ]

/-- The pixel format of copies. -/
def bounceFormat : PixelFormat := ⟨"XR24"⟩

def isBounce : Pipeline → Bool
  | direct => false
  | bounce => true

def text : Pipeline → String
  | direct => "Direct"
  | bounce => "Bounce"

/-- Checks the extensions, and makes a copier if none is missing. -/
def createBounce (device : Int32) (size : Size) : Drive σ (Except BounceError Pipeline) := do
  let egl ← Drive.look Hardware.eglExtensions
  let gl ← Drive.look Hardware.glExtensions
  match requireExtensions "EGL" requiredEGL egl, requireExtensions "GL" requiredGL gl with
  | .error m, _ => return .error (.missing m)
  | .ok (), .error m => return .error (.missing m)
  | .ok (), .ok () =>
    match ← Drive.createCopier device size bounceFormat with
    | .error reason => return .error (.copier reason)
    | .ok () => return .ok bounce

/-- The buffer to show for a front buffer: itself, or a copy. -/
def migrate (p : Pipeline) (front : FrontBuffer) : Drive σ (Except String FrontBuffer) :=
  match p with
  | direct => pure (.ok front)
  | bounce => Drive.copy front

end Pipeline

end Multihead.Scanout
