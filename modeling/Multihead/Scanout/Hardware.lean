import Multihead.Output
import Multihead.Pacing.Duration
import Multihead.Scanout.Renderable

/-! # Hardware
The devices that a surface drives: the outputs of a group, numbered by their place, one render surface for all of
them, and a maker of copiers between devices. Hardware has a state of any type `σ` and answers each request as it
likes. A drive is a computation that makes requests; it leaves a trace of them, with their answers, in order. -/

set_option autoImplicit false

namespace Multihead.Scanout

/-- The number of a framebuffer that an output can show. -/
structure Framebuffer where
  number : UInt32
  deriving DecidableEq

/-- A buffer that the render surface, or a copier, has handed out. -/
structure FrontBuffer where
  handle : UInt64
  size : Size
  deriving DecidableEq

class Hardware (σ : Type) where
  /-- The number of the connector behind an output. -/
  connector : σ → Nat → UInt32
  /-- The highest refresh rate of an output in Hertz, zero if unknown. -/
  refreshRate : σ → Nat → UInt32
  /-- Whether an output cannot show a buffer unless it is copied to the output's device. -/
  isForeign : σ → Nat → FrontBuffer → Bool
  /-- The file descriptor of an output's device. -/
  device : σ → Nat → Int32
  surfaceSize : σ → Size
  eglExtensions : σ → String
  glExtensions : σ → String
  now : σ → Duration × σ
  setCrtc : Nat → Framebuffer → σ → Bool × σ
  flip : Nat → Framebuffer → σ → Bool × σ
  waitFlip : Nat → σ → σ
  framebufferOf : Nat → FrontBuffer → σ → Option Framebuffer × σ
  /-- Makes a framebuffer of a client buffer with these planes. -/
  importPlanes : Nat → List Int32 → σ → Option Framebuffer × σ
  makeCurrent : σ → Except String Unit × σ
  releaseCurrent : σ → σ
  swapBuffers : σ → Except String Unit × σ
  lockFront : σ → Except String FrontBuffer × σ
  createCopier : Int32 → Size → PixelFormat → σ → Except String Unit × σ
  copy : FrontBuffer → σ → Except String FrontBuffer × σ

/-! ## Traces -/

/-- Something that was asked of the hardware, with its answer, or a buffer that was let go. -/
inductive Act where
  | makeCurrent (ok : Bool)
  | releaseCurrent
  | swap (ok : Bool)
  | lock (answer : Option FrontBuffer)
  | createCopier (device : Int32) (size : Size) (format : PixelFormat) (ok : Bool)
  | copy (source : FrontBuffer) (answer : Option FrontBuffer)
  | framebuffer (output : Nat) (buffer : FrontBuffer) (answer : Option Framebuffer)
  | importBuffer (output : Nat) (planes : List Int32) (answer : Option Framebuffer)
  | setCrtc (output : Nat) (fb : Framebuffer) (ok : Bool)
  | flip (output : Nat) (fb : Framebuffer) (ok : Bool)
  | wait (output : Nat)
  | release (buffer : FrontBuffer)
  | releaseClient (buffer : ClientBuffer)
  deriving DecidableEq

/-! ## Drives -/

/-- What a drive gives: a value, the state it leaves the hardware in, and its trace. -/
structure Driven (σ α : Type) where
  value : α
  state : σ
  acts : List Act

/-- A computation on hardware. -/
def Drive (σ α : Type) : Type := σ → Driven σ α

namespace Drive

variable {σ α β : Type}

instance : Monad (Drive σ) where
  pure a := fun s => ⟨a, s, []⟩
  bind x f := fun s =>
    let r := x s
    let q := f r.value r.state
    ⟨q.value, q.state, r.acts ++ q.acts⟩

@[simp] theorem pure_run (a : α) (s : σ) : (pure a : Drive σ α) s = ⟨a, s, []⟩ := rfl

@[simp] theorem bind_run (x : Drive σ α) (f : α → Drive σ β) (s : σ) :
    (x >>= f) s = ⟨(f (x s).value (x s).state).value, (f (x s).value (x s).state).state,
      (x s).acts ++ (f (x s).value (x s).state).acts⟩ := rfl

instance : LawfulMonad (Drive σ) :=
  LawfulMonad.mk' (Drive σ)
    (fun x => funext fun s => by
      change Driven.mk (x s).value (x s).state ((x s).acts ++ []) = x s
      rw [List.append_nil])
    (fun a f => funext fun s => by simp)
    (fun x f g => funext fun s => by simp)

@[simp] theorem map_run (f : α → β) (x : Drive σ α) (s : σ) :
    (f <$> x) s = ⟨f (x s).value, (x s).state, (x s).acts⟩ := by
  change Driven.mk (f (x s).value) (x s).state ((x s).acts ++ []) = _
  rw [List.append_nil]

/-- Reads the state of the hardware without a trace. -/
def look (f : σ → α) : Drive σ α := fun s => ⟨f s, s, []⟩

/-- Makes a request and records it with its answer. -/
def ask (request : σ → α × σ) (record : α → List Act) : Drive σ α := fun s =>
  let r := request s
  ⟨r.1, r.2, record r.1⟩

/-- Records something that asks nothing of the hardware. -/
def note (act : Act) : Drive σ Unit := fun s => ⟨(), s, [act]⟩

end Drive

/-! ## Requests -/

namespace Drive

variable {σ : Type} [Hardware σ]

def now : Drive σ Duration := ask Hardware.now fun _ => []

def setCrtc (fb : Framebuffer) (output : Nat) : Drive σ Bool :=
  ask (Hardware.setCrtc output fb) fun ok => [.setCrtc output fb ok]

def flip (fb : Framebuffer) (output : Nat) : Drive σ Bool :=
  ask (Hardware.flip output fb) fun ok => [.flip output fb ok]

def wait (output : Nat) : Drive σ Unit :=
  ask (fun s => ((), Hardware.waitFlip output s)) fun _ => [.wait output]

def framebuffer (output : Nat) (buffer : FrontBuffer) : Drive σ (Option Framebuffer) :=
  ask (Hardware.framebufferOf output buffer) fun fb => [.framebuffer output buffer fb]

def importPlanes (output : Nat) (planes : List Int32) : Drive σ (Option Framebuffer) :=
  ask (Hardware.importPlanes output planes) fun fb => [.importBuffer output planes fb]

def makeCurrent : Drive σ (Except String Unit) :=
  ask Hardware.makeCurrent fun r => [.makeCurrent (r.isOk)]

def releaseCurrent : Drive σ Unit :=
  ask (fun s => ((), Hardware.releaseCurrent s)) fun _ => [.releaseCurrent]

def swapBuffers : Drive σ (Except String Unit) :=
  ask Hardware.swapBuffers fun r => [.swap (r.isOk)]

def lockFront : Drive σ (Except String FrontBuffer) :=
  ask Hardware.lockFront fun r => [.lock (r.toOption)]

def createCopier (device : Int32) (size : Size) (format : PixelFormat) : Drive σ (Except String Unit) :=
  ask (Hardware.createCopier device size format) fun r => [.createCopier device size format (r.isOk)]

/-- The copier hands its source back when it is done with it, whether it made a copy or not. -/
def copy (source : FrontBuffer) : Drive σ (Except String FrontBuffer) :=
  ask (Hardware.copy source) fun r => [.copy source (r.toOption), .release source]

/-- Hands a buffer back. -/
def release (buffer : FrontBuffer) : Drive σ Unit := note (.release buffer)

def releaseClient (buffer : ClientBuffer) : Drive σ Unit := note (.releaseClient buffer)

end Drive

end Multihead.Scanout
