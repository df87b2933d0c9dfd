import Multihead.Scanout.Hardware

/-! # Rigs
Simulated hardware for a surface. Each output answers from its settings, and its flips from a script first; the
render surface counts its swaps, and the count is the handle of the buffer it hands out; copies are numbered
upwards. -/

set_option autoImplicit false

namespace Multihead.Scanout

/-- A simulated output. -/
structure Head where
  id : UInt32
  device : Int32
  refresh : UInt32
  /-- The answers to the next flips. -/
  script : List Bool
  /-- The answer to flips once the script is used up. -/
  flips : Bool
  setsCrtc : Bool
  imports : Bool
  makesFramebuffers : Bool
  /-- Buffers with a handle below this have to be copied. -/
  foreignBelow : UInt64
  /-- What is added to a handle, or to an imported plane, to number a framebuffer. -/
  offset : Int
  deriving DecidableEq

/-- What goes wrong on the side of the render surface. -/
structure Faults where
  makeCurrent : Bool
  swap : Bool
  lock : Bool
  copy : Bool
  deriving DecidableEq

structure Rig where
  heads : List Head
  size : Size
  swaps : UInt64
  egl : String
  gl : String
  lacksCopier : Bool
  nextCopy : UInt64
  faults : Faults
  deriving DecidableEq

namespace Rig

def blankHead : Head := ⟨0, 0, 0, [], false, false, false, false, 0, 0⟩

def head (r : Rig) (k : Nat) : Head := r.heads[k]?.getD blankHead

def adjust (r : Rig) (k : Nat) (f : Head → Head) : Rig := { r with heads := r.heads.modify k f }

def numbered (i : Int) : Framebuffer := ⟨UInt32.ofInt i⟩

/-- The number of the framebuffer for the first of the planes. -/
def planeFramebuffer (h : Head) : List Int32 → Option Framebuffer
  | plane :: _ => if h.imports then some (numbered (100000 + plane.toInt + h.offset)) else none
  | [] => none

def check (fault : Bool) (reason : String) : Except String Unit := if fault then .error reason else .ok ()

instance : Hardware Rig where
  connector r k := (r.head k).id
  refreshRate r k := (r.head k).refresh
  isForeign r k buffer := decide (buffer.handle < (r.head k).foreignBelow)
  device r k := (r.head k).device
  surfaceSize r := r.size
  eglExtensions r := r.egl
  glExtensions r := r.gl
  now r := (Duration.zero, r)
  setCrtc k _ r := ((r.head k).setsCrtc, r)
  flip k _ r := ((r.head k).script.headD (r.head k).flips, r.adjust k fun h => { h with script := h.script.tail })
  waitFlip _ r := r
  framebufferOf k buffer r :=
    let h := r.head k
    (if h.makesFramebuffers then some (numbered (buffer.handle.toNat + h.offset)) else none, r)
  importPlanes k planes r := (planeFramebuffer (r.head k) planes, r)
  makeCurrent r := (check r.faults.makeCurrent "make_current failed", r)
  releaseCurrent r := r
  swapBuffers r :=
    if r.faults.swap then (.error "swap failed", r) else (.ok (), { r with swaps := r.swaps + 1 })
  lockFront r := (if r.faults.lock then .error "lock failed" else .ok ⟨r.swaps, r.size⟩, r)
  createCopier _ _ _ r := (check r.lacksCopier "no copier", r)
  copy source r :=
    if r.faults.copy then (.error "copy failed", r)
    else (.ok ⟨r.nextCopy, source.size⟩, { r with nextCopy := r.nextCopy + 1 })

end Rig

end Multihead.Scanout
