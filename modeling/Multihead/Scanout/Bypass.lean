import Multihead.Scanout.Hardware

/-! # Bypass
The choice of a client buffer that is shown directly instead of being drawn. Renderables are examined from the
topmost down. One that covers the view exactly, opaque and upright, is chosen; one that would be drawn over the
view in any other way, or is transformed at all, ends the search without a choice. -/

set_option autoImplicit false

namespace Multihead.Scanout

/-! ## Matching -/

/-- The state of a search in a view area: whether anything below may still be chosen. -/
structure Matcher where
  area : Rect
  feasible : Bool
  deriving DecidableEq

namespace Matcher

def start (area : Rect) : Matcher := ⟨area, true⟩

def giveUp (m : Matcher) : Matcher := { m with feasible := false }

/-- Opaque, a plain rectangle, and exactly where the view is. -/
def covers (m : Matcher) (r : Renderable) : Bool :=
  r.alpha == Alpha.one && !r.shaped && r.position == m.area

/-- Whether the next renderable is chosen, and the state of the search after it. -/
def step (m : Matcher) (r : Renderable) : Bool × Matcher :=
  if !m.feasible then (false, m)
  else if r.transform ≠ .normal then (false, m.giveUp)
  else if !r.position.overlaps m.area then (false, m)
  else if m.covers r then (true, m)
  else (false, m.giveUp)

/-- The answers to a list of renderables, one after the other. -/
def run (m : Matcher) : List Renderable → List Bool
  | [] => []
  | r :: rs => (m.step r).1 :: run (m.step r).2 rs

end Matcher

/-! ## Picking -/

/-- A chosen renderable, between those above and those below it, from the topmost down. -/
structure Pick where
  above : List Renderable
  chosen : Renderable
  below : List Renderable
  deriving DecidableEq

/-- Picks the first renderable that matches. -/
def Matcher.pick (m : Matcher) : List Renderable → Option Pick
  | [] => none
  | r :: rs =>
    if (m.step r).1 then some ⟨[], r, rs⟩
    else (pick (m.step r).2 rs).map fun p => { p with above := r :: p.above }

/-- The other renderables, from the bottom up. -/
def Pick.others (p : Pick) : List Renderable := p.below.reverse ++ p.above.reverse

/-! ## Selecting -/

/-- A client buffer with the framebuffer by which it can be shown. -/
structure Candidate where
  buffer : ClientBuffer
  fb : Framebuffer
  deriving DecidableEq

/-- The candidate, if there is one, and the buffers of the renderables that are not needed. -/
structure Selection where
  candidate : Option Candidate
  rest : List ClientBuffer
  deriving DecidableEq

variable {σ : Type} [Hardware σ]

/-- A buffer of the right size that shares its memory is imported by the output. -/
def candidateOf (size : Size) (output : Nat) (buffer : ClientBuffer) : Drive σ (Option Candidate) :=
  if buffer.size = size then
    match buffer.planes with
    | none => pure none
    | some planes => do
      let fb ← Drive.importPlanes output planes
      return fb.map fun fb => ⟨buffer, fb⟩
  else pure none

/-- Selects among renderables that are listed from the bottom up. -/
def select (renderables : List Renderable) (area : Rect) (size : Size) (output : Nat) : Drive σ Selection :=
  match (Matcher.start area).pick renderables.reverse with
  | none => pure ⟨none, renderables.map (·.buffer)⟩
  | some p => do
    match ← candidateOf size output p.chosen.buffer with
    | none => return ⟨none, renderables.map (·.buffer)⟩
    | some c => return ⟨some c, p.others.map (·.buffer)⟩

end Multihead.Scanout
