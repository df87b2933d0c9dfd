import Multihead.Scanout.Surface

/-! # Runs of a surface
Requests are served one after the other, on hardware that answers as it likes. Each leaves a turn behind: what was
asked, the surface after it, and the acts in between. The log of a run also says when client buffers come in. -/

set_option autoImplicit false

namespace Multihead.Scanout

inductive Request where
  | post
  | overlay (renderables : List Renderable)
  | swapBuffers
  | setTransform (transform : Transform) (area : Rect)
  | scheduleModeSet

structure Turn where
  request : Request
  after : Surface
  acts : List Act

/-- Something that can be seen from outside a surface. -/
inductive Entry where
  | act (a : Act)
  /-- Client buffers are handed to the surface. -/
  | offer (buffers : List ClientBuffer)
  /-- One of them is kept, with the framebuffer that shows it. -/
  | choose (c : Candidate)
  deriving DecidableEq

def Turn.log (t : Turn) : List Entry :=
  match t.request with
  | .overlay renderables =>
    .offer (renderables.map (·.buffer)) :: t.acts.map .act ++ t.after.candidate.toList.map .choose
  | _ => t.acts.map .act

namespace Surface

variable {σ : Type} [Hardware σ]

def perform (s : Surface) : Request → Drive σ Surface
  | .post => Prod.snd <$> s.post
  | .overlay renderables => Prod.snd <$> s.overlay renderables
  | .swapBuffers => Prod.snd <$> s.swapBuffers
  | .setTransform transform area => pure (s.setTransform transform area)
  | .scheduleModeSet => pure s.scheduleModeSet

def turn (s : Surface) (h : σ) (r : Request) : Turn := ⟨r, (s.perform r h).value, (s.perform r h).acts⟩

def turns (s : Surface) (h : σ) : List Request → List Turn
  | [] => []
  | r :: rs => s.turn h r :: turns (s.perform r h).value (s.perform r h).state rs

def log (s : Surface) (h : σ) (rs : List Request) : List Entry := (s.turns h rs).flatMap Turn.log

theorem log_cons (s : Surface) (h : σ) (r : Request) (rs : List Request) :
    s.log h (r :: rs) = (s.turn h r).log ++ (s.perform r h).value.log (s.perform r h).state rs := rfl

theorem map_request_turns (s : Surface) (h : σ) (rs : List Request) : (s.turns h rs).map (·.request) = rs := by
  induction rs generalizing s h with
  | nil => rfl
  | cons r rs ih => rw [turns, List.map_cons, ih]; rfl

end Surface

end Multihead.Scanout
