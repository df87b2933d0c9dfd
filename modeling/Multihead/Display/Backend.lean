import Multihead.Display.Error
import Multihead.Display.Event

/-! # Display backends
What a display is to those who use it: a single adapter, or several that act as one. A state of type `α` is asked
for its outputs and told to change them; each operation gives the next state and the calls that reached adapters. -/

set_option autoImplicit false

namespace Multihead

/-- The outcome of an operation that may recreate display buffers. -/
structure Configured (α : Type) where
  answer : Except ConfigureError Unit
  state : α
  events : List Event

/-- The outcome of an operation that keeps the display buffers: done, refused with everything as before, or failed.
The calls that carried the request come before those that took it back. -/
structure Applied (α : Type) where
  answer : Except DisplayError Bool
  state : α
  asked : List Event
  undone : List Event

class Backend (α : Type) where
  configuration : α → Configuration
  configure : α → Configuration → Configured α
  apply : α → Configuration → Applied α
  syncGroups : α → List SyncGroup
  register : Handler → α → α × List Event
  pause : α → α × List Event
  resume : α → α × List Event
  context : α → Except ConfigureError RenderContext × List Event

instance {α β : Type} [Backend α] [Backend β] : Backend (α ⊕ β) where
  configuration
    | .inl a => Backend.configuration a
    | .inr b => Backend.configuration b
  configure
    | .inl a, conf => let r := Backend.configure a conf; ⟨r.answer, .inl r.state, r.events⟩
    | .inr b, conf => let r := Backend.configure b conf; ⟨r.answer, .inr r.state, r.events⟩
  apply
    | .inl a, conf => let r := Backend.apply a conf; ⟨r.answer, .inl r.state, r.asked, r.undone⟩
    | .inr b, conf => let r := Backend.apply b conf; ⟨r.answer, .inr r.state, r.asked, r.undone⟩
  syncGroups
    | .inl a => Backend.syncGroups a
    | .inr b => Backend.syncGroups b
  register
    | h, .inl a => let r := Backend.register h a; (.inl r.1, r.2)
    | h, .inr b => let r := Backend.register h b; (.inr r.1, r.2)
  pause
    | .inl a => let r := Backend.pause a; (.inl r.1, r.2)
    | .inr b => let r := Backend.pause b; (.inr r.1, r.2)
  resume
    | .inl a => let r := Backend.resume a; (.inl r.1, r.2)
    | .inr b => let r := Backend.resume b; (.inr r.1, r.2)
  context
    | .inl a => Backend.context a
    | .inr b => Backend.context b

end Multihead
