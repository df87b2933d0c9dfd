import Multihead.Configuration

/-! # What reaches the adapters
The calls that an adapter receives, with the answers it gives, in the form in which a trace records them. -/

set_option autoImplicit false

namespace Multihead

/-- What is done when the outputs of an adapter change. -/
inductive Handler where
  /-- Adds to a counter. -/
  | count (amount : Nat)
  /-- Sends a message on the channel with this number. -/
  | send (channel : Nat)
  deriving DecidableEq

/-- An adapter's answer to a configuration that has to keep the display buffers. -/
inductive CommitAnswer where
  | accept
  | reject
  | fail
  | incomplete
  deriving DecidableEq

/-- An adapter's answer to a configuration that may recreate the display buffers. -/
inductive ModeSetAnswer where
  | accept
  | fail
  deriving DecidableEq

/-- A group of outputs of an adapter that is flipped together. -/
structure SyncGroup where
  adapter : Nat
  index : Nat
  deriving DecidableEq

/-- A call received by the adapter with this number. -/
inductive Event where
  | apply (adapter : Nat) (answer : CommitAnswer) (conf : Configuration)
  | configure (adapter : Nat) (answer : ModeSetAnswer) (conf : Configuration)
  | register (adapter : Nat)
  | pause (adapter : Nat)
  | resume (adapter : Nat)
  | createContext (adapter : Nat)
  | makeCurrent (adapter : Nat)
  | releaseCurrent (adapter : Nat)
  | post (group : SyncGroup)
  deriving DecidableEq

/-- A context for drawing on the adapter with this number. -/
structure RenderContext where
  adapter : Nat
  deriving DecidableEq

namespace RenderContext

def makeCurrent (c : RenderContext) : Event := .makeCurrent c.adapter

def releaseCurrent (c : RenderContext) : Event := .releaseCurrent c.adapter

end RenderContext

end Multihead
