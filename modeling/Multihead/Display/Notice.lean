import Multihead.Display.Event

/-! # Notices of changed outputs
Handlers either count or send a message on a channel. The messages of an open channel wait in a queue until the
event loop hands them on; once a channel is closed, sending on it does nothing. -/

set_option autoImplicit false

namespace Multihead

/-- A channel that the event loop reads, with the number of messages that wait and that were handed on. -/
structure Channel where
  isOpen : Bool
  queued : Nat
  delivered : Nat
  deriving DecidableEq

/-- The state that handlers act on. Channels are numbered by their place. -/
structure Hub where
  counter : Nat
  channels : List Channel
  deriving DecidableEq

namespace Channel

def fresh : Channel := ⟨true, 0, 0⟩

/-- The event loop hands on no more than this many messages of a channel at a time. -/
def batch : Nat := 1024

def send (c : Channel) : Channel := if c.isOpen then { c with queued := c.queued + 1 } else c

/-- The number of messages handed on by one turn of the event loop. -/
def due (c : Channel) : Nat := if c.isOpen then min c.queued batch else 0

def deliver (c : Channel) : Channel :=
  { c with queued := c.queued - c.due, delivered := c.delivered + c.due }

/-- What still waits in a closed channel is lost. -/
def close (c : Channel) : Channel := { c with isOpen := false, queued := 0 }

end Channel

namespace Hub

def empty : Hub := ⟨0, []⟩

def openChannels (h : Hub) : Nat := h.channels.countP (·.isOpen)

/-- Calls one handler. -/
def call (h : Hub) : Handler → Hub
  | .count amount => { h with counter := h.counter + amount }
  | .send channel => { h with channels := h.channels.modify channel Channel.send }

def callAll (h : Hub) (handlers : List Handler) : Hub := handlers.foldl call h

/-- Adds an open channel and gives the handler that sends on it. -/
def addChannel (h : Hub) : Hub × Handler :=
  ({ h with channels := h.channels ++ [Channel.fresh] }, .send h.channels.length)

/-- One turn of the event loop, with the number of messages that it handed on. -/
def dispatch (h : Hub) : Hub × Nat :=
  ({ h with channels := h.channels.map Channel.deliver }, h.channels.foldl (fun n c => n + c.due) 0)

def closeChannels (h : Hub) : Hub := { h with channels := h.channels.map Channel.close }

end Hub

end Multihead
