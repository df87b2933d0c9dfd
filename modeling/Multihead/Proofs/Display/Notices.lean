import Mathlib.Data.List.Basic
import Multihead.Display.Notice

/-! # Messages of a channel
Messages that wait in a channel and those that were handed on are together all that were sent on it. Calling handlers
sends as many messages on an open channel as there are calls of its handler, and none on a closed one. -/

set_option autoImplicit false

namespace Multihead

/-! ## Channels -/

namespace Channel

/-- The number of messages that were sent, waiting or handed on. -/
def messages (c : Channel) : Nat := c.delivered + c.queued

/-- As many messages are sent one after the other. -/
def sendTimes (n : Nat) (c : Channel) : Channel := if c.isOpen then { c with queued := c.queued + n } else c

/-- Hands on the first messages that wait, this many at most. -/
def handOn (most : Nat) (c : Channel) : Channel :=
  let n := if c.isOpen then min c.queued most else 0
  { c with queued := c.queued - n, delivered := c.delivered + n }

theorem sendTimes_zero (c : Channel) : c.sendTimes 0 = c := by
  rw [sendTimes]
  split <;> rfl

theorem sendTimes_sendTimes (m n : Nat) (c : Channel) : (c.sendTimes m).sendTimes n = c.sendTimes (m + n) := by
  obtain ⟨isOpen, queued, delivered⟩ := c
  cases isOpen with
  | true => simp only [sendTimes, if_true, Nat.add_assoc]
  | false => rfl

theorem deliver_eq_handOn (c : Channel) : c.deliver = c.handOn batch := rfl

theorem messages_sendTimes (n : Nat) (c : Channel) (isOpen : c.isOpen = true) :
    (c.sendTimes n).messages = c.messages + n := by
  rw [sendTimes, if_pos isOpen, messages, messages, Nat.add_assoc]

theorem messages_handOn (most : Nat) (c : Channel) : (c.handOn most).messages = c.messages := by
  simp only [messages, handOn]
  split <;> omega

theorem isOpen_sendTimes (n : Nat) (c : Channel) : (c.sendTimes n).isOpen = c.isOpen := by
  rw [sendTimes]
  split <;> rfl

/-- A closed channel in which nothing waits. -/
def IsDead (c : Channel) : Prop := c.isOpen = false ∧ c.queued = 0

section Dead
variable {c : Channel} (dead : c.IsDead)

include dead

theorem IsDead.sendTimes_eq (n : Nat) : c.sendTimes n = c := by
  rw [sendTimes, dead.1]
  rfl

theorem IsDead.handOn_eq (most : Nat) : c.handOn most = c := by
  obtain ⟨isOpen, queued, delivered⟩ := c
  obtain ⟨rfl, rfl⟩ := dead
  rfl

theorem IsDead.close_eq : c.close = c := by
  obtain ⟨closed, empty⟩ := dead
  rw [close, ← closed, ← empty]

end Dead

end Channel

/-! ## Handlers called one after the other -/

namespace Hub

/-- A turn of the event loop that hands on the first messages of each channel, up to a number of its own. -/
def turn (most : Nat → Nat) (h : Hub) : Hub := { h with channels := h.channels.mapIdx fun k => Channel.handOn (most k) }

def closeChannel (k : Nat) (h : Hub) : Hub := { h with channels := h.channels.modify k Channel.close }

theorem dispatch_eq_turn (h : Hub) : h.dispatch.1 = h.turn fun _ => Channel.batch := by
  have same : h.channels.map Channel.deliver = h.channels.mapIdx fun _ => Channel.handOn Channel.batch := by
    refine List.ext_getElem? fun k => ?_
    rw [List.getElem?_map, List.getElem?_mapIdx, funext Channel.deliver_eq_handOn]
  rw [dispatch, turn, same]

theorem channel_call (h : Hub) (x : Handler) (k : Nat) :
    (h.call x).channels[k]? = h.channels[k]?.map (Channel.sendTimes ([x].count (.send k))) := by
  cases x with
  | count amount =>
    have other : [Handler.count amount].count (.send k) = 0 := by simp
    have same : Channel.sendTimes 0 = id := funext Channel.sendTimes_zero
    rw [other, same, Option.map_id]
    rfl
  | send j =>
    rw [call, List.getElem?_modify]
    cases h.channels[k]? with
    | none => rfl
    | some c =>
      by_cases same : j = k
      · simp [same, Channel.send, Channel.sendTimes]
      · simp [same, Channel.sendTimes_zero]

theorem channel_callAll (h : Hub) (hs : List Handler) (k : Nat) :
    (h.callAll hs).channels[k]? = h.channels[k]?.map (Channel.sendTimes (hs.count (.send k))) := by
  induction hs generalizing h with
  | nil =>
    have same : Channel.sendTimes 0 = id := funext Channel.sendTimes_zero
    rw [List.count_nil, same, Option.map_id]
    rfl
  | cons x hs ih =>
    have first : h.callAll (x :: hs) = (h.call x).callAll hs := rfl
    have both : Channel.sendTimes (hs.count (.send k)) ∘ Channel.sendTimes ([x].count (.send k)) =
        Channel.sendTimes ((x :: hs).count (.send k)) := by
      funext c
      rw [Function.comp_apply, Channel.sendTimes_sendTimes, ← List.count_append, List.singleton_append]
    rw [first, ih, channel_call, Option.map_map, both]

/-- On a channel that is closed nothing is sent. -/
theorem call_send_of_dead {h : Hub} {k : Nat} {c : Channel} (here : h.channels[k]? = some c) (dead : c.IsDead) :
    h.call (.send k) = h := by
  have same : h.channels.modify k Channel.send = h.channels := by
    refine List.ext_getElem? fun j => ?_
    rw [List.getElem?_modify]
    split
    · next at_k =>
      have sent : c.send = c := by rw [Channel.send, dead.1]; rfl
      rw [← at_k, here, Option.map_eq_map, Option.map_some, sent]
    · simp
  rw [call, same]

theorem callAll_of_dead {h : Hub} {k : Nat} {c : Channel} (here : h.channels[k]? = some c) (dead : c.IsDead)
    (hs : List Handler) : h.callAll hs = h.callAll (hs.filter (· ≠ .send k)) := by
  induction hs generalizing h with
  | nil => rfl
  | cons x hs ih =>
    by_cases same : x = .send k
    · have dropped : (x :: hs).filter (· ≠ .send k) = hs.filter (· ≠ .send k) :=
        List.filter_cons_of_neg (by simp [same])
      have first : h.callAll (x :: hs) = h.callAll hs := by
        rw [same]
        exact congrArg (callAll · hs) (call_send_of_dead here dead)
      rw [dropped, first, ih here]
    · have kept : (x :: hs).filter (· ≠ .send k) = x :: hs.filter (· ≠ .send k) :=
        List.filter_cons_of_pos (by simp [same])
      have still : (h.call x).channels[k]? = some c := by
        rw [channel_call, here, Option.map_some, dead.sendTimes_eq]
      rw [kept]
      exact ih still

end Hub

end Multihead
