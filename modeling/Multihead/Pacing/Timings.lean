import Multihead.Pacing.Duration

/-! # Timings
How long one may sleep before the next frame, and how long past flips took. After a frame was posted one may sleep
for the refresh interval less the time that a frame of this kind takes. Of the flips a window of the last ones is
kept: when it has grown to twice its length, the older half goes. -/

set_option autoImplicit false

namespace Multihead

inductive FrameKind where
  | composite
  | bypass
  deriving DecidableEq

structure Timings where
  compositeBudget : Duration
  bypassBudget : Duration
  sleep : Duration
  /-- When the flip that is not yet completed was scheduled. -/
  pending : Option Duration
  /-- How long flips took, oldest first. -/
  flips : List Duration
  deriving DecidableEq

namespace Timings

/-- The number of flips that are always kept. -/
def window : Nat := 360

def fresh (composite bypass : Duration) : Timings := ⟨composite, bypass, Duration.zero, none, []⟩

/-- The refresh interval at a rate in Hertz; there is none at rate zero. -/
def interval (rate : UInt32) : Option Duration :=
  if rate = 0 then none else some (Duration.second.dividedBy rate.toNat)

def budget (t : Timings) : FrameKind → Duration
  | .composite => t.compositeBudget
  | .bypass => t.bypassBudget

/-- What is left of the interval; without one there is no sleep. -/
def sleepAfter (t : Timings) (kind : FrameKind) : Option Duration → Duration
  | none => Duration.zero
  | some refresh => refresh.minus (t.budget kind)

def framePosted (t : Timings) (kind : FrameKind) (refresh : Option Duration) : Timings :=
  { t with sleep := t.sleepAfter kind refresh }

def flipScheduled (t : Timings) (now : Duration) : Timings := { t with pending := some now }

/-- Adds a flip at the end and drops old ones once there are two windows of them. -/
def record (flips : List Duration) (flip : Duration) : List Duration :=
  let all := flips ++ [flip]
  if 2 * window ≤ all.length then all.drop (all.length - window) else all

/-- Without a pending flip nothing is recorded. -/
def flipCompleted (t : Timings) (now : Duration) : Timings :=
  match t.pending with
  | none => t
  | some since => { t with pending := none, flips := record t.flips (now.minus since) }

def longestFlip (t : Timings) : Duration := t.flips.foldl Duration.longer Duration.zero

/-- The mean in whole nanoseconds; zero if there are no flips, or if their sum is out of range. Flips are counted to
32 bits. -/
def meanFlip (t : Timings) : Duration :=
  match Duration.sum? t.flips with
  | none => Duration.zero
  | some total => (total.dividedBy? (UInt32.ofNat t.flips.length)).getD Duration.zero

end Timings

end Multihead
