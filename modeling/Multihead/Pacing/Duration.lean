/-! # Durations
A duration is a whole number of nanoseconds that fits 64 bits of seconds. Differences stop at zero, sums that do
not fit have no value, and quotients drop the part of a nanosecond. -/

set_option autoImplicit false

namespace Multihead

namespace Duration

def perSecond : Nat := 1000000000

def perMilli : Nat := 1000000

/-- The first number of nanoseconds that is out of range. -/
def limit : Nat := UInt64.size * perSecond

end Duration

structure Duration where
  nanos : Nat
  inRange : nanos < Duration.limit
  deriving DecidableEq

namespace Duration

theorem ext_nanos {a b : Duration} (h : a.nanos = b.nanos) : a = b := by
  cases a; cases b; cases h; rfl

def zero : Duration := ⟨0, by decide⟩

def second : Duration := ⟨perSecond, by decide⟩

/-- The duration of so many nanoseconds, held at the end of the range. -/
def ofNanos (n : Nat) : Duration :=
  if h : n < limit then ⟨n, h⟩ else ⟨limit - 1, by decide⟩

def ofMillis (ms : UInt64) : Duration :=
  ⟨ms.toNat * perMilli, by
    have h := ms.toNat_lt
    simp only [perMilli, limit, perSecond, UInt64.size]
    omega⟩

def seconds (d : Duration) : Nat := d.nanos / perSecond

/-- The nanoseconds after the last whole second. -/
def subsecond (d : Duration) : Nat := d.nanos % perSecond

def millis (d : Duration) : Nat := d.nanos / perMilli

def isZero (d : Duration) : Bool := d.nanos == 0

/-- What `a` is longer than `b`. -/
def minus (a b : Duration) : Duration :=
  ⟨a.nanos - b.nanos, Nat.lt_of_le_of_lt (Nat.sub_le _ _) a.inRange⟩

/-- The sum, if it is in range. -/
def plus? (a b : Duration) : Option Duration :=
  if h : a.nanos + b.nanos < limit then some ⟨a.nanos + b.nanos, h⟩ else none

/-- The quotient in whole nanoseconds; division by zero gives zero. -/
def dividedBy (a : Duration) (n : Nat) : Duration :=
  ⟨a.nanos / n, Nat.lt_of_le_of_lt (Nat.div_le_self _ _) a.inRange⟩

/-- The quotient, which does not exist for zero. -/
def dividedBy? (a : Duration) (n : UInt32) : Option Duration := if n = 0 then none else some (a.dividedBy n.toNat)

def longer (a b : Duration) : Duration := if a.nanos < b.nanos then b else a

/-- The sum of a list, if every sum on the way is in range. -/
def sum? (ds : List Duration) : Option Duration := ds.foldlM plus? zero

theorem millis_ofMillis (ms : UInt64) : (ofMillis ms).millis = ms.toNat := by
  simp [millis, ofMillis, perMilli]

end Duration

end Multihead
