import Multihead.Geometry

/-! # Scales
A scale is a double, given by its bits, and the logical length of `len` pixels is `len / scale`. The
quotient is first rounded to a double, a tie going to the even neighbour, and then to a whole number, a
half going away from zero. Both steps are carried out exactly on natural numbers. -/

set_option autoImplicit false

namespace Multihead

/-- The IEEE 754 double with these bits. -/
structure Scale where
  bits : UInt64
  deriving DecidableEq

/-- The number of doubles in a binade, two to the power of 52. -/
def binadeSize : Nat := 4503599627370496

/-- The whole number nearest to `num / den`, a tie going to the even neighbour. -/
def nearestEven (num den : Nat) : Nat :=
  let low := num / den
  let rest := 2 * (num % den)
  if rest < den || (rest == den && low % 2 == 0) then low else low + 1

/-- The double nearest to `num / den`, rounded to a whole number. A quotient below a quarter gives zero, and
one of twice `binadeSize` or more is whole already. -/
def wholeQuotient (num den : Nat) : Nat :=
  if 4 * num < den then 0
  else if 2 * binadeSize * den ≤ num then num / den
  else
    let shift := 54 - Nat.log2 (4 * num / den)
    (2 * nearestEven (num <<< shift) den + (1 <<< shift)) >>> (shift + 1)

namespace Scale

def one : Scale := ⟨0x3FF0000000000000⟩

/-! ## The parts of a double -/

def isNegative (s : Scale) : Bool := s.bits.toNat / binadeSize / 2048 == 1

def exponentField (s : Scale) : Nat := s.bits.toNat / binadeSize % 2048

def fraction (s : Scale) : Nat := s.bits.toNat % binadeSize

def isNaN (s : Scale) : Bool := s.exponentField == 2047 && s.fraction != 0

def isInfinite (s : Scale) : Bool := s.exponentField == 2047 && s.fraction == 0

def isZero (s : Scale) : Bool := s.exponentField == 0 && s.fraction == 0

/-- Greater than zero as a number. -/
def isPos (s : Scale) : Bool := !s.isNegative && !s.isNaN && !s.isZero

/-- Equal as numbers: a NaN equals nothing and the two zeros are equal. -/
def sameNumber (a b : Scale) : Bool :=
  !a.isNaN && !b.isNaN && (a.bits == b.bits || (a.isZero && b.isZero))

/-- A finite scale is its significand, doubled once for each binade, over two to the power of 1074. -/
def significand (s : Scale) : Nat :=
  if s.exponentField == 0 then s.fraction else s.fraction + binadeSize

def binade (s : Scale) : Nat := s.exponentField - 1

/-! ## Logical lengths -/

/-- What is divided by: the scale itself if it is positive, else one. -/
def divisor (s : Scale) : Scale := if s.isPos then s else one

/-- The logical length of `len` pixels. -/
def logical (s : Scale) (len : Nat) : Nat :=
  if s.divisor.isInfinite then 0
  else wholeQuotient (len <<< 1074) (s.divisor.significand <<< s.divisor.binade)

/-- The logical length of a 32-bit length, its sign kept, held at the ends of the range. -/
def logical32 (s : Scale) (len : Int32) : Int32 :=
  if len.toInt < 0 then saturate (-(s.logical len.toInt.natAbs : Int))
  else saturate (s.logical len.toInt.natAbs)

end Scale

end Multihead
