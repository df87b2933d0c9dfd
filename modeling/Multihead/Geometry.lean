/-! # Geometry
Points, sizes and rectangles with 32-bit coordinates, and the eight orientations of a picture. They behave as those of
smithay are documented to: the far edge of a rectangle does not belong to it and is found by addition that saturates at
the ends of the coordinate range, and a quarter turn makes width and height change places. -/

set_option autoImplicit false

namespace Multihead

structure Point where
  x : Int32
  y : Int32
  deriving DecidableEq

structure Size where
  w : Int32
  h : Int32
  deriving DecidableEq

structure Rect where
  origin : Point
  size : Size
  deriving DecidableEq

/-! ## Coordinates at the ends of their range -/

/-- The nearest 32-bit coordinate. -/
def saturate (i : Int) : Int32 :=
  if i < Int32.minValue.toInt then Int32.minValue
  else if Int32.maxValue.toInt < i then Int32.maxValue
  else Int32.ofInt i

/-- Where a stretch of length `len` that starts at `start` ends, by saturating addition. -/
def farEdge (start len : Int32) : Int32 := saturate (start.toInt + len.toInt)

/-! ## Rectangles -/

namespace Rect

def right (r : Rect) : Int32 := farEdge r.origin.x r.size.w

def bottom (r : Rect) : Int32 := farEdge r.origin.y r.size.h

/-- Whether each of them begins before the other one ends, along both axes. Far edges are exclusive, so that touching
rectangles do not overlap. -/
def overlaps (a b : Rect) : Bool :=
  a.origin.x < b.right && b.origin.x < a.right && a.origin.y < b.bottom && b.origin.y < a.bottom

end Rect

/-! ## Orientations -/

/-- A rotation by quarter turns, after a mirroring if flipped. -/
inductive Transform where
  | normal
  | quarter
  | half
  | threeQuarter
  | flipped
  | flippedQuarter
  | flippedHalf
  | flippedThreeQuarter
  deriving DecidableEq

namespace Transform

/-- Whether width and height change places. -/
def swapsAxes : Transform → Bool
  | quarter | threeQuarter | flippedQuarter | flippedThreeQuarter => true
  | normal | half | flipped | flippedHalf => false

/-- The size of a picture of size `s` when it is turned: quarter turns make width and height change places, and
mirroring alone keeps them. -/
def apply (t : Transform) (s : Size) : Size :=
  if t.swapsAxes then ⟨s.h, s.w⟩ else s

end Transform

end Multihead
