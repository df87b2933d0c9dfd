import Multihead.Geometry

/-! # Renderables
What a compositor would draw: a client buffer at a place on the screen. Buffers that share their memory list
the file descriptors of their planes. -/

set_option autoImplicit false

namespace Multihead.Scanout

structure ClientBuffer where
  id : UInt64
  size : Size
  /-- The planes of a buffer that other devices can read. -/
  planes : Option (List Int32)
  deriving DecidableEq

/-- A 32-bit float, given by its bits. -/
structure Alpha where
  bits : UInt32
  deriving DecidableEq

/-- The number one has a single form. -/
def Alpha.one : Alpha := ⟨0x3F800000⟩

structure Renderable where
  buffer : ClientBuffer
  position : Rect
  transform : Transform
  alpha : Alpha
  /-- Whether it is not a rectangle, or translucent in places. -/
  shaped : Bool
  deriving DecidableEq

end Multihead.Scanout
