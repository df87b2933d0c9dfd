import Multihead.Scale

/-! # Outputs
The state of one connector, as a card reports it or as it is asked for. An output takes room in the
logical layout by its current mode, turned by its orientation and shrunk by its scale. -/

set_option autoImplicit false

namespace Multihead

/-- The number of an output inside one snapshot. -/
structure OutputId where
  number : UInt32
  deriving DecidableEq

/-- The card that an output belongs to. -/
structure CardId where
  number : UInt32
  deriving DecidableEq

def OutputId.text (i : OutputId) : String := "output-" ++ toString i.number.toNat

def CardId.text (c : CardId) : String := "card" ++ toString c.number.toNat

/-- The four-character code of a pixel format. -/
structure PixelFormat where
  code : String
  deriving DecidableEq

/-- A size in pixels and a refresh rate in millihertz. -/
structure Mode where
  size : Size
  refreshMilli : UInt32
  deriving DecidableEq

inductive Power where
  | on
  | standby
  | suspend
  | off
  deriving DecidableEq

structure Gamma where
  red : List UInt16
  green : List UInt16
  blue : List UInt16
  deriving DecidableEq

def Gamma.isEmpty (g : Gamma) : Bool := g.red.isEmpty && g.green.isEmpty && g.blue.isEmpty

structure Output where
  id : OutputId
  card : CardId
  name : String
  connected : Bool
  used : Bool
  formats : List PixelFormat
  modes : List Mode
  preferred : Nat
  current : Option Nat
  physical : Size
  topLeft : Point
  format : PixelFormat
  power : Power
  orientation : Transform
  scale : Scale
  hasGamma : Bool
  gamma : Gamma
  deriving DecidableEq

namespace Output

/-- The mode in use, if its number is that of a mode. -/
def currentMode (o : Output) : Option Mode := o.current.bind (o.modes[·]?)

def preferredMode (o : Output) : Option Mode := o.modes[o.preferred]?

/-- The logical size; none at all without a current mode. -/
def extent (o : Output) : Size :=
  match o.currentMode with
  | none => ⟨0, 0⟩
  | some mode =>
    let turned := o.orientation.apply mode.size
    ⟨o.scale.logical32 turned.w, o.scale.logical32 turned.h⟩

/-- The room taken in the logical layout. -/
def extents (o : Output) : Rect := ⟨o.topLeft, o.extent⟩

/-- An unused output is always valid; a used one can be lit as it stands. -/
def isValid (o : Output) : Bool :=
  !o.used ||
    (o.connected && o.currentMode.isSome && o.formats.contains o.format && o.scale.isPos)

/-- Whether two outputs agree in every field, the scales compared as numbers. -/
def agrees (a b : Output) : Bool :=
  a.scale.sameNumber b.scale && decide ({ a with scale := b.scale } = b)

end Output

end Multihead
