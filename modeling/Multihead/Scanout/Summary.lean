import Multihead.Scanout.Surface

/-! # The text of a surface
A surface written out on one line, for reports: the connectors, the pipeline, the view, and the frames on their way
to the screen. -/

set_option autoImplicit false

namespace Multihead.Scanout

/-- Fields between braces. -/
def braced (fields : String) : String := " \x7b " ++ fields ++ " \x7d"

def Frame.text : Frame → String
  | composite buffer => "Composite(FrontBuffer(" ++ toString buffer.handle.toNat ++ "))"
  | bypass buffer => "Bypass(" ++ toString buffer.id.toNat ++ ")"

def frameText : Option Frame → String
  | none => "None"
  | some frame => "Some(" ++ frame.text ++ ")"

def boolText (b : Bool) : String := if b then "true" else "false"

def intText (i : Int32) : String := toString i.toInt

def transformText : Transform → String
  | .normal => "Normal"
  | .quarter => "_90"
  | .half => "_180"
  | .threeQuarter => "_270"
  | .flipped => "Flipped"
  | .flippedQuarter => "Flipped90"
  | .flippedHalf => "Flipped180"
  | .flippedThreeQuarter => "Flipped270"

def rectText (r : Rect) : String :=
  "Rectangle<smithay::utils::geometry::Logical>" ++
    braced ("x: " ++ intText r.origin.x ++ ", y: " ++ intText r.origin.y ++ ", width: " ++ intText r.size.w ++
      ", height: " ++ intText r.size.h)

/-- The text of a surface whose connectors have these numbers. -/
def Surface.text (s : Surface) (connectors : List UInt32) : String :=
  let fields : List (String × String) :=
    [("outputs", "[" ++ String.intercalate ", " (connectors.map fun n => toString n.toNat) ++ "]"),
      ("pipeline", s.pipeline.text), ("area", rectText s.area), ("transform", transformText s.transform),
      ("bypass_option", s.option.name), ("needs_set_crtc", boolText s.needsModeSet),
      ("page_flips_pending", boolText s.flipsPending), ("scheduled", frameText s.scheduled),
      ("visible", frameText s.visible)]
  "Surface" ++ braced (String.intercalate ", " (fields.map fun f => f.1 ++ ": " ++ f.2) ++ ", ..")

end Multihead.Scanout
