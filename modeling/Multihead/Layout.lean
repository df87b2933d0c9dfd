import Multihead.Configuration

/-! # Layouts
The arrangement that a display starts with. Every layout lights the outputs that are connected and have a mode,
upright and at their preferred mode, and switches the others off; `single` lights only the first of them. -/

set_option autoImplicit false

namespace Multihead

inductive Layout where
  | sideBySide
  | clone
  | single
  deriving DecidableEq

namespace Output

/-- Connected, with a mode to run at. -/
def canLight (o : Output) : Bool := o.connected && !o.modes.isEmpty

/-- The number of the preferred mode, or of the first mode if there is no such mode. -/
def startMode (o : Output) : Nat := if o.preferred < o.modes.length then o.preferred else 0

def switchedOff (o : Output) : Output := { o with used := false, power := .off }

def litAt (o : Output) (p : Point) : Output :=
  { o with used := true, topLeft := p, current := some o.startMode, power := .on, orientation := .normal }

end Output

namespace Layout

/-- Lights outputs from left to right, each where the one before it ends. -/
def tile (x : Int32) : Configuration → Configuration
  | [] => []
  | o :: os =>
    if o.canLight then
      let lit := o.litAt ⟨x, 0⟩
      lit :: tile (x + lit.extent.w) os
    else o.switchedOff :: tile x os

/-- Lights every output at the origin. -/
def stack (conf : Configuration) : Configuration :=
  conf.map fun o => if o.canLight then o.litAt ⟨0, 0⟩ else o.switchedOff

/-- Lights the first output that can be lit, at the origin. -/
def solo : Configuration → Configuration
  | [] => []
  | o :: os =>
    if o.canLight then o.litAt ⟨0, 0⟩ :: os.map Output.switchedOff else o.switchedOff :: solo os

def arrange : Layout → Configuration → Configuration
  | sideBySide => tile 0
  | clone => stack
  | single => solo

/-- Moves the `n`-th output, from zero, to `n` steps from the origin and leaves all else alone. -/
def stagger (step : Point) (conf : Configuration) : Configuration :=
  conf.mapIdx fun n o => { o with topLeft := ⟨Int32.ofNat n * step.x, Int32.ofNat n * step.y⟩ }

end Layout

end Multihead
