import Multihead.Layout

/-! # Settings
What a user may set, with the values that stand where nothing is set, and the words by which options and layouts
are known in texts. Budgets are whole milliseconds. -/

set_option autoImplicit false

namespace Multihead

/-- Whether client buffers may be scanned out directly. -/
inductive BypassOption where
  | allowed
  | prohibited
  deriving DecidableEq

/-! ## Names -/

/-- The word for an option in a text. -/
def BypassOption.name : BypassOption → String
  | allowed => "Allowed"
  | prohibited => "Prohibited"

/-- The word for a layout in a text. -/
def Layout.name : Layout → String
  | sideBySide => "SideBySide"
  | clone => "Clone"
  | single => "Single"

/-! ## Values -/

structure Settings where
  bypass : BypassOption := .allowed
  initialLayout : Layout := .sideBySide
  compositeBudget : UInt64 := 50
  bypassBudget : UInt64 := 5
  deriving DecidableEq

namespace Settings

/-- Settings of which not all need be there yet. -/
structure Draft where
  bypass : Option BypassOption
  initialLayout : Option Layout
  compositeBudget : Option UInt64
  bypassBudget : Option UInt64
  deriving DecidableEq

namespace Draft

def empty : Draft := ⟨none, none, none, none⟩

/-- What is not there has its default. -/
def settings (d : Draft) : Settings :=
  let base : Settings := {}
  ⟨d.bypass.getD base.bypass, d.initialLayout.getD base.initialLayout,
    d.compositeBudget.getD base.compositeBudget, d.bypassBudget.getD base.bypassBudget⟩

end Draft

end Settings

end Multihead
