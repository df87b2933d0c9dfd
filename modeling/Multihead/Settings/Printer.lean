import Multihead.Settings.Basic

/-! # Writing settings
Settings are written as one structure, `(name: value, ...)`. Any of the fields may be written, in any order; those
that are left out stand for their defaults. -/

set_option autoImplicit false

namespace Multihead

namespace Settings

/-- A field with its value. -/
inductive Field where
  | bypass (option : BypassOption)
  | initialLayout (layout : Layout)
  | compositeBudget (ms : UInt64)
  | bypassBudget (ms : UInt64)
  deriving DecidableEq

namespace Field

def name : Field → String
  | bypass _ => "bypass"
  | initialLayout _ => "initial_layout"
  | compositeBudget _ => "composite_render_budget_ms"
  | bypassBudget _ => "bypass_render_budget_ms"

/-- The value, a budget in decimal digits. -/
def value : Field → List Char
  | bypass option => option.name.toList
  | initialLayout layout => layout.name.toList
  | compositeBudget ms | bypassBudget ms => Nat.toDigits 10 ms.toNat

def written (f : Field) : List Char := f.name.toList ++ ':' :: ' ' :: f.value

/-- The settings with this field as given. -/
def put (s : Settings) : Field → Settings
  | bypass option => { s with bypass := option }
  | initialLayout layout => { s with initialLayout := layout }
  | compositeBudget ms => { s with compositeBudget := ms }
  | bypassBudget ms => { s with bypassBudget := ms }

end Field

/-- All fields of settings. -/
def fields (s : Settings) : List Field :=
  [.bypass s.bypass, .initialLayout s.initialLayout, .compositeBudget s.compositeBudget,
    .bypassBudget s.bypassBudget]

/-- The text of some fields. -/
def write (fields : List Field) : String :=
  String.ofList ('(' :: [',', ' '].intercalate (fields.map Field.written) ++ [')'])

/-- The settings that some fields stand for. -/
def ofFields (fields : List Field) : Settings := fields.foldl Field.put {}

end Settings

end Multihead
