import Multihead.Pacing.Duration
import Multihead.Settings.Basic
import Multihead.Text.Blank
import Multihead.Text.Identifier

/-! # The environment
Variables that take precedence over the settings in a file. Direct scan-out can only be switched off by them, never
on; a budget that cannot be read is ignored. -/

set_option autoImplicit false

namespace Multihead

/-- The values of the variables that are set. -/
abbrev Environment := String → Option String

namespace Environment

/-! ## Values -/

/-- The small letter for a capital one; only the ASCII letters matter to the words that are looked for. -/
def small (c : Char) : Char := if 'A' ≤ c ∧ c ≤ 'Z' then Char.ofNat (c.toNat + 32) else c

/-- The words for yes; any other word is a no. -/
def yesWords : List String := ["1", "true", "yes", "y"]

def isYes (value : String) : Bool :=
  yesWords.contains (String.ofList ((Text.trim value.toList).map small))

/-- The value of ASCII digits. -/
def decimal (cs : List Char) : Nat := cs.foldl (fun n c => 10 * n + (c.toNat - '0'.toNat)) 0

/-- One digit or more, that give a number of 64 bits. -/
def unsigned? (cs : List Char) : Option UInt64 :=
  if !cs.isEmpty && cs.all Text.isAsciiDigit && decimal cs < UInt64.size then some (UInt64.ofNat (decimal cs)) else none

/-- A whole number of milliseconds, perhaps with a plus sign, between blanks. -/
def millis? (value : String) : Option Duration :=
  let digits := match Text.trim value.toList with
    | '+' :: cs => cs
    | cs => cs
  (unsigned? digits).map Duration.ofMillis

end Environment

/-! ## Overrides -/

/-- What the environment says about the settings. -/
structure Overrides where
  disableDirectScanout : Option Bool
  compositeBudget : Option Duration
  bypassBudget : Option Duration
  deriving DecidableEq

namespace Overrides

def ofEnvironment (env : Environment) : Overrides where
  disableDirectScanout := (env "COSMIC_DISABLE_DIRECT_SCANOUT").map Environment.isYes
  compositeBudget := (env "COSMIC_COMPOSITE_RENDER_BUDGET_MS").bind Environment.millis?
  bypassBudget := (env "COSMIC_BYPASS_RENDER_BUDGET_MS").bind Environment.millis?

/-- The whole milliseconds of a budget, to 64 bits. -/
def budget (given : Option Duration) (otherwise : UInt64) : UInt64 :=
  match given with
  | none => otherwise
  | some d => UInt64.ofNat d.millis

def apply (o : Overrides) (s : Settings) : Settings :=
  { s with
    bypass := if o.disableDirectScanout = some true then .prohibited else s.bypass
    compositeBudget := budget o.compositeBudget s.compositeBudget
    bypassBudget := budget o.bypassBudget s.bypassBudget }

end Overrides

end Multihead
