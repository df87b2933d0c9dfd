import Multihead.Configuration

/-! # Errors of a display
What may go wrong when a display is configured. An error that passes upwards may be wrapped in what was being
done at the time; `chain` gives the texts from the outermost one to its first cause. -/

set_option autoImplicit false

namespace Multihead

inductive DisplayError where
  /-- A refused configuration could not be undone on this card. -/
  | incomplete (card : CardId)
  /-- The backend on this card failed for a reason given in its own words. -/
  | backend (card : CardId) (reason : String)
  | noBackends
  deriving DecidableEq

namespace DisplayError

def message : DisplayError → String
  | incomplete card =>
    "incomplete configuration applied: failed to restore previous configuration on " ++ card.text
  | backend card _ => "display backend on " ++ card.text ++ " failed to apply configuration"
  | noBackends => "a multiplexing display needs at least one display backend"

def causes : DisplayError → List String
  | backend _ reason => [reason]
  | incomplete _ | noBackends => []

/-- The card that the error is about. -/
def card : DisplayError → Option CardId
  | incomplete card | backend card _ => some card
  | noBackends => none

end DisplayError

/-- Why a display could not be configured, created or drawn to. -/
inductive ConfigureError where
  | display (e : DisplayError)
  /-- An adapter's refusal in its own words. -/
  | refusal (reason : String)
  /-- The error arose while the outputs of this card were configured. -/
  | outputsOf (card : CardId) (e : ConfigureError)
  /-- The error arose while the first layout was applied. -/
  | firstLayout (e : ConfigureError)
  deriving DecidableEq

namespace ConfigureError

/-- The texts from the outermost to the innermost; there is always one. -/
def chain : ConfigureError → List String
  | display e => e.message :: e.causes
  | refusal reason => [reason]
  | outputsOf card e => ("Failed to configure outputs of " ++ card.text) :: e.chain
  | firstLayout e => "Failed to apply initial display configuration" :: e.chain

/-- The error of the display at the root of the chain, if it has one. -/
def root : ConfigureError → Option DisplayError
  | display e => some e
  | refusal _ => none
  | outputsOf _ e | firstLayout e => e.root

def message (e : ConfigureError) : String := e.chain.headD ""

def causes (e : ConfigureError) : List String := e.chain.tail

end ConfigureError

end Multihead
