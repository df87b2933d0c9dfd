import Multihead.Configuration

/-! # Routing a configuration
A request for the outputs of many cards is cut into one slice for each member of a group. A member receives the
outputs of the cards that it has at the moment, card by card; a card that several members have goes to the first
of them, and outputs of a card that no member has go nowhere. -/

set_option autoImplicit false

namespace Multihead

/-- The part of a request for one member, named after the first card that the member has. -/
structure Slice where
  card : CardId
  outputs : Configuration
  deriving DecidableEq

namespace CardSlices

/-- Takes out the slices of several cards, one after the other. -/
def takeAll : List CardId → CardSlices → Configuration × CardSlices
  | [], left => ([], left)
  | c :: cs, left =>
    let first := left.take c
    let more := takeAll cs first.2
    (first.1 ++ more.1, more.2)

end CardSlices

namespace Slice

/-- A member that receives no output receives no slice. -/
def ofOutputs : List CardId → Configuration → Option Slice
  | c :: _, o :: os => some ⟨c, o :: os⟩
  | _, _ => none

/-- Hands the slices of the cards to the members that own them, in the order of the members. -/
def route : List (List CardId) → CardSlices → List (Option Slice)
  | [], _ => []
  | cards :: owners, left =>
    let mine := left.takeAll cards
    ofOutputs cards mine.1 :: route owners mine.2

end Slice

end Multihead
