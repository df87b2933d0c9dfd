import Multihead.Output

/-! # Configurations
A snapshot of the outputs of a display, in order. It splits into one slice per card: cards stand in the order
in which they first appear, and outputs keep their order within a card. -/

set_option autoImplicit false

namespace Multihead

abbrev Configuration := List Output

/-- The outputs of each card. -/
abbrev CardSlices := List (CardId × Configuration)

namespace CardSlices

/-- Adds an output to the slice of its card, which is opened at the end if it is new. -/
def insert (o : Output) : CardSlices → CardSlices
  | [] => [(o.card, [o])]
  | (c, os) :: rest => if c = o.card then (c, os ++ [o]) :: rest else (c, os) :: insert o rest

/-- Takes out the slice of a card; what stays keeps its order. -/
def take (c : CardId) : CardSlices → Configuration × CardSlices
  | [] => ([], [])
  | (d, os) :: rest =>
    if d = c then (os, rest)
    else
      let found := take c rest
      (found.1, (d, os) :: found.2)

end CardSlices

namespace Configuration

/-! ## Looking up and editing -/

/-- The first output with this number. -/
def find (conf : Configuration) (i : OutputId) : Option Output := conf.find? (·.id = i)

/-- Changes the first output with this number. -/
def edit (conf : Configuration) (i : OutputId) (f : Output → Output) : Configuration :=
  match conf with
  | [] => []
  | o :: os => if o.id = i then f o :: os else o :: edit os i f

def keepCards (conf : Configuration) (cs : List CardId) : Configuration :=
  conf.filter (cs.contains ·.card)

def dropIds (conf : Configuration) (is : List OutputId) : Configuration :=
  conf.filter (!is.contains ·.id)

def isValid (conf : Configuration) : Bool := conf.all Output.isValid

/-- Whether two snapshots hold agreeing outputs at the same places. -/
def agrees : Configuration → Configuration → Bool
  | [], [] => true
  | a :: as, b :: bs => a.agrees b && agrees as bs
  | _, _ => false

/-! ## Numbering -/

/-- Numbers the outputs upwards from `n`. -/
def numberFrom (n : UInt32) : Configuration → Configuration
  | [] => []
  | o :: os => { o with id := ⟨n⟩ } :: numberFrom (n + 1) os

/-- Numbers the outputs from one. -/
def numbered (conf : Configuration) : Configuration := conf.numberFrom 1

/-! ## Slices by card -/

def partition (conf : Configuration) : CardSlices := conf.foldl (fun slices o => slices.insert o) []

/-- The cards that occur, in the order of their first appearance. -/
def cards (conf : Configuration) : List CardId := conf.partition.map (·.1)

end Configuration

end Multihead
