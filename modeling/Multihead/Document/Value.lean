import Multihead.Document.Header
import Multihead.Document.Shape

/-! # Values
The values of a document: numbers, texts, names, lists, maps, and structures with or without a name. Where a value
is not wanted it is left out, but it has to be well formed. Values may lie inside each other to a limited depth,
which counts two levels for a part of a value and one for what an optional value wraps; if the wrapper holds the
parts of its value, these count for both. -/

set_option autoImplicit false

namespace Multihead.Document

/-- The number of levels that a document may have. -/
def depthLimit : Nat := 128

/-! ## Entries -/

/-- Reads entries with commas between them up to a closing mark; a comma may stand before the mark. -/
def foldEntries {β : Type} (entry : β → List Char → Option (β × List Char)) (close : Char) :
    (fuel : Nat) → β → List Char → Option (β × List Char)
  | 0, _, _ => none
  | fuel + 1, b, cs => do
    match ← space cs with
    | [] => none
    | c :: rest =>
      if c = close then some (b, rest)
      else
        let (b, rest) ← entry b (c :: rest)
        match ← space rest with
        | [] => none
        | d :: rest =>
          if d = ',' then foldEntries entry close fuel b rest
          else if d = close then some (b, rest)
          else none

/-- What leaves out something at the start of a text. -/
abbrev Skip := List Char → Option (List Char)

def skipEntries (entry : Skip) (close : Char) (cs : List Char) : Option (List Char) :=
  (foldEntries (fun (_ : Unit) cs => (entry cs).map ((), ·)) close cs.length () cs).map (·.2)

/-- Leaves out a key, a colon and a value. -/
def skipPair (key value : Skip) (cs : List Char) : Option (List Char) := do
  value (← space (← mark ':' (← key cs)))

def skipIdentifier (cs : List Char) : Option (List Char) := (identifier cs).map (·.2)

/-! ## Values -/

/-- How the insides of a value are left out. -/
structure Inside where
  /-- What an optional value wraps. -/
  payload : Skip
  /-- A part of a list, a map or a structure. -/
  part : Skip
  /-- A part of what an optional value wraps. -/
  wrappedPart : Skip

/-- Leaves out parts with names, and the closing parenthesis. -/
def skipNamedParts (part : Skip) (cs : List Char) : Option (List Char) :=
  skipEntries (skipPair skipIdentifier part) ')' cs

/-- Whether what stands between parentheses begins with the name of a field. -/
def hasFieldNames (cs : List Char) : Option Bool :=
  match name cs with
  | none => some false
  | some (_, rest) => do
    match ← space rest with
    | ':' :: _ => return true
    | _ => return false

/-- Leaves out the parts of a structure, after the opening parenthesis. -/
def skipParts (part : Skip) (cs : List Char) : Option (List Char) := do
  if ← hasFieldNames (← space cs) then skipNamedParts part cs else skipEntries part ')' cs

/-- Leaves out the parts of a structure, if there are any. -/
def skipStructure (inside : Option Inside) (cs : List Char) : Option (List Char) :=
  match cs with
  | '(' :: rest => do skipParts (← inside).part rest
  | _ => some cs

/-- Leaves out what ends the wrapper of an optional value. -/
def closeWrapper (cs : List Char) : Option (List Char) := do
  match ← space cs with
  | ',' :: rest => mark ')' rest
  | ')' :: rest => some rest
  | _ => none

/-- Leaves out what a wrapper holds, after the opening parenthesis and space, and the end of the wrapper. -/
def skipWrapped (f : Features) (inside : Inside) (cs : List Char) : Option (List Char) := do
  match ← if f.openWrappers then Shape.ofText cs else some Shape.single with
  | .nothing => closeWrapper cs
  | .named => skipNamedParts inside.wrappedPart cs
  | .several => skipEntries inside.wrappedPart ')' cs
  | .single => closeWrapper (← inside.payload cs)

/-- Leaves out an optional value after the name of its wrapper. -/
def skipOptional (f : Features) (inside : Option Inside) (cs : List Char) : Option (List Char) := do
  let inside ← inside
  match ← space cs with
  | '(' :: rest => skipWrapped f inside (← space rest)
  | rest => if f.implicitSome then inside.payload rest else none

/-- Leaves out a value that begins with a mark, a quote or a digit. -/
def skipMarked (inside : Option Inside) (cs : List Char) : Option (List Char) :=
  match cs with
  | '(' :: _ => skipStructure inside cs
  | '[' :: rest => do skipEntries (← inside).part ']' rest
  | '\x7b' :: rest => do
    let part := (← inside).part
    skipEntries (skipPair part part) '\x7d' rest
  | '\'' :: rest => skipCharacter .character rest
  | 'b' :: '\'' :: rest => skipCharacter .byte rest
  | '"' :: _ | 'r' :: _ => (textRest cs).toOption
  | 'b' :: _ => (bytesRest cs).toOption
  | c :: _ => if Text.isAsciiDigit c || c == '+' || c == '-' || c == '.' then skipNumber cs else none
  | [] => none

/-- The names that are values by themselves. -/
def constants : List String :=
  ["true", "false", "None", "inf", "inff32", "inff64", "NaN", "NaNf32", "NaNf64"]

/-- Leaves out a value whose insides are left out as given; without insides a value must have none. -/
def skipWith (f : Features) (inside : Option Inside) (cs : List Char) : Option (List Char) :=
  match anyKeyword constants cs, keyword "Some" cs, after ['(', ')'] cs, name cs with
  | some rest, _, _, _ => some rest
  | _, some rest, _, _ => skipOptional f inside rest
  | _, _, some rest, _ => some rest
  | _, _, _, some (_, rest) => do skipStructure inside (← space rest)
  | _, _, _, none => skipMarked inside cs

/-- There are no more levels for a value. -/
def tooDeep : Skip := fun _ => none

/-- Leaves out a value in a place with this many levels left. -/
def skipValue (f : Features) : Nat → Skip
  | 0 => skipWith f none
  | 1 => skipWith f (some ⟨skipValue f 0, tooDeep, tooDeep⟩)
  | 2 => skipWith f (some ⟨skipValue f 1, skipValue f 0, tooDeep⟩)
  | n + 3 => skipWith f (some ⟨skipValue f (n + 2), skipValue f (n + 1), skipValue f n⟩)

end Multihead.Document
