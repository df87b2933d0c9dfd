import Multihead.Document.Quoted
import Multihead.Document.Space
import Multihead.Document.Word

/-! # Shapes
The wrapper of an optional value may hold a value, or the parts of a value without parentheses of their own. Which
of these it holds is found by looking ahead to the comma, or the closing mark, that ends the first part. On the way
quoted texts and single characters are jumped over. The character behind one that was jumped over is taken as it
stands, so that a comment may not follow it directly. -/

set_option autoImplicit false

namespace Multihead.Document

/-- What is held between two parentheses. -/
inductive Shape where
  | nothing
  /-- Parts with names. -/
  | named
  /-- More than one part, without names. -/
  | several
  | single
  deriving DecidableEq

namespace Shape

/-! ## Jumping over quoted texts -/

/-- The rest after a quoted text if there is one; nothing can be found behind one that does not end. -/
def behind (cs : List Char) : Except Fault (List Char) → Option (List Char)
  | .ok rest => some rest
  | .error .malformed => some cs
  | .error .unclosed => none

def behindCharacter : List Char → List Char
  | '\'' :: rest => (skipCharacter .character rest).getD ('\'' :: rest)
  | cs => cs

/-- The rest after a single character, a text and bytes, as far as they are there. -/
def behindQuotes (cs : List Char) : Option (List Char) := do
  let cs := behindCharacter cs
  let cs ← behind cs (textRest cs)
  behind cs (bytesRest cs)

/-! ## Looking ahead -/

def isOpening (c : Char) : Bool := c == '(' || c == '[' || c == '\x7b'

def isClosing (c : Char) : Bool := c == ')' || c == ']' || c == '\x7d'

/-- The shape behind the comma after a first part: a comma may stand before the closing mark. -/
def afterComma (cs : List Char) : Option Shape := do
  match ← space cs with
  | ')' :: _ => return single
  | _ => return several

/-- Looks for the end of the first part, inside this many further marks. -/
def endOfPart : (fuel depth : Nat) → List Char → Option Shape
  | 0, _, _ => none
  | fuel + 1, depth, cs => do
    match ← behindQuotes (← space cs) with
    | [] => none
    | c :: rest =>
      if isOpening c then endOfPart fuel (depth + 1) rest
      else if isClosing c then
        match depth with
        | 0 => return single
        | outer + 1 => endOfPart fuel outer rest
      else if c = ',' ∧ depth = 0 then afterComma rest
      else endOfPart fuel depth rest

/-- The shape of a text that begins with no name. -/
def ofPart (cs : List Char) : Option Shape := endOfPart cs.length 0 cs

/-- The shape of what begins here, after the opening parenthesis and space. -/
def ofText (cs : List Char) : Option Shape :=
  match cs with
  | ')' :: _ => some nothing
  | _ =>
    match name cs with
    | none => ofPart cs
    | some (_, rest) => do
      match ← space rest with
      | ':' :: _ => return named
      | ',' :: rest => afterComma rest
      | ')' :: _ => return single
      | rest => ofPart rest

end Shape

end Multihead.Document
