import Multihead.Text.Identifier

/-! # Words
Names in a document. A name is an identifier, or a raw name: `r#` before characters that may also be dots and
signs. What begins like a quoted text is no name. -/

set_option autoImplicit false

namespace Multihead.Document

/-- What a raw name consists of. -/
def isRawPart (c : Char) : Bool := Text.isIdentifierPart c || c == '.' || c == '+' || c == '-'

/-- The rest after a given start. -/
def after (start : List Char) (cs : List Char) : Option (List Char) :=
  match start, cs with
  | [], cs => some cs
  | a :: as, c :: cs => if a = c then after as cs else none
  | _ :: _, [] => none

def startsWith (start cs : List Char) : Bool := (after start cs).isSome

/-- The rest after a given start that is not part of a longer identifier. -/
def keyword (word : String) (cs : List Char) : Option (List Char) := do
  let rest ← after word.toList cs
  match rest with
  | c :: _ => if Text.isIdentifierPart c then none else some rest
  | [] => some rest

/-- The rest after the first of several keywords that stands here. -/
def anyKeyword (words : List String) (cs : List Char) : Option (List Char) := words.findSome? (keyword · cs)

/-- The starts of quoted bytes and of raw texts. -/
def startsQuote (cs : List Char) : Bool :=
  ["b\"", "b'", "br#", "br\"", "r\"", "r#\"", "r##"].any fun s => startsWith s.toList cs

/-- Reads the longest raw name after its mark. -/
def rawName (cs : List Char) : Option (List Char × List Char) :=
  match cs.takeWhile isRawPart with
  | [] => none
  | name => some (name, cs.dropWhile isRawPart)

/-- Reads a name, wherever it ends. -/
def name (cs : List Char) : Option (List Char × List Char) :=
  if startsQuote cs then none
  else
    match cs with
    | 'r' :: '#' :: rest => rawName rest
    | c :: rest =>
      if Text.isIdentifierStart c then
        some (c :: rest.takeWhile Text.isIdentifierPart, rest.dropWhile Text.isIdentifierPart)
      else none
    | [] => none

/-- Reads a name that must not run on as only a raw name may. -/
def identifier (cs : List Char) : Option (List Char × List Char) := do
  let (word, rest) ← name cs
  match rest with
  | c :: _ => if isRawPart c then none else some (word, rest)
  | [] => some (word, rest)

end Multihead.Document
