import Multihead.Document.Space
import Multihead.Document.Word

/-! # Headers
A document may begin with lines of the form `#![enable(a, b)]`, which enable features by name. -/

set_option autoImplicit false

namespace Multihead.Document

structure Features where
  /-- An optional value may stand without its wrapper. -/
  implicitSome : Bool
  /-- The wrapper of an optional value may hold the parts of its value. -/
  openWrappers : Bool
  /-- Structures must be named. -/
  explicitNames : Bool
  deriving DecidableEq

namespace Features

def none : Features := ⟨false, false, false⟩

/-- The features with one more enabled, if there is one of this name. -/
def enable (f : Features) (feature : String) : Option Features :=
  match feature with
  | "unwrap_newtypes" => some f
  | "implicit_some" => some { f with implicitSome := true }
  | "unwrap_variant_newtypes" => some { f with openWrappers := true }
  | "explicit_struct_names" => some { f with explicitNames := true }
  | _ => Option.none

end Features

/-- Leaves out several marks, each with the space after it. -/
def marks : List String → List Char → Option (List Char)
  | [], cs => some cs
  | m :: ms, cs => do marks ms (← space (← after m.toList cs))

/-- Reads the features of one line, up to the first that is not followed by a comma and a further name. -/
def features : (fuel : Nat) → Features → List Char → Option (Features × List Char)
  | 0, _, _ => none
  | fuel + 1, f, cs => do
    let (word, rest) ← identifier cs
    let f ← f.enable (String.ofList word)
    match ← space rest with
    | ',' :: rest =>
      match ← space rest with
      | c :: rest => if Text.isIdentifierStart c then features fuel f (c :: rest) else return (f, c :: rest)
      | [] => return (f, [])
    | rest => return (f, rest)

/-- Reads one line. -/
def enabling (f : Features) (cs : List Char) : Option (Features × List Char) := do
  let inner ← marks ["#", "!", "[", "enable", "("] cs
  let (f, rest) ← features inner.length f inner
  return (f, ← marks [")", "]"] rest)

/-- Reads lines as long as there are any. -/
def enablings : (fuel : Nat) → Features → List Char → Option (Features × List Char)
  | fuel + 1, f, '#' :: cs => do
    let (f, rest) ← enabling f ('#' :: cs)
    enablings fuel f rest
  | _, f, cs => some (f, cs)

/-- Reads the header of a document, with the space around it. -/
def header (cs : List Char) : Option (Features × List Char) := do
  enablings cs.length Features.none (← space cs)

end Multihead.Document
