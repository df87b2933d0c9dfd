import Multihead.Document.Number

/-! # Quoted texts
Texts, bytes and single characters between quotes, with escapes, and raw texts between a quote and hash signs,
without. Bytes that are written as escapes in a text have to form characters; in a single character they have to be
ASCII. -/

set_option autoImplicit false

namespace Multihead.Document

/-- Where an escape stands: in a text, in a single character, in bytes, or as a single byte. -/
inductive Quoting where
  | text
  | character
  | bytes
  | byte
  deriving DecidableEq

/-- What is wrong with a quoted text. -/
inductive Fault where
  /-- There is no quote that could end it. -/
  | unclosed
  | malformed
  deriving DecidableEq

/-! ## Escapes -/

/-- Reads two hexadecimal digits. -/
def hexByte : List Char → Option (UInt8 × List Char)
  | a :: b :: cs => do
    let high ← hexValue a
    let low ← hexValue b
    return (UInt8.ofNat (16 * high + low), cs)
  | _ => none

/-- Goes on with escaped bytes until they form one character; at most `n` more are read. -/
def completeCharacter (bytes : List UInt8) : Nat → List Char → Option (List Char)
  | 0, _ => none
  | n + 1, '\\' :: 'x' :: cs => do
    let (b, rest) ← hexByte cs
    let bytes := bytes ++ [b]
    if (String.fromUTF8? ⟨bytes.toArray⟩).isSome then return rest else completeCharacter bytes n rest
  | _, _ => none

/-- Leaves out the bytes of a character from the first one on. -/
def skipBytes (q : Quoting) (first : UInt8) (cs : List Char) : Option (List Char) :=
  if first < 0x80 then some cs
  else
    match q with
    | .text => completeCharacter [first] 3 cs
    | .character => none
    | .bytes | .byte => some cs

/-- Leaves out a code point of one to six digits between braces. -/
def codePoint (cs : List Char) : Option (List Char) := do
  let rest ← after ['\x7b'] cs
  let run := (rest.take 6).takeWhile (· != '\x7d')
  let n ← digits 16 0 run
  if run.isEmpty || !run.all isHexDigit then none
  else if n < 0xD800 ∨ (0xDFFF < n ∧ n < 0x110000) then after ['\x7d'] (rest.drop run.length)
  else none

/-- Leaves out what stands after a backslash. -/
def skipEscape (q : Quoting) : List Char → Option (List Char)
  | c :: cs =>
    if "'\"\\nrt0".toList.contains c then some cs
    else if c = 'x' then do
      let (b, rest) ← hexByte cs
      skipBytes q b rest
    else if c = 'u' ∧ q ≠ .byte then codePoint cs
    else none
  | [] => none

/-! ## Texts -/

/-- The rest after a text, up to the quote that ends it; `fuel` bounds the number of steps. -/
def closeQuote (q : Quoting) : (fuel : Nat) → List Char → Except Fault (List Char)
  | 0, _ => .error .unclosed
  | _ + 1, [] => .error .unclosed
  | fuel + 1, c :: cs =>
    if c = '"' then .ok cs
    else if c = '\\' then
      if cs.contains '"' then
        match skipEscape q cs with
        | some rest => closeQuote q fuel rest
        | none => .error .malformed
      else .error .unclosed
    else closeQuote q fuel cs

/-- The rest after a text whose opening quote was read. -/
def quotedRest (q : Quoting) (cs : List Char) : Except Fault (List Char) := closeQuote q cs.length cs

/-- The rest after a raw text, up to a quote with this many hash signs. -/
def closeRaw (hashes : Nat) : List Char → Except Fault (List Char)
  | [] => .error .unclosed
  | c :: cs =>
    if c = '"' ∧ cs.take hashes = List.replicate hashes '#' then .ok (cs.drop hashes) else closeRaw hashes cs

/-- The rest after a raw text that is read from its hash signs on. -/
def rawRest (cs : List Char) : Except Fault (List Char) :=
  match cs.dropWhile (· == '#') with
  | '"' :: rest => closeRaw (cs.takeWhile (· == '#')).length rest
  | _ => .error .malformed

/-- The rest after a text, raw or not, that begins here. -/
def textRest : List Char → Except Fault (List Char)
  | '"' :: rest => quotedRest .text rest
  | 'r' :: rest => rawRest rest
  | _ => .error .malformed

/-- The rest after bytes, raw or not, that begin here. -/
def bytesRest : List Char → Except Fault (List Char)
  | 'b' :: '"' :: rest => quotedRest .bytes rest
  | 'b' :: 'r' :: rest => rawRest rest
  | _ => .error .malformed

/-! ## Single characters -/

/-- Leaves out a character, or a byte, whose opening quote was read. -/
def skipCharacter (q : Quoting) : List Char → Option (List Char)
  | [] => none
  | c :: cs => do
    let rest ← if c = '\\' then skipEscape q cs else if q = .byte ∧ 0x80 ≤ c.toNat then none else some cs
    after ['\''] rest

end Multihead.Document
