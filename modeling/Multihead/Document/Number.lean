import Multihead.Document.Word

/-! # Numbers
Whole numbers in base two, eight, ten or sixteen, with underscores anywhere but first, and decimal fractions. A
number may end in a suffix that names its type; it then has to fit the type. -/

set_option autoImplicit false

namespace Multihead.Document

/-! ## Digits -/

def hexValue (c : Char) : Option Nat :=
  if '0' ≤ c ∧ c ≤ '9' then some (c.toNat - '0'.toNat)
  else if 'a' ≤ c ∧ c ≤ 'f' then some (c.toNat - 'a'.toNat + 10)
  else if 'A' ≤ c ∧ c ≤ 'F' then some (c.toNat - 'A'.toNat + 10)
  else none

def isHexDigit (c : Char) : Bool := (hexValue c).isSome

/-- What a whole number consists of, after its sign and its base. -/
def isWholePart (c : Char) : Bool := isHexDigit c || c == '_'

/-- What a fraction consists of. -/
def isFractionPart (c : Char) : Bool :=
  Text.isAsciiDigit c || c == 'e' || c == 'E' || c == '.' || c == '+' || c == '-' || c == '_'

/-- The value of digits after `value`; underscores do not count. -/
def digits (base value : Nat) : List Char → Option Nat
  | [] => some value
  | c :: cs =>
    if c = '_' then digits base value cs
    else do
      let d ← hexValue c
      if d < base then digits base (value * base + d) cs else none

/-! ## Whole numbers -/

/-- Whether there is a minus sign, and what follows the sign. -/
def sign : List Char → Bool × List Char
  | '-' :: cs => (true, cs)
  | '+' :: cs => (false, cs)
  | cs => (false, cs)

/-- The base that is announced, and what follows. -/
def radix : List Char → Nat × List Char
  | '0' :: 'b' :: cs => (2, cs)
  | '0' :: 'o' :: cs => (8, cs)
  | '0' :: 'x' :: cs => (16, cs)
  | cs => (10, cs)

/-- The type that a suffix names. -/
structure Width where
  signed : Bool
  bits : Nat
  deriving DecidableEq

def widths : List (String × Width) :=
  [("i8", ⟨true, 8⟩), ("i16", ⟨true, 16⟩), ("i32", ⟨true, 32⟩), ("i64", ⟨true, 64⟩),
    ("u8", ⟨false, 8⟩), ("u16", ⟨false, 16⟩), ("u32", ⟨false, 32⟩), ("u64", ⟨false, 64⟩)]

/-- A whole number as it is written. -/
structure Whole where
  negative : Bool
  magnitude : Nat
  width : Option Width
  deriving DecidableEq

namespace Whole

def fits (n : Whole) (w : Width) : Bool :=
  match w.signed, n.negative with
  | true, true => n.magnitude ≤ 1 <<< (w.bits - 1)
  | true, false => n.magnitude < 1 <<< (w.bits - 1)
  | false, true => n.magnitude == 0
  | false, false => n.magnitude < 1 <<< w.bits

/-- A number without a suffix has to fit 64 bits. -/
def inRange (n : Whole) : Bool := n.fits (n.width.getD ⟨n.negative, 64⟩)

/-- The value as an unsigned number of 64 bits, if it is one and says nothing else. -/
def toUInt64? (n : Whole) : Option UInt64 :=
  if n.width.getD ⟨false, 64⟩ = ⟨false, 64⟩ ∧ n.fits ⟨false, 64⟩ then some (UInt64.ofNat n.magnitude) else none

end Whole

/-- Reads the suffix of a number. -/
def width (cs : List Char) : Option (Width × List Char) :=
  widths.findSome? fun w => (keyword w.1 cs).map (w.2, ·)

/-- Reads the digits of a number in its base. -/
def magnitude (cs : List Char) : Option (Nat × List Char) :=
  let (base, cs) := radix cs
  match cs.takeWhile isWholePart with
  | [] => none
  | '_' :: _ => none
  | run => do return (← digits base 0 run, cs.dropWhile isWholePart)

/-- Reads a whole number. Suffixes belong to the bases two and ten only. -/
def whole (cs : List Char) : Option (Whole × List Char) := do
  let (negative, cs) := sign cs
  let (n, rest) ← magnitude cs
  let base := (radix cs).1
  match if base = 2 ∨ base = 10 then width rest else none with
  | some (w, rest) => return (⟨negative, n, some w⟩, rest)
  | none => return (⟨negative, n, none⟩, rest)

/-! ## Fractions -/

/-- Removes underscores; they may not come first, nor after a point before the next digit. -/
def dropUnderscores (allowed : Bool) : List Char → Option (List Char)
  | [] => some []
  | c :: cs =>
    if c = '_' then if allowed then dropUnderscores allowed cs else none
    else
      let allowed :=
        if c = '.' then false else allowed || Text.isAsciiDigit c || c == 'e' || c == 'E'
      (dropUnderscores allowed cs).map (c :: ·)

/-- One digit or more, and nothing else. -/
def allDigits (cs : List Char) : Bool := !cs.isEmpty && cs.all Text.isAsciiDigit

def isExponent : List Char → Bool
  | [] => true
  | c :: cs => (c == 'e' || c == 'E') && allDigits (sign cs).2

/-- Digits, at most one point among them, and an exponent if there is one. -/
def isDecimal (cs : List Char) : Bool :=
  let cs := (sign cs).2
  let left := cs.takeWhile Text.isAsciiDigit
  match cs.dropWhile Text.isAsciiDigit with
  | '.' :: rest =>
    let right := rest.takeWhile Text.isAsciiDigit
    !(left.isEmpty && right.isEmpty) && isExponent (rest.dropWhile Text.isAsciiDigit)
  | rest => !left.isEmpty && isExponent rest

/-- The numbers that have no digits, with each suffix. -/
def infinities : List String :=
  ["inf", "+inf", "-inf", "NaN", "+NaN", "-NaN"].flatMap fun s => [s, s ++ "f32", s ++ "f64"]

/-- Leaves out a fraction. -/
def skipFraction (cs : List Char) : Option (List Char) :=
  match anyKeyword infinities cs with
  | some rest => some rest
  | none => do
    let plain ← dropUnderscores false (cs.takeWhile isFractionPart)
    if isDecimal plain then
      let rest := cs.dropWhile isFractionPart
      return (anyKeyword ["f32", "f64"] rest).getD rest
    else none

/-- Whether a number goes on longer as a fraction than as a whole number. -/
def looksFractional (cs : List Char) : Bool :=
  let cs := match cs with
    | '+' :: cs | '-' :: cs => cs
    | cs => cs
  (cs.takeWhile isWholePart).length < (cs.takeWhile isFractionPart).length

/-- Leaves out a number. A whole number that is out of range is read as a fraction. -/
def skipNumber (cs : List Char) : Option (List Char) :=
  if looksFractional cs then skipFraction cs
  else
    match whole cs with
    | some (n, rest) => if n.inRange then some rest else skipFraction cs
    | none => skipFraction cs

end Multihead.Document
