/-! # Space
Between the parts of a document there may be blanks and comments. A comment runs from two slashes to the end of
its line, or between slash-star and star-slash, where it may hold further comments of this kind. -/

set_option autoImplicit false

namespace Multihead.Document

/-- The blanks of a document are the pattern white space of Unicode, which is not its white space. -/
def isSpace (c : Char) : Bool :=
  c == ' ' || ('\t' ≤ c && c ≤ '\r') || c == '\u0085' || c == '\u200E' || c == '\u200F' || c == '\u2028' ||
    c == '\u2029'

/-- Where in blanks and comments one is; a block may lie inside further blocks. -/
inductive Gap where
  | between
  | line
  | block (outer : Nat)

/-- Leaves out blanks and comments. A slash that opens no comment is malformed, as is a block that stays open. -/
def skipGap : Gap → List Char → Option (List Char)
  | .between, [] => some []
  | .between, '/' :: '/' :: cs => skipGap .line cs
  | .between, '/' :: '*' :: cs => skipGap (.block 0) cs
  | .between, c :: cs => if isSpace c then skipGap .between cs else if c = '/' then none else some (c :: cs)
  | .line, [] => some []
  | .line, c :: cs => skipGap (if c = '\n' then .between else .line) cs
  | .block _, [] => none
  | .block outer, '/' :: '*' :: cs => skipGap (.block (outer + 1)) cs
  | .block 0, '*' :: '/' :: cs => skipGap .between cs
  | .block (outer + 1), '*' :: '/' :: cs => skipGap (.block outer) cs
  | .block outer, _ :: cs => skipGap (.block outer) cs

def space (cs : List Char) : Option (List Char) := skipGap .between cs

/-- Leaves out space and then this character. -/
def mark (c : Char) (cs : List Char) : Option (List Char) := do
  match ← space cs with
  | d :: rest => if d = c then some rest else none
  | [] => none

end Multihead.Document
