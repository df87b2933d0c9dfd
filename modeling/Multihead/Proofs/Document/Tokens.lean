import Mathlib.Data.List.Basic
import Multihead.Document.Number
import Multihead.Document.Space

/-! # Tokens
What the readers of marks, names and numbers find at the start of a text of which the first characters are known. -/

set_option autoImplicit false

namespace Multihead.Document

/-! ## Marks -/

section Marks
variable {c : Char} {cs rest : List Char}

theorem space_blank (cs : List Char) : space (' ' :: cs) = space cs := rfl

theorem space_of_solid (no_blank : isSpace c = false) (no_slash : c ≠ '/') : space (c :: cs) = some (c :: cs) := by
  rw [space, skipGap]
  · rw [if_neg (Bool.eq_false_iff.1 no_blank), if_neg no_slash]
  · exact fun _ h _ => no_slash h
  · exact fun _ h _ => no_slash h

theorem mark_eq_some_iff : mark c cs = some rest ↔ space cs = some (c :: rest) := by
  unfold mark
  cases h : space cs with
  | none => simp
  | some left =>
    cases left with
    | nil => simp
    | cons d left => simp

theorem mark_cons (no_blank : isSpace c = false) (no_slash : c ≠ '/') : mark c (c :: cs) = some cs :=
  mark_eq_some_iff.2 (space_of_solid no_blank no_slash)

end Marks

/-! ## Names -/

section Names
variable {word cs rest : List Char}

/-- No name goes on here. -/
def Ends : List Char → Prop
  | [] => True
  | c :: _ => isRawPart c = false

theorem name_eq_some (h : name cs = some (word, rest)) : cs = word ++ rest ∨ cs = 'r' :: '#' :: (word ++ rest) := by
  unfold name at h
  split at h
  · cases h
  · split at h
    · next inner =>
      unfold rawName at h
      split at h
      · cases h
      · obtain ⟨rfl, rfl⟩ := Prod.mk.inj (Option.some.inj h)
        exact Or.inr (by rw [List.takeWhile_append_dropWhile])
    · next c inner _ =>
      split at h
      · obtain ⟨rfl, rfl⟩ := Prod.mk.inj (Option.some.inj h)
        exact Or.inl (by rw [List.cons_append, List.takeWhile_append_dropWhile])
      · cases h
    · cases h

theorem identifier_eq_some_iff : identifier cs = some (word, rest) ↔ name cs = some (word, rest) ∧ Ends rest := by
  unfold identifier
  cases h : name cs with
  | none => simp
  | some found =>
    obtain ⟨w, left⟩ := found
    cases left with
    | nil =>
      simp only [Option.bind_eq_bind, Option.bind_some, Option.some.injEq, Prod.mk.injEq]
      exact ⟨fun ⟨h, k⟩ => ⟨⟨h, k⟩, k ▸ trivial⟩, And.left⟩
    | cons c left =>
      simp only [Option.bind_eq_bind, Option.bind_some, Option.ite_none_left_eq_some, Option.some.injEq,
        Prod.mk.injEq, Bool.not_eq_true]
      exact ⟨fun ⟨e, h, k⟩ => ⟨⟨h, k⟩, k ▸ e⟩, fun ⟨⟨h, k⟩, e⟩ => ⟨by rw [← k] at e; exact e, h, k⟩⟩

theorem not_isSpace_of_isIdentifierPart {c : Char} (h : Text.isIdentifierPart c = true) : isSpace c = false := by
  rw [← Bool.not_eq_true]
  intro blank
  simp only [isSpace, Bool.or_eq_true, Bool.and_eq_true, beq_iff_eq, decide_eq_true_eq] at blank
  obtain (((((rfl | ⟨-, low⟩) | rfl) | rfl) | rfl) | rfl) | rfl := blank
  · exact absurd h (by decide)
  · -- every part of a name that is an ASCII character comes after the digit zero
    have low : c.toNat ≤ 13 := low
    have high {bottom : Char} (above : bottom ≤ c) : bottom.toNat ≤ 13 := Nat.le_trans above low
    rw [Text.isIdentifierPart, if_pos (Nat.lt_of_le_of_lt low (by decide))] at h
    simp only [Text.isAsciiLetter, Text.isAsciiDigit, Bool.or_eq_true, Bool.and_eq_true, decide_eq_true_eq,
      beq_iff_eq] at h
    obtain ((⟨above, -⟩ | ⟨above, -⟩) | ⟨above, -⟩) | rfl := h
    · exact absurd (high above) (by decide)
    · exact absurd (high above) (by decide)
    · exact absurd (high above) (by decide)
    · exact absurd low (by decide)
  · exact absurd h (by decide)
  · exact absurd h (by decide +kernel)
  · exact absurd h (by decide +kernel)
  · exact absurd h (by decide +kernel)
  · exact absurd h (by decide +kernel)

theorem space_of_isIdentifierPart {c : Char} (h : Text.isIdentifierPart c = true) (cs : List Char) :
    space (c :: cs) = some (c :: cs) := by
  refine space_of_solid (not_isSpace_of_isIdentifierPart h) ?_
  rintro rfl
  exact absurd h (by decide)

theorem space_of_isIdentifier (h : Text.isIdentifier word = true) (rest : List Char) :
    space (word ++ rest) = some (word ++ rest) := by
  match word, h with
  | a :: w, h =>
    simp only [Text.isIdentifier, Bool.and_eq_true] at h
    exact space_of_isIdentifierPart (Text.isIdentifierPart_of_start a h.1) _

/-- A character that does not make a quoted text of a letter before it. -/
def Plain (c : Char) : Prop := c ≠ '"' ∧ c ≠ '\'' ∧ c ≠ '#'

theorem plain_of_isIdentifierPart {c : Char} (h : Text.isIdentifierPart c = true) : Plain c := by
  refine ⟨?_, ?_, ?_⟩
  · rintro rfl
    exact absurd h (by decide)
  · rintro rfl
    exact absurd h (by decide)
  · rintro rfl
    exact absurd h (by decide)

theorem startsQuote_eq_false {a b : Char} (hb : Plain b) (hc : b = 'r' → ∀ c ∈ cs.head?, Plain c) :
    startsQuote (a :: b :: cs) = false := by
  obtain ⟨b_quote, b_single, b_hash⟩ := hb
  by_cases raw : b = 'r'
  · subst raw
    cases cs with
    | nil => simp [startsQuote, startsWith, after]
    | cons c cs =>
      obtain ⟨c_quote, -, c_hash⟩ := hc rfl c rfl
      simp [startsQuote, startsWith, after, c_quote.symm, c_hash.symm]
  · simp [startsQuote, startsWith, after, b_quote.symm, b_single.symm, b_hash.symm, Ne.symm raw]

theorem not_isIdentifierPart_of_ends (ends : Ends rest) : ∀ c ∈ rest.head?, ¬Text.isIdentifierPart c = true := by
  cases rest with
  | nil => simp
  | cons c rest =>
    simp only [Ends, isRawPart, Bool.or_eq_false_iff] at ends
    simp [ends]

/-- The longest stretch of a kind ends where the first character of another kind is. -/
theorem span_append {p : Char → Bool} (all : ∀ c ∈ word, p c = true) (stop : ∀ c ∈ rest.head?, ¬p c = true) :
    (word ++ rest).takeWhile p = word ∧ (word ++ rest).dropWhile p = rest := by
  rw [List.takeWhile_append_of_pos all, List.dropWhile_append_of_pos all]
  cases rest with
  | nil => simp
  | cons c rest =>
    rw [List.takeWhile_cons_of_neg (stop c rfl), List.dropWhile_cons_of_neg (stop c rfl), List.append_nil]
    exact ⟨rfl, rfl⟩

/-- The marks that may stand behind a name. -/
def nameEnds : List Char := [':', ',', ')']

theorem ends_of_mem {c : Char} (hc : c ∈ nameEnds) (cs : List Char) : Ends (c :: cs) := by
  simp only [nameEnds, List.mem_cons, List.not_mem_nil, or_false] at hc
  rcases hc with rfl | rfl | rfl <;> rfl

theorem plain_of_mem {c : Char} (hc : c ∈ nameEnds) : Plain c ∧ c ≠ 'r' := by
  simp only [nameEnds, List.mem_cons, List.not_mem_nil, or_false] at hc
  rcases hc with rfl | rfl | rfl <;> simp [Plain]

theorem plain_head {c : Char} (parts : ∀ d ∈ word, Text.isIdentifierPart d = true) (hc : c ∈ nameEnds)
    (cs : List Char) : ∀ d ∈ (word ++ c :: cs).head?, Plain d := by
  intro d hd
  cases word with
  | nil =>
    obtain rfl := Option.some.inj hd
    exact (plain_of_mem hc).1
  | cons e word =>
    obtain rfl := Option.some.inj hd
    exact plain_of_isIdentifierPart (parts e (by simp))

theorem name_append {c : Char} (h : Text.isIdentifier word = true) (hc : c ∈ nameEnds) (cs : List Char) :
    name (word ++ c :: cs) = some (word, c :: cs) := by
  match word, h with
  | a :: w, h =>
    simp only [Text.isIdentifier, Bool.and_eq_true, List.all_eq_true] at h
    obtain ⟨start, parts⟩ := h
    have no_quote : startsQuote (a :: w ++ c :: cs) = false := by
      cases w with
      | nil => exact startsQuote_eq_false (plain_of_mem hc).1 fun raw => absurd raw (plain_of_mem hc).2
      | cons b w =>
        have rest : ∀ d ∈ w, Text.isIdentifierPart d = true := fun d hd => parts d (by simp [hd])
        exact startsQuote_eq_false (plain_of_isIdentifierPart (parts b (by simp))) fun _ => plain_head rest hc cs
    unfold name
    rw [no_quote, if_neg Bool.false_ne_true]
    split
    · next left same =>
      have tail : w ++ c :: cs = '#' :: left := (List.cons.inj same).2
      exact absurd rfl (plain_head parts hc cs '#' (by rw [tail]; rfl)).2.2
    · next same =>
      obtain ⟨rfl, rfl⟩ := List.cons.inj same
      have ⟨taken, left⟩ := span_append parts (not_isIdentifierPart_of_ends (ends_of_mem hc cs))
      rw [if_pos start]
      exact congrArg some (Prod.ext (congrArg (a :: ·) taken) left)
    · next same => cases same

theorem identifier_append {c : Char} (h : Text.isIdentifier word = true) (hc : c ∈ nameEnds) (cs : List Char) :
    identifier (word ++ c :: cs) = some (word, c :: cs) :=
  identifier_eq_some_iff.2 ⟨name_append h hc cs, ends_of_mem hc cs⟩

end Names

/-! ## Numbers -/

section Numbers
variable {ds cs rest : List Char}

theorem hexValue_of_isAsciiDigit {c : Char} (h : Text.isAsciiDigit c = true) : hexValue c = some (c.toNat - '0'.toNat) := by
  simp only [Text.isAsciiDigit, Bool.and_eq_true, decide_eq_true_eq] at h
  exact if_pos h

theorem digit_lt_ten {c : Char} (h : Text.isAsciiDigit c = true) : c.toNat - '0'.toNat < 10 := by
  simp only [Text.isAsciiDigit, Bool.and_eq_true, decide_eq_true_eq] at h
  have : c.toNat ≤ '9'.toNat := h.2
  have nine : '9'.toNat = 57 := rfl
  have zero : '0'.toNat = 48 := rfl
  omega

theorem isWholePart_of_isAsciiDigit {c : Char} (h : Text.isAsciiDigit c = true) : isWholePart c = true := by
  rw [isWholePart, isHexDigit, hexValue_of_isAsciiDigit h]
  rfl

theorem ne_underscore {c : Char} (h : Text.isAsciiDigit c = true) : c ≠ '_' := by
  rintro rfl
  exact absurd h (by decide)

theorem digits_append (all : ∀ c ∈ ds, Text.isAsciiDigit c = true) (value : Nat) (cs : List Char) :
    digits 10 value (ds ++ cs) = digits 10 (Nat.ofDigitChars 10 ds value) cs := by
  induction ds generalizing value with
  | nil => rfl
  | cons d ds ih =>
    have hd := all d (by simp)
    rw [List.cons_append, digits, if_neg (ne_underscore hd), hexValue_of_isAsciiDigit hd, Option.bind_eq_bind,
      Option.bind_some, if_pos (digit_lt_ten hd), ih (fun c hc => all c (by simp [hc])), Nat.ofDigitChars_cons,
      Nat.mul_comm]

theorem sign_of_digits (all : ∀ c ∈ ds, Text.isAsciiDigit c = true) (nonempty : ds ≠ []) :
    sign (ds ++ rest) = (false, ds ++ rest) := by
  obtain ⟨d, ds, rfl⟩ := List.exists_cons_of_ne_nil nonempty
  have hd := all d (by simp)
  have no_minus : d ≠ '-' := by rintro rfl; exact absurd hd (by decide)
  have no_plus : d ≠ '+' := by rintro rfl; exact absurd hd (by decide)
  rw [List.cons_append, sign]
  · exact fun _ same => no_minus (List.cons.inj same).1
  · exact fun _ same => no_plus (List.cons.inj same).1

theorem letter_of_announces {c : Char} (announces : c ∈ ['b', 'o', 'x']) :
    Text.isAsciiDigit c = false ∧ Text.isIdentifierPart c = true := by
  simp only [List.mem_cons, List.not_mem_nil, or_false] at announces
  obtain rfl | rfl | rfl := announces <;> decide

/-- No other base is announced by a first digit and what follows here. -/
theorem radix_eq_ten {d : Char} (second : ∀ c ∈ cs.head?, c ∉ ['b', 'o', 'x']) : radix (d :: cs) = (10, d :: cs) := by
  unfold radix
  split
  · next same => exact absurd (second 'b' (by rw [(List.cons.inj same).2]; rfl)) (by decide)
  · next same => exact absurd (second 'o' (by rw [(List.cons.inj same).2]; rfl)) (by decide)
  · next same => exact absurd (second 'x' (by rw [(List.cons.inj same).2]; rfl)) (by decide)
  · rfl

theorem isIdentifierPart_of_isWholePart {c : Char} (h : isWholePart c = true) : Text.isIdentifierPart c = true := by
  have ascii {top : Char} (below : c ≤ top) (ascii : top.toNat < 0x80) : c.toNat < 0x80 :=
    Nat.lt_of_le_of_lt below ascii
  simp only [isWholePart, isHexDigit, hexValue, Bool.or_eq_true, beq_iff_eq] at h
  unfold Text.isIdentifierPart Text.isAsciiLetter Text.isAsciiDigit
  obtain h | rfl := h
  · split at h
    · next digit => simp [if_pos (ascii digit.2 (by decide)), digit]
    · split at h
      · next small =>
        have : c ≤ 'z' := Char.le_trans small.2 (by decide)
        simp [if_pos (ascii small.2 (by decide)), small, this]
      · split at h
        · next capital =>
          have : c ≤ 'Z' := Char.le_trans capital.2 (by decide)
          simp [if_pos (ascii capital.2 (by decide)), capital, this]
        · cases h
  · decide

theorem not_isWholePart_of_ends (ends : Ends rest) : ∀ c ∈ rest.head?, ¬isWholePart c = true :=
  fun c hc part => not_isIdentifierPart_of_ends ends c hc (isIdentifierPart_of_isWholePart part)

/-- Digits that end here are read in base ten. -/
theorem radix_of_digits (all : ∀ c ∈ ds, Text.isAsciiDigit c = true) (nonempty : ds ≠ []) (ends : Ends rest) :
    radix (ds ++ rest) = (10, ds ++ rest) := by
  obtain ⟨d, ds, rfl⟩ := List.exists_cons_of_ne_nil nonempty
  refine radix_eq_ten fun c hc announces => ?_
  have ⟨no_digit, part⟩ := letter_of_announces announces
  cases ds with
  | nil => exact not_isIdentifierPart_of_ends ends c hc part
  | cons e ds =>
    obtain rfl := Option.some.inj hc
    exact absurd (all e (by simp)) (by simp [no_digit])

theorem magnitude_eq {base : Nat} {d : Char} {left run : List Char} (announced : radix cs = (base, left))
    (stretch : left.takeWhile isWholePart = d :: run) (starts : d ≠ '_') :
    magnitude cs = (digits base 0 (d :: run)).map (·, left.dropWhile isWholePart) := by
  unfold magnitude
  rw [announced]
  simp only [stretch]
  split
  · next same => cases same
  · next same => exact absurd (List.cons.inj same).1 starts
  · cases digits base 0 (d :: run) <;> rfl

theorem magnitude_of_digits (all : ∀ c ∈ ds, Text.isAsciiDigit c = true) (nonempty : ds ≠ []) (ends : Ends rest) :
    magnitude (ds ++ rest) = some (Nat.ofDigitChars 10 ds 0, rest) := by
  have announced := radix_of_digits all nonempty ends
  have ⟨taken, left⟩ := span_append (fun c hc => isWholePart_of_isAsciiDigit (all c hc)) (not_isWholePart_of_ends ends)
  obtain ⟨d, ds, rfl⟩ := List.exists_cons_of_ne_nil nonempty
  have value := digits_append all 0 []
  rw [List.append_nil] at value
  rw [magnitude_eq announced taken (ne_underscore (all d (by simp))), left, value]
  rfl

/-- A suffix is a name. -/
theorem keyword_eq_none {word : String} {a : Char} {w : List Char} (starts : word.toList = a :: w)
    (part : Text.isIdentifierPart a = true) (ends : Ends rest) : keyword word rest = none := by
  have : after word.toList rest = none := by
    rw [starts]
    cases rest with
    | nil => rfl
    | cons c rest =>
      have other : a ≠ c := by
        rintro rfl
        exact not_isIdentifierPart_of_ends ends a rfl part
      rw [after, if_neg other]
  rw [keyword, this]
  rfl

theorem width_eq_none (ends : Ends rest) : width rest = none := by
  refine List.findSome?_eq_none_iff.2 fun w hw => ?_
  have starts : ∀ w ∈ widths, ∃ a v, w.1.toList = a :: v ∧ Text.isIdentifierPart a = true := by
    intro w hw
    simp only [widths, List.mem_cons, List.not_mem_nil, or_false] at hw
    obtain rfl | rfl | rfl | rfl | rfl | rfl | rfl | rfl := hw <;> exact ⟨_, _, rfl, by decide⟩
  obtain ⟨a, v, same, part⟩ := starts w hw
  rw [keyword_eq_none same part ends]
  rfl

/-- A number that is written in decimal digits and ends here. -/
theorem whole_of_digits (all : ∀ c ∈ ds, Text.isAsciiDigit c = true) (nonempty : ds ≠ []) (ends : Ends rest) :
    whole (ds ++ rest) = some (⟨false, Nat.ofDigitChars 10 ds 0, none⟩, rest) := by
  rw [whole, sign_of_digits all nonempty]
  simp [magnitude_of_digits all nonempty ends, radix_of_digits all nonempty ends, width_eq_none ends]

end Numbers

end Multihead.Document
