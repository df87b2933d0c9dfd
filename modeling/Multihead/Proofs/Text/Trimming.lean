import Mathlib.Data.List.TakeWhile
import Multihead.Text.Blank
import Multihead.Text.Identifier

/-! # Between blanks
What is left of a text without the blanks at its ends. A stretch without a blank that stands between blanks only is
all that is left. -/

set_option autoImplicit false

namespace Multihead.Text

variable {cs word : List Char}

/-- The text is this stretch between blanks. -/
def Between (cs word : List Char) : Prop :=
  ∃ left right, cs = left ++ (word ++ right) ∧ (∀ c ∈ left, isBlank c = true) ∧ ∀ c ∈ right, isBlank c = true

theorem between_trim (cs : List Char) : Between cs (trim cs) := by
  have back : (cs.dropWhile isBlank).reverse.takeWhile isBlank ++ (trim cs).reverse = (cs.dropWhile isBlank).reverse := by
    rw [trim, List.reverse_reverse, List.takeWhile_append_dropWhile]
  refine ⟨cs.takeWhile isBlank, ((cs.dropWhile isBlank).reverse.takeWhile isBlank).reverse, ?_,
    fun c hc => List.mem_takeWhile_imp hc, fun c hc => List.mem_takeWhile_imp (List.mem_reverse.1 hc)⟩
  have middle := congrArg List.reverse back
  rw [List.reverse_append, List.reverse_reverse, List.reverse_reverse] at middle
  rw [middle, List.takeWhile_append_dropWhile]

theorem dropWhile_of_solid (solid : ∀ c ∈ word, isBlank c = false) : word.dropWhile isBlank = word := by
  cases word with
  | nil => rfl
  | cons c word => exact List.dropWhile_cons_of_neg (by simp [solid c])

theorem trim_of_between (h : Between cs word) (solid : ∀ c ∈ word, isBlank c = false) : trim cs = word := by
  obtain ⟨left, right, rfl, blank_left, blank_right⟩ := h
  rw [trim, List.dropWhile_append_of_pos blank_left]
  cases word with
  | nil =>
    rw [List.nil_append, List.dropWhile_eq_nil_iff.2 blank_right]
    rfl
  | cons c word =>
    have first : (c :: word ++ right).dropWhile isBlank = c :: word ++ right :=
      List.dropWhile_cons_of_neg (by simp [solid c])
    rw [first, List.reverse_append, List.dropWhile_append_of_pos (by simpa using blank_right),
      dropWhile_of_solid fun d hd => solid d (List.mem_reverse.1 hd), List.reverse_reverse]

theorem not_isBlank_of_isAsciiDigit {c : Char} (h : isAsciiDigit c = true) : isBlank c = false := by
  simp only [isAsciiDigit, Bool.and_eq_true, decide_eq_true_eq] at h
  have low : '0'.toNat ≤ c.toNat := h.1
  have high : c.toNat ≤ '9'.toNat := h.2
  have zero : '0'.toNat = 48 := rfl
  have nine : '9'.toNat = 57 := rfl
  simp only [isBlank, blankRanges, List.any_cons, List.any_nil, Bool.or_false, Bool.or_eq_false_iff, Bool.and_eq_false_iff,
    decide_eq_false_iff_not]
  omega

end Multihead.Text
