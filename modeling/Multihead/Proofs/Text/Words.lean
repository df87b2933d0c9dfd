import Mathlib.Data.List.Basic
import Mathlib.Data.List.TakeWhile
import Multihead.Text.Blank

/-! # Words of a text
A word is a stretch without a blank that cannot be made longer: it stands between blanks and the two ends of the text.
These stretches are all that a text is taken apart into. -/

set_option autoImplicit false

namespace Multihead.Text

def isSolid (c : Char) : Bool := !isBlank c

theorem isSolid_iff (c : Char) : isSolid c = true ↔ isBlank c = false := by
  rw [isSolid, Bool.not_eq_true']

theorem not_isSolid_iff (c : Char) : isSolid c = false ↔ isBlank c = true := by
  rw [isSolid, Bool.not_eq_false']

/-- It has no blank in it, and there is a blank, or an end of the text, on both sides of it. -/
structure IsWord (w cs : List Char) : Prop where
  nonempty : w ≠ []
  solid : ∀ c ∈ w, isBlank c = false
  between : ∃ before after, cs = before ++ (w ++ after) ∧ (∀ c ∈ before.getLast?, isBlank c = true) ∧
    ∀ c ∈ after.head?, isBlank c = true

/-! ## The first word -/

theorem words_cons_of_blank {c : Char} (blank : isBlank c = true) (cs : List Char) : words (c :: cs) = words cs := by
  rw [words.eq_def]
  exact if_pos blank

theorem words_cons_cons {c : Char} (solid : isBlank c = false) (d : Char) (cs : List Char) :
    words (c :: d :: cs) =
      match words (d :: cs) with
      | w :: ws => if isBlank d then [c] :: w :: ws else (c :: w) :: ws
      | [] => [[c]] := by
  rw [words.eq_def]
  simp only [solid, Bool.false_eq_true, if_false]
  cases words (d :: cs) <;> rfl

theorem words_cons_of_solid {c : Char} (solid : isBlank c = false) (cs : List Char) :
    words (c :: cs) = (c :: cs.takeWhile isSolid) :: words (cs.dropWhile isSolid) := by
  induction cs generalizing c with
  | nil => simp [words, solid]
  | cons d cs ih =>
    rw [words_cons_cons solid]
    cases blank : isBlank d with
    | true =>
      have not_solid := Bool.eq_false_iff.1 ((not_isSolid_iff d).2 blank)
      rw [List.takeWhile_cons_of_neg not_solid, List.dropWhile_cons_of_neg not_solid]
      cases words (d :: cs) <;> rfl
    | false =>
      have solid' := (isSolid_iff d).2 blank
      rw [List.takeWhile_cons_of_pos solid', List.dropWhile_cons_of_pos solid', ih blank]
      rfl

section First
variable {w cs : List Char} {c : Char}

theorem not_isWord_nil (w : List Char) : ¬ IsWord w [] := by
  rintro ⟨nonempty, -, before, after, same, -⟩
  exact nonempty (List.append_eq_nil_iff.1 (List.append_eq_nil_iff.1 same.symm).2).1

theorem isWord_cons_of_blank (blank : isBlank c = true) : IsWord w (c :: cs) ↔ IsWord w cs := by
  constructor
  · rintro ⟨nonempty, solid, before, after, same, opens, closes⟩
    cases before with
    | nil =>
      obtain ⟨d, w', rfl⟩ := List.exists_cons_of_ne_nil nonempty
      obtain ⟨rfl, -⟩ := List.cons.inj same
      exact absurd blank (by simp [solid c])
    | cons d before =>
      obtain ⟨rfl, rfl⟩ := List.cons.inj same
      refine ⟨nonempty, solid, before, after, rfl, fun e he => opens e ?_, closes⟩
      rw [Option.mem_def] at he
      rw [List.getLast?_cons, he]
      rfl
  · rintro ⟨nonempty, solid, before, after, rfl, opens, closes⟩
    refine ⟨nonempty, solid, c :: before, after, rfl, fun e he => ?_, closes⟩
    rw [Option.mem_def, List.getLast?_cons] at he
    cases last : before.getLast? with
    | none =>
      rw [last] at he
      exact Option.some.inj he ▸ blank
    | some d =>
      rw [last] at he
      exact opens e (last.trans he)

theorem dropWhile_append_blank {b : Char} (blank : isBlank b = true) (before after : List Char) :
    (before ++ b :: after).dropWhile isSolid = before.dropWhile isSolid ++ b :: after := by
  have not_solid := Bool.eq_false_iff.1 ((not_isSolid_iff b).2 blank)
  induction before with
  | nil => exact List.dropWhile_cons_of_neg not_solid
  | cons d before ih =>
    rw [List.cons_append, List.dropWhile_cons, List.dropWhile_cons, ih]
    split <;> rfl

/-- A stretch that ends at a blank, or with the text, is what comes before the first blank. -/
theorem takeWhile_append_of_closed {w after : List Char} (solid : ∀ c ∈ w, isBlank c = false)
    (closes : ∀ c ∈ after.head?, isBlank c = true) : (w ++ after).takeWhile isSolid = w := by
  have none_after : after.takeWhile isSolid = [] := by
    cases after with
    | nil => rfl
    | cons c after =>
      exact List.takeWhile_cons_of_neg (Bool.eq_false_iff.1 ((not_isSolid_iff c).2 (closes c rfl)))
  rw [List.takeWhile_append_of_pos fun c hc => (isSolid_iff c).2 (solid c hc), none_after, List.append_nil]

theorem isWord_cons_of_solid (solid : isBlank c = false) :
    IsWord w (c :: cs) ↔ w = c :: cs.takeWhile isSolid ∨ IsWord w (cs.dropWhile isSolid) := by
  constructor
  · rintro ⟨nonempty, all_solid, before, after, same, opens, closes⟩
    cases before with
    | nil =>
      have whole := takeWhile_append_of_closed all_solid closes
      rw [← List.nil_append (w ++ after), ← same, List.takeWhile_cons_of_pos ((isSolid_iff c).2 solid)] at whole
      exact .inl whole.symm
    | cons d before =>
      obtain ⟨rfl, rfl⟩ := List.cons.inj same
      -- what stands before the word is more than this character, since it ends with a blank
      rcases List.eq_nil_or_concat' before with rfl | ⟨before, b, rfl⟩
      · exact absurd (opens c rfl) (by simp [solid])
      rw [← List.cons_append, List.getLast?_concat] at opens
      have blank : isBlank b = true := opens b rfl
      have rest : (before ++ [b] ++ (w ++ after)).dropWhile isSolid = before.dropWhile isSolid ++ [b] ++ (w ++ after) := by
        rw [List.append_assoc, List.append_assoc]
        exact dropWhile_append_blank blank before _
      exact .inr ⟨nonempty, all_solid, _, after, rest, by simpa using blank, closes⟩
  · have stops : ∀ d ∈ (cs.dropWhile isSolid).head?, isBlank d = true := by
      intro d hd
      have not_solid := List.head?_dropWhile_not isSolid cs
      rw [Option.mem_def.1 hd] at not_solid
      exact (not_isSolid_iff d).1 not_solid
    have whole : c :: cs = c :: cs.takeWhile isSolid ++ cs.dropWhile isSolid := by
      rw [List.cons_append, List.takeWhile_append_dropWhile]
    rintro (rfl | ⟨nonempty, all_solid, before, after, rest, opens, closes⟩)
    · refine ⟨List.cons_ne_nil _ _, List.forall_mem_cons.2 ⟨solid, fun d hd => ?_⟩, [], _, whole, by simp, stops⟩
      exact (isSolid_iff d).1 (List.mem_takeWhile_imp hd)
    · rw [rest] at stops whole
      refine ⟨nonempty, all_solid, c :: cs.takeWhile isSolid ++ before, after, ?_, fun d hd => opens d ?_, closes⟩
      · rw [whole, List.append_assoc]
      · -- the rest begins with a blank, and so not with the word
        rcases List.eq_nil_or_concat' before with rfl | ⟨before, b, rfl⟩
        · obtain ⟨e, w', rfl⟩ := List.exists_cons_of_ne_nil nonempty
          exact absurd (stops e rfl) (by simp [all_solid e])
        · rw [← List.append_assoc] at hd
          rwa [List.getLast?_concat] at hd ⊢

end First

theorem mem_words_iff (w cs : List Char) : w ∈ words cs ↔ IsWord w cs := by
  induction n : cs.length using Nat.strong_induction_on generalizing cs with
  | _ n ih =>
  subst n
  cases cs with
  | nil => simp [words, not_isWord_nil]
  | cons c cs =>
    cases blank : isBlank c with
    | true =>
      rw [words_cons_of_blank blank, isWord_cons_of_blank blank]
      exact ih _ (Nat.lt_succ_self _) cs rfl
    | false =>
      have shorter : (cs.dropWhile isSolid).length < (c :: cs).length :=
        Nat.lt_succ_of_le (List.length_dropWhile_le _ _)
      rw [words_cons_of_solid blank, isWord_cons_of_solid blank, List.mem_cons, ih _ shorter _ rfl]

instance (w cs : List Char) : Decidable (IsWord w cs) := decidable_of_iff _ (mem_words_iff w cs)

end Multihead.Text
