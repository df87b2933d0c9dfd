import Multihead.Proofs.Settings.Entries

/-! # A reader that keeps the laws
The reader of settings that is written out here goes through a text clause by clause, as is relied on of any reader. -/

set_option autoImplicit false

namespace Multihead.Settings

open Document

/-! ## Values -/

section Values
variable {f : Features} {c : Clause} {stop : Char} {cs : List Char}

theorem nameEnds_of_stops (ends : stop ∈ Reader.stops) : stop ∈ nameEnds := List.mem_cons_of_mem ':' ends

theorem choice_append {α : Type} (values : List α) (name : α → String) {word : List Char}
    (named : Text.isIdentifier word = true) (ends : stop ∈ Reader.stops) :
    choice values name (word ++ stop :: cs) =
      (values.find? (name · = String.ofList word)).map (·, stop :: cs) := by
  rw [choice, identifier_append named (nameEnds_of_stops ends)]
  cases found : values.find? (name · = String.ofList word) <;> simp [found]

theorem choice_name {α : Type} {values : List α} {name : α → String} {a : α}
    (named : Text.isIdentifier (name a).toList = true) (found : values.find? (name · = name a) = some a)
    (ends : stop ∈ Reader.stops) : choice values name ((name a).toList ++ stop :: cs) = some (a, stop :: cs) := by
  rw [choice_append values name named ends, String.ofList_toList, found]
  rfl

theorem choice_unknown {α : Type} {values : List α} {name : α → String} {word : List Char}
    (named : Text.isIdentifier word = true) (unknown : ∀ a, (name a).toList ≠ word) (ends : stop ∈ Reader.stops) :
    choice values name (word ++ stop :: cs) = none := by
  have absent : values.find? (name · = String.ofList word) = none := by
    refine List.find?_eq_none.2 fun a _ same => unknown a ?_
    rw [of_decide_eq_true same, String.toList_ofList]
  rw [choice_append values name named ends, absent]
  rfl

theorem isIdentifier_option (o : BypassOption) : Text.isIdentifier o.name.toList = true := by
  cases o <;> decide

theorem isIdentifier_layout (l : Layout) : Text.isIdentifier l.name.toList = true := by
  cases l <;> decide

theorem isIdentifier_field (g : Field) : Text.isIdentifier g.name.toList = true := by
  have known : ∀ name ∈ ["bypass", "initial_layout", "composite_render_budget_ms", "bypass_render_budget_ms"],
      Text.isIdentifier name.toList = true := by decide
  exact known g.name (by cases g <;> simp [Field.name])

theorem number_spelled {ds : List Char} {n : Nat} (spelled : Clause.Spells ds n) (ends : stop ∈ Reader.stops) :
    number (ds ++ stop :: cs) = if n < UInt64.size then some (UInt64.ofNat n, stop :: cs) else none := by
  have read := whole_of_digits spelled.digits spelled.nonempty (ends_of_mem (nameEnds_of_stops ends) cs)
  rw [spelled.value] at read
  have fits : Whole.toUInt64? ⟨false, n, none⟩ = if n < UInt64.size then some (UInt64.ofNat n) else none := by
    simp [Whole.toUInt64?, Whole.fits]
  rw [number, read]
  simp only [Option.bind_eq_bind, Option.bind_some, fits, Option.pure_def]
  split <;> rfl

/-- What a clause gives is read, up to the mark behind it. -/
theorem said_of_sets {g : Field} (sets : c.Sets g) (ends : stop ∈ Reader.stops) :
    said f c.name (c.value ++ stop :: cs) = some (some g, stop :: cs) := by
  cases sets with
  | bypass o =>
    have read : bypassOption (o.name.toList ++ stop :: cs) = some (o, stop :: cs) :=
      choice_name (isIdentifier_option o) (by cases o <;> decide) ends
    exact congrArg (Option.map _) read
  | initialLayout l =>
    have read : layout (l.name.toList ++ stop :: cs) = some (l, stop :: cs) :=
      choice_name (isIdentifier_layout l) (by cases l <;> decide) ends
    exact congrArg (Option.map _) read
  | @compositeBudget ds ms spelled =>
    have read : number (ds ++ stop :: cs) = some (ms, stop :: cs) := by
      rw [number_spelled spelled ends, if_pos ms.toNat_lt, UInt64.ofNat_toNat]
    exact congrArg (Option.map _) read
  | @bypassBudget ds ms spelled =>
    have read : number (ds ++ stop :: cs) = some (ms, stop :: cs) := by
      rw [number_spelled spelled ends, if_pos ms.toNat_lt, UInt64.ofNat_toNat]
    exact congrArg (Option.map _) read

theorem said_of_spoilt (wrong : c.Spoilt) (ends : stop ∈ Reader.stops) :
    said f c.name (c.value ++ stop :: cs) = none := by
  cases wrong with
  | @unknownOption word named unknown =>
    have unread : bypassOption (word ++ stop :: cs) = none := choice_unknown named unknown ends
    exact congrArg (Option.map _) unread
  | @unknownLayout word named unknown =>
    have unread : layout (word ++ stop :: cs) = none := choice_unknown named unknown ends
    exact congrArg (Option.map _) unread
  | @tooLarge name ds n budget spelled large =>
    have unread : number (ds ++ stop :: cs) = none := by
      rw [number_spelled spelled ends, if_neg (Nat.not_lt.2 large)]
    obtain rfl | rfl := budget
    · exact congrArg (Option.map _) unread
    · exact congrArg (Option.map _) unread

theorem said_name {g : Field} {o : Option Field} {rest : List Char} (h : said f g.name cs = some (o, rest)) :
    ∃ e, o = some e ∧ e.name = g.name := by
  have kind {α : Type} (make : α → Field) {read : List Char → Option (α × List Char)}
      (named : ∀ a, (make a).name = g.name) (h : valueOf make read cs = some (o, rest)) :
      ∃ e, o = some e ∧ e.name = g.name := by
    obtain ⟨⟨a, left⟩, -, same⟩ := Option.map_eq_some_iff.1 h
    exact ⟨make a, (Prod.mk.inj same).1.symm, named a⟩
  cases g with
  | bypass o => exact kind Field.bypass (fun _ => rfl) h
  | initialLayout l => exact kind Field.initialLayout (fun _ => rfl) h
  | compositeBudget ms => exact kind Field.compositeBudget (fun _ => rfl) h
  | bypassBudget ms => exact kind Field.bypassBudget (fun _ => rfl) h

/-- The values of the fields that there are do not begin with space. -/
theorem space_spelled {ds : List Char} {n : Nat} (spelled : Clause.Spells ds n) (rest : List Char) :
    space (ds ++ rest) = some (ds ++ rest) := by
  obtain ⟨d, ds, rfl⟩ := List.exists_cons_of_ne_nil spelled.nonempty
  have digit := spelled.digits d (by simp)
  exact space_of_isIdentifierPart (isIdentifierPart_of_isWholePart (isWholePart_of_isAsciiDigit digit)) _

theorem space_of_sets {g : Field} (sets : c.Sets g) (rest : List Char) :
    space (c.value ++ rest) = some (c.value ++ rest) := by
  cases sets with
  | bypass o => exact space_of_isIdentifier (isIdentifier_option o) rest
  | initialLayout l => exact space_of_isIdentifier (isIdentifier_layout l) rest
  | compositeBudget spelled => exact space_spelled spelled rest
  | bypassBudget spelled => exact space_spelled spelled rest

theorem space_of_spoilt (wrong : c.Spoilt) (rest : List Char) : space (c.value ++ rest) = some (c.value ++ rest) := by
  cases wrong with
  | unknownOption named => exact space_of_isIdentifier named rest
  | unknownLayout named => exact space_of_isIdentifier named rest
  | tooLarge _ spelled => exact space_spelled spelled rest

end Values

/-! ## Entries -/

section Labels
variable {f : Features} {c : Clause} {cs rest : List Char}

theorem Clause.text_append (c : Clause) (rest : List Char) :
    c.text ++ rest = c.name.toList ++ ':' :: (' ' :: (c.value ++ rest)) := by
  simp [Clause.text]

/-- No clause begins with the closing parenthesis. -/
theorem mark_of_isIdentifier {word : List Char} (named : Text.isIdentifier word = true) (rest : List Char) :
    mark ')' (word ++ rest) = none := by
  rw [mark, space_of_isIdentifier named]
  cases word with
  | nil => cases named
  | cons a w =>
    have other : a ≠ ')' := by
      rintro rfl
      simp only [Text.isIdentifier, Bool.and_eq_true] at named
      exact absurd named.1 (by decide)
    exact if_neg other

/-- The name of a clause, with its colon, is read, unless no value can follow. -/
theorem label_name {name : String} (named : Text.isIdentifier name.toList = true) (rest : List Char) :
    label (name.toList ++ ':' :: rest) = (space rest).map (name, ·) := by
  have colon : mark ':' (':' :: rest) = some rest := mark_cons rfl (by decide)
  have read := identifier_append named (List.mem_cons_self : ':' ∈ nameEnds) rest
  cases gap : space rest <;> simp [label, space_of_isIdentifier named, read, colon, gap]

theorem label_clause (named : Text.isIdentifier c.name.toList = true)
    (solid : space (c.value ++ rest) = some (c.value ++ rest)) : label (c.text ++ rest) = some (c.name, c.value ++ rest) := by
  rw [c.text_append, label_name named, space_blank, solid]
  rfl

theorem entry_clause (named : Text.isIdentifier c.name.toList = true)
    (solid : space (c.value ++ rest) = some (c.value ++ rest)) :
    entry f (c.text ++ rest) = said f c.name (c.value ++ rest) := by
  rw [entry, label_clause named solid, Option.bind_some]

end Labels

/-! ## The reader -/

def finish : Draft × List Char → Option Settings
  | (d, rest) => (space rest).bind fun rest => if rest.isEmpty then some d.settings else none

/-- The reader without any features; it leaves out what it would leave out in front of a mark. -/
def written : Reader where
  entry d cs := (foldEntries (field Features.none) ')' cs.length d cs).bind finish
  behind d cs := (onward Features.none cs.length d cs).bind finish
  Space cs := space cs = some []
  Skips value := ∀ stop ∈ Reader.stops, ∀ cs, space (value ++ stop :: cs) = some (value ++ stop :: cs) ∧
    skipValue Features.none (depthLimit - 2) (value ++ stop :: cs) = some (stop :: cs)

section Turns
variable {d : Draft} {cs rest : List Char} {o : Option Field}

theorem onward_fuel {n m : Nat} (hn : cs.length ≤ n + 1) (hm : cs.length ≤ m + 1) :
    onward Features.none n d cs = onward Features.none m d cs := by
  unfold onward
  cases comma : mark ',' cs with
  | none => rfl
  | some next =>
    have := length_lt_of_mark comma
    exact foldEntries_fuel (by omega) (by omega)

theorem entry_of_mark (closes : mark ')' cs = some rest) : written.entry d cs = finish (d, rest) := by
  have := length_lt_of_mark closes
  obtain ⟨n, length⟩ := Nat.exists_eq_succ_of_ne_zero (by omega : cs.length ≠ 0)
  change (foldEntries _ _ _ _ _).bind finish = _
  rw [length, foldEntries_succ, closes]
  rfl

theorem entry_of_read (read : entry Features.none cs = some (o, rest)) :
    written.entry d cs = (d.take o).bind fun d => written.behind d rest := by
  have := (entry_suffix read).length_le
  have nonempty : cs.length ≠ 0 := fun empty => by
    obtain rfl := List.length_eq_zero_iff.1 empty
    cases read
  have no_mark : mark ')' cs = none := by
    cases closes : mark ')' cs with
    | none => rfl
    | some left =>
      rw [entry, label_of_mark rfl closes] at read
      cases read
  obtain ⟨n, length⟩ := Nat.exists_eq_succ_of_ne_zero nonempty
  have turn : foldEntries (field Features.none) ')' (n + 1) d cs =
      (d.take o).bind fun d => onward Features.none n d rest := by
    rw [foldEntries_succ, no_mark, read]
    rfl
  change (foldEntries _ _ _ _ _).bind finish = _
  rw [length, turn]
  cases d.take o with
  | none => rfl
  | some d => exact congrArg (Option.bind · finish) (onward_fuel (by omega) (by omega))

theorem entry_of_unread (no_mark : mark ')' cs = none) (unread : entry Features.none cs = none) :
    written.entry d cs = none := by
  change (foldEntries _ _ _ _ _).bind finish = _
  cases cs with
  | nil => rfl
  | cons c cs =>
    rw [List.length_cons, foldEntries_succ, no_mark, unread]
    rfl

end Turns

/-! ## It keeps the laws -/

section Laws
variable {d : Draft} {c : Clause} {stop : Char} {cs : List Char}

theorem written_clause {o : Option Field} (named : Text.isIdentifier c.name.toList = true)
    (solid : space (c.value ++ stop :: cs) = some (c.value ++ stop :: cs))
    (read : said Features.none c.name (c.value ++ stop :: cs) = some (o, stop :: cs)) :
    written.entry d (c.text ++ stop :: cs) = (d.take o).bind fun d => written.behind d (stop :: cs) :=
  entry_of_read ((entry_clause named solid).trans read)

theorem written_given {g : Field} (sets : c.Sets g) (new : d.has g = false) (ends : stop ∈ Reader.stops) :
    written.entry d (c.text ++ stop :: cs) = written.behind (d.put g) (stop :: cs) := by
  have named : Text.isIdentifier c.name.toList = true := sets.name_eq ▸ isIdentifier_field g
  have taken : d.take (some g) = some (d.put g) := if_neg (Bool.eq_false_iff.1 new)
  rw [written_clause named (space_of_sets sets _) (said_of_sets sets ends), taken, Option.bind_some]

theorem written_skipped (other : written.Other c) (ends : stop ∈ Reader.stops) :
    written.entry d (c.text ++ stop :: cs) = written.behind d (stop :: cs) := by
  obtain ⟨solid, left_out⟩ := other.skipped stop ends cs
  have read : said Features.none c.name (c.value ++ stop :: cs) = some (none, stop :: cs) := by
    unfold said
    split
    · next same => exact absurd same.symm (other.unknown (.bypass .allowed))
    · next same => exact absurd same.symm (other.unknown (.initialLayout .clone))
    · next same => exact absurd same.symm (other.unknown (.compositeBudget 0))
    · next same => exact absurd same.symm (other.unknown (.bypassBudget 0))
    · rw [left_out]
      rfl
  exact written_clause other.named solid read

theorem written_spoilt (wrong : c.Spoilt) (ends : stop ∈ Reader.stops) :
    written.entry d (c.text ++ stop :: cs) = none := by
  have named : Text.isIdentifier c.name.toList = true := by
    cases wrong with
    | unknownOption => exact isIdentifier_field (.bypass .allowed)
    | unknownLayout => exact isIdentifier_field (.initialLayout .clone)
    | tooLarge budget =>
      obtain rfl | rfl := budget
      · exact isIdentifier_field (.compositeBudget 0)
      · exact isIdentifier_field (.bypassBudget 0)
  refine entry_of_unread ?_ ((entry_clause named (space_of_spoilt wrong _)).trans (said_of_spoilt wrong ends))
  rw [c.text_append]
  exact mark_of_isIdentifier named _

theorem written_again {g : Field} (old : d.has g = true) : written.entry d (g.name.toList ++ ':' :: cs) = none := by
  have named := isIdentifier_field g
  have no_mark := mark_of_isIdentifier named (':' :: cs)
  cases read : entry Features.none (g.name.toList ++ ':' :: cs) with
  | none => exact entry_of_unread no_mark read
  | some found =>
    obtain ⟨o, rest⟩ := found
    obtain ⟨⟨name, value⟩, labelled, value_read⟩ := Option.bind_eq_some_iff.1 read
    rw [label_name named] at labelled
    obtain ⟨value, -, same⟩ := Option.map_eq_some_iff.1 labelled
    obtain ⟨rfl, rfl⟩ := Prod.mk.inj same
    obtain ⟨e, rfl, same⟩ := said_name value_read
    have twice : d.take (some e) = none := if_pos (d.has_congr same ▸ old)
    rw [entry_of_read read, twice]
    rfl

theorem written_comma (d : Draft) (cs : List Char) : written.behind d (',' :: ' ' :: cs) = written.entry d cs := by
  have comma : mark ',' (',' :: ' ' :: cs) = some (' ' :: cs) := mark_cons rfl (by decide)
  have blank : foldEntries (field Features.none) ')' (cs.length + 2) d (' ' :: cs) =
      foldEntries (field Features.none) ')' (cs.length + 2) d cs := by
    rw [foldEntries_succ, foldEntries_succ, mark_congr (space_blank cs), entry_congr (space_blank cs)]
  change (onward Features.none (cs.length + 2) d (',' :: ' ' :: cs)).bind finish = _
  rw [onward, comma]
  exact congrArg (Option.bind · finish) (blank.trans (foldEntries_fuel (by omega) (by omega)))

theorem written_closing (d : Draft) (cs : List Char) : written.entry d (')' :: cs) = finish (d, cs) :=
  entry_of_mark (mark_cons rfl (by decide))

theorem finish_of_space (d : Draft) (space : written.Space cs) : finish (d, cs) = some d.settings := by
  have gap : Document.space cs = some [] := space
  rw [finish, gap]
  rfl

theorem finish_of_more (d : Draft) (more : ¬written.Space cs) : finish (d, cs) = none := by
  rw [finish]
  cases gap : space cs with
  | none => rfl
  | some left =>
    have visible : left ≠ [] := by
      rintro rfl
      exact more gap
    exact if_neg (mt List.isEmpty_iff.1 visible)

theorem space_append {blanks : List Char} (blank : ∀ b ∈ blanks, isSpace b = true) (cs : List Char) :
    space (blanks ++ cs) = space cs := by
  induction blanks with
  | nil => rfl
  | cons b blanks ih =>
    obtain ⟨here, later⟩ := List.forall_mem_cons.1 blank
    have no_slash : b ≠ '/' := by
      rintro rfl
      exact absurd here (by decide)
    rw [List.cons_append, ← ih later, space, skipGap]
    · exact if_pos here
    · exact fun _ h _ => no_slash h
    · exact fun _ h _ => no_slash h

/-- Neither a header nor a name stands before the parenthesis. -/
theorem read?_cons (cs : List Char) : read? ('(' :: cs) = written.entry .empty cs := by
  have solid : space ('(' :: cs) = some ('(' :: cs) := space_of_solid rfl (by decide)
  have plain : header ('(' :: cs) = some (Features.none, '(' :: cs) := by
    rw [header, solid]
    rfl
  have unnamed : structureName Features.none ('(' :: cs) = some ('(' :: cs) := rfl
  have opened : mark '(' ('(' :: cs) = some cs := mark_cons rfl (by decide)
  simp only [read?, plain, unnamed, opened, Option.bind_eq_bind, Option.bind_some]
  rfl

theorem ofBytes?_toUTF8 (text : String) : ofBytes? text.toUTF8 = read? text.toList := by
  have valid : text.toUTF8.IsValidUTF8 := text.isValidUTF8
  have read : String.fromUTF8? text.toUTF8 = some text := dif_pos valid
  rw [ofBytes?, read]
  rfl

/-- The reader that is written out keeps the laws. -/
theorem written_lawful : written.Lawful ofBytes? where
  opening cs := by
    rw [ofBytes?_toUTF8, String.toList_ofList]
    exact read?_cons cs
  given := written_given
  skipped := written_skipped
  again := written_again
  spoilt := written_spoilt
  comma := written_comma
  closing d cs := by
    have comma : mark ',' (')' :: cs) = none := by
      rw [mark, space_of_solid rfl (by decide)]
      rfl
    have closes : mark ')' (')' :: cs) = some cs := mark_cons rfl (by decide)
    change (onward Features.none (cs.length + 1) d (')' :: cs)).bind finish = _
    rw [onward, comma, closes, written_closing]
    rfl
  finished space := (written_closing _ _).trans (finish_of_space _ space)
  trailing more := (written_closing _ _).trans (finish_of_more _ more)
  blanks {cs} blank := by
    have gap := space_append blank []
    rw [List.append_nil] at gap
    exact gap
  visible := by
    rintro cs ⟨blanks, c, rest, rfl, blank, no_blank, no_slash⟩ space
    have gap : Document.space (blanks ++ c :: rest) = some [] := space
    rw [space_append blank, space_of_solid no_blank no_slash] at gap
    cases gap

end Laws

end Multihead.Settings
