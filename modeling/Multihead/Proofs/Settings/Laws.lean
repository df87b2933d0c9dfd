import Mathlib.Data.List.Nodup
import Multihead.Document.Space
import Multihead.Settings.Printer
import Multihead.Text.Identifier

/-! # Readers of settings
What is relied on of whatever reads settings from the text of a structure. It reads clause by clause, with the fields
that were read so far in a draft, and each law is about one clause, one mark or the end of the text. -/

set_option autoImplicit false

namespace Multihead.Settings

/-! ## Drafts -/

namespace Draft

/-- Whether a field of this name was read. -/
def has (d : Draft) : Field → Bool
  | .bypass _ => d.bypass.isSome
  | .initialLayout _ => d.initialLayout.isSome
  | .compositeBudget _ => d.compositeBudget.isSome
  | .bypassBudget _ => d.bypassBudget.isSome

def put (d : Draft) : Field → Draft
  | .bypass option => { d with bypass := some option }
  | .initialLayout layout => { d with initialLayout := some layout }
  | .compositeBudget ms => { d with compositeBudget := some ms }
  | .bypassBudget ms => { d with bypassBudget := some ms }

/-- The draft with what a clause gives; nothing may be given twice. -/
def take (d : Draft) : Option Field → Option Draft
  | none => some d
  | some f => if d.has f then none else some (d.put f)

def takeAll (d : Draft) : List Field → Option Draft
  | [] => some d
  | f :: fs => (d.take (some f)).bind (·.takeAll fs)

theorem settings_put (d : Draft) (f : Field) : (d.put f).settings = Field.put d.settings f := by
  cases f <;> rfl

theorem has_put (d : Draft) (f g : Field) : (d.put f).has g = (decide (f.name = g.name) || d.has g) := by
  cases f <;> cases g <;> simp [has, put, Field.name]

theorem has_congr (d : Draft) {f g : Field} (same : f.name = g.name) : d.has f = d.has g := by
  revert same
  cases f <;> cases g <;> simp [has, Field.name]

theorem has_foldl_put (d : Draft) {f : Field} {fs : List Field} (given : f ∈ fs ∨ d.has f = true) :
    (fs.foldl put d).has f = true := by
  induction fs generalizing d with
  | nil => exact given.resolve_left List.not_mem_nil
  | cons g fs ih =>
    refine ih (d.put g) ?_
    obtain h | old := given
    · obtain rfl | later := List.mem_cons.1 h
      · exact .inr (by simp [has_put])
      · exact .inl later
    · exact .inr (by simp [has_put, old])

/-- Fields can be taken if they have different names, none of which was read. -/
theorem takeAll_eq_some_iff {d d' : Draft} {fs : List Field} :
    d.takeAll fs = some d' ↔
      ((fs.map Field.name).Nodup ∧ ∀ f ∈ fs, d.has f = false) ∧ d' = fs.foldl put d := by
  induction fs generalizing d with
  | nil => exact ⟨fun h => ⟨⟨List.nodup_nil, by simp⟩, (Option.some.inj h).symm⟩, fun ⟨_, h⟩ => h ▸ rfl⟩
  | cons f fs ih =>
    by_cases old : d.has f = true
    · simp [takeAll, take, old]
    · have new : d.has f = false := Bool.eq_false_iff.2 old
      have apart : (∀ g ∈ fs, (d.put f).has g = false) ↔ f.name ∉ fs.map Field.name ∧ ∀ g ∈ fs, d.has g = false := by
        simp only [has_put, Bool.or_eq_false_iff, decide_eq_false_iff_not, forall_and, List.mem_map, not_exists, not_and,
          eq_comm (a := f.name)]
      rw [takeAll, take, if_neg old, Option.bind_some, ih, apart, List.map_cons, List.nodup_cons, List.forall_mem_cons,
        List.foldl_cons]
      tauto

theorem settings_takeAll {d d' : Draft} {fs : List Field} (taken : d.takeAll fs = some d') :
    d'.settings = fs.foldl Field.put d.settings := by
  obtain ⟨-, rfl⟩ := takeAll_eq_some_iff.1 taken
  clear taken
  induction fs generalizing d with
  | nil => rfl
  | cons f fs ih => rw [List.foldl_cons, List.foldl_cons, ih, settings_put]

/-- From nothing, fields of different names give their settings, and others give none. -/
theorem takeAll_empty (fs : List Field) :
    ((fs.map Field.name).Nodup → ∃ d, empty.takeAll fs = some d ∧ d.settings = ofFields fs) ∧
      (¬(fs.map Field.name).Nodup → empty.takeAll fs = none) := by
  have fresh (f : Field) : empty.has f = false := by cases f <;> rfl
  constructor
  · intro distinct
    have taken := takeAll_eq_some_iff.2 ⟨⟨distinct, fun f _ => fresh f⟩, rfl⟩
    exact ⟨_, taken, settings_takeAll taken⟩
  · intro twice
    exact Option.eq_none_iff_forall_ne_some.2 fun d taken => twice (takeAll_eq_some_iff.1 taken).1.1

end Draft

/-! ## Clauses -/

/-- A field of any name with a value, as it is written. -/
structure Clause where
  name : String
  value : List Char

namespace Clause

def text (c : Clause) : List Char := c.name.toList ++ ':' :: ' ' :: c.value

/-- Decimal digits spell this number. -/
structure Spells (ds : List Char) (n : Nat) : Prop where
  nonempty : ds ≠ []
  digits : ∀ c ∈ ds, Text.isAsciiDigit c = true
  value : Nat.ofDigitChars 10 ds 0 = n

/-- The clause gives this field a value that it can have. -/
inductive Sets : Clause → Field → Prop
  | bypass (o : BypassOption) : Sets ⟨"bypass", o.name.toList⟩ (.bypass o)
  | initialLayout (l : Layout) : Sets ⟨"initial_layout", l.name.toList⟩ (.initialLayout l)
  | compositeBudget {ds} {ms : UInt64} (spelled : Spells ds ms.toNat) :
    Sets ⟨"composite_render_budget_ms", ds⟩ (.compositeBudget ms)
  | bypassBudget {ds} {ms : UInt64} (spelled : Spells ds ms.toNat) :
    Sets ⟨"bypass_render_budget_ms", ds⟩ (.bypassBudget ms)

/-- The clause gives a field a value that it cannot have. -/
inductive Spoilt : Clause → Prop
  | unknownOption {word} (named : Text.isIdentifier word = true) (unknown : ∀ o : BypassOption, o.name.toList ≠ word) :
    Spoilt ⟨"bypass", word⟩
  | unknownLayout {word} (named : Text.isIdentifier word = true) (unknown : ∀ l : Layout, l.name.toList ≠ word) :
    Spoilt ⟨"initial_layout", word⟩
  | tooLarge {name ds n} (budget : name = "composite_render_budget_ms" ∨ name = "bypass_render_budget_ms")
    (spelled : Spells ds n) (large : UInt64.size ≤ n) : Spoilt ⟨name, ds⟩

theorem Sets.name_eq {c : Clause} {f : Field} (sets : c.Sets f) : c.name = f.name := by
  cases sets <;> rfl

end Clause

/-- A field as it is written. -/
def Field.clause (f : Field) : Clause := ⟨f.name, f.value⟩

theorem spells_toDigits (n : Nat) : Clause.Spells (Nat.toDigits 10 n) n where
  nonempty := Nat.toDigits_ne_nil
  digits _ hc := Nat.isDigit_of_mem_toDigits (by decide) (by decide) hc
  value := Nat.ofDigitChars_toDigits (by decide) (by decide)

theorem Field.clause_sets (f : Field) : f.clause.Sets f := by
  cases f with
  | bypass o => exact .bypass o
  | initialLayout l => exact .initialLayout l
  | compositeBudget ms => exact .compositeBudget (spells_toDigits ms.toNat)
  | bypassBudget ms => exact .bypassBudget (spells_toDigits ms.toNat)

/-! ## Laws -/

/-- What a reader does inside a text, given the fields that it read so far. -/
structure Reader where
  /-- What the rest of a text gives where a clause or the closing parenthesis may stand. -/
  entry : Draft → List Char → Option Settings
  /-- What the rest of a text gives behind a clause. -/
  behind : Draft → List Char → Option Settings
  /-- What may stand behind the closing parenthesis, such as blanks and comments. -/
  Space : List Char → Prop
  /-- The values that are left out where there is no field of the name. -/
  Skips : List Char → Prop

namespace Reader

/-- A clause that is left out. -/
structure Other (r : Reader) (c : Clause) : Prop where
  named : Text.isIdentifier c.name.toList = true
  unknown : ∀ f : Field, f.name ≠ c.name
  skipped : r.Skips c.value

/-- What is visible and does not begin a comment, perhaps behind blanks. -/
def Trails (rest : List Char) : Prop :=
  ∃ blanks c cs, rest = blanks ++ c :: cs ∧ (∀ b ∈ blanks, Document.isSpace b = true) ∧
    Document.isSpace c = false ∧ c ≠ '/'

/-- The marks behind a clause. -/
def stops : List Char := [',', ')']

/-- What is known of a reader: it goes on from one clause to the next, has nothing to give as soon as a clause is wrong,
and gives what it has in the end. -/
structure Lawful (r : Reader) (read : ByteArray → Option Settings) : Prop where
  /-- A structure may stand in parentheses without its name. -/
  opening (cs : List Char) : read (String.ofList ('(' :: cs)).toUTF8 = r.entry .empty cs
  /-- Fields come in any order. -/
  given {d : Draft} {c : Clause} {f : Field} {stop : Char} {cs : List Char} (sets : c.Sets f) (new : d.has f = false)
    (ends : stop ∈ stops) : r.entry d (c.text ++ stop :: cs) = r.behind (d.put f) (stop :: cs)
  /-- Fields that there are none of are skipped. -/
  skipped {d : Draft} {c : Clause} {stop : Char} {cs : List Char} (other : r.Other c) (ends : stop ∈ stops) :
    r.entry d (c.text ++ stop :: cs) = r.behind d (stop :: cs)
  /-- A field may not come twice, whatever its value is the second time. -/
  again {d : Draft} {f : Field} {cs : List Char} (old : d.has f = true) :
    r.entry d (f.name.toList ++ ':' :: cs) = none
  /-- A name must be one of those that there are, and a number must fit 64 bits. -/
  spoilt {d : Draft} {c : Clause} {stop : Char} {cs : List Char} (wrong : c.Spoilt) (ends : stop ∈ stops) :
    r.entry d (c.text ++ stop :: cs) = none
  /-- Clauses are separated by commas. -/
  comma (d : Draft) (cs : List Char) : r.behind d (',' :: ' ' :: cs) = r.entry d cs
  closing (d : Draft) (cs : List Char) : r.behind d (')' :: cs) = r.entry d (')' :: cs)
  /-- A field that did not come has its default. -/
  finished {d : Draft} {cs : List Char} (space : r.Space cs) : r.entry d (')' :: cs) = some d.settings
  /-- Nothing else may follow the structure. -/
  trailing {d : Draft} {cs : List Char} (more : ¬r.Space cs) : r.entry d (')' :: cs) = none
  blanks {cs : List Char} (blank : ∀ c ∈ cs, Document.isSpace c = true) : r.Space cs
  visible {cs : List Char} (trails : Trails cs) : ¬r.Space cs

end Reader

end Multihead.Settings
