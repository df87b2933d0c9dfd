import Multihead.Proofs.Settings.Written
import Multihead.Settings.Location

/-! # Read whole or not at all
What a file of settings gives if its reader keeps the laws: the fields that its text gives, each over its default, if
the text is well formed from its start to its end, and nothing but defaults otherwise, no matter how much of it could
be read. -/

set_option autoImplicit false

namespace Multihead.Settings

/-! ## Fields -/

theorem put_fields (s : Settings) (g h : Field) :
    h ∈ (Field.put s g).fields ↔ h = g ∨ h.name ≠ g.name ∧ h ∈ s.fields := by
  cases g <;> cases h <;> simp [Field.put, fields, Field.name]

/-- The fields that were given are as given, and each of the others is as it was, on its own. -/
theorem mem_fields_foldl_put (s : Settings) {fs : List Field} (distinct : (fs.map Field.name).Nodup) (g : Field) :
    g ∈ (fs.foldl Field.put s).fields ↔ g ∈ fs ∨ g.name ∉ fs.map Field.name ∧ g ∈ s.fields := by
  induction fs generalizing s with
  | nil => simp
  | cons h fs ih =>
    rw [List.map_cons, List.nodup_cons] at distinct
    have other : g = h → g.name ∉ fs.map Field.name := fun same => same ▸ distinct.1
    rw [List.foldl_cons, ih _ distinct.2, put_fields, List.map_cons, List.mem_cons, List.mem_cons, not_or]
    tauto

/-! ## Texts -/

/-- Clauses with a comma between any two, and the closing parenthesis, with something behind it. -/
def closed (cs : List Clause) (rest : List Char) : List Char :=
  [',', ' '].intercalate (cs.map Clause.text) ++ ')' :: rest

/-- Clauses with a comma behind each, and then something else. -/
def begun (cs : List Clause) (rest : List Char) : List Char := (cs.flatMap fun c => c.text ++ [',', ' ']) ++ rest

theorem begun_cons (c : Clause) (cs : List Clause) (rest : List Char) :
    begun (c :: cs) rest = c.text ++ ',' :: ' ' :: begun cs rest := by
  simp [begun]

theorem write_eq (fs : List Field) : write fs = String.ofList ('(' :: closed (fs.map Field.clause) []) := by
  rw [closed, List.map_map]
  rfl

/-- The clauses give these fields; those that are left out give none. -/
inductive Reader.Gives (r : Reader) : List Clause → List Field → Prop
  | nil : Gives r [] []
  | given {c f cs fs} (sets : c.Sets f) (others : Gives r cs fs) : Gives r (c :: cs) (f :: fs)
  | skipped {c cs fs} (other : r.Other c) (others : Gives r cs fs) : Gives r (c :: cs) fs

/-- What stands here cannot be read on after these fields. -/
inductive Spoils (fs : List Field) : List Char → Prop
  /-- A field of one of these names. -/
  | again {f : Field} {rest} (known : f.name ∈ fs.map Field.name) : Spoils fs (f.name.toList ++ ':' :: rest)
  /-- A value that the field cannot have. -/
  | wrong {c : Clause} {stop rest} (spoilt : c.Spoilt) (ends : stop ∈ Reader.stops) : Spoils fs (c.text ++ stop :: rest)

theorem gives_clauses (r : Reader) (fs : List Field) : r.Gives (fs.map Field.clause) fs := by
  induction fs with
  | nil => exact .nil
  | cons f fs ih => exact .given f.clause_sets ih

section Runs
variable {r : Reader} {read : ByteArray → Option Settings} {cs : List Clause} {fs : List Field} {c : Clause} {f : Field}
  {d : Draft} {stop : Char} {rest : List Char}

/-- One clause that gives a field, whether or not it was read before. -/
theorem entry_given (lawful : r.Lawful read) (sets : c.Sets f) (ends : stop ∈ Reader.stops) :
    r.entry d (c.text ++ stop :: rest) = (d.take (some f)).bind fun d => r.behind d (stop :: rest) := by
  by_cases old : d.has f = true
  · have twice : d.take (some f) = none := if_pos old
    rw [c.text_append, sets.name_eq, lawful.again old, twice, Option.bind_none]
  · have taken : d.take (some f) = some (d.put f) := if_neg old
    rw [lawful.given sets (Bool.eq_false_iff.2 old) ends, taken, Option.bind_some]

theorem entry_begun (lawful : r.Lawful read) (gives : r.Gives cs fs) (d : Draft) (rest : List Char) :
    r.entry d (begun cs rest) = (d.takeAll fs).bind fun d => r.entry d rest := by
  induction gives generalizing d with
  | nil => rfl
  | given sets others ih =>
    rw [begun_cons, entry_given lawful sets List.mem_cons_self, Draft.takeAll, Option.bind_assoc]
    exact congrArg _ (funext fun d => (lawful.comma d _).trans (ih d))
  | skipped other others ih =>
    rw [begun_cons, lawful.skipped other List.mem_cons_self, lawful.comma, ih]

/-- Behind the first of several clauses stands a mark, and then it goes on with the others. -/
theorem closed_cons (lawful : r.Lawful read) (c : Clause) (cs : List Clause) (rest : List Char) :
    ∃ stop ∈ Reader.stops, ∃ more, closed (c :: cs) rest = c.text ++ stop :: more ∧
      ∀ d, r.behind d (stop :: more) = r.entry d (closed cs rest) := by
  cases cs with
  | nil => exact ⟨')', by decide, rest, by simp [closed], fun d => lawful.closing d rest⟩
  | cons c' cs =>
    refine ⟨',', by decide, ' ' :: closed (c' :: cs) rest, ?_, fun d => lawful.comma d _⟩
    simp [closed]

theorem entry_closed (lawful : r.Lawful read) (gives : r.Gives cs fs) (d : Draft) (rest : List Char) :
    r.entry d (closed cs rest) = (d.takeAll fs).bind fun d => r.entry d (')' :: rest) := by
  induction gives generalizing d with
  | nil => rfl
  | @given c f cs fs sets others ih =>
    obtain ⟨stop, ends, more, parts, onward⟩ := closed_cons lawful c cs rest
    rw [parts, entry_given lawful sets ends, Draft.takeAll, Option.bind_assoc]
    exact congrArg _ (funext fun d => (onward d).trans (ih d))
  | @skipped c cs fs other others ih =>
    obtain ⟨stop, ends, more, parts, onward⟩ := closed_cons lawful c cs rest
    rw [parts, lawful.skipped other ends, onward, ih]

theorem entry_spoilt (lawful : r.Lawful read) (taken : Draft.empty.takeAll fs = some d) (spoils : Spoils fs rest) :
    r.entry d rest = none := by
  cases spoils with
  | @again f rest known =>
    obtain ⟨g, hg, same⟩ := List.mem_map.1 known
    obtain ⟨-, rfl⟩ := Draft.takeAll_eq_some_iff.1 taken
    exact lawful.again (Draft.has_congr _ same ▸ Draft.has_foldl_put _ (.inl hg))
  | wrong spoilt ends => exact lawful.spoilt spoilt ends

/-! ## Files -/

theorem read_closed (lawful : r.Lawful read) (gives : r.Gives cs fs) (rest : List Char) :
    read (String.ofList ('(' :: closed cs rest)).toUTF8 =
      (Draft.empty.takeAll fs).bind fun d => r.entry d (')' :: rest) :=
  (lawful.opening _).trans (entry_closed lawful gives .empty rest)

theorem read_of_space (lawful : r.Lawful read) (gives : r.Gives cs fs) (distinct : (fs.map Field.name).Nodup)
    (space : r.Space rest) : read (String.ofList ('(' :: closed cs rest)).toUTF8 = some (ofFields fs) := by
  obtain ⟨d, taken, settings⟩ := (Draft.takeAll_empty fs).1 distinct
  rw [read_closed lawful gives, taken, Option.bind_some, lawful.finished space, settings]

theorem read_of_twice (lawful : r.Lawful read) (gives : r.Gives cs fs) (twice : ¬(fs.map Field.name).Nodup) :
    read (String.ofList ('(' :: closed cs rest)).toUTF8 = none := by
  rw [read_closed lawful gives, (Draft.takeAll_empty fs).2 twice, Option.bind_none]

theorem read_of_more (lawful : r.Lawful read) (gives : r.Gives cs fs) (more : ¬r.Space rest) :
    read (String.ofList ('(' :: closed cs rest)).toUTF8 = none := by
  rw [read_closed lawful gives]
  exact Option.bind_eq_none_iff.2 fun d _ => lawful.trailing more

theorem read_of_spoilt (lawful : r.Lawful read) (gives : r.Gives cs fs) (spoils : Spoils fs rest) :
    read (String.ofList ('(' :: begun cs rest)).toUTF8 = none := by
  rw [lawful.opening, entry_begun lawful gives]
  exact Option.bind_eq_none_iff.2 fun d taken => entry_spoilt lawful taken spoils

end Runs

/-- A file has the settings that its text gives as a whole, or else the defaults. -/
theorem files_are_read_whole_or_not_at_all (host : Host ByteArray) (r : Reader) (lawful : r.Lawful host.read)
    (path text : String) (file : host.look path = .file text.toUTF8) :
    (∀ fs : List Field, (fs.map Field.name).Nodup → text = write fs →
      host.config (some path) = ofFields fs ∧
      ∀ g, g ∈ (ofFields fs).fields ↔ g ∈ fs ∨ g.name ∉ fs.map Field.name ∧ g ∈ ({} : Settings).fields) ∧
    (∀ cs fs rest, r.Gives cs fs → text = String.ofList ('(' :: closed cs rest) →
      ((fs.map Field.name).Nodup → r.Space rest → host.config (some path) = ofFields fs) ∧
      (¬(fs.map Field.name).Nodup → host.config (some path) = {}) ∧
      (¬r.Space rest → host.config (some path) = {}) ∧
      (Reader.Trails rest → host.config (some path) = {})) ∧
    (∀ cs fs rest, r.Gives cs fs → text = String.ofList ('(' :: begun cs rest) → Spoils fs rest →
      host.config (some path) = {}) ∧
    (host.read text.toUTF8 = none → host.config (some path) = {}) := by
  have found : host.config (some path) = (host.read text.toUTF8).getD {} := by
    rw [Host.config, file, Entry.settings]
  have whole {s : Settings} (read : host.read text.toUTF8 = some s) : host.config (some path) = s := by
    rw [found, read]
    rfl
  have nothing (unread : host.read text.toUTF8 = none) : host.config (some path) = {} := by
    rw [found, unread]
    rfl
  refine ⟨fun fs distinct written => ⟨whole ?_, fun g => mem_fields_foldl_put {} distinct g⟩, ?_, ?_, nothing⟩
  · rw [written, write_eq]
    exact read_of_space lawful (gives_clauses r fs) distinct (lawful.blanks (List.forall_mem_nil _))
  · rintro cs fs rest gives rfl
    exact ⟨fun distinct space => whole (read_of_space lawful gives distinct space),
      fun twice => nothing (read_of_twice lawful gives twice), fun more => nothing (read_of_more lawful gives more),
      fun trails => nothing (read_of_more lawful gives (lawful.visible trails))⟩
  · rintro cs fs rest gives rfl spoils
    exact nothing (read_of_spoilt lawful gives spoils)

/-- A host with a file of this text wherever one looks. -/
def holding (text : String) : Host ByteArray := ⟨none, fun _ => .file text.toUTF8, ofBytes?⟩

theorem skips_unit : written.Skips ['(', ')'] := by
  intro stop ends cs
  refine ⟨Document.space_of_solid rfl (by decide), ?_⟩
  rfl

theorem clone_files :
    written.Lawful ofBytes? ∧
    (holding "(initial_layout: Clone)").config (some "") = { initialLayout := .clone } ∧
    (holding "(scale: (), initial_layout: Clone)").config (some "") = { initialLayout := .clone } ∧
    (holding "(initial_layout: Clone) x").config (some "") = {} ∧
    (holding "(initial_layout: Clone, initial_layout: Single)").config (some "") = {} ∧
    (holding "(initial_layout: Clone, bypass: Perhaps)").config (some "") = {} ∧
    (holding "(initial_layout: Clone, bypass_render_budget_ms: 18446744073709551616)").config (some "") = {} := by
  have files (text : String) := files_are_read_whole_or_not_at_all (holding text) written written_lawful "" text rfl
  have clone : written.Gives [(Field.initialLayout .clone).clause] [.initialLayout .clone] :=
    gives_clauses written [.initialLayout .clone]
  have scale : written.Other ⟨"scale", ['(', ')']⟩ :=
    ⟨by decide, fun f => by cases f <;> simp [Field.name], skips_unit⟩
  refine ⟨written_lawful, ((files _).1 [.initialLayout .clone] (by decide) rfl).1, ?_, ?_, ?_, ?_, ?_⟩
  · exact ((files _).2.1 _ _ [] (.skipped scale clone) rfl).1 (by decide) rfl
  · exact ((files _).2.1 _ _ [' ', 'x'] clone rfl).2.2.2 ⟨[' '], 'x', [], rfl, List.forall_mem_singleton.2 rfl, rfl,
      by decide⟩
  · refine (files _).2.2.1 _ _ "initial_layout: Single)".toList clone rfl ?_
    exact @Spoils.again _ (.initialLayout .single) " Single)".toList (List.mem_singleton.2 rfl)
  · refine (files _).2.2.1 _ _ "bypass: Perhaps)".toList clone rfl ?_
    refine @Spoils.wrong _ ⟨"bypass", "Perhaps".toList⟩ ')' [] (.unknownOption (by decide) ?_) (by decide)
    intro o
    cases o <;> decide
  · refine (files _).2.2.1 _ _ "bypass_render_budget_ms: 18446744073709551616)".toList clone rfl ?_
    refine @Spoils.wrong _ ⟨"bypass_render_budget_ms", "18446744073709551616".toList⟩ ')' [] ?_ (by decide)
    exact .tooLarge (.inr rfl) ⟨by decide, List.all_eq_true.1 rfl, rfl⟩ (Nat.le_refl _)

end Multihead.Settings
