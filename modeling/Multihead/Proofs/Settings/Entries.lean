import Multihead.Proofs.Document.Remainder
import Multihead.Proofs.Settings.Laws
import Multihead.Settings.Reader

/-! # Reading entry by entry
One turn of the loop that reads the entries of a structure, and that the loop has fuel enough: what it gives depends on
the text alone. -/

set_option autoImplicit false

namespace Multihead.Settings

open Document

/-! ## One entry -/

/-- Reads the value of a field of one kind. -/
def valueOf {α : Type} (make : α → Field) (read : List Char → Option (α × List Char)) (cs : List Char) :
    Option (Option Field × List Char) :=
  (read cs).map fun (a, rest) => (some (make a), rest)

/-- Reads the value of the field with this name; one of another name gives nothing. -/
def said (f : Features) (field : String) (cs : List Char) : Option (Option Field × List Char) :=
  match field with
  | "bypass" => valueOf Field.bypass bypassOption cs
  | "initial_layout" => valueOf Field.initialLayout layout cs
  | "composite_render_budget_ms" => valueOf Field.compositeBudget number cs
  | "bypass_render_budget_ms" => valueOf Field.bypassBudget number cs
  | _ => (skipValue f (depthLimit - 2) cs).map (none, ·)

/-- Reads the name of a field and its colon, with the space around them. -/
def label (cs : List Char) : Option (String × List Char) := do
  let (word, rest) ← identifier (← space cs)
  return (String.ofList word, ← space (← mark ':' rest))

/-- Reads an entry, with the space before it. -/
def entry (f : Features) (cs : List Char) : Option (Option Field × List Char) :=
  (label cs).bind fun (name, rest) => said f name rest

section Entry
variable {f : Features} {cs rest : List Char}

theorem once_eq {α : Type} (d : Draft) (before : Option α) (read : List Char → Option (α × List Char))
    (make : α → Field) (has : ∀ a, d.has (make a) = before.isSome) (cs : List Char) :
    once before read (fun a => d.put (make a)) cs =
      (valueOf make read cs).bind fun (o, rest) => (d.take o).map (·, rest) := by
  unfold valueOf
  cases h : read cs with
  | none => cases before <;> simp [once, h]
  | some found => cases before <;> simp [once, h, Draft.take, has]

theorem value_eq (f : Features) (d : Draft) (name : String) (cs : List Char) :
    value f d name cs = (said f name cs).bind fun (o, rest) => (d.take o).map (·, rest) := by
  unfold value said
  split
  · exact once_eq d d.bypass bypassOption Field.bypass (fun _ => rfl) cs
  · exact once_eq d d.initialLayout layout Field.initialLayout (fun _ => rfl) cs
  · exact once_eq d d.compositeBudget number Field.compositeBudget (fun _ => rfl) cs
  · exact once_eq d d.bypassBudget number Field.bypassBudget (fun _ => rfl) cs
  · cases skipValue f (depthLimit - 2) cs <;> simp [Draft.take]

/-- What is read of an entry does not depend on what was read before, but for what is given twice. -/
theorem field_eq (d : Draft) (gap : space cs = some rest) :
    field f d rest = (entry f cs).bind fun (o, rest) => (d.take o).map (·, rest) := by
  rw [entry, label, gap, field]
  simp only [value_eq, Option.bind_eq_bind, Option.bind_some, Option.bind_assoc, Option.pure_def]

theorem choice_suffix {α : Type} {values : List α} {name : α → String} {a : α}
    (h : choice values name cs = some (a, rest)) : rest <:+ cs := by
  obtain ⟨⟨word, left⟩, read, h⟩ := Option.bind_eq_some_iff.1 h
  obtain ⟨b, -, same⟩ := Option.bind_eq_some_iff.1 h
  obtain ⟨-, rfl⟩ := Prod.mk.inj (Option.some.inj same)
  exact identifier_suffix read

theorem number_suffix {n : UInt64} (h : number cs = some (n, rest)) : rest <:+ cs := by
  obtain ⟨⟨w, left⟩, read, h⟩ := Option.bind_eq_some_iff.1 h
  obtain ⟨m, -, same⟩ := Option.bind_eq_some_iff.1 h
  obtain ⟨-, rfl⟩ := Prod.mk.inj (Option.some.inj same)
  exact whole_suffix read

theorem valueOf_suffix {α : Type} {make : α → Field} {read : List Char → Option (α × List Char)} {o : Option Field}
    (each : ∀ {a rest}, read cs = some (a, rest) → rest <:+ cs) (h : valueOf make read cs = some (o, rest)) :
    rest <:+ cs := by
  obtain ⟨⟨a, left⟩, found, same⟩ := Option.map_eq_some_iff.1 h
  obtain ⟨-, rfl⟩ := Prod.mk.inj same
  exact each found

theorem said_suffix {field : String} {o : Option Field} (h : said f field cs = some (o, rest)) : rest <:+ cs := by
  unfold said at h
  split at h
  · exact valueOf_suffix choice_suffix h
  · exact valueOf_suffix choice_suffix h
  · exact valueOf_suffix number_suffix h
  · exact valueOf_suffix number_suffix h
  · obtain ⟨left, read, same⟩ := Option.map_eq_some_iff.1 h
    obtain ⟨-, rfl⟩ := Prod.mk.inj same
    exact skipValue_suffix _ read

theorem label_suffix {name : String} (h : label cs = some (name, rest)) : rest <:+ cs := by
  obtain ⟨left, gap, h⟩ := Option.bind_eq_some_iff.1 h
  obtain ⟨⟨word, left⟩, read, h⟩ := Option.bind_eq_some_iff.1 h
  obtain ⟨left, colon, h⟩ := Option.bind_eq_some_iff.1 h
  obtain ⟨left, gap', same⟩ := Option.bind_eq_some_iff.1 h
  obtain ⟨-, rfl⟩ := Prod.mk.inj (Option.some.inj same)
  have from_name := (mark_suffix colon).trans ((identifier_suffix read).trans (space_suffix gap))
  exact (space_suffix gap').trans from_name

theorem entry_suffix {o : Option Field} (h : entry f cs = some (o, rest)) : rest <:+ cs := by
  obtain ⟨⟨name, left⟩, labelled, h⟩ := Option.bind_eq_some_iff.1 h
  exact (said_suffix h).trans (label_suffix labelled)

/-- No entry begins with a mark. -/
theorem label_of_mark {c : Char} (no_name : identifier (c :: rest) = none) (h : mark c cs = some rest) :
    label cs = none := by
  rw [label, mark_eq_some_iff.1 h, Option.bind_eq_bind, Option.bind_some, no_name]
  rfl

end Entry

/-! ## Several entries -/

section Entries
variable {f : Features} {cs rest : List Char} {d : Draft} {n m : Nat}

theorem length_lt_of_mark {c : Char} (h : mark c cs = some rest) : rest.length < cs.length :=
  (space_suffix (mark_eq_some_iff.1 h)).length_le

theorem mark_congr {c : Char} {ds : List Char} (same : space cs = space ds) : mark c cs = mark c ds := by
  rw [mark, mark, same]

theorem entry_congr {ds : List Char} (same : space cs = space ds) : entry f cs = entry f ds := by
  rw [entry, entry, label, label, same]

/-- What the reader does after an entry: it goes on behind a comma, or ends behind the closing parenthesis. -/
def onward (f : Features) (fuel : Nat) (d : Draft) (cs : List Char) : Option (Draft × List Char) :=
  match mark ',' cs with
  | some rest => foldEntries (field f) ')' fuel d rest
  | none => (mark ')' cs).map (d, ·)

theorem onward_eq (f : Features) (fuel : Nat) (d : Draft) (cs : List Char) :
    (do match ← space cs with
      | [] => none
      | c :: rest =>
        if c = ',' then foldEntries (field f) ')' fuel d rest
        else if c = ')' then some (d, rest)
        else none) = onward f fuel d cs := by
  unfold onward mark
  cases space cs with
  | none => rfl
  | some left =>
    cases left with
    | nil => rfl
    | cons c left =>
      by_cases comma : c = ','
      · simp [comma]
      · by_cases closes : c = ')' <;> simp [comma, closes]

/-- One turn of the reader. -/
theorem foldEntries_succ (f : Features) (fuel : Nat) (d : Draft) (cs : List Char) :
    foldEntries (field f) ')' (fuel + 1) d cs =
      match mark ')' cs with
      | some rest => some (d, rest)
      | none => (entry f cs).bind fun (o, rest) => (d.take o).bind fun d => onward f fuel d rest := by
  rw [foldEntries]
  cases gap : space cs with
  | none => simp [mark, entry, label, gap]
  | some left =>
    cases left with
    | nil =>
      have no_name : identifier [] = none := rfl
      simp [mark, entry, label, gap, no_name]
    | cons c left =>
      by_cases closes : c = ')'
      · simp [mark, gap, closes]
      · simp only [mark, gap, closes, field_eq d gap, Option.bind_eq_bind, Option.bind_some, if_false,
          Option.bind_assoc, Option.bind_map]
        refine congrArg _ (funext fun found => congrArg _ (funext fun d => ?_))
        exact onward_eq f fuel d found.2

/-- Any fuel that is not shorter than the text is enough. -/
theorem foldEntries_fuel (hn : cs.length ≤ n) (hm : cs.length ≤ m) :
    foldEntries (field f) ')' n d cs = foldEntries (field f) ')' m d cs := by
  induction n generalizing m d cs with
  | zero =>
    obtain rfl := List.length_eq_zero_iff.1 (Nat.le_zero.1 hn)
    cases m with
    | zero => rfl
    | succ m => rw [foldEntries_succ]; rfl
  | succ n ih =>
    cases m with
    | zero =>
      obtain rfl := List.length_eq_zero_iff.1 (Nat.le_zero.1 hm)
      rw [foldEntries_succ]
      rfl
    | succ m =>
      rw [foldEntries_succ, foldEntries_succ]
      cases read : entry f cs with
      | none => rfl
      | some found =>
        obtain ⟨o, left⟩ := found
        have same (e : Draft) : onward f n e left = onward f m e left := by
          unfold onward
          cases comma : mark ',' left with
          | none => rfl
          | some next =>
            have := length_lt_of_mark comma
            have := (entry_suffix read).length_le
            exact ih (by omega) (by omega)
        simp only [Option.bind_some, same]

end Entries

end Multihead.Settings
