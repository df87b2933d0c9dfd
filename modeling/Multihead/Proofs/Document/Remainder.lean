import Mathlib.Data.List.Infix
import Multihead.Document.Value
import Multihead.Proofs.Document.Tokens

/-! # What is left of a text
Whatever is read or left out, what remains is an end of the text. -/

set_option autoImplicit false

namespace Multihead.Document

variable {cs rest : List Char}

/-- What is left of a text is an end of it. -/
def LeavesEnd (skip : Skip) : Prop := ∀ {cs rest : List Char}, skip cs = some rest → rest <:+ cs

theorem suffix_of_cons {c : Char} (h : rest <:+ cs) : rest <:+ c :: cs := h.trans (List.suffix_cons c cs)

/-! ## Space and words -/

theorem skipGap_suffix (g : Gap) (h : skipGap g cs = some rest) : rest <:+ cs := by
  fun_induction skipGap g cs <;> simp_all [suffix_of_cons]

theorem space_suffix (h : space cs = some rest) : rest <:+ cs := skipGap_suffix .between h

theorem mark_suffix {c : Char} (h : mark c cs = some rest) : rest <:+ cs :=
  (List.suffix_cons c rest).trans (space_suffix (mark_eq_some_iff.1 h))

theorem after_eq_some {start : List Char} (h : after start cs = some rest) : cs = start ++ rest := by
  fun_induction after start cs <;> simp_all

theorem after_suffix {start : List Char} (h : after start cs = some rest) : rest <:+ cs :=
  ⟨start, (after_eq_some h).symm⟩

theorem keyword_suffix {word : String} (h : keyword word cs = some rest) : rest <:+ cs := by
  obtain ⟨left, found, h⟩ := Option.bind_eq_some_iff.1 h
  have := after_suffix found
  split at h
  · split at h
    · cases h
    · exact Option.some.inj h ▸ this
  · exact Option.some.inj h ▸ this

theorem anyKeyword_suffix {words : List String} (h : anyKeyword words cs = some rest) : rest <:+ cs := by
  obtain ⟨word, -, found⟩ := List.exists_of_findSome?_eq_some h
  exact keyword_suffix found

theorem name_suffix {word : List Char} (h : name cs = some (word, rest)) : rest <:+ cs := by
  obtain rfl | rfl := name_eq_some h
  · exact List.suffix_append word rest
  · exact suffix_of_cons (suffix_of_cons (List.suffix_append word rest))

theorem identifier_suffix {word : List Char} (h : identifier cs = some (word, rest)) : rest <:+ cs :=
  name_suffix (identifier_eq_some_iff.1 h).1

/-! ## Numbers -/

theorem sign_suffix (cs : List Char) : (sign cs).2 <:+ cs := by
  unfold sign
  split
  · exact List.suffix_cons _ _
  · exact List.suffix_cons _ _
  · exact List.suffix_rfl

theorem radix_suffix (cs : List Char) : (radix cs).2 <:+ cs := by
  unfold radix
  split
  · exact suffix_of_cons (List.suffix_cons _ _)
  · exact suffix_of_cons (List.suffix_cons _ _)
  · exact suffix_of_cons (List.suffix_cons _ _)
  · exact List.suffix_rfl

theorem magnitude_suffix {n : Nat} (h : magnitude cs = some (n, rest)) : rest <:+ cs := by
  unfold magnitude at h
  dsimp only at h
  split at h
  · cases h
  · cases h
  · obtain ⟨m, -, same⟩ := Option.bind_eq_some_iff.1 h
    obtain ⟨-, rfl⟩ := Prod.mk.inj (Option.some.inj same)
    exact (List.dropWhile_suffix _).trans (radix_suffix cs)

theorem width_suffix {w : Width} (h : width cs = some (w, rest)) : rest <:+ cs := by
  obtain ⟨v, -, h⟩ := List.exists_of_findSome?_eq_some h
  obtain ⟨left, found, same⟩ := Option.map_eq_some_iff.1 h
  obtain ⟨-, rfl⟩ := Prod.mk.inj same
  exact keyword_suffix found

theorem whole_suffix {n : Whole} (h : whole cs = some (n, rest)) : rest <:+ cs := by
  unfold whole at h
  rcases signed : sign cs with ⟨negative, unsigned⟩
  have unsigned_suffix : unsigned <:+ cs := by
    have := sign_suffix cs
    rwa [signed] at this
  rw [signed] at h
  obtain ⟨⟨m, left⟩, read, h⟩ := Option.bind_eq_some_iff.1 h
  have left_suffix := (magnitude_suffix read).trans unsigned_suffix
  dsimp only at h
  split at h
  · next found =>
    obtain ⟨-, rfl⟩ := Prod.mk.inj (Option.some.inj h)
    split at found
    · exact (width_suffix found).trans left_suffix
    · cases found
  · obtain ⟨-, rfl⟩ := Prod.mk.inj (Option.some.inj h)
    exact left_suffix

theorem skipFraction_suffix (h : skipFraction cs = some rest) : rest <:+ cs := by
  unfold skipFraction at h
  split at h
  · next found => exact Option.some.inj h ▸ anyKeyword_suffix found
  · obtain ⟨plain, -, h⟩ := Option.bind_eq_some_iff.1 h
    split at h
    · have digits := List.dropWhile_suffix (l := cs) isFractionPart
      obtain rfl := Option.some.inj h
      cases found : anyKeyword ["f32", "f64"] (cs.dropWhile isFractionPart) with
      | none => exact digits
      | some left => exact (anyKeyword_suffix found).trans digits
    · cases h

theorem skipNumber_suffix (h : skipNumber cs = some rest) : rest <:+ cs := by
  unfold skipNumber at h
  split at h
  · exact skipFraction_suffix h
  · split at h
    · next found =>
      split at h
      · exact Option.some.inj h ▸ whole_suffix found
      · exact skipFraction_suffix h
    · exact skipFraction_suffix h

/-! ## Quoted texts -/

theorem hexByte_suffix {b : UInt8} (h : hexByte cs = some (b, rest)) : rest <:+ cs := by
  unfold hexByte at h
  split at h
  · obtain ⟨high, -, h⟩ := Option.bind_eq_some_iff.1 h
    obtain ⟨low, -, h⟩ := Option.bind_eq_some_iff.1 h
    obtain ⟨-, rfl⟩ := Prod.mk.inj (Option.some.inj h)
    exact suffix_of_cons (List.suffix_cons _ _)
  · cases h

theorem completeCharacter_suffix {bytes : List UInt8} {n : Nat} (h : completeCharacter bytes n cs = some rest) :
    rest <:+ cs := by
  induction n generalizing bytes cs with
  | zero => simp [completeCharacter] at h
  | succ n ih =>
    unfold completeCharacter at h
    split at h
    · cases h
    · next same =>
      obtain ⟨⟨b, left⟩, read, h⟩ := Option.bind_eq_some_iff.1 h
      have byte := suffix_of_cons (c := '\\') (suffix_of_cons (c := 'x') (hexByte_suffix read))
      dsimp only at h
      split at h
      · exact Option.some.inj h ▸ byte
      · obtain rfl := Nat.succ.inj same
        exact (ih h).trans byte
    · cases h

theorem skipBytes_suffix {q : Quoting} {first : UInt8} (h : skipBytes q first cs = some rest) : rest <:+ cs := by
  unfold skipBytes at h
  split at h
  · exact Option.some.inj h ▸ List.suffix_rfl
  · cases q with
    | text => exact completeCharacter_suffix h
    | character => cases h
    | bytes => exact Option.some.inj h ▸ List.suffix_rfl
    | byte => exact Option.some.inj h ▸ List.suffix_rfl

theorem codePoint_suffix (h : codePoint cs = some rest) : rest <:+ cs := by
  obtain ⟨inner, opened, h⟩ := Option.bind_eq_some_iff.1 h
  obtain ⟨n, -, h⟩ := Option.bind_eq_some_iff.1 h
  split at h
  · cases h
  · split at h
    · exact (after_suffix h).trans ((List.drop_suffix _ _).trans (after_suffix opened))
    · cases h

theorem skipEscape_suffix {q : Quoting} (h : skipEscape q cs = some rest) : rest <:+ cs := by
  unfold skipEscape at h
  split at h
  · split at h
    · exact Option.some.inj h ▸ List.suffix_cons _ _
    · split at h
      · obtain ⟨⟨b, left⟩, read, h⟩ := Option.bind_eq_some_iff.1 h
        exact suffix_of_cons ((skipBytes_suffix h).trans (hexByte_suffix read))
      · split at h
        · exact suffix_of_cons (codePoint_suffix h)
        · cases h
  · cases h

theorem closeQuote_suffix {q : Quoting} {fuel : Nat} (h : closeQuote q fuel cs = .ok rest) : rest <:+ cs := by
  induction fuel generalizing cs with
  | zero => cases h
  | succ fuel ih =>
    unfold closeQuote at h
    split at h
    · cases h
    · cases h
    · next fuel' c left same =>
      obtain rfl := Nat.succ.inj same
      split at h
      · exact Except.ok.inj h ▸ List.suffix_cons _ _
      · split at h
        · split at h
          · split at h
            · next escaped => exact suffix_of_cons ((ih h).trans (skipEscape_suffix escaped))
            · cases h
          · cases h
        · exact suffix_of_cons (ih h)

theorem closeRaw_suffix {hashes : Nat} (h : closeRaw hashes cs = .ok rest) : rest <:+ cs := by
  induction cs with
  | nil => cases h
  | cons c cs ih =>
    unfold closeRaw at h
    split at h
    · exact suffix_of_cons (Except.ok.inj h ▸ List.drop_suffix _ _)
    · exact suffix_of_cons (ih h)

theorem rawRest_suffix (h : rawRest cs = .ok rest) : rest <:+ cs := by
  unfold rawRest at h
  split at h
  · next left same =>
    have opened : '"' :: left <:+ cs := same ▸ List.dropWhile_suffix _
    exact (closeRaw_suffix h).trans ((List.suffix_cons _ _).trans opened)
  · cases h

theorem textRest_suffix (h : textRest cs = .ok rest) : rest <:+ cs := by
  unfold textRest at h
  split at h
  · exact suffix_of_cons (closeQuote_suffix h)
  · exact suffix_of_cons (rawRest_suffix h)
  · cases h

theorem bytesRest_suffix (h : bytesRest cs = .ok rest) : rest <:+ cs := by
  unfold bytesRest at h
  split at h
  · exact suffix_of_cons (suffix_of_cons (closeQuote_suffix h))
  · exact suffix_of_cons (suffix_of_cons (rawRest_suffix h))
  · cases h

theorem skipCharacter_suffix {q : Quoting} (h : skipCharacter q cs = some rest) : rest <:+ cs := by
  unfold skipCharacter at h
  split at h
  · cases h
  · dsimp only at h
    split at h
    · obtain ⟨left, read, h⟩ := Option.bind_eq_some_iff.1 h
      exact suffix_of_cons ((after_suffix h).trans (skipEscape_suffix read))
    · split at h
      · cases h
      · exact suffix_of_cons (after_suffix h)

/-! ## Entries -/

section Entries
variable {β : Type} {entry : β → List Char → Option (β × List Char)} {close : Char}

/-- What is left after an entry is an end of the text, and so is what is left after several. -/
theorem foldEntries_suffix
    (each : ∀ {b b' cs rest}, entry b cs = some (b', rest) → rest <:+ cs) {fuel : Nat} {b b' : β}
    (h : foldEntries entry close fuel b cs = some (b', rest)) : rest <:+ cs := by
  induction fuel generalizing b cs with
  | zero => cases h
  | succ fuel ih =>
    unfold foldEntries at h
    obtain ⟨left, gap, h⟩ := Option.bind_eq_some_iff.1 h
    have from_left := space_suffix gap
    split at h
    · cases h
    · split at h
      · obtain ⟨-, rfl⟩ := Prod.mk.inj (Option.some.inj h)
        exact (List.suffix_cons _ _).trans from_left
      · obtain ⟨⟨b, left⟩, read, h⟩ := Option.bind_eq_some_iff.1 h
        obtain ⟨left', gap, h⟩ := Option.bind_eq_some_iff.1 h
        have from_left' := (space_suffix gap).trans ((each read).trans from_left)
        split at h
        · cases h
        · split at h
          · exact (ih h).trans ((List.suffix_cons _ _).trans from_left')
          · split at h
            · obtain ⟨-, rfl⟩ := Prod.mk.inj (Option.some.inj h)
              exact (List.suffix_cons _ _).trans from_left'
            · cases h

end Entries

theorem skipEntries_suffix {entry : Skip} {close : Char} (each : LeavesEnd entry) :
    LeavesEnd (skipEntries entry close) := by
  intro cs rest h
  obtain ⟨⟨u, left⟩, read, same⟩ := Option.map_eq_some_iff.1 h
  obtain rfl : left = rest := same
  refine foldEntries_suffix (fun h => ?_) read
  obtain ⟨left, found, same⟩ := Option.map_eq_some_iff.1 h
  obtain ⟨-, rfl⟩ := Prod.mk.inj same
  exact each found

theorem skipPair_suffix {key value : Skip} (hk : LeavesEnd key) (hv : LeavesEnd value) : LeavesEnd (skipPair key value) := by
  intro cs rest h
  obtain ⟨left, read, h⟩ := Option.bind_eq_some_iff.1 h
  obtain ⟨left, colon, h⟩ := Option.bind_eq_some_iff.1 h
  obtain ⟨left, gap, h⟩ := Option.bind_eq_some_iff.1 h
  exact (hv h).trans ((space_suffix gap).trans ((mark_suffix colon).trans (hk read)))

theorem skipIdentifier_suffix : LeavesEnd skipIdentifier := by
  intro cs rest h
  obtain ⟨⟨word, left⟩, read, rfl⟩ := Option.map_eq_some_iff.1 h
  exact identifier_suffix read

/-! ## Values -/

/-- The insides of a value are left out up to an end of the text. -/
structure Inside.LeavesEnds (inside : Inside) : Prop where
  payload : LeavesEnd inside.payload
  part : LeavesEnd inside.part
  wrappedPart : LeavesEnd inside.wrappedPart

theorem skipNamedParts_suffix {part : Skip} (each : LeavesEnd part) : LeavesEnd (skipNamedParts part) :=
  skipEntries_suffix (skipPair_suffix skipIdentifier_suffix each)

theorem skipParts_suffix {part : Skip} (each : LeavesEnd part) : LeavesEnd (skipParts part) := by
  intro cs rest h
  obtain ⟨left, -, h⟩ := Option.bind_eq_some_iff.1 h
  obtain ⟨named, -, h⟩ := Option.bind_eq_some_iff.1 h
  split at h
  · exact skipNamedParts_suffix each h
  · exact skipEntries_suffix each h

theorem closeWrapper_suffix : LeavesEnd closeWrapper := by
  intro cs rest h
  obtain ⟨left, gap, h⟩ := Option.bind_eq_some_iff.1 h
  split at h
  · exact (mark_suffix h).trans ((List.suffix_cons _ _).trans (space_suffix gap))
  · obtain rfl := Option.some.inj h
    exact (List.suffix_cons _ _).trans (space_suffix gap)
  · cases h

section Values
variable {f : Features} {inside : Option Inside}

theorem skipStructure_suffix (each : ∀ i ∈ inside, i.LeavesEnds) : LeavesEnd (skipStructure inside) := by
  intro cs rest h
  unfold skipStructure at h
  split at h
  · obtain ⟨i, there, h⟩ := Option.bind_eq_some_iff.1 h
    exact suffix_of_cons (skipParts_suffix (each i there).part h)
  · exact Option.some.inj h ▸ List.suffix_rfl

theorem skipWrapped_suffix {i : Inside} (each : i.LeavesEnds) : LeavesEnd (skipWrapped f i) := by
  have single {cs rest} (h : (i.payload cs).bind closeWrapper = some rest) : rest <:+ cs := by
    obtain ⟨left, read, h⟩ := Option.bind_eq_some_iff.1 h
    exact (closeWrapper_suffix h).trans (each.payload read)
  intro cs rest h
  unfold skipWrapped at h
  dsimp only at h
  split at h
  · obtain ⟨shape, -, h⟩ := Option.bind_eq_some_iff.1 h
    cases shape with
    | nothing => exact closeWrapper_suffix h
    | named => exact skipNamedParts_suffix each.wrappedPart h
    | several => exact skipEntries_suffix each.wrappedPart h
    | single => exact single h
  · exact single h

theorem skipOptional_suffix (each : ∀ i ∈ inside, i.LeavesEnds) : LeavesEnd (skipOptional f inside) := by
  intro cs rest h
  obtain ⟨i, there, h⟩ := Option.bind_eq_some_iff.1 h
  obtain ⟨left, gap, h⟩ := Option.bind_eq_some_iff.1 h
  split at h
  · obtain ⟨inner, gap', h⟩ := Option.bind_eq_some_iff.1 h
    have from_inner := (skipWrapped_suffix (each i there) h).trans (space_suffix gap')
    exact from_inner.trans ((List.suffix_cons _ _).trans (space_suffix gap))
  · split at h
    · exact ((each i there).payload h).trans (space_suffix gap)
    · cases h

theorem eq_ok_of_toOption {e : Except Fault (List Char)} (h : e.toOption = some rest) : e = .ok rest := by
  cases e with
  | error fault => cases h
  | ok left => exact congrArg Except.ok (Option.some.inj h)

theorem skipMarked_suffix (each : ∀ i ∈ inside, i.LeavesEnds) : LeavesEnd (skipMarked inside) := by
  intro cs rest h
  unfold skipMarked at h
  split at h
  · exact skipStructure_suffix each h
  · obtain ⟨i, there, h⟩ := Option.bind_eq_some_iff.1 h
    exact suffix_of_cons (skipEntries_suffix (each i there).part h)
  · obtain ⟨i, there, h⟩ := Option.bind_eq_some_iff.1 h
    exact suffix_of_cons (skipEntries_suffix (skipPair_suffix (each i there).part (each i there).part) h)
  · exact suffix_of_cons (skipCharacter_suffix h)
  · exact suffix_of_cons (suffix_of_cons (skipCharacter_suffix h))
  · exact textRest_suffix (eq_ok_of_toOption h)
  · exact textRest_suffix (eq_ok_of_toOption h)
  · exact bytesRest_suffix (eq_ok_of_toOption h)
  · split at h
    · exact skipNumber_suffix h
    · cases h
  · cases h

theorem skipWith_suffix (each : ∀ i ∈ inside, i.LeavesEnds) : LeavesEnd (skipWith f inside) := by
  intro cs rest h
  unfold skipWith at h
  split at h
  · next found => exact Option.some.inj h ▸ anyKeyword_suffix found
  · next found _ => exact (skipOptional_suffix each h).trans (keyword_suffix found)
  · next found _ _ => exact Option.some.inj h ▸ after_suffix found
  · next found _ _ _ =>
    obtain ⟨left, gap, h⟩ := Option.bind_eq_some_iff.1 h
    exact (skipStructure_suffix each h).trans ((space_suffix gap).trans (name_suffix found))
  · exact skipMarked_suffix each h

theorem tooDeep_suffix : LeavesEnd tooDeep := by
  intro cs rest h
  cases h

theorem skipValue_suffix : (levels : Nat) → LeavesEnd (skipValue f levels)
  | 0 => skipWith_suffix (by simp)
  | 1 => skipWith_suffix fun _ h => Option.some.inj h ▸ ⟨skipValue_suffix 0, tooDeep_suffix, tooDeep_suffix⟩
  | 2 => skipWith_suffix fun _ h => Option.some.inj h ▸ ⟨skipValue_suffix 1, skipValue_suffix 0, tooDeep_suffix⟩
  | n + 3 => skipWith_suffix fun _ h =>
    Option.some.inj h ▸ ⟨skipValue_suffix (n + 2), skipValue_suffix (n + 1), skipValue_suffix n⟩

end Values

end Multihead.Document
