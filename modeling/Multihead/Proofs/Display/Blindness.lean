import Multihead.Display.Assembly
import Multihead.Proofs.Display.Renewal

/-! # Blind to numbers
What a backend does is seen with the numbers of all outputs struck out, and of the state in which it ends only a face.
A backend is blind to numbers if two states with the same face, sent requests that differ in numbers only, cannot be
told apart in this way. A leaf is, if what it answers by has nothing to do with numbers: that it stores the numbers it is
sent does not show. -/

set_option autoImplicit false

namespace Multihead

open Multihead.Configuration (unnumbered)

/-! ## Requests -/

namespace Configuration

theorem unnumbered_unnumbered (conf : Configuration) : unnumbered (unnumbered conf) = unnumbered conf := by
  rw [unnumbered_eq_map, unnumbered_eq_map, List.map_map]
  rfl

theorem unnumbered_filter (conf : Configuration) (c : CardId) :
    unnumbered (conf.filter (·.card = c)) = (unnumbered conf).filter (·.card = c) := by
  rw [unnumbered_eq_map, unnumbered_eq_map, List.filter_map]
  rfl

theorem unnumbered_ofCards (conf : Configuration) (cs : List CardId) :
    unnumbered (conf.ofCards cs) = cs.flatMap fun c => unnumbered (conf.filter (·.card = c)) := by
  rw [unnumbered_eq_map, ofCards, List.map_flatMap]
  rfl

/-- The same outputs on each card and in the same order, but for their numbers. How the outputs of one card stand among
those of others is left open. -/
def SameOnCards (conf conf' : Configuration) : Prop :=
  ∀ c, unnumbered (conf.filter (·.card = c)) = unnumbered (conf'.filter (·.card = c))

theorem filter_of_not_mem_cards {conf : Configuration} {c : CardId} (absent : c ∉ conf.cards) :
    conf.filter (·.card = c) = [] := by
  rw [List.filter_eq_nil_iff]
  intro o ho same
  exact absent ((mem_cards conf c).2 ⟨o, ho, of_decide_eq_true same⟩)

/-- Cards that neither of them has need no comparison. -/
theorem sameOnCards_iff (conf conf' : Configuration) : SameOnCards conf conf' ↔
    ∀ c ∈ conf.cards ++ conf'.cards, unnumbered (conf.filter (·.card = c)) = unnumbered (conf'.filter (·.card = c)) := by
  refine ⟨fun same c _ => same c, fun same c => ?_⟩
  by_cases occurs : c ∈ conf.cards ++ conf'.cards
  · exact same c occurs
  · rw [List.mem_append, not_or] at occurs
    rw [filter_of_not_mem_cards occurs.1, filter_of_not_mem_cards occurs.2]

instance (conf conf' : Configuration) : Decidable (SameOnCards conf conf') :=
  decidable_of_iff _ (sameOnCards_iff conf conf').symm

theorem sameOnCards_of_unnumbered {conf conf' : Configuration} (same : unnumbered conf = unnumbered conf') :
    SameOnCards conf conf' := by
  intro c
  rw [unnumbered_filter, same, ← unnumbered_filter]

theorem SameOnCards.ofCards {conf conf' : Configuration} (same : SameOnCards conf conf') (cs : List CardId) :
    unnumbered (conf.ofCards cs) = unnumbered (conf'.ofCards cs) := by
  rw [unnumbered_ofCards, unnumbered_ofCards]
  exact List.flatMap_congr fun c _ => same c

end Configuration

namespace Adapter

theorem unnumbered_foldl_overwrite (conf held : Configuration) :
    unnumbered (conf.foldl overwrite held) = (unnumbered conf).foldl overwrite (unnumbered held) := by
  rw [foldl_overwrite_eq_map, foldl_overwrite_eq_map, Configuration.unnumbered_eq_map,
    Configuration.unnumbered_eq_map held, List.map_map, List.map_map]
  refine List.map_congr_left fun h _ => ?_
  have key : h.struck.key = h.key := rfl
  rw [Function.comp_apply, Function.comp_apply, key, Configuration.latest_unnumbered]
  cases Configuration.latest conf h.key <;> rfl

end Adapter

/-! ## Numbers struck out -/

namespace Event

def struck : Event → Event
  | apply adapter answer conf => apply adapter answer (unnumbered conf)
  | configure adapter answer conf => configure adapter answer (unnumbered conf)
  | other => other

end Event

def Slice.struck (s : Slice) : Slice := { s with outputs := unnumbered s.outputs }

def Call.struck {ρ : Type} (c : Call ρ) : Call ρ := { c with slice := c.slice.struck }

section
variable {α β : Type} (face : α → β)

def Configured.struck (r : Configured α) : Configured β := ⟨r.answer, face r.state, r.events.map Event.struck⟩

def Applied.struck (r : Applied α) : Applied β :=
  ⟨r.answer, face r.state, r.asked.map Event.struck, r.undone.map Event.struck⟩

end

/-- States with the same face show the same but for numbers, and do the same with requests that are the same but for
numbers. -/
structure Blind {α β : Type} [Backend α] (face : α → β) : Prop where
  shown : ∀ {a a' : α}, face a = face a' →
    unnumbered (Backend.configuration a) = unnumbered (Backend.configuration a')
  configure : ∀ {a a' : α} {conf conf' : Configuration}, face a = face a' → unnumbered conf = unnumbered conf' →
    (Backend.configure a conf).struck face = (Backend.configure a' conf').struck face
  apply : ∀ {a a' : α} {conf conf' : Configuration}, face a = face a' → unnumbered conf = unnumbered conf' →
    (Backend.apply a conf).struck face = (Backend.apply a' conf').struck face

/-! ## Leaves -/

/-- A leaf whose answers follow a script that has nothing to do with numbers. A mode-set that it does not carry out
leaves it as it was, and none changes how it stores. -/
class Leaf.Scripted (α : Type) [Backend α] [Leaf α] where
  Script : Type
  script : α → Script
  merges_configure : ∀ (a : α) (conf : Configuration), Leaf.merges (Backend.configure a conf).state = Leaf.merges a
  unset : ∀ (a : α) (conf : Configuration), (Backend.configure a conf).answer ≠ .ok () →
    Backend.configuration (Backend.configure a conf).state = Backend.configuration a
  configured : ∀ (a a' : α) (conf conf' : Configuration), script a = script a' → unnumbered conf = unnumbered conf' →
    (Backend.configure a conf).struck script = (Backend.configure a' conf').struck script
  applied : ∀ (a a' : α) (conf conf' : Configuration), script a = script a' → unnumbered conf = unnumbered conf' →
    (Backend.apply a conf).struck script = (Backend.apply a' conf').struck script

namespace Adapter

/-- All of an adapter but what it holds. -/
def bare (a : Adapter) : Adapter := { a with outputs := [] }

theorem cardOf_unnumbered (conf : Configuration) : cardOf (unnumbered conf) = cardOf conf := by
  cases conf <;> rfl

theorem configure_struck (a : Adapter) (conf : Configuration) :
    (a.configure conf).struck bare = (a.bare.configure (unnumbered conf)).struck bare := by
  have same : a.bare.modeSets = a.modeSets := rfl
  rw [configure, configure, same]
  cases a.modeSets.headD .accept <;>
    simp [Configured.struck, Event.struck, bare, store, Configuration.unnumbered_unnumbered]

theorem apply_struck (a : Adapter) (conf : Configuration) :
    (a.apply conf).struck bare = (a.bare.apply (unnumbered conf)).struck bare := by
  have same : a.bare.commits = a.commits := rfl
  rw [apply, apply, same, cardOf_unnumbered]
  cases a.commits.headD .accept <;>
    simp [Applied.struck, Event.struck, bare, store, Configuration.unnumbered_unnumbered]

end Adapter

instance : Leaf.Scripted Adapter where
  Script := Adapter
  script := Adapter.bare
  merges_configure a conf := by
    change (a.configure conf).state.merges = a.merges
    unfold Adapter.configure
    cases a.modeSets.headD .accept <;> rfl
  unset a conf failed := by
    change (a.configure conf).answer ≠ .ok () at failed
    change (a.configure conf).state.outputs = a.outputs
    unfold Adapter.configure at failed ⊢
    cases answer : a.modeSets.headD .accept with
    | accept =>
      simp only [answer] at failed
      exact absurd rfl failed
    | fail => rfl
  configured a a' conf conf' scripts requests := by
    change (a.configure conf).struck Adapter.bare = (a'.configure conf').struck Adapter.bare
    rw [a.configure_struck, scripts, requests, ← a'.configure_struck]
  applied a a' conf conf' scripts requests := by
    change (a.apply conf).struck Adapter.bare = (a'.apply conf').struck Adapter.bare
    rw [a.apply_struck, scripts, requests, ← a'.apply_struck]

/-- What can be seen of a leaf. -/
structure Leaf.Face (S : Type) where
  script : S
  merges : Bool
  held : Configuration
  deriving DecidableEq

namespace Leaf

variable {α : Type} [Backend α] [Leaf α] [Scripted α]

def face (a : α) : Face (Scripted.Script α) :=
  ⟨Scripted.script a, merges a, unnumbered (Backend.configuration a)⟩

theorem face_eq_iff (a a' : α) : face a = face a' ↔ Scripted.script a = Scripted.script a' ∧ merges a = merges a' ∧
    unnumbered (Backend.configuration a) = unnumbered (Backend.configuration a') := by
  rw [face, face, Face.mk.injEq]

/-- What a leaf stores is the same but for numbers. -/
theorem stored_congr {a a' : α} {conf conf' : Configuration} (faces : face a = face a')
    (requests : unnumbered conf = unnumbered conf') :
    unnumbered (if merges a then conf.foldl Adapter.overwrite (Backend.configuration a) else conf) =
      unnumbered (if merges a' then conf'.foldl Adapter.overwrite (Backend.configuration a') else conf') := by
  obtain ⟨-, merges, held⟩ := (face_eq_iff a a').1 faces
  rw [merges]
  split
  · rw [Adapter.unnumbered_foldl_overwrite, requests, held, Adapter.unnumbered_foldl_overwrite]
  · exact requests

theorem face_configure [Settable α] {a a' : α} {conf conf' : Configuration} (faces : face a = face a')
    (requests : unnumbered conf = unnumbered conf')
    (scripts : Scripted.script (Backend.configure a conf).state = Scripted.script (Backend.configure a' conf').state)
    (answers : (Backend.configure a conf).answer = (Backend.configure a' conf').answer) :
    face (Backend.configure a conf).state = face (Backend.configure a' conf').state := by
  obtain ⟨-, merges, held⟩ := (face_eq_iff a a').1 faces
  rw [face_eq_iff, Scripted.merges_configure, Scripted.merges_configure]
  refine ⟨scripts, merges, ?_⟩
  by_cases ok : (Backend.configure a conf).answer = .ok ()
  · rw [Settable.configured a conf ok, Settable.configured a' conf' (answers ▸ ok)]
    exact stored_congr faces requests
  · rw [Scripted.unset a conf ok, Scripted.unset a' conf' (answers ▸ ok), held]

theorem face_apply {a a' : α} {conf conf' : Configuration} (faces : face a = face a')
    (requests : unnumbered conf = unnumbered conf')
    (scripts : Scripted.script (Backend.apply a conf).state = Scripted.script (Backend.apply a' conf').state)
    (answers : (Backend.apply a conf).answer = (Backend.apply a' conf').answer) :
    face (Backend.apply a conf).state = face (Backend.apply a' conf').state := by
  obtain ⟨-, merges, held⟩ := (face_eq_iff a a').1 faces
  rw [face_eq_iff, merges_apply, merges_apply]
  refine ⟨scripts, merges, ?_⟩
  by_cases ok : (Backend.apply a conf).answer = .ok true
  · rw [accepted a conf ok, accepted a' conf' (answers ▸ ok)]
    exact stored_congr faces requests
  · rw [refused a conf ok, refused a' conf' (answers ▸ ok), held]

theorem blind [Settable α] : Blind (face : α → Face (Scripted.Script α)) where
  shown faces := ((face_eq_iff _ _).1 faces).2.2
  configure {a a' conf conf'} faces requests := by
    have same := Scripted.configured a a' conf conf' ((face_eq_iff a a').1 faces).1 requests
    simp only [Configured.struck, Configured.mk.injEq] at same ⊢
    obtain ⟨answers, scripts, events⟩ := same
    exact ⟨answers, face_configure faces requests scripts answers, events⟩
  apply {a a' conf conf'} faces requests := by
    have same := Scripted.applied a a' conf conf' ((face_eq_iff a a').1 faces).1 requests
    simp only [Applied.struck, Applied.mk.injEq] at same ⊢
    obtain ⟨answers, scripts, events⟩ := same
    exact ⟨answers, face_apply faces requests scripts answers, events⟩

end Leaf

end Multihead
