import Multihead.Display.Assembly
import Multihead.Proofs.Display.Dispatch
import Multihead.Proofs.Display.Poisoning

/-! # The card that an error names
When a member refuses its mode-set, the error names the first card that the member has at the time. This is a card of
an output that the member was asked for if the request holds one of that card, and no member before it has the card; a
member that has other cards as well may have refused only those. -/

set_option autoImplicit false

namespace Multihead

/-! ## Slices by their place -/

theorem Slice.getElem?_shares (conf : Configuration) (earlier : List CardId) (owners : List (List CardId)) (i : Nat) :
    (shares conf earlier owners)[i]? = owners[i]?.map fun mine =>
      ofOutputs mine (conf.ofCards (mine.filter (· ∉ earlier ++ (owners.take i).flatten))) := by
  induction owners generalizing earlier i with
  | nil => simp [shares]
  | cons mine owners ih =>
    cases i with
    | zero => simp [shares]
    | succ i => simp [shares, ih]

namespace Cluster

open Multihead.Configuration (cards)

variable {α : Type} [Backend α]

theorem outputs_of_slice {g : Cluster α} {conf : Configuration} {k : Nat} {s : Slice}
    (slice : (g.slices conf)[k]? = some (some s)) : s.outputs = g.due conf k ∧ s.outputs ≠ [] := by
  rw [slices_eq_shares, Slice.getElem?_shares, Option.map_eq_some_iff] at slice
  obtain ⟨mine, own, outputs⟩ := slice
  obtain ⟨-, same, nonempty⟩ := (Slice.ofOutputs_eq_some_iff _ _ _).1 outputs
  rw [← same]
  refine ⟨?_, nonempty⟩
  rw [due, own, Option.getD_some, List.nil_append]

/-! ## Refusals -/

/-- The call that is refused decides the answer. -/
theorem configureFrom_refused (k : Nat) (ms : List α) (ss : List (Option Slice))
    (c : Call (Except ConfigureError Unit)) (called : c ∈ (configureFrom k ms ss).calls) (cause : ConfigureError)
    (refused : c.reply = .error cause) :
    (configureFrom k ms ss).answer = .error (.outputsOf c.slice.card cause) ∧
      ∃ i m, c.member = k + i ∧ ms[i]? = some m ∧ ss[i]? = some (some c.slice) ∧
        (Backend.configure m c.slice.outputs).answer = .error cause := by
  induction ms generalizing k ss with
  | nil => simp [configureFrom_nil] at called
  | cons m ms ih =>
    have later : ∀ rest (s : Option Slice), c ∈ (configureFrom (k + 1) ms rest).calls →
        (configureFrom (k + 1) ms rest).answer = .error (.outputsOf c.slice.card cause) ∧
          ∃ i m', c.member = k + i ∧ (m :: ms)[i]? = some m' ∧ (s :: rest)[i]? = some (some c.slice) ∧
            (Backend.configure m' c.slice.outputs).answer = .error cause := by
      intro rest s called
      obtain ⟨answer, i, m', place, member, slice, own⟩ := ih (k + 1) rest called
      exact ⟨answer, i + 1, m', by omega, member, slice, own⟩
    match ss with
    | [] => simp [configureFrom_nil_slices] at called
    | none :: rest => exact later rest none called
    | some s :: rest =>
      cases answer : (Backend.configure m s.outputs).answer with
      | ok =>
        rw [configureFrom_accepted k m ms s rest answer] at called ⊢
        rcases List.mem_cons.1 called with rfl | called
        · cases refused
        · exact later rest (some s) called
      | error e =>
        rw [configureFrom_failed k m ms s rest e answer] at called ⊢
        obtain rfl := List.mem_singleton.1 called
        obtain rfl : e = cause := Except.error.inj refused
        exact ⟨rfl, 0, m, rfl, rfl, rfl, answer⟩

/-- When a member refuses its mode-set, the first card that it has is named. The member was asked for outputs of this card
if and only if the request holds some, and no member before it has the card, too. With one card it always was. -/
theorem named_card_asked_for_iff (g : Cluster α) (conf : Configuration) (usable : g.incomplete = none)
    (c : Call (Except ConfigureError Unit)) (called : c ∈ (g.modeSet conf).calls) (cause : ConfigureError)
    (refused : c.reply = .error cause) :
    ∃ card m, (g.configure conf).answer = .error (.outputsOf card cause) ∧ g.members[c.member]? = some m ∧
      (Backend.configure m c.slice.outputs).answer = .error cause ∧
      (cards (Backend.configuration m)).head? = some card ∧ c.slice.outputs ≠ [] ∧
      (∀ o, o ∈ c.slice.outputs ↔ o ∈ conf ∧ g.FirstOwner o.card c.member) ∧
      ((∃ o ∈ c.slice.outputs, o.card = card) ↔
        (∃ o ∈ conf, o.card = card) ∧
          ∀ j < c.member, ∀ m', g.members[j]? = some m' → card ∉ cards (Backend.configuration m')) ∧
      ((∀ d ∈ cards (Backend.configuration m), d = card) → ∃ o ∈ c.slice.outputs, o.card = card) := by
  rw [modeSet_of_usable g conf usable] at called
  obtain ⟨answer, i, m, place, member, slice, own⟩ := configureFrom_refused 0 _ _ c called cause refused
  rw [Nat.zero_add] at place
  subst place
  obtain ⟨m', member', head⟩ := slices_card g conf _ _ slice
  obtain rfl : m = m' := Option.some.inj (member.symm.trans member')
  obtain ⟨due, nonempty⟩ := outputs_of_slice slice
  have held : ∀ o, o ∈ c.slice.outputs ↔ o ∈ conf ∧ g.FirstOwner o.card c.member := by
    intro o
    rw [due, mem_due]
  refine ⟨c.slice.card, m, ?_, member, own, head, nonempty, held, ?_, ?_⟩
  · rw [← modeSet_of_usable g conf usable] at answer
    exact answer
  · constructor
    · rintro ⟨o, ho, same⟩
      obtain ⟨asked, -, first⟩ := (held o).1 ho
      exact ⟨⟨o, asked, same⟩, same ▸ first⟩
    · rintro ⟨⟨o, asked, same⟩, first⟩
      have owner : g.FirstOwner o.card c.member := same ▸ ⟨⟨m, member, List.mem_of_mem_head? head⟩, first⟩
      exact ⟨o, (held o).2 ⟨asked, owner⟩, same⟩
  · intro one_card
    obtain ⟨o, ho⟩ := List.exists_mem_of_ne_nil _ nonempty
    obtain ⟨-, ⟨m', member', own_card⟩, -⟩ := (held o).1 ho
    obtain rfl : m = m' := Option.some.inj (member.symm.trans member')
    exact ⟨o, ho, one_card _ own_card⟩

/-- A display inside a display. It has two cards, and refuses outputs of the second one. -/
def oneOfTwo : Display 1 :=
  ⟨[Assembly.cluster
    ⟨[.holding 0 [.unlit 1 "A"] [], { Adapter.holding 1 [.unlit 2 "B"] [] with modeSets := [.fail] }], none⟩], none⟩

def bothCards : Configuration := [.unlit 2 "B", .unlit 1 "A"]

/-- It is asked for outputs of both cards. -/
theorem oneOfTwo_named : ∃ c ∈ (oneOfTwo.modeSet bothCards).calls, ∃ cause, c.reply = .error cause ∧
    (oneOfTwo.configure bothCards).answer = .error (.outputsOf ⟨1⟩ cause) ∧ ∃ o ∈ c.slice.outputs, o.card = ⟨1⟩ := by
  refine ⟨_, List.mem_singleton.2 rfl, _, rfl, ?_⟩
  obtain ⟨card, m, answer, -, -, -, -, -, asked_for, -⟩ :=
    named_card_asked_for_iff oneOfTwo bothCards rfl _ (List.mem_singleton.2 rfl) _ rfl
  have named : (oneOfTwo.configure bothCards).answer =
      .error (.outputsOf ⟨1⟩ (.outputsOf ⟨2⟩ (.refusal "mode-set rejected"))) := rfl
  obtain ⟨rfl, -⟩ := ConfigureError.outputsOf.inj (Except.error.inj (named.symm.trans answer))
  refine ⟨answer, asked_for.2 ⟨⟨.unlit 1 "A", by decide, rfl⟩, ?_⟩⟩
  intro j none_before
  exact absurd none_before (Nat.not_lt_zero j)

/-- It is asked for an output of the second card only. -/
theorem oneOfTwo_misnamed : ∃ c ∈ (oneOfTwo.modeSet [.unlit 2 "B"]).calls, ∃ cause, c.reply = .error cause ∧
    (oneOfTwo.configure [.unlit 2 "B"]).answer = .error (.outputsOf ⟨1⟩ cause) ∧
      c.slice.outputs ≠ [] ∧ ∀ o ∈ c.slice.outputs, o.card = ⟨2⟩ :=
  ⟨_, List.mem_singleton.2 rfl, _, rfl, rfl, by decide, by decide⟩

end Cluster

end Multihead
