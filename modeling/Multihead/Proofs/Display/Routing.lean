import Multihead.Proofs.Display.Partition

/-! # Slices for members
The slice of a member is named after the first card that the member has, and a member without outputs has none. A
configuration that is the members' own configurations, one behind the other, is routed back as it was joined. -/

set_option autoImplicit false

namespace Multihead.Slice

open Multihead.Configuration (cards partition)

theorem ofOutputs_eq_some_iff (cs : List CardId) (os : Configuration) (s : Slice) :
    ofOutputs cs os = some s ↔ cs.head? = some s.card ∧ os = s.outputs ∧ os ≠ [] := by
  obtain ⟨card, outputs⟩ := s
  cases cs with
  | nil => simp [ofOutputs]
  | cons c cs =>
    cases os with
    | nil => simp [ofOutputs]
    | cons o os => simp [ofOutputs]

theorem ofOutputs_nil_left (os : Configuration) : ofOutputs [] os = none := by
  cases os <;> rfl

theorem route_card (owners : List (List CardId)) (left : CardSlices) (k : Nat) (s : Slice)
    (h : (route owners left)[k]? = some (some s)) :
    ∃ cs, owners[k]? = some cs ∧ cs.head? = some s.card := by
  induction owners generalizing left k with
  | nil => simp [route] at h
  | cons cs owners ih =>
    cases k with
    | zero =>
      rw [route, List.getElem?_cons_zero, Option.some.injEq] at h
      exact ⟨cs, rfl, ((ofOutputs_eq_some_iff _ _ _).1 h).1⟩
    | succ k =>
      rw [route, List.getElem?_cons_succ] at h
      exact ih _ k h

theorem route_none_of_no_cards (owners : List (List CardId)) (left : CardSlices) :
    List.Forall₂ (fun cs slice => cs = [] → slice = none) owners (route owners left) := by
  induction owners generalizing left with
  | nil => exact .nil
  | cons cs owners ih =>
    refine .cons ?_ (ih _)
    rintro rfl
    exact ofOutputs_nil_left _

/-- Each part of a joined configuration comes back to the member it belongs to. -/
theorem route_flatMap_partition (parts : List Configuration) :
    route (parts.map cards) (parts.flatMap partition) =
      parts.map fun part => ofOutputs (cards part) ((partition part).flatMap (·.2)) := by
  induction parts with
  | nil => rfl
  | cons part parts ih =>
    have mine := CardSlices.takeAll_keys (partition part) (parts.flatMap partition)
    change CardSlices.takeAll (cards part) _ = _ at mine
    rw [List.map_cons, List.flatMap_cons, route, mine, ih, List.map_cons]

theorem ofOutputs_cards_cons (o : Output) (os : Configuration) :
    ofOutputs (cards (o :: os)) (o :: os) = some ⟨o.card, o :: os⟩ :=
  (ofOutputs_eq_some_iff _ _ _).2 ⟨Configuration.head?_cards (o :: os), rfl, List.cons_ne_nil o os⟩

end Multihead.Slice
