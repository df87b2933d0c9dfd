import Multihead.Proofs.Display.Numbering
import Multihead.Proofs.Display.Pass
import Multihead.Proofs.Display.Routing

/-! # Rollback
A cluster that refuses a request, or fails to carry it out, shows the configuration that it had before, unless it
says that it is incomplete. The slices of its own snapshot carry back to every member what the member had, up to
the numbers of the outputs, and a snapshot numbers them anew. -/

set_option autoImplicit false

namespace Multihead

namespace Cluster

open Multihead.Configuration (unnumbered cards partition)

variable {α : Type} [Backend α]

/-! ## The slices of a snapshot -/

/-- No two members have a card in common, no member has two outputs of one card and name, and the outputs of a card
stand together. -/
structure Independent (g : Cluster α) : Prop where
  apart : g.owners.Pairwise List.Disjoint
  distinct : ∀ m ∈ g.members, ((Backend.configuration m).map Output.key).Nodup
  together : ∀ m ∈ g.members, (Backend.configuration m).CardsTogether

/-- The slice holds all that the member holds; a member that holds nothing has no slice. -/
def Recalls (m : α) : Option Slice → Prop
  | none => Backend.configuration m = []
  | some s => unnumbered s.outputs = unnumbered (Backend.configuration m)

theorem recalls_ofOutputs (m : α) (part : Configuration)
    (h : unnumbered part = unnumbered (Backend.configuration m)) :
    Recalls m (Slice.ofOutputs (cards part) part) := by
  cases part with
  | nil => exact List.map_eq_nil_iff.1 h.symm
  | cons o os =>
    rw [Slice.ofOutputs_cards_cons]
    exact h

/-- A request joined of parts, each with the cards of a member, is cut into these parts if no card has two owners. -/
theorem slices_flatten (g : Cluster α) (parts : List Configuration) (apart : g.owners.Pairwise List.Disjoint)
    (same : List.Forall₂ (fun m part => cards (Backend.configuration m) = cards part ∧ part.CardsTogether)
      g.members parts) :
    g.slices parts.flatten = parts.map fun part => Slice.ofOutputs (cards part) part := by
  have howners : g.owners = parts.map cards := by
    rw [owners, ← List.forall₂_eq_eq_eq, List.forall₂_map_left_iff, List.forall₂_map_right_iff]
    exact same.imp fun m part h => h.1
  have together : ∀ part ∈ parts, part.CardsTogether :=
    ((List.forall₂_and_left parts g.members).1 (same.flip.imp fun part m h => ⟨h.2, h.1⟩)).1
  rw [slices, Configuration.partition_flatten parts (howners ▸ apart), howners, Slice.route_flatMap_partition]
  exact List.map_congr_left fun part hpart => by rw [(together part hpart).partition_join]

/-- A cluster of independent members hands its own snapshot back to those it came from. -/
theorem Independent.recalls {g : Cluster α} (hg : g.Independent) :
    List.Forall₂ Recalls g.members (g.slices g.configuration) := by
  have snapshot : unnumbered g.configuration = unnumbered (g.members.map Backend.configuration).flatten := by
    rw [unnumbered_configuration, List.flatMap_def]
  obtain ⟨parts, hjoin, hparts⟩ := Configuration.exists_parts _ _ _ snapshot
  rw [List.forall₂_map_right_iff] at hparts
  have same : List.Forall₂ (fun m part => (Backend.configuration m).CardsTogether ∧
      unnumbered part = unnumbered (Backend.configuration m)) g.members parts :=
    (List.forall₂_and_left _ _).2 ⟨hg.together, hparts.flip⟩
  rw [hjoin, slices_flatten g parts hg.apart (same.imp fun m part h =>
    ⟨(Configuration.cards_congr h.2).symm, Configuration.cardsTogether_congr h.2 h.1⟩), List.forall₂_map_right_iff]
  exact same.imp fun m part h => recalls_ofOutputs m part h.2

/-! ## Giving back -/

section Undo
variable [Leaf α]

theorem offerFrom_gives_back (k : Nat) (m m' : α) (ms : List α) (b : Option Slice) (bs : List (Option Slice))
    (recalls : Recalls m b) (distinct : ((Backend.configuration m).map Output.key).Nodup)
    (same : Leaf.merges m' = true →
      (Backend.configuration m').map Output.key = (Backend.configuration m).map Output.key)
    (idle : b = none → Backend.configuration m' = Backend.configuration m)
    (through : (offerFrom k (m' :: ms) (b :: bs)).stop = none) :
    ∃ m'', unnumbered (Backend.configuration m'') = unnumbered (Backend.configuration m) ∧
      (offerFrom k (m' :: ms) (b :: bs)).members = m'' :: (offerFrom (k + 1) ms bs).members ∧
      (offerFrom (k + 1) ms bs).stop = none := by
  cases b with
  | none => exact ⟨m', by rw [idle rfl], rfl, through⟩
  | some s =>
    have hkey := Configuration.map_key_congr recalls
    by_cases ok : (Backend.apply m' s.outputs).answer = .ok true
    · rw [offerFrom_accepted k m' ms s bs ok] at through ⊢
      refine ⟨(Backend.apply m' s.outputs).state, ?_, rfl, through⟩
      rw [Leaf.configuration_apply m' s.outputs ok (fun h => (same h).trans hkey.symm) (hkey ▸ distinct)]
      exact recalls
    · rw [offerFrom_stopped k m' ms s bs ok] at through
      cases through

/-- When a pass has stopped and the members before the stop have taken back what they had, every member shows what
it showed before the pass. -/
theorem offerFrom_undone (k j i : Nat) (ms : List α) (ss bs : List (Option Slice)) (t : Stop)
    (stopped : (offerFrom k ms ss).stop = some t) (place : t.member = k + i)
    (idle : List.Forall₂ (fun m s => Backend.configuration m = [] → s = none) ms ss)
    (recalls : List.Forall₂ Recalls ms bs)
    (distinct : ∀ m ∈ ms, ((Backend.configuration m).map Output.key).Nodup)
    (through : (offerFrom j (offerFrom k ms ss).members (bs.take i)).stop = none) :
    (offerFrom j (offerFrom k ms ss).members (bs.take i)).members.map
        (fun m => unnumbered (Backend.configuration m)) =
      ms.map fun m => unnumbered (Backend.configuration m) := by
  induction ms generalizing k j i ss bs with
  | nil => simp [offerFrom_nil] at stopped
  | cons m ms ih =>
    obtain ⟨hd, distinct⟩ := List.forall_mem_cons.1 distinct
    cases idle with
    | @cons _ s _ ss hidle idle =>
    cases recalls with
    | @cons _ b _ bs hb recalls =>
    -- a member that was passed over, or that accepted, stands before the stop and is given its slice back
    have onward : ∀ m' : α, (offerFrom k (m :: ms) (s :: ss)).members = m' :: (offerFrom (k + 1) ms ss).members →
        (offerFrom k (m :: ms) (s :: ss)).stop = (offerFrom (k + 1) ms ss).stop →
        (Leaf.merges m' = true →
          (Backend.configuration m').map Output.key = (Backend.configuration m).map Output.key) →
        (b = none → Backend.configuration m' = Backend.configuration m) →
        (offerFrom j (offerFrom k (m :: ms) (s :: ss)).members ((b :: bs).take i)).members.map
            (fun m => unnumbered (Backend.configuration m)) =
          (m :: ms).map fun m => unnumbered (Backend.configuration m) := by
      intro m' hmembers hstop hsame hkept
      rw [hstop] at stopped
      obtain ⟨i', hi', -⟩ := offerFrom_stop_place (k + 1) ms ss t stopped
      obtain rfl : i = i' + 1 := by omega
      rw [hmembers, List.take_succ_cons] at through ⊢
      obtain ⟨m'', hconf, hback, hthrough⟩ := offerFrom_gives_back j m m' _ b _ hb hd hsame hkept through
      rw [hback, List.map_cons, List.map_cons, hconf, ih (k + 1) (j + 1) i' ss bs stopped hi' idle recalls distinct
        hthrough]
    cases s with
    | none => exact onward m rfl rfl (fun _ => rfl) (fun _ => rfl)
    | some s =>
      by_cases ok : (Backend.apply m s.outputs).answer = .ok true
      · refine onward (Backend.apply m s.outputs).state ?_ ?_ ?_ ?_
        · rw [offerFrom_accepted k m ms s ss ok]
        · rw [offerFrom_accepted k m ms s ss ok]
        · rw [Leaf.merges_apply]
          exact Leaf.map_key_apply m s.outputs
        · rintro rfl
          exact absurd (hidle hb) (by simp)
      · rw [offerFrom_stopped k m ms s ss ok] at stopped ⊢
        cases stopped
        obtain rfl : i = 0 := Nat.left_eq_add.1 place
        rw [List.take_zero, offerFrom_nil_slices, List.map_cons, List.map_cons, Leaf.refused m s.outputs ok]

/-! ## Rollback -/

/-- A request that was not carried out leaves no trace in the snapshot, unless the answer says so. -/
theorem configuration_apply_of_undone (g : Cluster α) (conf : Configuration) (usable : g.incomplete = none)
    (hg : g.Independent)
    (undone : (g.apply conf).answer = .ok false ∨
      ∃ e, (g.apply conf).answer = .error e ∧ ∀ card, e ≠ .incomplete card) :
    (g.apply conf).state.configuration = g.configuration ∧ (g.apply conf).state.incomplete = none := by
  change (g.application conf).answer = .ok false ∨
    ∃ e, (g.application conf).answer = .error e ∧ ∀ card, e ≠ .incomplete card at undone
  change (g.application conf).cluster.configuration = g.configuration ∧
    (g.application conf).cluster.incomplete = none
  have ends := g.application_ends conf usable
  generalize g.application conf = r at ends undone ⊢
  cases ends with
  | carriedOut p pass through => simp at undone
  | stranded p back t u card pass stopped way stuck named => simp at undone
  | takenBack p back t pass stopped way through =>
    subst pass way
    refine ⟨?_, rfl⟩
    have idle : List.Forall₂ (fun m s => Backend.configuration m = [] → s = none) g.members (g.slices conf) := by
      have h := Slice.route_none_of_no_cards g.owners (Configuration.partition conf)
      rw [owners, List.forall₂_map_left_iff] at h
      exact h.imp fun m s hs hm => hs (by rw [hm]; rfl)
    exact configuration_congr _ _ _ _ (offerFrom_undone 0 0 t.member g.members _ _ t stopped (Nat.zero_add _).symm
      idle hg.recalls hg.distinct through)

end Undo

/-- Three adapters: the second merges what it accepts, the third refuses. -/
def threeCards : Cluster Adapter :=
  ⟨[.holding 0 [.unlit 1 "A", .unlit 1 "B"] [], { Adapter.holding 1 [.unlit 2 "A"] [] with merges := true },
    .holding 2 [.unlit 3 "A"] [.reject]], none⟩

theorem threeCards_independent : threeCards.Independent where
  apart := by
    have cards : threeCards.owners = [[⟨1⟩], [⟨2⟩], [⟨3⟩]] := by decide
    simp [cards]
  distinct := by decide
  together := by
    simp [threeCards, Configuration.CardsTogether, Adapter.holding, Backend.configuration, List.triplewise_cons]

/-- A request in another order that leaves an output out, asks for one twice, and for one on an unknown card. -/
def turned : Configuration :=
  ([(3, "A"), (1, "B"), (9, "A"), (2, "A"), (1, "B")] : List (UInt32 × String)).map fun (card, name) =>
    { Output.unlit card name with orientation := .half }

theorem threeCards_gives_back : (threeCards.apply turned).answer = .ok false ∧
    (threeCards.apply turned).state.configuration = threeCards.configuration ∧
    (threeCards.apply turned).state.incomplete = none :=
  ⟨rfl, configuration_apply_of_undone threeCards turned rfl threeCards_independent (.inl rfl)⟩

end Cluster

end Multihead
