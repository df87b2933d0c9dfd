import Multihead.Proofs.Display.Leaf
import Multihead.Proofs.Display.Shares

/-! # Stable grouping
A table of slices groups a configuration if it has a slice for each card that occurs, in the order of their first
outputs, and each slice is what the configuration holds of its card. Main statement: the slices that `partition`
makes are the one table that groups a configuration, they lose and invent nothing, joining them and splitting again
changes nothing, and they join to the configuration itself just when it keeps the outputs of each card together. -/

set_option autoImplicit false

namespace Multihead

open Multihead.Configuration (cards partition CardsTogether)

namespace CardSlices

/-- The outputs of all slices, slice by slice. -/
def joined (slices : CardSlices) : Configuration := slices.flatMap (·.2)

theorem take_of_mem (slices : CardSlices) (distinct : slices.keys.Nodup) (slice : CardId × Configuration)
    (h : slice ∈ slices) : (slices.take slice.1).1 = slice.2 := by
  induction slices with
  | nil => cases h
  | cons first rest ih =>
    obtain ⟨d, os⟩ := first
    obtain ⟨fresh, distinct⟩ := List.nodup_cons.1 distinct
    rcases List.mem_cons.1 h with rfl | later
    · rw [take, if_pos rfl]
    · have other : d ≠ slice.1 := by
        rintro rfl
        exact fresh (List.mem_map.2 ⟨slice, later, rfl⟩)
      rw [take, if_neg other]
      exact ih distinct later

/-- A slice for each card that occurs, in the order of their first outputs, with exactly the outputs of that card in
the order of the configuration. -/
structure Groups (slices : CardSlices) (conf : Configuration) : Prop where
  mem_keys : ∀ c, c ∈ slices.keys ↔ ∃ o ∈ conf, o.card = c
  in_order : slices.keys.Pairwise fun c d => conf.firstPlace c < conf.firstPlace d
  slice_eq : ∀ slice ∈ slices, slice.2 = conf.filter (·.card = slice.1)

namespace Groups

variable {slices : CardSlices} {conf : Configuration} (groups : slices.Groups conf)

include groups

theorem nodup_keys : slices.keys.Nodup :=
  groups.in_order.imp fun before => ne_of_apply_ne conf.firstPlace (Nat.ne_of_lt before)

theorem eq_map_keys : slices = slices.keys.map fun c => (c, conf.filter (·.card = c)) := by
  rw [keys, List.map_map]
  refine (List.map_id slices).symm.trans (List.map_congr_left fun slice h => ?_)
  exact Prod.ext rfl (groups.slice_eq slice h)

/-- No two tables group one configuration. -/
theorem unique {other : CardSlices} (others : other.Groups conf) : slices = other := by
  have members : ∀ c, c ∈ slices.keys ↔ c ∈ other.keys := fun c => (groups.mem_keys c).trans (others.mem_keys c).symm
  -- Both tables have the same cards, sorted by the same strict order.
  have same : slices.keys = other.keys := by
    refine List.Perm.eq_of_pairwise (fun c d _ _ before after => ?_) groups.in_order others.in_order
      ((List.perm_ext_iff_of_nodup groups.nodup_keys others.nodup_keys).2 members)
    exact absurd before (Nat.lt_asymm after)
  rw [groups.eq_map_keys, others.eq_map_keys, same]

/-! ## Joining the slices -/

theorem joined_eq : slices.joined = conf.ofCards slices.keys := by
  rw [joined, Configuration.ofCards, keys, List.flatMap_map]
  exact List.flatMap_congr groups.slice_eq

theorem joined_perm : slices.joined.Perm conf := by
  rw [groups.joined_eq, List.perm_iff_count]
  intro o
  rw [Configuration.count_ofCards conf _ groups.nodup_keys]
  split
  · rfl
  · next absent =>
    refine (List.count_eq_zero.2 fun ho => ?_).symm
    exact absent ((groups.mem_keys o.card).2 ⟨o, ho, rfl⟩)

theorem card_eq (slice : CardId × Configuration) (h : slice ∈ slices) : ∀ o ∈ slice.2, o.card = slice.1 := by
  intro o ho
  rw [groups.slice_eq slice h, List.mem_filter] at ho
  exact of_decide_eq_true ho.2

theorem ne_nil (slice : CardId × Configuration) (h : slice ∈ slices) : slice.2 ≠ [] := by
  obtain ⟨o, ho, same⟩ := (groups.mem_keys slice.1).1 (List.mem_map_of_mem h)
  rw [groups.slice_eq slice h]
  exact List.ne_nil_of_mem (List.mem_filter.2 ⟨ho, decide_eq_true same⟩)

theorem partition_slice (slice : CardId × Configuration) (h : slice ∈ slices) : partition slice.2 = [slice] := by
  obtain ⟨c, os⟩ := slice
  have own := groups.card_eq _ h
  cases os with
  | nil => exact absurd rfl (groups.ne_nil _ h)
  | cons o os =>
    obtain ⟨rfl, own⟩ := List.forall_mem_cons.1 own
    exact Configuration.partition_single_card o os own

theorem apart : ((slices.map (·.2)).map cards).Pairwise List.Disjoint := by
  have single : (slices.map (·.2)).map cards = slices.keys.map fun c => [c] := by
    rw [keys, List.map_map, List.map_map]
    refine List.map_congr_left fun slice h => ?_
    change (partition slice.2).map (·.1) = [slice.1]
    rw [groups.partition_slice slice h]
    rfl
  rw [single, List.pairwise_map]
  exact groups.nodup_keys.imp fun different => List.singleton_disjoint.2 (mt List.mem_singleton.1 different)

/-- Slices that group a configuration are those of their own outputs, too. -/
theorem partition_joined : partition slices.joined = slices := by
  have slicewise : (slices.map (·.2)).flatMap partition = slices.flatMap fun slice => [slice] := by
    rw [List.flatMap_map]
    exact List.flatMap_congr groups.partition_slice
  rw [joined, List.flatMap_def, Configuration.partition_flatten _ groups.apart, slicewise, List.flatMap_singleton']

theorem cardsTogether_joined : CardsTogether slices.joined := by
  rw [joined, List.flatMap_def]
  refine Configuration.cardsTogether_flatten _ (List.forall_mem_map.2 fun slice h => ?_) groups.apart
  exact Configuration.cardsTogether_of_single_card slice.2 slice.1 (groups.card_eq slice h)

end Groups

end CardSlices

namespace Configuration

theorem groups_partition (conf : Configuration) : (partition conf).Groups conf where
  mem_keys := mem_cards conf
  in_order := cards_in_order conf
  slice_eq slice h := by rw [← take_partition, CardSlices.take_of_mem _ (nodup_cards conf) slice h]

theorem joined_partition_eq_iff (conf : Configuration) : (partition conf).joined = conf ↔ CardsTogether conf := by
  constructor
  · intro same
    rw [← same]
    exact (groups_partition conf).cardsTogether_joined
  · exact CardsTogether.partition_join

theorem partition_is_stable_grouping (conf : Configuration) :
    ((partition conf).Groups conf ∧ ∀ slices : CardSlices, slices.Groups conf → slices = partition conf) ∧
      ((partition conf).keys.Nodup ∧ ∀ slice ∈ partition conf, slice.2 ≠ []) ∧
      (partition conf).joined.Perm conf ∧
      cards conf = (partition conf).keys ∧
      partition (partition conf).joined = partition conf ∧
      ((partition conf).joined = conf ↔ CardsTogether conf) := by
  have groups : (partition conf).Groups conf := groups_partition conf
  refine ⟨⟨groups, fun slices others => others.unique groups⟩, ⟨groups.nodup_keys, groups.ne_nil⟩,
    groups.joined_perm, rfl, groups.partition_joined, joined_partition_eq_iff conf⟩

/-- Three cards, the outputs of the first two taking turns. -/
def takingTurns : Configuration :=
  [.unlit 7 "A", .unlit 2 "A", .unlit 7 "B", .unlit 2 "B", .unlit 9 "A"]

theorem takingTurns_grouped :
    cards takingTurns = [⟨7⟩, ⟨2⟩, ⟨9⟩] ∧
      (⟨2⟩, takingTurns.filter (·.card = ⟨2⟩)) ∈ partition takingTurns ∧
      (partition takingTurns).joined.Perm takingTurns ∧
      (partition takingTurns).joined =
        [.unlit 7 "A", .unlit 7 "B", .unlit 2 "A", .unlit 2 "B", .unlit 9 "A"] ∧
      partition (partition takingTurns).joined = partition takingTurns ∧
      ¬ CardsTogether takingTurns := by
  obtain ⟨⟨groups, -⟩, -, perm, -, again, together⟩ := partition_is_stable_grouping takingTurns
  have occurs : (⟨2⟩ : CardId) ∈ (partition takingTurns).keys := (groups.mem_keys ⟨2⟩).2 ⟨_, .tail _ (.head _), rfl⟩
  obtain ⟨slice, member, card⟩ := List.mem_map.1 occurs
  have moved : (partition takingTurns).joined ≠ takingTurns := by
    intro same
    have cards_eq := congrArg (List.map Output.card) same
    revert cards_eq
    decide
  refine ⟨rfl, ?_, perm, rfl, again, mt together.2 moved⟩
  rw [← card, ← groups.slice_eq slice member]
  exact member

end Configuration

end Multihead
