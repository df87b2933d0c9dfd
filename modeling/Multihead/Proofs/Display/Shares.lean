import Mathlib.Data.List.Count
import Mathlib.Data.List.Perm.Subperm
import Multihead.Display.Cluster
import Multihead.Proofs.Display.Routing

/-! # Shares
What a request holds for each member, said without the table of slices that routing drains: the outputs of the cards
that the member is the first to have, card by card, the outputs of a card in the order of the request. No output has
a place in the shares of two members. -/

set_option autoImplicit false

namespace Multihead

namespace Configuration

/-- The outputs of these cards, card by card. -/
def ofCards (conf : Configuration) (cs : List CardId) : Configuration :=
  cs.flatMap fun c => conf.filter (·.card = c)

theorem mem_ofCards (conf : Configuration) (cs : List CardId) (o : Output) :
    o ∈ conf.ofCards cs ↔ o ∈ conf ∧ o.card ∈ cs := by
  simp [ofCards, and_comm]

theorem ofCards_append (conf : Configuration) (cs ds : List CardId) :
    conf.ofCards (cs ++ ds) = conf.ofCards cs ++ conf.ofCards ds := List.flatMap_append

theorem ofCards_filter (conf : Configuration) (cs earlier : List CardId) :
    conf.ofCards (cs.filter (· ∉ earlier)) =
      cs.flatMap fun c => if c ∈ earlier then [] else conf.filter (·.card = c) := by
  induction cs with
  | nil => rfl
  | cons c cs ih =>
    rw [List.flatMap_cons, ← ih]
    by_cases h : c ∈ earlier <;> simp [ofCards, h]

theorem filter_card_ofCards (conf : Configuration) (cs : List CardId) (distinct : cs.Nodup) (c : CardId) :
    (conf.ofCards cs).filter (·.card = c) = if c ∈ cs then conf.filter (·.card = c) else [] := by
  induction cs with
  | nil => rfl
  | cons d cs ih =>
    obtain ⟨fresh, distinct⟩ := List.nodup_cons.1 distinct
    have split_cons : conf.ofCards (d :: cs) = conf.filter (·.card = d) ++ conf.ofCards cs := List.flatMap_cons
    rw [split_cons, List.filter_append, ih distinct, List.filter_filter]
    by_cases h : c = d
    · subst h
      simp [fresh]
    · have other : ∀ o ∈ conf, o.card = c → ¬ o.card = d := fun o _ hc hd => h (hc.symm.trans hd)
      simpa [h] using other

theorem ofCards_ofCards (conf : Configuration) (cs ds earlier before : List CardId) (distinct : cs.Nodup)
    (sub : ∀ d ∈ ds, d ∈ cs) :
    (conf.ofCards (cs.filter (· ∉ earlier))).ofCards (ds.filter (· ∉ before)) =
      conf.ofCards (ds.filter (· ∉ earlier ++ before)) := by
  rw [ofCards_filter _ ds before, ofCards_filter conf ds]
  refine List.flatMap_congr fun d hd => ?_
  rw [filter_card_ofCards _ _ (distinct.filter _)]
  by_cases he : d ∈ earlier <;> by_cases hb : d ∈ before <;> simp [he, hb, sub d hd]

theorem count_ofCards (conf : Configuration) (cs : List CardId) (distinct : cs.Nodup) (o : Output) :
    (conf.ofCards cs).count o = if o.card ∈ cs then conf.count o else 0 := by
  induction cs with
  | nil => rfl
  | cons c cs ih =>
    obtain ⟨fresh, distinct⟩ := List.nodup_cons.1 distinct
    have front : (conf.filter (·.card = c)).count o = if o.card = c then conf.count o else 0 := by
      split
      · next h => exact List.count_filter (by simpa using h)
      · next h => exact List.count_eq_zero.2 fun hm => h (by simpa using (List.mem_filter.1 hm).2)
    have split_cons : conf.ofCards (c :: cs) = conf.filter (·.card = c) ++ conf.ofCards cs := List.flatMap_cons
    rw [split_cons, List.count_append, front, ih distinct]
    by_cases h : o.card = c
    · simp [h, fresh]
    · simp [h]

theorem ofCards_subperm (conf : Configuration) (cs : List CardId) (distinct : cs.Nodup) :
    (conf.ofCards cs).Subperm conf := by
  rw [List.subperm_iff_count]
  intro o
  rw [count_ofCards conf cs distinct]
  split
  · exact Nat.le_refl _
  · exact Nat.zero_le _

end Configuration

/-! ## The slice of a card -/

namespace CardSlices

theorem take_insert (o : Output) (slices : CardSlices) (c : CardId) :
    (take c (slices.insert o)).1 = if o.card = c then (take c slices).1 ++ [o] else (take c slices).1 := by
  induction slices with
  | nil => by_cases hc : o.card = c <;> simp [insert, take, hc]
  | cons slice rest ih =>
    obtain ⟨d, os⟩ := slice
    by_cases hd : d = o.card
    · subst hd
      by_cases hc : o.card = c <;> simp [insert, take, hc]
    · by_cases hc : d = c
      · subst hc
        simp [insert, take, hd, Ne.symm hd]
      · simp [insert, take, hd, hc, ih]

theorem keys_take (c : CardId) (slices : CardSlices) : keys (take c slices).2 = (keys slices).erase c := by
  induction slices with
  | nil => rfl
  | cons slice rest ih =>
    obtain ⟨d, os⟩ := slice
    by_cases h : d = c
    · simp [take, h]
    · simp [take, h, ih]

theorem take_of_not_mem (c : CardId) (slices : CardSlices) (h : c ∉ keys slices) : (take c slices).1 = [] := by
  induction slices with
  | nil => rfl
  | cons slice rest ih =>
    obtain ⟨d, os⟩ := slice
    rw [keys_cons, List.mem_cons, not_or] at h
    simp [take, Ne.symm h.1, ih h.2]

theorem take_take_of_ne {c d : CardId} (slices : CardSlices) (h : d ≠ c) :
    (take d (take c slices).2).1 = (take d slices).1 := by
  induction slices with
  | nil => rfl
  | cons slice rest ih =>
    obtain ⟨e, os⟩ := slice
    by_cases hc : e = c
    · subst hc
      simp [take, Ne.symm h]
    · by_cases hd : e = d
      · simp [take, hd, h]
      · simp [take, hc, hd, ih]

/-- What is left once some cards are taken out. -/
theorem take_take (c d : CardId) (slices : CardSlices) (distinct : (keys slices).Nodup) :
    (take d (take c slices).2).1 = if d = c then [] else (take d slices).1 := by
  split
  · next h =>
    refine take_of_not_mem d _ ?_
    rw [keys_take, h]
    exact distinct.not_mem_erase
  · next h => exact take_take_of_ne slices h

theorem takeAll_fst (cs : List CardId) (slices : CardSlices) (distinct : cs.Nodup) :
    (takeAll cs slices).1 = cs.flatMap fun c => (take c slices).1 := by
  induction cs generalizing slices with
  | nil => rfl
  | cons c cs ih =>
    obtain ⟨fresh, distinct⟩ := List.nodup_cons.1 distinct
    have later : cs.flatMap (fun d => (take d (take c slices).2).1) = cs.flatMap fun d => (take d slices).1 := by
      refine List.flatMap_congr fun d hd => take_take_of_ne slices ?_
      rintro rfl
      exact fresh hd
    simp only [takeAll, ih _ distinct, later, List.flatMap_cons]

theorem takeAll_snd (cs : List CardId) (slices : CardSlices) (distinct : (keys slices).Nodup) :
    (keys (takeAll cs slices).2).Nodup ∧
      ∀ d, (take d (takeAll cs slices).2).1 = if d ∈ cs then [] else (take d slices).1 := by
  induction cs generalizing slices with
  | nil => exact ⟨distinct, fun d => by simp [takeAll]⟩
  | cons c cs ih =>
    have left : (keys (take c slices).2).Nodup := by
      rw [keys_take]
      exact distinct.erase c
    obtain ⟨hkeys, htake⟩ := ih (take c slices).2 left
    refine ⟨hkeys, fun d => ?_⟩
    rw [takeAll, htake, take_take c d slices distinct]
    by_cases hc : d = c <;> by_cases hcs : d ∈ cs <;> simp [hc, hcs]

end CardSlices

namespace Configuration

theorem take_partition (conf : Configuration) (c : CardId) :
    (CardSlices.take c conf.partition).1 = conf.filter (·.card = c) := by
  induction conf using List.reverseRecOn with
  | nil => rfl
  | append_singleton conf o ih =>
    rw [partition_concat, CardSlices.take_insert, ih, List.filter_append]
    by_cases h : o.card = c <;> simp [h]

end Configuration

/-! ## Routing, declared -/

namespace Slice

open Multihead.Configuration (cards)

/-- The slice for each member, if the cards in `earlier` are out of reach. -/
def shares (conf : Configuration) : List CardId → List (List CardId) → List (Option Slice)
  | _, [] => []
  | earlier, mine :: owners =>
    ofOutputs mine (conf.ofCards (mine.filter (· ∉ earlier))) :: shares conf (earlier ++ mine) owners

theorem route_eq (conf : Configuration) (earlier : List CardId) (owners : List (List CardId))
    (distinct : ∀ cs ∈ owners, cs.Nodup) (left : CardSlices) (keys : left.keys.Nodup)
    (reach : ∀ c, (left.take c).1 = if c ∈ earlier then [] else conf.filter (·.card = c)) :
    route owners left = shares conf earlier owners := by
  induction owners generalizing earlier left with
  | nil => rfl
  | cons mine owners ih =>
    obtain ⟨hmine, distinct⟩ := List.forall_mem_cons.1 distinct
    obtain ⟨hkeys, hleft⟩ := CardSlices.takeAll_snd mine left keys
    have outputs : (left.takeAll mine).1 = conf.ofCards (mine.filter (· ∉ earlier)) := by
      simp only [CardSlices.takeAll_fst mine left hmine, reach, Configuration.ofCards_filter]
    have later : ∀ c, ((left.takeAll mine).2.take c).1 =
        if c ∈ earlier ++ mine then [] else conf.filter (·.card = c) := by
      intro c
      rw [hleft, reach]
      by_cases h : c ∈ mine <;> by_cases h' : c ∈ earlier <;> simp [h, h']
    rw [route, shares, outputs, ih _ distinct _ hkeys later]

theorem route_eq_shares (conf : Configuration) (owners : List (List CardId)) (distinct : ∀ cs ∈ owners, cs.Nodup) :
    route owners conf.partition = shares conf [] owners :=
  route_eq conf [] owners distinct _ conf.nodup_cards fun c => by simp [Configuration.take_partition]

theorem length_shares (conf : Configuration) (earlier : List CardId) (owners : List (List CardId)) :
    (shares conf earlier owners).length = owners.length := by
  induction owners generalizing earlier with
  | nil => rfl
  | cons mine owners ih => rw [shares, List.length_cons, ih, List.length_cons]

theorem shares_append (conf : Configuration) (earlier : List CardId) (xs ys : List (List CardId)) :
    shares conf earlier (xs ++ ys) = shares conf earlier xs ++ shares conf (earlier ++ xs.flatten) ys := by
  induction xs generalizing earlier with
  | nil => simp [shares]
  | cons mine xs ih => simp [shares, ih]

theorem shares_congr (conf : Configuration) (earlier earlier' : List CardId) (owners : List (List CardId))
    (same : ∀ c, c ∈ earlier ↔ c ∈ earlier') : shares conf earlier owners = shares conf earlier' owners := by
  induction owners generalizing earlier earlier' with
  | nil => rfl
  | cons mine owners ih =>
    have later := ih (earlier ++ mine) (earlier' ++ mine) fun c => by simp [same c]
    simp only [shares, same, later]

/-- A request that holds what falls to a group of owners is shared out among them as the whole one is. -/
theorem shares_ofCards (conf : Configuration) (cs earlier before : List CardId) (owners : List (List CardId))
    (distinct : cs.Nodup) (sub : ∀ mine ∈ owners, ∀ c ∈ mine, c ∈ cs) :
    shares (conf.ofCards (cs.filter (· ∉ earlier))) before owners = shares conf (earlier ++ before) owners := by
  induction owners generalizing before with
  | nil => rfl
  | cons mine owners ih =>
    obtain ⟨here, sub⟩ := List.forall_mem_cons.1 sub
    rw [shares, shares, Configuration.ofCards_ofCards conf cs mine earlier before distinct here,
      ih (before ++ mine) sub, List.append_assoc]

theorem ofOutputs_eq_none_iff (cs : List CardId) (os : Configuration) (h : os ≠ [] → cs ≠ []) :
    ofOutputs cs os = none ↔ os = [] := by
  cases os with
  | nil => cases cs <;> simp [ofOutputs]
  | cons o os =>
    cases cs with
    | nil => exact absurd rfl (h (by simp))
    | cons c cs => simp [ofOutputs]

end Slice

end Multihead
