import Mathlib.Data.List.Induction
import Mathlib.Data.List.Triplewise
import Multihead.Display.Routing

/-! # Slices by card
What `partition` makes of a configuration: its keys are the cards in the order of their first appearance, outputs
of other cards append their slices behind, and the slices of a configuration whose cards stand together join to
the configuration itself. Configurations without a card in common stay together when they are joined. -/

set_option autoImplicit false

namespace Multihead

/-! ## Inserting and taking -/

namespace CardSlices

def keys (slices : CardSlices) : List CardId := slices.map (·.1)

@[simp] theorem keys_nil : keys [] = [] := rfl

@[simp] theorem keys_cons (c : CardId) (os : Configuration) (rest : CardSlices) :
    keys ((c, os) :: rest) = c :: keys rest := rfl

theorem keys_insert (o : Output) (slices : CardSlices) :
    keys (slices.insert o) = if o.card ∈ keys slices then keys slices else keys slices ++ [o.card] := by
  induction slices with
  | nil => rfl
  | cons slice rest ih =>
    obtain ⟨c, os⟩ := slice
    by_cases h : c = o.card
    · simp [insert, h]
    · have h' : ¬ o.card = c := fun e => h e.symm
      rw [insert, if_neg h, keys_cons, ih, keys_cons]
      by_cases hm : o.card ∈ keys rest <;> simp [hm, h']

theorem insert_append (o : Output) (a b : CardSlices) (h : o.card ∉ keys a) :
    insert o (a ++ b) = a ++ insert o b := by
  induction a with
  | nil => rfl
  | cons slice a ih =>
    obtain ⟨c, os⟩ := slice
    rw [keys_cons, List.mem_cons, not_or] at h
    rw [List.cons_append, insert, if_neg (fun e => h.1 e.symm), ih h.2, List.cons_append]

theorem foldl_insert_append (conf : Configuration) (a b : CardSlices) (h : ∀ o ∈ conf, o.card ∉ keys a) :
    conf.foldl (fun slices o => insert o slices) (a ++ b) =
      a ++ conf.foldl (fun slices o => insert o slices) b := by
  induction conf generalizing b with
  | nil => rfl
  | cons o os ih =>
    rw [List.foldl_cons, insert_append o a b (h o List.mem_cons_self), List.foldl_cons]
    exact ih (insert o b) (fun p hp => h p (List.mem_cons_of_mem o hp))

theorem takeAll_keys (a b : CardSlices) : takeAll (keys a) (a ++ b) = (a.flatMap (·.2), b) := by
  induction a with
  | nil => rfl
  | cons slice a ih =>
    obtain ⟨c, os⟩ := slice
    have h : take c ((c, os) :: (a ++ b)) = (os, a ++ b) := by rw [take, if_pos rfl]
    rw [keys_cons, List.cons_append, takeAll, h, ih, List.flatMap_cons]

end CardSlices

/-! ## Cards in the order of their first appearance -/

namespace Configuration

theorem partition_concat (conf : Configuration) (o : Output) :
    (conf ++ [o]).partition = conf.partition.insert o := by
  rw [partition, List.foldl_append, List.foldl_cons, List.foldl_nil, partition]

/-- One more output opens a slice at the end, or none. -/
theorem cards_concat (conf : Configuration) (o : Output) :
    cards (conf ++ [o]) = if o.card ∈ conf.cards then conf.cards else conf.cards ++ [o.card] := by
  change CardSlices.keys (partition (conf ++ [o])) = _
  rw [partition_concat]
  exact CardSlices.keys_insert o conf.partition

theorem cards_eq_eraseDups (conf : Configuration) : conf.cards = (conf.map (·.card)).eraseDups := by
  induction conf using List.reverseRecOn with
  | nil => rfl
  | append_singleton conf o ih =>
    rw [cards_concat, ih, List.map_append, List.eraseDups_append]
    generalize conf.map (·.card) = seen
    by_cases h : o.card ∈ seen
    · simp [List.removeAll, h]
    · simp [List.removeAll, h, List.eraseDups_cons]

theorem mem_cards (conf : Configuration) (c : CardId) : c ∈ conf.cards ↔ ∃ o ∈ conf, o.card = c := by
  rw [cards_eq_eraseDups, List.mem_eraseDups, List.mem_map]

theorem mem_cards_flatMap {β : Type} (parts : List β) (outputs : β → Configuration) (c : CardId) :
    c ∈ cards (parts.flatMap outputs) ↔ ∃ part ∈ parts, c ∈ cards (outputs part) := by
  simp only [mem_cards, List.mem_flatMap]
  constructor
  · rintro ⟨o, ⟨part, hpart, ho⟩, same⟩
    exact ⟨part, hpart, o, ho, same⟩
  · rintro ⟨part, hpart, o, ho, same⟩
    exact ⟨o, ⟨part, hpart, ho⟩, same⟩

theorem head?_cards (conf : Configuration) : conf.cards.head? = conf.head?.map (·.card) := by
  rw [cards_eq_eraseDups]
  cases conf with
  | nil => rfl
  | cons o os => rw [List.map_cons, List.eraseDups_cons]; rfl

/-- The place of the first output of a card; behind all outputs if the card has none. -/
def firstPlace (conf : Configuration) (c : CardId) : Nat := conf.findIdx (·.card = c)

theorem firstPlace_lt_length_iff (conf : Configuration) (c : CardId) :
    conf.firstPlace c < conf.length ↔ c ∈ conf.cards := by
  simp [firstPlace, List.findIdx_lt_length, mem_cards]

theorem firstPlace_concat (conf : Configuration) (o : Output) (c : CardId) (h : c ∈ conf.cards) :
    firstPlace (conf ++ [o]) c = conf.firstPlace c := by
  rw [firstPlace, List.findIdx_append]
  exact if_pos ((firstPlace_lt_length_iff conf c).2 h)

theorem firstPlace_concat_new (conf : Configuration) (o : Output) (h : o.card ∉ conf.cards) :
    firstPlace (conf ++ [o]) o.card = conf.length := by
  have absent : ¬ conf.firstPlace o.card < conf.length := mt (firstPlace_lt_length_iff conf o.card).1 h
  rw [firstPlace] at absent
  rw [firstPlace, List.findIdx_append, if_neg absent]
  simp

theorem cards_in_order_concat (conf : Configuration) (o : Output)
    (h : conf.cards.Pairwise fun c d => conf.firstPlace c < conf.firstPlace d) :
    (cards (conf ++ [o])).Pairwise fun c d => firstPlace (conf ++ [o]) c < firstPlace (conf ++ [o]) d := by
  -- The first outputs stay where they are, and a card that is new has its first output behind them all.
  have kept : conf.cards.Pairwise fun c d => firstPlace (conf ++ [o]) c < firstPlace (conf ++ [o]) d := by
    refine h.imp_of_mem fun {c d} hc hd before => ?_
    rwa [firstPlace_concat conf o c hc, firstPlace_concat conf o d hd]
  rw [cards_concat]
  split
  · exact kept
  · next new =>
    refine List.pairwise_append.2 ⟨kept, List.pairwise_singleton _ _, fun c hc d hd => ?_⟩
    rw [List.mem_singleton.1 hd, firstPlace_concat conf o c hc, firstPlace_concat_new conf o new]
    exact (firstPlace_lt_length_iff conf c).2 hc

/-- The cards stand in the order of their first outputs. -/
theorem cards_in_order (conf : Configuration) :
    conf.cards.Pairwise fun c d => conf.firstPlace c < conf.firstPlace d := by
  induction conf using List.reverseRecOn with
  | nil => exact List.Pairwise.nil
  | append_singleton conf o ih => exact cards_in_order_concat conf o ih

theorem nodup_cards (conf : Configuration) : conf.cards.Nodup :=
  conf.cards_in_order.imp fun before => ne_of_apply_ne conf.firstPlace (Nat.ne_of_lt before)

/-! ## Configurations side by side -/

theorem partition_append (a b : Configuration) (apart : a.cards.Disjoint b.cards) :
    partition (a ++ b) = a.partition ++ b.partition := by
  have h : ∀ o ∈ b, o.card ∉ CardSlices.keys a.partition := by
    intro o ho hc
    exact apart hc ((mem_cards b o.card).2 ⟨o, ho, rfl⟩)
  have key := CardSlices.foldl_insert_append b a.partition [] h
  rw [List.append_nil] at key
  rw [partition, List.foldl_append]
  exact key

theorem disjoint_cards_flatten (part : Configuration) (parts : List Configuration)
    (apart : ∀ other ∈ parts, part.cards.Disjoint (cards other)) : part.cards.Disjoint (cards parts.flatten) := by
  intro c hc hrest
  obtain ⟨o, ho, rfl⟩ := (mem_cards _ c).1 hrest
  obtain ⟨other, hother, hoo⟩ := List.mem_flatten.1 ho
  exact apart other hother hc ((mem_cards other _).2 ⟨o, hoo, rfl⟩)

theorem partition_flatten (parts : List Configuration) (apart : (parts.map cards).Pairwise List.Disjoint) :
    partition parts.flatten = parts.flatMap partition := by
  induction parts with
  | nil => rfl
  | cons part parts ih =>
    rw [List.map_cons, List.pairwise_cons, List.forall_mem_map] at apart
    have front : part.cards.Disjoint (cards parts.flatten) := disjoint_cards_flatten part parts apart.1
    rw [List.flatten_cons, partition_append _ _ front, ih apart.2, List.flatMap_cons]

/-! ## Cards that stand together -/

/-- No output of another card stands between two outputs of one card. -/
def CardsTogether (conf : Configuration) : Prop :=
  conf.Triplewise fun a b c => a.card = c.card → b.card = a.card

theorem CardsTogether.append {a b : Configuration} (ha : CardsTogether a) (hb : CardsTogether b)
    (apart : a.cards.Disjoint b.cards) : CardsTogether (a ++ b) := by
  have other : ∀ o ∈ a, ∀ p ∈ b, o.card ≠ p.card := by
    intro o ho p hp same
    exact apart ((mem_cards a _).2 ⟨o, ho, rfl⟩) ((mem_cards b _).2 ⟨p, hp, same.symm⟩)
  refine List.triplewise_append.2 ⟨ha, hb, ?_, ?_⟩
  · intro o ho
    refine List.pairwise_of_forall_mem_list fun p hp q hq same => ?_
    exact absurd same (other o ho q hq)
  · intro q hq
    refine List.pairwise_of_forall_mem_list fun o ho p hp same => ?_
    exact absurd same (other o ho q hq)

theorem cardsTogether_flatten (parts : List Configuration) (together : ∀ part ∈ parts, CardsTogether part)
    (apart : (parts.map cards).Pairwise List.Disjoint) : CardsTogether parts.flatten := by
  induction parts with
  | nil => exact List.Triplewise.nil
  | cons part parts ih =>
    rw [List.map_cons, List.pairwise_cons, List.forall_mem_map] at apart
    rw [List.forall_mem_cons] at together
    exact together.1.append (ih together.2 apart.2) (disjoint_cards_flatten part parts apart.1)

theorem cardsTogether_of_single_card (conf : Configuration) (c : CardId) (h : ∀ o ∈ conf, o.card = c) :
    CardsTogether conf := by
  induction conf with
  | nil => exact List.Triplewise.nil
  | cons o os ih =>
    rw [List.forall_mem_cons] at h
    refine List.triplewise_cons.2 ⟨List.pairwise_of_forall_mem_list fun p hp _ _ _ => ?_, ih h.2⟩
    exact (h.2 p hp).trans h.1.symm

theorem partition_single_card (o : Output) (os : Configuration) (h : ∀ p ∈ os, p.card = o.card) :
    partition (o :: os) = [(o.card, o :: os)] := by
  induction os using List.reverseRecOn with
  | nil => rfl
  | append_singleton os p ih =>
    rw [List.forall_mem_append] at h
    have hp : o.card = p.card := (h.2 p List.mem_cons_self).symm
    rw [← List.cons_append, partition_concat, ih h.1, CardSlices.insert, if_pos hp]

theorem CardsTogether.front {o : Output} {os : Configuration} (together : CardsTogether (o :: os)) :
    ∃ front rest, os = front ++ rest ∧ (∀ p ∈ front, p.card = o.card) ∧ (∀ p ∈ rest, p.card ≠ o.card) ∧
      CardsTogether rest := by
  induction os with
  | nil => exact ⟨[], [], rfl, by simp, by simp, List.Triplewise.nil⟩
  | cons p os ih =>
    obtain ⟨pairs, later⟩ := List.triplewise_cons.1 together
    rw [List.pairwise_cons] at pairs
    by_cases h : p.card = o.card
    · have shorter : CardsTogether (o :: os) :=
        List.triplewise_cons.2 ⟨pairs.2, (List.triplewise_cons.1 later).2⟩
      obtain ⟨front, rest, rfl, same, other, ht⟩ := ih shorter
      exact ⟨p :: front, rest, rfl, List.forall_mem_cons.2 ⟨h, same⟩, other, ht⟩
    · refine ⟨[], p :: os, rfl, by simp, ?_, later⟩
      intro q hq
      rcases List.mem_cons.1 hq with rfl | hq
      · exact h
      · exact fun hqo => h (pairs.1 q hq hqo.symm)

theorem CardsTogether.partition_join {conf : Configuration} (together : conf.CardsTogether) :
    (partition conf).flatMap (·.2) = conf := by
  induction hn : conf.length using Nat.strongRecOn generalizing conf with
  | _ n ih =>
    cases conf with
    | nil => rfl
    | cons o os =>
      obtain ⟨front, rest, rfl, same, other, ht⟩ := together.front
      have slice : partition (o :: front) = [(o.card, o :: front)] := partition_single_card o front same
      have apart : List.Disjoint (cards (o :: front)) (cards rest) := by
        intro c hc hcr
        obtain ⟨p, hp, rfl⟩ := (mem_cards _ _).1 hcr
        have only : cards (o :: front) = [o.card] := by rw [cards, slice]; rfl
        rw [only, List.mem_singleton] at hc
        exact other p hp hc
      have shorter : rest.length < n := by
        rw [← hn, List.length_cons, List.length_append]
        omega
      have later : (partition rest).flatMap (·.2) = rest := ih _ shorter ht rfl
      rw [← List.cons_append, partition_append _ _ apart, List.flatMap_append, slice, later,
        List.flatMap_singleton]

end Configuration

end Multihead
