import Mathlib.Data.List.Flatten
import Mathlib.Data.List.Nodup
import Multihead.Proofs.Display.SharePass

/-! # Overwriting twice
Of all outputs of a request that share a card and a name, a merging leaf keeps the last one. A leaf that is sent part of
a request, and then what a snapshot holds for it, ends as if it had been sent its own outputs, whatever the request
was: this is how a leaf is left by a rollback. Where several leaves have a card, its outputs of one name have to be
the same. -/

set_option autoImplicit false

namespace Multihead

/-- The output without its number. -/
def Output.struck (o : Output) : Output := { o with id := ⟨0⟩ }

theorem Output.key_fst (o : Output) : o.key.1 = o.card := rfl

namespace Configuration

theorem unnumbered_eq_map (conf : Configuration) : unnumbered conf = conf.map Output.struck := rfl

/-! ## The last output of a card and name -/

def latest (conf : Configuration) (k : CardId × String) : Option Output := (conf.filter (·.key = k)).getLast?

theorem latest_append (a b : Configuration) (k : CardId × String) :
    latest (a ++ b) k = (latest b k).or (latest a k) := by
  rw [latest, List.filter_append, List.getLast?_append]
  rfl

theorem latest_concat (conf : Configuration) (o : Output) (k : CardId × String) :
    latest (conf ++ [o]) k = if o.key = k then some o else latest conf k := by
  rw [latest_append]
  by_cases h : o.key = k <;> simp [latest, h]

theorem latest_eq_none_iff (conf : Configuration) (k : CardId × String) :
    latest conf k = none ↔ ∀ o ∈ conf, o.key ≠ k := by
  simp [latest]

theorem mem_of_latest {conf : Configuration} {k : CardId × String} {o : Output} (h : latest conf k = some o) :
    o ∈ conf ∧ o.key = k := by
  have found := List.mem_filter.1 (List.mem_of_getLast? h)
  exact ⟨found.1, of_decide_eq_true found.2⟩

theorem exists_latest {conf : Configuration} {h : Output} (hh : h ∈ conf) : ∃ o, latest conf h.key = some o := by
  rw [← Option.isSome_iff_exists, Option.isSome_iff_ne_none, ne_eq, latest_eq_none_iff]
  exact fun absent => absent h hh rfl

theorem latest_unnumbered (conf : Configuration) (k : CardId × String) :
    latest (unnumbered conf) k = (latest conf k).map Output.struck := by
  rw [latest, unnumbered_eq_map, List.filter_map, List.getLast?_map]
  rfl

theorem latest_ofCards (conf : Configuration) (cs : List CardId) (distinct : cs.Nodup) (k : CardId × String) :
    latest (conf.ofCards cs) k = if k.1 ∈ cs then latest conf k else none := by
  have on_card : ∀ conf : Configuration, latest conf k = latest (conf.filter (·.card = k.1)) k := by
    intro conf
    rw [latest, latest, List.filter_filter]
    congr 2
    funext o
    by_cases h : o.key = k
    · simp [← h, Output.key]
    · simp [h]
  rw [on_card, filter_card_ofCards conf cs distinct]
  split
  · exact (on_card conf).symm
  · rfl

end Configuration

namespace Adapter

open Multihead.Configuration (latest)

theorem key_getD_latest (conf : Configuration) (h : Output) : ((latest conf h.key).getD h).key = h.key := by
  cases found : latest conf h.key with
  | none => rfl
  | some o => exact (Configuration.mem_of_latest found).2

theorem overwrite_eq_map (held : Configuration) (o : Output) :
    overwrite held o = held.map fun h => if h.key = o.key then o else h := by
  simp only [overwrite, Output.key, Prod.mk.injEq]

theorem foldl_overwrite_eq_map (conf held : Configuration) :
    conf.foldl overwrite held = held.map fun h => (latest conf h.key).getD h := by
  induction conf using List.reverseRecOn with
  | nil => simp [latest]
  | append_singleton conf o ih =>
    rw [List.foldl_append, List.foldl_cons, List.foldl_nil, ih, overwrite_eq_map, List.map_map]
    refine List.map_congr_left fun h _ => ?_
    simp only [Function.comp_apply, key_getD_latest, Configuration.latest_concat, eq_comm (a := h.key)]
    split <;> rfl

end Adapter

/-! ## Given back what a snapshot holds -/

namespace Configuration

/-- What is held is overwritten with itself. -/
def renewed (conf : Configuration) : Configuration := conf.foldl Adapter.overwrite conf

/-- `held` stands between `front` and `back` in a snapshot. The request holds nothing for the cards of `front`, and the
snapshot is given back without what it holds for them. -/
theorem unnumbered_given_back (front held back snapshot request : Configuration) (earlier : List CardId)
    (reach : ∀ c, c ∈ earlier ↔ c ∈ cards front) (joined : unnumbered snapshot = unnumbered (front ++ held ++ back))
    (apart : ∀ h ∈ held, ∀ o ∈ back, o.key = h.key → o.struck = h.struck)
    (single : ∀ h ∈ held, h.card ∈ cards front → ∀ g ∈ held, g.key = h.key → g.struck = h.struck)
    (asked : ∀ o ∈ request, o.card ∉ earlier) :
    unnumbered ((snapshot.ofCards ((cards held).filter (· ∉ earlier))).foldl Adapter.overwrite
      (request.foldl Adapter.overwrite held)) = unnumbered (renewed held) := by
  simp only [renewed, unnumbered_eq_map, Adapter.foldl_overwrite_eq_map, List.map_map]
  refine List.map_congr_left fun h hh => ?_
  have own : h.card ∈ cards held := (mem_cards held h.card).2 ⟨h, hh, rfl⟩
  have distinct : ((cards held).filter (· ∉ earlier)).Nodup := (nodup_cards held).filter _
  simp only [Function.comp_apply, Adapter.key_getD_latest]
  rw [latest_ofCards _ _ distinct, Output.key_fst]
  obtain ⟨last, hlast⟩ := exists_latest hh
  obtain ⟨last_held, last_key⟩ := mem_of_latest hlast
  by_cases hc : h.card ∈ earlier
  · -- the request and the snapshot both have nothing for it, and the last one of its name is the same
    have nothing : latest request h.key = none := by
      refine (latest_eq_none_iff request h.key).2 fun o ho same => asked o ho ?_
      rwa [show o.card = h.card from congrArg Prod.fst same]
    simp [nothing, hc, hlast, single h hh ((reach h.card).1 hc) last last_held last_key]
  · -- what the snapshot has last of its name is the same as what was held last
    have absent : latest front h.key = none := by
      refine (latest_eq_none_iff front h.key).2 fun o ho same => hc ((reach h.card).2 ?_)
      exact (mem_cards front h.card).2 ⟨o, ho, congrArg Prod.fst same⟩
    have found : (latest snapshot h.key).map Output.struck = some last.struck := by
      rw [← latest_unnumbered, joined, latest_unnumbered, latest_append, latest_append, absent, hlast]
      cases after : latest back h.key with
      | none => rfl
      | some o =>
        obtain ⟨ho, key⟩ := mem_of_latest after
        exact congrArg some (apart last last_held o ho (key.trans last_key.symm))
    obtain ⟨o, ho, same⟩ := Option.map_eq_some_iff.1 found
    simp [own, hc, ho, hlast, same]

end Configuration

/-! ## Leaves sent a request, and then a snapshot -/

section
open Multihead.Configuration (cards unnumbered renewed latest)
open Multihead.Cluster (share cardsOf offerShares)

variable {α : Type} [Backend α]

/-- On a card that several of these backends have, outputs of one name are the same but for their numbers. -/
def NamesAgree (ls : List α) : Prop :=
  ∀ o ∈ ls.flatMap Backend.configuration, 1 < ls.countP (fun a => o.card ∈ cards (Backend.configuration a)) →
    ∀ h ∈ ls.flatMap Backend.configuration, h.key = o.key → h.struck = o.struck

instance (ls : List α) : Decidable (NamesAgree ls) := inferInstanceAs (Decidable (∀ o ∈ _, _ → _))

namespace NamesAgree

theorem of_sublist {ls part : List α} (agree : NamesAgree ls) (sub : part.Sublist ls) : NamesAgree part := by
  intro o ho several h hh
  have outputs := sub.flatMap (Backend.configuration (α := α))
  exact agree o (outputs.subset ho) (Nat.lt_of_lt_of_le several sub.countP_le) h (outputs.subset hh)

variable {front back : List α} {a : α}

/-- An output of a leaf on a card that another leaf has as well is the same wherever it is held. -/
theorem of_shared (agree : NamesAgree (front ++ a :: back)) {h o : Output} (hh : h ∈ Backend.configuration a)
    (ho : o ∈ front.flatMap Backend.configuration ∨ o ∈ back.flatMap Backend.configuration) (card : o.card = h.card) :
    ∀ g ∈ (front ++ a :: back).flatMap Backend.configuration, g.key = h.key → g.struck = h.struck := by
  have mine : h.card ∈ cards (Backend.configuration a) := (Configuration.mem_cards _ _).2 ⟨h, hh, rfl⟩
  have theirs : ∀ ls : List α, o ∈ ls.flatMap Backend.configuration →
      0 < ls.countP (fun b => h.card ∈ cards (Backend.configuration b)) := by
    intro ls hls
    obtain ⟨b, hb, hob⟩ := List.mem_flatMap.1 hls
    exact List.countP_pos_iff.2 ⟨b, hb, decide_eq_true ((Configuration.mem_cards _ _).2 ⟨o, hob, card⟩)⟩
  have several : 1 < (front ++ a :: back).countP (fun b => h.card ∈ cards (Backend.configuration b)) := by
    rw [List.countP_append, List.countP_cons, if_pos (decide_eq_true mine)]
    rcases ho with ho | ho
    · have := theirs front ho
      omega
    · have := theirs back ho
      omega
  exact agree h (List.mem_flatMap.2 ⟨a, by simp, hh⟩) several

theorem apart (agree : NamesAgree (front ++ a :: back)) :
    ∀ h ∈ Backend.configuration a, ∀ o ∈ back.flatMap Backend.configuration, o.key = h.key → o.struck = h.struck := by
  intro h hh o ho key
  refine agree.of_shared hh (.inr ho) (congrArg Prod.fst key) o ?_ key
  rw [List.flatMap_append, List.flatMap_cons]
  exact List.mem_append_right _ (List.mem_append_right _ ho)

theorem single (agree : NamesAgree (front ++ a :: back)) :
    ∀ h ∈ Backend.configuration a, h.card ∈ cards (front.flatMap Backend.configuration) →
      ∀ g ∈ Backend.configuration a, g.key = h.key → g.struck = h.struck := by
  intro h hh shared g hg key
  obtain ⟨o, ho, card⟩ := (Configuration.mem_cards _ _).1 shared
  exact agree.of_shared hh (.inl ho) card g (List.mem_flatMap.2 ⟨a, by simp, hg⟩) key

end NamesAgree

variable [Leaf α]

/-- A merging leaf in a pass that goes through. -/
theorem offerShares_cons_through (conf : Configuration) (earlier : List CardId) (k : Nat) (a : α) (ls : List α)
    (merging : Leaf.merges a = true) (through : (offerShares conf earlier k (a :: ls)).stop = none) :
    ∃ a', (offerShares conf earlier k (a :: ls)).members =
        a' :: (offerShares conf (earlier ++ cards (Backend.configuration a)) (k + 1) ls).members ∧
      (offerShares conf (earlier ++ cards (Backend.configuration a)) (k + 1) ls).stop = none ∧
      Backend.configuration a' = (share conf earlier a).foldl Adapter.overwrite (Backend.configuration a) ∧
      Leaf.merges a' = true := by
  by_cases idle : share conf earlier a = []
  · rw [Cluster.offerShares_cons_idle conf earlier k a ls idle] at through ⊢
    exact ⟨a, rfl, through, by rw [idle]; rfl, merging⟩
  · by_cases ok : (Backend.apply a (share conf earlier a)).answer = .ok true
    · obtain ⟨card, pass⟩ := Cluster.offerShares_cons_accepted conf earlier k a ls idle ok
      rw [pass] at through ⊢
      refine ⟨_, rfl, through, ?_, ?_⟩
      · rw [Leaf.accepted a _ ok, if_pos merging]
      · rw [Leaf.merges_apply, merging]
    · obtain ⟨card, pass⟩ := Cluster.offerShares_cons_stopped conf earlier k a ls idle ok
      rw [pass] at through
      cases through

/-- Leaves between others that went through a request, and then through a snapshot of all, are left renewed. -/
theorem shown_of_given_back (front ls back : List α) (conf snapshot : Configuration) (beyond earlier : List CardId)
    (k k' : Nat) (merging : ∀ a ∈ ls, Leaf.merges a = true) (agree : NamesAgree (front ++ ls ++ back))
    (joined : unnumbered snapshot = unnumbered ((front ++ ls ++ back).flatMap Backend.configuration))
    (beyond_front : ∀ c ∈ cards (front.flatMap Backend.configuration), c ∈ beyond)
    (reach : ∀ c, c ∈ earlier ↔ c ∈ cards (front.flatMap Backend.configuration))
    (through : (offerShares conf beyond k ls).stop = none)
    (back_through : (offerShares snapshot earlier k' (offerShares conf beyond k ls).members).stop = none) :
    (offerShares snapshot earlier k' (offerShares conf beyond k ls).members).members.map
        (fun a => unnumbered (Backend.configuration a)) =
      ls.map fun a => unnumbered (renewed (Backend.configuration a)) := by
  induction ls generalizing front beyond earlier k k' with
  | nil => simp [Cluster.offerShares_nil]
  | cons a ls ih =>
    obtain ⟨here, later⟩ := List.forall_mem_cons.1 merging
    obtain ⟨a', hmembers, hthrough, hconf, hmerges⟩ := offerShares_cons_through conf beyond k a ls here through
    rw [hmembers] at back_through ⊢
    obtain ⟨a'', hmembers', hthrough', hconf', -⟩ :=
      offerShares_cons_through snapshot earlier k' a' _ hmerges back_through
    have keys : cards (Backend.configuration a') = cards (Backend.configuration a) :=
      Configuration.cards_of_keys (by rw [hconf, Adapter.map_key_foldl_overwrite])
    have around : front ++ a :: ls ++ back = front ++ a :: (ls ++ back) := List.append_assoc front (a :: ls) back
    rw [around] at agree joined
    have head : unnumbered (Backend.configuration a'') = unnumbered (renewed (Backend.configuration a)) := by
      have given : share snapshot earlier a' =
          snapshot.ofCards ((cards (Backend.configuration a)).filter (· ∉ earlier)) := by rw [share, keys]
      rw [hconf', hconf, given]
      refine Configuration.unnumbered_given_back (front.flatMap Backend.configuration) _
        ((ls ++ back).flatMap Backend.configuration) snapshot _ earlier reach ?_ agree.apart agree.single ?_
      · rw [joined, List.flatMap_append, List.flatMap_cons, List.append_assoc]
      · intro o ho hearlier
        have out := (List.mem_filter.1 ((Configuration.mem_ofCards _ _ _).1 ho).2).2
        exact of_decide_eq_true out (beyond_front _ ((reach _).1 hearlier))
    have moved : front ++ a :: (ls ++ back) = front ++ [a] ++ ls ++ back := by simp
    rw [moved] at agree joined
    have own : ∀ c, c ∈ cards ((front ++ [a]).flatMap Backend.configuration) ↔
        c ∈ cards (front.flatMap Backend.configuration) ∨ c ∈ cards (Backend.configuration a) := by
      intro c
      simp only [Configuration.mem_cards_flatMap, List.mem_append, List.mem_singleton, or_and_right, exists_or,
        exists_eq_left]
    rw [keys] at hmembers' hthrough'
    have tail := ih (front ++ [a]) _ (earlier ++ cards (Backend.configuration a)) (k + 1) (k' + 1) later agree joined
      (fun c hc => List.mem_append.2 (((own c).1 hc).imp (beyond_front c) id))
      (fun c => by rw [List.mem_append, reach, own]) hthrough hthrough'
    rw [hmembers', List.map_cons, List.map_cons, head, tail]

end

end Multihead
