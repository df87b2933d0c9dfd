import Multihead.Proofs.Display.Dispatch
import Multihead.Proofs.Display.Numbering

/-! # Passes that share out a request
A pass in which every member is handed its share of one request. Members side by side share as one list does: those
in front take the outputs of their cards, and those behind share out what is left. -/

set_option autoImplicit false

namespace Multihead.Cluster

open Multihead.Configuration (cards)

variable {α : Type} [Backend α]

/-- The cards of each backend. -/
def cardsOf (ms : List α) : List (List CardId) := ms.map fun m => cards (Backend.configuration m)

@[simp] theorem cardsOf_nil : cardsOf ([] : List α) = [] := rfl

@[simp] theorem cardsOf_cons (m : α) (ms : List α) :
    cardsOf (m :: ms) = cards (Backend.configuration m) :: cardsOf ms := rfl

@[simp] theorem cardsOf_append (xs ys : List α) : cardsOf (xs ++ ys) = cardsOf xs ++ cardsOf ys := List.map_append

theorem length_cardsOf (ms : List α) : (cardsOf ms).length = ms.length := List.length_map _

theorem mem_cardsOf (ms : List α) (c : CardId) :
    c ∈ (cardsOf ms).flatten ↔ ∃ m ∈ ms, c ∈ cards (Backend.configuration m) := by
  simp [cardsOf]

theorem mem_cards_configuration (g : Cluster α) (c : CardId) :
    c ∈ cards g.configuration ↔ ∃ m ∈ g.members, c ∈ cards (Backend.configuration m) := by
  rw [Configuration.cards_congr g.unnumbered_configuration, Configuration.mem_cards_flatMap]

/-- What a request holds for a backend, with the cards in `earlier` out of reach. -/
def share (conf : Configuration) (earlier : List CardId) (m : α) : Configuration :=
  conf.ofCards ((cards (Backend.configuration m)).filter (· ∉ earlier))

theorem share_eq_nil_iff (conf : Configuration) (earlier : List CardId) (m : α) :
    share conf earlier m = [] ↔ ∀ o ∈ conf, o.card ∈ cards (Backend.configuration m) → o.card ∈ earlier := by
  simp only [share, List.eq_nil_iff_forall_not_mem, Configuration.mem_ofCards, List.mem_filter, decide_eq_true_eq,
    not_and, not_not]

theorem exists_slice (conf : Configuration) (earlier : List CardId) (m : α) (some_share : share conf earlier m ≠ []) :
    ∃ card, Slice.ofOutputs (cards (Backend.configuration m)) (share conf earlier m) =
      some ⟨card, share conf earlier m⟩ := by
  cases hs : Slice.ofOutputs (cards (Backend.configuration m)) (share conf earlier m) with
  | none =>
    refine absurd ((Slice.ofOutputs_eq_none_iff _ _ fun _ none_owned => some_share ?_).1 hs) some_share
    rw [share, none_owned]
    rfl
  | some s =>
    obtain ⟨-, same, -⟩ := (Slice.ofOutputs_eq_some_iff _ _ _).1 hs
    exact ⟨s.card, by rw [same]⟩

theorem shares_cons (conf : Configuration) (earlier : List CardId) (m : α) (ms : List α) :
    Slice.shares conf earlier (cardsOf (m :: ms)) =
      Slice.ofOutputs (cards (Backend.configuration m)) (share conf earlier m) ::
        Slice.shares conf (earlier ++ cards (Backend.configuration m)) (cardsOf ms) := rfl

theorem slice_of_no_share (conf : Configuration) (earlier : List CardId) (m : α) (idle : share conf earlier m = []) :
    Slice.ofOutputs (cards (Backend.configuration m)) (share conf earlier m) = none :=
  (Slice.ofOutputs_eq_none_iff _ _ fun some_share => absurd idle some_share).2 idle

theorem share_still_nil (conf : Configuration) (earlier more : List CardId) (m : α) (idle : share conf earlier m = []) :
    share conf (earlier ++ more) m = [] :=
  (share_eq_nil_iff _ _ _).2 fun o ho hc => List.mem_append_left more ((share_eq_nil_iff _ _ _).1 idle o ho hc)

/-- What a cluster is handed for its cards is shared out among its members as the whole request is. -/
theorem slices_share (g : Cluster α) (conf : Configuration) (earlier : List CardId) :
    g.slices (share conf earlier g) = Slice.shares conf earlier (cardsOf g.members) := by
  have sub : ∀ mine ∈ cardsOf g.members, ∀ c ∈ mine, c ∈ cards g.configuration := by
    intro mine hmine c hc
    obtain ⟨m, hm, rfl⟩ := List.mem_map.1 hmine
    exact (mem_cards_configuration g c).2 ⟨m, hm, hc⟩
  have again := Slice.shares_ofCards conf (cards g.configuration) earlier [] (cardsOf g.members)
    (Configuration.nodup_cards _) sub
  rw [List.append_nil] at again
  rw [g.slices_eq_shares, ← again]
  rfl

/-! ## Offering -/

/-- Offers every member its share, the first standing at place `k`. -/
def offerShares (conf : Configuration) (earlier : List CardId) (k : Nat) (ms : List α) : Pass α :=
  offerFrom k ms (Slice.shares conf earlier (cardsOf ms))

theorem offerFrom_slices (g : Cluster α) (conf : Configuration) :
    offerFrom 0 g.members (g.slices conf) = offerShares conf [] 0 g.members := by
  rw [slices_eq_shares]
  rfl

theorem offerShares_nil (conf : Configuration) (earlier : List CardId) (k : Nat) :
    offerShares conf earlier k ([] : List α) = ⟨[], [], none, [], []⟩ :=
  offerFrom_nil k _

section
variable (conf : Configuration) (earlier : List CardId) (k : Nat) (m : α) (ms : List α)

theorem offerShares_cons_idle (idle : share conf earlier m = []) :
    offerShares conf earlier k (m :: ms) =
      { offerShares conf (earlier ++ cards (Backend.configuration m)) (k + 1) ms with
        members := m :: (offerShares conf (earlier ++ cards (Backend.configuration m)) (k + 1) ms).members } := by
  rw [offerShares, shares_cons, slice_of_no_share conf earlier m idle, offerFrom_skip]
  rfl

theorem offerShares_cons_accepted (some_share : share conf earlier m ≠ [])
    (ok : (Backend.apply m (share conf earlier m)).answer = .ok true) :
    ∃ card, offerShares conf earlier k (m :: ms) =
      let r := Backend.apply m (share conf earlier m)
      let more := offerShares conf (earlier ++ cards (Backend.configuration m)) (k + 1) ms
      ⟨r.state :: more.members, ⟨k, ⟨card, share conf earlier m⟩, .ok true⟩ :: more.calls, more.stop,
        r.asked ++ more.asked, r.undone ++ more.undone⟩ := by
  obtain ⟨card, slice⟩ := exists_slice conf earlier m some_share
  refine ⟨card, ?_⟩
  rw [offerShares, shares_cons, slice, offerFrom_accepted k m ms _ _ ok]
  rfl

theorem offerShares_cons_stopped (some_share : share conf earlier m ≠ [])
    (no : (Backend.apply m (share conf earlier m)).answer ≠ .ok true) :
    ∃ card, offerShares conf earlier k (m :: ms) =
      let r := Backend.apply m (share conf earlier m)
      ⟨r.state :: ms, [⟨k, ⟨card, share conf earlier m⟩, r.answer⟩], some ⟨k, complaint r.answer⟩, r.asked,
        r.undone⟩ := by
  obtain ⟨card, slice⟩ := exists_slice conf earlier m some_share
  refine ⟨card, ?_⟩
  rw [offerShares, shares_cons, slice, offerFrom_stopped k m ms _ _ no]

end

theorem offerShares_single (conf : Configuration) (earlier : List CardId) (k : Nat) (m : α)
    (some_share : share conf earlier m ≠ []) :
    ∃ calls stop, offerShares conf earlier k [m] =
        ⟨[(Backend.apply m (share conf earlier m)).state], calls, stop, (Backend.apply m (share conf earlier m)).asked,
          (Backend.apply m (share conf earlier m)).undone⟩ ∧
      (stop = none ↔ (Backend.apply m (share conf earlier m)).answer = .ok true) := by
  by_cases ok : (Backend.apply m (share conf earlier m)).answer = .ok true
  · obtain ⟨card, pass⟩ := offerShares_cons_accepted conf earlier k m [] some_share ok
    simp only [offerShares_nil, List.append_nil] at pass
    exact ⟨_, none, pass, iff_of_true rfl ok⟩
  · obtain ⟨card, pass⟩ := offerShares_cons_stopped conf earlier k m [] some_share ok
    exact ⟨_, some _, pass, iff_of_false (by simp) ok⟩

/-- Nobody is asked if the request holds nothing for anybody. -/
theorem offerShares_idle (conf : Configuration) (earlier : List CardId) (k : Nat) (ms : List α)
    (idle : ∀ m ∈ ms, share conf earlier m = []) : offerShares conf earlier k ms = ⟨ms, [], none, [], []⟩ := by
  induction ms generalizing earlier k with
  | nil => exact offerShares_nil conf earlier k
  | cons m ms ih =>
    obtain ⟨here, later⟩ := List.forall_mem_cons.1 idle
    rw [offerShares_cons_idle conf earlier k m ms here,
      ih _ (k + 1) fun m' hm' => share_still_nil conf earlier _ m' (later m' hm')]

theorem offerShares_congr (conf : Configuration) (earlier earlier' : List CardId) (k : Nat) (ms : List α)
    (same : ∀ c, c ∈ earlier ↔ c ∈ earlier') : offerShares conf earlier k ms = offerShares conf earlier' k ms := by
  rw [offerShares, offerShares, Slice.shares_congr conf earlier earlier' _ same]

theorem offerShares_append_through (conf : Configuration) (earlier : List CardId) (k : Nat) (xs ys : List α)
    (through : (offerShares conf earlier k xs).stop = none) :
    offerShares conf earlier k (xs ++ ys) =
      let first := offerShares conf earlier k xs
      let second := offerShares conf (earlier ++ (cardsOf xs).flatten) (k + xs.length) ys
      ⟨first.members ++ second.members, first.calls ++ second.calls, second.stop, first.asked ++ second.asked,
        first.undone ++ second.undone⟩ := by
  have length : xs.length = (Slice.shares conf earlier (cardsOf xs)).length := by
    rw [Slice.length_shares, length_cardsOf]
  rw [offerShares, cardsOf_append, Slice.shares_append, offerFrom_append_through k xs ys _ _ length through]
  rfl

theorem offerShares_append_stopped (conf : Configuration) (earlier : List CardId) (k : Nat) (xs ys : List α)
    (stopped : (offerShares conf earlier k xs).stop ≠ none) :
    offerShares conf earlier k (xs ++ ys) =
      { offerShares conf earlier k xs with members := (offerShares conf earlier k xs).members ++ ys } := by
  rw [offerShares, cardsOf_append, Slice.shares_append, offerFrom_append_stopped k xs ys _ _ stopped]
  rfl

/-- A pass that stopped went through the members in front of one that was handed a share and did not accept. -/
theorem exists_stopping_member (conf : Configuration) (earlier : List CardId) (k : Nat) (ms : List α)
    (stopped : (offerShares conf earlier k ms).stop ≠ none) :
    ∃ front m rest, ms = front ++ m :: rest ∧ (offerShares conf earlier k front).stop = none ∧
      share conf (earlier ++ (cardsOf front).flatten) m ≠ [] ∧
      (Backend.apply m (share conf (earlier ++ (cardsOf front).flatten) m)).answer ≠ .ok true := by
  induction ms generalizing earlier k with
  | nil => exact absurd (by rw [offerShares_nil]) stopped
  | cons m ms ih =>
    -- a member that does not stop the pass stands in front
    have onward : (∀ xs : List α, (offerShares conf earlier k (m :: xs)).stop =
          (offerShares conf (earlier ++ cards (Backend.configuration m)) (k + 1) xs).stop) →
        ∃ front m' rest, m :: ms = front ++ m' :: rest ∧ (offerShares conf earlier k front).stop = none ∧
          share conf (earlier ++ (cardsOf front).flatten) m' ≠ [] ∧
          (Backend.apply m' (share conf (earlier ++ (cardsOf front).flatten) m')).answer ≠ .ok true := by
      intro passes
      rw [passes ms] at stopped
      obtain ⟨front, m', rest, rfl, through, some_share, no⟩ := ih _ (k + 1) stopped
      rw [List.append_assoc] at some_share no
      exact ⟨m :: front, m', rest, rfl, (passes front).trans through, some_share, no⟩
    by_cases some_share : share conf earlier m = []
    · exact onward fun xs => by rw [offerShares_cons_idle conf earlier k m xs some_share]
    · by_cases ok : (Backend.apply m (share conf earlier m)).answer = .ok true
      · refine onward fun xs => ?_
        obtain ⟨card, pass⟩ := offerShares_cons_accepted conf earlier k m xs some_share ok
        rw [pass]
      · exact ⟨[], m, ms, rfl, by rw [offerShares_nil], by simpa using some_share, by simpa using ok⟩

theorem offerShares_of_stopping (conf : Configuration) (earlier : List CardId) (k : Nat) (front : List α) (m : α)
    (rest : List α) (through : (offerShares conf earlier k front).stop = none)
    (some_share : share conf (earlier ++ (cardsOf front).flatten) m ≠ [])
    (no : (Backend.apply m (share conf (earlier ++ (cardsOf front).flatten) m)).answer ≠ .ok true) :
    ∃ last, offerShares conf earlier k (front ++ m :: rest) =
      let first := offerShares conf earlier k front
      let r := Backend.apply m (share conf (earlier ++ (cardsOf front).flatten) m)
      ⟨first.members ++ r.state :: rest, first.calls ++ [last], some ⟨k + front.length, complaint r.answer⟩,
        first.asked ++ r.asked, first.undone ++ r.undone⟩ := by
  obtain ⟨card, pass⟩ := offerShares_cons_stopped conf _ (k + front.length) m rest some_share no
  rw [offerShares_append_through conf earlier k front (m :: rest) through, pass]
  exact ⟨_, rfl⟩

/-! ## Configuring -/

/-- Configures every member with its share, the first standing at place `k`. -/
def configureShares (conf : Configuration) (earlier : List CardId) (k : Nat) (ms : List α) : ModeSet α :=
  configureFrom k ms (Slice.shares conf earlier (cardsOf ms))

theorem configureFrom_slices (g : Cluster α) (conf : Configuration) :
    configureFrom 0 g.members (g.slices conf) = configureShares conf [] 0 g.members := by
  rw [slices_eq_shares]
  rfl

theorem configureShares_nil (conf : Configuration) (earlier : List CardId) (k : Nat) :
    configureShares conf earlier k ([] : List α) = ⟨.ok (), [], [], []⟩ :=
  configureFrom_nil k _

theorem configureShares_idle (conf : Configuration) (earlier : List CardId) (k : Nat) (ms : List α)
    (idle : ∀ m ∈ ms, share conf earlier m = []) : configureShares conf earlier k ms = ⟨.ok (), ms, [], []⟩ := by
  induction ms generalizing earlier k with
  | nil => exact configureShares_nil conf earlier k
  | cons m ms ih =>
    obtain ⟨here, later⟩ := List.forall_mem_cons.1 idle
    have rest := ih (earlier ++ cards (Backend.configuration m)) (k + 1) fun m' hm' =>
      share_still_nil conf earlier _ m' (later m' hm')
    rw [configureShares] at rest ⊢
    rw [shares_cons, slice_of_no_share conf earlier m here, configureFrom_skip, rest]

theorem configureShares_single (conf : Configuration) (earlier : List CardId) (k : Nat) (m : α)
    (some_share : share conf earlier m ≠ []) :
    ∃ card, configureShares conf earlier k [m] =
      let r := Backend.configure m (share conf earlier m)
      ⟨r.answer.mapError (.outputsOf card), [r.state], [⟨k, ⟨card, share conf earlier m⟩, r.answer⟩], r.events⟩ := by
  obtain ⟨card, slice⟩ := exists_slice conf earlier m some_share
  refine ⟨card, ?_⟩
  rw [configureShares, shares_cons, slice]
  cases answer : (Backend.configure m (share conf earlier m)).answer with
  | ok u =>
    rw [configureFrom_accepted k m [] _ _ answer, configureFrom_nil, List.append_nil]
    simp only [answer, Except.mapError]
  | error e =>
    rw [configureFrom_failed k m [] _ _ e answer]
    simp only [answer, Except.mapError]

theorem configureShares_congr (conf : Configuration) (earlier earlier' : List CardId) (k : Nat) (ms : List α)
    (same : ∀ c, c ∈ earlier ↔ c ∈ earlier') :
    configureShares conf earlier k ms = configureShares conf earlier' k ms := by
  rw [configureShares, configureShares, Slice.shares_congr conf earlier earlier' _ same]

theorem configureShares_append_through (conf : Configuration) (earlier : List CardId) (k : Nat) (xs ys : List α)
    (through : (configureShares conf earlier k xs).answer = .ok ()) :
    configureShares conf earlier k (xs ++ ys) =
      let first := configureShares conf earlier k xs
      let second := configureShares conf (earlier ++ (cardsOf xs).flatten) (k + xs.length) ys
      ⟨second.answer, first.members ++ second.members, first.calls ++ second.calls, first.events ++ second.events⟩ := by
  have length : xs.length = (Slice.shares conf earlier (cardsOf xs)).length := by
    rw [Slice.length_shares, length_cardsOf]
  rw [configureShares, cardsOf_append, Slice.shares_append, configureFrom_append_through k xs ys _ _ length through]
  rfl

theorem configureShares_append_failed (conf : Configuration) (earlier : List CardId) (k : Nat) (xs ys : List α)
    (failed : (configureShares conf earlier k xs).answer ≠ .ok ()) :
    configureShares conf earlier k (xs ++ ys) =
      { configureShares conf earlier k xs with members := (configureShares conf earlier k xs).members ++ ys } := by
  rw [configureShares, cardsOf_append, Slice.shares_append, configureFrom_append_failed k xs ys _ _ failed]
  rfl

end Multihead.Cluster
