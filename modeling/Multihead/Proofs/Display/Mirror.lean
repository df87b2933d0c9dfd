import Multihead.Proofs.Display.Nesting
import Multihead.Proofs.Display.SharePass

/-! # Passes over nests and over their leaves
A nest cuts what it is handed into slices anew, and yet its leaves are handed what they would have been handed had the
request been shared out among them in the first place. A pass over nests and the pass over all their leaves make the
same calls, and one goes through if, and only if, the other does. -/

set_option autoImplicit false

namespace Multihead

/-- The error without the members and creations that it passed through. -/
def ConfigureError.origin : ConfigureError → ConfigureError
  | outputsOf _ e | firstLayout e => e.origin
  | display e => display e
  | refusal reason => refusal reason

theorem origin_outputsOf (answer : Except ConfigureError Unit) (card : CardId) :
    (answer.mapError (.outputsOf card)).mapError ConfigureError.origin = answer.mapError ConfigureError.origin := by
  cases answer <;> rfl

theorem ok_congr_of_origin {a b : Except ConfigureError Unit}
    (h : a.mapError ConfigureError.origin = b.mapError ConfigureError.origin) : a = .ok () ↔ b = .ok () := by
  cases a <;> cases b <;> simp_all [Except.mapError]

namespace Nest

open Multihead.Cluster (share cardsOf ModeSet Pass offerShares configureShares)
open Multihead.Configuration (cards)

variable {α : Type} [Backend α]

/-! ## The shares of a nest and of its leaves -/

theorem reach_iff (n : Nat) (ms : List (Nest α n)) (earlier : List CardId) (c : CardId) :
    c ∈ earlier ++ (cardsOf ms).flatten ↔ c ∈ earlier ++ (cardsOf (ms.flatMap (leaves n))).flatten := by
  simp only [List.mem_append, Cluster.mem_cardsOf, mem_cards, List.mem_flatMap]
  constructor
  · rintro (h | ⟨m, hm, a, ha, hc⟩)
    · exact .inl h
    · exact .inr ⟨a, ⟨m, hm, ha⟩, hc⟩
  · rintro (h | ⟨a, ⟨m, hm, ha⟩, hc⟩)
    · exact .inl h
    · exact .inr ⟨m, hm, a, ha, hc⟩

theorem share_leaf (conf : Configuration) (earlier : List CardId) (n : Nat) (a : α) :
    share conf earlier (leaf a n) = share conf earlier a := by
  rw [share, share, configuration_leaf]

theorem share_leaves_nil (conf : Configuration) (earlier : List CardId) (n : Nat) (t : Nest α n)
    (idle : share conf earlier t = []) : ∀ a ∈ leaves n t, share conf earlier a = [] := by
  intro a ha
  rw [Cluster.share_eq_nil_iff] at idle ⊢
  intro o ho hc
  exact idle o ho ((mem_cards n t _).2 ⟨a, ha, hc⟩)

/-! ## Mode-sets -/

/-- The same calls with the same effect, and a failure of the same origin. -/
structure SameModeSet {n : Nat} (r : ModeSet (Nest α n)) (q : ModeSet α) : Prop where
  events : r.events = q.events
  leaves : r.members.flatMap (leaves n) = q.members
  answer : r.answer.mapError ConfigureError.origin = q.answer.mapError ConfigureError.origin

/-- A mode-set of the nest mirrors one of its leaves. -/
def Configures (n : Nat) (t : Nest α n) : Prop :=
  ∀ conf earlier k k', SameModeSet (configureShares conf earlier k [t]) (configureShares conf earlier k' (leaves n t))

theorem configureShares_mirrors {n : Nat} (ms : List (Nest α n)) (each : ∀ m ∈ ms, Configures n m)
    (conf : Configuration) (earlier : List CardId) (k k' : Nat) :
    SameModeSet (configureShares conf earlier k ms) (configureShares conf earlier k' (ms.flatMap (leaves n))) := by
  induction ms generalizing earlier k k' with
  | nil => exact ⟨rfl, rfl, rfl⟩
  | cons m ms ih =>
    obtain ⟨here, later⟩ := List.forall_mem_cons.1 each
    have front := here conf earlier k k'
    have oks := ok_congr_of_origin front.answer
    rw [List.flatMap_cons, ← List.singleton_append]
    by_cases ok : (configureShares conf earlier k [m]).answer = .ok ()
    · -- what is behind shares out what is left, be the cards in front counted by nest or by leaf
      have reach := reach_iff n [m] earlier
      rw [List.flatMap_singleton] at reach
      have rest := ih later (earlier ++ (cardsOf [m]).flatten) (k + [m].length) (k' + (leaves n m).length)
      rw [Cluster.configureShares_congr conf _ _ (k' + (leaves n m).length) _ reach] at rest
      rw [Cluster.configureShares_append_through conf earlier k [m] ms ok,
        Cluster.configureShares_append_through conf earlier k' (leaves n m) _ (oks.1 ok)]
      refine ⟨?_, ?_, rest.answer⟩
      · exact congrArg₂ _ front.events rest.events
      · rw [List.flatMap_append, front.leaves, rest.leaves]
    · rw [Cluster.configureShares_append_failed conf earlier k [m] ms ok,
        Cluster.configureShares_append_failed conf earlier k' (leaves n m) _ (mt oks.2 ok)]
      refine ⟨front.events, ?_, front.answer⟩
      rw [List.flatMap_append, front.leaves]

theorem modeSet_mirrors {n : Nat} (g : Cluster (Nest α n)) (usable : g.incomplete = none)
    (each : ∀ m ∈ g.members, Configures n m) (request conf : Configuration) (earlier : List CardId) (k : Nat)
    (slices : g.slices request = Slice.shares conf earlier (cardsOf g.members)) :
    SameModeSet (g.modeSet request) (configureShares conf earlier k g.flat.members) := by
  rw [g.modeSet_of_usable request usable, slices]
  exact configureShares_mirrors g.members each conf earlier 0 k

theorem sameModeSet_of_idle {n : Nat} {t : Nest α n} {conf : Configuration} {earlier : List CardId} {k k' : Nat}
    (idle : share conf earlier t = []) :
    SameModeSet (configureShares conf earlier k [t]) (configureShares conf earlier k' (leaves n t)) := by
  rw [Cluster.configureShares_idle conf earlier k' _ (share_leaves_nil conf earlier n t idle),
    Cluster.configureShares_idle conf earlier k [t] (by simpa using idle)]
  exact ⟨rfl, by simp, rfl⟩

theorem configures (n : Nat) (t : Nest α n) (usable : Usable n t) : Configures n t := by
  induction n, t using Nest.induction with
  | onLeaf n a =>
    intro conf earlier k k'
    by_cases idle : share conf earlier (leaf a n) = []
    · exact sameModeSet_of_idle idle
    · obtain ⟨card, pass⟩ := Cluster.configureShares_single conf earlier k (leaf a n) idle
      obtain ⟨card', pass'⟩ := Cluster.configureShares_single conf earlier k' a (by rwa [share_leaf] at idle)
      rw [leaves_leaf, pass, pass', share_leaf, configure_leaf]
      exact ⟨rfl, by simp, by rw [origin_outputsOf, origin_outputsOf]⟩
  | onCluster n g ih =>
    intro conf earlier k k'
    by_cases idle : share conf earlier (cluster g) = []
    · exact sameModeSet_of_idle idle
    · have inner := modeSet_mirrors g usable.1 (fun m hm => ih m (usable.2.2 m hm)) _ conf earlier k'
        (g.slices_share conf earlier)
      obtain ⟨card, pass⟩ := Cluster.configureShares_single conf earlier k (cluster g) idle
      rw [pass]
      refine ⟨inner.events, ?_, ?_⟩
      · rw [List.flatMap_singleton]
        exact inner.leaves
      · rw [origin_outputsOf]
        exact inner.answer

/-! ## Passes -/

/-- The same calls, and the same effect if they all are accepted. -/
structure SamePass {n : Nat} (p : Pass (Nest α n)) (q : Pass α) : Prop where
  asked : p.asked = q.asked
  stop : p.stop = none ↔ q.stop = none
  leaves : q.stop = none → p.members.flatMap (leaves n) = q.members
  usable : q.stop = none → ∀ m ∈ p.members, Usable n m

/-- Offering the nest something mirrors offering it to its leaves. -/
def Offers (n : Nat) (t : Nest α n) : Prop :=
  ∀ conf earlier k k', SamePass (offerShares conf earlier k [t]) (offerShares conf earlier k' (leaves n t))

theorem offerShares_mirrors {n : Nat} (ms : List (Nest α n)) (each : ∀ m ∈ ms, Offers n m) (conf : Configuration)
    (earlier : List CardId) (k k' : Nat) :
    SamePass (offerShares conf earlier k ms) (offerShares conf earlier k' (ms.flatMap (leaves n))) := by
  induction ms generalizing earlier k k' with
  | nil =>
    rw [List.flatMap_nil, Cluster.offerShares_nil, Cluster.offerShares_nil]
    exact ⟨rfl, Iff.rfl, fun _ => rfl, fun _ => by simp⟩
  | cons m ms ih =>
    obtain ⟨here, later⟩ := List.forall_mem_cons.1 each
    have front := here conf earlier k k'
    rw [List.flatMap_cons, ← List.singleton_append]
    by_cases through : (offerShares conf earlier k [m]).stop = none
    · have reach := reach_iff n [m] earlier
      rw [List.flatMap_singleton] at reach
      have rest := ih later (earlier ++ (cardsOf [m]).flatten) (k + [m].length) (k' + (leaves n m).length)
      rw [Cluster.offerShares_congr conf _ _ (k' + (leaves n m).length) _ reach] at rest
      have frontThrough := front.stop.1 through
      rw [Cluster.offerShares_append_through conf earlier k [m] ms through,
        Cluster.offerShares_append_through conf earlier k' (leaves n m) _ frontThrough]
      refine ⟨congrArg₂ _ front.asked rest.asked, rest.stop, fun h => ?_, fun h => ?_⟩
      · rw [List.flatMap_append, front.leaves frontThrough, rest.leaves h]
      · exact List.forall_mem_append.2 ⟨front.usable frontThrough, rest.usable h⟩
    · have stopped := mt front.stop.2 through
      rw [Cluster.offerShares_append_stopped conf earlier k [m] ms through,
        Cluster.offerShares_append_stopped conf earlier k' (leaves n m) _ stopped]
      exact ⟨front.asked, iff_of_false through stopped, fun h => absurd h stopped, fun h => absurd h stopped⟩

/-- Applying a cluster mirrors a pass over its leaves. -/
theorem apply_mirrors {n : Nat} (g : Cluster (Nest α n)) (usable : Usable (n + 1) (cluster g))
    (each : ∀ m ∈ g.members, Offers n m) (request conf : Configuration) (earlier : List CardId) (k : Nat)
    (slices : g.slices request = Slice.shares conf earlier (cardsOf g.members)) :
    (g.apply request).asked = (offerShares conf earlier k g.flat.members).asked ∧
      ((g.apply request).answer = .ok true ↔ (offerShares conf earlier k g.flat.members).stop = none) ∧
      ((offerShares conf earlier k g.flat.members).stop = none →
        (g.apply request).state.flat.members = (offerShares conf earlier k g.flat.members).members ∧
          Usable (n + 1) (cluster (g.apply request).state)) := by
  have inner : SamePass (offerShares conf earlier 0 g.members) (offerShares conf earlier k g.flat.members) :=
    offerShares_mirrors g.members each conf earlier 0 k
  have length : (offerShares conf earlier 0 g.members).members.length = g.members.length :=
    (Cluster.offerFrom_walk 0 g.members _).length
  have nonempty : (offerShares conf earlier 0 g.members).members ≠ [] := by
    rw [← List.length_pos_iff, length, List.length_pos_iff]
    exact usable.2.1
  obtain ⟨-, asked, -⟩ := g.application_two_passes request usable.1
  obtain ⟨through, state⟩ := g.application_of_through request usable.1
  rw [slices] at asked through state
  refine ⟨asked.trans inner.asked, through.trans inner.stop, fun h => ?_⟩
  have state : (g.apply request).state = ⟨(offerShares conf earlier 0 g.members).members, none⟩ :=
    state (inner.stop.2 h)
  rw [state]
  exact ⟨inner.leaves h, rfl, nonempty, inner.usable h⟩

theorem samePass_of_idle {n : Nat} {t : Nest α n} {conf : Configuration} {earlier : List CardId} {k k' : Nat}
    (usable : Usable n t) (idle : share conf earlier t = []) :
    SamePass (offerShares conf earlier k [t]) (offerShares conf earlier k' (leaves n t)) := by
  rw [Cluster.offerShares_idle conf earlier k' _ (share_leaves_nil conf earlier n t idle),
    Cluster.offerShares_idle conf earlier k [t] (by simpa using idle)]
  exact ⟨rfl, Iff.rfl, fun _ => by simp, fun _ => by simpa using usable⟩

theorem offers (n : Nat) (t : Nest α n) (usable : Usable n t) : Offers n t := by
  induction n, t using Nest.induction with
  | onLeaf n a =>
    intro conf earlier k k'
    by_cases idle : share conf earlier (leaf a n) = []
    · exact samePass_of_idle usable idle
    · obtain ⟨calls, stop, pass, through⟩ := Cluster.offerShares_single conf earlier k (leaf a n) idle
      obtain ⟨calls', stop', pass', through'⟩ :=
        Cluster.offerShares_single conf earlier k' a (by rwa [share_leaf] at idle)
      rw [share_leaf, apply_leaf] at pass through
      rw [leaves_leaf, pass, pass']
      exact ⟨rfl, through.trans through'.symm, fun _ => by simp, fun _ => by simpa using usable_leaf n _⟩
  | onCluster n g ih =>
    intro conf earlier k k'
    by_cases idle : share conf earlier (cluster g) = []
    · exact samePass_of_idle usable idle
    · obtain ⟨asked, through, state⟩ := apply_mirrors g usable (fun m hm => ih m (usable.2.2 m hm)) _ conf earlier k'
        (g.slices_share conf earlier)
      obtain ⟨calls, stop, pass, ok⟩ := Cluster.offerShares_single conf earlier k (cluster g) idle
      rw [pass]
      refine ⟨asked, ok.trans through, fun h => ?_, fun h => ?_⟩
      · rw [List.flatMap_singleton]
        exact (state h).1
      · rw [List.forall_mem_singleton]
        exact (state h).2

end Nest

end Multihead
