import Multihead.Display.Assembly
import Multihead.Proofs.Display.Leaf
import Multihead.Proofs.Display.Pass
import Multihead.Proofs.Display.Routing

/-! # Incomplete clusters
A cluster becomes incomplete in just those applications in which a member did not accept the request and another one
did not take back what it had. It stays incomplete in every run, and an incomplete cluster answers for its members:
no request reaches them. An error of this kind that a member passed up does not make the cluster incomplete. -/

set_option autoImplicit false

namespace Multihead.Cluster

open Multihead.Configuration (cards)

variable {α : Type} [Backend α]

/-! ## Runs -/

/-- What happens to a cluster: it is used, or its members change by themselves. -/
inductive Request (α : Type) where
  | configure (conf : Configuration)
  | apply (conf : Configuration)
  | register (h : Handler)
  | pause
  | resume
  | drift (change : Nat → α → α)

def perform (g : Cluster α) : Request α → Cluster α
  | .configure conf => (g.configure conf).state
  | .apply conf => (g.apply conf).state
  | .register h => (Backend.register h g).1
  | .pause => (Backend.pause g).1
  | .resume => (Backend.resume g).1
  | .drift change => { g with members := g.members.mapIdx change }

def run (g : Cluster α) (rs : List (Request α)) : Cluster α := rs.foldl perform g

theorem run_append (g : Cluster α) (rs later : List (Request α)) : g.run (rs ++ later) = (g.run rs).run later :=
  List.foldl_append

theorem run_concat (g : Cluster α) (rs : List (Request α)) (r : Request α) :
    g.run (rs ++ [r]) = (g.run rs).perform r := run_append g rs [r]

/-! ## Refusing -/

/-- Every request is answered with this card, changes nothing and reaches no member. -/
structure Refuses (g : Cluster α) (card : CardId) : Prop where
  configure : ∀ conf, g.modeSet conf = ⟨.error (.display (.incomplete card)), g.members, [], []⟩
  apply : ∀ conf, g.application conf = ⟨.error (.incomplete card), g, [], [], [], []⟩

theorem refuses_iff (g : Cluster α) (card : CardId) : g.Refuses card ↔ g.incomplete = some card := by
  constructor
  · intro refuses
    have answer : (g.application []).answer = .error (.incomplete card) := by rw [refuses.apply]
    have calls : (g.application []).forward = [] := by rw [refuses.apply]
    cases hi : g.incomplete with
    | some c =>
      rw [application_of_incomplete g [] c hi] at answer
      simpa using answer
    | none =>
      have ends := g.application_ends [] hi
      generalize g.application [] = r at ends answer calls
      cases ends with
      | carriedOut p pass through => cases answer
      | takenBack p back t pass stopped way through => exact absurd calls (offerFrom_calls_ne_nil pass stopped)
      | stranded p back t u c pass stopped way stuck named =>
        exact absurd calls (offerFrom_calls_ne_nil pass stopped)
  · intro h
    exact ⟨fun conf => by rw [modeSet, h], fun conf => application_of_incomplete g conf card h⟩

theorem Refuses.configure_eq {g : Cluster α} {card : CardId} (refuses : g.Refuses card) (conf : Configuration) :
    g.configure conf = ⟨.error (.display (.incomplete card)), g, []⟩ := by
  rw [Cluster.configure, refuses.configure conf]

theorem Refuses.apply_eq {g : Cluster α} {card : CardId} (refuses : g.Refuses card) (conf : Configuration) :
    g.apply conf = ⟨.error (.incomplete card), g, [], []⟩ := by
  rw [Cluster.apply, refuses.apply conf]

theorem incomplete_perform (g : Cluster α) (card : CardId) (h : g.incomplete = some card) (r : Request α) :
    (g.perform r).incomplete = some card := by
  cases r with
  | apply conf =>
    change (g.application conf).cluster.incomplete = some card
    rw [application_of_incomplete g conf card h]
    exact h
  | configure conf | register handler | pause | resume | drift change => exact h

theorem incomplete_run (g : Cluster α) (card : CardId) (h : g.incomplete = some card) (rs : List (Request α)) :
    (g.run rs).incomplete = some card := by
  induction rs generalizing g with
  | nil => exact h
  | cons r rs ih => exact ih (g.perform r) (incomplete_perform g card h r)

/-! ## Becoming incomplete -/

/-- Some member did not accept its slice of `conf`, and on the way back another one did not accept its slice of the
snapshot. That member was the last one called, and `card` was its first card when the request came. -/
structure Strands (g : Cluster α) (conf : Configuration) (card : CardId) : Prop where
  refused : ∃ c ∈ (g.application conf).forward,
    (g.slices conf)[c.member]? = some (some c.slice) ∧ c.reply ≠ .ok true
  stuck : ∃ restored last m, (g.application conf).back = restored ++ [last] ∧
    (∀ c ∈ restored, c.reply = .ok true ∧ c.member < last.member) ∧
    (g.slices g.configuration)[last.member]? = some (some last.slice) ∧ last.reply ≠ .ok true ∧
    g.members[last.member]? = some m ∧ (cards (Backend.configuration m)).head? = some card

theorem slices_card (g : Cluster α) (conf : Configuration) (k : Nat) (s : Slice)
    (h : (g.slices conf)[k]? = some (some s)) :
    ∃ m, g.members[k]? = some m ∧ (cards (Backend.configuration m)).head? = some s.card := by
  obtain ⟨cs, hcs, hhead⟩ := Slice.route_card _ _ k s h
  rw [owners, List.getElem?_map, Option.map_eq_some_iff] at hcs
  obtain ⟨m, hm, rfl⟩ := hcs
  exact ⟨m, hm, hhead⟩

theorem cardAt_of_slice {slices : List (Option Slice)} {k : Nat} {s : Slice} (h : slices[k]? = some (some s)) :
    cardAt slices k = s.card := by
  rw [cardAt, h]

theorem strands_of_stop (g : Cluster α) (conf : Configuration) (p back : Pass α) (t u : Stop)
    (pass : offerFrom 0 g.members (g.slices conf) = p) (stopped : p.stop = some t)
    (way : offerFrom 0 p.members ((g.slices g.configuration).take t.member) = back) (stuck : back.stop = some u)
    (hf : (g.application conf).forward = p.calls) (hb : (g.application conf).back = back.calls) :
    g.Strands conf (cardAt (g.slices g.configuration) u.member) := by
  subst pass way
  constructor
  · obtain ⟨before, last, hcalls, -, no, -, -⟩ := offerFrom_last_call _ _ _ t stopped
    have hlast : last ∈ (g.application conf).forward := by rw [hf, hcalls]; simp
    obtain ⟨i, hi, -, hs⟩ := offerFrom_call _ _ _ last (hf ▸ hlast)
    rw [Nat.zero_add] at hi
    exact ⟨last, hlast, hi ▸ hs, no⟩
  · obtain ⟨restored, last, hcalls, hrestored, no, hmem, -⟩ := offerFrom_last_call _ _ _ u stuck
    obtain ⟨i, hi, -, hs⟩ := offerFrom_call _ _ _ last (by rw [hcalls]; simp)
    obtain rfl : last.member = i := by rw [hi, Nat.zero_add]
    have hslice : (g.slices g.configuration)[last.member]? = some (some last.slice) := by
      rw [List.getElem?_take] at hs
      split at hs
      · exact hs
      · cases hs
    obtain ⟨m, hm, hcard⟩ := slices_card g _ _ _ hslice
    rw [← hmem, cardAt_of_slice hslice]
    exact ⟨restored, last, m, hb.trans hcalls, hrestored, hslice, no, hm, hcard⟩

theorem Strands.card_eq {g : Cluster α} {conf : Configuration} {c d : CardId} (hc : g.Strands conf c)
    (hd : g.Strands conf d) : c = d := by
  obtain ⟨restored, last, m, hback, -, -, -, hm, hcard⟩ := hc.stuck
  obtain ⟨restored', last', m', hback', -, -, -, hm', hcard'⟩ := hd.stuck
  obtain ⟨-, hlast⟩ := List.append_inj' (hback.symm.trans hback') rfl
  obtain rfl : last = last' := List.head_eq_of_cons_eq hlast
  obtain rfl : m = m' := Option.some.inj (hm.symm.trans hm')
  exact Option.some.inj (hcard.symm.trans hcard')

theorem application_incomplete_iff (g : Cluster α) (conf : Configuration) (card : CardId)
    (usable : g.incomplete = none) :
    (g.application conf).cluster.incomplete = some card ↔ g.Strands conf card := by
  have ends := g.application_ends conf usable
  generalize hr : g.application conf = r at ends ⊢
  have refused_back : g.Strands conf card → ∃ c ∈ r.back, c.reply ≠ .ok true := by
    intro h
    obtain ⟨restored, last, m, hback, -, -, no, -⟩ := h.stuck
    exact ⟨last, by rw [← hr, hback]; simp, no⟩
  cases ends with
  | carriedOut p pass through =>
    refine iff_of_false (by simp) fun h => ?_
    obtain ⟨c, hc, -⟩ := refused_back h
    cases hc
  | takenBack p back t pass stopped way through =>
    refine iff_of_false (by simp) fun h => ?_
    obtain ⟨c, hc, no⟩ := refused_back h
    subst way
    exact no (offerFrom_all_accepted _ _ _ through c hc)
  | stranded p back t u c pass stopped way stuck named =>
    have strands : g.Strands conf c :=
      named ▸ strands_of_stop g conf p back t u pass stopped way stuck (by rw [hr]) (by rw [hr])
    constructor
    · intro h
      exact Option.some.inj h ▸ strands
    · intro h
      rw [strands.card_eq h]

theorem application_answer_of_incomplete (g : Cluster α) (conf : Configuration) (card : CardId)
    (h : (g.application conf).cluster.incomplete = some card) :
    (g.application conf).answer = .error (.incomplete card) := by
  cases hi : g.incomplete with
  | some c =>
    rw [application_of_incomplete g conf c hi] at h ⊢
    rw [Option.some.inj (hi.symm.trans h)]
  | none =>
    have ends := g.application_ends conf hi
    generalize g.application conf = r at ends h ⊢
    cases ends with
    | carriedOut p pass through => cases h
    | takenBack p back t pass stopped way through => cases h
    | stranded p back t u c pass stopped way stuck named => rw [Option.some.inj h]

theorem perform_incomplete_iff (g : Cluster α) (r : Request α) (card : CardId) (usable : g.incomplete = none) :
    (g.perform r).incomplete = some card ↔ ∃ conf, r = .apply conf ∧ g.Strands conf card := by
  cases r with
  | apply conf =>
    refine (application_incomplete_iff g conf card usable).trans ⟨fun h => ⟨conf, rfl, h⟩, ?_⟩
    rintro ⟨conf', he, h⟩
    cases he
    exact h
  | configure conf | register handler | pause | resume | drift change =>
    have same : ∀ g' : Cluster α, g'.incomplete = g.incomplete → g'.incomplete ≠ some card := by
      intro g' h
      rw [h, usable]
      simp
    refine iff_of_false (same _ rfl) ?_
    rintro ⟨conf, he, -⟩
    cases he

theorem create_incomplete (members : List α) (arrange : Configuration → Configuration) (g : Cluster α)
    (h : (create members arrange).1 = .ok g) : g.incomplete = none := by
  rw [create] at h
  split at h
  · cases h
  · simp only at h
    split at h
    · cases h
      rfl
    · cases h

/-- A created cluster is usable. It becomes incomplete, and names a card of one of its members, in just those
applications that strand, and from then on refuses every request in every run. -/
theorem incomplete_exactly_after_stranding (g : Cluster α) (before : List (Request α)) (card : CardId) :
    (∀ members arrange, (create members arrange).1 = .ok g → g.incomplete = none) ∧
      ((g.run before).incomplete = none → ∀ r,
        ((g.run (before ++ [r])).incomplete = some card ↔
          ∃ conf, r = .apply conf ∧ (g.run before).Strands conf card)) ∧
      ((g.run before).incomplete = none → ∀ conf, (g.run before).Strands conf card →
        ((g.run before).apply conf).answer = .error (.incomplete card) ∧
          ∃ m ∈ (g.run before).members, card ∈ cards (Backend.configuration m)) ∧
      ((g.run before).incomplete = some card → ∀ later,
        (g.run (before ++ later)).incomplete = some card ∧ (g.run (before ++ later)).Refuses card) := by
  refine ⟨fun members arrange => create_incomplete members arrange g, ?_, ?_, ?_⟩
  · intro usable r
    rw [run_concat]
    exact perform_incomplete_iff _ r card usable
  · intro usable conf strands
    constructor
    · exact application_answer_of_incomplete _ conf card ((application_incomplete_iff _ conf card usable).2 strands)
    · obtain ⟨restored, last, m, -, -, -, -, hm, hcard⟩ := strands.stuck
      exact ⟨m, List.mem_of_getElem? hm, List.mem_of_head? hcard⟩
  · intro poisoned later
    have h := incomplete_run _ card poisoned later
    rw [run_append]
    exact ⟨h, (refuses_iff _ card).2 h⟩

/-- Two adapters: the second refuses what the first accepts, and the first does not take it back. -/
def twoCards : Cluster Adapter :=
  ⟨[.holding 0 [.unlit 5 "A"] [.accept, .reject], .holding 1 [.unlit 7 "A"] [.reject]], none⟩

theorem twoCards_incomplete : twoCards.Strands twoCards.configuration ⟨5⟩ ∧
    (twoCards.apply twoCards.configuration).answer = .error (.incomplete ⟨5⟩) ∧
    ∀ later, (twoCards.run ([.apply twoCards.configuration] ++ later)).incomplete = some ⟨5⟩ ∧
      (twoCards.run ([.apply twoCards.configuration] ++ later)).Refuses ⟨5⟩ := by
  obtain ⟨-, becomes, names, -⟩ := incomplete_exactly_after_stranding twoCards [] ⟨5⟩
  obtain ⟨-, -, -, stays⟩ := incomplete_exactly_after_stranding twoCards [.apply twoCards.configuration] ⟨5⟩
  obtain ⟨conf, same, strands⟩ := (becomes rfl (.apply twoCards.configuration)).1 rfl
  cases same
  exact ⟨strands, (names rfl _ strands).1, stays rfl⟩

/-! ## Errors from below -/

/-- A member answered that it is incomplete, and all that other members had accepted was taken back. -/
def Application.PassedUp (r : Application α) : Prop :=
  (∃ c ∈ r.forward, ∃ card, c.reply = .error (.incomplete card)) ∧ ∀ c ∈ r.back, c.reply = .ok true

theorem reply_of_answer (t : Stop) (reply : Except DisplayError Bool) {e : DisplayError}
    (same : complaint reply = t.error) (h : t.answer = .error e) : reply = .error e := by
  cases reply with
  | ok accepted =>
    rw [Stop.answer, ← same] at h
    cases h
  | error e' =>
    rw [Stop.answer, ← same] at h
    exact h

/-- After an application that was answered with an incomplete display, the cluster refuses all that follows, unless
the error was passed up by a member. -/
theorem refuses_ever_after_iff (g : Cluster α) (conf : Configuration) (card : CardId)
    (h : (g.apply conf).answer = .error (.incomplete card)) :
    (∀ later, ∃ c, ((g.apply conf).state.run later).Refuses c) ↔ ¬ (g.application conf).PassedUp := by
  change (g.application conf).answer = .error (.incomplete card) at h
  change (∀ later, ∃ c, ((g.application conf).cluster.run later).Refuses c) ↔ _
  have ever_after : ∀ c, (g.application conf).cluster.incomplete = some c →
      ∀ later, ∃ c, ((g.application conf).cluster.run later).Refuses c :=
    fun c hc later => ⟨c, (refuses_iff _ c).2 (incomplete_run _ c hc later)⟩
  cases hi : g.incomplete with
  | some c =>
    rw [application_of_incomplete g conf c hi] at ever_after ⊢
    exact iff_of_true (ever_after c hi) (by simp [Application.PassedUp])
  | none =>
    have ends := g.application_ends conf hi
    generalize g.application conf = r at ends h ever_after ⊢
    cases ends with
    | carriedOut p pass through => cases h
    | takenBack p back t pass stopped way through =>
      subst pass way
      refine iff_of_false (fun refuses => ?_) (not_not_intro ⟨?_, offerFrom_all_accepted _ _ _ through⟩)
      · obtain ⟨c, hc⟩ := refuses []
        cases (refuses_iff _ c).1 hc
      · obtain ⟨before, last, hcalls, -, -, -, herror⟩ := offerFrom_last_call _ _ _ t stopped
        exact ⟨last, by rw [hcalls]; simp, card, reply_of_answer t last.reply herror h⟩
    | stranded p back t u c pass stopped way stuck named =>
      subst way
      refine iff_of_true (ever_after c rfl) fun passed => ?_
      obtain ⟨restored, last, hcalls, -, no, -⟩ := offerFrom_last_call _ _ _ u stuck
      exact no (passed.2 last (by rw [hcalls]; simp))

theorem twoCards_refuses : (twoCards.apply twoCards.configuration).answer = .error (.incomplete ⟨5⟩) ∧
    ∀ later, ∃ c, ((twoCards.apply twoCards.configuration).state.run later).Refuses c := by
  refine ⟨rfl, (refuses_ever_after_iff twoCards twoCards.configuration ⟨5⟩ rfl).2 ?_⟩
  rintro ⟨-, all⟩
  cases all ⟨0, ⟨⟨5⟩, _⟩, .ok false⟩ List.mem_cons_self

def nestedCards : Display 1 :=
  ⟨[Assembly.adapter (.holding 2 [.unlit 9 "A"] []) 1, Assembly.cluster twoCards], none⟩

/-- Once the inner cluster is stuck, the outer one still passes a request for its own adapter on. -/
theorem nestedCards_goes_on :
    (nestedCards.apply nestedCards.configuration).answer = .error (.incomplete ⟨5⟩) ∧
      ((nestedCards.apply nestedCards.configuration).state.configure [.unlit 9 "A"]).answer = .ok () ∧
      ((nestedCards.apply nestedCards.configuration).state.modeSet [.unlit 9 "A"]).calls.length = 1 :=
  ⟨rfl, rfl, rfl⟩

end Multihead.Cluster
