import Multihead.Proofs.Display.Dispatch
import Multihead.Proofs.Display.Numbering

/-! # Taking a request back
When a member does not accept its slice, the members before it that the snapshot holds something for are called, in
order, up to the first that does not accept. All members that had accepted are among them, and so are members that the
request held nothing for: those who are called for nothing are all that stands between this and an exact undo. -/

set_option autoImplicit false

namespace Multihead

/-! ## Places of calls -/

theorem Follows.places_prefix {α ρ : Type} {ask : α → Configuration → ρ} {accepted : ρ → Prop} {os : List (Offer α)}
    {calls : List (Call ρ)} (follows : Follows ask accepted os calls) :
    calls.map (·.member) <+: os.map (·.place) := by
  induction follows with
  | done => exact List.prefix_rfl
  | onward o s rest calls same yes later ih => simpa using ih
  | stopped o s rest same no => simp

theorem Follows.places_eq {α ρ : Type} {ask : α → Configuration → ρ} {accepted : ρ → Prop} {os : List (Offer α)}
    {calls : List (Call ρ)} (follows : Follows ask accepted os calls) (all : ∀ c ∈ calls, accepted c.reply) :
    calls.map (·.member) = os.map (·.place) := by
  induction follows with
  | done => rfl
  | onward o s rest calls same yes later ih => simpa using ih (List.forall_mem_cons.1 all).2
  | stopped o s rest same no => exact absurd (all _ List.mem_cons_self) no

namespace Cluster

open Multihead.Configuration (cards)

variable {α : Type} [Backend α]

/-! ## Places -/

/-- The places of the members that accepted the request. -/
def Application.accepted (r : Application α) : List Nat :=
  (r.forward.filter (·.reply = .ok true)).map (·.member)

/-- The places of the members that were called to take it back. -/
def Application.calledBack (r : Application α) : List Nat := r.back.map (·.member)

/-- The request is taken back from exactly those who accepted it, up to the first that does not let go. -/
def Application.Undoes (r : Application α) : Prop :=
  r.calledBack <+: r.accepted ∧ ((∀ c ∈ r.back, c.reply = .ok true) → r.calledBack = r.accepted)

/-- The places before `k` of the members that a configuration holds something for. -/
def dueBefore (g : Cluster α) (conf : Configuration) (k : Nat) : List Nat :=
  (List.range g.members.length).filter fun i => i < k ∧ g.due conf i ≠ []

theorem places_plan (g : Cluster α) (conf : Configuration) :
    (g.plan conf).map (·.place) = (List.range g.members.length).filter (g.due conf · ≠ []) := by
  have places : (g.members.mapIdx fun k m => (⟨k, m, g.due conf k⟩ : Offer α)).map (·.place) =
      List.range g.members.length := by
    refine List.ext_getElem? fun i => ?_
    rw [List.getElem?_map, List.getElem?_mapIdx]
    by_cases h : i < g.members.length
    · rw [List.getElem?_range h, List.getElem?_eq_getElem h]
      rfl
    · rw [List.getElem?_eq_none (by simpa using h), List.getElem?_eq_none (by simpa using h)]
      rfl
  have kept : g.plan conf = (g.members.mapIdx fun k m => (⟨k, m, g.due conf k⟩ : Offer α)).filter
      (g.due conf ·.place ≠ []) := by
    refine List.filter_congr fun o ho => ?_
    obtain ⟨i, hi, rfl⟩ := List.mem_mapIdx.1 ho
    rfl
  rw [kept, ← places, List.filter_map]
  rfl

theorem dueBefore_eq (g : Cluster α) (conf : Configuration) (k : Nat) :
    g.dueBefore conf k = ((g.plan conf).map (·.place)).filter (· < k) := by
  rw [places_plan, List.filter_filter, dueBefore]
  simp

/-- Who is asked for something holds something: the snapshot is due where a request is. -/
theorem due_snapshot (g : Cluster α) (conf : Configuration) (k : Nat) (h : g.due conf k ≠ []) :
    g.due g.configuration k ≠ [] := by
  obtain ⟨o, ho⟩ := List.exists_mem_of_ne_nil _ h
  obtain ⟨-, first⟩ := (g.mem_due conf k o).1 ho
  obtain ⟨m, hm, hc⟩ := first.1
  have shown : o.card ∈ cards g.configuration := by
    rw [Configuration.cards_congr g.unnumbered_configuration]
    obtain ⟨p, hp, same⟩ := (Configuration.mem_cards _ _).1 hc
    exact (Configuration.mem_cards _ _).2 ⟨p, List.mem_flatMap.2 ⟨m, List.mem_of_getElem? hm, hp⟩, same⟩
  obtain ⟨p, hp, same⟩ := (Configuration.mem_cards _ _).1 shown
  exact List.ne_nil_of_mem ((g.mem_due _ k p).2 ⟨hp, same ▸ first⟩)

theorem dueBefore_eq_filter (g : Cluster α) (conf : Configuration) (k : Nat) :
    g.dueBefore conf k = (g.dueBefore g.configuration k).filter (g.due conf · ≠ []) := by
  rw [dueBefore, dueBefore, List.filter_filter]
  refine List.filter_congr fun i _ => ?_
  have := g.due_snapshot conf i
  by_cases h : g.due conf i = [] <;> simp_all

/-! ## Places of offers -/

omit [Backend α] in
theorem place_le_of_mem_offers (k : Nat) (ms : List α) (ss : List (Option Slice)) :
    ∀ o ∈ offers k ms ss, k ≤ o.place := by
  induction ms generalizing k ss with
  | nil => cases ss <;> simp [offers]
  | cons m ms ih =>
    cases ss with
    | nil => simp [offers]
    | cons s rest =>
      have later : ∀ o ∈ offers (k + 1) ms rest, k ≤ o.place := fun o ho => Nat.le_of_succ_le (ih (k + 1) rest o ho)
      cases s with
      | none => exact later
      | some s => exact List.forall_mem_cons.2 ⟨Nat.le_refl k, later⟩

omit [Backend α] in
/-- Cutting slices off leaves the offers to the members before the cut, whatever has become of them. -/
theorem places_offers_take (k t : Nat) (ms ms' : List α) (ss : List (Option Slice)) (length : ms'.length = ms.length) :
    (offers k ms' (ss.take t)).map (·.place) = ((offers k ms ss).map (·.place)).filter (· < k + t) := by
  induction ms generalizing k t ms' ss with
  | nil =>
    obtain rfl : ms' = [] := List.length_eq_zero_iff.1 length
    cases ss <;> cases t <;> rfl
  | cons m ms ih =>
    cases ms' with
    | nil => simp at length
    | cons m' ms' =>
      cases t with
      | zero =>
        rw [List.take_zero, offers_nil_slices, List.map_nil, eq_comm, List.filter_eq_nil_iff]
        intro i hi
        obtain ⟨o, ho, rfl⟩ := List.mem_map.1 hi
        simpa using place_le_of_mem_offers k (m :: ms) ss o ho
      | succ t =>
        have later := ih (k + 1) t ms'
        rw [Nat.add_right_comm k 1 t] at later
        match ss with
        | [] => rfl
        | none :: rest => exact later rest (Nat.succ.inj length)
        | some s :: rest =>
          rw [List.take_succ_cons, offers, offers, List.map_cons, List.map_cons,
            List.filter_cons_of_pos (by simp), later rest (Nat.succ.inj length)]
          rfl

theorem eq_filter_of_prefix {xs ys : List Nat} {t : Nat} (sorted : ys.Pairwise (· < ·)) (h : xs ++ [t] <+: ys) :
    xs = ys.filter (· < t) := by
  obtain ⟨rest, rfl⟩ := h
  rw [List.append_assoc, List.pairwise_append] at sorted
  obtain ⟨-, behind, across⟩ := sorted
  have before : xs.filter (· < t) = xs :=
    List.filter_eq_self.2 fun x hx => decide_eq_true (across x hx t List.mem_cons_self)
  have after : ([t] ++ rest).filter (· < t) = [] := by
    refine List.filter_eq_nil_iff.2 fun y hy => ?_
    have le : t ≤ y := by
      rcases List.mem_cons.1 hy with rfl | hy
      · exact Nat.le_refl y
      · exact Nat.le_of_lt (List.rel_of_pairwise_cons behind hy)
    simpa using le
  rw [List.append_assoc, List.filter_append, before, after, List.append_nil]

/-! ## Both ways of an application -/

theorem sorted_places (g : Cluster α) (conf : Configuration) :
    ((g.plan conf).map (·.place)).Pairwise (· < ·) := by
  rw [places_plan]
  exact List.pairwise_lt_range.filter _

/-- Those who accepted are the members before the one that did not. -/
theorem accepted_of_stop (g : Cluster α) (conf : Configuration) (t : Stop)
    (stopped : (offerFrom 0 g.members (g.slices conf)).stop = some t) :
    ((offerFrom 0 g.members (g.slices conf)).calls.filter (·.reply = .ok true)).map (·.member) =
      g.dueBefore conf t.member := by
  obtain ⟨before, last, hcalls, accepted, no, place, -⟩ := offerFrom_last_call _ _ _ t stopped
  have through := (offerFrom_walk 0 g.members (g.slices conf)).follows.places_prefix
  rw [offers_slices, hcalls, List.map_append, List.map_singleton, place] at through
  have kept : before.filter (·.reply = .ok true) = before :=
    List.filter_eq_self.2 fun c hc => decide_eq_true (accepted c hc).1
  rw [hcalls, List.filter_append, kept, List.filter_singleton, decide_eq_false no, cond_false, List.append_nil,
    dueBefore_eq]
  exact eq_filter_of_prefix (g.sorted_places conf) through

/-- Those called back are the members that the snapshot holds something for, up to the first that does not accept. -/
theorem calledBack_of_stop (g : Cluster α) (conf : Configuration) (t : Nat) (ms : List α)
    (length : ms.length = g.members.length) :
    let back := (offerFrom 0 ms ((g.slices conf).take t)).calls
    back.map (·.member) <+: g.dueBefore conf t ∧
      ((∀ c ∈ back, c.reply = .ok true) → back.map (·.member) = g.dueBefore conf t) := by
  have places : (offers 0 ms ((g.slices conf).take t)).map (·.place) = g.dueBefore conf t := by
    rw [places_offers_take 0 t g.members ms _ length, offers_slices, Nat.zero_add, dueBefore_eq]
  have follows := (offerFrom_walk 0 ms ((g.slices conf).take t)).follows
  exact ⟨places ▸ follows.places_prefix, fun all => places ▸ follows.places_eq all⟩

/-- An application in which some member did not accept is a pass that stopped and a pass back to where it stopped. -/
theorem application_of_refused (g : Cluster α) (conf : Configuration) (usable : g.incomplete = none)
    (refused : ∃ c ∈ (g.application conf).forward, c.reply ≠ .ok true) :
    ∃ t, (offerFrom 0 g.members (g.slices conf)).stop = some t ∧
      (g.application conf).forward = (offerFrom 0 g.members (g.slices conf)).calls ∧
      (g.application conf).back = (offerFrom 0 (offerFrom 0 g.members (g.slices conf)).members
        ((g.slices g.configuration).take t.member)).calls ∧
      ((g.application conf).cluster.incomplete ≠ none → (g.application conf).back ≠ []) := by
  have ends := g.application_ends conf usable
  generalize g.application conf = r at ends refused ⊢
  cases ends with
  | carriedOut p pass through =>
    subst pass
    obtain ⟨c, hc, no⟩ := refused
    exact absurd (offerFrom_all_accepted _ _ _ through c hc) no
  | takenBack p back t pass stopped way through =>
    subst pass way
    exact ⟨t, stopped, rfl, rfl, fun h => absurd rfl h⟩
  | stranded p back t u card pass stopped way stuck named =>
    subst pass way
    exact ⟨t, stopped, rfl, rfl, fun _ => offerFrom_calls_ne_nil rfl stuck⟩

theorem undoes_iff_of_prefix {accepted owing back : List Nat} {all : Prop} {asked : Nat → Bool}
    (kept : accepted = owing.filter asked) (front : back <+: owing) (whole : all → back = owing) :
    (back <+: accepted ∧ (all → back = accepted)) ↔ ∀ k ∈ back, asked k = true := by
  subst kept
  constructor
  · rintro ⟨h, -⟩ k hk
    exact (List.mem_filter.1 (h.subset hk)).2
  · intro h
    have same : back.filter asked = back := List.filter_eq_self.2 h
    exact ⟨same ▸ front.filter asked, fun ha => same ▸ whole ha ▸ rfl⟩

/-- Once a member did not accept, the calls that take the request back go to the members before it that the snapshot
holds something for, up to the first that does not accept. Those who had accepted are among them. The request is taken
back from them alone if, and only if, it held something for everyone called back; then the cluster becomes incomplete
only if somebody had accepted. -/
theorem undoes_iff_nobody_called_for_nothing (g : Cluster α) (conf : Configuration) (usable : g.incomplete = none)
    (refused : ∃ c ∈ (g.application conf).forward, c.reply ≠ .ok true) :
    (∃ k, (g.application conf).forward.getLast?.map (·.member) = some k ∧
      (g.application conf).calledBack <+: g.dueBefore g.configuration k ∧
      ((∀ c ∈ (g.application conf).back, c.reply = .ok true) →
        (g.application conf).calledBack = g.dueBefore g.configuration k) ∧
      (g.application conf).accepted = g.dueBefore conf k ∧
      (g.application conf).accepted.Sublist (g.dueBefore g.configuration k)) ∧
    ((g.application conf).Undoes ↔ ∀ c ∈ (g.application conf).back, g.due conf c.member ≠ []) ∧
    ((g.application conf).Undoes → ∀ card, (g.application conf).cluster.incomplete = some card →
      (g.application conf).accepted ≠ []) := by
  obtain ⟨t, stopped, hforward, hback, poisoned⟩ := application_of_refused g conf usable refused
  have accepted : (g.application conf).accepted = g.dueBefore conf t.member := by
    rw [Application.accepted, hforward]
    exact accepted_of_stop g conf t stopped
  have kept : (g.application conf).accepted = (g.dueBefore g.configuration t.member).filter (g.due conf · ≠ []) :=
    accepted.trans (g.dueBefore_eq_filter conf t.member)
  have length := (offerFrom_walk 0 g.members (g.slices conf)).length
  obtain ⟨front, whole⟩ := calledBack_of_stop g g.configuration t.member _ length
  rw [← hback] at front whole
  have called : (g.application conf).calledBack <+: g.dueBefore g.configuration t.member := front
  refine ⟨⟨t.member, ?_, called, whole, accepted, ?_⟩, ?_, ?_⟩
  · obtain ⟨before, last, hcalls, -, -, place, -⟩ := offerFrom_last_call _ _ _ t stopped
    rw [hforward, hcalls, List.getLast?_concat, Option.map_some, place]
  · rw [kept]
    exact List.filter_sublist
  · rw [Application.Undoes, undoes_iff_of_prefix kept called whole, Application.calledBack, List.forall_mem_map]
    simp
  · -- a cluster gets stuck only by a call on the way back, and there is none if nobody had accepted
    rintro ⟨fewer, -⟩ card hcard nobody
    have calls : (g.application conf).back ≠ [] := poisoned (by simp [hcard])
    rw [nobody, List.prefix_nil] at fewer
    exact calls (List.map_eq_nil_iff.1 fewer)

/-- Two adapters on a card each. The first answers as told, the second rejects. -/
def neighbours (commits : List CommitAnswer) : Cluster Adapter :=
  ⟨[.holding 0 [.unlit 1 "A"] commits, .holding 1 [.unlit 2 "A"] [.reject]], none⟩

theorem neighbours_undone :
    (∃ c ∈ ((neighbours [.accept, .reject]).application [.unlit 2 "A", .unlit 1 "A"]).forward, c.reply ≠ .ok true) ∧
    (∀ c ∈ ((neighbours [.accept, .reject]).application [.unlit 2 "A", .unlit 1 "A"]).back,
      (neighbours [.accept, .reject]).due [.unlit 2 "A", .unlit 1 "A"] c.member ≠ []) ∧
    ((neighbours [.accept, .reject]).application [.unlit 2 "A", .unlit 1 "A"]).Undoes ∧
    ((neighbours [.accept, .reject]).application [.unlit 2 "A", .unlit 1 "A"]).cluster.incomplete = some ⟨1⟩ ∧
    ((neighbours [.accept, .reject]).application [.unlit 2 "A", .unlit 1 "A"]).accepted ≠ [] := by
  have refused : ∃ c ∈ ((neighbours [.accept, .reject]).application [.unlit 2 "A", .unlit 1 "A"]).forward,
      c.reply ≠ .ok true := by decide
  obtain ⟨-, exact_iff, poisoned⟩ := undoes_iff_nobody_called_for_nothing _ _ rfl refused
  have asked : ∀ c ∈ ((neighbours [.accept, .reject]).application [.unlit 2 "A", .unlit 1 "A"]).back,
      (neighbours [.accept, .reject]).due [.unlit 2 "A", .unlit 1 "A"] c.member ≠ [] := by decide
  have undoes := exact_iff.2 asked
  exact ⟨refused, asked, undoes, rfl, poisoned undoes ⟨1⟩ rfl⟩

/-- The request is for the second adapter alone. The first is called to take back what it was never asked for, and as
it does not, the cluster is incomplete though nobody had accepted anything. -/
theorem neighbours_called_for_nothing :
    (neighbours [.reject]).due [.unlit 2 "A"] 0 = [] ∧
    ((neighbours [.reject]).application [.unlit 2 "A"]).accepted = [] ∧
    ((neighbours [.reject]).application [.unlit 2 "A"]).calledBack = [0] ∧
    ¬ ((neighbours [.reject]).application [.unlit 2 "A"]).Undoes ∧
    ((neighbours [.reject]).application [.unlit 2 "A"]).cluster.incomplete = some ⟨1⟩ := by
  refine ⟨rfl, rfl, rfl, ?_, rfl⟩
  rintro ⟨fewer, -⟩
  exact absurd fewer (by decide)

end Cluster

end Multihead
