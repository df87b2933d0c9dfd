import Multihead.Proofs.Display.Leaf
import Multihead.Proofs.Display.Pass
import Multihead.Proofs.Display.Shares

/-! # Dispatch
A request says by itself which members are called, and for what. Whether it is carried out by mode-sets or without
them, the calls go through this plan in order, up to the first that is not accepted, and no other member changes. -/

set_option autoImplicit false

namespace Multihead

/-- What the member at this place is to be asked for. -/
structure Offer (α : Type) where
  place : Nat
  member : α
  outputs : Configuration
  deriving DecidableEq

/-- Calls that go through offers in order, each with the reply that the member gives, up to the first that is not
accepted. -/
inductive Follows {α ρ : Type} (ask : α → Configuration → ρ) (accepted : ρ → Prop) :
    List (Offer α) → List (Call ρ) → Prop where
  | done : Follows ask accepted [] []
  | onward (o : Offer α) (s : Slice) (rest : List (Offer α)) (calls : List (Call ρ)) (same : s.outputs = o.outputs)
    (yes : accepted (ask o.member o.outputs)) (later : Follows ask accepted rest calls) :
    Follows ask accepted (o :: rest) (⟨o.place, s, ask o.member o.outputs⟩ :: calls)
  | stopped (o : Offer α) (s : Slice) (rest : List (Offer α)) (same : s.outputs = o.outputs)
    (no : ¬ accepted (ask o.member o.outputs)) :
    Follows ask accepted (o :: rest) [⟨o.place, s, ask o.member o.outputs⟩]

namespace Cluster

open Multihead.Configuration (cards)

variable {α : Type} [Backend α]

/-! ## Plans -/

/-- What a request holds for the member at this place: the outputs of the cards that no member before it has. -/
def due (g : Cluster α) (conf : Configuration) (k : Nat) : Configuration :=
  conf.ofCards ((g.owners[k]?.getD []).filter (· ∉ (g.owners.take k).flatten))

/-- The members that a request holds something for. -/
def plan (g : Cluster α) (conf : Configuration) : List (Offer α) :=
  (g.members.mapIdx fun k m => ⟨k, m, g.due conf k⟩).filter (·.outputs ≠ [])

/-- What slices ask of members, the first of which stands at place `k`. -/
def offers (k : Nat) : List α → List (Option Slice) → List (Offer α)
  | m :: ms, some s :: rest => ⟨k, m, s.outputs⟩ :: offers (k + 1) ms rest
  | _ :: ms, none :: rest => offers (k + 1) ms rest
  | _, _ => []

omit [Backend α] in
theorem offers_nil_slices (k : Nat) (ms : List α) : offers k ms [] = [] := by
  cases ms <;> rfl

/-- The offers to members whose cards are `owners`, with the cards in `earlier` out of reach. -/
def shareOffers (conf : Configuration) (k : Nat) (earlier : List CardId) (owners : List (List CardId)) (ms : List α) :
    List (Offer α) :=
  (ms.mapIdx fun i m => ⟨k + i, m,
    conf.ofCards ((owners[i]?.getD []).filter (· ∉ earlier ++ (owners.take i).flatten))⟩).filter (·.outputs ≠ [])

omit [Backend α] in
theorem shareOffers_cons (conf : Configuration) (k : Nat) (earlier mine : List CardId) (owners : List (List CardId))
    (m : α) (ms : List α) :
    shareOffers conf k earlier (mine :: owners) (m :: ms) =
      (if conf.ofCards (mine.filter (· ∉ earlier)) = [] then []
        else [⟨k, m, conf.ofCards (mine.filter (· ∉ earlier))⟩]) ++
        shareOffers conf (k + 1) (earlier ++ mine) owners ms := by
  have shift : ∀ f : Nat → α → Configuration,
      ms.mapIdx (fun i m => (⟨k + (i + 1), m, f i m⟩ : Offer α)) = ms.mapIdx fun i m => ⟨k + 1 + i, m, f i m⟩ := by
    intro f
    congr 1
    funext i m
    rw [Nat.add_right_comm k 1 i, Nat.add_assoc]
  rw [shareOffers, List.mapIdx_cons, List.filter_cons, shareOffers]
  simp only [Nat.add_zero, List.getElem?_cons_zero, Option.getD_some, List.take_zero, List.flatten_nil,
    List.append_nil, List.getElem?_cons_succ, List.take_succ_cons, List.flatten_cons, ← List.append_assoc]
  rw [shift]
  split
  · next full => rw [if_neg (by simpa using full), List.singleton_append]
  · next empty => rw [if_pos (by simpa using empty), List.nil_append]

omit [Backend α] in
theorem offers_shares (conf : Configuration) (k : Nat) (earlier : List CardId) (owners : List (List CardId))
    (ms : List α) (length : owners.length = ms.length) :
    offers k ms (Slice.shares conf earlier owners) = shareOffers conf k earlier owners ms := by
  induction owners generalizing k earlier ms with
  | nil =>
    obtain rfl : ms = [] := List.length_eq_zero_iff.1 length.symm
    rfl
  | cons mine owners ih =>
    cases ms with
    | nil => simp at length
    | cons m ms =>
      have later := ih (k + 1) (earlier ++ mine) ms (Nat.succ.inj length)
      rw [Slice.shares, shareOffers_cons, ← later]
      cases hs : Slice.ofOutputs mine (conf.ofCards (mine.filter (· ∉ earlier))) with
      | none =>
        have empty : conf.ofCards (mine.filter (· ∉ earlier)) = [] := by
          refine (Slice.ofOutputs_eq_none_iff _ _ ?_).1 hs
          rintro nonempty rfl
          exact nonempty rfl
        rw [if_pos empty, offers, List.nil_append]
      | some s =>
        obtain ⟨-, same, nonempty⟩ := (Slice.ofOutputs_eq_some_iff _ _ _).1 hs
        rw [if_neg nonempty, offers, same, List.singleton_append]

theorem distinct_owners (g : Cluster α) : ∀ cs ∈ g.owners, cs.Nodup := by
  intro cs hcs
  obtain ⟨m, -, rfl⟩ := List.mem_map.1 hcs
  exact Configuration.nodup_cards _

theorem slices_eq_shares (g : Cluster α) (conf : Configuration) :
    g.slices conf = Slice.shares conf [] g.owners :=
  Slice.route_eq_shares conf g.owners g.distinct_owners

theorem offers_slices (g : Cluster α) (conf : Configuration) :
    offers 0 g.members (g.slices conf) = g.plan conf := by
  have length : g.owners.length = g.members.length := List.length_map _
  rw [slices_eq_shares, offers_shares conf 0 [] g.owners g.members length, shareOffers, plan]
  simp only [Nat.zero_add, List.nil_append, due]

/-! ## Who is asked for an output -/

/-- The member at this place has the card, and none before it has. -/
def FirstOwner (g : Cluster α) (c : CardId) (k : Nat) : Prop :=
  (∃ m, g.members[k]? = some m ∧ c ∈ cards (Backend.configuration m)) ∧
    ∀ j < k, ∀ m, g.members[j]? = some m → c ∉ cards (Backend.configuration m)

theorem mem_due (g : Cluster α) (conf : Configuration) (k : Nat) (o : Output) :
    o ∈ g.due conf k ↔ o ∈ conf ∧ g.FirstOwner o.card k := by
  have own : o.card ∈ g.owners[k]?.getD [] ↔
      ∃ m, g.members[k]? = some m ∧ o.card ∈ cards (Backend.configuration m) := by
    rw [owners, List.getElem?_map]
    cases g.members[k]? <;> simp
  have before : o.card ∉ (g.owners.take k).flatten ↔
      ∀ j < k, ∀ m, g.members[j]? = some m → o.card ∉ cards (Backend.configuration m) := by
    rw [owners, ← List.map_take, List.mem_flatten]
    constructor
    · intro h j hj m hm hc
      refine h ⟨_, List.mem_map_of_mem ?_, hc⟩
      exact List.mem_of_getElem? ((List.getElem?_take_of_lt hj).trans hm)
    · rintro h ⟨cs, hcs, hc⟩
      obtain ⟨m, hm, rfl⟩ := List.mem_map.1 hcs
      obtain ⟨j, hj, hjm⟩ := List.mem_take_iff_getElem.1 hm
      exact h j (by omega) m (List.getElem?_eq_some_iff.2 ⟨by omega, hjm⟩) hc
  rw [due, Configuration.mem_ofCards, List.mem_filter, own, decide_eq_true_eq, before, FirstOwner]

/-- The cards that a list of owners takes from a request, with the cards in `earlier` out of reach. -/
def firsts : List CardId → List (List CardId) → List CardId
  | _, [] => []
  | earlier, mine :: owners => mine.filter (· ∉ earlier) ++ firsts (earlier ++ mine) owners

theorem not_mem_of_mem_firsts (earlier : List CardId) (owners : List (List CardId)) (c : CardId)
    (h : c ∈ firsts earlier owners) : c ∉ earlier := by
  induction owners generalizing earlier with
  | nil => simp [firsts] at h
  | cons mine owners ih =>
    rcases List.mem_append.1 h with h | h
    · simpa using (List.mem_filter.1 h).2
    · exact fun hc => ih (earlier ++ mine) h (List.mem_append_left mine hc)

theorem nodup_firsts (earlier : List CardId) (owners : List (List CardId)) (distinct : ∀ cs ∈ owners, cs.Nodup) :
    (firsts earlier owners).Nodup := by
  induction owners generalizing earlier with
  | nil => exact List.nodup_nil
  | cons mine owners ih =>
    obtain ⟨hmine, distinct⟩ := List.forall_mem_cons.1 distinct
    refine List.nodup_append.2 ⟨hmine.filter _, ih _ distinct, fun c hc d hd => ?_⟩
    rintro rfl
    exact not_mem_of_mem_firsts _ _ c hd (List.mem_append_right earlier (List.mem_filter.1 hc).1)

omit [Backend α] in
theorem outputs_shareOffers (conf : Configuration) (k : Nat) (earlier : List CardId) (owners : List (List CardId))
    (ms : List α) (length : owners.length = ms.length) :
    (shareOffers conf k earlier owners ms).flatMap (·.outputs) = conf.ofCards (firsts earlier owners) := by
  induction owners generalizing k earlier ms with
  | nil =>
    obtain rfl : ms = [] := List.length_eq_zero_iff.1 length.symm
    rfl
  | cons mine owners ih =>
    cases ms with
    | nil => simp at length
    | cons m ms =>
      rw [shareOffers_cons, List.flatMap_append, ih _ _ ms (Nat.succ.inj length), firsts, Configuration.ofCards_append]
      split
      · next empty => rw [empty]; rfl
      · rw [List.flatMap_singleton]

/-- No output that is asked for is handed out twice. -/
theorem outputs_plan_subperm (g : Cluster α) (conf : Configuration) :
    ((g.plan conf).flatMap (·.outputs)).Subperm conf := by
  have length : g.owners.length = g.members.length := List.length_map _
  rw [← offers_slices, slices_eq_shares, offers_shares conf 0 [] g.owners g.members length,
    outputs_shareOffers conf 0 [] g.owners g.members length]
  exact conf.ofCards_subperm _ (nodup_firsts [] g.owners g.distinct_owners)

/-! ## Walks -/

/-- How any pass goes through the members, the first of which stands at place `k`. -/
inductive Walk {ρ : Type} (ask : α → Configuration → ρ) (next : α → Configuration → α) (accepted : ρ → Prop) :
    Nat → List α → List (Option Slice) → List α → List (Call ρ) → Prop where
  | noMembers (k : Nat) (ss : List (Option Slice)) : Walk ask next accepted k [] ss [] []
  | noSlices (k : Nat) (ms : List α) : Walk ask next accepted k ms [] ms []
  | skip (k : Nat) (m : α) (ms ms' : List α) (ss : List (Option Slice)) (calls : List (Call ρ))
    (later : Walk ask next accepted (k + 1) ms ss ms' calls) :
    Walk ask next accepted k (m :: ms) (none :: ss) (m :: ms') calls
  | onward (k : Nat) (m : α) (ms ms' : List α) (s : Slice) (ss : List (Option Slice)) (calls : List (Call ρ))
    (yes : accepted (ask m s.outputs)) (later : Walk ask next accepted (k + 1) ms ss ms' calls) :
    Walk ask next accepted k (m :: ms) (some s :: ss) (next m s.outputs :: ms')
      (⟨k, s, ask m s.outputs⟩ :: calls)
  | stopped (k : Nat) (m : α) (ms : List α) (s : Slice) (ss : List (Option Slice))
    (no : ¬ accepted (ask m s.outputs)) :
    Walk ask next accepted k (m :: ms) (some s :: ss) (next m s.outputs :: ms) [⟨k, s, ask m s.outputs⟩]

/-- The member at this place after the calls that it gets. -/
def afterCalls {ρ : Type} (next : α → Configuration → α) (calls : List (Call ρ)) (k : Nat) (m : α) : α :=
  (calls.filter (·.member = k)).foldl (fun m c => next m c.slice.outputs) m

section
variable {ρ : Type} {next : α → Configuration → α} {calls more : List (Call ρ)} {k : Nat}

omit [Backend α] in
theorem afterCalls_append :
    afterCalls next (calls ++ more) k = afterCalls next more k ∘ afterCalls next calls k := by
  funext m
  rw [afterCalls, List.filter_append, List.foldl_append]
  rfl

omit [Backend α] in
theorem afterCalls_of_uncalled (uncalled : ∀ c ∈ calls, c.member ≠ k) : afterCalls next calls k = id := by
  funext m
  rw [afterCalls, List.filter_eq_nil_iff.2 fun c hc => by simpa using uncalled c hc]
  rfl

omit [Backend α] in
theorem afterCalls_cons_of_ne {c : Call ρ} (other : c.member ≠ k) :
    afterCalls next (c :: calls) k = afterCalls next calls k := by
  have uncalled : ∀ d ∈ [c], d.member ≠ k := List.forall_mem_singleton.2 other
  rw [← List.singleton_append, afterCalls_append, afterCalls_of_uncalled uncalled, Function.comp_id]

omit [Backend α] in
theorem afterCalls_cons_self {c : Call ρ} (own : c.member = k) (uncalled : ∀ d ∈ calls, d.member ≠ k) (m : α) :
    afterCalls next (c :: calls) k m = next m c.slice.outputs := by
  rw [← List.singleton_append, afterCalls_append, afterCalls_of_uncalled uncalled]
  simp [afterCalls, own]

end

theorem configureFrom_walk (k : Nat) (ms : List α) (ss : List (Option Slice)) :
    Walk (fun m conf => (Backend.configure m conf).answer) (fun m conf => (Backend.configure m conf).state)
      (· = .ok ()) k ms ss (configureFrom k ms ss).members (configureFrom k ms ss).calls := by
  induction ms generalizing k ss with
  | nil =>
    rw [configureFrom_nil]
    exact .noMembers k ss
  | cons m ms ih =>
    match ss with
    | [] => exact .noSlices k _
    | none :: rest => exact .skip k m ms _ rest _ (ih (k + 1) rest)
    | some s :: rest =>
      cases answer : (Backend.configure m s.outputs).answer with
      | ok u =>
        rw [configureFrom_accepted k m ms s rest answer]
        simpa only [answer] using Walk.onward k m ms _ s rest _ answer (ih (k + 1) rest)
      | error e =>
        have no : ¬ (Backend.configure m s.outputs).answer = .ok () := by simp [answer]
        rw [configureFrom_failed k m ms s rest e answer, ← answer]
        exact .stopped k m ms s rest no

theorem offerFrom_walk (k : Nat) (ms : List α) (ss : List (Option Slice)) :
    Walk (fun m conf => (Backend.apply m conf).answer) (fun m conf => (Backend.apply m conf).state)
      (· = .ok true) k ms ss (offerFrom k ms ss).members (offerFrom k ms ss).calls := by
  induction ms generalizing k ss with
  | nil =>
    rw [offerFrom_nil]
    exact .noMembers k ss
  | cons m ms ih =>
    match ss with
    | [] => exact .noSlices k _
    | none :: rest => exact .skip k m ms _ rest _ (ih (k + 1) rest)
    | some s :: rest =>
      by_cases ok : (Backend.apply m s.outputs).answer = .ok true
      · rw [offerFrom_accepted k m ms s rest ok]
        simpa only [ok] using Walk.onward k m ms _ s rest _ ok (ih (k + 1) rest)
      · rw [offerFrom_stopped k m ms s rest ok]
        exact .stopped k m ms s rest ok

section
variable {ρ : Type} {ask : α → Configuration → ρ} {next : α → Configuration → α} {accepted : ρ → Prop} {k : Nat}
  {ms ms' : List α} {ss : List (Option Slice)} {calls : List (Call ρ)}

omit [Backend α] in
theorem Walk.follows (walk : Walk ask next accepted k ms ss ms' calls) :
    Follows ask accepted (offers k ms ss) calls := by
  induction walk with
  | noMembers k ss =>
    cases ss <;> exact .done
  | noSlices k ms =>
    rw [offers_nil_slices]
    exact .done
  | skip k m ms ms' ss calls later ih => exact ih
  | onward k m ms ms' s ss calls yes later ih => exact .onward ⟨k, m, s.outputs⟩ s _ _ rfl yes ih
  | stopped k m ms s ss no => exact .stopped ⟨k, m, s.outputs⟩ s _ rfl no

omit [Backend α] in
/-- What no call changes about a member is the same after the walk. -/
theorem Walk.map_kept {β : Type} (walk : Walk ask next accepted k ms ss ms' calls) (f : α → β)
    (kept : ∀ m s, f (next m s) = f m) : ms'.map f = ms.map f := by
  induction walk with
  | noMembers | noSlices => rfl
  | skip k m ms ms' ss calls later ih => rw [List.map_cons, List.map_cons, ih]
  | onward k m ms ms' s ss calls yes later ih => rw [List.map_cons, List.map_cons, ih, kept]
  | stopped k m ms s ss no => rw [List.map_cons, List.map_cons, kept]

omit [Backend α] in
theorem Walk.length (walk : Walk ask next accepted k ms ss ms' calls) : ms'.length = ms.length := by
  simpa using congrArg List.length (walk.map_kept (fun _ => ()) fun _ _ => rfl)

omit [Backend α] in
theorem Walk.le_place (walk : Walk ask next accepted k ms ss ms' calls) : ∀ c ∈ calls, k ≤ c.member := by
  induction walk with
  | noMembers | noSlices => simp
  | skip k m ms ms' ss calls later ih => exact fun c hc => Nat.le_of_succ_le (ih c hc)
  | onward k m ms ms' s ss calls yes later ih =>
    exact List.forall_mem_cons.2 ⟨Nat.le_refl k, fun c hc => Nat.le_of_succ_le (ih c hc)⟩
  | stopped k m ms s ss no => exact List.forall_mem_singleton.2 (Nat.le_refl k)

omit [Backend α] in
/-- A member ends as the calls that it gets leave it. -/
theorem Walk.called (walk : Walk ask next accepted k ms ss ms' calls) (i : Nat) :
    ms'[i]? = ms[i]?.map (afterCalls next calls (k + i)) := by
  induction walk generalizing i with
  | noMembers => rfl
  | noSlices k ms => rw [afterCalls_of_uncalled (List.forall_mem_nil _), Option.map_id, id]
  | skip k m ms ms' ss calls later ih =>
    cases i with
    | zero =>
      have uncalled : ∀ c ∈ calls, c.member ≠ k := fun c hc => Nat.ne_of_gt (later.le_place c hc)
      rw [Nat.add_zero, afterCalls_of_uncalled uncalled]
      rfl
    | succ i => rw [List.getElem?_cons_succ, List.getElem?_cons_succ, ih i, Nat.add_right_comm k 1 i, Nat.add_assoc]
  | onward k m ms ms' s ss calls yes later ih =>
    cases i with
    | zero =>
      have uncalled : ∀ c ∈ calls, c.member ≠ k := fun c hc => Nat.ne_of_gt (later.le_place c hc)
      have own : (⟨k, s, ask m s.outputs⟩ : Call ρ).member = k := rfl
      exact congrArg some (afterCalls_cons_self own uncalled m).symm
    | succ i =>
      have other : k ≠ k + (i + 1) := by omega
      rw [List.getElem?_cons_succ, List.getElem?_cons_succ, ih i, Nat.add_right_comm k 1 i, Nat.add_assoc,
        afterCalls_cons_of_ne other]
  | stopped k m ms s ss no =>
    cases i with
    | zero =>
      have own : (⟨k, s, ask m s.outputs⟩ : Call ρ).member = k := rfl
      exact congrArg some (afterCalls_cons_self own (List.forall_mem_nil _) m).symm
    | succ i =>
      have other : k ≠ k + (i + 1) := by omega
      rw [afterCalls_cons_of_ne other, afterCalls_of_uncalled (List.forall_mem_nil _), Option.map_id]
      rfl

end

/-! ## What the calls come to -/

theorem configureFrom_events (k : Nat) (ms : List α) (ss : List (Option Slice)) :
    (configureFrom k ms ss).events =
      ((offers k ms ss).take (configureFrom k ms ss).calls.length).flatMap fun o =>
        (Backend.configure o.member o.outputs).events := by
  induction ms generalizing k ss with
  | nil =>
    rw [configureFrom_nil]
    rfl
  | cons m ms ih =>
    match ss with
    | [] =>
      rw [configureFrom_nil_slices]
      rfl
    | none :: rest => exact ih (k + 1) rest
    | some s :: rest =>
      cases answer : (Backend.configure m s.outputs).answer with
      | ok u =>
        rw [configureFrom_accepted k m ms s rest answer, ih]
        rfl
      | error e =>
        rw [configureFrom_failed k m ms s rest e answer]
        simp [offers]

theorem configureFrom_ok_iff (k : Nat) (ms : List α) (ss : List (Option Slice)) :
    (configureFrom k ms ss).answer = .ok () ↔
      ∀ o ∈ offers k ms ss, (Backend.configure o.member o.outputs).answer = .ok () := by
  induction ms generalizing k ss with
  | nil => simp [configureFrom_nil, offers]
  | cons m ms ih =>
    match ss with
    | [] => simp [configureFrom_nil_slices, offers]
    | none :: rest => exact ih (k + 1) rest
    | some s :: rest =>
      rw [offers, List.forall_mem_cons]
      cases answer : (Backend.configure m s.outputs).answer with
      | ok u =>
        rw [configureFrom_accepted k m ms s rest answer, ih]
        simp
      | error e =>
        rw [configureFrom_failed k m ms s rest e answer]
        simp

theorem offerFrom_asked (k : Nat) (ms : List α) (ss : List (Option Slice)) :
    (offerFrom k ms ss).asked =
      ((offers k ms ss).take (offerFrom k ms ss).calls.length).flatMap fun o =>
        (Backend.apply o.member o.outputs).asked := by
  induction ms generalizing k ss with
  | nil =>
    rw [offerFrom_nil]
    rfl
  | cons m ms ih =>
    match ss with
    | [] =>
      rw [offerFrom_nil_slices]
      rfl
    | none :: rest => exact ih (k + 1) rest
    | some s :: rest =>
      by_cases ok : (Backend.apply m s.outputs).answer = .ok true
      · rw [offerFrom_accepted k m ms s rest ok, ih]
        rfl
      · rw [offerFrom_stopped k m ms s rest ok]
        simp [offers]

theorem offerFrom_through_iff (k : Nat) (ms : List α) (ss : List (Option Slice)) :
    (offerFrom k ms ss).stop = none ↔
      ∀ o ∈ offers k ms ss, (Backend.apply o.member o.outputs).answer = .ok true := by
  induction ms generalizing k ss with
  | nil => simp [offerFrom_nil, offers]
  | cons m ms ih =>
    match ss with
    | [] => simp [offerFrom_nil_slices, offers]
    | none :: rest => exact ih (k + 1) rest
    | some s :: rest =>
      rw [offers, List.forall_mem_cons]
      by_cases ok : (Backend.apply m s.outputs).answer = .ok true
      · rw [offerFrom_accepted k m ms s rest ok, ih]
        simp [ok]
      · rw [offerFrom_stopped k m ms s rest ok]
        simp [ok]

/-! ## Both ways of carrying out a request -/

theorem modeSet_of_usable (g : Cluster α) (conf : Configuration) (usable : g.incomplete = none) :
    g.modeSet conf = configureFrom 0 g.members (g.slices conf) := by
  rw [modeSet, usable]

theorem modeSet_members (g : Cluster α) (conf : Configuration) (usable : g.incomplete = none) (k : Nat) :
    (g.modeSet conf).members[k]? = g.members[k]?.map
      (afterCalls (fun m s => (Backend.configure m s).state) (g.modeSet conf).calls k) := by
  have walked := (configureFrom_walk 0 g.members (g.slices conf)).called k
  rwa [Nat.zero_add, ← modeSet_of_usable g conf usable] at walked

theorem application_members (g : Cluster α) (conf : Configuration) (usable : g.incomplete = none) (k : Nat) :
    (g.application conf).cluster.members[k]? = g.members[k]?.map
      (afterCalls (fun m s => (Backend.apply m s).state) ((g.application conf).forward ++ (g.application conf).back) k) := by
  obtain ⟨forward, -, ss, back, members⟩ := g.application_two_passes conf usable
  have there := (offerFrom_walk 0 g.members (g.slices conf)).called k
  have andBack := (offerFrom_walk 0 (offerFrom 0 g.members (g.slices conf)).members ss).called k
  rw [Nat.zero_add] at there andBack
  rw [members, andBack, there, Option.map_map, forward, back]
  rw [afterCalls_append]

theorem map_apply_of_kept {β : Type} (g : Cluster α) (conf : Configuration) (f : α → β)
    (kept : ∀ m s, f (Backend.apply m s).state = f m) : (g.apply conf).state.members.map f = g.members.map f := by
  change (g.application conf).cluster.members.map f = g.members.map f
  cases usable : g.incomplete with
  | some card => rw [application_of_incomplete g conf card usable]
  | none =>
    obtain ⟨-, -, ss, -, members⟩ := g.application_two_passes conf usable
    rw [members, (offerFrom_walk 0 _ ss).map_kept f kept, (offerFrom_walk 0 _ _).map_kept f kept]

theorem map_configure_of_kept {β : Type} (g : Cluster α) (conf : Configuration) (f : α → β)
    (kept : ∀ m s, f (Backend.configure m s).state = f m) :
    (g.configure conf).state.members.map f = g.members.map f := by
  change (g.modeSet conf).members.map f = g.members.map f
  cases usable : g.incomplete with
  | some card => rw [modeSet, usable]
  | none => rw [modeSet_of_usable g conf usable, (configureFrom_walk 0 _ _).map_kept f kept]

/-- A request is carried out member by member along its plan, by mode-sets as well as without them. The plan hands
every output to the first owner of its card and to nobody else, and no output twice. -/
theorem calls_follow_plan (g : Cluster α) (conf : Configuration) (usable : g.incomplete = none) :
    Follows (fun m s => (Backend.configure m s).answer) (· = .ok ()) (g.plan conf) (g.modeSet conf).calls ∧
      Follows (fun m s => (Backend.apply m s).answer) (· = .ok true) (g.plan conf) (g.application conf).forward ∧
      (∀ k, (∀ c ∈ (g.modeSet conf).calls, c.member ≠ k) →
        (g.configure conf).state.members[k]? = g.members[k]?) ∧
      (∀ k, (∀ c ∈ (g.application conf).forward ++ (g.application conf).back, c.member ≠ k) →
        (g.apply conf).state.members[k]? = g.members[k]?) ∧
      g.owners = g.members.map (fun m => ((Backend.configuration m).map (·.card)).eraseDups) ∧
      ((g.plan conf).flatMap (·.outputs)).Subperm conf ∧
      ∀ k o, o ∈ g.due conf k ↔ o ∈ conf ∧ g.FirstOwner o.card k := by
  refine ⟨?_, ?_, fun k idle => ?_, fun k idle => ?_, ?_, g.outputs_plan_subperm conf, g.mem_due conf⟩
  · rw [modeSet_of_usable g conf usable, ← offers_slices]
    exact (configureFrom_walk 0 g.members (g.slices conf)).follows
  · rw [(g.application_two_passes conf usable).1, ← offers_slices]
    exact (offerFrom_walk 0 g.members (g.slices conf)).follows
  · refine (g.modeSet_members conf usable k).trans ?_
    rw [afterCalls_of_uncalled idle, Option.map_id, id]
  · refine (g.application_members conf usable k).trans ?_
    rw [afterCalls_of_uncalled idle, Option.map_id, id]
  · exact List.map_congr_left fun m _ => Configuration.cards_eq_eraseDups _

/-- Three adapters that share cards. The second fails, and rejects. -/
def sharedCards : Cluster Adapter :=
  ⟨[.holding 0 [.unlit 1 "A", .unlit 2 "A", .unlit 1 "B"] [],
    { Adapter.holding 1 [.unlit 2 "B", .unlit 3 "A"] [.reject] with modeSets := [.fail] },
    .holding 2 [.unlit 3 "B", .unlit 4 "A"] []], none⟩

/-- Cards in turn, an unknown one, and one that both of its owners are asked for. -/
def shuffled : Configuration :=
  [.unlit 3 "B", .unlit 2 "B", .unlit 9 "A", .unlit 4 "A", .unlit 1 "B", .unlit 2 "A", .unlit 3 "A"]

theorem sharedCards_dispatch :
    (sharedCards.plan shuffled).map (fun o => (o.place, o.outputs)) =
      [(0, [.unlit 1 "B", .unlit 2 "B", .unlit 2 "A"]), (1, [.unlit 3 "B", .unlit 3 "A"]), (2, [.unlit 4 "A"])] ∧
    Follows (fun m s => (Backend.configure m s).answer) (· = .ok ()) (sharedCards.plan shuffled)
      (sharedCards.modeSet shuffled).calls ∧
    Follows (fun m s => (Backend.apply m s).answer) (· = .ok true) (sharedCards.plan shuffled)
      (sharedCards.application shuffled).forward ∧
    (sharedCards.modeSet shuffled).calls.length = 2 ∧ (sharedCards.application shuffled).forward.length = 2 := by
  obtain ⟨configures, applies, -⟩ := calls_follow_plan sharedCards shuffled rfl
  exact ⟨by decide, configures, applies, rfl, rfl⟩

/-! ## What comes of a request -/

/-- A mode-set succeeds if all the members that the request holds something for accept it. What reaches the adapters comes
from the members that were called, and each of these ends as its call left it. -/
theorem configure_along_plan (g : Cluster α) (conf : Configuration) (usable : g.incomplete = none) :
    let calls := (g.modeSet conf).calls
    ((g.configure conf).answer = .ok () ↔
        ∀ o ∈ g.plan conf, (Backend.configure o.member o.outputs).answer = .ok ()) ∧
      (g.configure conf).events = ((g.plan conf).take calls.length).flatMap (fun o =>
        (Backend.configure o.member o.outputs).events) ∧
      ∀ k, (g.configure conf).state.members[k]? =
        g.members[k]?.map (afterCalls (fun m s => (Backend.configure m s).state) calls k) := by
  refine ⟨?answer, ?events, g.modeSet_members conf usable⟩
  case answer =>
    change (g.modeSet conf).answer = .ok () ↔ _
    rw [modeSet_of_usable g conf usable, configureFrom_ok_iff, offers_slices]
  case events =>
    change (g.modeSet conf).events = ((g.plan conf).take (g.modeSet conf).calls.length).flatMap _
    rw [modeSet_of_usable g conf usable, configureFrom_events, offers_slices]

/-- An application succeeds if all the members that the request holds something for accept it. What is asked of the
adapters comes from the members that were called forward. Each member ends as all its calls left it, those that took
the request back included. -/
theorem apply_along_plan (g : Cluster α) (conf : Configuration) (usable : g.incomplete = none) :
    let r := g.application conf
    ((g.apply conf).answer = .ok true ↔
        ∀ o ∈ g.plan conf, (Backend.apply o.member o.outputs).answer = .ok true) ∧
      (g.apply conf).asked = ((g.plan conf).take r.forward.length).flatMap (fun o =>
        (Backend.apply o.member o.outputs).asked) ∧
      ∀ k, (g.apply conf).state.members[k]? =
        g.members[k]?.map (afterCalls (fun m s => (Backend.apply m s).state) (r.forward ++ r.back) k) := by
  refine ⟨?answer, ?asked, g.application_members conf usable⟩
  case answer =>
    change (g.application conf).answer = .ok true ↔ _
    rw [(g.application_of_through conf usable).1, offerFrom_through_iff, offers_slices]
  case asked =>
    obtain ⟨forward, asked, -⟩ := g.application_two_passes conf usable
    change (g.application conf).asked = ((g.plan conf).take (g.application conf).forward.length).flatMap _
    rw [asked, forward, offerFrom_asked, offers_slices]

end Cluster

end Multihead
