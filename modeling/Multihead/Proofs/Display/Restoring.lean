import Multihead.Proofs.Display.Mirror
import Multihead.Proofs.Display.Renewal

/-! # Nests that take a request back
A nest that stops at one of its leaves has all its clusters take the request back, the inner ones first. Once they are
through, the leaves before that leaf are renewed and all others are as they were, just as if one cluster had held
them all. -/

set_option autoImplicit false

namespace Multihead

namespace Cluster

variable {α : Type} [Backend α]

/-! ## The way back -/

theorem exists_refusal_of_stop (conf : Configuration) (earlier : List CardId) (k : Nat) (ms : List α)
    (each : ∀ m ∈ ms, ∀ request, (Backend.apply m request).answer ≠ .ok true →
      ∃ e ∈ (Backend.apply m request).asked, e.accepted = false)
    (stopped : (offerShares conf earlier k ms).stop ≠ none) :
    ∃ e ∈ (offerShares conf earlier k ms).asked, e.accepted = false := by
  obtain ⟨front, m, rest, rfl, through, some_share, no⟩ := exists_stopping_member conf earlier k ms stopped
  obtain ⟨last, pass⟩ := offerShares_of_stopping conf earlier k front m rest through some_share no
  obtain ⟨e, he, refused⟩ := each m (by simp) _ no
  rw [pass]
  exact ⟨e, List.mem_append_right _ he, refused⟩

/-- The slices of a snapshot that go to the members in front share it out among these. -/
theorem way_back (g : Cluster α) (front front' rest rest' : List α) (members : g.members = front ++ rest)
    (length : front'.length = front.length) (same : cardsOf front' = cardsOf front) :
    offerFrom 0 (front' ++ rest') ((g.slices g.configuration).take front.length) =
      { offerShares g.configuration [] 0 front' with
        members := (offerShares g.configuration [] 0 front').members ++ rest' } := by
  have slices : (g.slices g.configuration).take front.length = Slice.shares g.configuration [] (cardsOf front') := by
    have owners : g.owners = cardsOf front' ++ cardsOf rest := by
      rw [same, ← cardsOf_append, ← members]
      rfl
    have size : front.length = (Slice.shares g.configuration [] (cardsOf front')).length := by
      rw [Slice.length_shares, length_cardsOf, length]
    rw [g.slices_eq_shares, owners, Slice.shares_append, size, List.take_left]
  rw [slices, offerFrom_append_idle]
  · rfl
  · rw [Slice.length_shares, length_cardsOf]

/-- How a cluster comes out of a request that stopped at the member `m`, if those in front keep their cards. -/
theorem apply_of_stopping (g : Cluster α) (usable : g.incomplete = none) (request conf : Configuration)
    (earlier : List CardId) (slices : g.slices request = Slice.shares conf earlier (cardsOf g.members))
    (front : List α) (m : α) (rest : List α) (members : g.members = front ++ m :: rest)
    (through : (offerShares conf earlier 0 front).stop = none)
    (some_share : share conf (earlier ++ (cardsOf front).flatten) m ≠ [])
    (no : (Backend.apply m (share conf (earlier ++ (cardsOf front).flatten) m)).answer ≠ .ok true)
    (same : cardsOf (offerShares conf earlier 0 front).members = cardsOf front) :
    let first := offerShares conf earlier 0 front
    let r := Backend.apply m (share conf (earlier ++ (cardsOf front).flatten) m)
    let back := offerShares g.configuration [] 0 first.members
    (g.apply request).undone = first.undone ++ r.undone ++ back.asked ++ back.undone ∧
      (back.stop = none → complaint (g.apply request).answer = complaint r.answer ∧
        (g.apply request).state.members = back.members ++ r.state :: rest) := by
  intro first r back
  obtain ⟨last, pass⟩ := offerShares_of_stopping conf earlier 0 front m rest through some_share no
  have whole : offerFrom 0 g.members (g.slices request) = offerShares conf earlier 0 (front ++ m :: rest) := by
    rw [slices, ← members]
    rfl
  rw [pass, Nat.zero_add] at whole
  have length := (offerFrom_walk 0 front (Slice.shares conf earlier (cardsOf front))).length
  have way := way_back g front first.members (m :: rest) (r.state :: rest) members length same
  have ends := g.application_ends request usable
  change (g.application request).undone = _ ∧ (_ → complaint (g.application request).answer = _ ∧
    (g.application request).cluster.members = _)
  generalize g.application request = out at ends ⊢
  -- either end starts with the pass that stopped and goes on with `back`, so both are read off `whole` and `way`
  cases ends with
  | carriedOut p once through =>
    rw [whole] at once
    subst once
    cases through
  | takenBack p _ t once halted again through =>
    rw [whole] at once
    subst once
    cases halted
    rw [way] at again
    subst again
    exact ⟨rfl, fun _ => ⟨complaint_answer _, rfl⟩⟩
  | stranded p _ t u card once halted again stuck named =>
    rw [whole] at once
    subst once
    cases halted
    rw [way] at again
    subst again
    have stuck : back.stop = some u := stuck
    exact ⟨rfl, fun h => absurd (stuck.symm.trans h) (by simp)⟩

end Cluster

namespace Nest

open Multihead.Cluster (share cardsOf offerShares complaint)
open Multihead.Configuration (cards unnumbered renewed)

variable {α : Type} [Backend α] [Leaf α]

/-! ## What no request changes -/

theorem fixed_apply (n : Nat) (t : Nest α n) (conf : Configuration) :
    (leaves n (Backend.apply t conf).state).map Leaf.fixed = (leaves n t).map Leaf.fixed :=
  map_leaves_apply Leaf.fixed Leaf.fixed_apply n t conf

theorem cards_of_fixed {n : Nat} {t t' : Nest α n} (same : (leaves n t').map Leaf.fixed = (leaves n t).map Leaf.fixed)
    (merging : ∀ a ∈ leaves n t, Leaf.merges a = true) :
    cards (Backend.configuration t') = cards (Backend.configuration t) := by
  rw [Configuration.cards_congr (unnumbered_configuration n t'),
    Configuration.cards_congr (unnumbered_configuration n t)]
  refine Configuration.cards_of_keys ?_
  rw [Leaf.map_key_of_merging _ merging, Leaf.map_key_of_merging _ (Leaf.merging_of_fixed same merging), same]

theorem cardsOf_of_fixed {n : Nat} (ms ms' : List (Nest α n))
    (same : ms'.map (fun m => (leaves n m).map Leaf.fixed) = ms.map fun m => (leaves n m).map Leaf.fixed)
    (merging : ∀ a ∈ ms.flatMap (leaves n), Leaf.merges a = true) : cardsOf ms' = cardsOf ms := by
  induction ms generalizing ms' with
  | nil =>
    rw [List.map_nil, List.map_eq_nil_iff] at same
    rw [same]
  | cons m ms ih =>
    cases ms' with
    | nil => simp at same
    | cons m' ms' =>
      rw [List.map_cons, List.map_cons, List.cons.injEq] at same
      rw [List.flatMap_cons, List.forall_mem_append] at merging
      rw [Cluster.cardsOf_cons, Cluster.cardsOf_cons, cards_of_fixed same.1 merging.1, ih ms' same.2 merging.2]

omit [Leaf α] in
theorem exists_refusal [Leaf.Traced α] (n : Nat) (t : Nest α n) (usable : Usable n t) (request : Configuration)
    (no : (Backend.apply t request).answer ≠ .ok true) :
    ∃ e ∈ (Backend.apply t request).asked, e.accepted = false := by
  induction n, t using Nest.induction generalizing request with
  | onLeaf n a =>
    rw [apply_leaf] at no ⊢
    obtain ⟨answer, asked, -, accepted⟩ := Leaf.Traced.applied a request
    refine ⟨_, asked ▸ List.mem_singleton.2 rfl, ?_⟩
    cases answer with
    | accept => exact absurd (accepted.1 rfl) no
    | reject | fail | incomplete => rfl
  | onCluster n g ih =>
    obtain ⟨-, asked, -⟩ := g.application_two_passes request usable.1
    obtain ⟨through, -⟩ := g.application_of_through request usable.1
    rw [Cluster.offerFrom_slices] at asked through
    change ∃ e ∈ (g.application request).asked, e.accepted = false
    rw [asked]
    exact Cluster.exists_refusal_of_stop request [] 0 g.members (fun m hm => ih m (usable.2.2 m hm)) (mt through.2 no)

/-! ## After a rollback -/

/-- What leaves show when those before the place `i` have taken a request back. -/
def takenBack (i : Nat) (ls : List α) : List Configuration :=
  (ls.take i).map (fun a => unnumbered (renewed (Backend.configuration a))) ++
    (ls.drop i).map fun a => unnumbered (Backend.configuration a)

omit [Leaf α] in
theorem takenBack_between (front middle back : List α) (j : Nat) (inside : j ≤ middle.length) :
    takenBack (front.length + j) (front ++ (middle ++ back)) =
      front.map (fun a => unnumbered (renewed (Backend.configuration a))) ++
        (takenBack j middle ++ back.map fun a => unnumbered (Backend.configuration a)) := by
  rw [takenBack, List.take_length_add_append, List.drop_length_add_append, List.take_append_of_le_length inside,
    List.drop_append_of_le_length inside, List.map_append, List.map_append, takenBack]
  simp only [List.append_assoc]

omit [Leaf α] in
/-- Where a pass over leaves stops, a pass over their nests stops at the nest around that leaf. -/
theorem exists_stopping_nest {n : Nat} (ms : List (Nest α n)) (usable : ∀ m ∈ ms, Usable n m) (conf : Configuration)
    (earlier : List CardId) (k i : Nat) (e : Option DisplayError)
    (stopped : (offerShares conf earlier k (ms.flatMap (leaves n))).stop = some ⟨k + i, e⟩) :
    ∃ front m rest j, ms = front ++ m :: rest ∧ i = (front.flatMap (leaves n)).length + j ∧
      j ≤ (leaves n m).length ∧ (offerShares conf earlier 0 front).stop = none ∧
      share conf (earlier ++ (cardsOf front).flatten) m ≠ [] ∧
      (Backend.apply m (share conf (earlier ++ (cardsOf front).flatten) m)).answer ≠ .ok true ∧
      (offerShares conf (earlier ++ (cardsOf front).flatten) (k + (front.flatMap (leaves n)).length)
        (leaves n m)).stop = some ⟨k + (front.flatMap (leaves n)).length + j, e⟩ := by
  have whole := offerShares_mirrors ms (fun m hm => offers n m (usable m hm)) conf earlier 0 k
  have halted : (offerShares conf earlier 0 ms).stop ≠ none := fun h => by
    rw [whole.stop.1 h] at stopped
    cases stopped
  obtain ⟨front, m, rest, rfl, through, some_share, no⟩ := Cluster.exists_stopping_member conf earlier 0 ms halted
  rw [List.forall_mem_append, List.forall_mem_cons] at usable
  have frontThrough : (offerShares conf earlier k (front.flatMap (leaves n))).stop = none :=
    (offerShares_mirrors front (fun m hm => offers n m (usable.1 m hm)) conf earlier 0 k).stop.1 through
  have here := offers n m usable.2.1 conf (earlier ++ (cardsOf front).flatten) 0 (k + (front.flatMap (leaves n)).length)
  have hereHalted : (offerShares conf (earlier ++ (cardsOf front).flatten) (k + (front.flatMap (leaves n)).length)
      (leaves n m)).stop ≠ none := by
    obtain ⟨calls, stop, pass, ok⟩ := Cluster.offerShares_single conf _ 0 m some_share
    rw [ne_eq, ← here.stop, pass]
    exact mt ok.1 no
  obtain ⟨t, ht⟩ := Option.ne_none_iff_exists'.1 hereHalted
  obtain ⟨j, hj, inside⟩ := Cluster.offerFrom_stop_place _ _ _ t ht
  -- the pass over all leaves is through those of `front` and then stops where the pass over those of `m` does
  have joined : (offerShares conf earlier k ((front ++ m :: rest).flatMap (leaves n))).stop = some t := by
    rw [List.flatMap_append, List.flatMap_cons, Cluster.offerShares_append_through conf earlier k _ _ frontThrough]
    have again := Cluster.offerShares_congr conf _ _ (k + (front.flatMap (leaves n)).length)
      (leaves n m ++ rest.flatMap (leaves n)) (reach_iff n front earlier)
    change (offerShares conf _ _ _).stop = _
    rw [← again, Cluster.offerShares_append_stopped conf _ _ _ _ hereHalted]
    exact ht
  rw [stopped, Option.some.injEq] at joined
  subst joined
  exact ⟨front, m, rest, j, rfl, by simpa [Nat.add_assoc] using hj, Nat.le_of_lt inside, through, some_share, no,
    by rw [ht, ← hj]⟩

/-- A nest that stops at a leaf answers as the leaf did, if nobody refuses to take the request back. It leaves the
leaves before that one renewed where the outputs of a name agree. -/
def TakesBack (n : Nat) (t : Nest α n) : Prop :=
  ∀ conf earlier k i e, share conf earlier t ≠ [] →
    (offerShares conf earlier k (leaves n t)).stop = some ⟨k + i, e⟩ →
    (∀ a ∈ leaves n t, Leaf.merges a = true) →
    (∀ event ∈ (Backend.apply t (share conf earlier t)).undone, event.accepted = true) →
      complaint (Backend.apply t (share conf earlier t)).answer = e ∧
        (NamesAgree (leaves n t) →
          (leaves n (Backend.apply t (share conf earlier t)).state).map (fun a => unnumbered (Backend.configuration a)) =
            takenBack i (leaves n t))

/-- Members that a request went through and that then went through the snapshot leave their leaves renewed. -/
theorem shown_of_way_back {n : Nat} (g : Cluster (Nest α n)) (front rest : List (Nest α n))
    (members : g.members = front ++ rest) (usable : ∀ m ∈ front, Usable n m)
    (merging : ∀ a ∈ g.flat.members, Leaf.merges a = true) (agree : NamesAgree g.flat.members) (conf : Configuration)
    (earlier : List CardId) (through : (offerShares conf earlier 0 front).stop = none)
    (back_through : (offerShares g.configuration [] 0 (offerShares conf earlier 0 front).members).stop = none) :
    ((offerShares g.configuration [] 0 (offerShares conf earlier 0 front).members).members.flatMap (leaves n)).map
        (fun a => unnumbered (Backend.configuration a)) =
      (front.flatMap (leaves n)).map fun a => unnumbered (renewed (Backend.configuration a)) := by
  have forth := offerShares_mirrors front (fun m hm => offers n m (usable m hm)) conf earlier 0 0
  have forthThrough := forth.stop.1 through
  have back := offerShares_mirrors (offerShares conf earlier 0 front).members
    (fun m hm => offers n m (forth.usable forthThrough m hm)) g.configuration [] 0 0
  have leavesAll : g.flat.members = [] ++ front.flatMap (leaves n) ++ rest.flatMap (leaves n) := by
    rw [List.nil_append, ← List.flatMap_append, ← members]
    rfl
  rw [leavesAll] at agree merging
  rw [back.leaves (back.stop.1 back_through), forth.leaves forthThrough]
  refine shown_of_given_back [] (front.flatMap (leaves n)) (rest.flatMap (leaves n)) conf g.configuration earlier [] 0 0
    ?_ agree ?_ ?_ ?_ forthThrough ?_
  · exact fun a ha => merging a (by simp [ha])
  · rw [← leavesAll]
    exact unnumbered_configuration (n + 1) (cluster g)
  · simp [Configuration.cards, Configuration.partition]
  · simp [Configuration.cards, Configuration.partition]
  · rw [← forth.leaves forthThrough]
    exact back.stop.1 back_through

theorem taken_back [Leaf.Traced α] {n : Nat} (g : Cluster (Nest α n)) (usable : Usable (n + 1) (cluster g))
    (each : ∀ m ∈ g.members, TakesBack n m) (request conf : Configuration) (earlier : List CardId) (k i : Nat)
    (e : Option DisplayError) (slices : g.slices request = Slice.shares conf earlier (cardsOf g.members))
    (stopped : (offerShares conf earlier k g.flat.members).stop = some ⟨k + i, e⟩)
    (merging : ∀ a ∈ g.flat.members, Leaf.merges a = true)
    (accepted : ∀ event ∈ (g.apply request).undone, event.accepted = true) :
    complaint (g.apply request).answer = e ∧
      (NamesAgree g.flat.members →
        (g.apply request).state.flat.members.map (fun a => unnumbered (Backend.configuration a)) =
          takenBack i g.flat.members) := by
  obtain ⟨front, m, rest, j, members, rfl, inside, through, some_share, no, stop⟩ :=
    exists_stopping_nest g.members usable.2.2 conf earlier k i e stopped
  have leavesAll : g.flat.members = front.flatMap (leaves n) ++ (leaves n m ++ rest.flatMap (leaves n)) := by
    rw [← List.flatMap_cons, ← List.flatMap_append, ← members]
    rfl
  have usableFront : ∀ m ∈ front, Usable n m := fun m hm => usable.2.2 m (members ▸ List.mem_append_left _ hm)
  have here : m ∈ g.members := members ▸ List.mem_append_right _ List.mem_cons_self
  have mine : (leaves n m).Sublist g.flat.members :=
    leavesAll ▸ (List.sublist_append_left _ _).trans (List.sublist_append_right _ _)
  have forth := offerShares_mirrors front (fun m hm => offers n m (usableFront m hm)) conf earlier 0 0
  have walk := Cluster.offerFrom_walk 0 front (Slice.shares conf earlier (cardsOf front))
  -- merging leaves keep their cards, so the way back cuts the snapshot as if the request had never been made
  have same : cardsOf (offerShares conf earlier 0 front).members = cardsOf front :=
    cardsOf_of_fixed _ _ (walk.map_kept _ (fixed_apply n)) fun a ha => merging a (leavesAll ▸ List.mem_append_left _ ha)
  obtain ⟨undone, state⟩ := Cluster.apply_of_stopping g usable.1 request conf earlier slices front m rest members
    through some_share no same
  rw [undone, List.forall_mem_append, List.forall_mem_append, List.forall_mem_append] at accepted
  obtain ⟨⟨⟨-, undoneHere⟩, askedBack⟩, -⟩ := accepted
  -- a refusal on the way back would have been seen
  have backThrough : (offerShares g.configuration [] 0 (offerShares conf earlier 0 front).members).stop = none := by
    by_contra stuck
    obtain ⟨event, hevent, refused⟩ := Cluster.exists_refusal_of_stop _ _ _ _
      (fun m hm => exists_refusal n m (forth.usable (forth.stop.1 through) m hm)) stuck
    exact absurd (askedBack event hevent) (by simp [refused])
  -- `m` has taken back what its own leaves accepted, and `front` is renewed on the way back
  obtain ⟨answer, shown⟩ := each m here conf _ _ j e some_share stop (fun a ha => merging a (mine.subset ha)) undoneHere
  obtain ⟨answer', members'⟩ := state backThrough
  refine ⟨answer'.trans answer, fun agree => ?_⟩
  have around : (g.apply request).state.flat.members =
      (offerShares g.configuration [] 0 (offerShares conf earlier 0 front).members).members.flatMap (leaves n) ++
        (leaves n (Backend.apply m (share conf (earlier ++ (cardsOf front).flatten) m)).state ++
          rest.flatMap (leaves n)) := by
    rw [← List.flatMap_cons, ← List.flatMap_append, ← members']
    rfl
  rw [around, List.map_append, List.map_append, shown (agree.of_sublist mine), leavesAll,
    takenBack_between _ _ _ j inside,
    shown_of_way_back g front (m :: rest) members usableFront merging agree conf earlier through backThrough]

theorem takesBack [Leaf.Traced α] (n : Nat) (t : Nest α n) (usable : Usable n t) : TakesBack n t := by
  induction n, t using Nest.induction with
  | onLeaf n a =>
    intro conf earlier k i e some_share stopped merging accepted
    rw [share_leaf] at some_share ⊢
    rw [leaves_leaf] at stopped ⊢
    rw [apply_leaf, leaves_leaf]
    by_cases ok : (Backend.apply a (share conf earlier a)).answer = .ok true
    · obtain ⟨card, pass⟩ := Cluster.offerShares_cons_accepted conf earlier k a [] some_share ok
      rw [pass, Cluster.offerShares_nil] at stopped
      cases stopped
    · obtain ⟨card, pass⟩ := Cluster.offerShares_cons_stopped conf earlier k a [] some_share ok
      rw [pass] at stopped
      obtain ⟨place, same⟩ := Cluster.Stop.mk.inj (Option.some.inj stopped)
      obtain rfl : i = 0 := Nat.left_eq_add.1 place
      refine ⟨same, fun _ => ?_⟩
      rw [List.map_singleton, Leaf.refused a _ ok]
      rfl
  | onCluster n g ih =>
    intro conf earlier k i e some_share stopped merging accepted
    exact taken_back g usable (fun m hm => ih m (usable.2.2 m hm)) _ conf earlier k i e (g.slices_share conf earlier)
      stopped merging accepted

end Nest

end Multihead
