import Multihead.Proofs.Display.Blindness

/-! # Requests without numbers and interleaving
No decision that a cluster takes on a request depends on the numbers of its outputs, nor on how the outputs of one card
stand among those of others: what each member is handed is the same but for numbers, and if the members are blind to
them, so are the passes, the cluster, and a nest of clusters of any depth. -/

set_option autoImplicit false

namespace Multihead

open Multihead.Configuration (unnumbered SameOnCards)

/-! ## Slices -/

namespace Slice

theorem map_struck_ofOutputs (cs : List CardId) (conf : Configuration) :
    (ofOutputs cs conf).map struck = ofOutputs cs (unnumbered conf) := by
  cases cs <;> cases conf <;> rfl

theorem shares_struck {conf conf' : Configuration} (same : SameOnCards conf conf') (earlier : List CardId)
    (owners : List (List CardId)) :
    (shares conf earlier owners).map (Option.map struck) = (shares conf' earlier owners).map (Option.map struck) := by
  induction owners generalizing earlier with
  | nil => rfl
  | cons mine owners ih =>
    rw [shares, shares, List.map_cons, List.map_cons, ih, map_struck_ofOutputs, same.ofCards, ← map_struck_ofOutputs]

end Slice

namespace Cluster

/-! ## Faces of clusters -/

section
variable {α β : Type} (face : α → β)

def map (g : Cluster α) : Cluster β := ⟨g.members.map face, g.incomplete⟩

def ModeSet.struck (r : ModeSet α) : ModeSet β :=
  ⟨r.answer, r.members.map face, r.calls.map Call.struck, r.events.map Event.struck⟩

def Pass.struck (p : Pass α) : Pass β :=
  ⟨p.members.map face, p.calls.map Call.struck, p.stop, p.asked.map Event.struck, p.undone.map Event.struck⟩

def Application.struck (r : Application α) : Application β :=
  ⟨r.answer, r.cluster.map face, r.forward.map Call.struck, r.back.map Call.struck, r.asked.map Event.struck,
    r.undone.map Event.struck⟩

end

theorem map_congr_through {α β γ : Type} {f : α → β} {p : α → γ} (through : ∀ a a', f a = f a' → p a = p a')
    {xs ys : List α} (same : xs.map f = ys.map f) : xs.map p = ys.map p := by
  induction xs generalizing ys with
  | nil =>
    rw [List.map_nil, eq_comm, List.map_eq_nil_iff] at same
    rw [same]
  | cons x xs ih =>
    cases ys with
    | nil => cases same
    | cons y ys =>
      obtain ⟨first, rest⟩ := List.cons.inj same
      rw [List.map_cons, List.map_cons, through x y first, ih rest]

section Blind
variable {α β : Type} [Backend α] {face : α → β} (blind : Blind face)

include blind

/-! ## Slices of a cluster -/

theorem configuration_of_faces {g g' : Cluster α} (faces : g.members.map face = g'.members.map face) :
    g.configuration = g'.configuration :=
  configuration_congr _ _ g.incomplete g'.incomplete (map_congr_through (fun _ _ => blind.shown) faces)

theorem slices_struck {g g' : Cluster α} (faces : g.members.map face = g'.members.map face)
    {conf conf' : Configuration} (requests : SameOnCards conf conf') :
    (g.slices conf).map (Option.map Slice.struck) = (g'.slices conf').map (Option.map Slice.struck) := by
  have owners : g.owners = g'.owners :=
    map_congr_through (fun _ _ same => Configuration.cards_congr (blind.shown same)) faces
  rw [slices_eq_shares, slices_eq_shares, owners, Slice.shares_struck requests]

/-! ## Passes -/

theorem offerFrom_struck (k : Nat) (ms ms' : List α) (ss ss' : List (Option Slice)) (faces : ms.map face = ms'.map face)
    (slices : ss.map (Option.map Slice.struck) = ss'.map (Option.map Slice.struck)) :
    (offerFrom k ms ss).struck face = (offerFrom k ms' ss').struck face := by
  induction ms generalizing k ms' ss ss' with
  | nil =>
    cases ms' with
    | nil => rw [offerFrom_nil, offerFrom_nil]
    | cons => cases faces
  | cons m ms ih =>
    cases ms' with
    | nil => cases faces
    | cons m' ms' =>
    obtain ⟨first, rest⟩ := List.cons.inj faces
    match ss, ss', slices with
    | [], [], _ => simp [offerFrom_nil_slices, Pass.struck, first, rest]
    | none :: ss, none :: ss', slices =>
      have later := ih (k + 1) ms' ss ss' rest (List.cons.inj slices).2
      simp only [Pass.struck, Pass.mk.injEq] at later
      simp [offerFrom_skip, Pass.struck, first, later]
    | some s :: ss, some s' :: ss', slices =>
      obtain ⟨slice, behind⟩ := List.cons.inj slices
      have slice : s.struck = s'.struck := Option.some.inj slice
      have later := ih (k + 1) ms' ss ss' rest behind
      have applied := blind.apply first (congrArg Slice.outputs slice)
      simp only [Applied.struck, Applied.mk.injEq] at applied
      simp only [Pass.struck, Pass.mk.injEq] at later
      by_cases ok : (Backend.apply m s.outputs).answer = .ok true
      · rw [offerFrom_accepted k m ms s ss ok, offerFrom_accepted k m' ms' s' ss' (applied.1 ▸ ok)]
        simp [Pass.struck, Call.struck, slice, applied, later]
      · rw [offerFrom_stopped k m ms s ss ok, offerFrom_stopped k m' ms' s' ss' (applied.1 ▸ ok)]
        simp [Pass.struck, Call.struck, slice, applied, rest]

theorem configureFrom_struck (k : Nat) (ms ms' : List α) (ss ss' : List (Option Slice))
    (faces : ms.map face = ms'.map face)
    (slices : ss.map (Option.map Slice.struck) = ss'.map (Option.map Slice.struck)) :
    (configureFrom k ms ss).struck face = (configureFrom k ms' ss').struck face := by
  induction ms generalizing k ms' ss ss' with
  | nil =>
    cases ms' with
    | nil => rw [configureFrom_nil, configureFrom_nil]
    | cons => cases faces
  | cons m ms ih =>
    cases ms' with
    | nil => cases faces
    | cons m' ms' =>
    obtain ⟨first, rest⟩ := List.cons.inj faces
    match ss, ss', slices with
    | [], [], _ => simp [configureFrom_nil_slices, ModeSet.struck, first, rest]
    | none :: ss, none :: ss', slices =>
      have later := ih (k + 1) ms' ss ss' rest (List.cons.inj slices).2
      simp only [ModeSet.struck, ModeSet.mk.injEq] at later
      simp [configureFrom_skip, ModeSet.struck, first, later]
    | some s :: ss, some s' :: ss', slices =>
      obtain ⟨slice, behind⟩ := List.cons.inj slices
      have slice : s.struck = s'.struck := Option.some.inj slice
      have card : s.card = s'.card := (Slice.mk.inj slice).1
      have later := ih (k + 1) ms' ss ss' rest behind
      have configured := blind.configure first (congrArg Slice.outputs slice)
      simp only [Configured.struck, Configured.mk.injEq] at configured
      simp only [ModeSet.struck, ModeSet.mk.injEq] at later
      cases answer : (Backend.configure m s.outputs).answer with
      | ok =>
        rw [configureFrom_accepted k m ms s ss answer,
          configureFrom_accepted k m' ms' s' ss' (configured.1 ▸ answer)]
        simp [ModeSet.struck, Call.struck, slice, configured, later]
      | error e =>
        rw [configureFrom_failed k m ms s ss e answer,
          configureFrom_failed k m' ms' s' ss' e (configured.1 ▸ answer)]
        simp [ModeSet.struck, Call.struck, slice, card, configured, rest]

/-! ## Requests -/

theorem modeSet_struck {g g' : Cluster α} (faces : g.map face = g'.map face) {conf conf' : Configuration}
    (requests : SameOnCards conf conf') : (g.modeSet conf).struck face = (g'.modeSet conf').struck face := by
  obtain ⟨members, incomplete⟩ := Cluster.mk.inj faces
  rw [modeSet, modeSet, incomplete]
  cases g'.incomplete with
  | some card => simp [ModeSet.struck, members]
  | none => exact configureFrom_struck blind 0 _ _ _ _ members (slices_struck blind members requests)

omit [Backend α] blind in
theorem cardAt_struck (slices : List (Option Slice)) (k : Nat) :
    cardAt (slices.map (Option.map Slice.struck)) k = cardAt slices k := by
  rw [cardAt, cardAt, List.getElem?_map]
  cases slices[k]? with
  | none => rfl
  | some s => cases s <;> rfl

theorem restore_struck {p p' : Pass α} (passes : p.struck face = p'.struck face) (s : Stop)
    {before before' : List (Option Slice)}
    (slices : before.map (Option.map Slice.struck) = before'.map (Option.map Slice.struck)) :
    (restore p s before).struck face = (restore p' s before').struck face := by
  simp only [Pass.struck, Pass.mk.injEq] at passes
  obtain ⟨members, calls, -, asked, undone⟩ := passes
  have taken : (before.take s.member).map (Option.map Slice.struck) =
      (before'.take s.member).map (Option.map Slice.struck) := by
    rw [List.map_take, slices, ← List.map_take]
  have back := offerFrom_struck blind 0 _ _ _ _ members taken
  have cards : ∀ k, cardAt before k = cardAt before' k := by
    intro k
    rw [← cardAt_struck, slices, cardAt_struck]
  simp only [Pass.struck, Pass.mk.injEq] at back
  -- both ways back stop at the same place, or neither does
  simp only [restore, back.2.2.1]
  cases (offerFrom 0 p'.members (before'.take s.member)).stop <;>
    simp [Application.struck, map, calls, asked, undone, back, cards]

theorem application_struck {g g' : Cluster α} (faces : g.map face = g'.map face) {conf conf' : Configuration}
    (requests : SameOnCards conf conf') : (g.application conf).struck face = (g'.application conf').struck face := by
  obtain ⟨members, incomplete⟩ := Cluster.mk.inj faces
  rw [application, application, incomplete]
  cases still : g'.incomplete with
  | some card => simp [Application.struck, faces]
  | none =>
    have pass := offerFrom_struck blind 0 _ _ _ _ members (slices_struck blind members requests)
    -- what is given back is cut from snapshots that are equal, as a snapshot is numbered anew
    have before : (g.slices g.configuration).map (Option.map Slice.struck) =
        (g'.slices g'.configuration).map (Option.map Slice.struck) := by
      rw [configuration_of_faces blind members]
      exact slices_struck blind members fun _ => rfl
    have parts := pass
    simp only [Pass.struck, Pass.mk.injEq] at parts
    simp only [parts.2.2.1]
    cases (offerFrom 0 g'.members (g'.slices conf')).stop with
    | none => simp [Application.struck, map, parts]
    | some s => exact restore_struck blind pass s before

/-- A cluster of members that are blind to numbers is blind to them as well. -/
theorem blind_map : Blind (map face) where
  shown faces := congrArg unnumbered (configuration_of_faces blind (Cluster.mk.inj faces).1)
  configure {g g' conf conf'} faces requests := by
    have same := modeSet_struck blind faces (Configuration.sameOnCards_of_unnumbered requests)
    simp only [ModeSet.struck, ModeSet.mk.injEq] at same
    obtain ⟨answer, members, -, events⟩ := same
    change (g.configure conf).struck (map face) = (g'.configure conf').struck (map face)
    simp [Configured.struck, Cluster.configure, map, answer, members, events, (Cluster.mk.inj faces).2]
  apply {g g' conf conf'} faces requests := by
    have same := application_struck blind faces (Configuration.sameOnCards_of_unnumbered requests)
    simp only [Application.struck, Application.mk.injEq] at same
    obtain ⟨answer, cluster, -, -, asked, undone⟩ := same
    change (g.apply conf).struck (map face) = (g'.apply conf').struck (map face)
    simp [Applied.struck, Cluster.apply, answer, cluster, asked, undone]

end Blind

end Cluster

/-! ## Nests -/

theorem Blind.sum {α β γ δ : Type} [Backend α] [Backend β] {f : α → γ} {g : β → δ} (left : Blind f) (right : Blind g) :
    Blind (Sum.map f g) where
  shown {a a'} faces := by
    match a, a', faces with
    | .inl a, .inl a', faces => exact left.shown (Sum.inl.inj faces)
    | .inr b, .inr b', faces => exact right.shown (Sum.inr.inj faces)
  configure {a a' conf conf'} faces requests := by
    match a, a', faces with
    | .inl a, .inl a', faces =>
      have same := left.configure (Sum.inl.inj faces) requests
      simp only [Configured.struck, Configured.mk.injEq] at same
      simp [Configured.struck, Backend.configure, same]
    | .inr b, .inr b', faces =>
      have same := right.configure (Sum.inr.inj faces) requests
      simp only [Configured.struck, Configured.mk.injEq] at same
      simp [Configured.struck, Backend.configure, same]
  apply {a a' conf conf'} faces requests := by
    match a, a', faces with
    | .inl a, .inl a', faces =>
      have same := left.apply (Sum.inl.inj faces) requests
      simp only [Applied.struck, Applied.mk.injEq] at same
      simp [Applied.struck, Backend.apply, same]
    | .inr b, .inr b', faces =>
      have same := right.apply (Sum.inr.inj faces) requests
      simp only [Applied.struck, Applied.mk.injEq] at same
      simp [Applied.struck, Backend.apply, same]

namespace Nest

variable {α β : Type}

/-- Every leaf of a nest is seen by its face, and every cluster as it is. -/
def faces (face : α → β) : (n : Nat) → Nest α n → Nest β n
  | 0 => face
  | n + 1 => Sum.map face (Cluster.map (faces face n))

theorem blind_faces [Backend α] {face : α → β} (blind : Blind face) (n : Nat) :
    Blind (faces face n : Nest α n → Nest β n) := by
  induction n with
  | zero => exact blind
  | succ n ih => exact blind.sum (Cluster.blind_map ih)

/-- What each cluster in a nest says of itself, from the top down: on which card it is incomplete, and what it shows. -/
def displays [Backend α] : (n : Nat) → Nest α n → List (Option CardId × Configuration)
  | 0, _ => []
  | _ + 1, .inl _ => []
  | n + 1, .inr g => (g.incomplete, g.configuration) :: g.members.flatMap (displays n)

theorem displays_of_faces [Backend α] {face : α → β} (blind : Blind face) (n : Nat) {t t' : Nest α n}
    (same : faces face n t = faces face n t') : displays n t = displays n t' := by
  induction n with
  | zero => rfl
  | succ n ih =>
    match t, t', same with
    | .inl _, .inl _, _ => rfl
    | .inr g, .inr g', same =>
      obtain ⟨members, incomplete⟩ := Cluster.mk.inj (Sum.inr.inj same)
      have below : g.members.map (displays n) = g'.members.map (displays n) :=
        Cluster.map_congr_through (fun _ _ => ih) members
      rw [displays, displays, incomplete, Cluster.configuration_of_faces (blind_faces blind n) members,
        List.flatMap_def, List.flatMap_def, below]

end Nest

namespace Cluster

open Multihead.Nest (faces displays cluster)

/-- Whatever the numbers in a request, and however the outputs of its cards are interleaved: a cluster of nests gives the
same answer and makes the same calls, it and those in it are left incomplete on the same cards, and they show the same. -/
theorem numbers_and_interleaving_unseen {α : Type} [Backend α] [Leaf α] [Leaf.Settable α] [Leaf.Scripted α] {n : Nat}
    (d : Cluster (Nest α n)) (conf conf' : Configuration) (requests : SameOnCards conf conf') :
    let face := faces (fun a : α => Leaf.face a) n
    ((d.modeSet conf).struck face = (d.modeSet conf').struck face ∧
      (d.configure conf).answer = (d.configure conf').answer ∧
      (d.configure conf).events.map Event.struck = (d.configure conf').events.map Event.struck ∧
      displays (n + 1) (cluster (d.configure conf).state) = displays (n + 1) (cluster (d.configure conf').state)) ∧
    (d.application conf).struck face = (d.application conf').struck face ∧
      (d.apply conf).answer = (d.apply conf').answer ∧
      ((d.apply conf).asked ++ (d.apply conf).undone).map Event.struck =
        ((d.apply conf').asked ++ (d.apply conf').undone).map Event.struck ∧
      displays (n + 1) (cluster (d.apply conf).state) = displays (n + 1) (cluster (d.apply conf').state) := by
  intro face
  have blind : Blind face := Nest.blind_faces Leaf.blind n
  have shown : ∀ {g g' : Cluster (Nest α n)}, g.map face = g'.map face →
      displays (n + 1) (cluster g) = displays (n + 1) (cluster g') :=
    fun same => Nest.displays_of_faces Leaf.blind (n + 1) (congrArg Sum.inr same)
  constructor
  · have same := modeSet_struck blind (g := d) rfl requests
    have parts := same
    simp only [ModeSet.struck, ModeSet.mk.injEq] at parts
    obtain ⟨answer, members, -, events⟩ := parts
    exact ⟨same, answer, events, shown (congrArg (Cluster.mk · d.incomplete) members)⟩
  · have same := application_struck blind (g := d) rfl requests
    have parts := same
    simp only [Application.struck, Application.mk.injEq] at parts
    obtain ⟨answer, state, -, -, asked, undone⟩ := parts
    refine ⟨same, answer, ?_, shown state⟩
    rw [List.map_append, List.map_append]
    exact congrArg₂ (· ++ ·) asked undone

/-- A replacing adapter that does not take its outputs back, before one that merges and one that rejects. -/
def mixedFloors : Display 1 :=
  ⟨[Assembly.adapter (.holding 0 [.unlit 1 "A", .unlit 2 "B"] [.accept, .reject]) 1,
    Assembly.cluster ⟨[.merging 1 [.unlit 3 "C"] [], .holding 2 [.unlit 4 "D", .unlit 4 "E"] [.reject]], none⟩], none⟩

def turnedOver (conf : Configuration) : Configuration := conf.map fun o => { o with orientation := .half }

/-- All outputs, by card. -/
def byCard : Configuration := turnedOver [.unlit 1 "A", .unlit 2 "B", .unlit 3 "C", .unlit 4 "D", .unlit 4 "E"]

/-- As before, with the cards mixed up and the numbers of another snapshot. -/
def mixedUp : Configuration :=
  turnedOver [{ Output.unlit 4 "D" with id := ⟨7⟩ }, { Output.unlit 2 "B" with id := ⟨7⟩ },
    { Output.unlit 4 "E" with id := ⟨0⟩ }, .unlit 3 "C", { Output.unlit 1 "A" with id := ⟨3⟩ }]

theorem mixedFloors_unseen :
    SameOnCards byCard mixedUp ∧ (mixedFloors.apply byCard).asked ≠ (mixedFloors.apply mixedUp).asked ∧
    (mixedFloors.apply byCard).answer = .error (.incomplete ⟨1⟩) ∧
    (mixedFloors.apply mixedUp).answer = .error (.incomplete ⟨1⟩) ∧
    ((mixedFloors.apply byCard).asked ++ (mixedFloors.apply byCard).undone).map Event.struck =
      ((mixedFloors.apply mixedUp).asked ++ (mixedFloors.apply mixedUp).undone).map Event.struck ∧
    displays 2 (cluster (mixedFloors.apply byCard).state) = displays 2 (cluster (mixedFloors.apply mixedUp).state) := by
  have requests : SameOnCards byCard mixedUp := by decide
  obtain ⟨-, -, answer, events, shown⟩ := mixedFloors.numbers_and_interleaving_unseen byCard mixedUp requests
  have incomplete : (mixedFloors.apply byCard).answer = .error (.incomplete ⟨1⟩) := by decide
  exact ⟨requests, by decide, incomplete, answer ▸ incomplete, events, shown⟩

end Cluster

end Multihead
