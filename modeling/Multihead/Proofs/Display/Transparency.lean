import Multihead.Layout
import Multihead.Proofs.Display.Restoring

/-! # Nesting is not seen
To whoever uses it, and to every leaf, a cluster of nests is the one cluster of all its leaves: snapshots, calls and
answers are the same. Only the calls that take a request back may differ, and what they leave behind is the same if on
every card that several leaves have the outputs of one name are the same. -/

set_option autoImplicit false

namespace Multihead.Cluster

open Multihead.Nest (Usable cluster leaves takenBack)
open Multihead.Configuration (unnumbered)

variable {α : Type} [Backend α] {n : Nat}

/-! ## Snapshots -/

theorem configuration_flat (d : Cluster (Nest α n)) : d.configuration = d.flat.configuration :=
  have leaves := Nest.unnumbered_configuration (n + 1) (cluster d)
  Configuration.numbered_congr (d.unnumbered_configuration.symm.trans leaves)

theorem configuration_getElem? (d : Cluster (Nest α n)) (i : Nat) :
    d.configuration[i]? = (d.flat.members.flatMap Backend.configuration)[i]?.map fun o =>
      { o with id := ⟨UInt32.ofNat (i + 1)⟩ } := by
  have place : (1 : UInt32) + UInt32.ofNat i = UInt32.ofNat (i + 1) := by
    rw [UInt32.ofNat_add, UInt32.add_comm]
    rfl
  rw [configuration_flat, configuration, Configuration.numbered, Configuration.numberFrom_getElem?, place]

/-! ## Mode-sets -/

theorem configure_flat (d : Cluster (Nest α n)) (usable : Usable (n + 1) (cluster d)) (conf : Configuration) :
    (d.configure conf).events = (d.flat.configure conf).events ∧
      (d.configure conf).state.flat.members = (d.flat.configure conf).state.members ∧
      (d.configure conf).answer.mapError ConfigureError.origin =
        (d.flat.configure conf).answer.mapError ConfigureError.origin := by
  have mirror := Nest.modeSet_mirrors d usable.1 (fun m hm => Nest.configures n m (usable.2.2 m hm)) conf conf [] 0
    (d.slices_eq_shares conf)
  have flat : d.flat.modeSet conf = configureShares conf [] 0 d.flat.members := by
    rw [modeSet_of_usable d.flat conf rfl, configureFrom_slices]
  rw [← flat] at mirror
  exact ⟨mirror.events, mirror.leaves, mirror.answer⟩

/-! ## Applications -/

/-- A cluster of leaves that stops at one of them, as a nest of depth one. -/
theorem flat_taken_back [Leaf α] [Leaf.Traced α] (ls : List α) (nonempty : ls ≠ []) (conf : Configuration) (i : Nat)
    (e : Option DisplayError) (stopped : (offerShares conf [] 0 ls).stop = some ⟨i, e⟩)
    (merging : ∀ a ∈ ls, Leaf.merges a = true)
    (accepted : ∀ event ∈ (Cluster.apply ⟨ls, none⟩ conf).undone, event.accepted = true) :
    complaint (Cluster.apply ⟨ls, none⟩ conf).answer = e ∧
      (NamesAgree ls → (Cluster.apply ⟨ls, none⟩ conf).state.members.map
        (fun a => unnumbered (Backend.configuration a)) = takenBack i ls) := by
  have single : ∀ g : Cluster (Nest α 0), g.flat.members = g.members := fun g => List.flatMap_singleton' g.members
  have taken := Nest.taken_back (n := 0) ⟨ls, none⟩ ⟨rfl, nonempty, fun _ _ => trivial⟩
    (fun m _ => Nest.takesBack 0 m trivial) conf conf [] 0 i e (slices_eq_shares _ conf)
  rw [single, single, Nat.zero_add] at taken
  exact taken stopped merging accepted

section
variable (d : Cluster (Nest α n)) (usable : Usable (n + 1) (cluster d)) (conf : Configuration)

include usable

theorem asked_flat : (d.apply conf).asked = (d.flat.apply conf).asked := by
  obtain ⟨asked, -, -⟩ := Nest.apply_mirrors d usable (fun m hm => Nest.offers n m (usable.2.2 m hm)) conf conf [] 0
    (d.slices_eq_shares conf)
  obtain ⟨-, flat, -⟩ := d.flat.application_two_passes conf rfl
  rw [offerFrom_slices] at flat
  exact asked.trans flat.symm

theorem apply_flat [Leaf α] [Leaf.Traced α] (merging : ∀ a ∈ d.flat.members, Leaf.merges a = true)
    (accepted : ∀ event ∈ (d.apply conf).undone ++ (d.flat.apply conf).undone, event.accepted = true) :
    (d.apply conf).answer = (d.flat.apply conf).answer ∧
      (NamesAgree d.flat.members →
        (d.apply conf).state.configuration = (d.flat.apply conf).state.configuration) := by
  obtain ⟨-, ok, state⟩ := Nest.apply_mirrors d usable (fun m hm => Nest.offers n m (usable.2.2 m hm)) conf conf [] 0
    (d.slices_eq_shares conf)
  obtain ⟨flatOk, flatState⟩ := d.flat.application_of_through conf rfl
  rw [offerFrom_slices] at flatOk flatState
  change ((d.flat.apply conf).answer = .ok true ↔ _) at flatOk
  change (_ → (d.flat.apply conf).state = _) at flatState
  rw [configuration_flat]
  cases stop : (offerShares conf [] 0 d.flat.members).stop with
  | none =>
    rw [ok.2 stop, flatOk.2 stop, flatState stop, configuration, (state stop).1]
    exact ⟨rfl, fun _ => rfl⟩
  | some t =>
    obtain ⟨place, error⟩ := t
    rw [List.forall_mem_append] at accepted
    have nonempty : d.flat.members ≠ [] := fun none_there => by
      rw [none_there, offerShares_nil] at stop
      cases stop
    obtain ⟨answer, shown⟩ := Nest.taken_back d usable (fun m hm => Nest.takesBack n m (usable.2.2 m hm)) conf conf [] 0
      place error (d.slices_eq_shares conf) (by rw [stop, Nat.zero_add]) merging accepted.1
    obtain ⟨answer', shown'⟩ := flat_taken_back d.flat.members nonempty conf place error stop merging accepted.2
    refine ⟨answer_eq_of_complaint ?_ ?_ (answer.trans answer'.symm), fun agree => ?_⟩
    · rw [ne_eq, ok, stop]
      simp
    · rw [ne_eq, flatOk, stop]
      simp
    · exact configuration_congr _ _ _ _ ((shown agree).trans (shown' agree).symm)

end

/-! ## The whole of it -/

/-- A display of displays does what the one display of all its leaves does. Whatever is told to all reaches every leaf
once, from the first to the last. A request that is taken back has the same answer if all leaves merge and none of them
refuses to take it back, and leaves the same behind if the outputs of one name agree on the cards that they share. -/
theorem same_as_flat [Leaf α] [Leaf.Traced α] (d : Cluster (Nest α n)) (usable : Usable (n + 1) (cluster d)) :
    (d.configuration = d.flat.configuration ∧
      ∀ i : Nat, d.configuration[i]? = (d.flat.members.flatMap Backend.configuration)[i]?.map fun o : Output =>
        { o with id := ⟨UInt32.ofNat (i + 1)⟩ }) ∧
    (∀ conf, (d.configure conf).events = (d.flat.configure conf).events ∧
      (d.configure conf).state.flat.members = (d.flat.configure conf).state.members ∧
      (d.configure conf).answer.mapError ConfigureError.origin =
        (d.flat.configure conf).answer.mapError ConfigureError.origin) ∧
    (∀ b : Broadcast, (b.tell d).2 = d.flat.members.flatMap (fun a => (b.tell a).2) ∧
      (b.tell d.flat).2 = d.flat.members.flatMap (fun a => (b.tell a).2) ∧
      (b.tell d).1.flat.members = d.flat.members.map (fun a => (b.tell a).1) ∧
      (b.tell d.flat).1.members = d.flat.members.map fun a => (b.tell a).1) ∧
    (Backend.syncGroups d = d.flat.members.flatMap Backend.syncGroups ∧
      Backend.syncGroups d.flat = d.flat.members.flatMap Backend.syncGroups) ∧
    (∃ a rest, d.flat.members = a :: rest ∧ d.context = Backend.context a ∧ d.flat.context = Backend.context a) ∧
    ∀ conf, (d.apply conf).asked = (d.flat.apply conf).asked ∧
      ((∀ a ∈ d.flat.members, Leaf.merges a = true) →
        (∀ event ∈ (d.apply conf).undone ++ (d.flat.apply conf).undone, event.accepted = true) →
          (d.apply conf).answer = (d.flat.apply conf).answer ∧
            (NamesAgree d.flat.members →
              (d.apply conf).state.configuration = (d.flat.apply conf).state.configuration)) := by
  refine ⟨⟨d.configuration_flat, d.configuration_getElem?⟩, d.configure_flat usable, fun b => ?_, ⟨?_, rfl⟩, ?_,
    fun conf => ⟨d.asked_flat usable conf, d.apply_flat usable conf⟩⟩
  · obtain ⟨told, events⟩ := Nest.tell_eq b (n + 1) (cluster d)
    have nested : b.tell (cluster d) = (cluster (b.tell d).1, (b.tell d).2) := by cases b <;> rfl
    rw [nested] at told events
    have flat : b.tell d.flat = each b.tell d.flat := d.flat.tell_eq_each b
    refine ⟨events, ?_, told, ?_⟩
    · simp [tell_eq_each, each, List.flatMap_map]
    · simp [tell_eq_each, each]
  · exact Nest.syncGroups_eq (n + 1) (cluster d)
  · obtain ⟨a, rest, members, context⟩ := Nest.context_eq (n + 1) (cluster d) usable
    have members : d.flat.members = a :: rest := members
    refine ⟨a, rest, members, context, ?_⟩
    rw [Cluster.context, members]

/-- An adapter that has card 1 in common with the first of three one level down, the last of which rejects. -/
def twoFloors : Display 1 :=
  ⟨[Assembly.adapter (.merging 0 [.unlit 1 "A"] []) 1,
    Assembly.cluster ⟨[.merging 1 [.unlit 1 "B", .unlit 2 "A"] [], .merging 2 [.unlit 3 "A"] [],
      .merging 3 [.unlit 4 "A"] [.reject]], none⟩], none⟩

/-- The request goes through three adapters before it is rejected, and is taken back from them in another order. -/
theorem twoFloors_same :
    (∀ a ∈ twoFloors.flat.members, Leaf.merges a = true) ∧ NamesAgree twoFloors.flat.members ∧
    (∀ event ∈ (twoFloors.apply (Layout.stagger ⟨5, 25⟩ twoFloors.configuration)).undone ++
      (twoFloors.flat.apply (Layout.stagger ⟨5, 25⟩ twoFloors.configuration)).undone, event.accepted = true) ∧
    (twoFloors.apply (Layout.stagger ⟨5, 25⟩ twoFloors.configuration)).undone ≠
      (twoFloors.flat.apply (Layout.stagger ⟨5, 25⟩ twoFloors.configuration)).undone ∧
    (twoFloors.apply (Layout.stagger ⟨5, 25⟩ twoFloors.configuration)).answer = .ok false ∧
    (twoFloors.flat.apply (Layout.stagger ⟨5, 25⟩ twoFloors.configuration)).answer = .ok false ∧
    (twoFloors.apply (Layout.stagger ⟨5, 25⟩ twoFloors.configuration)).state.configuration =
      (twoFloors.flat.apply (Layout.stagger ⟨5, 25⟩ twoFloors.configuration)).state.configuration := by
  have merging : ∀ a ∈ twoFloors.flat.members, Leaf.merges a = true := by decide
  have agree : NamesAgree twoFloors.flat.members := by decide
  have accepted : ∀ event ∈ (twoFloors.apply (Layout.stagger ⟨5, 25⟩ twoFloors.configuration)).undone ++
      (twoFloors.flat.apply (Layout.stagger ⟨5, 25⟩ twoFloors.configuration)).undone, event.accepted = true := by decide
  have usable : Usable 2 (cluster twoFloors) := by decide
  obtain ⟨-, -, -, -, -, applied⟩ := twoFloors.same_as_flat usable
  obtain ⟨answer, shown⟩ := (applied _).2 merging accepted
  exact ⟨merging, agree, accepted, by decide, rfl, answer ▸ rfl, shown agree⟩

/-- Two adapters on different floors hold an output of the same card and name, with different values. -/
def namesakes : Display 1 :=
  ⟨[Assembly.cluster ⟨[.merging 0 [.unlit 1 "A"] [], .merging 1 [.unlit 2 "A"] [.reject]], none⟩,
    Assembly.adapter (.merging 2 [{ Output.unlit 1 "A" with orientation := .half }] []) 1], none⟩

/-- A rejected request shows how they are nested: the first of them is given the value of the other one back only if
both are on one floor. -/
theorem namesakes_differ :
    Usable 2 (cluster namesakes) ∧ (∀ a ∈ namesakes.flat.members, Leaf.merges a = true) ∧
    (∀ event ∈ (namesakes.apply [.unlit 2 "A"]).undone ++ (namesakes.flat.apply [.unlit 2 "A"]).undone,
      event.accepted = true) ∧
    (namesakes.apply [.unlit 2 "A"]).answer = .ok false ∧ (namesakes.flat.apply [.unlit 2 "A"]).answer = .ok false ∧
    (namesakes.apply [.unlit 2 "A"]).state.configuration = namesakes.configuration ∧
    (namesakes.flat.apply [.unlit 2 "A"]).state.configuration ≠ namesakes.configuration :=
  ⟨by decide, by decide, by decide, rfl, rfl, by decide, by decide⟩

/-- A name stands twice on a card that another adapter has as well. -/
def doubles : Display 1 :=
  ⟨[Assembly.adapter (.merging 0 [.unlit 1 "A"] []) 1,
    Assembly.cluster ⟨[.merging 1 [.unlit 1 "B", { Output.unlit 1 "B" with orientation := .half }] [],
      .merging 2 [.unlit 2 "A"] [.reject]], none⟩], none⟩

/-- Names have to agree within an adapter too: here the adapter is given both values back only by its own floor. -/
theorem doubles_differ :
    Usable 2 (cluster doubles) ∧ (∀ a ∈ doubles.flat.members, Leaf.merges a = true) ∧
    (∀ event ∈ (doubles.apply [.unlit 2 "A"]).undone ++ (doubles.flat.apply [.unlit 2 "A"]).undone,
      event.accepted = true) ∧
    (doubles.apply [.unlit 2 "A"]).answer = .ok false ∧ (doubles.flat.apply [.unlit 2 "A"]).answer = .ok false ∧
    (doubles.apply [.unlit 2 "A"]).state.configuration ≠ doubles.configuration ∧
    (doubles.flat.apply [.unlit 2 "A"]).state.configuration = doubles.configuration :=
  ⟨by decide, by decide, by decide, rfl, rfl, by decide, by decide⟩

end Multihead.Cluster
