import Multihead.Display.Assembly
import Multihead.Proofs.Display.Dispatch
import Multihead.Proofs.Display.Numbering

/-! # Nests seen from their leaves
However deep they are nested, a nest shows what its leaves show, one behind the other, and what is told to all goes to
every leaf once, from the first to the last. -/

set_option autoImplicit false

namespace Multihead

/-- What is told to everyone. -/
inductive Broadcast where
  | register (h : Handler)
  | pause
  | resume

def Broadcast.tell {α : Type} [Backend α] : Broadcast → α → α × List Event
  | register h => Backend.register h
  | pause => Backend.pause
  | resume => Backend.resume

namespace Cluster

variable {α : Type}

/-- The cluster of all leaves, with nothing nested. -/
def flat {n : Nat} (d : Cluster (Nest α n)) : Cluster α := ⟨d.members.flatMap (Nest.leaves n), none⟩

variable [Backend α]

theorem tell_eq_each (b : Broadcast) (g : Cluster α) : b.tell g = each b.tell g := by
  cases b <;> rfl

end Cluster

namespace Nest

open Multihead.Configuration (unnumbered)

variable {α : Type}

/-! ## Leaves and clusters -/

@[elab_as_elim]
theorem induction {motive : (n : Nat) → Nest α n → Prop} (onLeaf : ∀ n a, motive n (leaf a n))
    (onCluster : ∀ n (g : Cluster (Nest α n)), (∀ m, motive n m) → motive (n + 1) (cluster g))
    (n : Nat) (t : Nest α n) : motive n t := by
  induction n with
  | zero => exact onLeaf 0 t
  | succ n ih =>
    cases t with
    | inl a => exact onLeaf (n + 1) a
    | inr g => exact onCluster n g ih

@[simp] theorem leaves_leaf (n : Nat) (a : α) : leaves n (leaf a n) = [a] := by
  cases n <;> rfl

@[simp] theorem leaves_cluster (n : Nat) (g : Cluster (Nest α n)) :
    leaves (n + 1) (cluster g) = g.members.flatMap (leaves n) := rfl

theorem leaves_mapLeaves (f : α → α) (n : Nat) (t : Nest α n) : leaves n (mapLeaves f n t) = (leaves n t).map f := by
  induction n, t using Nest.induction with
  | onLeaf n a => cases n <;> rfl
  | onCluster n g ih =>
    change (g.members.map (mapLeaves f n)).flatMap (leaves n) = (g.members.flatMap (leaves n)).map f
    rw [List.flatMap_map, List.map_flatMap]
    exact List.flatMap_congr fun m _ => ih m

/-- Every cluster in it is usable and has a member. -/
def Usable : (n : Nat) → Nest α n → Prop
  | 0, _ => True
  | _ + 1, .inl _ => True
  | n + 1, .inr g => g.incomplete = none ∧ g.members ≠ [] ∧ ∀ m ∈ g.members, Usable n m

instance decidableUsable : (n : Nat) → (t : Nest α n) → Decidable (Usable n t)
  | 0, _ => .isTrue trivial
  | _ + 1, .inl _ => .isTrue trivial
  | n + 1, .inr g =>
    have := decidableUsable n
    inferInstanceAs (Decidable (g.incomplete = none ∧ g.members ≠ [] ∧ ∀ m ∈ g.members, Usable n m))

theorem usable_leaf (n : Nat) (a : α) : Usable n (leaf a n) := by
  cases n <;> trivial

variable [Backend α]

theorem configuration_leaf (n : Nat) (a : α) :
    Backend.configuration (leaf a n) = Backend.configuration a := by
  cases n <;> rfl

theorem configuration_cluster (n : Nat) (g : Cluster (Nest α n)) :
    Backend.configuration (cluster g) = g.configuration := rfl

theorem configure_leaf (n : Nat) (a : α) (conf : Configuration) :
    Backend.configure (leaf a n) conf = ⟨(Backend.configure a conf).answer, leaf (Backend.configure a conf).state n,
      (Backend.configure a conf).events⟩ := by
  cases n <;> rfl

theorem apply_leaf (n : Nat) (a : α) (conf : Configuration) :
    Backend.apply (leaf a n) conf = ⟨(Backend.apply a conf).answer, leaf (Backend.apply a conf).state n,
      (Backend.apply a conf).asked, (Backend.apply a conf).undone⟩ := by
  cases n <;> rfl

theorem configure_cluster (n : Nat) (g : Cluster (Nest α n)) (conf : Configuration) :
    Backend.configure (cluster g) conf =
      ⟨(g.configure conf).answer, cluster (g.configure conf).state, (g.configure conf).events⟩ := rfl

theorem apply_cluster (n : Nat) (g : Cluster (Nest α n)) (conf : Configuration) :
    Backend.apply (cluster g) conf =
      ⟨(g.apply conf).answer, cluster (g.apply conf).state, (g.apply conf).asked, (g.apply conf).undone⟩ := rfl

theorem syncGroups_leaf (n : Nat) (a : α) : Backend.syncGroups (leaf a n) = Backend.syncGroups a := by
  cases n <;> rfl

theorem syncGroups_cluster (n : Nat) (g : Cluster (Nest α n)) :
    Backend.syncGroups (cluster g) = g.members.flatMap Backend.syncGroups := rfl

theorem context_leaf (n : Nat) (a : α) : Backend.context (leaf a n) = Backend.context a := by
  cases n <;> rfl

theorem tell_leaf (b : Broadcast) (n : Nat) (a : α) :
    b.tell (leaf a n) = (leaf (b.tell a).1 n, (b.tell a).2) := by
  cases b <;> cases n <;> rfl

theorem tell_cluster (b : Broadcast) (n : Nat) (g : Cluster (Nest α n)) :
    b.tell (cluster g) = (cluster (Cluster.each b.tell g).1, (Cluster.each b.tell g).2) := by
  cases b <;> rfl

/-! ## What is shown -/

theorem unnumbered_flatMap {β γ : Type} (ms : List β) (shown : β → Configuration) (inner : β → List γ)
    (part : γ → Configuration) (h : ∀ m ∈ ms, unnumbered (shown m) = unnumbered ((inner m).flatMap part)) :
    unnumbered (ms.flatMap shown) = unnumbered ((ms.flatMap inner).flatMap part) := by
  simp only [unnumbered, List.map_flatMap, List.flatMap_assoc] at h ⊢
  exact List.flatMap_congr h

theorem unnumbered_configuration (n : Nat) (t : Nest α n) :
    unnumbered (Backend.configuration t) = unnumbered ((leaves n t).flatMap Backend.configuration) := by
  induction n, t using Nest.induction with
  | onLeaf n a => rw [configuration_leaf, leaves_leaf, List.flatMap_singleton]
  | onCluster n g ih =>
    rw [configuration_cluster, g.unnumbered_configuration, leaves_cluster]
    exact unnumbered_flatMap g.members _ _ _ fun m _ => ih m

theorem mem_cards (n : Nat) (t : Nest α n) (c : CardId) :
    c ∈ Configuration.cards (Backend.configuration t) ↔
      ∃ a ∈ leaves n t, c ∈ Configuration.cards (Backend.configuration a) := by
  rw [Configuration.cards_congr (unnumbered_configuration n t), Configuration.mem_cards_flatMap]

theorem syncGroups_eq (n : Nat) (t : Nest α n) :
    Backend.syncGroups t = (leaves n t).flatMap Backend.syncGroups := by
  induction n, t using Nest.induction with
  | onLeaf n a => rw [syncGroups_leaf, leaves_leaf, List.flatMap_singleton]
  | onCluster n g ih =>
    rw [syncGroups_cluster, leaves_cluster, List.flatMap_assoc]
    exact List.flatMap_congr fun m _ => ih m

/-- A context for drawing comes from the first leaf. -/
theorem context_eq (n : Nat) (t : Nest α n) (usable : Usable n t) :
    ∃ a rest, leaves n t = a :: rest ∧ Backend.context t = Backend.context a := by
  induction n, t using Nest.induction with
  | onLeaf n a => exact ⟨a, [], leaves_leaf n a, context_leaf n a⟩
  | onCluster n g ih =>
    obtain ⟨-, nonempty, members⟩ := usable
    obtain ⟨ms, incomplete⟩ := g
    cases ms with
    | nil => exact absurd rfl nonempty
    | cons m ms =>
      obtain ⟨a, rest, hleaves, hcontext⟩ := ih m (members m List.mem_cons_self)
      refine ⟨a, rest ++ ms.flatMap (leaves n), ?_, hcontext⟩
      rw [leaves_cluster, List.flatMap_cons, hleaves, List.cons_append]

/-! ## What no request changes -/

/-- What no application changes about a leaf stays the same at every leaf. -/
theorem map_leaves_apply {β : Type} (view : α → β) (kept : ∀ a conf, view (Backend.apply a conf).state = view a)
    (n : Nat) (t : Nest α n) (conf : Configuration) :
    (leaves n (Backend.apply t conf).state).map view = (leaves n t).map view := by
  induction n, t using Nest.induction generalizing conf with
  | onLeaf n a => simp [apply_leaf, kept]
  | onCluster n g ih =>
    have members := g.map_apply_of_kept conf (fun m => (leaves n m).map view) ih
    rw [apply_cluster, leaves_cluster, leaves_cluster, List.map_flatMap, List.map_flatMap, List.flatMap_def,
      List.flatMap_def, members]

theorem map_leaves_configure {β : Type} (view : α → β)
    (kept : ∀ a conf, view (Backend.configure a conf).state = view a) (n : Nat) (t : Nest α n) (conf : Configuration) :
    (leaves n (Backend.configure t conf).state).map view = (leaves n t).map view := by
  induction n, t using Nest.induction generalizing conf with
  | onLeaf n a => simp [configure_leaf, kept]
  | onCluster n g ih =>
    have members := g.map_configure_of_kept conf (fun m => (leaves n m).map view) ih
    rw [configure_cluster, leaves_cluster, leaves_cluster, List.map_flatMap, List.map_flatMap, List.flatMap_def,
      List.flatMap_def, members]

/-! ## What is told to everyone -/

theorem tell_eq (b : Broadcast) (n : Nat) (t : Nest α n) :
    leaves n (b.tell t).1 = (leaves n t).map (fun a => (b.tell a).1) ∧
      (b.tell t).2 = (leaves n t).flatMap fun a => (b.tell a).2 := by
  induction n, t using Nest.induction with
  | onLeaf n a => simp [tell_leaf]
  | onCluster n g ih =>
    simp only [tell_cluster, leaves_cluster, Cluster.each, List.map_map, List.flatMap_map, List.map_flatMap,
      List.flatMap_assoc]
    exact ⟨List.flatMap_congr fun m _ => (ih m).1, List.flatMap_congr fun m _ => (ih m).2⟩

end Nest

end Multihead
