import Mathlib.Data.List.Basic
import Multihead.Display.Adapter

/-! # Leaves
A leaf is a backend that stores what it accepts and nothing else. A merging leaf never changes which outputs it
holds, so it can be given back what it had, output by output. -/

set_option autoImplicit false

namespace Multihead

/-- What tells the outputs of a leaf apart. -/
def Output.key (o : Output) : CardId × String := (o.card, o.name)

/-! ## Overwriting -/

namespace Adapter

theorem overwrite_cons (h o : Output) (held : Configuration) :
    overwrite (h :: held) o = (if h.key = o.key then o else h) :: overwrite held o := by
  simp only [overwrite, Output.key, List.map_cons, Prod.mk.injEq]

theorem overwrite_of_not_mem (held : Configuration) (o : Output) (h : o.key ∉ held.map Output.key) :
    overwrite held o = held := by
  induction held with
  | nil => rfl
  | cons p held ih =>
    rw [List.map_cons, List.mem_cons, not_or] at h
    rw [overwrite_cons, if_neg (fun e => h.1 e.symm), ih h.2]

theorem map_key_overwrite (held : Configuration) (o : Output) :
    (overwrite held o).map Output.key = held.map Output.key := by
  induction held with
  | nil => rfl
  | cons p held ih =>
    rw [overwrite_cons, List.map_cons, List.map_cons, ih]
    split
    · next h => rw [h]
    · rfl

theorem map_key_foldl_overwrite (conf held : Configuration) :
    (conf.foldl overwrite held).map Output.key = held.map Output.key := by
  induction conf generalizing held with
  | nil => rfl
  | cons o conf ih => rw [List.foldl_cons, ih, map_key_overwrite]

theorem foldl_overwrite_cons (conf held : Configuration) (h : Output) (other : h.key ∉ conf.map Output.key) :
    conf.foldl overwrite (h :: held) = h :: conf.foldl overwrite held := by
  induction conf generalizing held with
  | nil => rfl
  | cons o conf ih =>
    rw [List.map_cons, List.mem_cons, not_or] at other
    rw [List.foldl_cons, overwrite_cons, if_neg other.1, ih _ other.2, List.foldl_cons]

theorem foldl_overwrite_eq (conf held : Configuration) (same : held.map Output.key = conf.map Output.key)
    (distinct : (conf.map Output.key).Nodup) : conf.foldl overwrite held = conf := by
  induction conf generalizing held with
  | nil => simpa using same
  | cons o conf ih =>
    cases held with
    | nil => simp at same
    | cons h held =>
      rw [List.map_cons, List.map_cons, List.cons.injEq] at same
      rw [List.map_cons, List.nodup_cons] at distinct
      have absent : o.key ∉ held.map Output.key := same.2 ▸ distinct.1
      rw [List.foldl_cons, overwrite_cons, if_pos same.1, overwrite_of_not_mem held o absent,
        foldl_overwrite_cons conf held o distinct.1, ih held same.2 distinct.2]

end Adapter

/-! ## What a leaf promises -/

/-- A backend that stores a request it accepts, in place of all it holds or merged into it output by output, and
that a request it does not accept leaves as it was. It never changes from one kind to the other. -/
class Leaf (α : Type) [Backend α] where
  merges : α → Bool
  merges_apply : ∀ (a : α) (conf : Configuration), merges (Backend.apply a conf).state = merges a
  accepted : ∀ (a : α) (conf : Configuration), (Backend.apply a conf).answer = .ok true →
    Backend.configuration (Backend.apply a conf).state =
      if merges a then conf.foldl Adapter.overwrite (Backend.configuration a) else conf
  refused : ∀ (a : α) (conf : Configuration), (Backend.apply a conf).answer ≠ .ok true →
    Backend.configuration (Backend.apply a conf).state = Backend.configuration a

instance : Leaf Adapter where
  merges := Adapter.merges
  merges_apply a conf := by
    change (Adapter.apply a conf).state.merges = a.merges
    unfold Adapter.apply
    cases a.commits.headD .accept <;> rfl
  accepted a conf h := by
    change (Adapter.apply a conf).answer = .ok true at h
    change (Adapter.apply a conf).state.outputs = if a.merges then conf.foldl Adapter.overwrite a.outputs else conf
    unfold Adapter.apply at h ⊢
    cases hc : a.commits.headD .accept with
    | accept => rfl
    | reject | fail | incomplete => simp only [hc] at h; cases h
  refused a conf h := by
    change (Adapter.apply a conf).answer ≠ .ok true at h
    change (Adapter.apply a conf).state.outputs = a.outputs
    unfold Adapter.apply at h ⊢
    cases hc : a.commits.headD .accept with
    | accept => simp only [hc] at h; exact absurd rfl h
    | reject | fail | incomplete => rfl

/-- A leaf that also stores a request it is configured with, in the way in which it stores one that it accepts. -/
class Leaf.Settable (α : Type) [Backend α] [Leaf α] : Prop where
  configured : ∀ (a : α) (conf : Configuration), (Backend.configure a conf).answer = .ok () →
    Backend.configuration (Backend.configure a conf).state =
      if Leaf.merges a then conf.foldl Adapter.overwrite (Backend.configuration a) else conf

instance : Leaf.Settable Adapter where
  configured a conf h := by
    change (Adapter.configure a conf).answer = .ok () at h
    change (Adapter.configure a conf).state.outputs =
      if a.merges then conf.foldl Adapter.overwrite a.outputs else conf
    unfold Adapter.configure at h ⊢
    cases hc : a.modeSets.headD .accept with
    | accept => rfl
    | fail => simp only [hc] at h; cases h

/-- An application that the adapter accepted. -/
def Event.accepted : Event → Bool
  | apply _ .accept _ => true
  | _ => false

/-- A leaf whose applications are traced: by the request it was sent, and whether it accepted. -/
class Leaf.Traced (α : Type) [Backend α] where
  label : α → Nat
  applied : ∀ (a : α) (conf : Configuration), ∃ answer,
    (Backend.apply a conf).asked = [.apply (label a) answer conf] ∧ (Backend.apply a conf).undone = [] ∧
      (answer = .accept ↔ (Backend.apply a conf).answer = .ok true)

instance : Leaf.Traced Adapter where
  label := Adapter.label
  applied a conf := by
    change ∃ answer, (Adapter.apply a conf).asked = [.apply a.label answer conf] ∧
      (Adapter.apply a conf).undone = [] ∧ (answer = .accept ↔ (Adapter.apply a conf).answer = .ok true)
    unfold Adapter.apply
    cases a.commits.headD .accept <;> exact ⟨_, rfl, rfl, by simp⟩

/-! ## Scripted adapters -/

def Output.unlit (card : UInt32) (name : String) : Output where
  id := ⟨1⟩
  card := ⟨card⟩
  name := name
  connected := true
  used := false
  formats := []
  modes := []
  preferred := 0
  current := none
  physical := ⟨0, 0⟩
  topLeft := ⟨0, 0⟩
  format := ⟨"XR24"⟩
  power := .off
  orientation := .normal
  scale := .one
  hasGamma := false
  gamma := ⟨[], [], []⟩

/-- A replacing adapter with these outputs that answers requests as told. -/
def Adapter.holding (label : Nat) (outputs : Configuration) (commits : List CommitAnswer) : Adapter where
  label := label
  outputs := outputs
  merges := false
  commits := commits
  modeSets := []
  groups := 0
  lacksContext := false
  handlers := []

/-- As before, with an adapter that merges. -/
def Adapter.merging (label : Nat) (outputs : Configuration) (commits : List CommitAnswer) : Adapter :=
  { Adapter.holding label outputs commits with merges := true }

/-! ## Storing and giving back -/

namespace Leaf

variable {α : Type} [Backend α] [Leaf α]

theorem map_key_apply (a : α) (conf : Configuration) (h : merges a = true) :
    (Backend.configuration (Backend.apply a conf).state).map Output.key =
      (Backend.configuration a).map Output.key := by
  by_cases ok : (Backend.apply a conf).answer = .ok true
  · rw [accepted a conf ok, if_pos h, Adapter.map_key_foldl_overwrite]
  · rw [refused a conf ok]

theorem configuration_apply (a : α) (conf : Configuration) (ok : (Backend.apply a conf).answer = .ok true)
    (same : merges a = true → (Backend.configuration a).map Output.key = conf.map Output.key)
    (distinct : (conf.map Output.key).Nodup) : Backend.configuration (Backend.apply a conf).state = conf := by
  rw [accepted a conf ok]
  split
  · next h => exact Adapter.foldl_overwrite_eq conf _ (same h) distinct
  · rfl

theorem configuration_configure [Settable α] (a : α) (conf : Configuration)
    (ok : (Backend.configure a conf).answer = .ok ())
    (same : (Backend.configuration a).map Output.key = conf.map Output.key)
    (distinct : (conf.map Output.key).Nodup) : Backend.configuration (Backend.configure a conf).state = conf := by
  rw [Settable.configured a conf ok]
  split
  · exact Adapter.foldl_overwrite_eq conf _ same distinct
  · rfl

/-! ## What no request changes -/

/-- What no request changes about a leaf that merges. -/
def fixed (a : α) : Option (List (CardId × String)) :=
  if merges a then some ((Backend.configuration a).map Output.key) else none

theorem fixed_apply (a : α) (conf : Configuration) : fixed (Backend.apply a conf).state = fixed a := by
  rw [fixed, fixed, merges_apply]
  split
  · next merging => rw [map_key_apply a conf merging]
  · rfl

theorem isSome_fixed (a : α) : (fixed a).isSome = merges a := by
  rw [fixed]
  cases merges a <;> rfl

theorem merging_of_fixed {ls ls' : List α} (same : ls'.map fixed = ls.map fixed)
    (merging : ∀ a ∈ ls, merges a = true) : ∀ a ∈ ls', merges a = true := by
  intro a ha
  obtain ⟨b, hb, hab⟩ := List.mem_map.1 (same ▸ List.mem_map_of_mem ha : fixed a ∈ ls.map fixed)
  rw [← isSome_fixed, ← hab, isSome_fixed, merging b hb]

theorem map_key_of_merging (ls : List α) (merging : ∀ a ∈ ls, merges a = true) :
    (ls.flatMap Backend.configuration).map Output.key = (ls.map fixed).flatMap fun keys => keys.getD [] := by
  rw [List.map_flatMap, List.flatMap_map]
  refine List.flatMap_congr fun a ha => ?_
  rw [fixed, if_pos (merging a ha), Option.getD_some]

end Leaf

end Multihead
