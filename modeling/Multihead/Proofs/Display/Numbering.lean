import Mathlib.Data.List.Forall2
import Multihead.Display.Cluster
import Multihead.Proofs.Display.Leaf
import Multihead.Proofs.Display.Partition

/-! # Configurations up to their numbers
Numbering a configuration anew forgets the numbers that its outputs had. What says nothing of numbers is the same for
two configurations that differ in them only. -/

set_option autoImplicit false

namespace Multihead

namespace Configuration

/-- All numbers struck out. -/
def unnumbered (conf : Configuration) : Configuration := conf.map fun o => { o with id := ⟨0⟩ }

theorem unnumbered_numberFrom (n : UInt32) (conf : Configuration) :
    unnumbered (numberFrom n conf) = unnumbered conf := by
  induction conf generalizing n with
  | nil => rfl
  | cons o conf ih =>
    have later := ih (n + 1)
    simp only [unnumbered, numberFrom, List.map_cons] at later ⊢
    rw [later]

theorem numberFrom_unnumbered (n : UInt32) (conf : Configuration) :
    numberFrom n (unnumbered conf) = numberFrom n conf := by
  induction conf generalizing n with
  | nil => rfl
  | cons o conf ih =>
    have later := ih (n + 1)
    simp only [unnumbered, numberFrom, List.map_cons] at later ⊢
    rw [later]

theorem numbered_congr {a b : Configuration} (h : unnumbered a = unnumbered b) : numbered a = numbered b := by
  rw [numbered, numbered, ← numberFrom_unnumbered 1 a, h, numberFrom_unnumbered]

theorem numberFrom_getElem? (n : UInt32) (conf : Configuration) (i : Nat) :
    (numberFrom n conf)[i]? = conf[i]?.map fun o => { o with id := ⟨n + UInt32.ofNat i⟩ } := by
  induction conf generalizing n i with
  | nil => rfl
  | cons o conf ih =>
    cases i with
    | zero => simp [numberFrom]
    | succ i =>
      have place : n + 1 + UInt32.ofNat i = n + UInt32.ofNat (i + 1) := by
        rw [UInt32.ofNat_add, UInt32.add_assoc, UInt32.add_comm 1]
        rfl
      rw [numberFrom, List.getElem?_cons_succ, ih, List.getElem?_cons_succ, place]

theorem numberFrom_of_ids (n : UInt32) (conf shown : Configuration)
    (h : conf.map (·.id) = (numberFrom n shown).map (·.id)) : numberFrom n conf = conf := by
  induction conf generalizing n shown with
  | nil => rfl
  | cons o conf ih =>
    cases shown with
    | nil => simp [numberFrom] at h
    | cons p shown =>
      rw [numberFrom, List.map_cons, List.map_cons, List.cons.injEq] at h
      obtain ⟨number, rest⟩ := h
      have number : o.id = ⟨n⟩ := number
      rw [numberFrom, ih (n + 1) shown rest, ← number]

theorem map_key_congr {a b : Configuration} (h : unnumbered a = unnumbered b) :
    a.map Output.key = b.map Output.key := by
  have keys : ∀ conf : Configuration, (unnumbered conf).map Output.key = conf.map Output.key := by
    intro conf
    rw [unnumbered, List.map_map]
    rfl
  rw [← keys a, h, keys]

theorem cards_of_keys {a b : Configuration} (h : a.map Output.key = b.map Output.key) : cards a = cards b := by
  have card_eq : a.map (·.card) = b.map (·.card) := by
    simpa [Output.key, Function.comp_def] using congrArg (List.map Prod.fst) h
  rw [cards_eq_eraseDups, cards_eq_eraseDups, card_eq]

theorem cardsTogether_of_keys {a b : Configuration} (h : a.map Output.key = b.map Output.key)
    (hb : CardsTogether b) : CardsTogether a := by
  have through : ∀ conf : Configuration, CardsTogether conf ↔
      (conf.map Output.key).Triplewise fun x y z => x.1 = z.1 → y.1 = x.1 := by
    intro conf
    rw [List.triplewise_map]
    rfl
  rwa [through, h, ← through]

theorem cards_congr {a b : Configuration} (h : unnumbered a = unnumbered b) : cards a = cards b :=
  cards_of_keys (map_key_congr h)

theorem cardsTogether_congr {a b : Configuration} (h : unnumbered a = unnumbered b) (hb : CardsTogether b) :
    CardsTogether a :=
  cardsTogether_of_keys (map_key_congr h) hb

/-- What agrees with a joined configuration is joined of parts that agree. -/
theorem exists_parts {β : Type} (f : Output → β) (conf : Configuration) (wholes : List Configuration)
    (h : conf.map f = wholes.flatten.map f) :
    ∃ parts, conf = List.flatten parts ∧
      List.Forall₂ (fun part whole => List.map f part = List.map f whole) parts wholes := by
  induction wholes generalizing conf with
  | nil =>
    rw [List.flatten_nil, List.map_nil, List.map_eq_nil_iff] at h
    exact ⟨[], h, .nil⟩
  | cons whole wholes ih =>
    rw [List.flatten_cons, List.map_append, List.map_eq_append_iff] at h
    obtain ⟨front, rest, rfl, hfront, hrest⟩ := h
    obtain ⟨parts, rfl, hparts⟩ := ih rest hrest
    exact ⟨front :: parts, rfl, .cons hfront hparts⟩

end Configuration

namespace Cluster

open Multihead.Configuration (unnumbered)

variable {α : Type} [Backend α]

theorem unnumbered_configuration (g : Cluster α) :
    unnumbered g.configuration = unnumbered (g.members.flatMap Backend.configuration) :=
  Configuration.unnumbered_numberFrom 1 _

theorem configuration_congr (ms ms' : List α) (c c' : Option CardId)
    (h : ms.map (fun m => unnumbered (Backend.configuration m)) =
      ms'.map fun m => unnumbered (Backend.configuration m)) :
    Cluster.configuration ⟨ms, c⟩ = Cluster.configuration ⟨ms', c'⟩ := by
  have flat : ∀ ms : List α, unnumbered (ms.flatMap Backend.configuration) =
      (ms.map fun m => unnumbered (Backend.configuration m)).flatten := by
    intro ms
    rw [unnumbered, List.map_flatMap, List.flatMap_def]
    rfl
  exact Configuration.numbered_congr (by rw [flat, flat, h])

end Cluster

end Multihead
