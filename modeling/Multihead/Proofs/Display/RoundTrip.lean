import Multihead.Layout
import Multihead.Proofs.Display.Dispatch
import Multihead.Proofs.Display.Nesting
import Multihead.Proofs.Display.Rollback

/-! # Snapshots handed back
Whoever takes a snapshot, changes what it likes about the outputs except what tells them apart, and hands it back is
shown just that by the next snapshot, if the request is carried out. One step goes from the members of a cluster to
the cluster, and the nesting does the rest. -/

set_option autoImplicit false

namespace Multihead

open Multihead.Configuration (unnumbered cards)

/-- What an edit of a snapshot leaves alone. -/
def Output.mark (o : Output) : OutputId × CardId × String := (o.id, o.card, o.name)

/-- A backend that is handed its own outputs back, changed, and carries the request out holds them so, up to their
numbers. -/
structure Stores {α : Type} [Backend α] (a : α) : Prop where
  configure : ∀ conf : Configuration, (Backend.configuration a).map Output.key = conf.map Output.key →
    (Backend.configure a conf).answer = .ok () →
      unnumbered (Backend.configuration (Backend.configure a conf).state) = unnumbered conf
  apply : ∀ conf : Configuration, (Backend.configuration a).map Output.key = conf.map Output.key →
    (Backend.apply a conf).answer = .ok true →
      unnumbered (Backend.configuration (Backend.apply a conf).state) = unnumbered conf

namespace Leaf

variable {α : Type} [Backend α] [Leaf α] [Settable α]

theorem stores (a : α) (distinct : ((Backend.configuration a).map Output.key).Nodup) : Stores a where
  configure conf same ok := by rw [configuration_configure a conf ok same (same ▸ distinct)]
  apply conf same ok := by rw [configuration_apply a conf ok (fun _ => same) (same ▸ distinct)]

end Leaf

namespace Cluster

variable {α : Type} [Backend α]

/-! ## From the members to the cluster -/

omit [Backend α] in
/-- A walk that goes through hands every member its part and leaves those alone whose part is empty. -/
theorem Walk.all_stored {ρ : Type} {ask : α → Configuration → ρ} {next : α → Configuration → α} {accepted : ρ → Prop}
    {k : Nat} {ms ms' : List α} {calls : List (Call ρ)} {parts : List Configuration}
    (walk : Walk ask next accepted k ms (parts.map fun part => Slice.ofOutputs (cards part) part) ms' calls)
    (all : ∀ c ∈ calls, accepted c.reply) (R : α → Configuration → Prop)
    (store : List.Forall₂ (fun m part => (part = [] → R m part) ∧ (accepted (ask m part) → R (next m part) part))
      ms parts) :
    List.Forall₂ R ms' parts := by
  induction store generalizing k ms' calls with
  | nil =>
    cases walk with
    | noMembers | noSlices => exact .nil
  | @cons m part ms parts here later ih =>
    cases part with
    | nil =>
      cases walk with
      | skip _ _ _ _ _ _ rest => exact .cons (here.1 rfl) (ih rest all)
    | cons o os =>
      rw [List.map_cons, Slice.ofOutputs_cards_cons] at walk
      cases walk with
      | onward _ _ _ _ _ _ _ yes rest =>
        exact .cons (here.2 yes) (ih rest (List.forall_mem_cons.1 all).2)
      | stopped _ _ _ _ _ no => exact absurd (all _ List.mem_cons_self) no

/-- A request for the outputs of a snapshot is made of one part for each member, and is cut into these. -/
theorem slices_of_keys (g : Cluster α) (apart : g.owners.Pairwise List.Disjoint)
    (together : ∀ m ∈ g.members, (Backend.configuration m).CardsTogether) (conf : Configuration)
    (same : g.configuration.map Output.key = conf.map Output.key) :
    ∃ parts, conf = List.flatten parts ∧
      g.slices conf = (parts.map fun part => Slice.ofOutputs (cards part) part) ∧
      List.Forall₂ (fun m part => (Backend.configuration m).map Output.key = List.map Output.key part)
        g.members parts := by
  have wholes : conf.map Output.key = ((g.members.map Backend.configuration).flatten).map Output.key := by
    rw [← same, Configuration.map_key_congr g.unnumbered_configuration, List.flatMap_def]
  obtain ⟨parts, rfl, hparts⟩ := Configuration.exists_parts _ _ _ wholes
  rw [List.forall₂_map_right_iff] at hparts
  have agree : List.Forall₂ (fun m part => (Backend.configuration m).CardsTogether ∧
      List.map Output.key part = (Backend.configuration m).map Output.key) g.members parts :=
    (List.forall₂_and_left _ _).2 ⟨together, hparts.flip⟩
  refine ⟨parts, rfl, slices_flatten g parts apart ?_, agree.imp fun m part h => h.2.symm⟩
  exact agree.imp fun m part h =>
    ⟨(Configuration.cards_of_keys h.2).symm, Configuration.cardsTogether_of_keys h.2 h.1⟩

theorem shown_of_stored {ms : List α} {parts : List Configuration}
    (stored : List.Forall₂ (fun m part => unnumbered (Backend.configuration m) = unnumbered part) ms parts)
    (incomplete : Option CardId) :
    unnumbered (Cluster.configuration ⟨ms, incomplete⟩) = unnumbered parts.flatten := by
  rw [unnumbered_configuration]
  change unnumbered (ms.flatMap Backend.configuration) = _
  induction stored with
  | nil => rfl
  | cons here later ih =>
    simp only [unnumbered, List.flatMap_cons, List.flatten_cons, List.map_append] at here ih ⊢
    rw [here, ih]

theorem stores (g : Cluster α) (members : ∀ m ∈ g.members, Stores m) (apart : g.owners.Pairwise List.Disjoint)
    (together : ∀ m ∈ g.members, (Backend.configuration m).CardsTogether) : Stores g := by
  have idle : ∀ (m : α) (part : Configuration),
      (Backend.configuration m).map Output.key = part.map Output.key → part = [] →
        unnumbered (Backend.configuration m) = unnumbered part := by
    rintro m part same rfl
    rw [List.map_eq_nil_iff.1 same]
  constructor
  · intro conf same ok
    obtain ⟨parts, rfl, hslices, hparts⟩ := slices_of_keys g apart together conf same
    change (g.modeSet parts.flatten).answer = .ok () at ok
    change unnumbered (Cluster.configuration ⟨(g.modeSet parts.flatten).members, g.incomplete⟩) = _
    cases usable : g.incomplete with
    | some card =>
      rw [modeSet, usable] at ok
      cases ok
    | none =>
      rw [modeSet_of_usable g _ usable, hslices] at ok ⊢
      refine shown_of_stored (Walk.all_stored (configureFrom_walk 0 g.members _)
        (configureFrom_all_accepted 0 g.members _ ok) _ ?_) none
      refine ((List.forall₂_and_left _ _).2 ⟨members, hparts⟩).imp ?_
      rintro m part ⟨store, same⟩
      exact ⟨idle m part same, store.configure part same⟩
  · intro conf same ok
    obtain ⟨parts, rfl, hslices, hparts⟩ := slices_of_keys g apart together conf same
    change (g.application parts.flatten).answer = .ok true at ok
    change unnumbered (g.application parts.flatten).cluster.configuration = _
    cases usable : g.incomplete with
    | some card =>
      rw [application_of_incomplete g _ card usable] at ok
      cases ok
    | none =>
      have ends := g.application_ends parts.flatten usable
      generalize g.application parts.flatten = r at ends ok ⊢
      cases ends with
      | takenBack p back t pass stopped way through =>
        -- a complaint or a plain no, but not the answer that all was carried out
        obtain ⟨place, complaint⟩ := t
        cases complaint <;> cases ok
      | stranded p back t u card pass stopped way stuck named => cases ok
      | carriedOut p pass through =>
        subst pass
        rw [hslices] at through ⊢
        refine shown_of_stored (Walk.all_stored (offerFrom_walk 0 g.members _)
          (offerFrom_all_accepted 0 g.members _ through) _ ?_) none
        refine ((List.forall₂_and_left _ _).2 ⟨members, hparts⟩).imp ?_
        rintro m part ⟨store, same⟩
        exact ⟨idle m part same, store.apply part same⟩

end Cluster

/-! ## Nests -/

namespace Nest

variable {α : Type} [Backend α]

/-- The leaves have no card in common, and each tells its outputs apart and keeps those of a card together. -/
abbrev Separate (ls : List α) : Prop := Cluster.Independent ⟨ls, none⟩

theorem Separate.of_sublist {ls ks : List α} (separate : Separate ls) (fewer : ks.Sublist ls) : Separate ks where
  apart := separate.apart.sublist (fewer.map _)
  distinct m hm := separate.distinct m (fewer.subset hm)
  together m hm := separate.together m (fewer.subset hm)

theorem cardsTogether_flatMap (ls : List α) (separate : Separate ls) :
    Configuration.CardsTogether (ls.flatMap Backend.configuration) := by
  rw [List.flatMap_def]
  refine Configuration.cardsTogether_flatten _ (List.forall_mem_map.2 separate.together) ?_
  rw [List.map_map]
  exact separate.apart

theorem cardsTogether (n : Nat) (t : Nest α n) (separate : Separate (leaves n t)) :
    (Backend.configuration t).CardsTogether :=
  Configuration.cardsTogether_congr (unnumbered_configuration n t) (cardsTogether_flatMap _ separate)

theorem apart_of_separate {n : Nat} (ms : List (Nest α n)) (separate : Separate (ms.flatMap (leaves n))) :
    (ms.map fun m => cards (Backend.configuration m)).Pairwise List.Disjoint := by
  have leafwise : (ms.flatMap (leaves n)).Pairwise fun a b =>
      List.Disjoint (cards (Backend.configuration a)) (cards (Backend.configuration b)) :=
    List.pairwise_map.1 separate.apart
  refine List.pairwise_map.2 ((List.pairwise_flatMap.1 leafwise).2.imp ?_)
  intro m m' across c hc hc'
  obtain ⟨a, ha, hca⟩ := (mem_cards n m c).1 hc
  obtain ⟨b, hb, hcb⟩ := (mem_cards n m' c).1 hc'
  exact across a ha b hb hca hcb

variable [Leaf α] [Leaf.Settable α]

theorem stores (n : Nat) (t : Nest α n) (separate : Separate (leaves n t)) : Stores t := by
  induction n, t using Nest.induction with
  | onLeaf n a =>
    rw [leaves_leaf] at separate
    have store := Leaf.stores a (separate.distinct a List.mem_cons_self)
    constructor
    · intro conf same ok
      rw [configure_leaf, configuration_leaf] at *
      exact store.configure conf same ok
    · intro conf same ok
      rw [apply_leaf, configuration_leaf] at *
      exact store.apply conf same ok
  | onCluster n g ih =>
    rw [leaves_cluster] at separate
    have inner : ∀ m ∈ g.members, Separate (leaves n m) :=
      fun m hm => separate.of_sublist (List.sublist_flatten_of_mem (List.mem_map_of_mem hm))
    have store : Stores g := g.stores (fun m hm => ih m (inner m hm)) (apart_of_separate g.members separate)
      fun m hm => cardsTogether n m (inner m hm)
    exact ⟨store.configure, store.apply⟩

end Nest

namespace Cluster

variable {α : Type} [Backend α]

/-- What is shown after a request for marked outputs was carried out is the request, to the last number. -/
theorem configuration_eq_of_marks (g g' : Cluster α) (conf : Configuration)
    (same : conf.map Output.mark = g.configuration.map Output.mark)
    (shown : unnumbered g'.configuration = unnumbered conf) : g'.configuration = conf := by
  have ids : conf.map (·.id) = g.configuration.map (·.id) := by
    simpa [Output.mark, Function.comp_def] using congrArg (List.map Prod.fst) same
  have anew : g'.configuration = Configuration.numbered conf :=
    Configuration.numbered_congr ((Configuration.unnumbered_numberFrom 1 _).symm.trans shown)
  rw [anew]
  exact Configuration.numberFrom_of_ids 1 conf _ ids

theorem keys_of_marks {a b : Configuration} (same : a.map Output.mark = b.map Output.mark) :
    a.map Output.key = b.map Output.key := by
  have behind : ∀ conf : Configuration, conf.map Output.key = (conf.map Output.mark).map Prod.snd := by
    intro conf
    rw [List.map_map]
    rfl
  rw [behind, same, ← behind]

variable [Leaf α] [Leaf.Settable α]

/-- However deep a display is nested, a snapshot that was edited and handed back is what the next snapshot shows, if the
request was carried out. A display that is created with an edit as its first layout shows the edited snapshot. -/
theorem configuration_of_edit {n : Nat} (d : Cluster (Nest α n)) (separate : d.flat.Independent)
    (edit : Configuration → Configuration)
    (same : (edit d.configuration).map Output.mark = d.configuration.map Output.mark) :
    ((d.configure (edit d.configuration)).answer = .ok () →
      (d.configure (edit d.configuration)).state.configuration = edit d.configuration) ∧
    ((d.apply (edit d.configuration)).answer = .ok true →
      (d.apply (edit d.configuration)).state.configuration = edit d.configuration) ∧
    ∀ g, (create d.members edit).1 = .ok g → g.configuration = edit d.configuration := by
  have keys : d.configuration.map Output.key = (edit d.configuration).map Output.key := (keys_of_marks same).symm
  have store : ∀ incomplete, Stores (Nest.cluster (⟨d.members, incomplete⟩ : Cluster (Nest α n))) :=
    fun incomplete => Nest.stores (n + 1) _ separate
  refine ⟨?_, ?_, ?_⟩
  · intro ok
    exact configuration_eq_of_marks d _ _ same ((store d.incomplete).configure _ keys ok)
  · intro ok
    exact configuration_eq_of_marks d _ _ same ((store d.incomplete).apply _ keys ok)
  · intro g created
    rw [create] at created
    split at created
    · cases created
    · simp only at created
      split at created
      · next ok =>
        cases created
        exact configuration_eq_of_marks d _ _ same ((store none).configure _ keys ok)
      · cases created

/-- Three adapters, the last two one level down; the second merges what it accepts. -/
def twoLevels : Display 1 :=
  ⟨[Assembly.adapter (.holding 0 [.unlit 1 "A", .unlit 1 "B"] []) 1,
    Assembly.cluster ⟨[{ Adapter.holding 1 [.unlit 2 "A"] [] with merges := true },
      .holding 2 [.unlit 3 "A", .unlit 4 "A"] []], none⟩], none⟩

theorem twoLevels_separate : twoLevels.flat.Independent where
  apart := by
    have cards : twoLevels.flat.owners = [[⟨1⟩], [⟨2⟩], [⟨3⟩, ⟨4⟩]] := by decide
    simp [cards]
  distinct := by decide
  together := by
    intro m hm
    change m ∈ [.holding 0 [.unlit 1 "A", .unlit 1 "B"] [],
      { Adapter.holding 1 [.unlit 2 "A"] [] with merges := true },
      .holding 2 [.unlit 3 "A", .unlit 4 "A"] []] at hm
    simp only [List.mem_cons, List.not_mem_nil, or_false] at hm
    rcases hm with rfl | rfl | rfl <;>
      simp [Configuration.CardsTogether, Adapter.holding, Backend.configuration, List.triplewise_cons]

/-- The layout that moves every output. -/
def staggered : Configuration := Layout.stagger ⟨5, 25⟩ twoLevels.configuration

theorem twoLevels_staggered :
    staggered.map Output.mark = twoLevels.configuration.map Output.mark ∧
      (twoLevels.configure staggered).answer = .ok () ∧
      (twoLevels.configure staggered).state.configuration = staggered ∧
      (twoLevels.apply staggered).answer = .ok true ∧
      (twoLevels.apply staggered).state.configuration = staggered ∧
      ∃ g, (create twoLevels.members (Layout.stagger ⟨5, 25⟩)).1 = .ok g ∧ g.configuration = staggered := by
  have same : staggered.map Output.mark = twoLevels.configuration.map Output.mark := by decide
  obtain ⟨configured, applied, created⟩ :=
    configuration_of_edit twoLevels twoLevels_separate (Layout.stagger ⟨5, 25⟩) same
  exact ⟨same, rfl, configured rfl, rfl, applied rfl, _, rfl, created _ rfl⟩

end Cluster

end Multihead
