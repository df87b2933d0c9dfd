import Mathlib.Tactic.Ring
import Multihead.Proofs.Display.Dispatch
import Multihead.Proofs.Display.Nesting
import Multihead.Proofs.Display.Notices
import Multihead.Proofs.Display.Poisoning

/-! # Notices of hotplugs
A handler that is registered with a display is registered once with every leaf below it, and a hotplug on a leaf calls
the handlers of this leaf. So no notice is lost and none is doubled: an open channel has got one message for every
hotplug since its handler was registered. -/

set_option autoImplicit false

namespace Multihead

/-! ## Leaves that keep handlers -/

/-- A leaf that adds the handlers registered with it to those it has, and changes them in no other way. -/
class Leaf.Listening (α : Type) [Backend α] where
  handlers : α → List Handler
  register : ∀ (h : Handler) (a : α), handlers (Backend.register h a).1 = handlers a ++ [h]
  configure : ∀ (a : α) (conf : Configuration), handlers (Backend.configure a conf).state = handlers a
  apply : ∀ (a : α) (conf : Configuration), handlers (Backend.apply a conf).state = handlers a
  pause : ∀ a : α, handlers (Backend.pause a).1 = handlers a
  resume : ∀ a : α, handlers (Backend.resume a).1 = handlers a

instance : Leaf.Listening Adapter where
  handlers := Adapter.handlers
  register _ _ := rfl
  configure a conf := by
    change (Adapter.configure a conf).state.handlers = a.handlers
    unfold Adapter.configure
    cases a.modeSets.headD .accept <;> rfl
  apply a conf := by
    change (Adapter.apply a conf).state.handlers = a.handlers
    unfold Adapter.apply
    cases a.commits.headD .accept <;> rfl
  pause _ := rfl
  resume _ := rfl

open Leaf.Listening (handlers)

/-- A change of a leaf by itself, such as a new set of outputs. -/
structure Leaf.Drift (α : Type) [Backend α] [Leaf.Listening α] where
  change : α → α
  keeps : ∀ a, handlers (change a) = handlers a

/-- The adapter with this label has other outputs. -/
def Adapter.replug (label : Nat) (outputs : Configuration) : Leaf.Drift Adapter where
  change a := if a.label = label then { a with outputs } else a
  keeps a := by
    split <;> rfl

/-! ## Sites -/

/-- A display, and what its handlers act on. -/
structure Site (α : Type) (n : Nat) where
  display : Cluster (Nest α n)
  hub : Hub

/-- A handler that sends is had from its channel, and so there is none for a channel that is not there. -/
def Handler.IsKnown (hub : Hub) : Handler → Prop
  | count _ => True
  | send k => k < hub.channels.length

instance (hub : Hub) : (h : Handler) → Decidable (h.IsKnown hub)
  | .count _ => .isTrue trivial
  | .send k => inferInstanceAs (Decidable (k < hub.channels.length))

/-- What happens at a site: a handler is registered, a channel is added and its handler registered, a leaf is plugged,
the event loop takes a turn, channels are closed, or the display is used. -/
inductive Happening (α : Type) [Backend α] [Leaf.Listening α] where
  | register (h : Handler)
  | addChannel
  | plug (leaf : Nat) (drift : Leaf.Drift α)
  | dispatch
  | turn (most : Nat → Nat)
  | closeChannel (k : Nat)
  | closeChannels
  | configure (conf : Configuration)
  | apply (conf : Configuration)
  | pause
  | resume

namespace Site

variable {α : Type} {n : Nat}

def leaves (s : Site α n) : List α := s.display.members.flatMap (Nest.leaves n)

/-- Every leaf changes by itself. -/
def mapLeaves (f : α → α) (s : Site α n) : Site α n :=
  { s with display := { s.display with members := s.display.members.map (Nest.mapLeaves f n) } }

theorem leaves_mapLeaves (f : α → α) (s : Site α n) : (s.mapLeaves f).leaves = s.leaves.map f :=
  Nest.leaves_mapLeaves f (n + 1) (Nest.cluster s.display)

variable [Backend α] [Leaf.Listening α]

/-- The handlers that a hotplug on the leaf at this place calls. -/
def handlersAt (s : Site α n) (leaf : Nat) : List Handler := (s.leaves[leaf]?.map handlers).getD []

def perform (s : Site α n) : Happening α → Site α n
  | .register h => if h.IsKnown s.hub then { s with display := (Backend.register h s.display).1 } else s
  | .addChannel => ⟨(Backend.register s.hub.addChannel.2 s.display).1, s.hub.addChannel.1⟩
  | .plug leaf drift =>
    let changed := s.mapLeaves drift.change
    { changed with hub := s.hub.callAll (changed.handlersAt leaf) }
  | .dispatch => { s with hub := s.hub.dispatch.1 }
  | .turn most => { s with hub := s.hub.turn most }
  | .closeChannel k => { s with hub := s.hub.closeChannel k }
  | .closeChannels => { s with hub := s.hub.closeChannels }
  | .configure conf => { s with display := (s.display.configure conf).state }
  | .apply conf => { s with display := (s.display.apply conf).state }
  | .pause => { s with display := (Backend.pause s.display).1 }
  | .resume => { s with display := (Backend.resume s.display).1 }

def run (s : Site α n) (os : List (Happening α)) : Site α n := os.foldl perform s

theorem run_append (s : Site α n) (os later : List (Happening α)) : s.run (os ++ later) = (s.run os).run later :=
  List.foldl_append

/-- The handler that is registered with the display, if one is. -/
def registered (s : Site α n) : Happening α → Option Handler
  | .register h => if h.IsKnown s.hub then some h else none
  | .addChannel => some (.send s.hub.channels.length)
  | _ => none

/-- The handlers that are registered in a run, first to last. -/
def registrations (s : Site α n) : List (Happening α) → List Handler
  | [] => []
  | o :: os => (s.registered o).toList ++ registrations (s.perform o) os

/-! ## Handlers of the leaves -/

theorem handlers_tell (s : Site α n) (b : Broadcast) (extra : List Handler)
    (told : ∀ a : α, handlers (b.tell a).1 = handlers a ++ extra) :
    (Nest.leaves (n + 1) (b.tell (Nest.cluster s.display)).1).map handlers = s.leaves.map fun a => handlers a ++ extra := by
  rw [(Nest.tell_eq b (n + 1) (Nest.cluster s.display)).1, List.map_map]
  exact List.map_congr_left fun a _ => told a

/-- Whatever happens, the leaves keep their handlers and get the one that is registered. -/
theorem handlers_perform (s : Site α n) (o : Happening α) :
    (s.perform o).leaves.map handlers = s.leaves.map fun a => handlers a ++ (s.registered o).toList := by
  have same : s.leaves.map handlers = s.leaves.map fun a => handlers a ++ [] :=
    List.map_congr_left fun a _ => (List.append_nil _).symm
  cases o with
  | register h =>
    rw [perform, registered]
    split
    · exact s.handlers_tell (.register h) [h] (Leaf.Listening.register h)
    · exact same
  | addChannel => exact s.handlers_tell (.register _) [_] (Leaf.Listening.register _)
  | plug leaf drift =>
    refine Eq.trans ?_ same
    change (s.mapLeaves drift.change).leaves.map handlers = _
    rw [leaves_mapLeaves, List.map_map]
    exact List.map_congr_left fun a _ => drift.keeps a
  | configure conf =>
    exact (Nest.map_leaves_configure handlers Leaf.Listening.configure (n + 1) (Nest.cluster s.display) conf).trans same
  | apply conf =>
    exact (Nest.map_leaves_apply handlers Leaf.Listening.apply (n + 1) (Nest.cluster s.display) conf).trans same
  | pause => exact s.handlers_tell .pause [] fun a => (Leaf.Listening.pause a).trans (List.append_nil _).symm
  | resume => exact s.handlers_tell .resume [] fun a => (Leaf.Listening.resume a).trans (List.append_nil _).symm
  | dispatch | turn most | closeChannel k | closeChannels => exact same

theorem handlers_run (s : Site α n) (os : List (Happening α)) :
    (s.run os).leaves.map handlers = s.leaves.map fun a => handlers a ++ s.registrations os := by
  induction os generalizing s with
  | nil => exact List.map_congr_left fun a _ => (List.append_nil _).symm
  | cons o os ih =>
    let later := (s.perform o).registrations os
    calc (s.run (o :: os)).leaves.map handlers
      _ = (s.perform o).leaves.map fun a => handlers a ++ later := ih (s.perform o)
      _ = ((s.perform o).leaves.map handlers).map (· ++ later) := by
        rw [List.map_map]
        rfl
      _ = (s.leaves.map fun a => handlers a ++ (s.registered o).toList).map (· ++ later) := by rw [s.handlers_perform]
      _ = s.leaves.map fun a => handlers a ++ s.registrations (o :: os) := by
        rw [List.map_map]
        exact List.map_congr_left fun a _ => List.append_assoc _ _ _

theorem length_leaves_perform (s : Site α n) (o : Happening α) : (s.perform o).leaves.length = s.leaves.length := by
  have same := congrArg List.length (s.handlers_perform o)
  rwa [List.length_map, List.length_map] at same

theorem length_leaves_run (s : Site α n) (os : List (Happening α)) : (s.run os).leaves.length = s.leaves.length := by
  have same := congrArg List.length (s.handlers_run os)
  rwa [List.length_map, List.length_map] at same

theorem handlersAt_mapLeaves (s : Site α n) (drift : Leaf.Drift α) (leaf : Nat) :
    (s.mapLeaves drift.change).handlersAt leaf = s.handlersAt leaf := by
  rw [handlersAt, handlersAt, leaves_mapLeaves, List.getElem?_map, Option.map_map]
  exact congrArg (fun f => (s.leaves[leaf]?.map f).getD []) (funext drift.keeps)

theorem handlersAt_run (s : Site α n) (os : List (Happening α)) {leaf : Nat} {a : α} (here : s.leaves[leaf]? = some a) :
    (s.run os).handlersAt leaf = handlers a ++ s.registrations os := by
  rw [handlersAt, ← List.getElem?_map, handlers_run, List.getElem?_map, here, Option.map_some, Option.getD_some]

/-! ## Channels -/

/-- What becomes of the channel with this number. -/
def onChannel (s : Site α n) (k : Nat) (c : Channel) : Happening α → Channel
  | .plug leaf _ => c.sendTimes ((s.handlersAt leaf).count (.send k))
  | .dispatch => c.handOn Channel.batch
  | .turn most => c.handOn (most k)
  | .closeChannel j => if j = k then c.close else c
  | .closeChannels => c.close
  | _ => c

theorem channel_perform (s : Site α n) (o : Happening α) {k : Nat} {c : Channel}
    (here : s.hub.channels[k]? = some c) : (s.perform o).hub.channels[k]? = some (s.onChannel k c o) := by
  cases o with
  | register h =>
    rw [perform]
    split <;> exact here
  | addChannel =>
    change (s.hub.channels ++ [Channel.fresh])[k]? = some c
    rw [List.getElem?_append_left (List.getElem?_eq_some_iff.1 here).1, here]
  | plug leaf drift =>
    change (s.hub.callAll ((s.mapLeaves drift.change).handlersAt leaf)).channels[k]? = _
    rw [handlersAt_mapLeaves, Hub.channel_callAll, here]
    rfl
  | dispatch =>
    change s.hub.dispatch.1.channels[k]? = _
    rw [Hub.dispatch_eq_turn, Hub.turn, List.getElem?_mapIdx, here]
    rfl
  | turn most =>
    change (s.hub.turn most).channels[k]? = _
    rw [Hub.turn, List.getElem?_mapIdx, here]
    rfl
  | closeChannel j =>
    change (s.hub.channels.modify j Channel.close)[k]? = _
    rw [List.getElem?_modify, here, onChannel]
    split <;> rfl
  | closeChannels =>
    change (s.hub.channels.map Channel.close)[k]? = _
    rw [List.getElem?_map, here]
    rfl
  | configure conf | apply conf | pause | resume => exact here

end Site

namespace Happening

variable {α : Type} [Backend α] [Leaf.Listening α]

/-- A hotplug on one of so many leaves. -/
def isPlug (size : Nat) : Happening α → Bool
  | plug leaf _ => leaf < size
  | _ => false

def closes (k : Nat) : Happening α → Bool
  | closeChannel j => j = k
  | closeChannels => true
  | _ => false

/-- The handler of the channel with this number, which was had when it was added, is registered once more. -/
def repeats (k : Nat) : Happening α → Bool
  | register (.send j) => j = k
  | _ => false

end Happening

namespace Site

variable {α : Type} {n : Nat} [Backend α] [Leaf.Listening α]

def hotplugs (size : Nat) (os : List (Happening α)) : Nat := os.countP (Happening.isPlug size)

/-- The hotplugs that follow each repeated registration of a channel's handler, all together. -/
def heardAgain (size k : Nat) : List (Happening α) → Nat
  | [] => 0
  | o :: os => (if o.repeats k then hotplugs size os else 0) + heardAgain size k os

theorem hotplugs_cons (size : Nat) (o : Happening α) (os : List (Happening α)) :
    hotplugs size (o :: os) = hotplugs size os + if o.isPlug size then 1 else 0 := List.countP_cons

theorem isOpen_onChannel (s : Site α n) (k : Nat) (c : Channel) (o : Happening α) :
    (s.onChannel k c o).isOpen = (c.isOpen && !o.closes k) := by
  cases o with
  | plug leaf drift => simp [onChannel, Happening.closes, Channel.isOpen_sendTimes]
  | closeChannel j =>
    rw [onChannel, Happening.closes]
    split <;> simp_all [Channel.close]
  | closeChannels => simp [onChannel, Happening.closes, Channel.close]
  | dispatch | turn most | register h | addChannel | configure conf | apply conf | pause | resume =>
    simp [onChannel, Happening.closes, Channel.handOn]

/-- All leaves call the handler of a channel equally often. -/
def Hears (s : Site α n) (k times : Nat) : Prop := ∀ a ∈ s.leaves, (handlers a).count (.send k) = times

theorem count_handlersAt {s : Site α n} {k times : Nat} (hears : s.Hears k times) (leaf : Nat) :
    (s.handlersAt leaf).count (.send k) = if leaf < s.leaves.length then times else 0 := by
  rw [handlersAt]
  split
  · next inside =>
    rw [List.getElem?_eq_getElem inside, Option.map_some, Option.getD_some, hears _ (List.getElem_mem inside)]
  · next outside =>
    rw [List.getElem?_eq_none (Nat.not_lt.1 outside)]
    rfl

theorem messages_onChannel {s : Site α n} {k times : Nat} (hears : s.Hears k times) (c : Channel) (o : Happening α)
    (isOpen : (s.onChannel k c o).isOpen = true) :
    (s.onChannel k c o).messages = c.messages + if o.isPlug s.leaves.length then times else 0 := by
  rw [isOpen_onChannel, Bool.and_eq_true] at isOpen
  cases o with
  | plug leaf drift =>
    rw [onChannel, Channel.messages_sendTimes _ _ isOpen.1, count_handlersAt hears]
    simp [Happening.isPlug]
  | closeChannel j =>
    have other : j ≠ k := by simpa [Happening.closes] using isOpen.2
    simp [onChannel, Happening.isPlug, other]
  | closeChannels => simp [Happening.closes] at isOpen
  | dispatch | turn most | register h | addChannel | configure conf | apply conf | pause | resume =>
    simp [onChannel, Happening.isPlug, Channel.messages_handOn]

theorem count_registered (s : Site α n) (o : Happening α) {k : Nat} (here : k < s.hub.channels.length) :
    (s.registered o).toList.count (.send k) = if o.repeats k then 1 else 0 := by
  cases o with
  | register h =>
    cases h with
    | count amount => simp [registered, Handler.IsKnown, Happening.repeats]
    | send j =>
      by_cases same : j = k
      · simp [registered, Handler.IsKnown, Happening.repeats, same, here]
      · rw [registered]
        split <;> simp [Happening.repeats, same]
  | addChannel =>
    have other : s.hub.channels.length ≠ k := Nat.ne_of_gt here
    simp [registered, Happening.repeats, other]
  | plug leaf drift | dispatch | turn most | closeChannel j | closeChannels | configure conf | apply conf | pause
    | resume => simp [registered, Happening.repeats]

theorem hears_perform {s : Site α n} {k times : Nat} (hears : s.Hears k times) (here : k < s.hub.channels.length)
    (o : Happening α) : (s.perform o).Hears k (times + if o.repeats k then 1 else 0) := by
  intro a ha
  have mem : handlers a ∈ (s.perform o).leaves.map handlers := List.mem_map_of_mem ha
  rw [handlers_perform] at mem
  obtain ⟨b, hb, same⟩ := List.mem_map.1 mem
  rw [← same, List.count_append, hears b hb, s.count_registered o here]

/-- Of an open channel no message is lost in a run, and none is doubled. -/
theorem messages_run {s : Site α n} {k times : Nat} (hears : s.Hears k times) {c : Channel}
    (here : s.hub.channels[k]? = some c) (os : List (Happening α)) :
    ∃ c', (s.run os).hub.channels[k]? = some c' ∧
      (c'.isOpen = true ↔ c.isOpen = true ∧ ∀ o ∈ os, o.closes k = false) ∧
      (c'.isOpen = true →
        c'.messages = c.messages + times * hotplugs s.leaves.length os + heardAgain s.leaves.length k os) := by
  induction os generalizing s times c with
  | nil => exact ⟨c, here, by simp, fun _ => by simp [hotplugs, heardAgain]⟩
  | cons o os ih =>
    have next := s.channel_perform o here
    have later := hears_perform hears (List.getElem?_eq_some_iff.1 here).1 o
    obtain ⟨c', found, opened, sent⟩ := ih later next
    have first := messages_onChannel hears c o
    rw [isOpen_onChannel] at opened first
    refine ⟨c', found, ?_, ?_⟩
    · rw [opened, List.forall_mem_cons, Bool.and_eq_true, Bool.not_eq_true', and_assoc]
    · intro still
      rw [sent still, first (opened.1 still).1, length_leaves_perform, hotplugs_cons, heardAgain]
      split_ifs <;> ring

/-! ## Sound sites -/

/-- Whatever channel a leaf knows the handler of is there. -/
def Sound (s : Site α n) : Prop := ∀ a ∈ s.leaves, ∀ h ∈ handlers a, h.IsKnown s.hub

instance (s : Site α n) : Decidable s.Sound :=
  inferInstanceAs (Decidable (∀ a ∈ s.leaves, ∀ h ∈ handlers a, h.IsKnown s.hub))

theorem known_perform {s : Site α n} {h : Handler} (known : h.IsKnown s.hub) (o : Happening α) :
    h.IsKnown (s.perform o).hub := by
  cases h with
  | count amount => trivial
  | send k => exact (List.getElem?_eq_some_iff.1 (s.channel_perform o (List.getElem?_eq_getElem known))).1

theorem known_registered (s : Site α n) (o : Happening α) : ∀ h ∈ s.registered o, h.IsKnown (s.perform o).hub := by
  intro h registered
  cases o with
  | register h' =>
    by_cases known : h'.IsKnown s.hub
    · simp only [Site.registered, if_pos known, Option.mem_def, Option.some.injEq] at registered
      exact known_perform (registered ▸ known) _
    · simp [Site.registered, known] at registered
  | addChannel =>
    obtain rfl : Handler.send s.hub.channels.length = h := by simpa [Site.registered] using registered
    change s.hub.channels.length < (s.hub.channels ++ [Channel.fresh]).length
    rw [List.length_append]
    exact Nat.lt_succ_self _
  | plug leaf drift | dispatch | turn most | closeChannel j | closeChannels | configure conf | apply conf | pause
    | resume => simp [Site.registered] at registered

theorem Sound.perform {s : Site α n} (sound : s.Sound) (o : Happening α) : (s.perform o).Sound := by
  intro a ha h hh
  have mem : handlers a ∈ (s.perform o).leaves.map handlers := List.mem_map_of_mem ha
  rw [handlers_perform] at mem
  obtain ⟨b, hb, same⟩ := List.mem_map.1 mem
  rw [← same, List.mem_append, Option.mem_toList] at hh
  rcases hh with old | new
  · exact known_perform (sound b hb h old) o
  · exact s.known_registered o h new

theorem Sound.run {s : Site α n} (sound : s.Sound) (os : List (Happening α)) : (s.run os).Sound := by
  induction os generalizing s with
  | nil => exact sound
  | cons o os ih => exact ih (sound.perform o)

/-- The handler of a channel that is just added is with every leaf once. -/
theorem Sound.hears_addChannel {s : Site α n} (sound : s.Sound) :
    (s.perform .addChannel).Hears s.hub.channels.length 1 := by
  intro a ha
  have mem : handlers a ∈ (s.perform .addChannel).leaves.map handlers := List.mem_map_of_mem ha
  rw [handlers_perform] at mem
  obtain ⟨b, hb, same⟩ := List.mem_map.1 mem
  have unheard : (handlers b).count (.send s.hub.channels.length) = 0 :=
    List.count_eq_zero.2 fun known => Nat.lt_irrefl _ (sound b hb _ known)
  rw [← same, List.count_append, unheard]
  simp [registered]

theorem dead_onChannel (s : Site α n) (k : Nat) {c : Channel} (dead : c.IsDead) (o : Happening α) :
    s.onChannel k c o = c := by
  cases o with
  | plug leaf drift => exact dead.sendTimes_eq _
  | dispatch => exact dead.handOn_eq _
  | turn most => exact dead.handOn_eq _
  | closeChannel j =>
    rw [onChannel]
    split
    · exact dead.close_eq
    · rfl
  | closeChannels => exact dead.close_eq
  | register h | addChannel | configure conf | apply conf | pause | resume => rfl

theorem dead_run {s : Site α n} {k : Nat} {c : Channel} (here : s.hub.channels[k]? = some c) (dead : c.IsDead)
    (os : List (Happening α)) : (s.run os).hub.channels[k]? = some c := by
  induction os generalizing s with
  | nil => exact here
  | cons o os ih =>
    have next := s.channel_perform o here
    rw [s.dead_onChannel k dead] at next
    exact ih next

theorem dead_of_closes (s : Site α n) {k : Nat} {c : Channel} {o : Happening α} (closes : o.closes k = true) :
    (s.onChannel k c o).IsDead := by
  cases o with
  | closeChannel j =>
    have same : j = k := by simpa [Happening.closes] using closes
    rw [onChannel, if_pos same]
    exact ⟨rfl, rfl⟩
  | closeChannels => exact ⟨rfl, rfl⟩
  | plug leaf drift | dispatch | turn most | register h | addChannel | configure conf | apply conf | pause | resume =>
    simp [Happening.closes] at closes

/-- A hotplug calls each handler that was registered with the display once, at whatever leaf it is. An open channel has
got one message for each hotplug since its handler was registered, and again for each time it was registered once more.
A closed channel stays as it is, and all else is as if its handler were not there. -/
theorem every_notice_arrives_once (s : Site α n) (sound : s.Sound) (before : List (Happening α)) :
    (∀ leaf a drift, s.leaves[leaf]? = some a →
      (s.run (before ++ [.plug leaf drift])).hub = (s.run before).hub.callAll (handlers a ++ s.registrations before)) ∧
    (∀ after, ∃ c, (s.run (before ++ .addChannel :: after)).hub.channels[(s.run before).hub.channels.length]? = some c ∧
      (c.isOpen = true ↔ ∀ o ∈ after, o.closes (s.run before).hub.channels.length = false) ∧
      (c.isOpen = true → c.delivered + c.queued =
        hotplugs s.leaves.length after + heardAgain s.leaves.length (s.run before).hub.channels.length after)) ∧
    ∀ k, k < (s.run before).hub.channels.length → ∀ o : Happening α, o.closes k = true →
      ∃ c, c.isOpen = false ∧ ∀ after,
        (s.run (before ++ o :: after)).hub.channels[k]? = some c ∧
          ∀ hs, (s.run (before ++ o :: after)).hub.callAll hs =
            (s.run (before ++ o :: after)).hub.callAll (hs.filter (· ≠ .send k)) := by
  refine ⟨?_, ?_, ?_⟩
  · intro leaf a drift here
    rw [run_append]
    change (s.run before).hub.callAll (((s.run before).mapLeaves drift.change).handlersAt leaf) = _
    rw [handlersAt_mapLeaves, s.handlersAt_run before here]
  · intro after
    have fresh : ((s.run before).perform .addChannel).hub.channels[(s.run before).hub.channels.length]? =
        some Channel.fresh := List.getElem?_concat_length
    obtain ⟨c, found, opened, sent⟩ := messages_run (sound.run before).hears_addChannel fresh after
    rw [length_leaves_perform, length_leaves_run, Nat.one_mul] at sent
    refine ⟨c, by rw [run_append]; exact found, opened.trans ⟨And.right, And.intro rfl⟩, fun isOpen => ?_⟩
    exact (sent isOpen).trans (congrArg (· + _) (Nat.zero_add _))
  · intro k inside o closes
    have next := (s.run before).channel_perform o (List.getElem?_eq_getElem inside)
    have dead := dead_of_closes (s.run before) (c := (s.run before).hub.channels[k]) closes
    refine ⟨_, dead.1, fun after => ?_⟩
    rw [run_append]
    have still := dead_run next dead after
    exact ⟨still, Hub.callAll_of_dead still dead⟩

end Site

/-! ## Example -/

/-- An adapter beside a cluster of two that gets stuck. -/
def stuckBelow : Site Adapter 1 := ⟨Cluster.nestedCards, Hub.empty⟩

/-- A counter is registered, and the inner cluster gets stuck. -/
def gettingStuck : List (Happening Adapter) := [.register (.count 3), .apply Cluster.nestedCards.configuration]

/-- Hotplugs at three leaves and at one that does not exist, and a turn of the event loop after the first of them. -/
def pluggedAround : List (Happening Adapter) :=
  [.plug 1 (Adapter.replug 0 []), .dispatch, .plug 7 (Adapter.replug 9 []), .plug 2 (Adapter.replug 1 []), .pause,
    .plug 0 (Adapter.replug 2 [])]

theorem stuckBelow_notices : stuckBelow.Sound ∧
    (Cluster.nestedCards.apply Cluster.nestedCards.configuration).answer = .error (.incomplete ⟨5⟩) ∧
    (stuckBelow.run (gettingStuck ++ [.plug 2 (Adapter.replug 1 [])])).hub = Hub.empty.call (.count 3) ∧
    ∃ c, (stuckBelow.run (gettingStuck ++ .addChannel :: pluggedAround)).hub.channels[0]? = some c ∧
      c.isOpen = true ∧ c.delivered + c.queued = 3 := by
  have sound : stuckBelow.Sound := by decide
  obtain ⟨calls, sent, -⟩ := stuckBelow.every_notice_arrives_once sound gettingStuck
  obtain ⟨c, here, opened, messages⟩ := sent pluggedAround
  have isOpen : c.isOpen = true := opened.2 (by decide)
  exact ⟨sound, rfl, calls 2 _ _ rfl, c, here, isOpen, messages isOpen⟩

end Multihead
