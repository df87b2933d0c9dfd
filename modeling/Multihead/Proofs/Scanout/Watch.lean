import Mathlib.Data.List.Infix
import Mathlib.Data.Multiset.AddSub
import Mathlib.Logic.Function.Basic
import Multihead.Proofs.Scanout.Run

/-! # Watching a surface
An observer of the log keeps track of the buffers that the surface was given and has not let go, and of what each
output shows: the buffer behind the framebuffer of its last mode-set, or of its last flip once that was waited for.
Nothing is known here of the inner state of the surface. -/

set_option autoImplicit false

namespace Multihead.Scanout

structure Watch where
  /-- The buffers in the hands of the surface, as often as they were handed out. -/
  held : Multiset Frame
  behind : Framebuffer → Option Frame
  /-- What an output has accepted to flip to. -/
  flipping : Nat → Option (Option Frame)
  shown : Nat → Option (Option Frame)

def Frame.released : Frame → Act
  | composite b => .release b
  | bypass b => .releaseClient b

namespace Watch

open Function (update)

/-! ## What the observer learns -/

def start : Watch := ⟨0, fun _ => none, fun _ => none, fun _ => none⟩

def act (w : Watch) : Act → Watch
  | .lock (some b) | .copy _ (some b) => { w with held := .composite b ::ₘ w.held }
  | .framebuffer _ b (some fb) => { w with behind := update w.behind fb (some (.composite b)) }
  | .setCrtc k fb true =>
    { w with flipping := update w.flipping k none, shown := update w.shown k (some (w.behind fb)) }
  | .flip k fb true => { w with flipping := update w.flipping k (some (w.behind fb)) }
  | .wait k =>
    { w with flipping := update w.flipping k none, shown := update w.shown k ((w.flipping k).or (w.shown k)) }
  | .release b => { w with held := w.held.erase (.composite b) }
  | .releaseClient b => { w with held := w.held.erase (.bypass b) }
  | _ => w

def see (w : Watch) : Entry → Watch
  | .act a => w.act a
  | .offer buffers => { w with held := ↑(buffers.map Frame.bypass) + w.held }
  | .choose c => { w with behind := update w.behind c.fb (some (.bypass c.buffer)) }

def after (w : Watch) (log : List Entry) : Watch := log.foldl see w

/-- What every output shows is still in the hands of the surface. -/
def Safe (w : Watch) : Prop := ∀ k x, w.shown k = some x → ∃ f ∈ w.held, x = some f

/-- No buffer was handed to the surface while it had it. -/
def Distinct (w : Watch) : Prop := w.held.Nodup

instance (w : Watch) : Decidable w.Distinct := inferInstanceAs (Decidable w.held.Nodup)

/-- The output shows something, or has accepted to. -/
def Lit (w : Watch) (k : Nat) : Prop := w.shown k ≠ none ∨ w.flipping k ≠ none

/-- At every moment of the log. -/
def Along (p : Watch → Prop) (w : Watch) (log : List Entry) : Prop := ∀ past, past <+: log → p (w.after past)

instance (p : Watch → Prop) [DecidablePred p] (w : Watch) (log : List Entry) : Decidable (Along p w log) :=
  decidable_of_iff (∀ past ∈ log.inits, p (w.after past)) (by simp only [Along, List.mem_inits])

theorem after_cons (w : Watch) (e : Entry) (log : List Entry) : w.after (e :: log) = (w.see e).after log := rfl

theorem after_append (w : Watch) (log more : List Entry) : w.after (log ++ more) = (w.after log).after more :=
  List.foldl_append

theorem along_nil (p : Watch → Prop) (w : Watch) : Along p w [] ↔ p w := by
  simp [Along, after]

theorem along_cons (p : Watch → Prop) (w : Watch) (e : Entry) (log : List Entry) :
    Along p w (e :: log) ↔ p w ∧ Along p (w.see e) log := by
  constructor
  · intro along
    exact ⟨along [] (List.nil_prefix), fun past h => along (e :: past) (List.cons_prefix_cons.2 ⟨rfl, h⟩)⟩
  · rintro ⟨now, later⟩ past h
    rcases List.prefix_cons_iff.1 h with rfl | ⟨rest, rfl, hrest⟩
    · exact now
    · exact later rest hrest

theorem along_append (p : Watch → Prop) (w : Watch) (log more : List Entry) :
    Along p w (log ++ more) ↔ Along p w log ∧ Along p (w.after log) more := by
  induction log generalizing w with
  | nil =>
    rw [List.nil_append, along_nil]
    exact ⟨fun along => ⟨along [] List.nil_prefix, along⟩, And.right⟩
  | cons e log ih =>
    rw [List.cons_append, along_cons, along_cons, ih, and_assoc]
    rfl

theorem Along.first {p : Watch → Prop} {w : Watch} {log : List Entry} (along : Along p w log) : p w :=
  along [] List.nil_prefix

theorem Along.last {p : Watch → Prop} {w : Watch} {log : List Entry} (along : Along p w log) : p (w.after log) :=
  along log (List.prefix_refl log)

theorem Safe.of_le {w w' : Watch} (safe : w.Safe) (held : w.held ≤ w'.held) (shown : w'.shown = w.shown) :
    w'.Safe := by
  intro k x hx
  rw [shown] at hx
  obtain ⟨f, hf, rfl⟩ := safe k x hx
  exact ⟨f, Multiset.mem_of_le held hf, rfl⟩

/-! ## Acts that change nothing -/

def Quiet (acts : List Act) : Prop := ∀ a ∈ acts, ∀ w : Watch, w.act a = w

theorem Quiet.after {acts : List Act} (quiet : Quiet acts) (w : Watch) : w.after (acts.map .act) = w := by
  induction acts with
  | nil => rfl
  | cons a acts ih =>
    obtain ⟨ha, hacts⟩ := List.forall_mem_cons.1 quiet
    change (w.act a).after (acts.map .act) = w
    rw [ha w, ih hacts]

theorem Quiet.along {acts : List Act} (quiet : Quiet acts) (p : Watch → Prop) (w : Watch) (now : p w) :
    Along p w (acts.map .act) := by
  induction acts with
  | nil => exact (along_nil p w).2 now
  | cons a acts ih =>
    obtain ⟨ha, hacts⟩ := List.forall_mem_cons.1 quiet
    rw [List.map_cons, along_cons]
    refine ⟨now, ?_⟩
    change Along p (w.act a) _
    rw [ha w]
    exact ih hacts

/-! ## Letting go -/

def without (w : Watch) (frames : Multiset Frame) : Watch := { w with held := w.held - frames }

theorem without_without (w : Watch) (a b : Multiset Frame) : (w.without a).without b = w.without (a + b) := by
  simp only [without, Multiset.sub_add_eq_sub_sub]

def holding (w : Watch) (frames : Multiset Frame) : Watch := { w with held := frames }

theorem without_holding (w : Watch) (frames more : Multiset Frame) :
    (w.holding (frames + more)).without more = w.holding frames := by
  simp only [without, holding, Multiset.add_sub_cancel_right]

theorem act_released (w : Watch) (f : Frame) : w.act f.released = w.without {f} := by
  rw [without, Multiset.sub_singleton]
  cases f <;> rfl

theorem after_released (w : Watch) (frames : List Frame) :
    w.after ((frames.map Frame.released).map .act) = w.without frames := by
  induction frames generalizing w with
  | nil => simp [after, without]
  | cons f frames ih =>
    change (w.act f.released).after _ = _
    rw [ih, act_released, without_without, Multiset.singleton_add, Multiset.cons_coe]

/-- If nothing that is shown is missing in the end, nothing was missing on the way. -/
theorem along_released (w : Watch) (frames : List Frame) (safe : (w.without frames).Safe) :
    Along Safe w ((frames.map Frame.released).map .act) := by
  -- letting go only shrinks what is held, so it is enough to look at the end
  have now : w.Safe := safe.of_le (Multiset.sub_le_self _ _) rfl
  induction frames generalizing w with
  | nil => exact (along_nil Safe w).2 now
  | cons f frames ih =>
    have later : (w.act f.released).without frames = w.without ↑(f :: frames) := by
      rw [act_released, without_without, Multiset.singleton_add, Multiset.cons_coe]
    rw [List.map_cons, List.map_cons, along_cons]
    refine ⟨now, ih (w.act f.released) ?_ ?_⟩
    · rwa [later]
    · rw [← later] at safe
      exact safe.of_le (Multiset.sub_le_self _ _) rfl

/-! ## Waiting -/

/-- All that is shown or will be after a flip is in the hands of the surface. -/
def Covered (w : Watch) : Prop :=
  ∀ k x, w.shown k = some x ∨ w.flipping k = some x → ∃ f ∈ w.held, x = some f

theorem Covered.safe {w : Watch} (covered : w.Covered) : w.Safe := fun k x h => covered k x (.inl h)

def waited (w : Watch) (ks : List Nat) : Watch :=
  { w with
    flipping := fun k => if k ∈ ks then none else w.flipping k
    shown := fun k => if k ∈ ks then (w.flipping k).or (w.shown k) else w.shown k }

theorem after_waits (w : Watch) (ks : List Nat) : w.after ((ks.map Act.wait).map .act) = w.waited ks := by
  induction ks generalizing w with
  | nil => simp [after, waited]
  | cons k ks ih =>
    change (w.act (.wait k)).after _ = _
    rw [ih]
    simp only [waited, act, mk.injEq, true_and]
    constructor
    · funext j
      by_cases hj : j = k <;> simp [hj]
    · funext j
      by_cases hj : j = k <;> simp [hj]

theorem along_waits (w : Watch) (ks : List Nat) (covered : w.Covered) :
    Along Safe w ((ks.map Act.wait).map .act) := by
  induction ks generalizing w with
  | nil => exact (along_nil Safe w).2 covered.safe
  | cons k ks ih =>
    rw [List.map_cons, List.map_cons, along_cons]
    refine ⟨covered.safe, ih _ fun j x h => ?_⟩
    by_cases hj : j = k
    · subst hj
      simp only [see, act, Function.update_self, reduceCtorEq, or_false, Option.or_eq_some_iff] at h
      exact covered j x (h.symm.imp And.right id)
    · simp only [see, act, ne_eq, hj, not_false_eq_true, Function.update_of_ne] at h
      exact covered j x h

/-! ## Asking outputs to show a framebuffer -/

def Asks (n : Nat) (fb : Framebuffer) (a : Act) : Prop :=
  ∃ k < n, ∃ ok, a = .setCrtc k fb ok ∨ a = .flip k fb ok

def taker : Act → Option Nat
  | .setCrtc k _ true | .flip k _ true => some k
  | _ => none

def Took (k : Nat) (acts : List Act) : Prop := k ∈ acts.filterMap taker

/-- What becomes of an output while it and others are asked to show a framebuffer. -/
inductive Fate (n : Nat) (fb : Framebuffer) (acts : List Act) (w w' : Watch) (k : Nat) : Prop where
  | passed (no : ¬ Took k acts) (shown : w'.shown k = w.shown k) (flipping : w'.flipping k = w.flipping k)
  | brought (took : Took k acts) (place : k < n) (shown : w'.shown k = some (w.behind fb))
    (flipping : w'.flipping k = none)
  | awaited (took : Took k acts) (place : k < n) (flipping : w'.flipping k = some (w.behind fb))
    (shown : w'.shown k = w.shown k ∨ w'.shown k = some (w.behind fb)) (flip : ∃ j, .flip j fb true ∈ acts)

theorem took_append (k : Nat) (acts more : List Act) : Took k (acts ++ more) ↔ Took k acts ∨ Took k more := by
  simp only [Took, List.filterMap_append, List.mem_append]

theorem took_cons (k : Nat) (a : Act) (acts : List Act) : Took k (a :: acts) ↔ Took k [a] ∨ Took k acts :=
  took_append k [a] acts

theorem took_setCrtc (j k : Nat) (fb : Framebuffer) (ok : Bool) :
    Took j [.setCrtc k fb ok] ↔ j = k ∧ ok = true := by
  cases ok <;> simp [Took, taker]

theorem took_flip (j k : Nat) (fb : Framebuffer) (ok : Bool) : Took j [.flip k fb ok] ↔ j = k ∧ ok = true := by
  cases ok <;> simp [Took, taker]

theorem fate_act (n : Nat) (fb : Framebuffer) (a : Act) (asks : Asks n fb a) (w : Watch) (j : Nat) :
    Fate n fb [a] w (w.act a) j := by
  obtain ⟨k, hk, ok, rfl | rfl⟩ := asks
  · by_cases took : j = k ∧ ok = true
    · obtain ⟨rfl, rfl⟩ := took
      exact .brought ((took_setCrtc j j fb true).2 ⟨rfl, rfl⟩) hk (by simp [act]) (by simp [act])
    · refine .passed (took ∘ (took_setCrtc j k fb ok).1) ?_ ?_
      all_goals
        cases ok with
        | false => rfl
        | true => simp_all [act]
  · by_cases took : j = k ∧ ok = true
    · obtain ⟨rfl, rfl⟩ := took
      exact .awaited ((took_flip j j fb true).2 ⟨rfl, rfl⟩) hk (by simp [act]) (.inl rfl)
        ⟨j, List.mem_singleton_self _⟩
    · refine .passed (took ∘ (took_flip j k fb ok).1) ?_ ?_
      all_goals
        cases ok with
        | false => rfl
        | true => simp_all [act]

theorem act_asks (n : Nat) (fb : Framebuffer) (a : Act) (asks : Asks n fb a) (w : Watch) :
    (w.act a).held = w.held ∧ (w.act a).behind = w.behind := by
  obtain ⟨k, hk, ok, rfl | rfl⟩ := asks <;> cases ok <;> exact ⟨rfl, rfl⟩

/-- A list of requests to show one framebuffer touches only what is shown, and tells of every output what became
of it. -/
theorem after_asks (n : Nat) (fb : Framebuffer) (acts : List Act) (asks : ∀ a ∈ acts, Asks n fb a) (w : Watch) :
    (w.after (acts.map .act)).held = w.held ∧ (w.after (acts.map .act)).behind = w.behind ∧
      ∀ j, Fate n fb acts w (w.after (acts.map .act)) j := by
  induction acts generalizing w with
  | nil => exact ⟨rfl, rfl, fun j => .passed (by simp [Took]) rfl rfl⟩
  | cons a acts ih =>
    obtain ⟨ha, hacts⟩ := List.forall_mem_cons.1 asks
    obtain ⟨sameHeld, sameBehind⟩ := act_asks n fb a ha w
    obtain ⟨held, behind, fates⟩ := ih hacts (w.act a)
    refine ⟨held.trans sameHeld, behind.trans sameBehind, fun j => ?_⟩
    change Fate n fb (a :: acts) w ((w.act a).after (acts.map .act)) j
    have first := fate_act n fb a ha w j
    -- what a later act does to the output stands; where none does anything, the first act decides
    cases fates j with
    | passed no shown flipping =>
      cases first with
      | passed no' s f =>
        exact .passed (fun h => ((took_cons j a acts).1 h).elim no' no) (shown.trans s) (flipping.trans f)
      | brought took place s f =>
        exact .brought ((took_cons j a acts).2 (.inl took)) place (shown.trans s) (flipping.trans f)
      | awaited took place f s flip =>
        obtain ⟨i, flip⟩ := flip
        exact .awaited ((took_cons j a acts).2 (.inl took)) place (flipping.trans f) (by rwa [shown])
          ⟨i, List.mem_cons.2 (.inl (List.mem_singleton.1 flip))⟩
    | brought took place shown flipping =>
      exact .brought ((took_cons j a acts).2 (.inr took)) place (shown.trans (by rw [sameBehind])) flipping
    | awaited took place flipping shown flip =>
      obtain ⟨i, flip⟩ := flip
      refine .awaited ((took_cons j a acts).2 (.inr took)) place (flipping.trans (by rw [sameBehind])) ?_
        ⟨i, List.mem_cons_of_mem a flip⟩
      rw [sameBehind] at shown
      cases first with
      | passed no s f => exact shown.imp (·.trans s) id
      | brought took place s f => exact (shown.imp (·.trans s) id).elim .inr .inr
      | awaited took place f s flip => exact shown.elim (fun h => s.imp h.trans h.trans) .inr

theorem along_asks (n : Nat) (fb : Framebuffer) (acts : List Act) (asks : ∀ a ∈ acts, Asks n fb a) (w : Watch)
    (covered : w.Covered) (f : Frame) (behind : w.behind fb = some f) (held : f ∈ w.held) :
    Along Safe w (acts.map .act) := by
  induction acts generalizing w with
  | nil => exact (along_nil Safe w).2 covered.safe
  | cons a acts ih =>
    obtain ⟨ha, hacts⟩ := List.forall_mem_cons.1 asks
    obtain ⟨sameHeld, sameBehind⟩ := act_asks n fb a ha w
    rw [List.map_cons, along_cons]
    refine ⟨covered.safe, ih hacts (w.act a) ?_ (sameBehind ▸ behind) (sameHeld ▸ held)⟩
    intro j x h
    rw [sameHeld]
    have new : some (w.behind fb) = some x → ∃ f ∈ w.held, x = some f := by
      intro hx
      rw [← Option.some.inj hx, behind]
      exact ⟨f, held, rfl⟩
    cases fate_act n fb a ha w j with
    | passed no s g =>
      rw [s, g] at h
      exact covered j x h
    | brought took place s g =>
      rw [s, g] at h
      exact new (h.resolve_right (by simp))
    | awaited took place g s flip =>
      rw [g] at h
      refine h.elim (fun h => ?_) new
      exact s.elim (fun s => covered j x (.inl (s.symm.trans h))) fun s => new (s.symm.trans h)

/-! ## Outputs that show something -/

theorem lit_act (w : Watch) (a : Act) (j : Nat) : (w.act a).Lit j ↔ w.Lit j ∨ Took j [a] := by
  have untouched_at : (w.act a).shown j = w.shown j → (w.act a).flipping j = w.flipping j → ¬ Took j [a] →
      ((w.act a).Lit j ↔ w.Lit j ∨ Took j [a]) := by
    intro shown flipping no
    rw [Lit, shown, flipping]
    exact (or_iff_left no).symm
  have untouched : (w.act a).shown = w.shown → (w.act a).flipping = w.flipping → ¬ Took j [a] →
      ((w.act a).Lit j ↔ w.Lit j ∨ Took j [a]) :=
    fun shown flipping => untouched_at (congrFun shown j) (congrFun flipping j)
  have asked : ∀ n fb, Asks n fb a → ((w.act a).Lit j ↔ w.Lit j ∨ Took j [a]) := by
    intro n fb asks
    cases fate_act n fb a asks w j with
    | passed no s g => exact untouched_at s g no
    | brought took place s g => exact iff_of_true (.inl (by simp [s])) (.inr took)
    | awaited took place g s flip => exact iff_of_true (.inr (by simp [g])) (.inr took)
  cases a with
  | setCrtc k fb ok => exact asked (k + 1) fb ⟨k, k.lt_succ_self, ok, .inl rfl⟩
  | flip k fb ok => exact asked (k + 1) fb ⟨k, k.lt_succ_self, ok, .inr rfl⟩
  | wait k =>
    by_cases hj : j = k
    · subst hj
      simp [Lit, act, Took, taker, Option.or_eq_none_iff]
      tauto
    · simp [Lit, act, Took, taker, hj]
  | lock answer => cases answer <;> exact untouched rfl rfl (by simp [Took, taker])
  | copy source answer => cases answer <;> exact untouched rfl rfl (by simp [Took, taker])
  | framebuffer k b answer => cases answer <;> exact untouched rfl rfl (by simp [Took, taker])
  | makeCurrent | releaseCurrent | swap | createCopier | importBuffer | release | releaseClient =>
    exact untouched rfl rfl (by simp [Took, taker])

theorem lit_after (w : Watch) (acts : List Act) (j : Nat) :
    (w.after (acts.map .act)).Lit j ↔ w.Lit j ∨ Took j acts := by
  induction acts generalizing w with
  | nil => simp [after, Took]
  | cons a acts ih =>
    change ((w.act a).after (acts.map .act)).Lit j ↔ _
    rw [ih, lit_act, or_assoc, ← took_cons]

end Watch

/-! ## Turns -/

open Watch

theorem Turn.lit_after (t : Turn) (w : Watch) (j : Nat) : (w.after t.log).Lit j ↔ w.Lit j ∨ Took j t.acts := by
  obtain ⟨request, s, acts⟩ := t
  cases request with
  | post | swapBuffers | setTransform | scheduleModeSet => exact Watch.lit_after w acts j
  | overlay renderables =>
    rw [Turn.log, after_append]
    cases s.candidate with
    | none => exact Watch.lit_after _ acts j
    | some c => exact Watch.lit_after _ acts j

end Multihead.Scanout
