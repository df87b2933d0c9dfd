import Multihead.Proofs.Scanout.Creation
import Multihead.Proofs.Scanout.Exchange
import Multihead.Scanout.Rig

/-! # Lifetime of buffers
The buffer that an output shows is not let go as long as every output that ever showed something takes each frame
that is settled; and if buffers can be told apart, it is let go as soon as one of them does not. -/

set_option autoImplicit false

namespace Multihead.Scanout

open Watch

/-! ## Following -/

def Turn.Presents (t : Turn) : Prop := ∃ a ∈ t.acts, a.Presents

/-- The frame of a turn becomes the visible one: at once, or when the next frame is posted. -/
def Turn.Settles (t : Turn) (later : List Turn) : Prop := t.after.scheduled = none ∨ ∃ u ∈ later, u.request = .post

/-- Each frame that settles is taken by all the outputs that took one before it. -/
def Followed (lit : Nat → Prop) : List Turn → Prop
  | [] => True
  | t :: later =>
    (t.Presents → t.Settles later → ∀ k, lit k → Took k t.acts) ∧ Followed (fun k => lit k ∨ Took k t.acts) later

namespace Surface

variable {σ : Type} [Hardware σ]

theorem turn_post (s : Surface) (h : σ) : s.turn h .post = ⟨.post, (s.post h).value.2, (s.post h).acts⟩ := by
  rw [turn, perform, Drive.map_run]

theorem post_mem_turns (s : Surface) (h : σ) (rs : List Request) :
    (∃ u ∈ s.turns h rs, u.request = .post) ↔ .post ∈ rs := by
  have requests := s.map_request_turns h rs
  constructor
  · rintro ⟨u, hu, he⟩
    rw [← requests, ← he]
    exact List.mem_map_of_mem hu
  · intro hp
    rw [← requests] at hp
    exact List.mem_map.1 hp

theorem lit_turn {s : Surface} {h : σ} {w : Watch} {lit : Nat → Prop} (seen : ∀ k, w.Lit k ↔ lit k) (r : Request)
    (k : Nat) : (w.after (s.turn h r).log).Lit k ↔ lit k ∨ Took k (s.turn h r).acts := by
  rw [Turn.lit_after, seen]

/-! ## Runs -/

theorem run_keeps (s : Surface) (h : σ) (w : Watch) (lit : Nat → Prop) (rs : List Request) (c : Consistent s w)
    (seen : ∀ k, w.Lit k ↔ lit k) (noLag : .post ∈ rs → NoLag s w) (followed : Followed lit (s.turns h rs)) :
    Along Safe w (s.log h rs) := by
  induction rs generalizing s h w lit with
  | nil => exact (along_nil _ _).2 c.covered.safe
  | cons r rs ih =>
    obtain ⟨now, later⟩ := followed
    rw [log_cons, along_append]
    by_cases posts : r = .post
    · subst posts
      rw [turn_post] at now
      have follow : ∀ settles, Turn.Presents ⟨.post, (s.post h).value.2, (s.post h).acts⟩ →
          ∀ k, w.Lit k → Took k (s.post h).acts :=
        fun settles presents k hk => now presents settles k ((seen k).1 hk)
      obtain ⟨along, next, noLag'⟩ := post_keeps c (noLag List.mem_cons_self) h fun presents idle =>
        follow (.inl idle) presents
      have lit' := lit_turn (s := s) (h := h) seen .post
      rw [turn_post] at lit' later ⊢
      exact ⟨along, ih _ _ _ _ next lit' (fun hp => noLag' (follow (.inr ((post_mem_turns _ _ rs).2 hp)))) later⟩
    · have idles := idle_of_ne_post c h r posts
      refine ⟨idles.safe, ih _ _ _ _ idles.consistent (lit_turn seen r) (fun hp => ?_) later⟩
      exact idles.noLag_iff.2 (noLag (List.mem_cons_of_mem r hp))

theorem run_tells (s : Surface) (h : σ) (w : Watch) (lit : Nat → Prop) (rs : List Request) (c : Consistent s w)
    (seen : ∀ k, w.Lit k ↔ lit k) (distinct : Along Distinct w (s.log h rs)) (safe : Along Safe w (s.log h rs)) :
    Followed lit (s.turns h rs) ∧ (.post ∈ rs → NoLag s w) := by
  induction rs generalizing s h w lit with
  | nil => exact ⟨trivial, fun hp => absurd hp List.not_mem_nil⟩
  | cons r rs ih =>
    rw [log_cons, along_append] at distinct safe
    by_cases posts : r = .post
    · subst posts
      have lit' := lit_turn (s := s) (h := h) seen .post
      rw [turn_post] at distinct safe lit'
      obtain ⟨noLag, follow⟩ := post_tells c h distinct.1 safe.1
      obtain ⟨-, next, -⟩ := post_keeps c noLag h fun presents idle => follow presents (.inl idle)
      obtain ⟨later, noLag'⟩ := ih _ _ _ _ next lit' distinct.2 safe.2
      refine ⟨?_, fun _ => noLag⟩
      rw [turns, Followed, turn_post]
      refine ⟨fun presents settles k hk => ?_, later⟩
      exact follow presents (settles.imp_right fun hp => noLag' ((post_mem_turns _ _ rs).1 hp)) k ((seen k).2 hk)
    · have idles := idle_of_ne_post c h r posts
      obtain ⟨later, noLag'⟩ := ih _ _ _ _ idles.consistent (lit_turn seen r) distinct.2 safe.2
      refine ⟨⟨fun presents => ?_, later⟩, fun hp => ?_⟩
      · obtain ⟨a, ha, presents⟩ := presents
        exact absurd presents (idles.presents a ha)
      · exact idles.noLag_iff.1 (noLag' ((List.mem_cons.1 hp).resolve_left (Ne.symm posts)))

/-! ## Lifetime -/

/-- After a surface was created, no buffer that an output shows is let go in a run in which each frame that settles
is taken by all the outputs that took one before it. If no buffer is handed to the surface while it has it, there is
no other such run. -/
theorem safe_along_iff_followed (settings : Settings) (outputs : Nat) (area : Rect) (transform : Transform) (h : σ)
    (s : Surface) (created : (create settings outputs area transform h).value = .ok s) (rs : List Request) :
    let opening := create settings outputs area transform h
    let w := start.after (opening.acts.map .act)
    (Followed (Took · opening.acts) (s.turns opening.state rs) → Along Safe w (s.log opening.state rs)) ∧
      (Along Distinct w (s.log opening.state rs) →
        (Along Safe w (s.log opening.state rs) ↔ Followed (Took · opening.acts) (s.turns opening.state rs))) := by
  intro opening w
  obtain ⟨c, idle⟩ := create_consistent settings outputs area transform h s created
  have seen : ∀ k, w.Lit k ↔ Took k opening.acts := by
    intro k
    rw [lit_after]
    simp [Lit, start]
  have keeps := run_keeps s opening.state w _ rs c seen fun _ => NoLag.of_idle idle
  refine ⟨keeps, fun distinct => ⟨fun safe => ?_, keeps⟩⟩
  exact (run_tells s opening.state w _ rs c seen distinct safe).1

/-- Two outputs; the second one accepts flips, or refuses them all. -/
def twoHeads (second : Bool) : Rig where
  heads := [⟨1, 0, 60, [], true, true, true, true, 0, 0⟩, ⟨2, 0, 60, [], second, true, true, true, 0, 0⟩]
  size := ⟨1920, 1080⟩
  swaps := 0
  egl := ""
  gl := ""
  lacksCopier := false
  nextCopy := 0
  faults := ⟨false, false, false, false⟩

def twoHeadsView : Rect := ⟨⟨0, 0⟩, ⟨1920, 1080⟩⟩

/-- The surface on both of them. -/
def twoHeadsSurface : Surface :=
  { outputs := 2, pipeline := .direct, area := twoHeadsView, transform := .normal, option := ({} : Settings).bypass,
    candidate := none, scheduled := none, visible := some (.composite ⟨1, ⟨1920, 1080⟩⟩), needsModeSet := false,
    flipsPending := false
    timings := Timings.fresh (.ofMillis ({} : Settings).compositeBudget) (.ofMillis ({} : Settings).bypassBudget) }

def twoFrames : List Request := [.swapBuffers, .post, .swapBuffers, .post]

theorem twoHeads_safe : ∃ s, (create {} 2 twoHeadsView .normal (twoHeads true)).value = .ok s ∧
    let opening := create {} 2 twoHeadsView .normal (twoHeads true)
    let w := start.after (opening.acts.map .act)
    Along Distinct w (s.log opening.state twoFrames) ∧ Along Safe w (s.log opening.state twoFrames) ∧
      (Along Safe w (s.log opening.state twoFrames) ↔
        Followed (Took · opening.acts) (s.turns opening.state twoFrames)) := by
  refine ⟨_, rfl, ?_⟩
  intro opening w
  obtain ⟨keeps, exact_for⟩ := safe_along_iff_followed {} 2 twoHeadsView .normal (twoHeads true) _ rfl twoFrames
  refine ⟨?distinct, keeps ?followed, exact_for ?distinct⟩
  case distinct => decide
  case followed =>
    have both : ∀ {k : Nat} {acts : List Act}, acts.filterMap taker = [0, 1] → k ∈ [0, 1] → Took k acts := by
      intro k acts h hk
      rwa [Took, h]
    have no_frame : ∀ {t : Turn}, t.acts = [.swap true] → ¬ t.Presents := by
      rintro t h ⟨a, ha, presents⟩
      rw [h] at ha
      cases List.mem_singleton.1 ha
      exact presents
    refine show _ ∧ _ ∧ _ ∧ _ ∧ True from ⟨?_, ?_, ?_, ?_, trivial⟩
    · exact fun presents => absurd presents (no_frame rfl)
    · rintro - - k (first | none)
      · exact both rfl first
      · cases none
    · exact fun presents => absurd presents (no_frame rfl)
    · rintro - - k (((first | none) | second) | none)
      · exact both rfl first
      · cases none
      · exact both rfl second
      · cases none

/-- The second output keeps showing the first frame, which is let go when the second one is settled. -/
theorem twoHeads_unsafe : ∃ s, (create {} 2 twoHeadsView .normal (twoHeads false)).value = .ok s ∧
    ¬ Along Safe (start.after ((create {} 2 twoHeadsView .normal (twoHeads false)).acts.map .act))
      (s.log (create {} 2 twoHeadsView .normal (twoHeads false)).state twoFrames) := by
  refine ⟨_, rfl, fun along => ?_⟩
  obtain ⟨f, hf, he⟩ := along.last 1 (some (.composite ⟨1, ⟨1920, 1080⟩⟩)) rfl
  cases he
  revert hf
  decide

end Surface

end Multihead.Scanout
