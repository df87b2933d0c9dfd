import Multihead.Proofs.Scanout.Custody
import Multihead.Proofs.Scanout.FirstFrame

/-! # Creation
What was done when a surface was created: a first frame was drawn and fetched, and every output was asked in turn
to show it. From then on the surface has this frame and no other. -/

set_option autoImplicit false

namespace Multihead.Scanout.Surface

open Watch

variable {σ : Type} [Hardware σ]

/-! ## The first frame -/

theorem after_carried {p : Pipeline} {front b : FrontBuffer} {acts : List Act} (carried : Carried p front b acts)
    (w : Watch) : (w.act (.lock (some front))).after (acts.map .act) = w.act (.lock (some b)) := by
  cases carried with
  | asIs => rfl
  | copied =>
    change ((w.act (.lock (some front))).act (.copy front (some b))).act (.release front) = _
    simp only [act, Multiset.cons_swap (Frame.composite b), Multiset.erase_cons_head]

theorem firstFrame_after (outputs : Nat) (h : σ) (pipeline : Pipeline) (b : FrontBuffer) (fb : Framebuffer)
    (got : (firstFrame outputs h).value = .ok (pipeline, b, fb)) :
    start.after ((firstFrame outputs h).acts.map .act) =
      (start.act (.lock (some b))).act (.framebuffer 0 b (some fb)) := by
  have begun := firstFrame_begun outputs h
  rw [got] at begun
  obtain ⟨front, copiers, source, choice, carried, -, acts⟩ := begun.got
  have quiet : Quiet copiers := choice.forall_acts fun ok w => rfl
  rw [acts, List.map_cons, List.map_cons, List.map_cons, List.map_append, List.map_append, after_cons, after_cons,
    after_cons, after_append, after_append]
  change (((start.act (.lock (some front))).after _).after _).after _ = _
  rw [quiet.after, after_carried carried]
  rfl

/-! ## The surface -/

theorem create_run (settings : Settings) (outputs : Nat) (area : Rect) (transform : Transform) (h : σ) (s : Surface)
    (created : (create settings outputs area transform h).value = .ok s) :
    ∃ pipeline b fb, ∃ h' : σ, 0 < outputs ∧ (firstFrame outputs h).value = .ok (pipeline, b, fb) ∧
      s = { outputs, pipeline, area, transform, option := settings.bypass, candidate := none, scheduled := none,
            visible := some (.composite b), needsModeSet := false, flipsPending := false,
            timings := Timings.fresh (.ofMillis settings.compositeBudget) (.ofMillis settings.bypassBudget) } ∧
      (create settings outputs area transform h).acts = (firstFrame outputs h).acts ++
        ((setCrtcs fb (List.range outputs) h').acts ++ [.releaseCurrent]) := by
  rw [create] at created ⊢
  by_cases none : outputs = 0
  · rw [if_pos none] at created
    cases created
  · rw [if_neg none] at created ⊢
    rw [Drive.bind_run] at created ⊢
    cases got : (firstFrame outputs h).value with
    | error e =>
      simp only [got] at created
      cases created
    | ok first =>
      simp only [got] at created ⊢
      cases created
      exact ⟨first.1, first.2.1, first.2.2, _, Nat.pos_of_ne_zero none, rfl, rfl, rfl⟩

theorem create_consistent (settings : Settings) (outputs : Nat) (area : Rect) (transform : Transform) (h : σ)
    (s : Surface) (created : (create settings outputs area transform h).value = .ok s) :
    Consistent s (start.after ((create settings outputs area transform h).acts.map .act)) ∧ s.scheduled = none := by
  obtain ⟨pipeline, b, fb, h', pos, got, rfl, acts⟩ := create_run settings outputs area transform h s created
  refine ⟨?_, rfl⟩
  have modeSets := setCrtcs_acts fb (List.range outputs) h'
  have asks : ∀ a ∈ (setCrtcs fb (List.range outputs) h').acts, Asks outputs fb a := by
    intro a ha
    obtain ⟨k, hk, ok, rfl⟩ := modeSets a ha
    exact ⟨k, List.mem_range.1 hk, ok, .inl rfl⟩
  have no_flip : ¬ ∃ j, .flip j fb true ∈ (setCrtcs fb (List.range outputs) h').acts := by
    rintro ⟨j, hj⟩
    obtain ⟨k, -, ok, he⟩ := modeSets _ hj
    cases he
  let first := (start.act (.lock (some b))).act (.framebuffer 0 b (some fb))
  have behind : first.behind fb = some (.composite b) := Function.update_self _ _ _
  obtain ⟨held, -, fates⟩ := after_asks outputs fb _ asks first
  rw [acts, List.map_append, List.map_append, after_append, after_append,
    firstFrame_after outputs h pipeline b fb got]
  change Consistent _ (first.after _)
  refine ⟨pos, held, fun c hc => (Option.some_ne_none c hc.symm).elim, rfl, fun k x hx => ?_, fun k x hx => ?_⟩
  · cases fates k with
    | passed no same flipping => cases same.symm.trans hx
    | brought took place shown flipping =>
      have hx := shown.symm.trans hx
      rw [behind] at hx
      cases hx
      exact ⟨rfl, .inl rfl⟩
    | awaited took place flipping shown flip => exact absurd flip no_flip
  · cases fates k with
    | passed no same flipping => cases flipping.symm.trans hx
    | brought took place shown flipping => cases flipping.symm.trans hx
    | awaited took place flipping shown flip => exact absurd flip no_flip

end Multihead.Scanout.Surface
