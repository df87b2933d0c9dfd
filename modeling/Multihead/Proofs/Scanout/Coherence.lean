import Multihead.Proofs.Pacing.History
import Multihead.Proofs.Scanout.Lifetime
import Multihead.Proofs.Scanout.Outcome

/-! # Coherence
Between requests the frames, the flips and the timings of a surface fit together. A post breaks this in several places,
and puts it right again on each of its ways out. -/

set_option autoImplicit false

namespace Multihead.Scanout

/-- The timings count on a flip to complete just if flips are pending. -/
def Surface.Timed (s : Surface) : Prop := s.timings.pending.isSome = s.flipsPending

structure Surface.Coherent (s : Surface) : Prop where
  outputs : 0 < s.outputs
  visible : s.visible.isSome = true
  scheduled : ∀ frame, s.scheduled = some frame → s.waitsAtOnce frame = false
  flips : s.flipsPending = true → s.scheduled.isSome = true
  timed : s.Timed

/-! ## Timings -/

namespace Surface

variable {σ : Type} [Hardware σ] {s : Surface}

theorem Timed.awaitFlips (timed : s.Timed) (h : σ) : (s.awaitFlips h).value.Timed := by
  rw [Surface.awaitFlips]
  cases pending : s.flipsPending with
  | false =>
    rw [if_neg Bool.false_ne_true]
    exact timed
  | true =>
    rw [if_pos rfl]
    exact congrArg Option.isSome (Timings.pending_flipCompleted _ _)

omit [Hardware σ] in
theorem Timed.promote (timed : s.Timed) (h : σ) : (s.promote h).value.Timed := by
  rw [(s.promote_run h).1]
  exact timed

theorem Timed.settle (timed : s.Timed) (h : σ) : (s.settle h).value.Timed := by
  rw [Surface.settle, Drive.bind_run]
  exact (timed.awaitFlips h).promote _

/-- A flip that is taken starts the clock, and nothing else touches it. -/
theorem Timed.present (timed : s.Timed) (fb : Framebuffer) (h : σ) : (s.present fb h).value.Timed := by
  rw [Surface.present]
  cases s.needsModeSet with
  | true =>
    rw [if_pos rfl]
    exact timed
  | false =>
    rw [if_neg Bool.false_ne_true, Drive.bind_run]
    dsimp only
    split
    · rfl
    · exact timed

theorem Timed.showFrame (timed : s.Timed) (frame : Frame) (fb : Framebuffer) (h : σ) :
    (s.showFrame frame fb h).value.Timed := by
  have presented : ((s.schedule frame).present fb h).value.Timed := Timed.present (s := s.schedule frame) timed fb h
  rw [schedule] at presented
  simp only [Surface.showFrame, Drive.bind_run]
  split
  · exact presented.settle _
  · exact presented

theorem Timed.post (timed : s.Timed) (h : σ) : (s.post h).value.2.Timed := by
  have settled := timed.settle h
  rcases s.post_run h with ⟨e, -, value, -⟩ | ⟨frame, fb, h', -, value, -⟩
  · rw [value]
    exact settled
  · rw [value]
    exact settled.showFrame frame fb h'

end Surface

/-! ## Requests -/

theorem Posted.coherent {s u : Surface} {r : Except PresentError Unit} {acts : List Act} (posted : Posted s r u acts)
    (coherent : s.Coherent) (timed : u.Timed) : u.Coherent := by
  have shows : (s.scheduled.or s.visible).isSome = true := by
    rw [Option.isSome_or, coherent.visible, Bool.or_true]
  cases posted with
  | failed e t => exact ⟨coherent.outputs, shows, (fun _ none => nomatch none), (fun none => nomatch none), timed⟩
  | @scheduled frame fb source acts taken t sourced presented later =>
    refine ⟨coherent.outputs, shows, ?_, fun _ => rfl, timed⟩
    intro frame' scheduled
    obtain rfl : frame = frame' := Option.some.inj scheduled
    rwa [waitsAtOnce_eq] at later ⊢
  | settled t => exact ⟨coherent.outputs, rfl, (fun _ none => nomatch none), (fun none => nomatch none), timed⟩

namespace Surface

variable {σ : Type} [Hardware σ]

theorem Coherent.perform {s : Surface} (coherent : s.Coherent) (h : σ) (r : Request) :
    (s.perform r h).value.Coherent := by
  by_cases post : r = .post
  · subst post
    exact (s.post_posted h).coherent coherent (coherent.timed.post h)
  · obtain ⟨candidate, transform, area, due, value, -⟩ := s.perform_of_aside h post
    rw [value]
    exact ⟨coherent.outputs, coherent.visible, coherent.scheduled, coherent.flips, coherent.timed⟩

theorem coherent_of_created (settings : Settings) (outputs : Nat) (area : Rect) (transform : Transform) (h : σ)
    (s : Surface) (created : (create settings outputs area transform h).value = .ok s) : s.Coherent := by
  obtain ⟨p, b, fb, pos, rfl, -⟩ := create_opened settings outputs area transform h s created
  exact ⟨pos, rfl, (fun _ none => nomatch none), (fun none => nomatch none), rfl⟩

theorem coherent_serve {s : Surface} (coherent : s.Coherent) (h : σ) (rs : List Request) :
    (s.serve rs h).value.Coherent :=
  (kept_along Coherent (fun _ h r coherent => coherent.perform h r) s h rs coherent).2

/-- What holds of a surface whenever it is not at work. -/
theorem coherent_between_requests (settings : Settings) (outputs : Nat) (area : Rect) (transform : Transform) (h : σ)
    (s : Surface) (created : (create settings outputs area transform h).value = .ok s) (rs : List Request) :
    let u := (s.serve rs (create settings outputs area transform h).state).value
    u.outputs = outputs ∧ u.visible.isSome = true ∧
      (u.flipsPending = true → (∃ b, u.scheduled = some (.composite b)) ∧ 2 ≤ outputs) ∧
      (∀ b, u.scheduled ≠ some (.bypass b)) ∧
      (outputs = 1 → u.scheduled = none ∧ u.flipsPending = false) ∧
      (u.timings.pending.isSome = true ↔ u.flipsPending = true) := by
  intro u
  have coherent : u.Coherent :=
    coherent_serve (coherent_of_created settings outputs area transform h s created) _ rs
  have same : u.outputs = outputs := by
    obtain ⟨p, b, fb, -, made, -⟩ := create_opened settings outputs area transform h s created
    rw [(s.made_along _ rs).2.1, made]
  -- a frame that is left scheduled is a composited one, for several outputs
  have scheduled : ∀ frame, u.scheduled = some frame → outputs ≠ 1 ∧ frame.isClient = false := by
    intro frame left
    have later := coherent.scheduled frame left
    rwa [waitsAtOnce_eq, same, Bool.or_eq_false_iff, beq_eq_false_iff_ne] at later
  have idle : outputs = 1 → u.scheduled = none := by
    intro single
    rw [Option.eq_none_iff_forall_ne_some]
    exact fun frame left => (scheduled frame left).1 single
  refine ⟨same, coherent.visible, fun flips => ?_, fun b left => ?_, fun single => ⟨idle single, ?_⟩, ?_⟩
  · obtain ⟨frame, left⟩ := Option.isSome_iff_exists.1 (coherent.flips flips)
    obtain ⟨several, drawn⟩ := scheduled frame left
    have pos := coherent.outputs
    cases frame with
    | composite b => exact ⟨⟨b, left⟩, by omega⟩
    | bypass b => cases drawn
  · cases (scheduled _ left).2
  · rw [← Bool.not_eq_true]
    intro flips
    have left := coherent.flips flips
    rw [idle single] at left
    cases left
  · rw [coherent.timed]

/-- After a frame was posted to two outputs. -/
theorem twoHeads_coherent : (create {} 2 twoHeadsView .normal (twoHeads true)).value = .ok twoHeadsSurface ∧
    let u := (twoHeadsSurface.serve twoFrames (create {} 2 twoHeadsView .normal (twoHeads true)).state).value
    u.flipsPending = true ∧ u.visible.isSome = true ∧ (∃ b, u.scheduled = some (.composite b)) ∧
      u.timings.pending.isSome = true := by
  refine ⟨rfl, ?_⟩
  intro u
  have flips : u.flipsPending = true := by decide +kernel
  obtain ⟨-, visible, pending, -, -, timed⟩ :=
    coherent_between_requests {} 2 twoHeadsView .normal (twoHeads true) twoHeadsSurface rfl twoFrames
  exact ⟨flips, visible, (pending flips).1, timed.2 flips⟩

end Surface

end Multihead.Scanout
