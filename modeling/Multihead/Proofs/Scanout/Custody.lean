import Mathlib.Data.Multiset.UnionInter
import Multihead.Proofs.Scanout.Acts

/-! # Custody
How the state of a surface and what an observer knows hang together: the surface has the buffers of its frames and
no others, and an output shows the visible frame or the scheduled one. A frame may be let go when no output lags
behind, and for buffers that differ only then. -/

set_option autoImplicit false

namespace Multihead.Scanout

open Watch

/-- The frames that were posted and that a surface holds. -/
def Surface.posted (s : Surface) : List Frame := s.scheduled.toList ++ s.visible.toList

def Surface.frames (s : Surface) : List Frame := s.candidate.toList.map Candidate.frame ++ s.posted

structure Consistent (s : Surface) (w : Watch) : Prop where
  outputs : 0 < s.outputs
  held : w.held = s.frames
  candidate : ∀ c, s.candidate = some c → w.behind c.fb = some c.frame
  visible : s.visible.isSome = true
  shown : ∀ k x, w.shown k = some x → x.isSome = true ∧ (x = s.visible ∨ x = s.scheduled)
  flipping : ∀ k x, w.flipping k = some x →
    x.isSome = true ∧ x = s.scheduled ∧ s.flipsPending = true ∧ k < s.outputs

/-- Every output that shows something shows the scheduled frame, or flips to it. -/
def NoLag (s : Surface) (w : Watch) : Prop :=
  s.scheduled.isSome = true → ∀ k x, w.shown k = some x → x = s.scheduled ∨ w.flipping k = some s.scheduled

theorem NoLag.of_idle {s : Surface} {w : Watch} (idle : s.scheduled = none) : NoLag s w := by
  intro busy
  rw [idle] at busy
  cases busy

namespace Consistent

variable {s : Surface} {w : Watch}

theorem flipping_none (c : Consistent s w) (still : s.flipsPending = false) (k : Nat) : w.flipping k = none := by
  cases h : w.flipping k with
  | none => rfl
  | some x =>
    have pending := (c.flipping k x h).2.2.1
    rw [still] at pending
    cases pending

theorem covered (c : Consistent s w) : w.Covered := by
  intro k x h
  have hx : x.isSome = true ∧ (x = s.visible ∨ x = s.scheduled) :=
    h.elim (c.shown k x) fun h => ⟨(c.flipping k x h).1, .inr (c.flipping k x h).2.1⟩
  obtain ⟨f, rfl⟩ := Option.isSome_iff_exists.1 hx.1
  refine ⟨f, ?_, rfl⟩
  rw [c.held, Multiset.mem_coe, Surface.frames, Surface.posted]
  rcases hx.2 with h | h <;> simp [← h]

theorem withTimings (c : Consistent s w) (t : Timings) : Consistent { s with timings := t } w :=
  ⟨c.outputs, c.held, c.candidate, c.visible, c.shown, c.flipping⟩

theorem safe_of_le (c : Consistent s w) {w' : Watch} (held : ↑s.posted ≤ w'.held)
    (shown : w'.shown = w.shown) : w'.Safe := by
  intro k x h
  rw [shown] at h
  obtain ⟨some_x, hx⟩ := c.shown k x h
  obtain ⟨f, rfl⟩ := Option.isSome_iff_exists.1 some_x
  refine ⟨f, Multiset.mem_of_le held ?_, rfl⟩
  rw [Multiset.mem_coe, Surface.posted]
  rcases hx with h | h <;> simp [← h]

end Consistent

namespace Surface

variable {σ : Type} [Hardware σ]

/-! ## Settling -/

section Settle
variable {s : Surface} {w : Watch}

theorem shown_waited (c : Consistent s w) (k : Nat) :
    (w.waited s.pendingPlaces).shown k = (w.flipping k).or (w.shown k) ∧
      (w.waited s.pendingPlaces).flipping k = none := by
  by_cases waits : k ∈ s.pendingPlaces
  · simp [waited, waits]
  · -- an output that is not waited for has no flip pending
    have still : w.flipping k = none := by
      cases h : w.flipping k with
      | none => rfl
      | some x =>
        obtain ⟨-, -, pending, place⟩ := c.flipping k x h
        exact absurd (by simpa [pendingPlaces, pending, places] using place) waits
    simp [waited, waits, still]

theorem waited_consistent (c : Consistent s w) :
    Consistent { s with flipsPending := false } (w.waited s.pendingPlaces) where
  outputs := c.outputs
  held := c.held
  candidate := c.candidate
  visible := c.visible
  shown k x h := by
    rw [(shown_waited c k).1, Option.or_eq_some_iff] at h
    rcases h with h | ⟨-, h⟩
    · exact ⟨(c.flipping k x h).1, .inr (c.flipping k x h).2.1⟩
    · exact c.shown k x h
  flipping k x h := by
    rw [(shown_waited c k).2] at h
    cases h

/-- No output lags behind if after the wait all of them show what was scheduled. -/
theorem noLag_iff_waited (c : Consistent s w) :
    NoLag s w ↔
      (s.scheduled.isSome = true → ∀ k x, (w.waited s.pendingPlaces).shown k = some x → x = s.scheduled) := by
  refine imp_congr_right fun busy => forall_congr' fun k => ?_
  rw [(shown_waited c k).1]
  cases flip : w.flipping k with
  | none => simp
  | some y =>
    have hy := (c.flipping k y flip).2.1
    simp [hy]

theorem frames_of_scheduled {f v : Frame} (hs : s.scheduled = some f) (hv : s.visible = some v) :
    (s.frames : Multiset Frame) = ↑(s.candidate.toList.map Candidate.frame ++ [f]) + ↑[v] := by
  rw [frames, posted, hs, hv, Multiset.coe_add, List.append_assoc]
  rfl

theorem retired_of_scheduled {f v : Frame} (hs : s.scheduled = some f) (hv : s.visible = some v) :
    s.retired = [v] := by
  rw [retired, hs, hv]
  rfl

theorem settled_consistent (c : Consistent s w) (noLag : NoLag s w) (t : Timings) :
    Consistent
      { s with scheduled := none, visible := s.scheduled.or s.visible, flipsPending := false, timings := t }
      ((w.waited s.pendingPlaces).without s.retired) := by
  have waited := waited_consistent c
  have up := (noLag_iff_waited c).1 noLag
  obtain ⟨v, hv⟩ := Option.isSome_iff_exists.1 c.visible
  cases hs : s.scheduled with
  | none =>
    have nothing : (w.waited s.pendingPlaces).without s.retired = w.waited s.pendingPlaces := by
      simp [retired, hs, without]
    rw [nothing]
    refine ⟨c.outputs, ?_, waited.candidate, c.visible, fun k x h => ?_, fun k x h => ?_⟩
    · rw [waited.held]
      simp [frames, posted, hs]
    · obtain ⟨some_x, hx⟩ := waited.shown k x h
      rw [hs] at hx
      refine ⟨some_x, hx.imp_right fun none_x => ?_⟩
      exact none_x
    · cases (waited.flipping_none rfl k).symm.trans h
  | some f =>
    refine ⟨c.outputs, ?_, waited.candidate, rfl, fun k x h => ?_, fun k x h => ?_⟩
    · change w.held - ↑s.retired = _
      rw [c.held, frames_of_scheduled hs hv, retired_of_scheduled hs hv]
      exact Multiset.add_sub_cancel_right
    · have hx := up (by rw [hs]; rfl) k x h
      rw [hs] at hx
      exact ⟨by rw [hx]; rfl, .inl hx⟩
    · cases (waited.flipping_none rfl k).symm.trans h

theorem settle_keeps (c : Consistent s w) (noLag : NoLag s w) (h : σ) :
    Along Safe w ((s.settle h).acts.map .act) ∧
      Consistent (s.settle h).value (w.after ((s.settle h).acts.map .act)) := by
  obtain ⟨⟨t, value⟩, acts⟩ := s.settle_run h
  have settled := settled_consistent c noLag t
  rw [acts, value, List.map_append, along_append, after_append, after_waits, after_released]
  exact ⟨⟨along_waits w _ c.covered, along_released _ _ settled.covered.safe⟩, settled⟩

/-- An output that lags behind shows, among distinct buffers, one that the surface lets go when it settles. -/
theorem settle_tells (c : Consistent s w) (distinct : w.Distinct) (h : σ)
    (safe : Along Safe w ((s.settle h).acts.map .act)) : NoLag s w := by
  obtain ⟨-, acts⟩ := s.settle_run h
  have safe := safe.last
  rw [acts, List.map_append, after_append, after_waits, after_released] at safe
  rw [noLag_iff_waited c]
  intro busy k x hx
  obtain ⟨f, hs⟩ := Option.isSome_iff_exists.1 busy
  obtain ⟨v, hv⟩ := Option.isSome_iff_exists.1 c.visible
  refine ((waited_consistent c).shown k x hx).2.resolve_left fun visible_x => ?_
  -- the visible frame is let go, and no other frame that is held is the same buffer
  obtain ⟨g, hg, rfl⟩ := safe k x hx
  obtain rfl : g = v := Option.some.inj (visible_x.trans hv)
  rw [Distinct, c.held, frames_of_scheduled hs hv, Multiset.nodup_add] at distinct
  change g ∈ w.held - ↑s.retired at hg
  rw [c.held, frames_of_scheduled hs hv, retired_of_scheduled hs hv, Multiset.add_sub_cancel_right] at hg
  exact Multiset.disjoint_left.1 distinct.2.2 hg (Multiset.mem_singleton_self g)

end Settle

/-! ## Presenting -/

/-- A frame is in the hands of an idle surface, behind a framebuffer. -/
structure Ready (s : Surface) (w : Watch) (frame : Frame) (fb : Framebuffer) : Prop where
  outputs : 0 < s.outputs
  held : w.held = ↑(frame :: s.visible.toList)
  behind : w.behind fb = some frame
  visible : s.visible.isSome = true
  shown : ∀ k x, w.shown k = some x → x = s.visible
  flipping : ∀ k, w.flipping k = none

section Present
variable {s : Surface} {w : Watch}

theorem nextFrame_along (c : Consistent s w) (idle : s.scheduled = none) (still : s.flipsPending = false) (h : σ) :
    Along Safe w ((s.nextFrame h).acts.map .act) ∧
      match (s.nextFrame h).value with
      | .ok (frame, fb) => Ready s (w.after ((s.nextFrame h).acts.map .act)) frame fb
      | .error _ => w.after ((s.nextFrame h).acts.map .act) = w := by
  have shown : ∀ k x, w.shown k = some x → x = s.visible := by
    intro k x hx
    obtain ⟨some_x, hx⟩ := c.shown k x hx
    refine hx.resolve_right fun none_x => ?_
    rw [none_x, idle] at some_x
    cases some_x
  have held : w.held = s.frames := c.held
  rw [nextFrame]
  cases hc : s.candidate with
  | some k =>
    refine ⟨(along_nil _ _).2 c.covered.safe,
      ⟨c.outputs, ?_, c.candidate k hc, c.visible, shown, c.flipping_none still⟩⟩
    change w.held = _
    rw [held, frames, posted, hc, idle]
    rfl
  | none =>
    obtain ⟨along, after⟩ := fetch_after s h w
    simp only [Drive.bind_run, Drive.pure_run, List.append_nil]
    refine ⟨fun past hp => ?_, ?_⟩
    · obtain ⟨more, same⟩ := along past hp
      exact c.covered.safe.of_le more same
    · cases hf : (s.fetch h).value with
      | error e =>
        rw [hf] at after
        exact after
      | ok got =>
        rw [hf] at after
        simp only [Except.map, after]
        refine ⟨c.outputs, ?_, by simp [act], c.visible, shown, c.flipping_none still⟩
        change Frame.composite got.1 ::ₘ w.held = _
        rw [held, frames, posted, hc, idle]
        rfl

theorem nextFrame_presents (h : σ) : ∀ a ∈ (s.nextFrame h).acts, ¬ a.Presents := by
  rw [nextFrame]
  cases s.candidate with
  | some k => exact List.forall_mem_nil _
  | none => simpa using fetch_presents s h

def schedule (s : Surface) (frame : Frame) : Surface := { s with candidate := none, scheduled := some frame }

variable {frame : Frame} {fb : Framebuffer}

theorem Ready.covered (r : Ready s w frame fb) : w.Covered := by
  intro k x h
  obtain ⟨v, hv⟩ := Option.isSome_iff_exists.1 r.visible
  refine ⟨v, by rw [r.held, hv]; simp, ?_⟩
  rcases h with h | h
  · rw [r.shown k x h, hv]
  · rw [r.flipping k] at h
    cases h

theorem Ready.lit (r : Ready s w frame fb) {k : Nat} (lit : w.Lit k) : w.shown k = some s.visible := by
  rcases lit with h | h
  · obtain ⟨x, hx⟩ := Option.ne_none_iff_exists'.1 h
    rw [hx, r.shown k x hx]
  · exact absurd (r.flipping k) h

theorem present_keeps (r : Ready s w frame fb) (h : σ) :
    Along Safe w (((s.schedule frame).present fb h).acts.map .act) ∧
      Consistent ((s.schedule frame).present fb h).value
        (w.after (((s.schedule frame).present fb h).acts.map .act)) := by
  obtain ⟨⟨m, p, t, value, pending⟩, asks, -⟩ := present_run (s.schedule frame) fb h
  obtain ⟨held, behind, fates⟩ := after_asks _ fb _ asks w
  refine ⟨along_asks _ fb _ asks w r.covered frame r.behind (by rw [r.held]; simp), ?_⟩
  rw [value]
  refine ⟨r.outputs, held.trans r.held, fun c hc => ?_, r.visible, fun k x hx => ?_, fun k x hx => ?_⟩
  · cases hc
  · have old : w.shown k = some x → x.isSome = true ∧ (x = s.visible ∨ x = some frame) := by
      intro hx
      rw [r.shown k x hx]
      exact ⟨r.visible, .inl rfl⟩
    have new : some (w.behind fb) = some x → x.isSome = true ∧ (x = s.visible ∨ x = some frame) := by
      intro hx
      rw [← Option.some.inj hx, r.behind]
      exact ⟨rfl, .inr rfl⟩
    cases fates k with
    | passed no same flipping => exact old (same.symm.trans hx)
    | brought took place shown flipping => exact new (shown.symm.trans hx)
    | awaited took place flipping shown flip =>
      exact shown.elim (fun e => old (e.symm.trans hx)) fun e => new (e.symm.trans hx)
  · cases fates k with
    | passed no same flipping => cases (r.flipping k).symm.trans (flipping.symm.trans hx)
    | brought took place shown flipping => cases flipping.symm.trans hx
    | awaited took place flipping shown flip =>
      obtain ⟨j, flip⟩ := flip
      have hx := flipping.symm.trans hx
      rw [r.behind] at hx
      cases hx
      exact ⟨rfl, rfl, pending j flip, place⟩

/-- No output lags behind a frame that all the lit ones took, and of distinct buffers only then. -/
theorem present_noLag (r : Ready s w frame fb) (h : σ) :
    ((∀ k, w.Lit k → Took k ((s.schedule frame).present fb h).acts) →
      NoLag ((s.schedule frame).present fb h).value
        (w.after (((s.schedule frame).present fb h).acts.map .act))) ∧
      (w.Distinct → NoLag ((s.schedule frame).present fb h).value
        (w.after (((s.schedule frame).present fb h).acts.map .act)) →
          ∀ k, w.Lit k → Took k ((s.schedule frame).present fb h).acts) := by
  obtain ⟨⟨m, p, t, value, pending⟩, asks, -⟩ := present_run (s.schedule frame) fb h
  obtain ⟨-, -, fates⟩ := after_asks _ fb _ asks w
  rw [value]
  constructor
  · intro all busy k x hx
    cases fates k with
    | passed no same flipping =>
      have lit : w.Lit k := .inl (by rw [← same, hx]; simp)
      exact absurd (all k lit) no
    | brought took place shown flipping =>
      exact .inl (Option.some.inj (hx.symm.trans (shown.trans (congrArg some r.behind))))
    | awaited took place flipping shown flip => exact .inr (flipping.trans (congrArg some r.behind))
  · intro distinct noLag k lit
    obtain ⟨v, hv⟩ := Option.isSome_iff_exists.1 r.visible
    rw [Distinct, r.held, hv] at distinct
    have apart : frame ≠ v := by simpa using distinct
    cases fates k with
    | passed no same flipping =>
      exfalso
      -- an output that was passed over still shows the frame that was visible before
      rcases noLag rfl k s.visible (same.trans (r.lit lit)) with e | e
      · exact apart (Option.some.inj (e.symm.trans hv))
      · cases (r.flipping k).symm.trans (flipping.symm.trans e)
    | brought took | awaited took => exact took

end Present

/-! ## Showing a frame -/

section Show
variable {s : Surface} {w : Watch} {frame : Frame} {fb : Framebuffer}

theorem refreshInterval_acts (s : Surface) (h : σ) : (s.refreshInterval h).acts = [] := by
  rw [refreshInterval]
  split <;> rfl

theorem showFrame_run (s : Surface) (frame : Frame) (fb : Framebuffer) (h : σ) (p : Driven σ Surface)
    (hp : (s.schedule frame).present fb h = p) :
    (p.value.waitsAtOnce frame = false ∧ ∃ t, (s.showFrame frame fb h).value = { p.value with timings := t } ∧
      (s.showFrame frame fb h).acts = p.acts) ∨
      p.value.waitsAtOnce frame = true ∧
        ∃ t, (s.showFrame frame fb h).value = { (p.value.settle p.state).value with timings := t } ∧
          (s.showFrame frame fb h).acts = p.acts ++ (p.value.settle p.state).acts := by
  rw [schedule] at hp
  simp only [showFrame, Drive.bind_run, hp]
  cases once : p.value.waitsAtOnce frame with
  | true =>
    right
    simp only [if_true, Drive.bind_run, Drive.pure_run, refreshInterval_acts, List.append_nil]
    exact ⟨trivial, _, rfl, trivial⟩
  | false =>
    left
    simp only [Bool.false_eq_true, if_false, Drive.bind_run, Drive.pure_run, refreshInterval_acts, List.append_nil]
    exact ⟨trivial, _, rfl, trivial⟩

theorem settle_scheduled (s : Surface) (h : σ) : (s.settle h).value.scheduled = none := by
  obtain ⟨⟨t, value⟩, -⟩ := s.settle_run h
  rw [value]

theorem showFrame_keeps (r : Ready s w frame fb) (h : σ)
    (follow : (s.showFrame frame fb h).value.scheduled = none →
      ∀ k, w.Lit k → Took k (s.showFrame frame fb h).acts) :
    Along Safe w ((s.showFrame frame fb h).acts.map .act) ∧
      Consistent (s.showFrame frame fb h).value (w.after ((s.showFrame frame fb h).acts.map .act)) ∧
      ((∀ k, w.Lit k → Took k (s.showFrame frame fb h).acts) →
        NoLag (s.showFrame frame fb h).value (w.after ((s.showFrame frame fb h).acts.map .act))) := by
  obtain ⟨along, presented⟩ := present_keeps r h
  have noLag := (present_noLag r h).1
  rcases showFrame_run s frame fb h _ rfl with ⟨-, t, value, acts⟩ | ⟨-, t, value, acts⟩
  · rw [value, acts]
    exact ⟨along, presented.withTimings t, noLag⟩
  · -- the frame is settled at once, so that no output may lag behind it
    rw [value, acts] at follow ⊢
    have idle := settle_scheduled ((s.schedule frame).present fb h).value ((s.schedule frame).present fb h).state
    have all : ∀ k, w.Lit k → Took k ((s.schedule frame).present fb h).acts := by
      intro k lit
      refine ((took_append k _ _).1 (follow idle k lit)).resolve_right ?_
      exact not_took_of_not_presents (settle_presents _ _) k
    obtain ⟨along', settled⟩ := settle_keeps presented (noLag all) ((s.schedule frame).present fb h).state
    rw [List.map_append, along_append, after_append]
    exact ⟨⟨along, along'⟩, settled.withTimings t, fun _ => NoLag.of_idle idle⟩

theorem showFrame_tells (r : Ready s w frame fb) (h : σ) (distinct : w.Distinct)
    (safe : Along Safe w ((s.showFrame frame fb h).acts.map .act))
    (up : (s.showFrame frame fb h).value.scheduled = none ∨
      NoLag (s.showFrame frame fb h).value (w.after ((s.showFrame frame fb h).acts.map .act))) :
    ∀ k, w.Lit k → Took k (s.showFrame frame fb h).acts := by
  obtain ⟨-, presented⟩ := present_keeps r h
  have took := (present_noLag r h).2 distinct
  obtain ⟨⟨m, p, t', presentValue, -⟩, asks, -⟩ := present_run (s.schedule frame) fb h
  rcases showFrame_run s frame fb h _ rfl with ⟨-, t, value, acts⟩ | ⟨-, t, value, acts⟩
  · rw [value, acts] at up
    rw [acts]
    refine took (up.resolve_left fun idle => ?_)
    rw [presentValue] at idle
    cases idle
  · rw [acts, List.map_append, along_append] at safe
    intro k lit
    rw [acts, took_append]
    refine .inl (took (settle_tells presented ?_ _ safe.2) k lit)
    rwa [Distinct, (after_asks _ fb _ asks w).1]

theorem showFrame_presents (r : Ready s w frame fb) (h : σ) : ∃ a ∈ (s.showFrame frame fb h).acts, a.Presents := by
  obtain ⟨-, asks, some_act⟩ := present_run (s.schedule frame) fb h
  obtain ⟨a, rest, hacts⟩ := some_act r.outputs
  have first : a ∈ ((s.schedule frame).present fb h).acts := by rw [hacts]; exact List.mem_cons_self
  refine ⟨a, ?_, ?_⟩
  · rcases showFrame_run s frame fb h _ rfl with ⟨-, t, -, acts⟩ | ⟨-, t, -, acts⟩
    · rw [acts]
      exact first
    · rw [acts]
      exact List.mem_append_left _ first
  · obtain ⟨k, -, ok, rfl | rfl⟩ := asks a first
    · trivial
    · trivial

end Show

/-! ## Posting -/

section Post
variable {s : Surface} {w : Watch}

/-- The acts of a post before it shows a frame. -/
def fetching (s : Surface) (h : σ) : List Act :=
  (s.settle h).acts ++ ((s.settle h).value.nextFrame (s.settle h).state).acts

theorem post_run (s : Surface) (h : σ) :
    (∃ e, ((s.settle h).value.nextFrame (s.settle h).state).value = .error e ∧
      (s.post h).value = (.error e, (s.settle h).value) ∧ (s.post h).acts = s.fetching h) ∨
      ∃ frame fb, ∃ h' : σ, ((s.settle h).value.nextFrame (s.settle h).state).value = .ok (frame, fb) ∧
        (s.post h).value = (.ok (), ((s.settle h).value.showFrame frame fb h').value) ∧
        (s.post h).acts = s.fetching h ++ ((s.settle h).value.showFrame frame fb h').acts := by
  simp only [post, Drive.bind_run, fetching]
  cases next : ((s.settle h).value.nextFrame (s.settle h).state).value with
  | error e =>
    left
    exact ⟨e, rfl, rfl, by simp⟩
  | ok got =>
    right
    exact ⟨got.1, got.2, ((s.settle h).value.nextFrame (s.settle h).state).state, rfl, rfl, by simp⟩

theorem fetching_presents (s : Surface) (h : σ) : ∀ a ∈ s.fetching h, ¬ a.Presents :=
  List.forall_mem_append.2 ⟨settle_presents s h, nextFrame_presents _⟩

theorem lit_fetching (s : Surface) (h : σ) (w : Watch) (k : Nat) :
    (w.after ((s.fetching h).map .act)).Lit k ↔ w.Lit k := by
  rw [lit_after, or_iff_left (not_took_of_not_presents (fetching_presents s h) k)]

theorem took_fetching (s : Surface) (h : σ) (acts : List Act) (k : Nat) :
    Took k (s.fetching h ++ acts) ↔ Took k acts := by
  rw [took_append, or_iff_right (not_took_of_not_presents (fetching_presents s h) k)]

theorem fetching_keeps (c : Consistent s w) (noLag : NoLag s w) (h : σ) :
    Along Safe w ((s.fetching h).map .act) ∧
      match ((s.settle h).value.nextFrame (s.settle h).state).value with
      | .ok (frame, fb) => Ready (s.settle h).value (w.after ((s.fetching h).map .act)) frame fb
      | .error _ => Consistent (s.settle h).value (w.after ((s.fetching h).map .act)) := by
  obtain ⟨along, settled⟩ := settle_keeps c noLag h
  have still : (s.settle h).value.flipsPending = false := by
    obtain ⟨⟨t, value⟩, -⟩ := s.settle_run h
    rw [value]
  obtain ⟨along', next⟩ := nextFrame_along settled (settle_scheduled s h) still (s.settle h).state
  rw [fetching, List.map_append, along_append, after_append]
  refine ⟨⟨along, along'⟩, ?_⟩
  cases got : ((s.settle h).value.nextFrame (s.settle h).state).value with
  | ok frame =>
    rw [got] at next
    exact next
  | error e =>
    rw [got] at next
    change Consistent _ _
    rw [next]
    exact settled

/-- A post keeps everything safe if no output lags behind, and if the lit outputs take its frame in case the post
settles it. -/
theorem post_keeps (c : Consistent s w) (noLag : NoLag s w) (h : σ)
    (follow : (∃ a ∈ (s.post h).acts, a.Presents) → (s.post h).value.2.scheduled = none →
      ∀ k, w.Lit k → Took k (s.post h).acts) :
    Along Safe w ((s.post h).acts.map .act) ∧
      Consistent (s.post h).value.2 (w.after ((s.post h).acts.map .act)) ∧
      (((∃ a ∈ (s.post h).acts, a.Presents) → ∀ k, w.Lit k → Took k (s.post h).acts) →
        NoLag (s.post h).value.2 (w.after ((s.post h).acts.map .act))) := by
  obtain ⟨along, next⟩ := fetching_keeps c noLag h
  rcases post_run s h with ⟨e, failed, value, acts⟩ | ⟨frame, fb, h', got, value, acts⟩
  · rw [failed] at next
    rw [value, acts]
    exact ⟨along, next, fun _ => NoLag.of_idle (settle_scheduled s h)⟩
  · rw [got] at next
    rw [value, acts] at follow ⊢
    obtain ⟨a, ha, presents⟩ := showFrame_presents next h'
    have presents : ∃ a ∈ s.fetching h ++ ((s.settle h).value.showFrame frame fb h').acts, a.Presents :=
      ⟨a, List.mem_append_right _ ha, presents⟩
    simp only [took_fetching, ← lit_fetching s h w] at follow ⊢
    obtain ⟨along', shown, noLag'⟩ := showFrame_keeps next h' (follow presents)
    rw [List.map_append, along_append, after_append]
    exact ⟨⟨along, along'⟩, shown, fun all => noLag' (all presents)⟩

/-- If all stays safe in a post, and no buffers are confused, no output was lagging behind, and the lit outputs took
the frame unless it is left scheduled and one of them lags behind. -/
theorem post_tells (c : Consistent s w) (h : σ) (distinct : Along Distinct w ((s.post h).acts.map .act))
    (safe : Along Safe w ((s.post h).acts.map .act)) :
    NoLag s w ∧ ((∃ a ∈ (s.post h).acts, a.Presents) →
      (s.post h).value.2.scheduled = none ∨
        NoLag (s.post h).value.2 (w.after ((s.post h).acts.map .act)) →
      ∀ k, w.Lit k → Took k (s.post h).acts) := by
  have noLag : NoLag s w := by
    refine settle_tells c distinct.first h ?_
    rcases post_run s h with ⟨e, -, -, acts⟩ | ⟨frame, fb, h', -, -, acts⟩
    · rw [acts, fetching, List.map_append, along_append] at safe
      exact safe.1
    · rw [acts, fetching, List.append_assoc, List.map_append, along_append] at safe
      exact safe.1
  refine ⟨noLag, fun presents up => ?_⟩
  obtain ⟨-, next⟩ := fetching_keeps c noLag h
  rcases post_run s h with ⟨e, failed, value, acts⟩ | ⟨frame, fb, h', got, value, acts⟩
  · obtain ⟨a, ha, presents⟩ := presents
    exact absurd presents (fetching_presents s h a (acts ▸ ha))
  · rw [got] at next
    rw [acts, List.map_append, along_append] at safe distinct
    rw [value, acts, List.map_append, after_append] at up
    rw [acts]
    simp only [took_fetching, ← lit_fetching s h w]
    exact showFrame_tells next h' distinct.2.first safe.2 up

end Post

end Surface

end Multihead.Scanout
