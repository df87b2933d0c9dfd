import Multihead.Proofs.Scanout.FailedPosts
import Multihead.Proofs.Scanout.Promise

/-! # Sleep
How long one may sleep is decided by the last post that succeeded: by the refresh rate of a single output at that time,
and by the budget for the kind of frame that was posted. Budgets are never changed, and nothing else counts. -/

set_option autoImplicit false

namespace Multihead

/-! ## Timings -/

namespace Timings

theorem budget_flipCompleted (t : Timings) (now : Duration) : (t.flipCompleted now).budget = t.budget := by
  obtain ⟨_, _, _, pending, _⟩ := t
  cases pending <;> rfl

theorem interval_eq_none_iff (rate : UInt32) : interval rate = none ↔ rate.toNat = 0 := by
  have zero : rate = 0 ↔ rate.toNat = 0 := UInt32.toNat_inj.symm
  rw [interval, ← zero]
  split <;> simp_all

theorem nanos_sleepAfter (t : Timings) (kind : FrameKind) {rate : UInt32} (known : 0 < rate.toNat) :
    ((t.sleepAfter kind (interval rate)).nanos : ℤ) =
      max 0 (((1000000000 / rate.toNat : ℕ) : ℤ) - ((t.budget kind).nanos : ℤ)) := by
  have nonzero : rate ≠ 0 := by
    rintro rfl
    exact absurd known (lt_irrefl 0)
  have value : (t.sleepAfter kind (interval rate)).nanos = 1000000000 / rate.toNat - (t.budget kind).nanos := by
    rw [interval, if_neg nonzero]
    rfl
  omega

end Timings

namespace Scanout

/-! ## Budgets and intervals -/

namespace Surface

variable {σ : Type} [Hardware σ]

theorem budget_settle (s : Surface) (h : σ) : (s.settle h).value.timings.budget = s.timings.budget := by
  rcases s.timings_settle h with same | ⟨now, completed⟩
  · rw [same]
  · rw [completed, Timings.budget_flipCompleted]

theorem budget_present (s : Surface) (fb : Framebuffer) (h : σ) :
    (s.present fb h).value.timings.budget = s.timings.budget := by
  rw [present]
  cases s.needsModeSet with
  | true => rfl
  | false =>
    simp only [Bool.false_eq_true, if_false, Drive.bind_run]
    cases (flips fb s.places h).value <;> rfl

theorem refreshInterval_run (s : Surface) (h : σ) :
    s.refreshInterval h = ⟨if s.outputs = 1 then Timings.interval (Hardware.refreshRate h 0) else none, h, []⟩ := by
  rw [refreshInterval]
  split <;> rfl

/-- What is left of the interval after a frame, if there is one output. -/
def sleepFor (s : Surface) (frame : Frame) (rate : UInt32) : Duration :=
  s.timings.sleepAfter frame.kind (if s.outputs = 1 then Timings.interval rate else none)

theorem sleepFor_of_unknown {s : Surface} {rate : UInt32} (none_known : s.outputs ≠ 1 ∨ rate.toNat = 0) (frame : Frame) :
    s.sleepFor frame rate = Duration.zero := by
  rw [← Timings.interval_eq_none_iff] at none_known
  rw [sleepFor]
  split
  · next single =>
    rw [none_known.resolve_left (not_not_intro single)]
    rfl
  · rfl

theorem sleepFor_congr {s u : Surface} (budget : u.timings.budget = s.timings.budget) (outputs : u.outputs = s.outputs) :
    u.sleepFor = s.sleepFor := by
  have sleepAfter : u.timings.sleepAfter = s.timings.sleepAfter := by
    funext kind refresh
    cases refresh with
    | none => rfl
    | some refresh => rw [Timings.sleepAfter, Timings.sleepAfter, budget]
  funext frame rate
  rw [sleepFor, sleepFor, sleepAfter, outputs]

/-- The rate is the last thing that is read. -/
theorem showFrame_sleeps (s : Surface) (frame : Frame) (fb : Framebuffer) (h : σ) :
    let shown := s.showFrame frame fb h
    shown.value.timings.budget = s.timings.budget ∧
      shown.value.recommendedSleep = s.sleepFor frame (Hardware.refreshRate shown.state 0) := by
  obtain ⟨p, hp⟩ : ∃ p, (s.schedule frame).present fb h = p := ⟨_, rfl⟩
  have budget : p.value.timings.budget = s.timings.budget := hp ▸ (s.schedule frame).budget_present fb h
  have outputs : p.value.outputs = s.outputs := by
    obtain ⟨⟨_, _, _, value, -⟩, -⟩ := (s.schedule frame).present_run fb h
    rw [← hp, value]
    rfl
  rw [schedule] at hp
  simp only [showFrame, Drive.bind_run, hp]
  cases p.value.waitsAtOnce frame with
  | true =>
    have budget' := (p.value.budget_settle p.state).trans budget
    have outputs' := (p.value.onlyWaited_settle p.state).outputs.trans outputs
    simp only [if_true, Drive.bind_run, refreshInterval_run, Drive.pure_run]
    exact ⟨budget', congrFun₂ (sleepFor_congr budget' outputs') frame _⟩
  | false =>
    simp only [Bool.false_eq_true, if_false, Drive.bind_run, refreshInterval_run, Drive.pure_run]
    exact ⟨budget, congrFun₂ (sleepFor_congr budget outputs) frame _⟩

theorem showFrame_newest (s : Surface) (frame : Frame) (fb : Framebuffer) (h : σ) :
    (s.showFrame frame fb h).value.newest = some frame := by
  obtain ⟨taken, acts, t, -, ⟨-, value, -⟩ | ⟨-, value, -⟩⟩ := s.showFrame_presented frame fb h <;>
    rw [value] <;>
    rfl

theorem post_sleeps (s : Surface) (h : σ) :
    let p := s.post h
    p.value.2.timings.budget = s.timings.budget ∧
      (p.value.1 = .ok () → ∃ frame, p.value.2.newest = some frame ∧
        p.value.2.recommendedSleep = s.sleepFor frame (Hardware.refreshRate p.state 0)) := by
  obtain ⟨u, settled⟩ : ∃ u, u = s.settle h := ⟨_, rfl⟩
  have budget : u.value.timings.budget = s.timings.budget := settled ▸ s.budget_settle h
  have outputs : u.value.outputs = s.outputs := settled ▸ (s.onlyWaited_settle h).outputs
  simp only [post, Drive.bind_run, ← settled]
  cases (u.value.nextFrame u.state).value with
  | error e => exact ⟨budget, fun done => by cases done⟩
  | ok got =>
    obtain ⟨budget', sleep⟩ := u.value.showFrame_sleeps got.1 got.2 (u.value.nextFrame u.state).state
    have newest := u.value.showFrame_newest got.1 got.2 (u.value.nextFrame u.state).state
    refine ⟨budget'.trans budget, fun _ => ⟨got.1, newest, ?_⟩⟩
    rw [sleepFor_congr budget outputs] at sleep
    exact sleep

end Surface

/-! ## Steps -/

namespace Step

variable {σ : Type} [Hardware σ]

def Succeeds (t : Step σ) : Prop := t.request = .post ∧ (t.before.post t.hardware).value.1 = .ok ()

theorem budget_after (t : Step σ) : t.after.timings.budget = t.before.timings.budget := by
  by_cases post : t.request = .post
  · rw [after_of_post post]
    exact (t.before.post_sleeps t.hardware).1
  · obtain ⟨_, _, _, _, value, -⟩ := t.before.perform_of_aside t.hardware post
    rw [after, value]

theorem sleep_of_success {t : Step σ} (done : t.Succeeds) :
    ∃ frame, t.posted = some frame ∧
      t.after.recommendedSleep = t.before.sleepFor frame (Hardware.refreshRate t.left 0) := by
  obtain ⟨post, answer⟩ := done
  obtain ⟨frame, newest, sleep⟩ := (t.before.post_sleeps t.hardware).2 answer
  have state : t.left = (t.before.post t.hardware).state := by
    rw [left, post, Surface.perform, Drive.map_run]
  refine ⟨frame, ?_, ?_⟩
  · rw [posted_of_post post, answer, after_of_post post]
    exact newest
  · rw [after_of_post post, state]
    exact sleep

theorem sleep_without_success {t : Step σ} (not_done : ¬ t.Succeeds) :
    t.after.recommendedSleep = t.before.recommendedSleep := by
  by_cases post : t.request = .post
  · rw [after_of_post post]
    cases answer : (t.before.post t.hardware).value.1 with
    | ok => exact absurd ⟨post, answer⟩ not_done
    | error e => exact (Surface.post_failed answer).1.sleep
  · obtain ⟨_, _, _, _, value, -⟩ := t.before.perform_of_aside t.hardware post
    rw [after, value]
    rfl

end Step

/-! ## Runs -/

namespace Surface

variable {σ : Type} [Hardware σ]

theorem sleep_serve {s : Surface} {h : σ} {rs : List Request} (none_done : ∀ t ∈ s.steps h rs, ¬ t.Succeeds) :
    (s.serve rs h).value.recommendedSleep = s.recommendedSleep := by
  induction rs generalizing s h with
  | nil => rfl
  | cons r rs ih =>
    obtain ⟨first, later⟩ := List.forall_mem_cons.1 none_done
    exact (ih later).trans (Step.sleep_without_success first)

theorem budget_along (s : Surface) (h : σ) (rs : List Request) :
    ∀ t ∈ s.steps h rs, t.before.timings.budget = s.timings.budget := by
  refine (kept_along (fun u => u.timings.budget = s.timings.budget) ?_ s h rs rfl).1
  intro u h' r same
  exact (Step.budget_after ⟨u, h', r⟩).trans same

/-- One does not sleep before a post has succeeded. From then on the last post that succeeded decides: if there is one
output, and its rate was known at that post, one sleeps for the refresh interval less the budget for the frame that was
posted, and not at all if nothing is left of it or no rate was known. All else leaves this as it is. Nothing is ever divided
by a rate of zero: there is an interval just at the other rates. -/
theorem last_success_decides_sleep (settings : Settings) (outputs : Nat) (area : Rect) (transform : Transform) (h : σ)
    (s : Surface) (created : (create settings outputs area transform h).value = .ok s) (rs : List Request) :
    let opening := create settings outputs area transform h
    let ts := s.steps opening.state rs
    let sleep := (s.serve rs opening.state).value.recommendedSleep
    ((∀ t ∈ ts, ¬ t.Succeeds) → sleep.nanos = 0) ∧
      (∀ (past since : List (Step σ)) (t : Step σ), ts = past ++ t :: since → t.Succeeds →
        (∀ u ∈ since, ¬ u.Succeeds) →
        let rate := (Hardware.refreshRate t.left 0).toNat
        let budget := (if t.posted.any Frame.isClient then settings.bypassBudget else settings.compositeBudget).toNat
        (outputs = 1 → 0 < rate →
            (sleep.nanos : ℤ) = max 0 (((1000000000 / rate : ℕ) : ℤ) - ((budget * 1000000 : ℕ) : ℤ))) ∧
          (outputs ≠ 1 ∨ rate = 0 → sleep.nanos = 0)) ∧
      (∀ t ∈ ts, ¬ t.Succeeds → t.after.recommendedSleep = t.before.recommendedSleep) ∧
      ∀ rate : UInt32, Timings.interval rate = none ↔ rate.toNat = 0 := by
  intro opening ts sleep
  obtain ⟨p, b, fb, -, made, -⟩ := create_opened settings outputs area transform h s created
  refine ⟨?none_done, ?decided, fun t _ => Step.sleep_without_success, Timings.interval_eq_none_iff⟩
  case none_done =>
    intro none_done
    have unchanged : sleep = s.recommendedSleep := sleep_serve none_done
    rw [unchanged, made]
    rfl
  case decided =>
    intro past since t split done none_since rate budget
    have ht : t ∈ ts := by simp [split]
    obtain ⟨rest, rfl, served⟩ := serve_after split
    obtain ⟨frame, posted, decided⟩ := Step.sleep_of_success done
    have last : sleep = t.before.sleepFor frame (Hardware.refreshRate t.left 0) := by
      refine Eq.trans ?_ ((sleep_serve none_since).trans decided)
      exact congrArg recommendedSleep served
    have size : t.before.outputs = outputs := by
      rw [((s.made_along opening.state rs).1 t ht).1, made]
    have own : (t.before.timings.budget frame.kind).nanos = budget * 1000000 := by
      rw [s.budget_along opening.state rs t ht, made]
      change _ = (if t.posted.any Frame.isClient then settings.bypassBudget else settings.compositeBudget).toNat * 1000000
      rw [posted]
      cases frame <;> rfl
    rw [last]
    refine ⟨fun single known => ?_, fun none_known => ?_⟩
    · rw [sleepFor, if_pos (size.trans single), Timings.nanos_sleepAfter _ _ known, own]
    · rw [← size] at none_known
      rw [sleepFor_of_unknown none_known]
      rfl

def oneHead : Rig := { twoHeads true with heads := [⟨1, 0, 50, [], true, true, true, true, 0, 0⟩] }

def oneHeadSurface : Surface := { twoHeadsSurface with outputs := 1 }

/-- A client's frame leaves fifteen of twenty milliseconds. -/
theorem oneHead_sleeps : (create {} 1 twoHeadsView .normal oneHead).value = .ok oneHeadSurface ∧
    ∃ offer post modeSet : Step Rig,
      oneHeadSurface.steps (create {} 1 twoHeadsView .normal oneHead).state
        [.overlay [fullScreen], .post, .scheduleModeSet] = [offer, post, modeSet] ∧
      post.Succeeds ∧ ¬ modeSet.Succeeds ∧ (Hardware.refreshRate post.left 0).toNat = 50 ∧
      post.posted = some (.bypass fullScreen.buffer) ∧
      (oneHeadSurface.serve [.overlay [fullScreen], .post, .scheduleModeSet]
        (create {} 1 twoHeadsView .normal oneHead).state).value.recommendedSleep.nanos = 15000000 := by
  refine ⟨rfl, ?_⟩
  let ts := oneHeadSurface.steps (create {} 1 twoHeadsView .normal oneHead).state
    [.overlay [fullScreen], .post, .scheduleModeSet]
  have split : ts = [ts[0]] ++ ts[1] :: [ts[2]] := rfl
  have done : ts[1].Succeeds := ⟨rfl, by decide +kernel⟩
  have not_done : ¬ ts[2].Succeeds := by
    rintro ⟨post, -⟩
    cases post
  have rate : (Hardware.refreshRate ts[1].left 0).toNat = 50 := by decide +kernel
  have posted : ts[1].posted = some (.bypass fullScreen.buffer) := by decide +kernel
  obtain ⟨-, decided, -⟩ := last_success_decides_sleep {} 1 twoHeadsView .normal oneHead oneHeadSurface rfl
    [.overlay [fullScreen], .post, .scheduleModeSet]
  have sleep := (decided _ _ _ split done (List.forall_mem_singleton.2 not_done)).1 rfl (by rw [rate]; decide)
  rw [rate, posted] at sleep
  have left : max 0 (((1000000000 / 50 : ℕ) : ℤ) - ((5 * 1000000 : ℕ) : ℤ)) = 15000000 := by decide
  exact ⟨ts[0], ts[1], ts[2], rfl, done, not_done, rate, posted, Int.ofNat_inj.1 (sleep.trans left)⟩

end Surface

end Scanout

end Multihead
