import Multihead.Proofs.Scanout.Lockstep
import Multihead.Proofs.Scanout.Waiting

/-! # Flips and mode-sets
How a post brings its frame up. Every output is asked to flip, and if all refuse, the mode of every output is set; or, if
a mode-set is due, modes are set and no output is asked to flip. A mode-set is due from the moment it is asked for until
a post succeeds, and for no other reason: one that an output refused is not tried again. -/

set_option autoImplicit false

namespace Multihead.Scanout

/-! ## What outputs are asked -/

def Act.isAsk : Act → Bool
  | setCrtc _ _ _ | flip _ _ _ => true
  | _ => false

/-- What outputs are asked to show, and what they answer. -/
def asked (acts : List Act) : List Act := acts.filter Act.isAsk

theorem Act.isAsk_iff (a : Act) : a.isAsk = true ↔ a.Presents := by
  cases a <;> simp [isAsk, Presents]

theorem asked_append (acts more : List Act) : asked (acts ++ more) = asked acts ++ asked more := List.filter_append ..

theorem asked_eq_nil {acts : List Act} (none : ∀ a ∈ acts, ¬ a.Presents) : asked acts = [] := by
  rw [asked, List.filter_eq_nil_iff]
  exact fun a ha => mt a.isAsk_iff.1 (none a ha)

theorem mem_asked {acts : List Act} {a : Act} (ha : a ∈ acts) (presents : a.Presents) : a ∈ asked acts :=
  List.mem_filter.2 ⟨ha, a.isAsk_iff.2 presents⟩

section Presented
variable {n : Nat} {fb : Framebuffer} {due taken : Bool} {acts : List Act}

theorem Presented.asked (presented : Presented n fb due taken acts) : asked acts = acts := by
  rw [Scanout.asked, List.filter_eq_self]
  intro a ha
  obtain ⟨k, -, ok, rfl | rfl⟩ := presented.asks a ha <;> rfl

theorem Presented.head (presented : Presented n fb due taken acts) (pos : 0 < n) :
    ∃ ok rest, acts = (if due then .setCrtc 0 fb ok else .flip 0 fb ok) :: rest := by
  obtain ⟨ks, first⟩ := range_eq_cons pos
  cases presented with
  | modeSet ok | flipped ok => exact ⟨ok 0, _, by rw [first]; rfl⟩
  | fellBack ok => exact ⟨false, _, by rw [first]; rfl⟩

/-- What was asked tells in which way the frame was brought up. -/
theorem Presented.unique (presented : Presented n fb due taken acts) (pos : 0 < n) {fb' : Framebuffer}
    {due' taken' : Bool} (other : Presented n fb' due' taken' acts) : fb' = fb ∧ due' = due ∧ taken' = taken := by
  obtain ⟨ok, rest, acts_eq⟩ := presented.head pos
  obtain ⟨ok', rest', acts_eq'⟩ := other.head pos
  have first := (List.cons.inj (acts_eq'.symm.trans acts_eq)).1
  have same : fb' = fb ∧ due' = due := by
    cases due <;> cases due' <;> simp_all
  exact ⟨same.1, same.2, (other.work pos).flips.symm.trans (presented.work pos).flips⟩

theorem Presented.modeSets_iff (presented : Presented n fb due taken acts) (pos : 0 < n) :
    (∃ (fb' : Framebuffer) (ok : Nat → Bool), acts = (List.range n).map fun k => .setCrtc k fb' (ok k)) ↔ due = true := by
  constructor
  · rintro ⟨fb', ok, rfl⟩
    exact (presented.unique pos (.modeSet ok)).2.1.symm
  · rintro rfl
    cases presented with
    | modeSet ok => exact ⟨fb, ok, rfl⟩

theorem Presented.flips_first (presented : Presented n fb false taken acts) :
    ∃ ok : Nat → Bool, (List.range n).map (fun k => .flip k fb (ok k)) <+: acts := by
  cases presented with
  | flipped ok => exact ⟨ok, List.prefix_rfl⟩
  | fellBack ok => exact ⟨fun _ => false, List.prefix_append ..⟩

end Presented

theorem BroughtUp.presented {s : Surface} {frame : Frame} {fb : Framebuffer} {acts : List Act}
    (up : BroughtUp s frame fb acts) : ∃ taken, Presented s.outputs fb s.needsModeSet taken (asked acts) := by
  obtain ⟨sourced, presented, closes⟩ := up
  next source shown closing taken =>
  have only : asked (s.settling ++ (source ++ (shown ++ closing))) = shown := by
    rw [← List.append_assoc, asked_append (s.settling ++ source), asked_append shown, asked_eq_nil sourced.opening,
      presented.asked, asked_eq_nil (closing_idle closes), List.append_nil, List.nil_append]
  rw [only]
  exact ⟨taken, presented⟩

/-! ## What a post asks -/

section Posted
variable {s u : Surface} {r : Except PresentError Unit} {acts : List Act}

theorem Posted.presented (posted : Posted s r u acts) (done : r = .ok ()) :
    ∃ frame fb taken, u.brought r = some frame ∧ Presented s.outputs fb s.needsModeSet taken (asked acts) := by
  subst done
  obtain ⟨frame, brought⟩ : ∃ frame, u.brought (.ok ()) = some frame := by
    cases posted <;> exact ⟨_, rfl⟩
  obtain ⟨fb, up⟩ := posted.broughtUp brought
  obtain ⟨taken, presented⟩ := up.presented
  exact ⟨frame, fb, taken, brought, presented⟩

theorem Posted.asked_of_error {e : PresentError} (posted : Posted s (.error e) u acts) : asked acts = [] := by
  cases posted with
  | failed e t none_kept fetched =>
    refine asked_eq_nil (List.forall_mem_append.2 ⟨s.forall_settling (fun _ => id) Frame.released_presents, ?_⟩)
    exact fetched.forall_acts (fun _ => id) (fun _ _ => id) (fun _ _ => id) Frame.released_presents

theorem Posted.needsModeSet (posted : Posted s r u acts) :
    u.needsModeSet = true ↔ s.needsModeSet = true ∧ u.brought r = none := by
  cases posted with
  | failed => exact (and_iff_left rfl).symm
  | scheduled => simp [Surface.raised, Surface.paced, Surface.brought, Surface.newest, Surface.schedule]
  | settled => simp [Surface.raised, Surface.paced, Surface.brought, Surface.newest, Surface.schedule, Surface.settled]

end Posted

/-! ## When a mode-set is due -/

namespace Step

variable {σ : Type} [Hardware σ] {t : Step σ}

theorem posted_eq_none_iff (post : t.request = .post) :
    t.posted = none ↔ ∃ e, (t.before.post t.hardware).value.1 = .error e := by
  have outcome := outcome post
  rw [posted_of_post post]
  cases answer : (t.before.post t.hardware).value.1 with
  | error e => simp [Surface.brought]
  | ok =>
    obtain ⟨frame, -, -, brought, -⟩ := outcome.presented answer
    rw [answer] at brought
    simp [brought]

theorem not_presents_of_aside {a : Act} (aside : a.Aside) : ¬ a.Presents := by
  cases a <;> first | exact id | cases aside

/-- An output is only asked to set its mode by a post that succeeds. -/
theorem posted_of_setCrtc {k : Nat} {fb : Framebuffer} {ok : Bool} (set : .setCrtc k fb ok ∈ t.acts) :
    t.posted ≠ none := by
  intro none
  by_cases post : t.request = .post
  · obtain ⟨e, failed⟩ := (posted_eq_none_iff post).1 none
    have outcome := outcome post
    rw [failed] at outcome
    have none_asked := mem_asked set trivial
    rw [outcome.asked_of_error] at none_asked
    cases none_asked
  · exact absurd trivial (not_presents_of_aside ((aside post).acts _ set))

theorem needsModeSet_after (t : Step σ) : t.after.needsModeSet = true ↔
    t.request = .scheduleModeSet ∨ t.before.needsModeSet = true ∧ t.posted = none := by
  by_cases post : t.request = .post
  · rw [(outcome post).needsModeSet, posted_of_post post, post]
    simp
  · obtain ⟨candidate, transform, area, due, value, due_iff⟩ := t.before.perform_of_aside t.hardware post
    rw [after, value, posted_of_aside post, due_iff]
    simp

end Step

/-- A mode-set was asked for, and no post has succeeded since. -/
def ModeSetDue {σ : Type} [Hardware σ] (ts : List (Step σ)) : Prop :=
  ∃ past t since, ts = past ++ t :: since ∧ t.request = .scheduleModeSet ∧ ∀ u ∈ since, u.posted = none

section Due
variable {σ : Type} [Hardware σ]

theorem modeSetDue_cons (t : Step σ) (ts : List (Step σ)) :
    ModeSetDue (t :: ts) ↔ ModeSetDue ts ∨ t.request = .scheduleModeSet ∧ ∀ u ∈ ts, u.posted = none := by
  constructor
  · rintro ⟨past, u, since, split, asks, quiet⟩
    cases past with
    | nil =>
      obtain ⟨rfl, rfl⟩ := List.cons.inj split
      exact .inr ⟨asks, quiet⟩
    | cons v past =>
      obtain ⟨rfl, rfl⟩ := List.cons.inj split
      exact .inl ⟨past, u, since, rfl, asks, quiet⟩
  · rintro (⟨past, u, since, rfl, asks, quiet⟩ | ⟨asks, quiet⟩)
    · exact ⟨t :: past, u, since, rfl, asks, quiet⟩
    · exact ⟨[], t, ts, rfl, asks, quiet⟩

/-- While no post succeeds, a mode-set is due as soon as it was asked for. -/
theorem modeSetDue_of_quiet {ts : List (Step σ)} (quiet : ∀ u ∈ ts, u.posted = none) :
    ModeSetDue ts ↔ ∃ t ∈ ts, t.request = .scheduleModeSet := by
  constructor
  · rintro ⟨past, t, since, rfl, asks, -⟩
    exact ⟨t, by simp, asks⟩
  · rintro ⟨t, ht, asks⟩
    obtain ⟨past, since, rfl⟩ := List.append_of_mem ht
    exact ⟨past, t, since, rfl, asks, fun u hu => quiet u (by simp [hu])⟩

theorem Surface.needsModeSet_serve (s : Surface) (h : σ) (rs : List Request) :
    (s.serve rs h).value.needsModeSet = true ↔
      ModeSetDue (s.steps h rs) ∨ s.needsModeSet = true ∧ ∀ u ∈ s.steps h rs, u.posted = none := by
  induction rs generalizing s h with
  | nil => simp [serve, steps, ModeSetDue]
  | cons r rs ih =>
    let t : Step σ := ⟨s, h, r⟩
    have later := ih (s.perform r h).value (s.perform r h).state
    have now : (s.perform r h).value.needsModeSet = true ↔ _ := t.needsModeSet_after
    change ((s.perform r h).value.serve rs (s.perform r h).state).value.needsModeSet = true ↔ _
    rw [later, now, steps, modeSetDue_cons, List.forall_mem_cons, or_and_right, and_assoc, or_assoc]

end Due

/-! ## Runs -/

theorem Step.presented {σ : Type} [Hardware σ] {t : Step σ} (done : t.posted ≠ none) :
    ∃ fb taken, Presented t.before.outputs fb t.before.needsModeSet taken (asked t.acts) := by
  obtain ⟨frame, posted⟩ := Option.ne_none_iff_exists'.1 done
  obtain ⟨fb, up⟩ := Step.broughtUp posted
  exact ⟨fb, up.presented⟩

namespace Surface

variable {σ : Type} [Hardware σ] (settings : Settings) (outputs : Nat) (area : Rect) (transform : Transform) (h : σ)
  (s : Surface) (created : (create settings outputs area transform h).value = .ok s) (rs : List Request)

include created in
theorem created_outputs : 0 < outputs ∧ s.needsModeSet = false ∧
    ∀ t ∈ s.steps (create settings outputs area transform h).state rs, t.before.outputs = outputs := by
  obtain ⟨p, b, fb, pos, made, -⟩ := create_opened settings outputs area transform h s created
  refine ⟨pos, by rw [made], fun t ht => ?_⟩
  rw [((s.made_along _ rs).1 t ht).1, made]

include created in
/-- A post that succeeds presents its frame in one way, by a mode-set only if one is due. A post that fails asks
nothing of the outputs, and what is due remains due. -/
theorem presented_in_one_way (past later : List (Step σ)) (t : Step σ)
    (split : s.steps (create settings outputs area transform h).state rs = past ++ t :: later)
    (post : t.request = .post) :
    ((t.before.post t.hardware).value.1 = .ok () →
      ∃ fb due taken, Presented outputs fb due taken (asked t.acts) ∧
        (∀ fb' due' taken', Presented outputs fb' due' taken' (asked t.acts) →
          fb' = fb ∧ due' = due ∧ taken' = taken) ∧
        (due = true ↔ ModeSetDue past)) ∧
    ∀ e, (t.before.post t.hardware).value.1 = .error e →
      asked t.acts = [] ∧ t.after.needsModeSet = t.before.needsModeSet ∧
        (t.after.needsModeSet = true ↔ ModeSetDue past) := by
  obtain ⟨pos, no_request, same⟩ := created_outputs settings outputs area transform h s created rs
  have made := same t (by simp [split])
  -- the flag says at each step whether a mode-set is due
  have due : t.before.needsModeSet = true ↔ ModeSetDue past := by
    obtain ⟨rs₁, -, during, before, -⟩ := steps_eq_append_cons split
    rw [before, during, needsModeSet_serve, no_request]
    simp
  have outcome := Step.outcome post
  constructor
  · intro answer
    obtain ⟨-, fb, taken, -, presented⟩ := outcome.presented answer
    rw [made] at presented
    exact ⟨fb, _, taken, presented, fun _ _ _ other => presented.unique pos other, due⟩
  · intro e answer
    rw [answer] at outcome
    have kept : t.after.needsModeSet = t.before.needsModeSet := by
      rw [Bool.eq_iff_iff, outcome.needsModeSet]
      exact and_iff_left rfl
    exact ⟨outcome.asked_of_error, kept, kept ▸ due⟩

/-- Between two frames a mode-set is asked for. -/
theorem twoHeads_presented_in_one_way : (create {} 2 twoHeadsView .normal (twoHeads true)).value = .ok twoHeadsSurface ∧
    ∃ past t later, twoHeadsSurface.steps (create {} 2 twoHeadsView .normal (twoHeads true)).state
        [.swapBuffers, .post, .scheduleModeSet, .swapBuffers, .post] = past ++ t :: later ∧
      t.request = .post ∧ ModeSetDue past ∧ ∃ fb taken, Presented 2 fb true taken (asked t.acts) := by
  refine ⟨rfl, ?_⟩
  let ts := twoHeadsSurface.steps (create {} 2 twoHeadsView .normal (twoHeads true)).state
    [.swapBuffers, .post, .scheduleModeSet, .swapBuffers, .post]
  have split : ts = [ts[0], ts[1], ts[2], ts[3]] ++ ts[4] :: [] := rfl
  have since : ∀ u ∈ [ts[3]], u.posted = none := by decide +kernel
  have due : ModeSetDue [ts[0], ts[1], ts[2], ts[3]] := ⟨[ts[0], ts[1]], ts[2], [ts[3]], rfl, rfl, since⟩
  have answer : (ts[4].before.post ts[4].hardware).value.1 = .ok () := by decide +kernel
  have one_way := presented_in_one_way {} 2 twoHeadsView .normal (twoHeads true) twoHeadsSurface rfl _ _ _ _ split rfl
  obtain ⟨fb, _, taken, presented, -, due_iff⟩ := one_way.1 answer
  rw [due_iff.2 due] at presented
  exact ⟨_, _, _, split, rfl, due, fb, taken, presented⟩

include created in
/-- After a post in which an output refused its mode, the next one that succeeds sets modes if this was asked for in
between, and makes the outputs flip otherwise. -/
theorem modeSet_after_refusal_iff_asked (past between later : List (Step σ)) (t u : Step σ)
    (split : s.steps (create settings outputs area transform h).state rs = past ++ t :: (between ++ u :: later))
    (k : Nat) (fb : Framebuffer) (refused : .setCrtc k fb false ∈ t.acts) (quiet : ∀ v ∈ between, v.posted = none)
    (done : u.posted ≠ none) :
    ((∃ (fb' : Framebuffer) (ok : Nat → Bool),
        asked u.acts = (List.range outputs).map fun j => .setCrtc j fb' (ok j)) ↔
      ∃ v ∈ between, v.request = .scheduleModeSet) ∧
    ((∀ v ∈ between, v.request ≠ .scheduleModeSet) → ∃ (fb' : Framebuffer) (ok : Nat → Bool),
        (List.range outputs).map (fun j => .flip j fb' (ok j)) <+: asked u.acts) := by
  obtain ⟨pos, -, same⟩ := created_outputs settings outputs area transform h s created rs
  have made := same u (by simp [split])
  -- the post with the refusal has put its request away
  have put_away : ¬ t.after.needsModeSet = true := by
    have posted := Step.posted_of_setCrtc refused
    obtain ⟨frame, posted'⟩ := Option.ne_none_iff_exists'.1 posted
    rw [t.needsModeSet_after, Step.isPost_of_posted posted']
    simp [posted]
  have due : u.before.needsModeSet = true ↔ ∃ v ∈ between, v.request = .scheduleModeSet := by
    obtain ⟨-, rs₂, -, -, after_t⟩ := steps_eq_append_cons split
    obtain ⟨rs₃, -, during, before, -⟩ := steps_eq_append_cons after_t.symm
    rw [before, needsModeSet_serve, ← during, modeSetDue_of_quiet quiet, or_iff_left fun old => put_away old.1]
  obtain ⟨fb', taken, presented⟩ := Step.presented done
  rw [made] at presented
  refine ⟨(presented.modeSets_iff pos).trans due, fun none_asked => ?_⟩
  have not_due : u.before.needsModeSet = false := by
    rw [Bool.eq_false_iff, ne_eq, due]
    rintro ⟨v, hv, asks⟩
    exact none_asked v hv asks
  rw [not_due] at presented
  exact ⟨fb', presented.flips_first⟩

/-- Two outputs of which the second takes every flip, but no mode. -/
def modeless : Rig :=
  { twoHeads true with
    heads := [⟨1, 0, 60, [], true, true, true, true, 0, 0⟩, ⟨2, 0, 60, [], true, false, true, true, 0, 0⟩] }

/-- With a mode-set in the first post, and one in the second if it is asked for anew. -/
def refusedOnce (again : List Request) : List Request :=
  [.scheduleModeSet, .swapBuffers, .post] ++ (again ++ [.swapBuffers, .post])

theorem modeless_asked_again : ∃ s, (create {} 2 twoHeadsView .normal modeless).value = .ok s ∧
    ∃ past t between u, s.steps (create {} 2 twoHeadsView .normal modeless).state (refusedOnce [.scheduleModeSet]) =
        past ++ t :: (between ++ u :: []) ∧
      .setCrtc 1 ⟨2⟩ false ∈ t.acts ∧ (∀ v ∈ between, v.posted = none) ∧ u.posted ≠ none ∧
      ∃ (fb : Framebuffer) (ok : Nat → Bool), asked u.acts = (List.range 2).map fun k => .setCrtc k fb (ok k) := by
  refine ⟨twoHeadsSurface, rfl, ?_⟩
  let ts := twoHeadsSurface.steps (create {} 2 twoHeadsView .normal modeless).state (refusedOnce [.scheduleModeSet])
  have split : ts = [ts[0], ts[1]] ++ ts[2] :: ([ts[3], ts[4]] ++ ts[5] :: []) := rfl
  have refused : .setCrtc 1 ⟨2⟩ false ∈ ts[2].acts := by decide +kernel
  have quiet : ∀ v ∈ [ts[3], ts[4]], v.posted = none := by decide +kernel
  have done : ts[5].posted ≠ none := by decide +kernel
  have asks := modeSet_after_refusal_iff_asked {} 2 twoHeadsView .normal modeless twoHeadsSurface rfl _ _ _ _ _ _ split
    1 ⟨2⟩ refused quiet done
  exact ⟨_, _, _, _, split, refused, quiet, done, asks.1.2 ⟨ts[3], List.mem_cons_self, rfl⟩⟩

/-- The second output refuses its mode, and the next frame is flipped to all the same. -/
theorem modeless_not_asked_again : ∃ s, (create {} 2 twoHeadsView .normal modeless).value = .ok s ∧
    ∃ past t between u, s.steps (create {} 2 twoHeadsView .normal modeless).state (refusedOnce []) =
        past ++ t :: (between ++ u :: []) ∧
      .setCrtc 1 ⟨2⟩ false ∈ t.acts ∧ (∀ v ∈ between, v.posted = none) ∧ u.posted ≠ none ∧
      asked u.acts = [.flip 0 ⟨3⟩ true, .flip 1 ⟨3⟩ true] := by
  refine ⟨twoHeadsSurface, rfl, ?_⟩
  let ts := twoHeadsSurface.steps (create {} 2 twoHeadsView .normal modeless).state (refusedOnce [])
  refine ⟨[ts[0], ts[1]], ts[2], [ts[3]], ts[4], rfl, ?_⟩
  decide +kernel

end Surface

end Multihead.Scanout
