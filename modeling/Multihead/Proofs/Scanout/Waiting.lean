import Mathlib.Data.List.DropRight
import Multihead.Proofs.Scanout.Lifetime
import Multihead.Proofs.Scanout.Outcome

/-! # Waiting for flips
When an output has accepted a flip, every output of the group is waited for once: in the same post if there is one
output or the frame is a client's, and at the start of the next post otherwise, before that post does any work. Nothing
else is ever waited for. -/

set_option autoImplicit false

namespace Multihead.Scanout

/-! ## Acts -/

namespace Act

def isWait : Act → Bool
  | wait _ => true
  | _ => false

def isFlip : Act → Bool
  | flip _ _ _ => true
  | _ => false

def takesFlip : Act → Bool
  | flip _ _ ok => ok
  | _ => false

/-- A front buffer is locked, a framebuffer is looked up, or an output is asked to show one. -/
def isWork : Act → Bool
  | lock _ | framebuffer _ _ _ | flip _ _ _ | setCrtc _ _ _ => true
  | _ => false

theorem not_isWait_of_aside {a : Act} (aside : a.Aside) : a.isWait = false := by
  cases a <;> first | rfl | cases aside

theorem not_takesFlip_of_aside {a : Act} (aside : a.Aside) : a.takesFlip = false := by
  cases a <;> first | rfl | cases aside

end Act

def waitsIn (acts : List Act) : List Act := acts.filter Act.isWait

theorem waitsIn_append (acts more : List Act) : waitsIn (acts ++ more) = waitsIn acts ++ waitsIn more :=
  List.filter_append ..

theorem waitsIn_waits (ks : List Nat) : waitsIn (ks.map .wait) = ks.map .wait := by
  rw [waitsIn, List.filter_eq_self, List.forall_mem_map]
  exact fun k _ => rfl

theorem waitsIn_eq_nil {acts : List Act} (none : ∀ a ∈ acts, a.isWait = false) : waitsIn acts = [] := by
  rw [waitsIn, List.filter_eq_nil_iff]
  exact fun a ha => Bool.eq_false_iff.1 (none a ha)

theorem no_flip_taken {acts : List Act} (none : ∀ a ∈ acts, a.isFlip = false) : acts.any Act.takesFlip = false := by
  rw [List.any_eq_false]
  intro a ha taken
  have no := none a ha
  cases a with
  | flip => cases no
  | _ => cases taken

theorem count_waitsIn (k : Nat) (acts : List Act) : (waitsIn acts).count (.wait k) = acts.count (.wait k) :=
  List.count_filter rfl

theorem count_map_wait (k : Nat) (ks : List Nat) : (ks.map Act.wait).count (.wait k) = ks.count k :=
  List.count_map_of_injective ks Act.wait (fun _ _ => Act.wait.inj) k

/-! ## Steps -/

namespace Step

variable {σ : Type} [Hardware σ]

/-- An output accepted a flip. -/
def flipped (t : Step σ) : Bool := t.acts.any Act.takesFlip

/-- What was done after the last output was asked to flip. -/
def afterFlips (t : Step σ) : List Act := t.acts.rtakeWhile fun a => !a.isFlip

/-- What was done before any work on a frame. -/
def beforeWork (t : Step σ) : List Act := t.acts.takeWhile fun a => !a.isWork

/-- Of `n` outputs: there is only one, or what was posted is a client's buffer. -/
def atOnce (n : Nat) (t : Step σ) : Bool := n == 1 || t.posted.any Frame.isClient

end Step

/-- The last post had a flip accepted that is left for the next one to wait for. -/
def outstanding {σ : Type} [Hardware σ] (n : Nat) (ts : List (Step σ)) : Bool :=
  match (ts.filter Step.isPost).getLast? with
  | some t => t.flipped && !t.atOnce n
  | none => false

/-! ## The parts of a post -/

theorem released_isWait (frames : List Frame) : ∀ a ∈ frames.map Frame.released, a.isWait = false := by
  rw [List.forall_mem_map]
  rintro (b | b) - <;> rfl

theorem Surface.waitsIn_settling (s : Surface) : waitsIn s.settling = s.pendingPlaces.map .wait := by
  rw [settling, waitsIn_append, waitsIn_waits, waitsIn_eq_nil (released_isWait _), List.append_nil]

theorem Surface.settling_idle (s : Surface) : ∀ a ∈ s.settling, a.isWork = false ∧ a.isFlip = false :=
  s.forall_settling (fun _ => ⟨rfl, rfl⟩) fun f => by cases f <;> exact ⟨rfl, rfl⟩

/-- Work on one frame, from its first act to the last output that is asked to show it. -/
structure Work (taken : Bool) (acts : List Act) : Prop where
  starts : ∃ a rest, acts = a :: rest ∧ a.isWork = true
  silent : waitsIn acts = []
  flips : acts.any Act.takesFlip = taken
  ends : taken = true → ∃ front a, acts = front ++ [a] ∧ a.isFlip = true

theorem Fetched.work {p : Pipeline} {r : Except PresentError (FrontBuffer × Framebuffer)} {acts : List Act}
    (fetched : Fetched p r acts) : Work false acts := by
  cases fetched with
  | noFrontBuffer reason => exact ⟨⟨_, _, rfl, rfl⟩, rfl, rfl, by simp⟩
  | noCopy front reason => exact ⟨⟨_, _, rfl, rfl⟩, rfl, rfl, by simp⟩
  | noFramebuffer carried => cases carried <;> exact ⟨⟨_, _, rfl, rfl⟩, rfl, rfl, by simp⟩
  | got carried fb => cases carried <;> exact ⟨⟨_, _, rfl, rfl⟩, rfl, rfl, by simp⟩

theorem range_eq_cons {n : Nat} (pos : 0 < n) : ∃ ks, List.range n = 0 :: ks := by
  obtain ⟨m, rfl⟩ := Nat.exists_eq_succ_of_ne_zero pos.ne'
  exact ⟨_, List.range_succ_eq_map⟩

theorem Presented.work {n : Nat} {fb : Framebuffer} {due taken : Bool} {acts : List Act}
    (presented : Presented n fb due taken acts) (pos : 0 < n) : Work taken acts := by
  obtain ⟨ks, first⟩ := range_eq_cons pos
  obtain ⟨m, rfl⟩ := Nat.exists_eq_succ_of_ne_zero pos.ne'
  cases presented with
  | modeSet ok =>
    refine ⟨⟨_, _, by rw [first, List.map_cons], rfl⟩, waitsIn_eq_nil ?_, ?_, by simp⟩
    · simp [Act.isWait]
    · simp [Act.takesFlip]
  | flipped ok place taken =>
    refine ⟨⟨_, _, by rw [first, List.map_cons], rfl⟩, waitsIn_eq_nil ?_, ?_, fun _ => ?_⟩
    · simp [Act.isWait]
    · rw [List.any_eq_true]
      exact ⟨_, List.mem_map_of_mem (List.mem_range.2 place), taken⟩
    · rw [List.range_succ, List.map_append]
      exact ⟨_, _, rfl, rfl⟩
  | fellBack ok =>
    refine ⟨⟨_, _, by rw [first, List.map_cons, List.cons_append], rfl⟩, waitsIn_eq_nil ?_, ?_, by simp⟩
    · simp [Act.isWait, or_imp, forall_and]
    · simp [Act.takesFlip]

theorem Work.append {taken : Bool} {source acts : List Act} (source_work : Work false source) (work : Work taken acts) :
    Work taken (source ++ acts) := by
  obtain ⟨a, rest, rfl, starts⟩ := source_work.starts
  refine ⟨⟨a, rest ++ acts, rfl, starts⟩, ?_, ?_, fun h => ?_⟩
  · rw [waitsIn_append, source_work.silent, work.silent]
    rfl
  · rw [List.any_append, source_work.flips, work.flips, Bool.false_or]
  · obtain ⟨front, last, rfl, ends⟩ := work.ends h
    exact ⟨_, last, (List.append_assoc ..).symm, ends⟩

theorem Sourced.work {s : Surface} {frame : Frame} {fb : Framebuffer} {source acts : List Act} {taken : Bool}
    (sourced : Sourced s frame fb source) (work : Work taken acts) : Work taken (source ++ acts) := by
  cases sourced with
  | client c kept => exact work
  | composite none_kept fetched => exact fetched.work.append work

theorem Posted.settles {s u : Surface} {r : Except PresentError Unit} {acts : List Act} (posted : Posted s r u acts) :
    s.settling <+: acts := by
  cases posted <;> exact List.prefix_append ..

/-- A post settles, works on a frame, and settles again if the flips to this frame are waited for at once. -/
theorem Posted.parts {s u : Surface} {r : Except PresentError Unit} {acts : List Act} (posted : Posted s r u acts)
    (pos : 0 < s.outputs) :
    ∃ work closing taken, acts = s.settling ++ (work ++ closing) ∧ Work taken work ∧
      (∀ a ∈ closing, a.isFlip = false) ∧
      waitsIn closing =
        (if taken && (s.outputs == 1 || (u.brought r).any Frame.isClient) then s.places.map .wait else []) ∧
      u.flipsPending = (taken && !(s.outputs == 1 || (u.brought r).any Frame.isClient)) ∧ u.outputs = s.outputs := by
  cases posted with
  | failed e t none_kept fetched =>
    exact ⟨_, [], false, by rw [List.append_nil], fetched.work, List.forall_mem_nil _, rfl, rfl, rfl⟩
  | @scheduled frame fb source acts taken t sourced presented later =>
    rw [waitsAtOnce_eq] at later
    refine ⟨source ++ acts, [], taken, by rw [List.append_nil], sourced.work (presented.work pos),
      List.forall_mem_nil _, ?_, ?_, rfl⟩
    · simp [Surface.brought, later, waitsIn]
    · simp [Surface.brought, later]
      rfl
  | @settled frame fb source acts taken t sourced presented once =>
    rw [waitsAtOnce_eq] at once
    refine ⟨source ++ acts, _, taken, by rw [List.append_assoc], sourced.work (presented.work pos),
      fun a ha => (Surface.settling_idle _ a ha).2, ?_, ?_, rfl⟩
    · rw [Surface.waitsIn_settling]
      simp only [Surface.brought, Surface.newest_settled, Option.any_some, once, Bool.and_true,
        Surface.pendingPlaces_raised]
      cases taken <;> rfl
    · simp [Surface.brought, once]
      rfl

theorem takeWhile_to {α : Type} {p : α → Bool} {xs ys : List α} {a : α} (go : ∀ x ∈ xs, p x = true)
    (stop : p a = false) : (xs ++ a :: ys).takeWhile p = xs := by
  rw [List.takeWhile_append_of_pos go, List.takeWhile_cons_of_neg (by simp [stop]), List.append_nil]

theorem rtakeWhile_to {α : Type} {p : α → Bool} {xs ys : List α} {a : α} (go : ∀ y ∈ ys, p y = true)
    (stop : p a = false) : (xs ++ a :: ys).rtakeWhile p = ys := by
  have backwards : (xs ++ a :: ys).reverse = ys.reverse ++ a :: xs.reverse := by simp
  rw [List.rtakeWhile, backwards, takeWhile_to (fun y hy => go y (List.mem_reverse.1 hy)) stop, List.reverse_reverse]

/-! ## One step -/

namespace Step

variable {σ : Type} [Hardware σ] {t : Step σ}

theorem waits_of_post (post : t.request = .post) (pos : 0 < t.before.outputs) :
    waitsIn t.beforeWork = t.before.pendingPlaces.map .wait ∧
      (t.flipped = true →
        waitsIn t.afterFlips = if t.atOnce t.before.outputs then t.before.places.map .wait else []) ∧
      waitsIn t.acts = t.before.pendingPlaces.map .wait ++
        (if t.flipped && t.atOnce t.before.outputs then t.before.places.map .wait else []) ∧
      t.after.flipsPending = (t.flipped && !t.atOnce t.before.outputs) := by
  obtain ⟨work, closing, taken, acts, works, quiet, waits, pending, -⟩ := (outcome post).parts pos
  rw [← posted_of_post post] at waits pending
  obtain ⟨a, rest, starting, starts⟩ := works.starts
  have flipped : t.flipped = taken := by
    have before := no_flip_taken fun a ha => (t.before.settling_idle a ha).2
    have after := no_flip_taken quiet
    rw [Step.flipped, acts, List.any_append, List.any_append, before, after, works.flips, Bool.false_or, Bool.or_false]
  refine ⟨?_, fun flips => ?_, ?_, ?_⟩
  -- the settling ends where the work starts
  · rw [← t.before.waitsIn_settling, beforeWork, acts, starting, List.cons_append, takeWhile_to ?_ ?_]
    · intro a ha
      rw [(t.before.settling_idle a ha).1]
      rfl
    · rw [starts]
      rfl
  · obtain ⟨front, last, ending, ends⟩ := works.ends (flipped ▸ flips)
    rw [flipped] at flips
    have split : t.acts = (t.before.settling ++ front) ++ last :: closing := by
      rw [acts, ending]
      simp
    rw [afterFlips, split, rtakeWhile_to ?_ ?_, waits, flips, Bool.true_and, atOnce]
    · intro a ha
      rw [quiet a ha]
      rfl
    · rw [ends]
      rfl
  · rw [acts, waitsIn_append, waitsIn_append, works.silent, waits, Surface.waitsIn_settling, flipped, atOnce,
      List.nil_append]
  · rw [pending, flipped, atOnce]

theorem waits_of_aside (other : t.request ≠ .post) :
    waitsIn t.acts = [] ∧ t.flipped = false ∧ t.after.flipsPending = t.before.flipsPending := by
  have aside := Step.aside other
  refine ⟨waitsIn_eq_nil fun a ha => Act.not_isWait_of_aside (aside.acts a ha), ?_, aside.flipsPending⟩
  rw [flipped, List.any_eq_false]
  exact fun a ha => Bool.eq_false_iff.1 (Act.not_takesFlip_of_aside (aside.acts a ha))

theorem post_of_flipped (flipped : t.flipped = true) : t.request = .post := by
  by_contra other
  rw [(waits_of_aside other).2.1] at flipped
  cases flipped

theorem waits_first (post : t.request = .post) : t.before.pendingPlaces.map .wait <+: t.acts := by
  have waits : t.before.pendingPlaces.map .wait <+: t.before.settling := List.prefix_append ..
  exact waits.trans (outcome post).settles

/-- What is pending before a step or flipped in it is waited for once on each output, or pending after it. -/
theorem count_waits (t : Step σ) (pos : 0 < t.before.outputs) (k : Nat) :
    t.acts.count (.wait k) + t.after.pendingPlaces.count k =
      (if t.flipped then t.before.places else []).count k + t.before.pendingPlaces.count k := by
  have same : t.after.places = t.before.places :=
    congrArg List.range (t.before.perform_made t.hardware t.request).1
  rw [← count_waitsIn, Surface.pendingPlaces, same]
  by_cases post : t.request = .post
  · obtain ⟨-, -, waits, pending⟩ := waits_of_post post pos
    rw [waits, pending, List.count_append, count_map_wait]
    cases t.flipped with
    | false => simp
    | true =>
      cases t.atOnce t.before.outputs with
      | true => simp [count_map_wait, Nat.add_comm]
      | false => simp [Nat.add_comm]
  · obtain ⟨waits, unflipped, pending⟩ := waits_of_aside post
    simp [waits, unflipped, pending, Surface.pendingPlaces]

end Step

/-! ## Runs -/

theorem lastPost_cons {σ : Type} (t : Step σ) (ts : List (Step σ)) :
    ((t :: ts).filter Step.isPost).getLast? =
      (ts.filter Step.isPost).getLast?.or (if t.isPost then some t else none) := by
  rw [← List.filterMap_eq_filter, getLast?_filterMap_cons]
  rfl

namespace Surface

variable {σ : Type} [Hardware σ]

theorem flipsPending_serve (s : Surface) (h : σ) (rs : List Request) (pos : 0 < s.outputs) :
    (s.serve rs h).value.flipsPending =
      match ((s.steps h rs).filter Step.isPost).getLast? with
      | some t => t.flipped && !t.atOnce s.outputs
      | none => s.flipsPending := by
  induction rs generalizing s h with
  | nil => rfl
  | cons r rs ih =>
    have made := (s.perform_made h r).1
    let t : Step σ := ⟨s, h, r⟩
    have later := ih (s.perform r h).value (s.perform r h).state (made ▸ pos)
    rw [made] at later
    change ((s.perform r h).value.serve rs (s.perform r h).state).value.flipsPending = _
    rw [later, steps, lastPost_cons]
    cases (((s.perform r h).value.steps (s.perform r h).state rs).filter Step.isPost).getLast? with
    | some u => rfl
    | none =>
      -- no later post, so that this request decides
      by_cases post : t.request = .post
      · have last : t.isPost = true := t.isPost_iff.2 post
        rw [if_pos last]
        exact (Step.waits_of_post post pos).2.2.2
      · have no : ¬ t.isPost = true := post ∘ t.isPost_iff.1
        rw [if_neg no]
        exact (Step.waits_of_aside post).2.2

/-- Over a run, every output was waited for as often as a flip was accepted, but for what was and is pending. -/
theorem count_waits_serve (s : Surface) (h : σ) (rs : List Request) (pos : 0 < s.outputs) (k : Nat) :
    ((s.serve rs h).acts.count (.wait k)) + (s.serve rs h).value.pendingPlaces.count k =
      (s.steps h rs).countP Step.flipped * s.places.count k + s.pendingPlaces.count k := by
  induction rs generalizing s h with
  | nil => simp [serve, steps]
  | cons r rs ih =>
    let t : Step σ := ⟨s, h, r⟩
    have made := (s.perform_made h r).1
    have same : (s.perform r h).value.places = s.places := congrArg List.range made
    have now : (s.perform r h).acts.count (.wait k) + (s.perform r h).value.pendingPlaces.count k =
        (if t.flipped then s.places else []).count k + s.pendingPlaces.count k := t.count_waits pos k
    let rest := (s.perform r h).value.serve rs (s.perform r h).state
    have later : rest.acts.count (.wait k) + rest.value.pendingPlaces.count k = _ :=
      ih (s.perform r h).value (s.perform r h).state (made ▸ pos)
    rw [same] at later
    have first : (if t.flipped then s.places else []).count k = (if t.flipped then 1 else 0) * s.places.count k := by
      cases t.flipped <;> simp
    have acts : (s.serve (r :: rs) h).acts = (s.perform r h).acts ++ rest.acts := rfl
    have after : (s.serve (r :: rs) h).value = rest.value := rfl
    rw [acts, after, steps, List.count_append, List.countP_cons, Nat.add_mul]
    change _ = _ + (if t.flipped then 1 else 0) * _ + _
    omega

theorem pending_until_post {s : Surface} {h : σ} {rs : List Request} (pos : 0 < s.outputs)
    {past between later : List (Step σ)} {t u : Step σ}
    (split : s.steps h rs = past ++ t :: (between ++ u :: later)) (post : t.request = .post)
    (idle : ∀ v ∈ between, v.request ≠ .post) :
    u.before.flipsPending = (t.flipped && !t.atOnce s.outputs) := by
  have same : t.before.outputs = s.outputs := ((s.made_along h rs).1 t (by simp [split])).1
  obtain ⟨-, rs₂, -, -, after_t⟩ := steps_eq_append_cons split
  obtain ⟨rs₃, -, during, before_u, -⟩ := steps_eq_append_cons after_t.symm
  have same' : t.after.outputs = s.outputs := (t.before.perform_made t.hardware t.request).1.trans same
  have quiet : between.filter Step.isPost = [] := by
    rw [List.filter_eq_nil_iff]
    exact fun v hv posts => idle v hv (v.isPost_iff.1 posts)
  have kept := t.after.flipsPending_serve (t.before.perform t.request t.hardware).state rs₃ (same'.symm ▸ pos)
  rw [← during, quiet] at kept
  have pending := (Step.waits_of_post post (same.symm ▸ pos)).2.2.2
  rw [same] at pending
  rw [before_u]
  exact kept.trans pending

theorem waitsIn_idle {between : List (Step σ)} (idle : ∀ v ∈ between, v.request ≠ .post) :
    waitsIn (between.flatMap Step.acts) = [] := by
  induction between with
  | nil => rfl
  | cons v between ih =>
    obtain ⟨now, later⟩ := List.forall_mem_cons.1 idle
    rw [List.flatMap_cons, waitsIn_append, (Step.waits_of_aside now).1, ih later]
    rfl

/-- Between the flips of a post and the work of the next one every output is waited for. -/
theorem waits_until_post {s : Surface} {h : σ} {rs : List Request} (pos : 0 < s.outputs)
    {past between later : List (Step σ)} {t u : Step σ}
    (split : s.steps h rs = past ++ t :: (between ++ u :: later)) (flipped : t.flipped = true)
    (idle : ∀ v ∈ between, v.request ≠ .post) (post : u.request = .post) :
    waitsIn (t.afterFlips ++ (between.flatMap Step.acts ++ u.beforeWork)) = s.places.map .wait ∧
      (t.atOnce s.outputs = false → s.places.map .wait <+: u.acts) := by
  have made := (s.made_along h rs).1
  rw [split] at made
  have sameT : t.before.outputs = s.outputs := (made t (by simp)).1
  have sameU : u.before.outputs = s.outputs := (made u (by simp)).1
  have posted := Step.post_of_flipped flipped
  have pending := pending_until_post pos split posted idle
  have due : u.before.pendingPlaces = if t.atOnce s.outputs then [] else s.places := by
    rw [pendingPlaces, pending, flipped, places, sameU, places]
    cases t.atOnce s.outputs <;> rfl
  have here := (Step.waits_of_post posted (sameT.symm ▸ pos)).2.1 flipped
  have there := (Step.waits_of_post post (sameU.symm ▸ pos)).1
  have first := Step.waits_first post
  rw [places, sameT] at here
  rw [due] at there first
  rw [waitsIn_append, waitsIn_append, here, there, waitsIn_idle idle]
  cases once : t.atOnce s.outputs with
  | true => exact ⟨by simp [places], fun no => by cases no⟩
  | false => exact ⟨by simp, fun _ => by simpa [once] using first⟩

theorem outstanding_serve (s : Surface) (h : σ) (rs : List Request) (pos : 0 < s.outputs)
    (still : s.flipsPending = false) :
    (s.serve rs h).value.flipsPending = outstanding s.outputs (s.steps h rs) := by
  rw [flipsPending_serve s h rs pos, outstanding]
  cases ((s.steps h rs).filter Step.isPost).getLast? with
  | some t => rfl
  | none => exact still

/-! ## Waiting once -/

theorem waitsIn_opened {n : Nat} {p : Pipeline} {b : FrontBuffer} {fb : Framebuffer} {acts : List Act}
    (opened : Opened n p b fb acts) : waitsIn acts = [] := by
  refine waitsIn_eq_nil fun a ha => ?_
  have opens := opened.opens a ha
  cases a with
  | wait => cases opens
  | _ => rfl

/-- Only posts wait. When a post had a flip accepted, every output is waited for once before the next post does any
work: in the same post if that is done at once, else first of all in the next post, whether that one succeeds or not.
So every output was waited for as often as a post had a flip accepted, but for a last one that is outstanding. -/
theorem flips_awaited_once (settings : Settings) (outputs : Nat) (area : Rect) (transform : Transform) (h : σ)
    (s : Surface) (created : (create settings outputs area transform h).value = .ok s) (rs : List Request) :
    let opening := create settings outputs area transform h
    let ts := s.steps opening.state rs
    let everyone := (List.range outputs).map Act.wait
    (∀ t ∈ ts, t.request ≠ .post → waitsIn t.acts = []) ∧
      (∀ t ∈ ts, t.flipped = true →
        t.request = .post ∧ waitsIn t.afterFlips = if t.atOnce outputs then everyone else []) ∧
      (∀ past t between u later, ts = past ++ t :: (between ++ u :: later) → t.flipped = true →
        (∀ v ∈ between, v.request ≠ .post) → u.request = .post →
          waitsIn (t.afterFlips ++ (between.flatMap Step.acts ++ u.beforeWork)) = everyone ∧
            (t.atOnce outputs = false → everyone <+: u.acts)) ∧
      ∀ k, (opening.acts ++ ts.flatMap Step.acts).count (.wait k) +
          (if k < outputs ∧ outstanding outputs ts = true then 1 else 0) =
        if k < outputs then ts.countP Step.flipped else 0 := by
  intro opening ts everyone
  obtain ⟨p, b, fb, pos, made, opened⟩ := create_opened settings outputs area transform h s created
  obtain ⟨rfl, still⟩ : outputs = s.outputs ∧ s.flipsPending = false := by
    rw [made]
    exact ⟨rfl, rfl⟩
  refine ⟨fun t _ other => (Step.waits_of_aside other).1, fun t ht flipped => ?_, ?_, fun k => ?_⟩
  · have post := Step.post_of_flipped flipped
    have same : t.before.outputs = s.outputs := ((s.made_along opening.state rs).1 t ht).1
    have waits := (Step.waits_of_post post (same.symm ▸ pos)).2.1 flipped
    rw [places, same] at waits
    exact ⟨post, waits⟩
  · intro past t between u later split flipped idle post
    exact waits_until_post pos split flipped idle post
  · have counts := s.count_waits_serve opening.state rs pos k
    have silent : opening.acts.count (.wait k) = 0 := by
      rw [← count_waitsIn, waitsIn_opened opened, List.count_nil]
    have pending : (s.serve rs opening.state).value.pendingPlaces.count k =
        if outstanding s.outputs ts then s.places.count k else 0 := by
      rw [pendingPlaces, outstanding_serve s opening.state rs pos still, places, places,
        (s.made_along opening.state rs).2.1]
      change List.count k (if outstanding s.outputs ts = true then _ else _) = _
      cases outstanding s.outputs ts <;> rfl
    have none_pending : s.pendingPlaces.count k = 0 := by simp [pendingPlaces, still]
    have place : s.places.count k = if k < s.outputs then 1 else 0 := by simp [places, List.count_range]
    rw [pending, none_pending, place, acts_serve] at counts
    rw [List.count_append, silent, Nat.zero_add]
    by_cases hk : k < s.outputs
    · simpa only [hk, true_and, if_true, Nat.mul_one, Nat.add_zero] using counts
    · simpa only [hk, false_and, if_false, Nat.mul_zero, ite_self, Nat.add_zero] using counts

/-- Two outputs and two frames: the flips to the first are waited for by the second post, those to the second are
outstanding. -/
theorem twoHeads_wait : ∃ s, (create {} 2 twoHeadsView .normal (twoHeads true)).value = .ok s ∧
    let opening := create {} 2 twoHeadsView .normal (twoHeads true)
    let ts := s.steps opening.state twoFrames
    ts.countP Step.flipped = 2 ∧ outstanding 2 ts = true ∧
      (∃ swap first swap' second, ts = [swap, first, swap', second] ∧ first.afterFlips = [] ∧
        waitsIn (first.afterFlips ++ ([swap'].flatMap Step.acts ++ second.beforeWork)) = [.wait 0, .wait 1] ∧
        [.wait 0, .wait 1] <+: second.acts) ∧
      ∀ k < 2, (opening.acts ++ ts.flatMap Step.acts).count (.wait k) = 1 := by
  refine ⟨_, rfl, ?_⟩
  intro opening ts
  obtain ⟨-, -, between, counts⟩ := flips_awaited_once {} 2 twoHeadsView .normal (twoHeads true) _ rfl twoFrames
  have flips : ts.countP Step.flipped = 2 := by decide +kernel
  have due : outstanding 2 ts = true := by decide +kernel
  refine ⟨flips, due, ⟨_, _, _, _, rfl, by decide +kernel, ?_⟩, fun k hk => ?_⟩
  · obtain ⟨waits, first⟩ := between [_] _ [_] _ [] rfl rfl (by simp) rfl
    exact ⟨waits, first rfl⟩
  · have count := counts k
    simp only [hk, true_and, if_true] at count
    rw [if_pos due, flips] at count
    exact Nat.succ.inj count

end Surface

end Multihead.Scanout
