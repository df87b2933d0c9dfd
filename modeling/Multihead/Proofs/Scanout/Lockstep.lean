import Multihead.Proofs.Scanout.Lifetime
import Multihead.Proofs.Scanout.Outcome

/-! # Lockstep
After a post every output has taken its frame, except one that refused a flip which another one took: then no
mode-set is made, and the output stays behind with what it showed before. Where no output is left behind, all of them
show the frame as soon as their flips were waited for. -/

set_option autoImplicit false

namespace Multihead.Scanout

open Watch

/-! ## What an output takes -/

def Entry.Presents : Entry → Prop
  | .act a => a.Presents
  | _ => False

/-- What an output accepts to show. -/
def Entry.taken (k : Nat) : Entry → Option Framebuffer
  | .act (.setCrtc j fb true) | .act (.flip j fb true) => if j = k then some fb else none
  | _ => none

def lastTaken (k : Nat) (log : List Entry) : Option Framebuffer := (log.filterMap (Entry.taken k)).getLast?

/-- An output refuses a flip, and another one takes it. -/
def LeftBehind (k : Nat) (acts : List Act) : Prop :=
  (∃ fb, .flip k fb false ∈ acts) ∧ ∃ j fb, .flip j fb true ∈ acts

theorem lastTaken_append (k : Nat) (log more : List Entry) :
    lastTaken k (log ++ more) = (lastTaken k more).or (lastTaken k log) := by
  rw [lastTaken, List.filterMap_append, List.getLast?_append]
  rfl

theorem lastTaken_singleton (k : Nat) (e : Entry) : lastTaken k [e] = e.taken k := by
  rw [lastTaken]
  cases taken : e.taken k <;> simp [taken]

theorem lastTaken_idle (k : Nat) {log : List Entry} (idle : ∀ e ∈ log, ¬ e.Presents) : lastTaken k log = none := by
  rw [lastTaken, List.getLast?_eq_none_iff, List.filterMap_eq_nil_iff]
  intro e he
  rcases e with a | _ | _
  · cases a with
    | setCrtc | flip => exact absurd trivial (idle _ he)
    | _ => rfl
  · rfl
  · rfl

theorem idle_acts {acts : List Act} (idle : ∀ a ∈ acts, ¬ a.Presents) : ∀ e ∈ acts.map Entry.act, ¬ e.Presents :=
  List.forall_mem_map.2 idle

theorem lastTaken_asked {k : Nat} {fb : Framebuffer} {act : Nat → Act} {ok : Nat → Bool}
    (asks : ∀ j, (Entry.act (act j)).taken k = if j = k ∧ ok j = true then some fb else none) (ks : List Nat) :
    lastTaken k ((ks.map act).map .act) = if k ∈ ks ∧ ok k = true then some fb else none := by
  induction ks with
  | nil => simp [lastTaken]
  | cons j ks ih =>
    have parts : ((j :: ks).map act).map Entry.act = [.act (act j)] ++ (ks.map act).map .act := rfl
    rw [parts, lastTaken_append, lastTaken_singleton, ih, asks]
    by_cases here : j = k
    · subst here
      cases ok j with
      | false => simp
      | true =>
        by_cases later : j ∈ ks <;> simp [later]
    · simp [here, Ne.symm here]

theorem lastTaken_setCrtcs (k : Nat) (fb : Framebuffer) (ok : Nat → Bool) (ks : List Nat) :
    lastTaken k ((ks.map fun j => .setCrtc j fb (ok j)).map .act) = if k ∈ ks ∧ ok k = true then some fb else none :=
  lastTaken_asked (fun j => by cases h : ok j <;> simp [Entry.taken]) ks

theorem lastTaken_flips (k : Nat) (fb : Framebuffer) (ok : Nat → Bool) (ks : List Nat) :
    lastTaken k ((ks.map fun j => .flip j fb (ok j)).map .act) = if k ∈ ks ∧ ok k = true then some fb else none :=
  lastTaken_asked (fun j => by cases h : ok j <;> simp [Entry.taken]) ks

theorem took_of_lastTaken {k : Nat} {fb : Framebuffer} {acts : List Act}
    (taken : lastTaken k (acts.map .act) = some fb) : Took k acts := by
  obtain ⟨e, he, taken⟩ := List.mem_filterMap.1 (List.mem_of_getLast? taken)
  obtain ⟨a, ha, rfl⟩ := List.mem_map.1 he
  refine List.mem_filterMap.2 ⟨a, ha, ?_⟩
  cases a with
  | setCrtc j fb' ok | flip j fb' ok =>
    cases ok with
    | false => cases taken
    | true =>
      by_cases here : j = k
      · rw [here]
        rfl
      · rw [Entry.taken, if_neg here] at taken
        cases taken
  | _ => cases taken

/-! ## The outputs of a post -/

/-- If no mode-set fails, an output takes the frame or is left behind. -/
theorem Presented.takes {n : Nat} {fb : Framebuffer} {due taken : Bool} {acts : List Act}
    (presented : Presented n fb due taken acts) (modeSets : ∀ k fb, .setCrtc k fb false ∉ acts) {k : Nat}
    (place : k < n) :
    (lastTaken k (acts.map .act) = some fb ∧ ¬ LeftBehind k acts) ∨
      (lastTaken k (acts.map .act) = none ∧ LeftBehind k acts) := by
  have listed : k ∈ List.range n := List.mem_range.2 place
  cases presented with
  | modeSet ok =>
    have accepted : ok k = true := by
      by_contra refused
      exact modeSets k fb (List.mem_map.2 ⟨k, listed, by simp [Bool.eq_false_iff.2 refused]⟩)
    refine .inl ⟨?_, ?_⟩
    · rw [lastTaken_setCrtcs, if_pos ⟨listed, accepted⟩]
    · rintro ⟨⟨fb', refused⟩, -⟩
      simp at refused
  | @flipped ok j place' taken =>
    cases accepted : ok k with
    | true =>
      refine .inl ⟨?_, ?_⟩
      · rw [lastTaken_flips, if_pos ⟨listed, accepted⟩]
      · rintro ⟨⟨fb', refused⟩, -⟩
        simp [accepted] at refused
    | false =>
      refine .inr ⟨?_, ⟨fb, ?_⟩, j, fb, ?_⟩
      · rw [lastTaken_flips, if_neg (by simp [accepted])]
      · exact List.mem_map.2 ⟨k, listed, by rw [accepted]⟩
      · exact List.mem_map.2 ⟨_, List.mem_range.2 place', by rw [taken]⟩
  | fellBack ok =>
    have accepted : ok k = true := by
      by_contra refused
      refine modeSets k fb (List.mem_append_right _ (List.mem_map.2 ⟨k, listed, ?_⟩))
      simp [Bool.eq_false_iff.2 refused]
    refine .inl ⟨?_, ?_⟩
    · rw [List.map_append, lastTaken_append, lastTaken_setCrtcs, if_pos ⟨listed, accepted⟩]
      rfl
    · rintro ⟨-, j, fb', taken⟩
      simp at taken

theorem Sourced.idle {s : Surface} {frame : Frame} {fb : Framebuffer} {acts : List Act}
    (sourced : Sourced s frame fb acts) : ∀ a ∈ acts, ¬ a.Presents := by
  cases sourced with
  | client => exact List.forall_mem_nil _
  | composite none_kept fetched =>
    exact fetched.forall_acts (fun _ => id) (fun _ _ => id) (fun _ _ => id) Frame.released_presents

/-- A post asks no output before it has its frame. -/
theorem Sourced.opening {s : Surface} {frame : Frame} {fb : Framebuffer} {source : List Act}
    (sourced : Sourced s frame fb source) : ∀ a ∈ s.settling ++ source, ¬ a.Presents :=
  List.forall_mem_append.2 ⟨s.forall_settling (fun _ => id) Frame.released_presents, sourced.idle⟩

theorem closing_idle {closing : List Act} (closes : closing = [] ∨ ∃ u : Surface, closing = u.settling) :
    ∀ a ∈ closing, ¬ a.Presents :=
  forall_closing (fun _ => id) Frame.released_presents closes

theorem lastTaken_between (k : Nat) {before acts after : List Act} (first : ∀ a ∈ before, ¬ a.Presents)
    (last : ∀ a ∈ after, ¬ a.Presents) :
    lastTaken k ((before ++ (acts ++ after)).map .act) = lastTaken k (acts.map .act) := by
  rw [List.map_append, List.map_append, lastTaken_append, lastTaken_append, lastTaken_idle k (idle_acts first),
    lastTaken_idle k (idle_acts last), Option.none_or, Option.or_none]

theorem leftBehind_between (k : Nat) {before acts after : List Act} (first : ∀ a ∈ before, ¬ a.Presents)
    (last : ∀ a ∈ after, ¬ a.Presents) : LeftBehind k (before ++ (acts ++ after)) ↔ LeftBehind k acts := by
  have flips : ∀ j fb ok, .flip j fb ok ∈ before ++ (acts ++ after) ↔ .flip j fb ok ∈ acts := by
    intro j fb ok
    rw [List.mem_append, List.mem_append]
    constructor
    · rintro (h | h | h)
      · exact absurd trivial (first _ h)
      · exact h
      · exact absurd trivial (last _ h)
    · exact fun h => .inr (.inl h)
  simp only [LeftBehind, flips]

theorem BroughtUp.takes {s : Surface} {frame : Frame} {fb : Framebuffer} {acts : List Act}
    (up : BroughtUp s frame fb acts) (modeSets : ∀ k fb, .setCrtc k fb false ∉ acts) {k : Nat}
    (place : k < s.outputs) :
    (lastTaken k (acts.map .act) = some fb ∧ ¬ LeftBehind k acts) ∨
      (lastTaken k (acts.map .act) = none ∧ LeftBehind k acts) := by
  obtain ⟨sourced, presented, closes⟩ := up
  next source asked closing taken =>
  have none_failed : ∀ k fb, .setCrtc k fb false ∉ asked := by
    intro k fb failed
    exact modeSets k fb (by simp [failed])
  rw [← List.append_assoc, leftBehind_between k sourced.opening (closing_idle closes),
    lastTaken_between k sourced.opening (closing_idle closes)]
  exact presented.takes none_failed place

/-! ## What an output shows -/

/-- An output shows a frame, or will as soon as its flip is waited for. -/
def Watch.On (w : Watch) (frame : Frame) (k : Nat) : Prop :=
  w.flipping k = some (some frame) ∨ w.flipping k = none ∧ w.shown k = some (some frame)

/-- The framebuffer that a candidate is shown by is known to be its own. -/
def Known (s : Surface) (w : Watch) : Prop := ∀ c, s.candidate = some c → w.behind c.fb = some c.frame

namespace Watch

theorem On.see {w : Watch} {frame : Frame} {k : Nat} (on : w.On frame k) {e : Entry} (idle : ¬ e.Presents) :
    (w.see e).On frame k := by
  cases e with
  | offer | choose => exact on
  | act a =>
    cases a with
    | setCrtc | flip => exact absurd trivial idle
    | wait j =>
      by_cases here : k = j
      · subst here
        refine .inr ⟨by simp [Watch.see, Watch.act], ?_⟩
        rcases on with flips | ⟨still, shows⟩
        · simp [Watch.see, Watch.act, flips]
        · simp [Watch.see, Watch.act, still, shows]
      · simpa [Watch.On, Watch.see, Watch.act, here] using on
    | lock answer | copy _ answer | framebuffer _ _ answer => cases answer <;> exact on
    | _ => exact on

theorem On.after {w : Watch} {frame : Frame} {k : Nat} (on : w.On frame k) {log : List Entry}
    (idle : ∀ e ∈ log, ¬ e.Presents) : (w.after log).On frame k := by
  induction log generalizing w with
  | nil => exact on
  | cons e log ih =>
    obtain ⟨now, later⟩ := List.forall_mem_cons.1 idle
    exact ih (on.see now) later

end Watch

theorem Fetched.behind {p : Pipeline} {b : FrontBuffer} {fb : Framebuffer} {acts : List Act}
    (fetched : Fetched p (.ok (b, fb)) acts) (w : Watch) :
    (w.after (acts.map .act)).behind fb = some (.composite b) := by
  cases fetched with
  | got carried fb =>
    rw [List.map_cons, after_cons, List.map_append, after_append]
    exact Function.update_self _ _ _

theorem Sourced.behind {s : Surface} {frame : Frame} {fb : Framebuffer} {acts : List Act}
    (sourced : Sourced s frame fb acts) {w : Watch} (known : Known s w) :
    (w.after (acts.map .act)).behind fb = some frame := by
  cases sourced with
  | client c kept => exact known c kept
  | composite none_kept fetched => exact fetched.behind w

theorem behind_settling (s : Surface) (w : Watch) : (w.after (s.settling.map .act)).behind = w.behind := by
  rw [Surface.settling, List.map_append, after_append, after_waits, after_released]
  rfl

theorem Known.settling {s : Surface} {w : Watch} (known : Known s w) : Known s (w.after (s.settling.map .act)) := by
  intro c kept
  rw [behind_settling]
  exact known c kept

section BroughtUp
variable {s : Surface} {frame : Frame} {fb : Framebuffer} {acts : List Act}

theorem BroughtUp.behind (up : BroughtUp s frame fb acts) {w : Watch} (known : Known s w) :
    (w.after (acts.map .act)).behind fb = some frame := by
  obtain ⟨sourced, presented, closes⟩ := up
  next source asked closing taken =>
  have behind := sourced.behind known.settling
  obtain ⟨-, same, -⟩ := after_asks s.outputs fb asked presented.asks
    ((w.after (s.settling.map .act)).after (source.map .act))
  rw [List.map_append, List.map_append, List.map_append, after_append, after_append, after_append]
  rcases closes with rfl | ⟨u, rfl⟩
  · exact (congrFun same fb).trans behind
  · rw [behind_settling, same, behind]

theorem BroughtUp.on (up : BroughtUp s frame fb acts) {w : Watch} (known : Known s w) {k : Nat}
    (took : lastTaken k (acts.map .act) = some fb) : (w.after (acts.map .act)).On frame k := by
  obtain ⟨sourced, presented, closes⟩ := up
  next source asked closing taken =>
  rw [← List.append_assoc, lastTaken_between k sourced.opening (closing_idle closes)] at took
  have behind := sourced.behind known.settling
  obtain ⟨-, -, fates⟩ := after_asks s.outputs fb asked presented.asks
    ((w.after (s.settling.map .act)).after (source.map .act))
  rw [List.map_append, List.map_append, List.map_append, after_append, after_append, after_append]
  refine Watch.On.after ?_ (idle_acts (closing_idle closes))
  cases fates k with
  | passed no => exact absurd (took_of_lastTaken took) no
  | brought took place shown flipping => exact .inr ⟨flipping, shown.trans (congrArg some behind)⟩
  | awaited took place flipping shown flip => exact .inl (flipping.trans (congrArg some behind))

end BroughtUp

/-! ## Steps -/

namespace Step

variable {σ : Type} [Hardware σ]

def log (t : Step σ) : List Entry := (t.before.turn t.hardware t.request).log

theorem log_of_post {t : Step σ} (post : t.request = .post) : t.log = t.acts.map .act := by
  obtain ⟨s, h, r⟩ := t
  cases post
  rfl

theorem known {t : Step σ} {w : Watch} (known : Known t.before w) : Known t.after (w.after t.log) := by
  intro c kept
  obtain ⟨s, h, r⟩ := t
  cases r with
  | post =>
    rw [no_candidate_of_post rfl] at kept
    cases kept
  | overlay rs =>
    have chosen : (s.turn h (.overlay rs)).after.candidate = some c := kept
    rw [Step.log, Turn.log]
    change (w.after (_ ++ ((s.turn h (.overlay rs)).after.candidate.toList.map .choose))).behind c.fb = _
    rw [chosen, after_append]
    exact Function.update_self _ _ _
  | swapBuffers =>
    have sameActs : Step.log ⟨s, h, .swapBuffers⟩ = (s.swapBuffers h).acts.map .act := by
      rw [Step.log, Turn.log, Surface.turn, Surface.perform, Drive.map_run]
    have kept : (s.swapBuffers h).value.2.candidate = some c := kept
    rw [sameActs]
    rcases s.swapBuffers_run h with ⟨value, acts, -⟩ | ⟨value, acts, -⟩
    · rw [value] at kept
      rw [acts]
      exact known c kept
    · rw [value] at kept
      cases kept
  | setTransform | scheduleModeSet => exact known c kept

end Step

namespace Surface

variable {σ : Type} [Hardware σ]

theorem known_serve {s : Surface} {w : Watch} (known : Known s w) (h : σ) (rs : List Request) :
    Known (s.serve rs h).value (w.after ((s.steps h rs).flatMap Step.log)) := by
  induction rs generalizing s h w with
  | nil => exact known
  | cons r rs ih =>
    have first : Known (s.perform r h).value (w.after (Step.log ⟨s, h, r⟩)) :=
      Step.known (t := ⟨s, h, r⟩) known
    have later := ih first (s.perform r h).state
    rw [← after_append] at later
    exact later

/-! ## In step -/

/-- After a post, until something else is shown, each output has accepted the frame last, unless it was left behind;
and if none was left behind, all show the frame once their flips were waited for. -/
theorem in_step_iff_not_left_behind (settings : Settings) (outputs : Nat) (area : Rect) (transform : Transform) (h : σ)
    (s : Surface) (created : (create settings outputs area transform h).value = .ok s) (rs : List Request)
    (past later : List (Step σ)) (t : Step σ)
    (split : s.steps (create settings outputs area transform h).state rs = past ++ t :: later) (frame : Frame)
    (posted : t.posted = some frame) (modeSets : ∀ k fb, .setCrtc k fb false ∉ t.acts) :
    let opening := create settings outputs area transform h
    let earlier := opening.acts.map .act ++ past.flatMap Step.log
    ∃ fb, (start.after (earlier ++ t.log)).behind fb = some frame ∧
      ∀ seen, seen <+: later.flatMap Step.log → (∀ e ∈ seen, ¬ e.Presents) →
        let now := earlier ++ (t.log ++ seen)
        ((∀ k < outputs, lastTaken k now = some fb) ↔
          ∀ k < outputs, LeftBehind k t.acts → lastTaken k earlier = some fb) ∧
        ((∀ k < outputs, ¬ LeftBehind k t.acts) → (∀ k < outputs, (start.after now).flipping k = none) →
          ∀ k < outputs, (start.after now).shown k = some (some frame)) := by
  intro opening earlier
  obtain ⟨p, b, fb₀, -, made, -⟩ := create_opened settings outputs area transform h s created
  have same : t.before.outputs = outputs := by
    have ht : t ∈ s.steps (create settings outputs area transform h).state rs := by simp [split]
    rw [((s.made_along opening.state rs).1 t ht).1, made]
  -- there is no candidate at first, and each request keeps the framebuffer of the one that there is known
  have known : Known t.before (start.after earlier) := by
    obtain ⟨rs₁, -, during, before, -⟩ := steps_eq_append_cons split
    have first : Known s (start.after (opening.acts.map .act)) := by
      rintro c kept
      rw [made] at kept
      cases kept
    rw [after_append, during, before]
    exact known_serve first opening.state rs₁
  obtain ⟨fb, up⟩ := Step.broughtUp posted
  have log := Step.log_of_post (Step.isPost_of_posted posted)
  refine ⟨fb, ?_, fun seen _ idle => ?_⟩
  · rw [log, after_append]
    exact up.behind known
  have taken : ∀ k, lastTaken k (earlier ++ (t.log ++ seen)) =
      (lastTaken k (t.acts.map .act)).or (lastTaken k earlier) := by
    intro k
    rw [lastTaken_append, lastTaken_append, lastTaken_idle k idle, Option.none_or, log]
  refine ⟨forall_congr' fun k => forall_congr' fun place => ?_, fun none_left waited k place => ?_⟩
  · rw [taken]
    rcases up.takes modeSets (same.symm ▸ place) with ⟨took, not_left⟩ | ⟨passed, left⟩
    · simp [took, not_left]
    · simp [passed, left]
  · have took := ((up.takes modeSets (same.symm ▸ place)).resolve_right fun left => none_left k place left.2).1
    have on := (up.on known took).after idle
    rw [← after_append, ← after_append, ← log] at on
    rcases on with flips | ⟨-, shows⟩
    · rw [waited k place] at flips
      cases flips
    · exact shows

/-- What the two outputs are asked to do for a frame after the first. -/
def twoHeadsFrame (n : UInt64) (fb : Framebuffer) (second : Bool) : List Act :=
  [.lock (some ⟨n, ⟨1920, 1080⟩⟩), .framebuffer 0 ⟨n, ⟨1920, 1080⟩⟩ (some fb), .flip 0 fb true, .flip 1 fb second]

theorem twoHeads_in_step : (create {} 2 twoHeadsView .normal (twoHeads true)).value = .ok twoHeadsSurface ∧
    ∃ swap t later seen now fb,
      twoHeadsSurface.steps (create {} 2 twoHeadsView .normal (twoHeads true)).state twoFrames =
        [swap] ++ t :: later ∧
      t.posted = some (.composite ⟨2, ⟨1920, 1080⟩⟩) ∧ t.acts = twoHeadsFrame 2 ⟨2⟩ true ∧
      seen <+: later.flatMap Step.log ∧
      now = (create {} 2 twoHeadsView .normal (twoHeads true)).acts.map .act ++ [swap].flatMap Step.log ++
        (t.log ++ seen) ∧
      (∀ k < 2, (start.after now).flipping k = none) ∧ (∀ k < 2, lastTaken k now = some fb) ∧
        ∀ k < 2, (start.after now).shown k = some (some (.composite ⟨2, ⟨1920, 1080⟩⟩)) := by
  refine ⟨rfl, ?_⟩
  let swap : Step Rig := ⟨twoHeadsSurface, (create {} 2 twoHeadsView .normal (twoHeads true)).state, .swapBuffers⟩
  let swapped := twoHeadsSurface.perform .swapBuffers (create {} 2 twoHeadsView .normal (twoHeads true)).state
  let t : Step Rig := ⟨swapped.value, swapped.state, .post⟩
  let shown := swapped.value.perform .post swapped.state
  let later := shown.value.steps shown.state [.swapBuffers, .post]
  let seen : List Entry := [.act (.swap true), .act (.wait 0), .act (.wait 1)]
  have posted : t.posted = some (.composite ⟨2, ⟨1920, 1080⟩⟩) := by decide +kernel
  have acts : t.acts = twoHeadsFrame 2 ⟨2⟩ true := by decide +kernel
  have modeSets : ∀ k fb, .setCrtc k fb false ∉ t.acts := by simp [acts, twoHeadsFrame]
  have none_left : ∀ k, ¬ LeftBehind k t.acts := by simp [acts, LeftBehind, twoHeadsFrame]
  have first : seen <+: later.flatMap Step.log := by decide +kernel
  obtain ⟨fb, -, rest⟩ := in_step_iff_not_left_behind {} 2 twoHeadsView .normal (twoHeads true) twoHeadsSurface rfl
    twoFrames [swap] later t rfl _ posted modeSets
  obtain ⟨takes, shows⟩ := rest seen first (by simp [seen, Entry.Presents, Act.Presents])
  have took := takes.2 fun k _ left => absurd left (none_left k)
  have up := shows fun k _ => none_left k
  refine ⟨swap, t, later, seen, _, fb, rfl, posted, acts, first, rfl, ?waited, took, up ?waited⟩
  decide +kernel

/-- The second output refuses the flip that the first one takes: no mode-set is made, and it keeps the first frame. -/
theorem twoHeads_out_of_step : ∃ s, (create {} 2 twoHeadsView .normal (twoHeads false)).value = .ok s ∧
    let opening := create {} 2 twoHeadsView .normal (twoHeads false)
    let ts := s.steps opening.state twoFrames
    (∀ k fb, .setCrtc k fb false ∉ opening.acts ++ ts.flatMap Step.acts) ∧
      ∃ swap t later seen, ts = [swap] ++ t :: later ∧ t.posted = some (.composite ⟨2, ⟨1920, 1080⟩⟩) ∧
        seen <+: later.flatMap Step.log ∧ (∀ e ∈ seen, ¬ e.Presents) ∧
        let now := opening.acts.map .act ++ [swap].flatMap Step.log ++ (t.log ++ seen)
        (∀ k < 2, (start.after now).flipping k = none) ∧ lastTaken 0 now = some ⟨2⟩ ∧ lastTaken 1 now = some ⟨1⟩ ∧
          (start.after now).shown 0 = some (some (.composite ⟨2, ⟨1920, 1080⟩⟩)) ∧
          (start.after now).shown 1 = some (some (.composite ⟨1, ⟨1920, 1080⟩⟩)) := by
  refine ⟨_, rfl, ?_⟩
  intro opening ts
  have run : opening.acts ++ ts.flatMap Step.acts =
      [.makeCurrent true, .swap true, .lock (some ⟨1, ⟨1920, 1080⟩⟩), .framebuffer 0 ⟨1, ⟨1920, 1080⟩⟩ (some ⟨1⟩),
        .setCrtc 0 ⟨1⟩ true, .setCrtc 1 ⟨1⟩ true, .releaseCurrent] ++ .swap true :: twoHeadsFrame 2 ⟨2⟩ false ++
      .swap true :: .wait 0 :: .wait 1 :: .release ⟨1, ⟨1920, 1080⟩⟩ :: twoHeadsFrame 3 ⟨3⟩ false := by
    decide +kernel
  refine ⟨?modeSets, _, _, _, [.act (.swap true), .act (.wait 0), .act (.wait 1)], rfl, ?_, ?_, ?_, ?_⟩
  case modeSets =>
    rw [run]
    simp [twoHeadsFrame]
  · decide +kernel
  · decide +kernel
  · simp [Entry.Presents, Act.Presents]
  · decide +kernel

end Surface

end Multihead.Scanout
