import Multihead.Proofs.Scanout.Lifetime
import Multihead.Proofs.Scanout.Outcome

/-! # Promises
An overlay that answers yes promises that the next post shows one of the client buffers it was offered. Only another
overlay, or a swap that succeeds, takes the promise back; a post keeps it, once, and cannot fail then. -/

set_option autoImplicit false

namespace Multihead.Scanout

/-! ## Overlays -/

def Act.isImport : Act → Bool
  | importBuffer _ _ _ => true
  | _ => false

/-- The client buffers that were made into framebuffers. -/
def imports (acts : List Act) : List Act := acts.filter Act.isImport

theorem imports_append (acts more : List Act) : imports (acts ++ more) = imports acts ++ imports more :=
  List.filter_append ..

theorem imports_eq_nil {acts : List Act} (none : ∀ a ∈ acts, a.isImport = false) : imports acts = [] := by
  rw [imports, List.filter_eq_nil_iff]
  exact fun a ha => Bool.eq_false_iff.1 (none a ha)

theorem imports_released (frames : List Frame) : imports (frames.map Frame.released) = [] := by
  refine imports_eq_nil (List.forall_mem_map.2 ?_)
  rintro (b | b) - <;> rfl

namespace Surface

variable {σ : Type} [Hardware σ]

theorem candidateOf_some {size : Size} {k : Nat} {b : ClientBuffer} {h : σ} {c : Candidate}
    (got : (candidateOf size k b h).value = some c) :
    ∃ planes, b.planes = some planes ∧ c.buffer = b ∧
      (candidateOf size k b h).acts = [.importBuffer k planes (some c.fb)] := by
  rw [candidateOf] at got ⊢
  by_cases fits : b.size = size
  · rw [if_pos fits] at got ⊢
    cases shared : b.planes with
    | none =>
      simp only [shared] at got
      cases got
    | some planes =>
      simp only [shared, Drive.bind_run, Drive.importPlanes, Drive.ask, Drive.pure_run, List.append_nil] at got ⊢
      obtain ⟨fb, imported, rfl⟩ := Option.map_eq_some_iff.1 got
      exact ⟨planes, rfl, rfl, by rw [imported]⟩
  · rw [if_neg fits] at got
    cases got

theorem select_some {rs : List Renderable} {area : Rect} {size : Size} {k : Nat} {h : σ} {c : Candidate}
    (got : (select rs area size k h).value.candidate = some c) :
    ∃ p planes, (Matcher.start area).pick rs.reverse = some p ∧ p.chosen.buffer.planes = some planes ∧
      c.buffer = p.chosen.buffer ∧ (select rs area size k h).acts = [.importBuffer k planes (some c.fb)] := by
  rw [select] at got ⊢
  cases picked : (Matcher.start area).pick rs.reverse with
  | none =>
    simp only [picked] at got
    cases got
  | some p =>
    simp only [picked, Drive.bind_run] at got ⊢
    cases chosen : (candidateOf size k p.chosen.buffer h).value with
    | none =>
      simp only [chosen] at got
      cases got
    | some c' =>
      simp only [chosen] at got ⊢
      obtain rfl : c' = c := Option.some.inj got
      obtain ⟨planes, shared, same, acts⟩ := candidateOf_some chosen
      exact ⟨p, planes, rfl, shared, same, by simp [acts]⟩

theorem overlay_answer (s : Surface) (rs : List Renderable) (h : σ) :
    (s.overlay rs h).value.1 = (s.overlay rs h).value.2.candidate.isSome := by
  rw [overlay, Drive.bind_run]
  by_cases allowed : s.transform = .normal ∧ s.option = .allowed
  · rw [if_pos allowed]
    rfl
  · rw [if_neg allowed]
    rfl

/-- An overlay finds a candidate only if it may, and then imports the buffer that was picked, and nothing else. -/
theorem overlay_some {s : Surface} {rs : List Renderable} {h : σ} {c : Candidate}
    (got : (s.overlay rs h).value.2.candidate = some c) :
    s.transform = .normal ∧ s.option = .allowed ∧
      ∃ p planes, (Matcher.start s.area).pick rs.reverse = some p ∧ p.chosen.buffer.planes = some planes ∧
        c.buffer = p.chosen.buffer ∧ imports (s.overlay rs h).acts = [.importBuffer 0 planes (some c.fb)] := by
  rw [overlay, Drive.bind_run] at got ⊢
  by_cases allowed : s.transform = .normal ∧ s.option = .allowed
  · rw [if_pos allowed, Drive.look_bind_run] at got ⊢
    obtain ⟨p, planes, picked, shared, same, acts⟩ := select_some got
    refine ⟨allowed.1, allowed.2, p, planes, picked, shared, same, ?_⟩
    simp only [Drive.bind_run, Drive.pure_run, List.append_nil, letGoCandidate_acts, letGoClients_acts, imports_append,
      imports_released, acts]
    rfl
  · rw [if_neg allowed] at got
    cases got

theorem overlay_refused {s : Surface} (refused : ¬ (s.transform = .normal ∧ s.option = .allowed))
    (rs : List Renderable) (h : σ) : imports (s.overlay rs h).acts = [] := by
  rw [overlay, Drive.bind_run, if_neg refused]
  simp only [Drive.bind_run, Drive.pure_run, List.append_nil, letGoCandidate_acts, letGoClients_acts, imports_append,
    imports_released]

end Surface

/-! ## Posts -/

/-- A post shows a client's buffer if and only if there is a candidate. -/
theorem Posted.client {s u : Surface} {r : Except PresentError Unit} {acts : List Act} (posted : Posted s r u acts) :
    (u.brought r).any Frame.isClient = s.candidate.isSome := by
  have source : ∀ {frame fb acts}, Sourced s frame fb acts → frame.isClient = s.candidate.isSome := by
    intro frame fb acts sourced
    cases sourced with
    | client c kept => rw [kept]; rfl
    | composite none_kept fetched => rw [none_kept]; rfl
  cases posted with
  | failed e t none_kept => rw [none_kept]; rfl
  | scheduled t sourced => exact source sourced
  | settled t sourced => exact source sourced

/-- Something is done to get a buffer of the render surface. -/
def Act.Fetches : Act → Prop
  | lock _ | copy _ _ | framebuffer _ _ _ => True
  | _ => False

theorem Presented.some_act {n : Nat} {fb : Framebuffer} {due taken : Bool} {acts : List Act}
    (presented : Presented n fb due taken acts) (pos : 0 < n) : ∃ a, a ∈ acts := by
  have first : 0 ∈ List.range n := List.mem_range.2 pos
  cases presented with
  | modeSet ok | flipped ok => exact ⟨_, List.mem_map_of_mem first⟩
  | fellBack ok => exact ⟨_, List.mem_append_left _ (List.mem_map_of_mem first)⟩

theorem Posted.ok_of_candidate {s u : Surface} {r : Except PresentError Unit} {acts : List Act}
    (posted : Posted s r u acts) {c : Candidate} (kept : s.candidate = some c) :
    r = .ok () ∧ u.newest = some c.frame := by
  have frame_eq : ∀ {frame fb acts}, Sourced s frame fb acts → frame = c.frame := by
    intro frame fb acts sourced
    cases sourced with
    | client c' kept' => rw [Option.some.inj (kept'.symm.trans kept)]
    | composite none_kept => rw [none_kept] at kept; cases kept
  cases posted with
  | failed e t none_kept => rw [none_kept] at kept; cases kept
  | scheduled t sourced => exact ⟨rfl, congrArg some (frame_eq sourced)⟩
  | settled t sourced => exact ⟨rfl, congrArg some (frame_eq sourced)⟩

/-- What a candidate is shown by is its own framebuffer, and nothing is fetched for it. -/
theorem BroughtUp.of_candidate {s : Surface} {frame : Frame} {fb : Framebuffer} {acts : List Act}
    (up : BroughtUp s frame fb acts) {c : Candidate} (kept : s.candidate = some c) :
    (∀ a ∈ acts, ¬ a.Fetches) ∧ (0 < s.outputs → ∃ a ∈ acts, a.Presents) ∧
      ∀ a ∈ acts, a.Presents → Watch.Asks s.outputs c.fb a := by
  obtain ⟨sourced, presented, closes⟩ := up
  next source asked closing taken =>
  cases sourced with
  | composite none_kept =>
    rw [none_kept] at kept
    cases kept
  | client c' kept' =>
    obtain rfl : c' = c := Option.some.inj (kept'.symm.trans kept)
    have wait : ∀ k, ¬ (Act.wait k).Fetches ∧ ((Act.wait k).Presents → Watch.Asks s.outputs c'.fb (.wait k)) :=
      fun k => ⟨id, False.elim⟩
    have release : ∀ f : Frame, ¬ f.released.Fetches ∧
        (f.released.Presents → Watch.Asks s.outputs c'.fb f.released) := by
      rintro (b | b) <;> exact ⟨id, False.elim⟩
    have ask : ∀ a ∈ asked, ¬ a.Fetches ∧ (a.Presents → Watch.Asks s.outputs c'.fb a) := by
      intro a ha
      have asks := presented.asks a ha
      refine ⟨?_, fun _ => asks⟩
      obtain ⟨k, -, ok, rfl | rfl⟩ := asks <;> exact id
    have all : ∀ a ∈ s.settling ++ ([] ++ (asked ++ closing)),
        ¬ a.Fetches ∧ (a.Presents → Watch.Asks s.outputs c'.fb a) :=
      List.forall_mem_append.2 ⟨s.forall_settling wait release,
        List.forall_mem_append.2 ⟨List.forall_mem_nil _,
          List.forall_mem_append.2 ⟨ask, forall_closing wait release closes⟩⟩⟩
    refine ⟨fun a ha => (all a ha).1, fun pos => ?_, fun a ha => (all a ha).2⟩
    obtain ⟨a, ha⟩ := presented.some_act pos
    refine ⟨a, by simp [ha], ?_⟩
    obtain ⟨k, -, ok, rfl | rfl⟩ := presented.asks a ha <;> trivial

/-! ## Events -/

/-- What happens to a promise. -/
inductive Event where
  | offered (taken : Bool)
  | swapped
  | consumed
  deriving DecidableEq

/-- Whether a client's buffer is due after it. -/
def Event.promises : Event → Bool
  | offered taken => taken
  | swapped | consumed => false

theorem Event.promises_iff (e : Event) : e.promises = true ↔ e = offered true := by
  cases e <;> simp [promises]

namespace Step

variable {σ : Type} [Hardware σ]

/-- An overlay with its answer, a swap that succeeds, or a post of a client's buffer. -/
def event (t : Step σ) : Option Event :=
  match t.request with
  | .overlay rs => some (.offered (t.before.overlay rs t.hardware).value.1)
  | .swapBuffers => if (t.before.swapBuffers t.hardware).value.1.isOk then some .swapped else none
  | .post => if t.posted.any Frame.isClient then some .consumed else none
  | _ => none

theorem client_of_post {t : Step σ} (post : t.request = .post) :
    t.posted.any Frame.isClient = t.before.candidate.isSome := by
  rw [posted_of_post post]
  exact (outcome post).client

theorem overlay_of_offered {t : Step σ} {taken : Bool} (offered : t.event = some (.offered taken)) :
    ∃ offers, t.request = .overlay offers := by
  obtain ⟨s, h, r⟩ := t
  cases r with
  | overlay offers => exact ⟨offers, rfl⟩
  | swapBuffers =>
    simp only [event] at offered
    split at offered <;> cases offered
  | post =>
    simp only [event] at offered
    split at offered <;> cases offered
  | setTransform | scheduleModeSet => cases offered

theorem chosen_of_overlay {t : Step σ} {offers : List Renderable} (overlay : t.request = .overlay offers)
    {c : Candidate} (got : t.after.candidate = some c) :
    t.before.transform = .normal ∧ t.before.option = .allowed ∧
      ∃ p planes, (Matcher.start t.before.area).pick offers.reverse = some p ∧
        p.chosen.buffer.planes = some planes ∧ c.buffer = p.chosen.buffer ∧
        imports t.acts = [.importBuffer 0 planes (some c.fb)] := by
  rw [acts_of_overlay overlay]
  obtain ⟨s, h, r⟩ := t
  cases overlay
  exact Surface.overlay_some got

theorem shown_of_candidate {t : Step σ} (post : t.request = .post) (pos : 0 < t.before.outputs) {c : Candidate}
    (kept : t.before.candidate = some c) :
    (t.before.post t.hardware).value.1 = .ok () ∧ t.posted = some c.frame ∧ (∀ a ∈ t.acts, ¬ a.Fetches) ∧
      (∃ a ∈ t.acts, a.Presents) ∧ ∀ a ∈ t.acts, a.Presents → Watch.Asks t.before.outputs c.fb a := by
  obtain ⟨answer, newest⟩ := (outcome post).ok_of_candidate kept
  have posted : t.posted = some c.frame := by
    rw [posted_of_post post, answer]
    exact newest
  obtain ⟨fb, up⟩ := broughtUp posted
  obtain ⟨fetches, presents, asks⟩ := up.of_candidate kept
  exact ⟨answer, posted, fetches, presents pos, asks⟩

/-- An event decides whether there is a candidate; without one, all stays as it was. -/
theorem candidate_of_event (t : Step σ) :
    match t.event with
    | some e => t.after.candidate.isSome = e.promises
    | none => t.after.candidate = t.before.candidate := by
  obtain ⟨s, h, r⟩ := t
  cases r with
  | overlay rs => exact (s.overlay_answer rs h).symm
  | swapBuffers =>
    rcases s.swapBuffers_run h with ⟨value, -, failed⟩ | ⟨value, -, succeeded⟩
    · rw [event, after_of_swap rfl, value]
      simp only [failed, Bool.false_eq_true, if_false]
    · rw [event, after_of_swap rfl, value]
      simp only [succeeded, if_true]
      rfl
  | post =>
    have client := client_of_post (t := ⟨s, h, .post⟩) rfl
    have used := no_candidate_of_post (t := ⟨s, h, .post⟩) rfl
    rw [event, used]
    simp only [client]
    cases kept : s.candidate with
    | none => rfl
    | some c => rfl
  | setTransform | scheduleModeSet => rfl

end Step

/-! ## Runs -/

namespace Surface

variable {σ : Type} [Hardware σ]

/-- The last event decides whether there is a candidate. -/
theorem candidate_serve (s : Surface) (h : σ) (rs : List Request) :
    (s.serve rs h).value.candidate.isSome =
      match ((s.steps h rs).filterMap Step.event).getLast? with
      | some e => e.promises
      | none => s.candidate.isSome := by
  induction rs generalizing s h with
  | nil => rfl
  | cons r rs ih =>
    let t : Step σ := ⟨s, h, r⟩
    have later := ih (s.perform r h).value (s.perform r h).state
    have now := t.candidate_of_event
    change ((s.perform r h).value.serve rs (s.perform r h).state).value.candidate.isSome = _
    rw [later, steps, getLast?_filterMap_cons]
    cases (((s.perform r h).value.steps (s.perform r h).state rs).filterMap Step.event).getLast? with
    | some e => rfl
    | none =>
      -- no later event, so that this request decides
      change t.after.candidate.isSome = match t.event with | some e => e.promises | none => t.before.candidate.isSome
      cases event : t.event with
      | some e =>
        rw [event] at now
        exact now
      | none =>
        rw [event] at now
        exact congrArg Option.isSome now

theorem candidate_kept (s : Surface) (h : σ) (rs : List Request) (quiet : ∀ t ∈ s.steps h rs, t.event = none) :
    (s.serve rs h).value.candidate = s.candidate := by
  induction rs generalizing s h with
  | nil => rfl
  | cons r rs ih =>
    obtain ⟨first, later⟩ := List.forall_mem_cons.1 quiet
    have now := Step.candidate_of_event ⟨s, h, r⟩
    rw [first] at now
    exact (ih _ _ later).trans now

theorem client_iff_promised {s : Surface} {h : σ} {rs : List Request} (fresh : s.candidate = none)
    {past later : List (Step σ)} {u : Step σ} (split : s.steps h rs = past ++ u :: later) (post : u.request = .post) :
    u.posted.any Frame.isClient = true ↔ (past.filterMap Step.event).getLast? = some (.offered true) := by
  obtain ⟨rs₁, -, during, before, -⟩ := steps_eq_append_cons split
  rw [Step.client_of_post post, before, candidate_serve, ← during, fresh]
  cases (past.filterMap Step.event).getLast? with
  | none => simp
  | some e => simp [e.promises_iff]

theorem candidate_since {s : Surface} {h : σ} {rs : List Request} {past since later : List (Step σ)} {t u : Step σ}
    (split : s.steps h rs = past ++ t :: (since ++ u :: later)) (quiet : ∀ v ∈ since, v.event = none) :
    u.before.candidate = t.after.candidate := by
  obtain ⟨rs', during, before_u⟩ := steps_between split
  rw [during] at quiet
  rw [before_u, candidate_kept _ _ _ quiet]

theorem no_candidate_along {s : Surface} (fresh : s.candidate = none) (prohibited : s.option = .prohibited) (h : σ)
    (rs : List Request) : ∀ t ∈ s.steps h rs, t.before.candidate = none ∧ t.before.option = .prohibited := by
  refine (kept_along (fun u => u.candidate = none ∧ u.option = .prohibited) ?_ s h rs ⟨fresh, prohibited⟩).1
  rintro u h' r ⟨none_kept, option⟩
  let t : Step σ := ⟨u, h', r⟩
  refine ⟨?_, (u.perform_made h' r).2.2.trans option⟩
  change t.after.candidate = none
  have decided := t.candidate_of_event
  cases event : t.event with
  | none =>
    rw [event] at decided
    exact decided.trans none_kept
  | some e =>
    rw [event] at decided
    by_contra some_kept
    obtain ⟨c, got⟩ := Option.ne_none_iff_exists'.1 some_kept
    rw [got] at decided
    obtain rfl := e.promises_iff.1 decided.symm
    obtain ⟨offers, overlay⟩ := Step.overlay_of_offered event
    obtain ⟨-, allowed, -⟩ := Step.chosen_of_overlay overlay got
    rw [option] at allowed
    cases allowed

theorem imports_prohibited {t : Step σ} (prohibited : t.before.option = .prohibited) : imports t.acts = [] := by
  by_cases post : t.request = .post
  · refine imports_eq_nil fun a ha => ?_
    have ofPost := (Step.outcome post).ofPost a ha
    cases a with
    | importBuffer => cases ofPost
    | _ => rfl
  · obtain ⟨s, h, r⟩ := t
    cases r with
    | post => exact absurd rfl post
    | overlay offers =>
      have refused : ¬ (s.transform = .normal ∧ s.option = .allowed) := by
        rintro ⟨-, allowed⟩
        rw [allowed] at prohibited
        cases prohibited
      rw [Step.acts_of_overlay rfl, overlay_refused refused]
    | swapBuffers =>
      rw [Step.acts_of_swap rfl]
      rcases s.swapBuffers_run h with ⟨-, acts, -⟩ | ⟨-, acts, -⟩
      · rw [acts]
        rfl
      · rw [acts]
        exact imports_released _
    | setTransform | scheduleModeSet => rfl

theorem imports_opened {n : Nat} {p : Pipeline} {b : FrontBuffer} {fb : Framebuffer} {acts : List Act}
    (opened : Opened n p b fb acts) : imports acts = [] := by
  refine imports_eq_nil fun a ha => ?_
  have opens := opened.opens a ha
  cases a with
  | importBuffer => cases opens
  | _ => rfl

/-! ## Promises -/

/-- A post shows a client's buffer if and only if the last event before it is an overlay that answered yes. It shows
the buffer that was picked then, by the framebuffer that it was given then, and needs nothing else. Overlays answer yes
only where bypass is allowed and the view is upright. -/
theorem promise_kept (settings : Settings) (outputs : Nat) (area : Rect) (transform : Transform) (h : σ) (s : Surface)
    (created : (create settings outputs area transform h).value = .ok s) (rs : List Request) :
    let opening := create settings outputs area transform h
    let ts := s.steps opening.state rs
    (∀ (past later : List (Step σ)) (u : Step σ), ts = past ++ u :: later → u.request = .post →
        (u.posted.any Frame.isClient = true ↔ (past.filterMap Step.event).getLast? = some (.offered true))) ∧
      (∀ (past since later : List (Step σ)) (t u : Step σ) (offers : List Renderable),
        ts = past ++ t :: (since ++ u :: later) → t.request = .overlay offers → t.event = some (.offered true) →
        (∀ v ∈ since, v.event = none) → u.request = .post →
        ∃ (p : Pick) (planes : List Int32) (fb : Framebuffer),
          (Matcher.start t.before.area).pick offers.reverse = some p ∧ p.chosen.buffer.planes = some planes ∧
          imports t.acts = [.importBuffer 0 planes (some fb)] ∧ (u.before.post u.hardware).value.1 = .ok () ∧
          u.posted = some (.bypass p.chosen.buffer) ∧ u.after.candidate = none ∧
          (∀ a ∈ u.acts, ¬ a.Fetches) ∧ (∃ a ∈ u.acts, a.Presents) ∧
          ∀ a ∈ u.acts, a.Presents → Watch.Asks outputs fb a) ∧
      (∀ t ∈ ts, t.event = some (.offered true) → settings.bypass = .allowed ∧ t.before.transform = .normal) ∧
      (settings.bypass = .prohibited →
        imports (opening.acts ++ ts.flatMap Step.acts) = [] ∧ ∀ t ∈ ts, t.posted.any Frame.isClient = false) ∧
      (∀ t ∈ ts, t.request = .swapBuffers → (t.before.swapBuffers t.hardware).value.1.isOk = false →
        t.after = t.before ∧ t.acts = [.swap false]) ∧
      ∀ t ∈ ts, ∀ (offers : List Renderable) (c : Candidate), t.request = .overlay offers →
        t.before.candidate = some c →
        t.acts.head? = some (.releaseClient c.buffer) := by
  intro opening ts
  obtain ⟨p, b, fb, pos, made, opened⟩ := create_opened settings outputs area transform h s created
  have fresh : s.candidate = none := by rw [made]
  have size : s.outputs = outputs := by rw [made]
  have option : s.option = settings.bypass := by rw [made]
  have along := (s.made_along opening.state rs).1
  refine ⟨?client, ?shown, ?allowed, ?prohibited, ?failed, ?replaced⟩
  case client =>
    intro past later u split post
    exact client_iff_promised fresh split post
  case shown =>
    intro past since later t u offers split overlay taken quiet post
    have decided := t.candidate_of_event
    rw [taken] at decided
    obtain ⟨c, got⟩ := Option.isSome_iff_exists.1 decided
    obtain ⟨-, -, p, planes, picked, shared, same, imported⟩ := Step.chosen_of_overlay overlay got
    have hu : u ∈ ts := by simp [split]
    have kept : u.before.candidate = some c := (candidate_since split quiet).trans got
    have outs : u.before.outputs = outputs := (along u hu).1.trans size
    obtain ⟨answer, posted, fetches, presents, asks⟩ := Step.shown_of_candidate post (outs.symm ▸ pos) kept
    rw [Candidate.frame, same] at posted
    rw [outs] at asks
    have used := Step.no_candidate_of_post post
    exact ⟨p, planes, c.fb, picked, shared, imported, answer, posted, used, fetches, presents, asks⟩
  case allowed =>
    intro t ht taken
    have decided := t.candidate_of_event
    rw [taken] at decided
    obtain ⟨c, got⟩ := Option.isSome_iff_exists.1 decided
    obtain ⟨offers, overlay⟩ := Step.overlay_of_offered taken
    obtain ⟨upright, allowed, -⟩ := Step.chosen_of_overlay overlay got
    exact ⟨option.symm.trans ((along t ht).2.2.symm.trans allowed), upright⟩
  case prohibited =>
    intro prohibited
    have never := no_candidate_along fresh (option.trans prohibited) opening.state rs
    refine ⟨?_, fun t ht => ?_⟩
    · rw [imports_append, imports_opened opened, List.nil_append]
      refine imports_eq_nil fun a ha => ?_
      obtain ⟨t, ht, ha⟩ := List.mem_flatMap.1 ha
      have none_imported := imports_prohibited (never t ht).2
      rw [imports, List.filter_eq_nil_iff] at none_imported
      exact Bool.eq_false_iff.2 (none_imported a ha)
    · by_cases post : t.request = .post
      · rw [Step.client_of_post post, (never t ht).1]
        rfl
      · rw [Step.posted_of_aside post]
        rfl
  case failed =>
    intro t _ swap refused
    rw [Step.after_of_swap swap, Step.acts_of_swap swap]
    rcases t.before.swapBuffers_run t.hardware with ⟨value, acts, -⟩ | ⟨-, -, succeeded⟩
    · exact ⟨value, acts⟩
    · rw [refused] at succeeded
      cases succeeded
  case replaced =>
    intro t _ offers c overlay kept
    obtain ⟨_, _, _, -, acts, -⟩ := t.before.overlay_run offers t.hardware
    rw [Step.acts_of_overlay overlay, acts, kept]
    rfl

/-- A client's buffer that covers the view. -/
def fullScreen : Renderable := ⟨⟨7, ⟨1920, 1080⟩, some [3]⟩, twoHeadsView, .normal, .one, false⟩

def oneClient : List Request := [.overlay [fullScreen], .scheduleModeSet, .post, .post]

/-- The first of two posts shows the client's buffer, the second one does not. -/
theorem twoHeads_show_client : (create {} 2 twoHeadsView .normal (twoHeads true)).value = .ok twoHeadsSurface ∧
    ∃ offer modeSet post next : Step Rig,
      twoHeadsSurface.steps (create {} 2 twoHeadsView .normal (twoHeads true)).state oneClient =
        [offer, modeSet, post, next] ∧
      offer.event = some (.offered true) ∧ modeSet.event = none ∧ post.posted = some (.bypass fullScreen.buffer) ∧
      (∀ a ∈ post.acts, ¬ a.Fetches) ∧ (∀ a ∈ post.acts, a.Presents → Watch.Asks 2 ⟨100003⟩ a) ∧
      next.posted.any Frame.isClient = false := by
  refine ⟨rfl, ?_⟩
  obtain ⟨client, shown, -⟩ :=
    promise_kept {} 2 twoHeadsView .normal (twoHeads true) twoHeadsSurface rfl oneClient
  let drawn := create {} 2 twoHeadsView .normal (twoHeads true)
  let offered := twoHeadsSurface.perform (.overlay [fullScreen]) drawn.state
  let due := offered.value.perform .scheduleModeSet offered.state
  let posted := due.value.perform .post due.state
  let offer : Step Rig := ⟨twoHeadsSurface, drawn.state, .overlay [fullScreen]⟩
  let modeSet : Step Rig := ⟨offered.value, offered.state, .scheduleModeSet⟩
  let post : Step Rig := ⟨due.value, due.state, .post⟩
  let next : Step Rig := ⟨posted.value, posted.state, .post⟩
  have taken : offer.event = some (.offered true) := by decide +kernel
  have quiet : modeSet.event = none := by decide +kernel
  have used : ([offer, modeSet, post].filterMap Step.event).getLast? ≠ some (.offered true) := by decide +kernel
  have picked : (Matcher.start offer.before.area).pick [fullScreen].reverse = some ⟨[], fullScreen, []⟩ := by
    decide +kernel
  have imported : imports offer.acts = [.importBuffer 0 [3] (some ⟨100003⟩)] := by decide +kernel
  obtain ⟨p, planes, fb, picked', -, imported', -, shows, -, fetches, -, asks⟩ :=
    shown [] [modeSet] [next] offer post [fullScreen] rfl rfl taken (List.forall_mem_singleton.2 quiet) rfl
  obtain rfl := Option.some.inj (picked.symm.trans picked')
  obtain ⟨-, -, found⟩ := Act.importBuffer.inj (List.singleton_inj.1 (imported.symm.trans imported'))
  obtain rfl := Option.some.inj found
  have composite : next.posted.any Frame.isClient = false :=
    Bool.eq_false_iff.2 fun again => used ((client [offer, modeSet, post] [] next rfl rfl).1 again)
  exact ⟨offer, modeSet, post, next, rfl, taken, quiet, shows, fetches, asks, composite⟩

end Surface

end Multihead.Scanout
