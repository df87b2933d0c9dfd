import Multihead.Proofs.Scanout.Creation
import Multihead.Proofs.Scanout.Exchange
import Multihead.Proofs.Scanout.Steps

/-! # What comes of a post
Every way in which a post can go, with its answer, the surface it leaves, and all its acts in order. A post settles;
then it gets a frame or fails; then it brings the frame up on the outputs, and settles again if it does not leave
that to the next one. -/

set_option autoImplicit false

namespace Multihead.Scanout

/-! ## Getting a frame -/

inductive Fetched : Pipeline → Except PresentError (FrontBuffer × Framebuffer) → List Act → Prop
  | noFrontBuffer (p : Pipeline) (reason : String) : Fetched p (.error (.noFrontBuffer reason)) [.lock none]
  | noCopy (front : FrontBuffer) (reason : String) :
    Fetched .bounce (.error (.migration reason)) [.lock (some front), .copy front none, .release front]
  | noFramebuffer {p : Pipeline} {front b : FrontBuffer} {acts : List Act} (carried : Carried p front b acts) :
    Fetched p (.error .noFramebuffer) (.lock (some front) :: (acts ++ [.framebuffer 0 b none, .release b]))
  | got {p : Pipeline} {front b : FrontBuffer} {acts : List Act} (carried : Carried p front b acts)
    (fb : Framebuffer) : Fetched p (.ok (b, fb)) (.lock (some front) :: (acts ++ [.framebuffer 0 b (some fb)]))

/-- Where the frame of a post comes from, and its framebuffer. -/
inductive Sourced (s : Surface) : Frame → Framebuffer → List Act → Prop
  | client (c : Candidate) (kept : s.candidate = some c) : Sourced s c.frame c.fb []
  | composite {b : FrontBuffer} {fb : Framebuffer} {acts : List Act} (none_kept : s.candidate = none)
    (fetched : Fetched s.pipeline (.ok (b, fb)) acts) : Sourced s (.composite b) fb acts

/-! ## Bringing a frame up -/

/-- How `n` outputs are made to show a framebuffer: whether a mode-set was due, and whether a flip was taken. -/
inductive Presented (n : Nat) (fb : Framebuffer) : Bool → Bool → List Act → Prop
  | modeSet (ok : Nat → Bool) : Presented n fb true false ((List.range n).map fun k => .setCrtc k fb (ok k))
  | flipped (ok : Nat → Bool) {j : Nat} (place : j < n) (taken : ok j = true) :
    Presented n fb false true ((List.range n).map fun k => .flip k fb (ok k))
  | fellBack (ok : Nat → Bool) :
    Presented n fb false false
      ((List.range n).map (fun k => .flip k fb false) ++ (List.range n).map fun k => .setCrtc k fb (ok k))

theorem Presented.asks {n : Nat} {fb : Framebuffer} {due taken : Bool} {acts : List Act}
    (presented : Presented n fb due taken acts) : ∀ a ∈ acts, Watch.Asks n fb a := by
  cases presented with
  | modeSet ok =>
    refine List.forall_mem_map.2 fun k hk => ?_
    exact ⟨k, List.mem_range.1 hk, ok k, .inl rfl⟩
  | flipped ok =>
    refine List.forall_mem_map.2 fun k hk => ?_
    exact ⟨k, List.mem_range.1 hk, ok k, .inr rfl⟩
  | fellBack ok =>
    refine List.forall_mem_append.2 ⟨List.forall_mem_map.2 fun k hk => ?_, List.forall_mem_map.2 fun k hk => ?_⟩
    · exact ⟨k, List.mem_range.1 hk, false, .inr rfl⟩
    · exact ⟨k, List.mem_range.1 hk, ok k, .inl rfl⟩

namespace Surface

def paced (s : Surface) (t : Timings) : Surface := { s with timings := t }

/-- What was scheduled has become visible. -/
def settled (s : Surface) : Surface :=
  { s with scheduled := none, visible := s.scheduled.or s.visible, flipsPending := false }

def settling (s : Surface) : List Act := s.pendingPlaces.map .wait ++ s.retired.map Frame.released

/-- The scheduled frame was brought up, by flips if they were taken. -/
def raised (s : Surface) (taken : Bool) : Surface :=
  { s with needsModeSet := false, flipsPending := s.flipsPending || taken }

end Surface

namespace Surface

variable (s : Surface) (frame : Frame) (taken : Bool) (t : Timings)

@[simp] theorem pendingPlaces_raised :
    ((s.settled.schedule frame).raised taken).pendingPlaces = if taken then s.places else [] := rfl

@[simp] theorem retired_raised : ((s.settled.schedule frame).raised taken).retired = s.newest.toList := rfl

@[simp] theorem newest_raised : (((s.settled.schedule frame).raised taken).paced t).newest = some frame := rfl

@[simp] theorem newest_settled : (((s.settled.schedule frame).raised taken).settled.paced t).newest = some frame := rfl

end Surface

theorem waitsAtOnce_eq (s : Surface) (frame : Frame) : s.waitsAtOnce frame = (s.outputs == 1 || frame.isClient) := by
  cases frame with
  | composite b => exact (Bool.or_false _).symm
  | bypass b => exact (Bool.or_true _).symm

/-! ## The acts of a post -/

section Acts
variable {P : Act → Prop}

theorem Surface.forall_settling (wait : ∀ k, P (.wait k)) (release : ∀ f : Frame, P f.released) (s : Surface) :
    ∀ a ∈ s.settling, P a := by
  rw [settling, List.forall_mem_append, List.forall_mem_map, List.forall_mem_map]
  exact ⟨fun k _ => wait k, fun f _ => release f⟩

theorem Fetched.forall_acts (lock : ∀ answer, P (.lock answer)) (copy : ∀ source answer, P (.copy source answer))
    (framebuffer : ∀ b answer, P (.framebuffer 0 b answer)) (release : ∀ f : Frame, P f.released) {p : Pipeline}
    {r : Except PresentError (FrontBuffer × Framebuffer)} {acts : List Act} (fetched : Fetched p r acts) :
    ∀ a ∈ acts, P a := by
  have back : ∀ b, P (.release b) := fun b => release (.composite b)
  have carry : ∀ {front b acts}, Carried p front b acts → ∀ a ∈ acts, P a := by
    intro front b acts carried
    cases carried with
    | asIs => exact List.forall_mem_nil _
    | copied => exact List.forall_mem_cons.2 ⟨copy _ _, List.forall_mem_singleton.2 (back _)⟩
  cases fetched with
  | noFrontBuffer reason => exact List.forall_mem_singleton.2 (lock _)
  | noCopy front reason =>
    exact List.forall_mem_cons.2 ⟨lock _, List.forall_mem_cons.2 ⟨copy _ _, List.forall_mem_singleton.2 (back _)⟩⟩
  | noFramebuffer carried =>
    refine List.forall_mem_cons.2 ⟨lock _, List.forall_mem_append.2 ⟨carry carried, ?_⟩⟩
    exact List.forall_mem_cons.2 ⟨framebuffer _ _, List.forall_mem_singleton.2 (back _)⟩
  | got carried fb =>
    refine List.forall_mem_cons.2 ⟨lock _, List.forall_mem_append.2 ⟨carry carried, ?_⟩⟩
    exact List.forall_mem_singleton.2 (framebuffer _ _)

end Acts

/-! ## Posts -/

inductive Posted (s : Surface) : Except PresentError Unit → Surface → List Act → Prop
  | failed (e : PresentError) (t : Timings) {acts : List Act} (none_kept : s.candidate = none)
    (fetched : Fetched s.pipeline (.error e) acts) :
    Posted s (.error e) (s.settled.paced t) (s.settling ++ acts)
  | scheduled {frame : Frame} {fb : Framebuffer} {source acts : List Act} {taken : Bool} (t : Timings)
    (sourced : Sourced s frame fb source) (presented : Presented s.outputs fb s.needsModeSet taken acts)
    (later : s.waitsAtOnce frame = false) :
    Posted s (.ok ()) (((s.settled.schedule frame).raised taken).paced t) (s.settling ++ (source ++ acts))
  | settled {frame : Frame} {fb : Framebuffer} {source acts : List Act} {taken : Bool} (t : Timings)
    (sourced : Sourced s frame fb source) (presented : Presented s.outputs fb s.needsModeSet taken acts)
    (once : s.waitsAtOnce frame = true) :
    Posted s (.ok ()) (((s.settled.schedule frame).raised taken).settled.paced t)
      (s.settling ++ (source ++ (acts ++ ((s.settled.schedule frame).raised taken).settling)))

/-- Between two parts of a post that show nothing, its frame is brought up. -/
inductive BroughtUp (s : Surface) (frame : Frame) (fb : Framebuffer) : List Act → Prop
  | shown {source asked closing : List Act} {taken : Bool} (sourced : Sourced s frame fb source)
    (presented : Presented s.outputs fb s.needsModeSet taken asked)
    (closes : closing = [] ∨ ∃ u : Surface, closing = u.settling) :
    BroughtUp s frame fb (s.settling ++ (source ++ (asked ++ closing)))

theorem Posted.broughtUp {s u : Surface} {r : Except PresentError Unit} {acts : List Act} {frame : Frame}
    (posted : Posted s r u acts) (brought : u.brought r = some frame) : ∃ fb, BroughtUp s frame fb acts := by
  cases posted with
  | failed => cases brought
  | @scheduled frame' fb source acts taken t sourced presented =>
    obtain rfl : frame' = frame := Option.some.inj brought
    have parts := BroughtUp.shown sourced presented (.inl rfl)
    rw [List.append_nil] at parts
    exact ⟨fb, parts⟩
  | @settled frame' fb source acts taken t sourced presented =>
    obtain rfl : frame' = frame := Option.some.inj brought
    exact ⟨fb, .shown sourced presented (.inr ⟨_, rfl⟩)⟩

theorem forall_closing {P : Act → Prop} (wait : ∀ k, P (.wait k)) (release : ∀ f : Frame, P f.released)
    {closing : List Act} (closes : closing = [] ∨ ∃ u : Surface, closing = u.settling) : ∀ a ∈ closing, P a := by
  rcases closes with rfl | ⟨u, rfl⟩
  · exact List.forall_mem_nil _
  · exact u.forall_settling wait release

/-- Outputs are waited for or asked to show something; buffers are fetched or let go. -/
def Act.OfPost : Act → Prop
  | wait _ | setCrtc _ _ _ | flip _ _ _ | lock _ | copy _ _ | framebuffer _ _ _ | release _ | releaseClient _ => True
  | _ => False

theorem Frame.released_ofPost (f : Frame) : f.released.OfPost := by
  cases f <;> trivial

theorem Posted.ofPost {s u : Surface} {r : Except PresentError Unit} {acts : List Act} (posted : Posted s r u acts) :
    ∀ a ∈ acts, a.OfPost := by
  have settles : ∀ s : Surface, ∀ a ∈ s.settling, a.OfPost :=
    fun s => s.forall_settling (fun _ => trivial) Frame.released_ofPost
  have fetch : ∀ {p r acts}, Fetched p r acts → ∀ a ∈ acts, a.OfPost := fun fetched =>
    fetched.forall_acts (fun _ => trivial) (fun _ _ => trivial) (fun _ _ => trivial) Frame.released_ofPost
  have source : ∀ {frame fb acts}, Sourced s frame fb acts → ∀ a ∈ acts, a.OfPost := by
    intro frame fb acts sourced
    cases sourced with
    | client => exact List.forall_mem_nil _
    | composite none_kept fetched => exact fetch fetched
  have ask : ∀ {n fb due taken acts}, Presented n fb due taken acts → ∀ a ∈ acts, a.OfPost := by
    intro n fb due taken acts presented a ha
    obtain ⟨k, -, ok, rfl | rfl⟩ := presented.asks a ha <;> trivial
  cases posted with
  | failed e t none_kept fetched => exact List.forall_mem_append.2 ⟨settles s, fetch fetched⟩
  | scheduled t sourced presented =>
    exact List.forall_mem_append.2 ⟨settles s, List.forall_mem_append.2 ⟨source sourced, ask presented⟩⟩
  | settled t sourced presented =>
    refine List.forall_mem_append.2 ⟨settles s, List.forall_mem_append.2 ⟨source sourced, ?_⟩⟩
    exact List.forall_mem_append.2 ⟨ask presented, settles _⟩

theorem Posted.no_candidate {s u : Surface} {r : Except PresentError Unit} {acts : List Act}
    (posted : Posted s r u acts) : u.candidate = none := by
  cases posted with
  | failed e t none_kept => exact none_kept
  | scheduled | settled => rfl

namespace Surface

variable {σ : Type} [Hardware σ]

theorem fetch_fetched (s : Surface) (h : σ) : Fetched s.pipeline (s.fetch h).value (s.fetch h).acts := by
  rw [fetch, Drive.bind_run, Drive.lockFront, Drive.ask]
  cases (Hardware.lockFront h).1 with
  | error reason => exact .noFrontBuffer _ reason
  | ok front =>
    simp only [Drive.bind_run]
    rcases migrate_carried s.pipeline front (Hardware.lockFront h).2 with
      ⟨b, migrated, carried⟩ | ⟨reason, bounce, migrated, acts⟩
    · rw [migrated]
      simp only [Drive.bind_run, Drive.framebuffer, Drive.ask]
      cases (Hardware.framebufferOf 0 b (s.pipeline.migrate front (Hardware.lockFront h).2).state).1 with
      | some fb => exact .got carried fb
      | none => exact .noFramebuffer carried
    · rw [migrated, acts, bounce]
      exact .noCopy front reason

/-- Asking outputs in turn is the same as giving all their answers beforehand. -/
theorem answers_cons {k : Nat} {ks : List Nat} (act : Nat → Bool → Act) (ok : Nat → Bool) (answer : Bool)
    (apart : k ∉ ks) :
    act k answer :: ks.map (fun j => act j (ok j)) =
      (k :: ks).map fun j => act j (Function.update ok k answer j) := by
  rw [List.map_cons, Function.update_self]
  refine congrArg _ (List.map_congr_left fun j hj => ?_)
  rw [Function.update_of_ne (ne_of_mem_of_not_mem hj apart)]

theorem setCrtcs_answers (fb : Framebuffer) {ks : List Nat} (apart : ks.Nodup) (h : σ) :
    ∃ ok : Nat → Bool, (setCrtcs fb ks h).acts = ks.map fun k => .setCrtc k fb (ok k) := by
  induction ks generalizing h with
  | nil => exact ⟨fun _ => false, rfl⟩
  | cons k ks ih =>
    obtain ⟨first, rest⟩ := List.nodup_cons.1 apart
    obtain ⟨ok, later⟩ := ih rest (Hardware.setCrtc k fb h).2
    refine ⟨Function.update ok k (Hardware.setCrtc k fb h).1, ?_⟩
    rw [← answers_cons (fun j => .setCrtc j fb) ok _ first, ← later]
    rfl

theorem flips_answers (fb : Framebuffer) {ks : List Nat} (apart : ks.Nodup) (h : σ) :
    ∃ ok : Nat → Bool, (flips fb ks h).acts = ks.map (fun k => .flip k fb (ok k)) ∧
      (flips fb ks h).value = ks.any ok := by
  induction ks generalizing h with
  | nil => exact ⟨fun _ => false, rfl, rfl⟩
  | cons k ks ih =>
    obtain ⟨first, rest⟩ := List.nodup_cons.1 apart
    obtain ⟨ok, later, value⟩ := ih rest (Hardware.flip k fb h).2
    -- no place comes twice, so that the first answer can be put in beside the later ones
    refine ⟨Function.update ok k (Hardware.flip k fb h).1, ?_, ?_⟩
    · rw [← answers_cons (fun j => .flip j fb) ok _ first, ← later, flips]
      simp only [Drive.bind_run, Drive.pure_run, List.append_nil]
      rfl
    · have same : ks.any (Function.update ok k (Hardware.flip k fb h).1) = ks.any ok := by
        rw [Bool.eq_iff_iff, List.any_eq_true, List.any_eq_true]
        refine exists_congr fun j => and_congr_right fun hj => ?_
        rw [Function.update_of_ne (ne_of_mem_of_not_mem hj first)]
      rw [List.any_cons, Function.update_self, same, ← value]
      rfl

theorem present_presented (s : Surface) (fb : Framebuffer) (h : σ) :
    ∃ taken t, Presented s.outputs fb s.needsModeSet taken (s.present fb h).acts ∧
      (s.present fb h).value = (s.raised taken).paced t := by
  have apart : s.places.Nodup := List.nodup_range
  rw [present]
  cases due : s.needsModeSet with
  | true =>
    obtain ⟨ok, acts⟩ := setCrtcs_answers fb apart h
    simp only [if_true, Drive.bind_run, Drive.pure_run, List.append_nil, acts]
    exact ⟨false, s.timings, .modeSet ok, by rw [raised, paced, Bool.or_false]⟩
  | false =>
    obtain ⟨ok, acts, any⟩ := flips_answers fb apart h
    simp only [Bool.false_eq_true, if_false, Drive.bind_run]
    cases taken : (flips fb s.places h).value with
    | true =>
      obtain ⟨j, place, accepts⟩ := List.any_eq_true.1 (any.symm.trans taken)
      simp only [if_true, Drive.bind_run, Drive.now, Drive.ask, Drive.pure_run, List.append_nil, acts]
      exact ⟨true, _, .flipped ok (List.mem_range.1 place) accepts, by rw [raised, paced, Bool.or_true]⟩
    | false =>
      obtain ⟨ok', acts'⟩ := setCrtcs_answers fb apart (flips fb s.places h).state
      have refused : s.places.map (fun k => Act.flip k fb (ok k)) = s.places.map fun k => .flip k fb false := by
        refine List.map_congr_left fun k hk => ?_
        have no := List.any_eq_false.1 (any.symm.trans taken) k hk
        rw [Bool.eq_false_iff.2 no]
      simp only [Bool.false_eq_true, if_false, Drive.bind_run, Drive.pure_run, List.append_nil, acts, acts', refused]
      exact ⟨false, s.timings, .fellBack ok', by rw [raised, paced, Bool.or_false, ← due]⟩

theorem settle_settled (s : Surface) (h : σ) :
    (∃ t, (s.settle h).value = s.settled.paced t) ∧ (s.settle h).acts = s.settling :=
  s.settle_run h

theorem nextFrame_sourced (s : Surface) (h : σ) :
    match (s.nextFrame h).value with
    | .ok (frame, fb) => Sourced s frame fb (s.nextFrame h).acts
    | .error e => s.candidate = none ∧ Fetched s.pipeline (.error e) (s.nextFrame h).acts := by
  rw [nextFrame]
  cases kept : s.candidate with
  | some c => exact .client c kept
  | none =>
    have fetched := s.fetch_fetched h
    simp only [Drive.bind_run, Drive.pure_run, List.append_nil]
    cases got : (s.fetch h).value with
    | ok got' =>
      rw [got] at fetched
      exact .composite kept fetched
    | error e =>
      rw [got] at fetched
      exact ⟨trivial, fetched⟩

theorem waitsAtOnce_paced (s : Surface) (frame : Frame) (taken : Bool) (t : Timings) :
    (((s.schedule frame).raised taken).paced t).waitsAtOnce frame = s.waitsAtOnce frame := by
  cases frame <;> rfl

theorem showFrame_presented (s : Surface) (frame : Frame) (fb : Framebuffer) (h : σ) :
    ∃ taken acts t, Presented s.outputs fb s.needsModeSet taken acts ∧
      ((s.waitsAtOnce frame = false ∧ (s.showFrame frame fb h).value = ((s.schedule frame).raised taken).paced t ∧
        (s.showFrame frame fb h).acts = acts) ∨
       (s.waitsAtOnce frame = true ∧
        (s.showFrame frame fb h).value = ((s.schedule frame).raised taken).settled.paced t ∧
        (s.showFrame frame fb h).acts = acts ++ ((s.schedule frame).raised taken).settling)) := by
  obtain ⟨taken, t, presented, value⟩ := (s.schedule frame).present_presented fb h
  rcases s.showFrame_run frame fb h _ rfl with ⟨later, t', shown, acts⟩ | ⟨once, t', shown, acts⟩
  · rw [value] at later shown
    rw [waitsAtOnce_paced] at later
    exact ⟨taken, _, t', presented, .inl ⟨later, shown, acts⟩⟩
  · obtain ⟨⟨t'', settled⟩, settling⟩ :=
      ((s.schedule frame).present fb h).value.settle_settled ((s.schedule frame).present fb h).state
    rw [settled, value] at shown
    rw [settling, value] at acts
    rw [value, waitsAtOnce_paced] at once
    exact ⟨taken, _, t', presented, .inr ⟨once, shown, acts⟩⟩

theorem sourced_of_settled {s : Surface} {frame : Frame} {fb : Framebuffer} {acts : List Act} {t : Timings}
    (sourced : Sourced (s.settled.paced t) frame fb acts) : Sourced s frame fb acts := by
  cases sourced with
  | client c kept => exact .client c kept
  | composite none_kept fetched => exact .composite none_kept fetched

theorem post_posted (s : Surface) (h : σ) : Posted s (s.post h).value.1 (s.post h).value.2 (s.post h).acts := by
  obtain ⟨⟨t, settled⟩, settling⟩ := s.settle_settled h
  have sourced := (s.settle h).value.nextFrame_sourced (s.settle h).state
  rcases s.post_run h with ⟨e, next, value, acts⟩ | ⟨frame, fb, h', next, value, acts⟩
  · rw [next] at sourced
    rw [value, acts, fetching, settling]
    rw [settled] at sourced ⊢
    exact .failed e t sourced.1 sourced.2
  · rw [next] at sourced
    obtain ⟨taken, acts', t', presented, shown⟩ := (s.settle h).value.showFrame_presented frame fb h'
    rw [value, acts, fetching, settling, List.append_assoc]
    rw [settled] at sourced presented shown ⊢
    have sameWait : (s.settled.paced t).waitsAtOnce frame = s.waitsAtOnce frame := by cases frame <;> rfl
    rw [sameWait] at shown
    rcases shown with ⟨later, after, rest⟩ | ⟨once, after, rest⟩
    · rw [after, rest]
      exact .scheduled t' (sourced_of_settled sourced) presented later
    · rw [after, rest]
      exact .settled t' (sourced_of_settled sourced) presented once

end Surface

/-! ## Creation -/

/-- How a first frame was made and shown on `n` outputs. -/
inductive Opened (n : Nat) (p : Pipeline) (b : FrontBuffer) (fb : Framebuffer) : List Act → Prop
  | shown {front : FrontBuffer} {copiers source : List Act} (ok : Nat → Bool)
    (made : ∀ a ∈ copiers, ∃ device size format answer, a = .createCopier device size format answer)
    (carried : Carried p front b source) :
    Opened n p b fb (.makeCurrent true :: .swap true :: .lock (some front) ::
      (copiers ++ (source ++ .framebuffer 0 b (some fb) ::
        ((List.range n).map (fun k => .setCrtc k fb (ok k)) ++ [.releaseCurrent]))))

/-- A first frame is made, fetched and shown by mode-sets. -/
def Act.Opens : Act → Prop
  | makeCurrent _ | swap _ | lock _ | createCopier _ _ _ _ | copy _ _ | release _ | framebuffer _ _ _ | setCrtc _ _ _
  | releaseCurrent => True
  | _ => False

theorem Opened.opens {n : Nat} {p : Pipeline} {b : FrontBuffer} {fb : Framebuffer} {acts : List Act}
    (opened : Opened n p b fb acts) : ∀ a ∈ acts, a.Opens := by
  obtain ⟨ok, made, carried⟩ := opened
  simp only [List.forall_mem_cons, List.forall_mem_append, List.forall_mem_map]
  refine ⟨trivial, trivial, trivial, fun a ha => ?_, ?_, trivial, fun k _ => trivial, trivial, List.forall_mem_nil _⟩
  · obtain ⟨_, _, _, _, rfl⟩ := made a ha
    trivial
  · cases carried with
    | asIs => exact List.forall_mem_nil _
    | copied => exact List.forall_mem_cons.2 ⟨trivial, List.forall_mem_singleton.2 trivial⟩

namespace Surface

variable {σ : Type} [Hardware σ]

theorem create_opened (settings : Settings) (outputs : Nat) (area : Rect) (transform : Transform) (h : σ) (s : Surface)
    (created : (create settings outputs area transform h).value = .ok s) :
    ∃ p b fb, 0 < outputs ∧
      s = { outputs, pipeline := p, area, transform, option := settings.bypass, candidate := none, scheduled := none,
            visible := some (.composite b), needsModeSet := false, flipsPending := false,
            timings := Timings.fresh (.ofMillis settings.compositeBudget) (.ofMillis settings.bypassBudget) } ∧
      Opened outputs p b fb (create settings outputs area transform h).acts := by
  obtain ⟨p, b, fb, h', pos, got, rfl, acts⟩ := create_run settings outputs area transform h s created
  have begun := firstFrame_begun outputs h
  rw [got] at begun
  obtain ⟨front, copiers, source, choice, carried, -, first⟩ := begun.got
  obtain ⟨ok, modeSets⟩ := setCrtcs_answers fb (List.nodup_range (n := outputs)) h'
  refine ⟨p, b, fb, pos, rfl, ?_⟩
  have made : Opened outputs p b fb _ := .shown ok (choice.forall_acts fun ok => ⟨_, _, _, ok, rfl⟩) carried
  rw [acts, first, modeSets]
  simpa using made

end Surface

/-! ## Other requests -/

/-- Nothing is shown, waited for or fetched by it. -/
def Act.Aside : Act → Prop
  | importBuffer _ _ _ | swap _ | releaseClient _ => True
  | _ => False

/-- The frames, and all that a surface was made with, stay as they are. -/
structure Aside (s u : Surface) (acts : List Act) : Prop where
  outputs : u.outputs = s.outputs
  pipeline : u.pipeline = s.pipeline
  option : u.option = s.option
  scheduled : u.scheduled = s.scheduled
  visible : u.visible = s.visible
  flipsPending : u.flipsPending = s.flipsPending
  acts : ∀ a ∈ acts, a.Aside

theorem released_aside (bs : List ClientBuffer) : ∀ a ∈ (bs.map Frame.bypass).map Frame.released, a.Aside := by
  simp [Frame.released, Act.Aside]

theorem candidate_aside (kept : List Candidate) :
    ∀ a ∈ (kept.map Candidate.frame).map Frame.released, a.Aside := by
  simp [Candidate.frame, Frame.released, Act.Aside]

/-! ## Steps -/

namespace Step

variable {σ : Type} [Hardware σ]

theorem acts_of_post {t : Step σ} (post : t.request = .post) : t.acts = (t.before.post t.hardware).acts := by
  obtain ⟨s, h, r⟩ := t
  cases post
  rw [acts, Surface.perform, Drive.map_run]

theorem after_of_post {t : Step σ} (post : t.request = .post) : t.after = (t.before.post t.hardware).value.2 := by
  obtain ⟨s, h, r⟩ := t
  cases post
  rfl

theorem posted_of_post {t : Step σ} (post : t.request = .post) :
    t.posted = t.after.brought (t.before.post t.hardware).value.1 := by
  obtain ⟨s, h, r⟩ := t
  cases post
  rfl

theorem outcome {t : Step σ} (post : t.request = .post) :
    Posted t.before (t.before.post t.hardware).value.1 t.after t.acts := by
  rw [acts_of_post post, after_of_post post]
  exact t.before.post_posted t.hardware

theorem broughtUp {t : Step σ} {frame : Frame} (posted : t.posted = some frame) :
    ∃ fb, BroughtUp t.before frame fb t.acts := by
  have post := isPost_of_posted posted
  rw [posted_of_post post] at posted
  exact (outcome post).broughtUp posted

theorem no_candidate_of_post {t : Step σ} (post : t.request = .post) : t.after.candidate = none :=
  (outcome post).no_candidate

/-! ### Other requests -/

theorem posted_of_aside {t : Step σ} (other : t.request ≠ .post) : t.posted = none := by
  by_contra some_frame
  obtain ⟨frame, posted⟩ := Option.ne_none_iff_exists'.1 some_frame
  exact other (isPost_of_posted posted)

theorem acts_of_overlay {t : Step σ} {rs : List Renderable} (overlay : t.request = .overlay rs) :
    t.acts = (t.before.overlay rs t.hardware).acts := by
  obtain ⟨s, h, r⟩ := t
  cases overlay
  rw [acts, Surface.perform, Drive.map_run]

theorem acts_of_swap {t : Step σ} (swap : t.request = .swapBuffers) :
    t.acts = (t.before.swapBuffers t.hardware).acts := by
  obtain ⟨s, h, r⟩ := t
  cases swap
  rw [acts, Surface.perform, Drive.map_run]

theorem after_of_swap {t : Step σ} (swap : t.request = .swapBuffers) :
    t.after = (t.before.swapBuffers t.hardware).value.2 := by
  obtain ⟨s, h, r⟩ := t
  cases swap
  rfl

theorem aside {t : Step σ} (other : t.request ≠ .post) : Aside t.before t.after t.acts := by
  obtain ⟨s, h, r⟩ := t
  cases r with
  | post => exact absurd rfl other
  | overlay rs =>
    obtain ⟨kept, rest, imports, value, acts, -, himports⟩ := s.overlay_run rs h
    have after : Step.after ⟨s, h, .overlay rs⟩ = { s with candidate := kept } := value
    rw [after, acts_of_overlay rfl, acts]
    refine ⟨rfl, rfl, rfl, rfl, rfl, rfl, ?_⟩
    rw [List.forall_mem_append, List.forall_mem_append]
    refine ⟨candidate_aside _, fun a ha => ?_, released_aside rest⟩
    obtain ⟨planes, fb, rfl⟩ := himports a ha
    trivial
  | swapBuffers =>
    rw [after_of_swap rfl, acts_of_swap rfl]
    rcases s.swapBuffers_run h with ⟨value, acts, -⟩ | ⟨value, acts, -⟩
    · rw [value, acts]
      exact ⟨rfl, rfl, rfl, rfl, rfl, rfl, List.forall_mem_singleton.2 trivial⟩
    · rw [value, acts]
      exact ⟨rfl, rfl, rfl, rfl, rfl, rfl, List.forall_mem_cons.2 ⟨trivial, candidate_aside _⟩⟩
  | setTransform | scheduleModeSet => exact ⟨rfl, rfl, rfl, rfl, rfl, rfl, List.forall_mem_nil _⟩

end Step

/-- Apart from its area and transform, a request that is no post touches the candidate, or asks for a mode-set. -/
theorem Surface.perform_of_aside {σ : Type} [Hardware σ] (s : Surface) (h : σ) {r : Request} (other : r ≠ .post) :
    ∃ candidate transform area due,
      (s.perform r h).value = { s with candidate, transform, area, needsModeSet := due } ∧
        (due = true ↔ r = .scheduleModeSet ∨ s.needsModeSet = true) := by
  cases r with
  | post => exact absurd rfl other
  | overlay rs =>
    obtain ⟨kept, rest, imports, value, -⟩ := s.overlay_run rs h
    exact ⟨kept, _, _, _, value, by simp⟩
  | swapBuffers =>
    change ∃ candidate transform area due, (s.swapBuffers h).value.2 = _ ∧ _
    rcases s.swapBuffers_run h with ⟨value, -⟩ | ⟨value, -⟩
    · exact ⟨_, _, _, _, value, by simp⟩
    · exact ⟨none, _, _, _, value, by simp⟩
  | setTransform transform area => exact ⟨_, transform, area, _, rfl, by simp⟩
  | scheduleModeSet => exact ⟨_, _, _, true, rfl, by simp⟩

/-! ## What a surface was made with -/

theorem Posted.made {s u : Surface} {r : Except PresentError Unit} {acts : List Act} (posted : Posted s r u acts) :
    u.outputs = s.outputs ∧ u.pipeline = s.pipeline ∧ u.option = s.option := by
  cases posted <;> exact ⟨rfl, rfl, rfl⟩

namespace Surface

variable {σ : Type} [Hardware σ]

theorem perform_made (s : Surface) (h : σ) (r : Request) :
    (s.perform r h).value.outputs = s.outputs ∧ (s.perform r h).value.pipeline = s.pipeline ∧
      (s.perform r h).value.option = s.option := by
  let t : Step σ := ⟨s, h, r⟩
  by_cases post : t.request = .post
  · exact (Step.outcome post).made
  · have aside := Step.aside post
    exact ⟨aside.outputs, aside.pipeline, aside.option⟩

theorem made_along (s : Surface) (h : σ) (rs : List Request) :
    (∀ t ∈ s.steps h rs, t.before.outputs = s.outputs ∧ t.before.pipeline = s.pipeline ∧ t.before.option = s.option) ∧
      (s.serve rs h).value.outputs = s.outputs ∧ (s.serve rs h).value.pipeline = s.pipeline ∧
      (s.serve rs h).value.option = s.option := by
  refine kept_along (fun u => u.outputs = s.outputs ∧ u.pipeline = s.pipeline ∧ u.option = s.option) ?_ s h rs
    ⟨rfl, rfl, rfl⟩
  rintro u h' r ⟨outputs, pipeline, option⟩
  obtain ⟨outputs', pipeline', option'⟩ := u.perform_made h' r
  exact ⟨outputs'.trans outputs, pipeline'.trans pipeline, option'.trans option⟩

end Surface

end Multihead.Scanout
