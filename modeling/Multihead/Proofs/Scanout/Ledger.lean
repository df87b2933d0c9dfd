import Multihead.Proofs.Scanout.Lifetime
import Multihead.Proofs.Scanout.Outcome

/-! # Who has which buffer
The ledger of a run. Every buffer that was obtained was let go once, or is held as the visible or the scheduled frame.
Frames leave in the order in which they were posted, and the buffer of a post that fails goes before it returns. A
front buffer that has to be copied goes to the copier once, and is the copier's from then on. -/

set_option autoImplicit false

namespace Multihead.Scanout

/-! ## Reading acts -/

/-- The front buffers that the render surface handed out. -/
def locked (acts : List Act) : List FrontBuffer :=
  acts.filterMap fun
    | .lock answer => answer
    | _ => none

/-- What was given to the copier. -/
def sources (acts : List Act) : List FrontBuffer :=
  acts.filterMap fun
    | .copy source _ => some source
    | _ => none

/-- What the copier gave for it. -/
def copies (acts : List Act) : List FrontBuffer :=
  acts.filterMap fun
    | .copy _ answer => answer
    | _ => none

/-- The buffers that a surface has to hand back. -/
def Pipeline.obtained : Pipeline → List Act → List FrontBuffer
  | direct, acts => locked acts
  | bounce, acts => copies acts

/-- The front buffers that have to be copied. -/
def Pipeline.bounced : Pipeline → List Act → List FrontBuffer
  | direct, _ => []
  | bounce, acts => locked acts

/-- The frames that go, other than a source that the copier hands back and a buffer without a framebuffer. -/
def leaving : List Act → List Frame
  | .copy _ _ :: .release _ :: acts => leaving acts
  | .framebuffer _ _ none :: .release _ :: acts => leaving acts
  | .release b :: acts => .composite b :: leaving acts
  | .releaseClient b :: acts => .bypass b :: leaving acts
  | _ :: acts => leaving acts
  | [] => []

/-- The buffers that go because no framebuffer was found for them. -/
def discarded : List Act → List FrontBuffer
  | .framebuffer _ _ none :: .release b :: acts => b :: discarded acts
  | _ :: acts => discarded acts
  | [] => []

/-- The frames that a surface holds, in the order in which they were posted. -/
def Surface.line (s : Surface) : List Frame := s.visible.toList ++ s.scheduled.toList

theorem locked_append (acts more : List Act) : locked (acts ++ more) = locked acts ++ locked more :=
  List.filterMap_append

theorem sources_append (acts more : List Act) : sources (acts ++ more) = sources acts ++ sources more :=
  List.filterMap_append

namespace Pipeline

theorem obtained_append (p : Pipeline) (acts more : List Act) :
    p.obtained (acts ++ more) = p.obtained acts ++ p.obtained more := by
  cases p <;> exact List.filterMap_append

theorem bounced_append (p : Pipeline) (acts more : List Act) :
    p.bounced (acts ++ more) = p.bounced acts ++ p.bounced more := by
  cases p with
  | direct => rfl
  | bounce => exact List.filterMap_append

end Pipeline

/-! ## Entries -/

/-- All that is read from a part of a trace: the frames that leave, and the buffers that are discarded, obtained, given
to the copier, and due to be given to it. Nothing that comes after the part changes it. -/
structure Booked (p : Pipeline) (acts : List Act) (left : List Frame) (gone got given due : List FrontBuffer) :
    Prop where
  leaving : ∀ more, leaving (acts ++ more) = left ++ leaving more
  discarded : ∀ more, discarded (acts ++ more) = gone ++ discarded more
  obtained : p.obtained acts = got
  sources : sources acts = given
  bounced : p.bounced acts = due
  released : ∀ b, acts.count (.release b) = left.count (.composite b) + gone.count b + given.count b

namespace Booked

variable {p : Pipeline} {acts more : List Act} {left left' : List Frame}
variable {gone got given due gone' got' given' due' : List FrontBuffer}

theorem nil (p : Pipeline) : Booked p [] [] [] [] [] [] := by
  cases p <;> exact ⟨fun _ => rfl, fun _ => rfl, rfl, rfl, rfl, fun _ => rfl⟩

theorem leaving_eq (booked : Booked p acts left gone got given due) : Scanout.leaving acts = left := by
  have alone := booked.leaving []
  rwa [List.append_nil, Scanout.leaving, List.append_nil] at alone

theorem discarded_eq (booked : Booked p acts left gone got given due) : Scanout.discarded acts = gone := by
  have alone := booked.discarded []
  rwa [List.append_nil, Scanout.discarded, List.append_nil] at alone

theorem append (first : Booked p acts left gone got given due) (second : Booked p more left' gone' got' given' due') :
    Booked p (acts ++ more) (left ++ left') (gone ++ gone') (got ++ got') (given ++ given') (due ++ due') where
  leaving rest := by rw [List.append_assoc, first.leaving, second.leaving, List.append_assoc]
  discarded rest := by rw [List.append_assoc, first.discarded, second.discarded, List.append_assoc]
  obtained := by rw [p.obtained_append, first.obtained, second.obtained]
  sources := by rw [sources_append, first.sources, second.sources]
  bounced := by rw [p.bounced_append, first.bounced, second.bounced]
  released b := by
    have now := first.released b
    have later := second.released b
    simp only [List.count_append]
    omega

end Booked

/-- No buffer changes hands. -/
def Act.Still : Act → Prop
  | lock _ | copy _ _ | framebuffer _ _ none | release _ | releaseClient _ => False
  | _ => True

theorem booked_still (p : Pipeline) {acts : List Act} (still : ∀ a ∈ acts, a.Still) : Booked p acts [] [] [] [] [] := by
  have one : ∀ a : Act, a.Still → Booked p [a] [] [] [] [] [] := by
    intro a still
    cases a with
    | lock | copy | release | releaseClient => cases still
    | framebuffer _ _ answer =>
      cases answer with
      | none => cases still
      | some fb => cases p <;> exact ⟨fun _ => rfl, fun _ => rfl, rfl, rfl, rfl, fun _ => rfl⟩
    | _ => cases p <;> exact ⟨fun _ => rfl, fun _ => rfl, rfl, rfl, rfl, fun _ => rfl⟩
  induction acts with
  | nil => exact .nil p
  | cons a acts ih =>
    obtain ⟨now, later⟩ := List.forall_mem_cons.1 still
    exact (one a now).append (ih later)

theorem booked_released (p : Pipeline) (frames : List Frame) :
    Booked p (frames.map Frame.released) frames [] [] [] [] := by
  have one : ∀ f : Frame, Booked p [f.released] [f] [] [] [] [] := by
    rintro (b | b)
    · have counted : ∀ b', [Act.release b].count (.release b') = [Frame.composite b].count (.composite b') := by
        intro b'
        by_cases same : b = b' <;> simp [same]
      cases p <;> exact ⟨fun _ => rfl, fun _ => rfl, rfl, rfl, rfl, counted⟩
    · have counted : ∀ b', [Act.releaseClient b].count (.release b') = [Frame.bypass b].count (.composite b') := by
        intro b'
        simp
      cases p <;> exact ⟨fun _ => rfl, fun _ => rfl, rfl, rfl, rfl, counted⟩
  induction frames with
  | nil => exact .nil p
  | cons f frames ih => exact (one f).append ih

theorem Surface.booked_settling (s : Surface) (p : Pipeline) : Booked p s.settling s.retired [] [] [] [] := by
  have waits : Booked p (s.pendingPlaces.map .wait) [] [] [] [] [] :=
    booked_still p (List.forall_mem_map.2 fun k _ => trivial)
  exact waits.append (booked_released p s.retired)

theorem Presented.booked {n : Nat} {fb : Framebuffer} {due taken : Bool} {acts : List Act}
    (presented : Presented n fb due taken acts) (p : Pipeline) : Booked p acts [] [] [] [] [] := by
  refine booked_still p ?_
  cases presented with
  | modeSet ok | flipped ok => exact List.forall_mem_map.2 fun k _ => trivial
  | fellBack ok =>
    exact List.forall_mem_append.2 ⟨List.forall_mem_map.2 fun k _ => trivial, List.forall_mem_map.2 fun k _ => trivial⟩

/-! ## Fetching -/

/-- What is obtained by fetching becomes the buffer of the frame, or is discarded. -/
theorem Fetched.booked {p : Pipeline} {r : Except PresentError (FrontBuffer × Framebuffer)} {acts : List Act}
    (fetched : Fetched p r acts) :
    ∃ gone given, Booked p acts [] gone ((r.toOption.map Prod.fst).toList ++ gone) given given ∧
      (r.isOk = true → gone = []) := by
  cases fetched with
  | noFrontBuffer p reason =>
    refine ⟨[], [], ?_, fun _ => rfl⟩
    cases p <;> exact ⟨fun _ => rfl, fun _ => rfl, rfl, rfl, rfl, fun _ => rfl⟩
  | noCopy front reason =>
    refine ⟨[], [front], ⟨fun _ => rfl, fun _ => rfl, rfl, rfl, rfl, fun b => ?_⟩, fun _ => rfl⟩
    simp [List.count_cons]
  | noFramebuffer carried =>
    cases carried with
    | asIs =>
      refine ⟨[_], [], ⟨fun _ => rfl, fun _ => rfl, rfl, rfl, rfl, fun b' => ?_⟩, fun ok => by cases ok⟩
      simp [List.count_cons]
    | copied =>
      refine ⟨[_], [_], ⟨fun _ => rfl, fun _ => rfl, rfl, rfl, rfl, fun b' => ?_⟩, fun ok => by cases ok⟩
      simp [List.count_cons]
  | got carried fb =>
    cases carried with
    | asIs => exact ⟨[], [], ⟨fun _ => rfl, fun _ => rfl, rfl, rfl, rfl, fun _ => rfl⟩, fun _ => rfl⟩
    | copied =>
      refine ⟨[], [_], ⟨fun _ => rfl, fun _ => rfl, rfl, rfl, rfl, fun b' => ?_⟩, fun _ => rfl⟩
      simp [List.count_cons]

/-! ## In hand -/

/-- What came in from the render surface or the copier went out again, or is in hand afterwards. -/
def InHand (before : List FrontBuffer) (acts : List Act) (after : List FrontBuffer) : Prop :=
  ∀ b, before.count b + (locked acts ++ copies acts).count b = acts.count (.release b) + after.count b

/-- A front buffer comes in or goes out. -/
def Act.Passes : Act → Prop
  | lock _ | copy _ _ | release _ => True
  | _ => False

namespace InHand

variable {before between after : List FrontBuffer} {acts more : List Act}

theorem append (first : InHand before acts between) (second : InHand between more after) :
    InHand before (acts ++ more) after := by
  intro b
  have now := first b
  have later := second b
  simp only [locked, copies, List.filterMap_append, List.count_append] at now later ⊢
  omega

theorem same (idle : ∀ a ∈ acts, ¬ a.Passes) (held : List FrontBuffer) : InHand held acts held := by
  intro b
  have none_locked : locked acts = [] := by
    refine List.filterMap_eq_nil_iff.2 fun a ha => ?_
    cases a with
    | lock => exact absurd trivial (idle _ ha)
    | _ => rfl
  have none_copied : copies acts = [] := by
    refine List.filterMap_eq_nil_iff.2 fun a ha => ?_
    cases a with
    | copy => exact absurd trivial (idle _ ha)
    | _ => rfl
  have none_released : acts.count (.release b) = 0 :=
    List.count_eq_zero_of_not_mem fun ha => idle _ ha trivial
  rw [none_locked, none_copied, none_released, List.append_nil, List.count_nil, Nat.add_zero, Nat.zero_add]

theorem lock (b : FrontBuffer) : InHand [] [.lock (some b)] [b] := by
  intro b'
  simp [locked, copies]

theorem release (b : FrontBuffer) : InHand [b] [.release b] [] := by
  intro b'
  simp [locked, copies, List.count_cons]

/-- A copier that makes no copy hands its source back all the same. -/
theorem noCopy (b : FrontBuffer) : InHand [b] [.copy b none, .release b] [] := by
  intro b'
  simp [locked, copies, List.count_cons]

theorem framebuffer (b : FrontBuffer) (answer : Option Framebuffer) : InHand [b] [.framebuffer 0 b answer] [b] :=
  .same (List.forall_mem_singleton.2 id) [b]

end InHand

theorem Carried.inHand {p : Pipeline} {front b : FrontBuffer} {acts : List Act} (carried : Carried p front b acts) :
    InHand [front] acts [b] := by
  cases carried with
  | asIs => exact .same (List.forall_mem_nil _) _
  | copied =>
    intro b'
    simp [locked, copies, List.count_cons]

theorem Fetched.inHand {p : Pipeline} {r : Except PresentError (FrontBuffer × Framebuffer)} {acts : List Act}
    (fetched : Fetched p r acts) : InHand [] acts (r.toOption.map Prod.fst).toList := by
  cases fetched with
  | noFrontBuffer reason =>
    intro b
    rfl
  | noCopy front reason => exact (InHand.lock front).append (.noCopy front)
  | @noFramebuffer p front b acts carried =>
    exact (InHand.lock front).append (carried.inHand.append ((InHand.framebuffer b none).append (.release b)))
  | @got p front b acts carried fb =>
    exact (InHand.lock front).append (carried.inHand.append (.framebuffer b (some fb)))

/-! ## Posting -/

def Frame.composited : Frame → Option FrontBuffer
  | composite b => some b
  | bypass _ => none

theorem Surface.retired_newest (s : Surface) : s.retired ++ s.newest.toList = s.line := by
  rw [retired, newest, line]
  cases s.scheduled with
  | none => simp
  | some f => simp

theorem Sourced.booked {s : Surface} {frame : Frame} {fb : Framebuffer} {acts : List Act}
    (sourced : Sourced s frame fb acts) :
    ∃ given, Booked s.pipeline acts [] [] frame.composited.toList given given := by
  cases sourced with
  | client c kept => exact ⟨[], .nil _⟩
  | composite none_kept fetched =>
    obtain ⟨gone, given, booked, none_gone⟩ := fetched.booked
    rw [none_gone rfl] at booked
    exact ⟨given, booked⟩

/-- What a post does to the line of frames, and to the buffers that it obtains. -/
theorem Posted.booked {s u : Surface} {r : Except PresentError Unit} {acts : List Act} (posted : Posted s r u acts) :
    ∃ left gone given, Booked s.pipeline acts left gone
        (((u.brought r).bind Frame.composited).toList ++ gone) given given ∧
      left ++ u.line = s.line ++ (u.brought r).toList ∧ ((u.brought r).isSome = true → gone = []) := by
  cases posted with
  | failed e t none_kept fetched =>
    obtain ⟨gone, given, booked, -⟩ := fetched.booked
    have whole := (s.booked_settling s.pipeline).append booked
    have line : (s.settled.paced t).line = s.newest.toList := List.append_nil _
    rw [line]
    exact ⟨s.retired ++ [], gone, given, whole, by simp [s.retired_newest, Surface.brought], fun no => by cases no⟩
  | @scheduled frame fb source acts taken t sourced presented later =>
    obtain ⟨given, booked⟩ := sourced.booked
    have whole := (s.booked_settling s.pipeline).append (booked.append (presented.booked s.pipeline))
    have line : (((s.settled.schedule frame).raised taken).paced t).line = s.newest.toList ++ [frame] := rfl
    simp only [List.append_nil, List.nil_append] at whole
    refine ⟨s.retired, [], given, ?_, ?_, fun _ => rfl⟩
    · simpa [Surface.brought] using whole
    · rw [line, ← List.append_assoc, s.retired_newest]
      rfl
  | @settled frame fb source acts taken t sourced presented once =>
    obtain ⟨given, booked⟩ := sourced.booked
    have again := ((s.settled.schedule frame).raised taken).booked_settling s.pipeline
    have whole := (s.booked_settling s.pipeline).append (booked.append ((presented.booked s.pipeline).append again))
    have line : (((s.settled.schedule frame).raised taken).settled.paced t).line = [frame] := rfl
    simp only [List.append_nil, List.nil_append, Surface.retired_raised] at whole
    refine ⟨s.retired ++ s.newest.toList, [], given, ?_, ?_, fun _ => rfl⟩
    · simpa [Surface.brought] using whole
    · rw [line, s.retired_newest]
      rfl

theorem Posted.newest {s u : Surface} {acts : List Act} (posted : Posted s (.ok ()) u acts) :
    ∃ frame, u.newest = some frame := by
  cases posted <;> exact ⟨_, rfl⟩

/-- A frame is visible, and with one output no other one is held. -/
def Surface.Slim (s : Surface) : Prop := s.visible.isSome = true ∧ (s.outputs = 1 → s.scheduled = none)

theorem Posted.slim {s u : Surface} {r : Except PresentError Unit} {acts : List Act} (posted : Posted s r u acts)
    (slim : s.Slim) : u.Slim := by
  obtain ⟨visible, idle⟩ := slim
  have shown : s.newest.isSome = true := by
    rw [Surface.newest, Option.isSome_or, visible, Bool.or_true]
  cases posted with
  | failed => exact ⟨shown, fun _ => rfl⟩
  | @scheduled frame fb source acts taken t sourced presented later =>
    refine ⟨shown, fun one => ?_⟩
    have once : s.waitsAtOnce frame = true := by
      rw [waitsAtOnce_eq, show s.outputs = 1 from one]
      rfl
    rw [later] at once
    cases once
  | settled => exact ⟨rfl, fun _ => rfl⟩

/-! ## Creation -/

theorem Opened.booked {n : Nat} {p : Pipeline} {b : FrontBuffer} {fb : Framebuffer} {acts : List Act}
    (opened : Opened n p b fb acts) : ∃ given, Booked p acts [] [] [b] given given := by
  obtain ⟨ok, made, carried⟩ := opened
  next front copiers source =>
  have copiers_still : Booked p copiers [] [] [] [] [] := by
    refine booked_still p fun a ha => ?_
    obtain ⟨_, _, _, _, rfl⟩ := made a ha
    trivial
  have shown_still :
      Booked p ((List.range n).map (fun k => .setCrtc k fb (ok k)) ++ [.releaseCurrent]) [] [] [] [] [] := by
    refine booked_still p (List.forall_mem_append.2 ⟨?_, List.forall_mem_singleton.2 trivial⟩)
    exact List.forall_mem_map.2 fun k _ => trivial
  cases carried with
  | asIs =>
    have first : Booked .direct [.makeCurrent true, .swap true, .lock (some b)] [] [] [b] [] [] :=
      ⟨fun _ => rfl, fun _ => rfl, rfl, rfl, rfl, fun _ => rfl⟩
    have found : Booked .direct [.framebuffer 0 b (some fb)] [] [] [] [] [] :=
      ⟨fun _ => rfl, fun _ => rfl, rfl, rfl, rfl, fun _ => rfl⟩
    exact ⟨[], first.append (copiers_still.append (found.append shown_still))⟩
  | copied =>
    have first : Booked .bounce [.makeCurrent true, .swap true, .lock (some front)] [] [] [] [] [front] :=
      ⟨fun _ => rfl, fun _ => rfl, rfl, rfl, rfl, fun _ => rfl⟩
    have found :
        Booked .bounce [.copy front (some b), .release front, .framebuffer 0 b (some fb)] [] [] [b] [front] [] :=
      ⟨fun _ => rfl, fun _ => rfl, rfl, rfl, rfl, fun _ => by simp [List.count_cons]⟩
    exact ⟨[front], first.append (copiers_still.append (found.append shown_still))⟩

/-! ## Steps -/

theorem booked_aside (p : Pipeline) {acts : List Act} (aside : ∀ a ∈ acts, a.Aside) :
    ∃ left, Booked p acts left [] [] [] [] ∧ ∀ b, .composite b ∉ left := by
  induction acts with
  | nil => exact ⟨[], .nil p, fun _ => List.not_mem_nil⟩
  | cons a acts ih =>
    obtain ⟨now, later⟩ := List.forall_mem_cons.1 aside
    obtain ⟨left, booked, clients⟩ := ih later
    cases a with
    | importBuffer k planes answer =>
      have still : Booked p [.importBuffer k planes answer] [] [] [] [] [] :=
        booked_still p (List.forall_mem_singleton.2 trivial)
      exact ⟨left, still.append booked, clients⟩
    | swap ok =>
      have still : Booked p [.swap ok] [] [] [] [] [] := booked_still p (List.forall_mem_singleton.2 trivial)
      exact ⟨left, still.append booked, clients⟩
    | releaseClient c => exact ⟨.bypass c :: left, (booked_released p [.bypass c]).append booked, by simp [clients]⟩
    | _ => cases now

theorem count_composited (b : FrontBuffer) (frame : Option Frame) :
    (frame.bind Frame.composited).toList.count b = frame.toList.count (.composite b) := by
  rcases frame with _ | (b' | c)
  · rfl
  · by_cases same : b' = b <;> simp [Frame.composited, same]
  · simp [Frame.composited]

namespace Step

variable {σ : Type} [Hardware σ]

theorem line_of_aside {t : Step σ} (other : t.request ≠ .post) : t.after.line = t.before.line := by
  have aside := Step.aside other
  rw [Surface.line, Surface.line, aside.visible, aside.scheduled]

theorem booked (t : Step σ) :
    ∃ left gone given, Booked t.before.pipeline t.acts left gone ((t.posted.bind Frame.composited).toList ++ gone) given
        given ∧
      (∀ b, left.count (.composite b) + t.after.line.count (.composite b) =
        t.before.line.count (.composite b) + t.posted.toList.count (.composite b)) ∧
      (t.request = .post → left ++ t.after.line = t.before.line ++ t.posted.toList) ∧
      (t.posted.isSome = true → gone = []) := by
  by_cases post : t.request = .post
  · obtain ⟨left, gone, given, booked, line, none_gone⟩ := (outcome post).booked
    rw [← posted_of_post post] at booked line none_gone
    refine ⟨left, gone, given, booked, fun b => ?_, fun _ => line, none_gone⟩
    rw [← List.count_append, line, List.count_append]
  · obtain ⟨left, booked, clients⟩ := booked_aside t.before.pipeline (Step.aside post).acts
    rw [posted_of_aside post]
    refine ⟨left, [], [], booked, fun b => ?_, fun h => absurd h post, fun _ => rfl⟩
    rw [line_of_aside post, List.count_eq_zero_of_not_mem (clients b)]
    simp

theorem count_obtained (t : Step σ) (b : FrontBuffer) :
    (t.before.pipeline.obtained t.acts).count b + (sources t.acts).count b + t.before.line.count (.composite b) =
      t.acts.count (.release b) + t.after.line.count (.composite b) := by
  obtain ⟨left, gone, given, booked, line, -, -⟩ := t.booked
  have line := line b
  rw [booked.obtained, booked.sources, booked.released b, List.count_append, count_composited]
  omega

/-- The buffer of a post is that of its frame, or is let go by a post that fails. -/
theorem obtained_of_post {t : Step σ} (post : t.request = .post) :
    match (t.before.post t.hardware).value.1 with
    | .ok () => ∃ frame, t.posted = some frame ∧ t.before.pipeline.obtained t.acts = frame.composited.toList ∧
        discarded t.acts = []
    | .error _ => t.posted = none ∧ t.before.pipeline.obtained t.acts = discarded t.acts := by
  obtain ⟨left, gone, given, booked, -, -, none_gone⟩ := t.booked
  have posted := posted_of_post post
  have way := outcome post
  rw [booked.obtained, booked.discarded_eq]
  cases answer : (t.before.post t.hardware).value.1 with
  | error e =>
    rw [answer] at posted
    have none_posted : t.posted = none := posted
    rw [none_posted]
    exact ⟨rfl, rfl⟩
  | ok u =>
    rw [answer] at posted way
    obtain ⟨frame, newest⟩ := way.newest
    have posted : t.posted = some frame := posted.trans newest
    rw [posted] at none_gone ⊢
    rw [none_gone rfl]
    exact ⟨frame, rfl, List.append_nil _, rfl⟩

theorem sources_eq (t : Step σ) : sources t.acts = t.before.pipeline.bounced t.acts := by
  obtain ⟨left, gone, given, booked, -⟩ := t.booked
  rw [booked.sources, booked.bounced]

theorem line_eq (t : Step σ) :
    (if t.isPost then leaving t.acts else []) ++ t.after.line = t.before.line ++ t.posted.toList := by
  by_cases post : t.request = .post
  · obtain ⟨left, gone, given, booked, -, line, -⟩ := t.booked
    rw [if_pos (t.isPost_iff.2 post), booked.leaving_eq, line post]
  · rw [if_neg (post ∘ t.isPost_iff.1), line_of_aside post, posted_of_aside post]
    simp

end Step

/-! ## Runs -/

namespace Surface

variable {σ : Type} [Hardware σ]

/-- Over a run, all that was obtained or held before was let go or is still held. -/
theorem count_obtained_serve (s : Surface) (h : σ) (rs : List Request) (b : FrontBuffer) :
    (s.pipeline.obtained (s.serve rs h).acts).count b + (sources (s.serve rs h).acts).count b +
        s.line.count (.composite b) =
      (s.serve rs h).acts.count (.release b) + (s.serve rs h).value.line.count (.composite b) := by
  induction rs generalizing s h with
  | nil =>
    have none_obtained : s.pipeline.obtained [] = [] := by cases s.pipeline <;> rfl
    simp [serve, none_obtained, sources]
  | cons r rs ih =>
    let rest := (s.perform r h).value.serve rs (s.perform r h).state
    have acts : (s.serve (r :: rs) h).acts = (s.perform r h).acts ++ rest.acts := rfl
    have after : (s.serve (r :: rs) h).value = rest.value := rfl
    have now : (s.pipeline.obtained (s.perform r h).acts).count b + (sources (s.perform r h).acts).count b +
        s.line.count (.composite b) =
      (s.perform r h).acts.count (.release b) + (s.perform r h).value.line.count (.composite b) :=
      Step.count_obtained ⟨s, h, r⟩ b
    have later : ((s.perform r h).value.pipeline.obtained rest.acts).count b + (sources rest.acts).count b +
        (s.perform r h).value.line.count (.composite b) =
      rest.acts.count (.release b) + rest.value.line.count (.composite b) := ih _ _
    rw [(s.perform_made h r).2.1] at later
    rw [acts, after, Pipeline.obtained_append, sources_append]
    -- what is held after the first request is on both sides
    simp only [List.count_append]
    omega

/-- Frames leave in posts, in the order in which they were posted. -/
theorem line_serve (s : Surface) (h : σ) (rs : List Request) :
    ((s.steps h rs).filter Step.isPost).flatMap (fun t => leaving t.acts) ++ (s.serve rs h).value.line =
      s.line ++ (s.steps h rs).filterMap Step.posted := by
  induction rs generalizing s h with
  | nil => simp [serve, steps]
  | cons r rs ih =>
    let t : Step σ := ⟨s, h, r⟩
    let ts := (s.perform r h).value.steps (s.perform r h).state rs
    let rest := (s.perform r h).value.serve rs (s.perform r h).state
    have later : (ts.filter Step.isPost).flatMap (fun t => leaving t.acts) ++ rest.value.line =
      t.after.line ++ ts.filterMap Step.posted := ih _ _
    have posts : (t :: ts).filterMap Step.posted = t.posted.toList ++ ts.filterMap Step.posted := by
      rw [List.filterMap_cons]
      cases t.posted <;> rfl
    change ((t :: ts).filter Step.isPost).flatMap _ ++ rest.value.line = s.line ++ (t :: ts).filterMap Step.posted
    have first : ((t :: ts).filter Step.isPost).flatMap (fun t => leaving t.acts) =
        (if t.isPost then leaving t.acts else []) ++ (ts.filter Step.isPost).flatMap fun t => leaving t.acts := by
      rw [List.filter_cons]
      cases t.isPost <;> rfl
    rw [first, List.append_assoc, later, ← List.append_assoc, t.line_eq, posts, List.append_assoc]

theorem sources_serve (s : Surface) (h : σ) (rs : List Request) :
    sources (s.serve rs h).acts = s.pipeline.bounced (s.serve rs h).acts := by
  induction rs generalizing s h with
  | nil => cases hp : s.pipeline <;> rfl
  | cons r rs ih =>
    let rest := (s.perform r h).value.serve rs (s.perform r h).state
    have acts : (s.serve (r :: rs) h).acts = (s.perform r h).acts ++ rest.acts := rfl
    have now : sources (s.perform r h).acts = s.pipeline.bounced (s.perform r h).acts :=
      Step.sources_eq ⟨s, h, r⟩
    have later : sources rest.acts = (s.perform r h).value.pipeline.bounced rest.acts := ih _ _
    rw [(s.perform_made h r).2.1] at later
    rw [acts, sources_append, Pipeline.bounced_append, now, later]

theorem slim_serve {s : Surface} (slim : s.Slim) (h : σ) (rs : List Request) : (s.serve rs h).value.Slim := by
  refine (kept_along Slim (fun s h r slim => ?_) s h rs slim).2
  let t : Step σ := ⟨s, h, r⟩
  change t.after.Slim
  by_cases post : t.request = .post
  · exact (Step.outcome post).slim slim
  · have aside := Step.aside post
    rw [Slim, aside.visible, aside.scheduled, aside.outputs]
    exact slim

theorem count_toList (frame : Option Frame) (f : Frame) : frame.toList.count f = if frame = some f then 1 else 0 := by
  cases frame with
  | none => rfl
  | some g => by_cases same : g = f <;> simp [same]

theorem once_in_line {s : Surface} {b : FrontBuffer} {gone : Nat} (total : 1 = gone + s.line.count (.composite b)) :
    (gone = 1 ∧ s.visible ≠ some (.composite b) ∧ s.scheduled ≠ some (.composite b)) ∨
      (gone = 0 ∧ Xor (s.visible = some (.composite b)) (s.scheduled = some (.composite b))) := by
  rw [line, List.count_append, count_toList, count_toList] at total
  by_cases visible : s.visible = some (.composite b)
  · by_cases scheduled : s.scheduled = some (.composite b)
    · rw [if_pos visible, if_pos scheduled] at total
      omega
    · rw [if_pos visible, if_neg scheduled] at total
      exact .inr ⟨by omega, .inl ⟨visible, scheduled⟩⟩
  · by_cases scheduled : s.scheduled = some (.composite b)
    · rw [if_neg visible, if_pos scheduled] at total
      exact .inr ⟨by omega, .inr ⟨scheduled, visible⟩⟩
    · rw [if_neg visible, if_neg scheduled] at total
      exact .inl ⟨by omega, visible, scheduled⟩

/-- Over all that was done since a surface was created: what was obtained was let go or is held, each buffer once;
frames leave in order, as later ones become visible; a post that fails lets go what it obtained; and only what has to
be copied goes to the copier, once. -/
theorem handed_back_once (settings : Settings) (outputs : Nat) (area : Rect) (transform : Transform) (h : σ)
    (s : Surface) (created : (create settings outputs area transform h).value = .ok s) (rs : List Request) :
    let opening := create settings outputs area transform h
    let ts := s.steps opening.state rs
    let acts := opening.acts ++ ts.flatMap Step.acts
    let now := (s.serve rs opening.state).value
    (∀ b, (s.pipeline.obtained acts).count b + (sources acts).count b =
        acts.count (.release b) + now.line.count (.composite b)) ∧
      (∀ b, (s.pipeline.obtained acts).count b = 1 → b ∉ sources acts →
        (acts.count (.release b) = 1 ∧ now.visible ≠ some (.composite b) ∧ now.scheduled ≠ some (.composite b)) ∨
          (acts.count (.release b) = 0 ∧
            Xor (now.visible = some (.composite b)) (now.scheduled = some (.composite b)))) ∧
      now.visible.isSome = true ∧ (outputs = 1 → now.scheduled = none) ∧
      s.line = (s.pipeline.obtained opening.acts).map .composite ∧
      (ts.filter Step.isPost).flatMap (fun t => leaving t.acts) ++ now.line = s.line ++ ts.filterMap Step.posted ∧
      (∀ t ∈ ts, t.request = .post →
        match (t.before.post t.hardware).value.1 with
        | .ok () => ∃ frame, t.posted = some frame ∧ s.pipeline.obtained t.acts = frame.composited.toList ∧
            discarded t.acts = []
        | .error _ => t.posted = none ∧ s.pipeline.obtained t.acts = discarded t.acts) ∧
      sources acts = s.pipeline.bounced acts := by
  intro opening ts acts now
  obtain ⟨p, b₀, fb₀, pos, made, opened⟩ := create_opened settings outputs area transform h s created
  obtain ⟨given, booked⟩ := opened.booked
  have slim : s.Slim := by
    rw [made]
    exact ⟨rfl, fun _ => rfl⟩
  have pipeline : s.pipeline = p := by rw [made]
  have line : s.line = [.composite b₀] := by rw [made]; rfl
  have total : ∀ b, (s.pipeline.obtained acts).count b + (sources acts).count b =
      acts.count (.release b) + now.line.count (.composite b) := by
    intro b
    have later := s.count_obtained_serve opening.state rs b
    have first := booked.released b
    rw [acts_serve, line] at later
    rw [pipeline] at later ⊢
    rw [Pipeline.obtained_append, sources_append, booked.obtained, booked.sources]
    have same : [b₀].count b = [Frame.composite b₀].count (.composite b) := count_composited b (some (.composite b₀))
    have all : acts.count (.release b) = opening.acts.count (.release b) + (ts.flatMap Step.acts).count (.release b) :=
      List.count_append ..
    change (p.obtained (ts.flatMap Step.acts)).count b + (sources (ts.flatMap Step.acts)).count b + _ =
      (ts.flatMap Step.acts).count (.release b) + now.line.count (.composite b) at later
    change opening.acts.count (.release b) = 0 + 0 + given.count b at first
    rw [List.count_append, List.count_append, all, first, same]
    omega
  have made_at : ∀ t ∈ ts, t.before.pipeline = s.pipeline := fun t ht => ((s.made_along opening.state rs).1 t ht).2.1
  refine ⟨total, fun b once foreign => ?_, (slim_serve slim opening.state rs).1, fun one => ?_, ?_,
    s.line_serve opening.state rs, fun t ht post => ?_, ?_⟩
  · have total := total b
    rw [once, List.count_eq_zero_of_not_mem foreign] at total
    exact once_in_line total
  · refine (slim_serve slim opening.state rs).2 ?_
    rw [(s.made_along opening.state rs).2.1, made]
    exact one
  · rw [line, pipeline, booked.obtained]
    rfl
  · rw [← made_at t ht]
    exact Step.obtained_of_post post
  · have later := s.sources_serve opening.state rs
    rw [acts_serve, pipeline] at later
    rw [pipeline, sources_append, Pipeline.bounced_append, later, booked.sources, booked.bounced]

/-- One output, on a device that every frame is copied to. -/
def hybrid : Rig where
  heads := [⟨1, 0, 60, [], true, true, true, true, 100, 0⟩]
  size := ⟨1920, 1080⟩
  swaps := 0
  egl := "EGL_KHR_image_base EGL_EXT_image_dma_buf_import"
  gl := "GL_OES_EGL_image"
  lacksCopier := false
  nextCopy := 100
  faults := ⟨false, false, false, false⟩

def hybridSurface : Surface :=
  { outputs := 1, pipeline := .bounce, area := twoHeadsView, transform := .normal, option := ({} : Settings).bypass,
    candidate := none, scheduled := none, visible := some (.composite ⟨100, ⟨1920, 1080⟩⟩), needsModeSet := false,
    flipsPending := false
    timings := Timings.fresh (.ofMillis ({} : Settings).compositeBudget) (.ofMillis ({} : Settings).bypassBudget) }

/-- What is done for a frame of which the copy has the given number. -/
def hybridFrame (n : UInt64) (fb : Framebuffer) : List Act :=
  [.swap true, .lock (some ⟨n, ⟨1920, 1080⟩⟩), .copy ⟨n, ⟨1920, 1080⟩⟩ (some ⟨n + 99, ⟨1920, 1080⟩⟩),
    .release ⟨n, ⟨1920, 1080⟩⟩, .framebuffer 0 ⟨n + 99, ⟨1920, 1080⟩⟩ (some fb), .flip 0 fb true, .wait 0,
    .release ⟨n + 98, ⟨1920, 1080⟩⟩]

theorem hybrid_run :
    (create {} 1 twoHeadsView .normal hybrid).acts ++
        (hybridSurface.steps (create {} 1 twoHeadsView .normal hybrid).state twoFrames).flatMap Step.acts =
      [.makeCurrent true, .swap true, .lock (some ⟨1, ⟨1920, 1080⟩⟩), .createCopier 0 ⟨1920, 1080⟩ ⟨"XR24"⟩ true,
        .copy ⟨1, ⟨1920, 1080⟩⟩ (some ⟨100, ⟨1920, 1080⟩⟩), .release ⟨1, ⟨1920, 1080⟩⟩,
        .framebuffer 0 ⟨100, ⟨1920, 1080⟩⟩ (some ⟨100⟩), .setCrtc 0 ⟨100⟩ true, .releaseCurrent] ++
      (hybridFrame 2 ⟨101⟩ ++ hybridFrame 3 ⟨102⟩) := by
  decide +kernel

/-- The second of three copies was let go, and the third one is visible. -/
theorem hybrid_hands_back : (create {} 1 twoHeadsView .normal hybrid).value = .ok hybridSurface ∧
    ∃ acts now, acts = (create {} 1 twoHeadsView .normal hybrid).acts ++
        (hybridSurface.steps (create {} 1 twoHeadsView .normal hybrid).state twoFrames).flatMap Step.acts ∧
      now = (hybridSurface.serve twoFrames (create {} 1 twoHeadsView .normal hybrid).state).value ∧
      (copies acts).map (·.handle) = [100, 101, 102] ∧ (sources acts).map (·.handle) = [1, 2, 3] ∧
      sources acts = locked acts ∧ now.visible = some (.composite ⟨102, ⟨1920, 1080⟩⟩) ∧ now.scheduled = none ∧
      acts.count (.release ⟨101, ⟨1920, 1080⟩⟩) = 1 ∧ acts.count (.release ⟨102, ⟨1920, 1080⟩⟩) = 0 := by
  refine ⟨rfl, _, _, rfl, rfl, ?_⟩
  obtain ⟨-, once, -, idle, -, -, -, given⟩ :=
    handed_back_once {} 1 twoHeadsView .normal hybrid hybridSurface rfl twoFrames
  have visible : (hybridSurface.serve twoFrames (create {} 1 twoHeadsView .normal hybrid).state).value.visible =
      some (.composite ⟨102, ⟨1920, 1080⟩⟩) := by decide +kernel
  rw [hybrid_run, visible] at once
  rw [hybrid_run] at given ⊢
  refine ⟨by decide, by decide, given, visible, idle rfl, ?_, ?_⟩
  · rcases once ⟨101, ⟨1920, 1080⟩⟩ (by decide) (by decide) with ⟨gone, -⟩ | ⟨-, held⟩
    · exact gone
    · rw [idle rfl] at held
      simp [Xor] at held
  · rcases once ⟨102, ⟨1920, 1080⟩⟩ (by decide) (by decide) with ⟨-, other, -⟩ | ⟨none_gone, -⟩
    · exact absurd rfl other
    · exact none_gone

end Surface

end Multihead.Scanout
