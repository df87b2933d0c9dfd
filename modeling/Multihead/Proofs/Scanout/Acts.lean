import Multihead.Proofs.Scanout.Watch

/-! # What a surface does
The acts of the parts of a post, and of the choice of a client buffer, as an observer sees them. Frames are waited
for and let go; a buffer is fetched into the hands of the surface, or nothing is; a frame is presented by asking
outputs, and only them, to show one framebuffer. -/

set_option autoImplicit false

namespace Multihead.Scanout

open Watch
open Function (update)

def Candidate.frame (c : Candidate) : Frame := .bypass c.buffer

/-- An output is asked to show something. -/
def Act.Presents : Act → Prop
  | setCrtc _ _ _ | flip _ _ _ => True
  | _ => False

theorem not_took_of_not_presents {acts : List Act} (none : ∀ a ∈ acts, ¬ a.Presents) (k : Nat) : ¬ Took k acts := by
  intro took
  obtain ⟨a, ha, taken⟩ := List.mem_filterMap.1 took
  cases a with
  | setCrtc | flip => exact none _ ha trivial
  | _ => cases taken

theorem Frame.released_presents (f : Frame) : ¬ f.released.Presents := by
  cases f <;> exact id

theorem released_presents (frames : List Frame) : ∀ a ∈ frames.map Frame.released, ¬ a.Presents :=
  List.forall_mem_map.2 fun f _ => f.released_presents

theorem Drive.look_bind_run {σ α β : Type} (f : σ → α) (k : α → Drive σ β) (h : σ) :
    (Drive.look f >>= k) h = k (f h) h := rfl

namespace Surface

/-! ## Letting go -/

section Release
variable {σ : Type}

theorem letGo_acts (o : Option Frame) (h : σ) : (letGo o h).acts = o.toList.map Frame.released := by
  rcases o with _ | (b | b) <;> rfl

theorem letGoClients_acts (bs : List ClientBuffer) (h : σ) :
    (letGoClients bs h).acts = (bs.map Frame.bypass).map Frame.released := by
  induction bs generalizing h with
  | nil => rfl
  | cons b bs ih =>
    rw [letGoClients, Drive.bind_run, ih]
    rfl

theorem letGoCandidate_acts (o : Option Candidate) (h : σ) :
    (letGoCandidate o h).acts = (o.toList.map Candidate.frame).map Frame.released := by
  cases o <;> rfl

/-- The frame that a surface lets go when it settles. -/
def retired (s : Surface) : List Frame := if s.scheduled.isSome then s.visible.toList else []

theorem promote_run (s : Surface) (h : σ) :
    (s.promote h).value = { s with scheduled := none, visible := s.scheduled.or s.visible } ∧
      (s.promote h).acts = s.retired.map Frame.released := by
  obtain ⟨_, _, _, _, _, _, scheduled, visible, _, _, _⟩ := s
  cases scheduled with
  | none => exact ⟨rfl, rfl⟩
  | some f => exact ⟨rfl, by simp [promote, letGo_acts, retired]⟩

end Release

/-! ## Settling -/

section Settle
variable {σ : Type} [Hardware σ]

theorem waits_acts (ks : List Nat) (h : σ) : (waits ks h).acts = ks.map Act.wait := by
  induction ks generalizing h with
  | nil => rfl
  | cons k ks ih =>
    rw [waits, Drive.bind_run, ih]
    rfl

def pendingPlaces (s : Surface) : List Nat := if s.flipsPending then s.places else []

theorem awaitFlips_run (s : Surface) (h : σ) :
    (∃ t, (s.awaitFlips h).value = { s with flipsPending := false, timings := t }) ∧
      (s.awaitFlips h).acts = s.pendingPlaces.map Act.wait := by
  obtain ⟨_, _, _, _, _, _, _, _, _, pending, timings⟩ := s
  cases pending with
  | false => exact ⟨⟨timings, rfl⟩, rfl⟩
  | true => exact ⟨⟨_, rfl⟩, by simp [awaitFlips, pendingPlaces, waits_acts, Drive.now, Drive.ask]⟩

/-- What was scheduled is waited for, then takes the place of what was visible. -/
theorem settle_run (s : Surface) (h : σ) :
    (∃ t, (s.settle h).value =
      { s with scheduled := none, visible := s.scheduled.or s.visible, flipsPending := false, timings := t }) ∧
      (s.settle h).acts = s.pendingPlaces.map Act.wait ++ s.retired.map Frame.released := by
  obtain ⟨⟨t, value⟩, acts⟩ := s.awaitFlips_run h
  obtain ⟨value', acts'⟩ := (s.awaitFlips h).value.promote_run (s.awaitFlips h).state
  rw [settle, Drive.bind_run]
  exact ⟨⟨t, by rw [value', value]⟩, by rw [acts', acts, value]; rfl⟩

theorem settle_presents (s : Surface) (h : σ) : ∀ a ∈ (s.settle h).acts, ¬ a.Presents := by
  rw [(s.settle_run h).2, List.forall_mem_append]
  exact ⟨List.forall_mem_map.2 fun k _ => id, released_presents s.retired⟩

end Settle

/-! ## Presenting -/

section Present
variable {σ : Type} [Hardware σ]

theorem setCrtcs_acts (fb : Framebuffer) (ks : List Nat) (h : σ) :
    ∀ a ∈ (setCrtcs fb ks h).acts, ∃ k ∈ ks, ∃ ok, a = .setCrtc k fb ok := by
  induction ks generalizing h with
  | nil => exact List.forall_mem_nil _
  | cons k ks ih =>
    rw [setCrtcs, Drive.bind_run]
    refine List.forall_mem_cons.2 ⟨⟨k, List.mem_cons_self, _, rfl⟩, fun a ha => ?_⟩
    obtain ⟨j, hj, ok, rfl⟩ := ih _ a ha
    exact ⟨j, List.mem_cons_of_mem k hj, ok, rfl⟩

theorem flips_acts (fb : Framebuffer) (ks : List Nat) (h : σ) :
    ∀ a ∈ (flips fb ks h).acts, ∃ k ∈ ks, ∃ ok, a = .flip k fb ok ∧ (ok = true → (flips fb ks h).value = true) := by
  induction ks generalizing h with
  | nil => exact List.forall_mem_nil _
  | cons k ks ih =>
    rw [flips, Drive.bind_run, Drive.bind_run, Drive.pure_run, List.append_nil]
    refine List.forall_mem_cons.2 ⟨⟨k, List.mem_cons_self, _, rfl, ?_⟩, fun a ha => ?_⟩
    · intro taken
      exact Bool.or_eq_true_iff.2 (.inl taken)
    · obtain ⟨j, hj, ok, rfl, taken⟩ := ih _ a ha
      exact ⟨j, List.mem_cons_of_mem k hj, ok, rfl, fun ht => Bool.or_eq_true_iff.2 (.inr (taken ht))⟩

theorem places_eq_cons (s : Surface) (pos : 0 < s.outputs) : ∃ k ks, s.places = k :: ks := by
  obtain ⟨n, hn⟩ := Nat.exists_eq_succ_of_ne_zero pos.ne'
  exact ⟨0, _, by rw [places, hn, List.range_succ_eq_map]⟩

/-- A frame is presented by asking the outputs to show it, at least one if there is one; and if a flip was
accepted, flips are pending. -/
theorem present_run (s : Surface) (fb : Framebuffer) (h : σ) :
    (∃ m p t, (s.present fb h).value = { s with needsModeSet := m, flipsPending := p, timings := t } ∧
      ∀ j, .flip j fb true ∈ (s.present fb h).acts → p = true) ∧
      (∀ a ∈ (s.present fb h).acts, Asks s.outputs fb a) ∧
      (0 < s.outputs → ∃ a acts, (s.present fb h).acts = a :: acts) := by
  have modeSets : ∀ h : σ, ∀ a ∈ (setCrtcs fb s.places h).acts, Asks s.outputs fb a ∧ ∀ j, a ≠ .flip j fb true := by
    intro h a ha
    obtain ⟨k, hk, ok, rfl⟩ := setCrtcs_acts fb s.places h a ha
    exact ⟨⟨k, List.mem_range.1 hk, ok, .inl rfl⟩, by simp⟩
  have flipped : ∀ a ∈ (flips fb s.places h).acts, Asks s.outputs fb a := by
    intro a ha
    obtain ⟨k, hk, ok, rfl, -⟩ := flips_acts fb s.places h a ha
    exact ⟨k, List.mem_range.1 hk, ok, .inr rfl⟩
  have taken_of_flip : ∀ j, .flip j fb true ∈ (flips fb s.places h).acts → (flips fb s.places h).value = true := by
    intro j hj
    obtain ⟨k, hk, ok, he, taken⟩ := flips_acts fb s.places h _ hj
    exact taken (Act.flip.inj he).2.2.symm
  have some_flip : 0 < s.outputs → ∃ a acts, (flips fb s.places h).acts = a :: acts := by
    intro pos
    obtain ⟨k, ks, hk⟩ := s.places_eq_cons pos
    exact ⟨_, _, by rw [hk]; rfl⟩
  rw [present]
  cases due : s.needsModeSet with
  | true =>
    simp only [if_true, Drive.bind_run, Drive.pure_run, List.append_nil]
    refine ⟨⟨false, s.flipsPending, s.timings, rfl, fun j hj => ?_⟩, fun a ha => (modeSets h a ha).1, fun pos => ?_⟩
    · exact absurd rfl ((modeSets h _ hj).2 j)
    · obtain ⟨k, ks, hk⟩ := s.places_eq_cons pos
      exact ⟨_, _, by rw [hk]; rfl⟩
  | false =>
    cases taken : (flips fb s.places h).value with
    | true =>
      simp only [Bool.false_eq_true, if_false, Drive.bind_run, taken, if_true, Drive.now, Drive.ask, Drive.pure_run,
        List.append_nil]
      refine ⟨⟨s.needsModeSet, true, _, by rw [due], fun _ _ => rfl⟩, flipped, some_flip⟩
    | false =>
      simp only [Bool.false_eq_true, if_false, Drive.bind_run, taken, Drive.pure_run, List.append_nil]
      refine ⟨⟨s.needsModeSet, s.flipsPending, s.timings, rfl, fun j hj => ?_⟩, fun a ha => ?_, fun pos => ?_⟩
      · rcases List.mem_append.1 hj with hj | hj
        · exact absurd (taken_of_flip j hj) (by simp [taken])
        · exact absurd rfl ((modeSets _ _ hj).2 j)
      · rcases List.mem_append.1 ha with ha | ha
        · exact flipped a ha
        · exact (modeSets _ a ha).1
      · obtain ⟨a, acts, hacts⟩ := some_flip pos
        exact ⟨a, _, by rw [hacts]; rfl⟩

end Present

/-! ## Fetching -/

section Fetch
variable {σ : Type} [Hardware σ]

/-- Nothing is taken away, and the same is shown. -/
def Keeps (w w' : Watch) : Prop := w.held ≤ w'.held ∧ w'.shown = w.shown

theorem Keeps.refl (w : Watch) : Keeps w w := ⟨le_rfl, rfl⟩

theorem Keeps.lock (w : Watch) (b : FrontBuffer) : Keeps w (w.act (.lock (some b))) :=
  ⟨Multiset.le_cons_self _ _, rfl⟩

theorem migrate_after (p : Pipeline) (front : FrontBuffer) (h : σ) (w : Watch) :
    Along (Keeps w) (w.act (.lock (some front))) ((p.migrate front h).acts.map .act) ∧
      (w.act (.lock (some front))).after ((p.migrate front h).acts.map .act) =
        match (p.migrate front h).value with
        | .ok b => w.act (.lock (some b))
        | .error _ => w := by
  cases p with
  | direct => exact ⟨(along_nil _ _).2 (Keeps.lock w front), rfl⟩
  | bounce =>
    have run : Pipeline.bounce.migrate front h = Drive.copy front h := rfl
    rw [run, Drive.copy, Drive.ask]
    cases (Hardware.copy front h).1 with
    | error reason =>
      have back : ((w.act (.lock (some front))).act (.copy front none)).act (.release front) = w := by
        simp only [act, Multiset.erase_cons_head]
      refine ⟨?_, back⟩
      rw [List.map_cons, along_cons, List.map_singleton, along_cons, along_nil]
      change _ ∧ _ ∧ Keeps w (((w.act (.lock (some front))).act (.copy front none)).act (.release front))
      rw [back]
      exact ⟨Keeps.lock w front, Keeps.lock w front, Keeps.refl w⟩
    | ok b =>
      have swapped : ((w.act (.lock (some front))).act (.copy front (some b))).act (.release front) =
          w.act (.lock (some b)) := by
        simp only [act, Multiset.cons_swap (Frame.composite b), Multiset.erase_cons_head]
      refine ⟨?_, swapped⟩
      rw [List.map_cons, along_cons, List.map_singleton, along_cons, along_nil]
      change _ ∧ _ ∧ Keeps w (((w.act (.lock (some front))).act (.copy front (some b))).act (.release front))
      rw [swapped]
      have both : Keeps w ((w.act (.lock (some front))).act (.copy front (some b))) :=
        ⟨(Multiset.le_cons_self _ _).trans (Multiset.le_cons_self _ _), rfl⟩
      exact ⟨Keeps.lock w front, both, Keeps.lock w b⟩

/-- After a buffer was fetched it is in the hands of the surface, behind the framebuffer; if none could be fetched,
nothing has changed. -/
theorem fetch_after (s : Surface) (h : σ) (w : Watch) :
    Along (Keeps w) w ((s.fetch h).acts.map .act) ∧
      w.after ((s.fetch h).acts.map .act) =
        match (s.fetch h).value with
        | .ok (b, fb) => (w.act (.lock (some b))).act (.framebuffer 0 b (some fb))
        | .error _ => w := by
  rw [fetch, Drive.bind_run, Drive.lockFront, Drive.ask]
  cases (Hardware.lockFront h).1 with
  | error reason =>
    exact ⟨(along_cons _ _ _ _).2 ⟨Keeps.refl w, (along_nil _ _).2 (Keeps.refl w)⟩, rfl⟩
  | ok front =>
    obtain ⟨along, after⟩ := migrate_after s.pipeline front (Hardware.lockFront h).2 w
    have locked : w.after ([Act.lock (some front)].map .act) = w.act (.lock (some front)) := rfl
    have first : Along (Keeps w) w ([Act.lock (some front)].map .act) :=
      (along_cons _ _ _ _).2 ⟨Keeps.refl w, (along_nil _ _).2 (Keeps.lock w front)⟩
    simp only [Drive.bind_run, Except.toOption, List.map_append, along_append, after_append, locked]
    cases hm : (s.pipeline.migrate front (Hardware.lockFront h).2).value with
    | error reason =>
      rw [hm] at after
      rw [after]
      exact ⟨⟨first, along, (along_nil _ _).2 (Keeps.refl w)⟩, rfl⟩
    | ok b =>
      rw [hm] at after
      rw [after]
      simp only [Drive.bind_run, Drive.framebuffer, Drive.ask]
      cases (Hardware.framebufferOf 0 b (s.pipeline.migrate front (Hardware.lockFront h).2).state).1 with
      | some fb =>
        exact ⟨⟨first, along, (along_cons _ _ _ _).2 ⟨Keeps.lock w b, (along_nil _ _).2 (Keeps.lock w b)⟩⟩, rfl⟩
      | none =>
        have back : (w.act (.lock (some b))).act (.release b) = w := by
          simp only [act, Multiset.erase_cons_head]
        have last : Keeps w ((w.act (.lock (some b))).act (.release b)) := by
          rw [back]
          exact Keeps.refl w
        refine ⟨⟨first, along, (along_cons _ _ _ _).2 ⟨Keeps.lock w b, ?_⟩⟩, back⟩
        exact (along_cons _ _ _ _).2 ⟨Keeps.lock w b, (along_nil _ _).2 last⟩

theorem migrate_presents (p : Pipeline) (front : FrontBuffer) (h : σ) :
    ∀ a ∈ (p.migrate front h).acts, ¬ a.Presents := by
  cases p with
  | direct => exact List.forall_mem_nil _
  | bounce => simp [Pipeline.migrate, Drive.copy, Drive.ask, Act.Presents]

theorem fetch_presents (s : Surface) (h : σ) : ∀ a ∈ (s.fetch h).acts, ¬ a.Presents := by
  rw [fetch, Drive.bind_run, Drive.lockFront, Drive.ask]
  simp only [List.cons_append, List.nil_append, List.forall_mem_cons]
  refine ⟨id, ?_⟩
  cases (Hardware.lockFront h).1 with
  | error reason => exact List.forall_mem_nil _
  | ok front =>
    simp only [Drive.bind_run, List.forall_mem_append]
    refine ⟨migrate_presents _ _ _, ?_⟩
    cases (s.pipeline.migrate front (Hardware.lockFront h).2).value with
    | error reason => exact List.forall_mem_nil _
    | ok b =>
      simp only [Drive.bind_run, Drive.framebuffer, Drive.ask, List.forall_mem_append]
      refine ⟨List.forall_mem_singleton.2 id, ?_⟩
      cases (Hardware.framebufferOf 0 b (s.pipeline.migrate front (Hardware.lockFront h).2).state).1 with
      | some fb => exact List.forall_mem_nil _
      | none => exact List.forall_mem_singleton.2 id

end Fetch

/-! ## Selecting -/

section Select
variable {σ : Type} [Hardware σ]

theorem pick_eq (m : Matcher) (rs : List Renderable) (p : Pick) (h : m.pick rs = some p) :
    rs = p.above ++ p.chosen :: p.below := by
  induction rs generalizing m p with
  | nil => cases h
  | cons r rs ih =>
    rw [Matcher.pick] at h
    split at h
    · cases h
      rfl
    · obtain ⟨q, hq, rfl⟩ := Option.map_eq_some_iff.1 h
      exact congrArg (r :: ·) (ih _ q hq)

theorem candidateOf_run (size : Size) (k : Nat) (b : ClientBuffer) (h : σ) :
    (∀ c, (candidateOf size k b h).value = some c → c.buffer = b) ∧
      ∀ a ∈ (candidateOf size k b h).acts, ∃ planes fb, a = .importBuffer k planes fb := by
  rw [candidateOf]
  by_cases fits : b.size = size
  · rw [if_pos fits]
    cases b.planes with
    | none => exact ⟨fun c hc => (Option.some_ne_none c hc.symm).elim, List.forall_mem_nil _⟩
    | some planes =>
      simp only [Drive.bind_run, Drive.importPlanes, Drive.ask, Drive.pure_run, List.append_nil]
      refine ⟨fun c hc => ?_, fun a ha => ⟨planes, _, List.mem_singleton.1 ha⟩⟩
      obtain ⟨fb, -, rfl⟩ := Option.map_eq_some_iff.1 hc
      rfl
  · rw [if_neg fits]
    exact ⟨fun c hc => (Option.some_ne_none c hc.symm).elim, List.forall_mem_nil _⟩

theorem select_run (rs : List Renderable) (area : Rect) (size : Size) (k : Nat) (h : σ) :
    (((select rs area size k h).value.candidate.toList.map (·.buffer)) ++
      (select rs area size k h).value.rest).Perm (rs.map (·.buffer)) ∧
      ∀ a ∈ (select rs area size k h).acts, ∃ planes fb, a = .importBuffer k planes fb := by
  rw [select]
  cases hp : (Matcher.start area).pick rs.reverse with
  | none => exact ⟨List.Perm.refl _, List.forall_mem_nil _⟩
  | some p =>
    obtain ⟨from_chosen, imports⟩ := candidateOf_run size k p.chosen.buffer h
    simp only [Drive.bind_run]
    cases hc : (candidateOf size k p.chosen.buffer h).value with
    | none => exact ⟨List.Perm.refl _, by simpa using imports⟩
    | some c =>
      refine ⟨?_, by simpa using imports⟩
      have whole : rs.map (·.buffer) =
          p.below.reverse.map (·.buffer) ++ p.chosen.buffer :: p.above.reverse.map (·.buffer) := by
        have h := congrArg List.reverse (pick_eq _ _ _ hp)
        rw [List.reverse_reverse] at h
        rw [h]
        simp
      rw [whole]
      have chosen : c.buffer = p.chosen.buffer := from_chosen c hc
      simp only [Drive.pure_run, Option.toList_some, List.map_singleton, chosen, Pick.others, List.map_append,
        List.singleton_append]
      exact List.perm_middle.symm

end Select

end Surface

end Multihead.Scanout
