import Multihead.Proofs.Scanout.Acts

/-! # The first frame
Every way in which a first frame can come about, or not. A front buffer is drawn; a pipeline is chosen for it, by what
the first output says of it; it is carried to where the outputs can show it, if they all can; and the first output finds
a framebuffer for it. -/

set_option autoImplicit false

namespace Multihead.Scanout

/-! ## Carrying -/

/-- The acts by which a front buffer becomes a buffer that the outputs can show. -/
inductive Carried : Pipeline → FrontBuffer → FrontBuffer → List Act → Prop
  | asIs (b : FrontBuffer) : Carried .direct b b []
  | copied (front b : FrontBuffer) : Carried .bounce front b [.copy front (some b), .release front]

namespace Surface

variable {σ : Type} [Hardware σ]

theorem migrate_carried (p : Pipeline) (front : FrontBuffer) (h : σ) :
    (∃ b, (p.migrate front h).value = .ok b ∧ Carried p front b (p.migrate front h).acts) ∨
      ∃ reason, p = .bounce ∧ (p.migrate front h).value = .error reason ∧
        (p.migrate front h).acts = [.copy front none, .release front] := by
  cases p with
  | direct => exact .inl ⟨front, rfl, .asIs front⟩
  | bounce =>
    have run : Pipeline.bounce.migrate front h = Drive.copy front h := rfl
    rw [run, Drive.copy, Drive.ask]
    cases (Hardware.copy front h).1 with
    | ok b => exact .inl ⟨b, rfl, .copied front b⟩
    | error reason => exact .inr ⟨reason, rfl, rfl, rfl⟩

end Surface

/-! ## Extensions -/

/-- All that is required is a word of the text. -/
def Listed (required : List String) (listed : String) : Prop :=
  ∀ e ∈ required, e.toList ∈ Text.words listed.toList

theorem requireExtensions_eq_ok (api : String) (required : List String) (listed : String) :
    requireExtensions api required listed = .ok () ↔ Listed required listed := by
  have none_unlisted : unlisted required listed = [] ↔ Listed required listed := by
    simp [unlisted, Listed, List.filter_eq_nil_iff]
  rw [← none_unlisted, requireExtensions]
  cases unlisted required listed <;> simp

/-! ## The pipeline -/

section Chosen
variable {σ : Type} [Hardware σ]

/-- Copies are wanted on the first output, and can be asked for. -/
structure WantsCopier (h : σ) (front : FrontBuffer) : Prop where
  foreign : Hardware.isForeign h 0 front = true
  egl : Listed requiredEGL (Hardware.eglExtensions h)
  gl : Listed requiredGL (Hardware.glExtensions h)

def copierCall (h : σ) (ok : Bool) : Act :=
  .createCopier (Hardware.device h 0) (Hardware.surfaceSize h) Pipeline.bounceFormat ok

/-- How a pipeline is chosen for a first front buffer. -/
inductive Chosen (h : σ) (front : FrontBuffer) : Except BounceError Pipeline → List Act → Prop
  | direct (native : Hardware.isForeign h 0 front = false) : Chosen h front (.ok .direct) []
  | missing (foreign : Hardware.isForeign h 0 front = true) (m : MissingExtensions) :
    Chosen h front (.error (.missing m)) []
  | noCopier (wants : WantsCopier h front) (reason : String) :
    Chosen h front (.error (.copier reason)) [copierCall h false]
  | bounce (wants : WantsCopier h front) : Chosen h front (.ok .bounce) [copierCall h true]

theorem Surface.choosePipeline_chosen (front : FrontBuffer) (h : σ) :
    Chosen h front (choosePipeline front h).value (choosePipeline front h).acts := by
  simp only [choosePipeline, Drive.look_bind_run]
  cases foreign : Hardware.isForeign h 0 front with
  | false => exact .direct foreign
  | true =>
  simp only [if_true, Drive.look_bind_run, Pipeline.createBounce]
  cases egl : requireExtensions "EGL" requiredEGL (Hardware.eglExtensions h) with
  | error m => exact .missing foreign m
  | ok u =>
  cases gl : requireExtensions "GL" requiredGL (Hardware.glExtensions h) with
  | error m => exact .missing foreign m
  | ok u =>
  have wants : WantsCopier h front :=
    ⟨foreign, (requireExtensions_eq_ok ..).1 egl, (requireExtensions_eq_ok ..).1 gl⟩
  simp only [Drive.bind_run, Drive.createCopier, Drive.ask]
  cases (Hardware.createCopier (Hardware.device h 0) (Hardware.surfaceSize h) Pipeline.bounceFormat h).1 with
  | error reason => exact .noCopier wants reason
  | ok u => exact .bounce wants


section Inversion
variable {h : σ} {front : FrontBuffer} {acts : List Act}

theorem Chosen.copier {chosen : Except BounceError Pipeline} (choice : Chosen h front chosen acts) :
    acts = [] ∨ ∃ ok, acts = [copierCall h ok] ∧ WantsCopier h front := by
  cases choice with
  | direct | missing => exact .inl rfl
  | noCopier wants reason => exact .inr ⟨false, rfl, wants⟩
  | bounce wants => exact .inr ⟨true, rfl, wants⟩

theorem Chosen.forall_acts {P : Act → Prop} (call : ∀ ok, P (copierCall h ok)) {chosen : Except BounceError Pipeline}
    (choice : Chosen h front chosen acts) : ∀ a ∈ acts, P a := by
  rcases choice.copier with rfl | ⟨ok, rfl, -⟩
  · exact List.forall_mem_nil _
  · exact List.forall_mem_singleton.2 (call ok)

theorem Chosen.bounce_iff {p : Pipeline} (choice : Chosen h front (.ok p) acts) :
    p = .bounce ↔ Hardware.isForeign h 0 front = true := by
  cases choice with
  | direct native => simp [native]
  | bounce wants => simp [wants.foreign]

end Inversion

end Chosen

/-! ## The first frame -/

namespace Surface

variable {σ : Type} [Hardware σ]

/-- The hardware after the first front buffer was asked for. -/
def drawn (h : σ) : σ := (Drive.lockFront (Drive.swapBuffers (Drive.makeCurrent h).state).state).state

/-- The hardware after the first front buffer was taken to where it can be shown. -/
def migrated (front : FrontBuffer) (h : σ) (p : Pipeline) : σ :=
  (p.migrate front (choosePipeline front (drawn h)).state).state

end Surface

section First
variable {σ : Type} [Hardware σ]

/-- What comes of a front buffer, whether a pipeline was chosen for it or not. That each of `n` outputs can show it is
found on the hardware `h`, which depends on the pipeline. -/
inductive Received (n : Nat) (h : Pipeline → σ) (front : FrontBuffer) :
    Except BounceError Pipeline → Except CreateError (Pipeline × FrontBuffer × Framebuffer) → List Act → Prop
  | noPipeline (e : BounceError) : Received n h front (.error e) (.error (.bounce e)) [.release front]
  | noCopy (reason : String) :
    Received n h front (.ok .bounce) (.error (.migration reason)) [.copy front none, .release front]
  | severalDomains {p : Pipeline} {b : FrontBuffer} {acts : List Act} (carried : Carried p front b acts) :
    Received n h front (.ok p) (.error .severalDomains) (acts ++ [.release b])
  | noFramebuffer {p : Pipeline} {b : FrontBuffer} {acts : List Act} (carried : Carried p front b acts) :
    Received n h front (.ok p) (.error .noFramebuffer) (acts ++ [.framebuffer 0 b none, .release b])
  | got {p : Pipeline} {b : FrontBuffer} {acts : List Act} (carried : Carried p front b acts)
    (native : ∀ k < n, Hardware.isForeign (h p) k b = false) (fb : Framebuffer) :
    Received n h front (.ok p) (.ok (p, b, fb)) (acts ++ [.framebuffer 0 b (some fb)])

/-- How the first frame for `n` outputs comes about. -/
inductive Begun (n : Nat) (h : σ) : Except CreateError (Pipeline × FrontBuffer × Framebuffer) → List Act → Prop
  | notCurrent (reason : String) : Begun n h (.error (.notCurrent reason)) [.makeCurrent false]
  | noSwap (reason : String) : Begun n h (.error (.noSwap reason)) [.makeCurrent true, .swap false]
  | noFrontBuffer (reason : String) :
    Begun n h (.error (.noFrontBuffer reason)) [.makeCurrent true, .swap true, .lock none]
  | lockedFront {front : FrontBuffer} {chosen : Except BounceError Pipeline}
    {r : Except CreateError (Pipeline × FrontBuffer × Framebuffer)} {copiers acts : List Act}
    (choice : Chosen (Surface.drawn h) front chosen copiers)
    (received : Received n (Surface.migrated front h) front chosen r acts) :
    Begun n h r (.makeCurrent true :: .swap true :: .lock (some front) :: (copiers ++ acts))

theorem Surface.firstFrame_begun (n : Nat) (h : σ) : Begun n h (firstFrame n h).value (firstFrame n h).acts := by
  simp only [firstFrame, Drive.bind_run, Drive.makeCurrent, Drive.ask]
  cases (Hardware.makeCurrent h).1 with
  | error reason => exact .notCurrent reason
  | ok u =>
  simp only [Drive.bind_run, Drive.swapBuffers, Drive.ask]
  cases (Hardware.swapBuffers (Hardware.makeCurrent h).2).1 with
  | error reason => exact .noSwap reason
  | ok u =>
  simp only [Drive.bind_run, Drive.lockFront, Drive.ask]
  cases (Hardware.lockFront (Hardware.swapBuffers (Hardware.makeCurrent h).2).2).1 with
  | error reason => exact .noFrontBuffer reason
  | ok front =>
  simp only [Drive.bind_run, Except.isOk, Except.toBool, Except.toOption]
  have choice := choosePipeline_chosen front (drawn h)
  have drawn_eq : (Hardware.lockFront (Hardware.swapBuffers (Hardware.makeCurrent h).2).2).2 = drawn h := rfl
  rw [drawn_eq]
  cases chosen : (choosePipeline front (drawn h)).value with
  | error e =>
    rw [chosen] at choice
    have begun : Begun n h _ _ := .lockedFront choice (.noPipeline e)
    simpa [Drive.release, Drive.note] using begun
  | ok p =>
  rw [chosen] at choice
  simp only [Drive.bind_run]
  have migrated_eq : (p.migrate front (choosePipeline front (drawn h)).state).state = migrated front h p := rfl
  rcases migrate_carried p front (choosePipeline front (drawn h)).state with
    ⟨b, value, carried⟩ | ⟨reason, rfl, value, acts⟩
  · simp only [value, Drive.look_bind_run, migrated_eq]
    cases foreign : (List.range n).any (Hardware.isForeign (migrated front h p) · b) with
    | true =>
      have begun : Begun n h _ _ := .lockedFront choice (.severalDomains carried)
      simpa [Drive.release, Drive.note] using begun
    | false =>
      have native : ∀ k < n, Hardware.isForeign (migrated front h p) k b = false := fun k place =>
        Bool.eq_false_iff.2 (List.any_eq_false.1 foreign k (List.mem_range.2 place))
      simp only [Bool.false_eq_true, if_false, Drive.bind_run, Drive.framebuffer, Drive.ask]
      cases (Hardware.framebufferOf 0 b (migrated front h p)).1 with
      | some fb =>
        have begun : Begun n h _ _ := .lockedFront choice (.got carried native fb)
        simpa using begun
      | none =>
        have begun : Begun n h _ _ := .lockedFront choice (.noFramebuffer carried)
        simpa [Drive.release, Drive.note] using begun
  · have begun : Begun n h _ _ := .lockedFront choice (.noCopy reason)
    simpa [value, acts] using begun

theorem Begun.got {n : Nat} {h : σ} {p : Pipeline} {b : FrontBuffer} {fb : Framebuffer} {acts : List Act}
    (begun : Begun n h (.ok (p, b, fb)) acts) :
    ∃ front copiers source, Chosen (Surface.drawn h) front (.ok p) copiers ∧ Carried p front b source ∧
      (∀ k < n, Hardware.isForeign (Surface.migrated front h p) k b = false) ∧
      acts = .makeCurrent true :: .swap true :: .lock (some front) ::
        (copiers ++ (source ++ [.framebuffer 0 b (some fb)])) := by
  cases begun with
  | lockedFront choice received =>
    cases received with
    | got carried native fb => exact ⟨_, _, _, choice, carried, native, rfl⟩

end First

end Multihead.Scanout
