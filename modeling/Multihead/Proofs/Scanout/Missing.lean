import Multihead.Proofs.Scanout.Opening
import Multihead.Proofs.Text.Words

/-! # Missing extensions
No copier is asked for if a required extension is no word of the text that should list it. The error then names all that
the text of one interface lacks. It is the error of that interface alone: where both texts lack something, what the
second one lacks is not named. -/

set_option autoImplicit false

namespace Multihead.Scanout

/-! ## One interface -/

/-- An extension that is required, but is no word of the text. -/
structure Lacks (required : List String) (listed e : String) : Prop where
  required : e ∈ required
  unlisted : ¬ Text.IsWord e.toList listed.toList

/-- Of this interface it names all that the text lacks, and something is lacking. -/
structure MissingExtensions.Reports (m : MissingExtensions) (api : String) (required : List String)
    (listed : String) : Prop where
  api : m.api = api
  names : ∀ e, e ∈ m.missing ↔ Lacks required listed e
  some_lacking : ∃ e, Lacks required listed e

section Interface
variable (api : String) (required : List String) (listed : String)

theorem mem_unlisted_iff (e : String) : e ∈ unlisted required listed ↔ Lacks required listed e := by
  simp only [unlisted, List.mem_filter, Bool.not_eq_true', List.contains_eq_mem, decide_eq_false_iff_not,
    Text.mem_words_iff]
  constructor
  · rintro ⟨required, unlisted⟩
    exact ⟨required, unlisted⟩
  · rintro ⟨required, unlisted⟩
    exact ⟨required, unlisted⟩

theorem listed_iff : Listed required listed ↔ ∀ e, ¬ Lacks required listed e := by
  simp only [Listed, Text.mem_words_iff]
  constructor
  · rintro all e ⟨required, unlisted⟩
    exact unlisted (all e required)
  · intro none e required
    by_contra unlisted
    exact none e ⟨required, unlisted⟩

theorem reports_of_error {m : MissingExtensions} (missing : requireExtensions api required listed = .error m) :
    m.Reports api required listed := by
  have names := mem_unlisted_iff required listed
  rw [requireExtensions] at missing
  cases lacking : unlisted required listed with
  | nil =>
    rw [lacking] at missing
    cases missing
  | cons e es =>
    rw [lacking] at missing names
    obtain rfl := Except.error.inj missing
    exact ⟨rfl, names, e, (names e).1 List.mem_cons_self⟩

end Interface

/-! ## Both interfaces -/

/-- The error is about the first interface that lacks something. -/
def MissingExtensions.ReportsFirst (m : MissingExtensions) (egl gl : String) : Prop :=
  m.Reports "EGL" requiredEGL egl ∨ (∀ e, ¬ Lacks requiredEGL egl e) ∧ m.Reports "GL" requiredGL gl

section Both
variable {m : MissingExtensions} {egl gl : String} (reports : m.ReportsFirst egl gl)

include reports

theorem some_lacking : (∃ e, Lacks requiredEGL egl e) ∨ ∃ e, Lacks requiredGL gl e := by
  rcases reports with first | ⟨-, second⟩
  · exact .inl first.some_lacking
  · exact .inr second.some_lacking

theorem names_all_iff : (∀ e, e ∈ m.missing ↔ Lacks requiredEGL egl e ∨ Lacks requiredGL gl e) ↔
    ¬ ((∃ e, Lacks requiredEGL egl e) ∧ ∃ e, Lacks requiredGL gl e) := by
  have apart : ∀ e ∈ requiredGL, e ∉ requiredEGL := by decide
  rcases reports with first | ⟨complete, second⟩
  · constructor
    · rintro all ⟨-, e, lacking⟩
      have named := (first.names e).1 ((all e).2 (.inr lacking))
      exact apart e lacking.required named.required
    · intro not_both e
      have none_lacking : ¬ Lacks requiredGL gl e := fun lacking => not_both ⟨first.some_lacking, e, lacking⟩
      rw [first.names, or_iff_left none_lacking]
  · refine iff_of_true (fun e => ?_) fun ⟨⟨e, lacking⟩, _⟩ => complete e lacking
    rw [second.names, or_iff_right (complete e)]

end Both

/-- What is said of missing extensions by something that did these acts, when the texts were these. -/
structure TellsMissing (tells : MissingExtensions → Prop) (acts : List Act) (egl gl : String) : Prop where
  tells_iff : (∃ m, tells m) ↔ (∃ e, Lacks requiredEGL egl e) ∨ ∃ e, Lacks requiredGL gl e
  no_copier : ∀ m, tells m → copierCalls acts = []
  first : ∀ m, tells m → m.ReportsFirst egl gl
  all_named : ∀ m, tells m →
    ((∀ e, e ∈ m.missing ↔ Lacks requiredEGL egl e ∨ Lacks requiredGL gl e) ↔
      ¬ ((∃ e, Lacks requiredEGL egl e) ∧ ∃ e, Lacks requiredGL gl e))

section Bounce
variable {σ : Type} [Hardware σ]

theorem createBounce_missing (device : Int32) (size : Size) (h : σ) :
    let made := Pipeline.createBounce device size h
    let egl := Hardware.eglExtensions h
    let gl := Hardware.glExtensions h
    (∃ m, made.value = .error (.missing m) ∧ made.acts = [] ∧ m.ReportsFirst egl gl) ∨
      (∀ m, made.value ≠ .error (.missing m)) ∧ (∀ e, ¬ Lacks requiredEGL egl e) ∧ ∀ e, ¬ Lacks requiredGL gl e := by
  simp only [Pipeline.createBounce, Drive.look_bind_run, ← listed_iff]
  cases egl : requireExtensions "EGL" requiredEGL (Hardware.eglExtensions h) with
  | error m => exact .inl ⟨m, rfl, rfl, .inl (reports_of_error _ _ _ egl)⟩
  | ok =>
    have egl_listed := (requireExtensions_eq_ok ..).1 egl
    cases gl : requireExtensions "GL" requiredGL (Hardware.glExtensions h) with
    | error m => exact .inl ⟨m, rfl, rfl, .inr ⟨(listed_iff _ _).1 egl_listed, reports_of_error _ _ _ gl⟩⟩
    | ok =>
      refine .inr ⟨fun m => ?_, egl_listed, (requireExtensions_eq_ok ..).1 gl⟩
      simp only [Drive.bind_run]
      cases (Drive.createCopier device size Pipeline.bounceFormat h).value <;> simp

theorem createBounce_tells (device : Int32) (size : Size) (h : σ) :
    TellsMissing (fun m => (Pipeline.createBounce device size h).value = .error (.missing m))
      (Pipeline.createBounce device size h).acts (Hardware.eglExtensions h) (Hardware.glExtensions h) := by
  rcases createBounce_missing device size h with ⟨m, missing, acts, reports⟩ | ⟨no_error, egl_complete, gl_complete⟩
  · have only : ∀ m', (Pipeline.createBounce device size h).value = .error (.missing m') → m' = m := by
      intro m' missing'
      exact BounceError.missing.inj (Except.error.inj (missing'.symm.trans missing))
    refine ⟨iff_of_true ⟨m, missing⟩ (some_lacking reports), fun m' _ => (congrArg copierCalls acts).trans rfl, ?_, ?_⟩
    · exact fun m' missing' => only m' missing' ▸ reports
    · exact fun m' missing' => only m' missing' ▸ names_all_iff reports
  · have complete : ¬ ((∃ e, Lacks requiredEGL (Hardware.eglExtensions h) e) ∨
        ∃ e, Lacks requiredGL (Hardware.glExtensions h) e) := by
      rintro (⟨e, lacking⟩ | ⟨e, lacking⟩)
      · exact egl_complete e lacking
      · exact gl_complete e lacking
    refine ⟨iff_of_false (fun ⟨m, missing⟩ => no_error m missing) complete, ?_, ?_, ?_⟩ <;>
      exact fun m missing => absurd missing (no_error m)

theorem Begun.no_copier_of_missing {n : Nat} {h : σ} {m : MissingExtensions} {acts : List Act}
    (begun : Begun n h (.error (.bounce (.missing m))) acts) : copierCalls acts = [] := by
  cases begun with
  | lockedFront choice received =>
    have none_called := received.none_locked_none_called.2
    cases received with
    | noPipeline =>
      cases choice with
      | missing => exact none_called

end Bounce

/-! ## Surfaces -/

namespace Surface

variable {σ : Type} [Hardware σ]

/-- A first front buffer was drawn that the first output cannot show as it is. -/
structure Hybrid (h : σ) (front : FrontBuffer) : Prop where
  current : (Drive.makeCurrent h).value = .ok ()
  swapped : (Drive.swapBuffers (Drive.makeCurrent h).state).value = .ok ()
  locked : (Drive.lockFront (Drive.swapBuffers (Drive.makeCurrent h).state).state).value = .ok front
  foreign : Hardware.isForeign (drawn h) 0 front = true

/-- The pipeline for copies, on the device of the first output. -/
def bouncing (h : σ) : Driven σ (Except BounceError Pipeline) :=
  Pipeline.createBounce (Hardware.device h 0) (Hardware.surfaceSize h) h

theorem choosePipeline_error_iff (front : FrontBuffer) (h : σ) (e : BounceError) :
    (choosePipeline front h).value = .error e ↔ Hardware.isForeign h 0 front = true ∧ (bouncing h).value = .error e := by
  simp only [choosePipeline, Drive.look_bind_run]
  cases Hardware.isForeign h 0 front with
  | false => simp
  | true =>
    simp only [if_true, Drive.look_bind_run, true_and]
    rfl

theorem firstFrame_bounce_iff (n : Nat) (h : σ) (e : BounceError) :
    (firstFrame n h).value = .error (.bounce e) ↔ ∃ front, Hybrid h front ∧ (bouncing (drawn h)).value = .error e := by
  simp only [firstFrame, Drive.bind_run]
  cases current : (Drive.makeCurrent h).value with
  | error reason =>
    refine iff_of_false (by simp) ?_
    rintro ⟨front, hybrid, -⟩
    cases current.symm.trans hybrid.current
  | ok =>
  simp only [Drive.bind_run]
  cases swapped : (Drive.swapBuffers (Drive.makeCurrent h).state).value with
  | error reason =>
    refine iff_of_false (by simp) ?_
    rintro ⟨front, hybrid, -⟩
    cases swapped.symm.trans hybrid.swapped
  | ok =>
  simp only [Drive.bind_run]
  cases locked : (Drive.lockFront (Drive.swapBuffers (Drive.makeCurrent h).state).state).value with
  | error reason =>
    refine iff_of_false (by simp) ?_
    rintro ⟨front, hybrid, -⟩
    cases locked.symm.trans hybrid.locked
  | ok front =>
  have refused : (∃ front', Hybrid h front' ∧ (bouncing (drawn h)).value = .error e) ↔
      (choosePipeline front (drawn h)).value = .error e := by
    rw [choosePipeline_error_iff]
    constructor
    · rintro ⟨front', hybrid, error⟩
      obtain rfl : front = front' := Except.ok.inj (locked.symm.trans hybrid.locked)
      exact ⟨hybrid.foreign, error⟩
    · rintro ⟨foreign, error⟩
      exact ⟨front, ⟨current, swapped, locked, foreign⟩, error⟩
  have drawn_eq : (Drive.lockFront (Drive.swapBuffers (Drive.makeCurrent h).state).state).state = drawn h := rfl
  rw [refused]
  simp only [Drive.bind_run, drawn_eq]
  cases (choosePipeline front (drawn h)).value with
  | error e' => simp
  | ok p =>
    -- whatever comes of it now is no error of the pipeline
    refine iff_of_false ?_ (by simp)
    simp only [Drive.bind_run]
    cases (p.migrate front (choosePipeline front (drawn h)).state).value with
    | error reason => simp
    | ok b =>
      simp only [Drive.look_bind_run]
      split
      · simp
      · simp only [Drive.bind_run]
        cases (Drive.framebuffer 0 b (p.migrate front (choosePipeline front (drawn h)).state).state).value <;> simp

theorem create_bounce_iff (settings : Settings) (n : Nat) (area : Rect) (transform : Transform) (h : σ)
    (e : BounceError) :
    (create settings n area transform h).value = .error (.bounce e) ↔
      0 < n ∧ ∃ front, Hybrid h front ∧ (bouncing (drawn h)).value = .error e := by
  rw [← firstFrame_bounce_iff n, create]
  rcases Nat.eq_zero_or_pos n with rfl | pos
  · simp
  · rw [if_neg pos.ne', Drive.bind_run]
    cases (firstFrame n h).value <;> simp [pos]

theorem create_tells (settings : Settings) {n : Nat} (pos : 0 < n) (area : Rect) (transform : Transform) {h : σ}
    {front : FrontBuffer} (hybrid : Hybrid h front) :
    TellsMissing (fun m => (create settings n area transform h).value = .error (.bounce (.missing m)))
      (create settings n area transform h).acts (Hardware.eglExtensions (drawn h)) (Hardware.glExtensions (drawn h)) := by
  have same : ∀ m, (create settings n area transform h).value = .error (.bounce (.missing m)) ↔
      (bouncing (drawn h)).value = .error (.missing m) := by
    intro m
    rw [create_bounce_iff]
    exact ⟨fun ⟨_, _, _, error⟩ => error, fun error => ⟨pos, front, hybrid, error⟩⟩
  obtain ⟨tells_iff, -, first, all_named⟩ :=
    createBounce_tells (Hardware.device (drawn h) 0) (Hardware.surfaceSize (drawn h)) (drawn h)
  refine ⟨(exists_congr same).trans tells_iff, fun m missing => ?_, fun m missing => first m ((same m).1 missing),
    fun m missing => all_named m ((same m).1 missing)⟩
  rcases create_begun settings area transform h pos with ⟨e, value, begun⟩ | ⟨s, -, -, -, -, value, -⟩
  · obtain rfl : e = .bounce (.missing m) := Except.error.inj (value.symm.trans missing)
    exact begun.no_copier_of_missing
  · cases value.symm.trans missing

/-- That extensions are missing is said if and only if some are, and then no copier is asked for. All that the first text
lacks is named; if it lacks nothing, all that the second one lacks. So everything is named unless both lack something.
All this is also true of a surface of which the first output needs copies, and of no other surface it is said. -/
theorem all_missing_named_iff (device : Int32) (size : Size) (h : σ) :
    let made := Pipeline.createBounce device size h
    TellsMissing (fun m => made.value = .error (.missing m)) made.acts (Hardware.eglExtensions h)
        (Hardware.glExtensions h) ∧
      ∀ (settings : Settings) (n : Nat) (area : Rect) (transform : Transform),
        let opening := create settings n area transform h
        (∀ front, 0 < n → Hybrid h front →
          TellsMissing (fun m => opening.value = .error (.bounce (.missing m))) opening.acts
            (Hardware.eglExtensions (drawn h)) (Hardware.glExtensions (drawn h))) ∧
        ∀ m, opening.value = .error (.bounce (.missing m)) → 0 < n ∧ ∃ front, Hybrid h front := by
  refine ⟨createBounce_tells device size h, fun settings n area transform => ⟨?_, fun m missing => ?_⟩⟩
  · exact fun front pos hybrid => create_tells settings pos area transform hybrid
  · obtain ⟨pos, front, hybrid, -⟩ := (create_bounce_iff settings n area transform h _).1 missing
    exact ⟨pos, front, hybrid⟩

def hybridWith (egl gl : String) : Rig := { hybrid with egl, gl }

/-- One extension is only the beginning of a word, another is a word between other blanks. -/
def lacksOne : Rig := hybridWith "EGL_KHR_image_base EGL_EXT_image_dma_buf_import_modifiers" "GL_OES\tGL_OES_EGL_image\n"

theorem lacksOne_named :
    (create {} 1 twoHeadsView .normal lacksOne).value =
        .error (.bounce (.missing ⟨"EGL", ["EGL_EXT_image_dma_buf_import"]⟩)) ∧
      copierCalls (create {} 1 twoHeadsView .normal lacksOne).acts = [] ∧
      ∀ e, e ∈ ["EGL_EXT_image_dma_buf_import"] ↔ Lacks requiredEGL lacksOne.egl e ∨ Lacks requiredGL lacksOne.gl e := by
  have hybrid : Hybrid lacksOne ⟨1, ⟨1920, 1080⟩⟩ := ⟨rfl, rfl, rfl, rfl⟩
  have missing : (create {} 1 twoHeadsView .normal lacksOne).value =
      .error (.bounce (.missing ⟨"EGL", ["EGL_EXT_image_dma_buf_import"]⟩)) := by decide +kernel
  have gl_listed : Listed requiredGL lacksOne.gl := by
    rw [Listed]
    decide +kernel
  obtain ⟨-, no_copier, -, all_named⟩ :=
    ((all_missing_named_iff 3 ⟨64, 64⟩ lacksOne).2 {} 1 twoHeadsView .normal).1 _ Nat.one_pos hybrid
  refine ⟨missing, no_copier _ missing, (all_named _ missing).2 ?_⟩
  rintro ⟨-, e, lacking⟩
  exact (listed_iff _ _).1 gl_listed e lacking

def lacksBoth : Rig := hybridWith "EGL_KHR_image_base" "GL_OES_texture_npot"

/-- What the second one lacks is not named. -/
theorem lacksBoth_not_named :
    (Pipeline.createBounce 3 ⟨64, 64⟩ lacksBoth).value =
        .error (.missing ⟨"EGL", ["EGL_EXT_image_dma_buf_import"]⟩) ∧
      Lacks requiredGL lacksBoth.gl "GL_OES_EGL_image" ∧ "GL_OES_EGL_image" ∉ ["EGL_EXT_image_dma_buf_import"] := by
  refine ⟨by decide +kernel, ⟨by decide, by decide +kernel⟩, by decide⟩

end Surface

end Multihead.Scanout
