import Multihead.Proofs.Scanout.Run

/-! # Steps of a run
A run taken apart: every request with the surface and the hardware that it found. What came of it, the acts, the
surface after it and the frame that was posted, follows from these. A part of a run is a run from where it begins. -/

set_option autoImplicit false

namespace Multihead.Scanout

/-- The frame that was brought up last. -/
def Surface.newest (s : Surface) : Option Frame := s.scheduled.or s.visible

/-- The frame of a post that left this surface with an answer. -/
def Surface.brought (s : Surface) : Except PresentError Unit → Option Frame
  | .ok () => s.newest
  | .error _ => none

def Frame.isClient : Frame → Bool
  | composite _ => false
  | bypass _ => true

structure Step (σ : Type) where
  before : Surface
  hardware : σ
  request : Request

namespace Step

variable {σ : Type}

def isPost (t : Step σ) : Bool :=
  match t.request with
  | .post => true
  | _ => false

theorem isPost_iff (t : Step σ) : t.isPost = true ↔ t.request = .post := by
  obtain ⟨s, h, r⟩ := t
  cases r <;> simp [isPost]

variable [Hardware σ]

def after (t : Step σ) : Surface := (t.before.perform t.request t.hardware).value

def acts (t : Step σ) : List Act := (t.before.perform t.request t.hardware).acts

def left (t : Step σ) : σ := (t.before.perform t.request t.hardware).state

/-- The frame of a post that succeeded. -/
def posted (t : Step σ) : Option Frame :=
  match t.request with
  | .post => t.after.brought (t.before.post t.hardware).value.1
  | _ => none

theorem isPost_of_posted {t : Step σ} {frame : Frame} (h : t.posted = some frame) : t.request = .post := by
  obtain ⟨s, h', r⟩ := t
  cases r with
  | post => rfl
  | overlay | swapBuffers | setTransform | scheduleModeSet => cases h

end Step

namespace Surface

variable {σ : Type} [Hardware σ]

def steps (s : Surface) (h : σ) : List Request → List (Step σ)
  | [] => []
  | r :: rs => ⟨s, h, r⟩ :: steps (s.perform r h).value (s.perform r h).state rs

def serve (s : Surface) : List Request → Drive σ Surface
  | [] => pure s
  | r :: rs => do
    let s ← s.perform r
    serve s rs

theorem acts_serve (s : Surface) (h : σ) (rs : List Request) :
    (s.serve rs h).acts = (s.steps h rs).flatMap Step.acts := by
  induction rs generalizing s h with
  | nil => rfl
  | cons r rs ih =>
    rw [serve, Drive.bind_run, ih]
    rfl

/-- A part of the steps are the steps of a part. -/
theorem steps_eq_append {s : Surface} {h : σ} {rs : List Request} {past later : List (Step σ)}
    (split : s.steps h rs = past ++ later) :
    ∃ rs₁ rs₂, rs = rs₁ ++ rs₂ ∧ past = s.steps h rs₁ ∧
      later = (s.serve rs₁ h).value.steps (s.serve rs₁ h).state rs₂ := by
  induction past generalizing s h rs with
  | nil => exact ⟨[], rs, rfl, rfl, split.symm⟩
  | cons t past ih =>
    cases rs with
    | nil => cases split
    | cons r rs =>
      obtain ⟨rfl, rest⟩ := List.cons.inj split
      obtain ⟨rs₁, rs₂, rfl, rfl, rfl⟩ := ih rest
      exact ⟨r :: rs₁, rs₂, rfl, rfl, rfl⟩

theorem steps_eq_cons {s : Surface} {h : σ} {rs : List Request} {t : Step σ} {later : List (Step σ)}
    (split : s.steps h rs = t :: later) :
    ∃ r rest, rs = r :: rest ∧ t = ⟨s, h, r⟩ ∧ later = (s.perform r h).value.steps (s.perform r h).state rest := by
  cases rs with
  | nil => cases split
  | cons r rest =>
    obtain ⟨rfl, rfl⟩ := List.cons.inj split
    exact ⟨r, rest, rfl, rfl, rfl⟩

/-- A step among others: a run leads to it, and a run follows it. -/
theorem steps_eq_append_cons {s : Surface} {h : σ} {rs : List Request} {past later : List (Step σ)} {t : Step σ}
    (split : s.steps h rs = past ++ t :: later) :
    ∃ rs₁ rs₂, past = s.steps h rs₁ ∧ t.before = (s.serve rs₁ h).value ∧
      later = t.after.steps (t.before.perform t.request t.hardware).state rs₂ := by
  obtain ⟨rs₁, rest, -, past_eq, from_t⟩ := steps_eq_append split
  obtain ⟨r, rs₂, -, rfl, later_eq⟩ := steps_eq_cons from_t.symm
  exact ⟨rs₁, rs₂, past_eq, rfl, later_eq⟩

/-- From one step to a later one there is a run of its own. -/
theorem steps_between {s : Surface} {h : σ} {rs : List Request} {past since later : List (Step σ)} {t u : Step σ}
    (split : s.steps h rs = past ++ t :: (since ++ u :: later)) :
    ∃ rs', since = t.after.steps t.left rs' ∧ u.before = (t.after.serve rs' t.left).value := by
  obtain ⟨-, rs₂, -, -, after_t⟩ := steps_eq_append_cons split
  obtain ⟨rs', -, during, before_u, -⟩ := steps_eq_append_cons after_t.symm
  exact ⟨rs', during, before_u⟩

theorem serve_append (s : Surface) (rs₁ rs₂ : List Request) :
    s.serve (rs₁ ++ rs₂) = (s.serve rs₁ >>= fun u => u.serve rs₂ : Drive σ Surface) := by
  induction rs₁ generalizing s with
  | nil => rw [List.nil_append, serve, pure_bind]
  | cons r rs₁ ih => simp only [List.cons_append, serve, ih, bind_assoc]

theorem serve_after {s : Surface} {h : σ} {rs : List Request} {past since : List (Step σ)} {t : Step σ}
    (split : s.steps h rs = past ++ t :: since) :
    ∃ rest, since = t.after.steps t.left rest ∧ (s.serve rs h).value = (t.after.serve rest t.left).value := by
  obtain ⟨rs₁, rs₂, rfl, -, from_t⟩ := steps_eq_append split
  obtain ⟨r, rest, rfl, rfl, rfl⟩ := steps_eq_cons from_t.symm
  exact ⟨rest, rfl, by rw [serve_append]; rfl⟩

/-- What every request keeps holds at each step, and in the end. -/
theorem kept_along (p : Surface → Prop) (keeps : ∀ (s : Surface) (h : σ) (r : Request), p s → p (s.perform r h).value)
    (s : Surface) (h : σ) (rs : List Request) (first : p s) :
    (∀ t ∈ s.steps h rs, p t.before) ∧ p (s.serve rs h).value := by
  induction rs generalizing s h with
  | nil => exact ⟨List.forall_mem_nil _, first⟩
  | cons r rs ih =>
    obtain ⟨later, last⟩ := ih _ (s.perform r h).state (keeps s h r first)
    exact ⟨List.forall_mem_cons.2 ⟨first, later⟩, last⟩

end Surface

theorem getLast?_filterMap_cons {α β : Type} (f : α → Option β) (a : α) (as : List α) :
    ((a :: as).filterMap f).getLast? = (as.filterMap f).getLast?.or (f a) := by
  rw [List.filterMap_cons]
  cases f a with
  | none => rw [Option.or_none]
  | some b =>
    rw [List.getLast?_cons]
    cases (as.filterMap f).getLast? <;> rfl

theorem getLast?_filterMap_eq_some {α β : Type} {f : α → Option β} {as : List α} {b : β}
    (last : (as.filterMap f).getLast? = some b) :
    ∃ before a since, as = before ++ a :: since ∧ f a = some b ∧ ∀ x ∈ since, f x = none := by
  induction as with
  | nil => cases last
  | cons a as ih =>
    rw [getLast?_filterMap_cons] at last
    cases later : (as.filterMap f).getLast? with
    | some b' =>
      rw [later, Option.some_or] at last
      obtain ⟨before, a', since, rfl, here, quiet⟩ := ih (later.trans last)
      exact ⟨a :: before, a', since, rfl, here, quiet⟩
    | none =>
      rw [later, Option.none_or] at last
      exact ⟨[], a, as, rfl, last, List.filterMap_eq_nil_iff.1 (List.getLast?_eq_none_iff.1 later)⟩

end Multihead.Scanout
