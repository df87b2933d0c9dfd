import Multihead.Proofs.Scanout.Ledger
import Multihead.Proofs.Scanout.Waiting

/-! # Whole or not at all
If a surface cannot be created, no output has noticed, and every buffer that came in has gone out again. If it can, it
has the one buffer that is left, and this is what each output was asked to show. -/

set_option autoImplicit false

namespace Multihead.Scanout

/-! ## What is done for it -/

namespace Act

/-- It is done to get a first frame. No output is asked to show anything. -/
def Prepares : Act → Prop
  | makeCurrent _ | swap _ | lock _ | createCopier _ _ _ _ | copy _ _ | framebuffer _ _ _ | release _ => True
  | _ => False

theorem Prepares.quiet {a : Act} (prepares : a.Prepares) : ¬ a.Presents ∧ a.isWait = false := by
  cases a with
  | setCrtc | flip | wait => exact absurd prepares id
  | _ => exact ⟨id, rfl⟩

def isCopier : Act → Bool
  | createCopier _ _ _ _ => true
  | _ => false

end Act

def copierCalls (acts : List Act) : List Act := acts.filter Act.isCopier

theorem copierCalls_append (acts more : List Act) : copierCalls (acts ++ more) = copierCalls acts ++ copierCalls more :=
  List.filter_append ..

section Parts
variable {σ : Type} [Hardware σ] {n : Nat} {front : FrontBuffer}
variable {chosen : Except BounceError Pipeline} {r : Except CreateError (Pipeline × FrontBuffer × Framebuffer)}
variable {acts : List Act}

theorem Chosen.none_locked {h : σ} (choice : Chosen h front chosen acts) : locked acts = [] :=
  List.filterMap_eq_nil_iff.2 (choice.forall_acts fun _ => rfl)

theorem Carried.none_locked {p : Pipeline} {b : FrontBuffer} (carried : Carried p front b acts) : locked acts = [] := by
  cases carried <;> rfl

/-- The copier and the outputs give nothing that is not handed back, or in hand in the end. -/
theorem Received.inHand {h : Pipeline → σ} (received : Received n h front chosen r acts) :
    InHand [front] acts (r.toOption.map fun first => first.2.1).toList := by
  cases received with
  | noPipeline e => exact .release front
  | noCopy reason => exact .noCopy front
  | severalDomains carried => exact carried.inHand.append (.release _)
  | @noFramebuffer p b acts carried => exact carried.inHand.append ((InHand.framebuffer b none).append (.release b))
  | @got p b acts carried native fb => exact carried.inHand.append (.framebuffer b (some fb))

theorem Received.prepares {h : Pipeline → σ} (received : Received n h front chosen r acts) : ∀ a ∈ acts, a.Prepares := by
  cases received with
  | noPipeline | noCopy => simp [Act.Prepares]
  | severalDomains carried | noFramebuffer carried | got carried => cases carried <;> simp [Act.Prepares]

theorem Received.none_locked_none_called {h : Pipeline → σ} (received : Received n h front chosen r acts) :
    locked acts = [] ∧ copierCalls acts = [] := by
  cases received with
  | noPipeline | noCopy => exact ⟨rfl, rfl⟩
  | severalDomains carried | noFramebuffer carried | got carried => cases carried <;> exact ⟨rfl, rfl⟩

end Parts

namespace Begun

variable {σ : Type} [Hardware σ] {n : Nat} {h : σ} {r : Except CreateError (Pipeline × FrontBuffer × Framebuffer)}
variable {acts : List Act}

theorem prepares (begun : Begun n h r acts) : ∀ a ∈ acts, a.Prepares := by
  cases begun with
  | notCurrent | noSwap | noFrontBuffer => simp [Act.Prepares]
  | lockedFront choice received =>
    simp only [List.forall_mem_cons, List.forall_mem_append]
    exact ⟨trivial, trivial, trivial, choice.forall_acts fun ok => trivial, received.prepares⟩

theorem inHand (begun : Begun n h r acts) : InHand [] acts (r.toOption.map fun first => first.2.1).toList := by
  cases begun with
  | notCurrent | noSwap | noFrontBuffer =>
    intro b
    rfl
  | @lockedFront front chosen r copiers acts choice received =>
    have current : InHand [] [.makeCurrent true, .swap true] [] := .same (by simp [Act.Passes]) []
    have made : InHand [front] copiers [front] := .same (choice.forall_acts fun ok => id) _
    exact current.append ((InHand.lock front).append (made.append received.inHand))

theorem copier (begun : Begun n h r acts) : copierCalls acts = [] ∨
    ∃ front ok, locked acts = [front] ∧ copierCalls acts = [copierCall (Surface.drawn h) ok] ∧
      WantsCopier (Surface.drawn h) front := by
  cases begun with
  | notCurrent | noSwap | noFrontBuffer => exact .inl rfl
  | @lockedFront front chosen r copiers acts choice received =>
    obtain ⟨none_locked, none_called⟩ := received.none_locked_none_called
    rcases choice.copier with rfl | ⟨ok, rfl, wants⟩
    · exact .inl none_called
    · refine .inr ⟨front, ok, ?_, ?_, wants⟩
      · change front :: locked acts = [front]
        rw [none_locked]
      · change copierCall _ ok :: copierCalls acts = _
        rw [none_called]

end Begun

/-! ## Creation -/

/-- Every output is asked in turn to show the framebuffer, then the render surface is let go. -/
def lighting (n : Nat) (fb : Framebuffer) (ok : Nat → Bool) : List Act :=
  (List.range n).map (fun k => .setCrtc k fb (ok k)) ++ [.releaseCurrent]

theorem forall_lighting {P : Act → Prop} {n : Nat} {fb : Framebuffer} {ok : Nat → Bool}
    (setCrtc : ∀ k, P (.setCrtc k fb (ok k))) (releaseCurrent : P .releaseCurrent) : ∀ a ∈ lighting n fb ok, P a :=
  List.forall_mem_append.2 ⟨List.forall_mem_map.2 fun k _ => setCrtc k, List.forall_mem_singleton.2 releaseCurrent⟩

namespace Surface

variable {σ : Type} [Hardware σ]

theorem create_begun (settings : Settings) {n : Nat} (area : Rect) (transform : Transform) (h : σ) (pos : 0 < n) :
    (∃ e, (create settings n area transform h).value = .error e ∧
      Begun n h (.error e) (create settings n area transform h).acts) ∨
    ∃ (s : Surface) (b : FrontBuffer) (fb : Framebuffer) (first : List Act) (ok : Nat → Bool),
      (create settings n area transform h).value = .ok s ∧ s.visible = some (.composite b) ∧
        Begun n h (.ok (s.pipeline, b, fb)) first ∧
        (create settings n area transform h).acts = first ++ lighting n fb ok := by
  have begun := firstFrame_begun n h
  rw [create, if_neg pos.ne', Drive.bind_run]
  cases first : (firstFrame n h).value with
  | error e =>
    rw [first] at begun
    exact .inl ⟨e, rfl, by simpa using begun⟩
  | ok got =>
    obtain ⟨p, b, fb⟩ := got
    rw [first] at begun
    obtain ⟨ok, acts⟩ := setCrtcs_answers fb (List.nodup_range (n := n)) (firstFrame n h).state
    refine .inr ⟨_, b, fb, _, ok, rfl, rfl, begun, ?_⟩
    simp [lighting, acts, Drive.releaseCurrent, Drive.ask]

/-- If a surface cannot be created, no output was asked to show anything or waited for, and all that came in went out
again. If it is created, every output was asked once to show its frame, in order and whatever the ones before answered,
and then the render surface was let go. Frames are copied if and only if the first output wanted the first one copied,
and what came of this one suits all the outputs. A copier is asked for once, if at all, and only if it is wanted. -/
theorem created_whole_or_not_at_all (settings : Settings) (outputs : Nat) (area : Rect) (transform : Transform) (h : σ) :
    let opening := create settings outputs area transform h
    (match opening.value with
      | .error _ => (∀ a ∈ opening.acts, ¬ a.Presents ∧ a.isWait = false) ∧ InHand [] opening.acts []
      | .ok s => 0 < outputs ∧
        ∃ (front b : FrontBuffer) (fb : Framebuffer) (before : List Act) (ok : Nat → Bool),
          opening.acts = before ++ .framebuffer 0 b (some fb) :: lighting outputs fb ok ∧
            (∀ a ∈ before, ¬ a.Presents ∧ a.isWait = false) ∧ locked before = [front] ∧
            s.visible = some (.composite b) ∧ InHand [] opening.acts [b] ∧
            (s.pipeline = .bounce ↔ Hardware.isForeign (drawn h) 0 front = true) ∧
            ∀ k < outputs, Hardware.isForeign (migrated front h s.pipeline) k b = false) ∧
      (copierCalls opening.acts = [] ∨ ∃ front ok, locked opening.acts = [front] ∧
        copierCalls opening.acts = [copierCall (drawn h) ok] ∧ WantsCopier (drawn h) front) := by
  intro opening
  rcases Nat.eq_zero_or_pos outputs with rfl | pos
  · exact ⟨⟨List.forall_mem_nil _, fun b => rfl⟩, .inl rfl⟩
  rcases create_begun settings area transform h pos with
    ⟨e, value, begun⟩ | ⟨s, b, fb, first, ok, value, visible, begun, acts⟩
  · change opening.value = .error e at value
    rw [value]
    exact ⟨⟨fun a ha => (begun.prepares a ha).quiet, begun.inHand⟩, begun.copier⟩
  · change opening.value = .ok s at value
    change opening.acts = first ++ lighting outputs fb ok at acts
    obtain ⟨front, copiers, source, choice, carried, native, whole⟩ := begun.got
    -- the framebuffer is looked for last, right before the outputs are asked to show it
    let before := .makeCurrent true :: .swap true :: .lock (some front) :: (copiers ++ source)
    obtain rfl : first = before ++ [.framebuffer 0 b (some fb)] := by simp [whole, before]
    have front_locked : locked before = [front] := by
      change front :: locked (copiers ++ source) = [front]
      rw [locked_append, choice.none_locked, carried.none_locked]
      rfl
    rw [value, acts]
    refine ⟨⟨pos, front, b, fb, before, ok, ?_, ?_, front_locked, visible, ?_, choice.bounce_iff, native⟩, ?_⟩
    · rw [List.append_assoc, List.singleton_append]
    · exact fun a ha => (begun.prepares a (List.mem_append_left _ ha)).quiet
    · exact begun.inHand.append (.same (forall_lighting (fun _ => id) id) _)
    · have none_called : copierCalls (lighting outputs fb ok) = [] :=
        List.filter_eq_nil_iff.2 (forall_lighting (fun _ => Bool.false_ne_true) Bool.false_ne_true)
      have none_locked : locked (lighting outputs fb ok) = [] :=
        List.filterMap_eq_nil_iff.2 (forall_lighting (fun _ => rfl) rfl)
      rw [locked_append, none_locked, List.append_nil, copierCalls_append, none_called, List.append_nil]
      exact begun.copier

/-- A second output, which cannot show the copies that are made for the first one. -/
def spanning : Rig := { hybrid with heads := hybrid.heads ++ [⟨2, 1, 60, [], true, true, true, true, 1000, 0⟩] }

/-- On the first output alone a surface is created, and the copy of its frame is in hand. On both together it is not, and
the frame and its copy have gone out again. -/
theorem spanning_whole_or_not :
    ((create {} 1 twoHeadsView .normal spanning).value = .ok hybridSurface ∧ ∃ fb before ok,
      (create {} 1 twoHeadsView .normal spanning).acts =
        before ++ .framebuffer 0 ⟨100, ⟨1920, 1080⟩⟩ (some fb) :: lighting 1 fb ok ∧
      InHand [] (create {} 1 twoHeadsView .normal spanning).acts [⟨100, ⟨1920, 1080⟩⟩]) ∧
    (create {} 2 twoHeadsView .normal spanning).value = .error .severalDomains ∧
      (create {} 2 twoHeadsView .normal spanning).acts =
        [.makeCurrent true, .swap true, .lock (some ⟨1, ⟨1920, 1080⟩⟩), .createCopier 0 ⟨1920, 1080⟩ ⟨"XR24"⟩ true,
          .copy ⟨1, ⟨1920, 1080⟩⟩ (some ⟨100, ⟨1920, 1080⟩⟩), .release ⟨1, ⟨1920, 1080⟩⟩,
          .release ⟨100, ⟨1920, 1080⟩⟩] ∧
      (∀ a ∈ (create {} 2 twoHeadsView .normal spanning).acts, ¬ a.Presents ∧ a.isWait = false) ∧
      InHand [] (create {} 2 twoHeadsView .normal spanning).acts [] := by
  have one : (create {} 1 twoHeadsView .normal spanning).value = .ok hybridSurface := by decide +kernel
  have both : (create {} 2 twoHeadsView .normal spanning).value = .error .severalDomains := by decide +kernel
  obtain ⟨created, -⟩ := created_whole_or_not_at_all {} 1 twoHeadsView .normal spanning
  obtain ⟨refused, -⟩ := created_whole_or_not_at_all {} 2 twoHeadsView .normal spanning
  rw [one] at created
  rw [both] at refused
  obtain ⟨-, front, b, fb, before, ok, acts, -, -, visible, inHand, -⟩ := created
  obtain rfl : ⟨100, ⟨1920, 1080⟩⟩ = b := by simpa [hybridSurface] using visible
  exact ⟨⟨one, fb, before, ok, acts, inHand⟩, both, by decide +kernel, refused⟩

end Surface

end Multihead.Scanout
