import Multihead.Proofs.Scanout.Selection

/-! # Where a client's buffer is shown
A client's buffer is matched with the transform and the view area of a surface when it is offered, and shown by a post
that may come later. What is set in between is not noticed: the buffer is shown as it was matched if and only if the
transform and the area that were set last are still those of the match. -/

set_option autoImplicit false

namespace Multihead.Scanout

/-! ## Places -/

def Surface.place (s : Surface) : Transform × Rect := (s.transform, s.area)

theorem Posted.place {s u : Surface} {r : Except PresentError Unit} {acts : List Act} (posted : Posted s r u acts) :
    u.place = s.place := by
  cases posted <;> rfl

namespace Step

variable {σ : Type}

/-- The place that is set by a request. -/
def placing (t : Step σ) : Option (Transform × Rect) :=
  match t.request with
  | .setTransform transform area => some (transform, area)
  | _ => none

variable [Hardware σ]

theorem place_after (t : Step σ) : t.after.place = t.placing.getD t.before.place := by
  obtain ⟨s, h, r⟩ := t
  cases r with
  | post => exact (outcome rfl).place
  | overlay offers =>
    obtain ⟨kept, _, _, value, -⟩ := s.overlay_run offers h
    have after : Step.after ⟨s, h, .overlay offers⟩ = { s with candidate := kept } := value
    rw [after]
    rfl
  | swapBuffers =>
    rw [after_of_swap rfl]
    rcases s.swapBuffers_run h with ⟨value, -⟩ | ⟨value, -⟩ <;>
      rw [value] <;>
      rfl
  | setTransform | scheduleModeSet => rfl

end Step

namespace Surface

variable {σ : Type} [Hardware σ]

theorem place_serve (s : Surface) (h : σ) (rs : List Request) :
    (s.serve rs h).value.place = ((s.steps h rs).filterMap Step.placing).getLast?.getD s.place := by
  induction rs generalizing s h with
  | nil => rfl
  | cons r rs ih =>
    let t : Step σ := ⟨s, h, r⟩
    have now : (s.perform r h).value.place = t.placing.getD s.place := t.place_after
    change ((s.perform r h).value.serve rs (s.perform r h).state).value.place = _
    rw [ih, now, steps, getLast?_filterMap_cons]
    cases (((s.perform r h).value.steps (s.perform r h).state rs).filterMap Step.placing).getLast? <;> rfl

end Surface

/-! ## Matches -/

theorem foremost_of_pick {offers : List Renderable} {area : Rect} {p : Pick}
    (picked : (Matcher.start area).pick offers.reverse = some p) : ∃ i, Foremost offers area i p.chosen := by
  rw [← chosenIn_eq_some_iff, chosenIn, Matcher.choice, picked]
  rfl

/-- An overlay of these offers was made upright, and this one of them was kept. -/
structure Matched {σ : Type} [Hardware σ] (t : Step σ) (offers : List Renderable) (r : Renderable) : Prop where
  request : t.request = .overlay offers
  upright : t.before.transform = .normal
  foremost : ∃ i, Foremost offers t.before.area i r
  kept : ∃ c, t.after.candidate = some c ∧ c.buffer = r.buffer

namespace Surface

variable {σ : Type} [Hardware σ]

theorem matched_of_offered {t : Step σ} (taken : t.event = some (.offered true)) :
    ∃ offers r, Matched t offers r := by
  have decided := t.candidate_of_event
  rw [taken] at decided
  obtain ⟨c, kept⟩ := Option.isSome_iff_exists.1 decided
  obtain ⟨offers, overlay⟩ := Step.overlay_of_offered taken
  obtain ⟨upright, -, p, _, picked, -, same, -⟩ := Step.chosen_of_overlay overlay kept
  exact ⟨offers, p.chosen, overlay, upright, foremost_of_pick picked, c, kept, same⟩

/-- A post of a client's buffer shows what was matched last. Since then no buffer was offered, swapped or shown; the surface
is where the buffer was matched, and upright, if and only if the last place that was set since then, if any, is that. -/
theorem shown_as_matched_iff (settings : Settings) (outputs : Nat) (area : Rect) (transform : Transform) (h : σ)
    (s : Surface) (created : (create settings outputs area transform h).value = .ok s) (rs : List Request)
    (past later : List (Step σ)) (u : Step σ)
    (split : s.steps (create settings outputs area transform h).state rs = past ++ u :: later)
    (client : u.posted.any Frame.isClient = true) :
    ∃ before t since offers r, past = before ++ t :: since ∧ Matched t offers r ∧ (∀ v ∈ since, v.event = none) ∧
      u.posted = some (.bypass r.buffer) ∧
      (u.before.transform = .normal ∧ u.before.area = t.before.area ↔
        ∀ place, (since.filterMap Step.placing).getLast? = some place → place = (.normal, t.before.area)) := by
  obtain ⟨p, b, fb, pos, made, -⟩ := create_opened settings outputs area transform h s created
  have fresh : s.candidate = none := by rw [made]
  have post : u.request = .post := by
    cases posted : u.posted with
    | none =>
      rw [posted] at client
      cases client
    | some frame => exact Step.isPost_of_posted posted
  have promised := (client_iff_promised fresh split post).1 client
  obtain ⟨before, t, since, rfl, taken, quiet⟩ := getLast?_filterMap_eq_some promised
  rw [List.append_assoc, List.cons_append] at split
  obtain ⟨offers, r, matched⟩ := matched_of_offered taken
  obtain ⟨c, kept, same⟩ := matched.kept
  have outs : u.before.outputs = outputs := by
    have hu : u ∈ s.steps (create settings outputs area transform h).state rs := by simp [split]
    rw [((s.made_along _ rs).1 u hu).1, made]
  have still : u.before.candidate = some c := (candidate_since split quiet).trans kept
  have shown := (Step.shown_of_candidate post (outs.symm ▸ pos) still).2.1
  rw [Candidate.frame, same] at shown
  -- where `u` is depends on what was set since `t`, and an overlay sets nothing
  have place : u.before.place = (since.filterMap Step.placing).getLast?.getD (.normal, t.before.area) := by
    obtain ⟨rs', during, before_u⟩ := steps_between split
    have overlaid : t.after.place = (.normal, t.before.area) := by
      rw [t.place_after, Step.placing, matched.request, Option.getD_none, place, matched.upright]
    rw [before_u, place_serve, ← during, overlaid]
  refine ⟨before, t, since, offers, r, rfl, matched, quiet, shown, ?_⟩
  rw [← Prod.mk.injEq]
  change u.before.place = _ ↔ _
  rw [place]
  cases (since.filterMap Step.placing).getLast? with
  | none => simp
  | some last => simp

/-- A client's buffer is matched; the surface is turned, and then as these requests say; a frame is posted. -/
def turning (after_turn : List Request) : List Request :=
  .overlay [fullScreen] :: .setTransform .quarter ⟨⟨0, 0⟩, ⟨1080, 1920⟩⟩ :: (after_turn ++ [.post])

/-- The surface is turned back before the post. -/
theorem twoHeads_turned_back : (create {} 2 twoHeadsView .normal (twoHeads true)).value = .ok twoHeadsSurface ∧
    ∃ offer turn back post : Step Rig,
      twoHeadsSurface.steps (create {} 2 twoHeadsView .normal (twoHeads true)).state
        (turning [.setTransform .normal twoHeadsView]) = [offer, turn, back, post] ∧
      Matched offer [fullScreen] fullScreen ∧ post.posted = some (.bypass fullScreen.buffer) ∧
      post.before.transform = .normal ∧ post.before.area = offer.before.area := by
  refine ⟨rfl, ?_⟩
  let ts := twoHeadsSurface.steps (create {} 2 twoHeadsView .normal (twoHeads true)).state
    (turning [.setTransform .normal twoHeadsView])
  have split : ts = [ts[0], ts[1], ts[2]] ++ ts[3] :: [] := rfl
  have client : ts[3].posted.any Frame.isClient = true := by decide +kernel
  obtain ⟨before, t, since, offers, r, past, matched, -, shown, as_matched⟩ :=
    shown_as_matched_iff {} 2 twoHeadsView .normal (twoHeads true) twoHeadsSurface rfl _ _ _ _ split client
  have overlay := matched.request
  cases before with
  | nil =>
    obtain ⟨rfl, rfl⟩ := List.cons.inj past
    obtain rfl : [fullScreen] = offers := Request.overlay.inj overlay
    obtain ⟨i, foremost⟩ := matched.foremost
    obtain rfl : r = fullScreen := List.mem_singleton.1 (List.mem_of_getElem? foremost.place)
    exact ⟨ts[0], ts[1], ts[2], ts[3], rfl, matched, shown, as_matched.2 fun place set => (Option.some.inj set).symm⟩
  | cons first before =>
    -- no later request is an overlay
    have later : t ∈ [ts[1], ts[2]] := by
      rw [(List.cons.inj past).2]
      simp
    rcases List.mem_pair.1 later with rfl | rfl <;> cases overlay

/-- Without that the buffer is shown by a surface that is turned, over a view that it was not matched with. -/
theorem twoHeads_turned : (create {} 2 twoHeadsView .normal (twoHeads true)).value = .ok twoHeadsSurface ∧
    ∃ offer turn post : Step Rig,
      twoHeadsSurface.steps (create {} 2 twoHeadsView .normal (twoHeads true)).state (turning []) =
        [offer, turn, post] ∧
      offer.before.area = twoHeadsView ∧ post.posted = some (.bypass fullScreen.buffer) ∧
      post.before.transform = .quarter ∧ post.before.area ≠ twoHeadsView := by
  refine ⟨rfl, _, _, _, rfl, ?_⟩
  decide +kernel

end Surface

end Multihead.Scanout
