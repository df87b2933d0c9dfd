import Multihead.Proofs.Scanout.Custody

/-! # Client buffers that come and go
A turn that posts no frame leaves all that is shown as it is. At most the candidate changes hands: the old one goes,
and of the buffers that were offered all but the new one. -/

set_option autoImplicit false

namespace Multihead.Scanout

open Watch

namespace Surface

variable {σ : Type} [Hardware σ]
variable {s : Surface} {w : Watch}

/-- A turn that shows no frame and leaves all that is shown as it is. -/
structure Idles (s : Surface) (w : Watch) (t : Turn) : Prop where
  safe : Along Safe w t.log
  consistent : Consistent t.after (w.after t.log)
  presents : ∀ a ∈ t.acts, ¬ a.Presents
  scheduled : t.after.scheduled = s.scheduled
  shown : (w.after t.log).shown = w.shown
  flipping : (w.after t.log).flipping = w.flipping

theorem Idles.noLag_iff {t : Turn} (idles : Idles s w t) : NoLag t.after (w.after t.log) ↔ NoLag s w := by
  rw [NoLag, NoLag, idles.scheduled, idles.shown, idles.flipping]

theorem replaceCandidate (c : Consistent s w) (kept : Option Candidate) (w' : Watch)
    (held : w'.held = ({ s with candidate := kept } : Surface).frames)
    (candidate : ∀ k, kept = some k → w'.behind k.fb = some k.frame) (shown : w'.shown = w.shown)
    (flipping : w'.flipping = w.flipping) : Consistent { s with candidate := kept } w' :=
  ⟨c.outputs, held, candidate, c.visible, by rw [shown]; exact c.shown, by rw [flipping]; exact c.flipping⟩

theorem overlay_run (s : Surface) (rs : List Renderable) (h : σ) :
    ∃ kept rest imports, (s.overlay rs h).value.2 = { s with candidate := kept } ∧
      (s.overlay rs h).acts = (s.candidate.toList.map Candidate.frame).map Frame.released ++
        (imports ++ (rest.map Frame.bypass).map Frame.released) ∧
      (kept.toList.map (·.buffer) ++ rest).Perm (rs.map (·.buffer)) ∧
      ∀ a ∈ imports, ∃ planes fb, a = .importBuffer 0 planes fb := by
  rw [overlay, Drive.bind_run, letGoCandidate_acts]
  by_cases allowed : s.transform = .normal ∧ s.option = .allowed
  · obtain ⟨split, imports⟩ := select_run rs s.area (Hardware.surfaceSize (letGoCandidate s.candidate h).state) 0
      (letGoCandidate s.candidate h).state
    rw [if_pos allowed]
    simp only [Drive.bind_run, Drive.look, Drive.pure_run, List.nil_append, List.append_nil, letGoClients_acts]
    exact ⟨_, _, _, rfl, rfl, split, imports⟩
  · rw [if_neg allowed]
    simp only [Drive.bind_run, Drive.pure_run, List.append_nil, letGoClients_acts]
    exact ⟨none, rs.map (·.buffer), [], rfl, rfl, List.Perm.refl _, List.forall_mem_nil _⟩

theorem imports_quiet {imports : List Act} (h : ∀ a ∈ imports, ∃ planes fb, a = .importBuffer 0 planes fb) :
    Quiet imports := by
  intro a ha w
  obtain ⟨planes, fb, rfl⟩ := h a ha
  rfl

theorem holding_safe (c : Consistent s w) (more : Multiset Frame) : (w.holding (more + ↑s.posted)).Safe :=
  c.safe_of_le (Multiset.le_add_left _ _) rfl

theorem without_candidate (c : Consistent s w) (more : Multiset Frame) :
    (w.holding (more + w.held)).without ↑(s.candidate.toList.map Candidate.frame) =
      w.holding (more + ↑s.posted) := by
  rw [c.held, frames, ← Multiset.coe_add, Multiset.add_comm _ (s.posted : Multiset Frame), ← Multiset.add_assoc,
    without_holding]

theorem without_rest (s : Surface) (w : Watch) (offered rest : List ClientBuffer) (kept : Option Candidate)
    (split : (kept.toList.map (·.buffer) ++ rest).Perm offered) :
    (w.holding (↑(offered.map Frame.bypass) + ↑s.posted)).without ↑(rest.map Frame.bypass) =
      w.holding (↑(kept.toList.map Candidate.frame) + ↑s.posted) := by
  have parts : (↑(offered.map Frame.bypass) : Multiset Frame) =
      ↑(kept.toList.map Candidate.frame) + ↑(rest.map Frame.bypass) := by
    rw [Multiset.coe_add, Multiset.coe_eq_coe]
    refine (split.map Frame.bypass).symm.trans ?_
    rw [List.map_append, List.map_map]
    exact List.Perm.refl _
  rw [parts, Multiset.add_assoc, Multiset.add_comm (rest.map Frame.bypass : Multiset Frame), ← Multiset.add_assoc,
    without_holding]

theorem choose_keeps (c : Consistent s w) (kept : Option Candidate) :
    Along Safe (w.holding (↑(kept.toList.map Candidate.frame) + ↑s.posted)) (kept.toList.map .choose) ∧
      Consistent { s with candidate := kept }
        ((w.holding (↑(kept.toList.map Candidate.frame) + ↑s.posted)).after (kept.toList.map .choose)) := by
  have safe := holding_safe c ↑(kept.toList.map Candidate.frame)
  cases kept with
  | none =>
    exact ⟨(along_nil _ _).2 safe, replaceCandidate c none _ (Multiset.coe_add _ _) (by simp) rfl rfl⟩
  | some k =>
    refine ⟨(along_cons _ _ _ _).2 ⟨safe, (along_nil _ _).2 safe⟩, ?_⟩
    refine replaceCandidate c (some k) _ (Multiset.coe_add _ _) (fun k' h => ?_) rfl rfl
    cases h
    exact Function.update_self _ _ _

theorem overlay_idles (c : Consistent s w) (rs : List Renderable) (h : σ) : Idles s w (s.turn h (.overlay rs)) := by
  obtain ⟨kept, rest, imports, value, acts, split, himports⟩ := overlay_run s rs h
  have sameActs : (s.turn h (.overlay rs)).acts = (s.overlay rs h).acts := by
    rw [turn, perform, Drive.map_run]
  have after : (s.turn h (.overlay rs)).after = { s with candidate := kept } := by
    rw [← value]
    rfl
  have log : (s.turn h (.overlay rs)).log = .offer (rs.map (·.buffer)) ::
      (((s.candidate.toList.map Candidate.frame).map Frame.released).map .act ++
        (imports.map .act ++
          (((rest.map Frame.bypass).map Frame.released).map .act ++ kept.toList.map .choose))) := by
    have parts : (s.turn h (.overlay rs)).log = .offer (rs.map (·.buffer)) ::
        (s.turn h (.overlay rs)).acts.map .act ++ (s.turn h (.overlay rs)).after.candidate.toList.map .choose := rfl
    rw [parts, sameActs, acts, after]
    simp
  obtain ⟨chosenSafe, chosen⟩ := choose_keeps c kept
  have quiet := imports_quiet himports
  have offered : w.see (.offer (rs.map (·.buffer))) =
      w.holding (↑((rs.map (·.buffer)).map Frame.bypass) + w.held) := rfl
  have gone := without_candidate c ↑((rs.map (·.buffer)).map Frame.bypass)
  have left := without_rest s w _ rest kept split
  have seen : w.after (s.turn h (.overlay rs)).log =
      (w.holding (↑(kept.toList.map Candidate.frame) + ↑s.posted)).after (kept.toList.map .choose) := by
    rw [log, after_cons, after_append, after_append, after_append, after_released, quiet.after, after_released,
      offered, gone, left]
  refine ⟨?_, ?_, ?_, by rw [after], ?_, ?_⟩
  · have goneSafe := holding_safe c ↑((rs.map (·.buffer)).map Frame.bypass)
    have leftSafe := holding_safe c ↑(kept.toList.map Candidate.frame)
    rw [log, along_cons, along_append, along_append, along_append, after_released, quiet.after, after_released,
      offered, gone, left]
    exact ⟨c.covered.safe, along_released _ _ (gone ▸ goneSafe), quiet.along _ _ goneSafe,
      along_released _ _ (left ▸ leftSafe), chosenSafe⟩
  · rw [seen, after]
    exact chosen
  · rw [sameActs, acts, List.forall_mem_append, List.forall_mem_append]
    refine ⟨released_presents _, fun a ha => ?_, released_presents _⟩
    obtain ⟨planes, fb, rfl⟩ := himports a ha
    exact id
  · rw [seen]
    cases kept <;> rfl
  · rw [seen]
    cases kept <;> rfl

theorem swapBuffers_run (s : Surface) (h : σ) :
    ((s.swapBuffers h).value.2 = s ∧ (s.swapBuffers h).acts = [.swap false] ∧
        (s.swapBuffers h).value.1.isOk = false) ∨
      (s.swapBuffers h).value.2 = { s with candidate := none } ∧
        (s.swapBuffers h).acts = .swap true :: (s.candidate.toList.map Candidate.frame).map Frame.released ∧
        (s.swapBuffers h).value.1.isOk = true := by
  rw [swapBuffers, Drive.bind_run, Drive.swapBuffers, Drive.ask]
  cases (Hardware.swapBuffers h).1 with
  | error reason => exact .inl ⟨rfl, rfl, rfl⟩
  | ok u =>
    refine .inr ⟨rfl, ?_, rfl⟩
    simp only [Drive.bind_run, Drive.pure_run, List.append_nil, letGoCandidate_acts]
    rfl

theorem swapBuffers_idles (c : Consistent s w) (h : σ) : Idles s w (s.turn h .swapBuffers) := by
  have run : s.turn h .swapBuffers = ⟨.swapBuffers, (s.swapBuffers h).value.2, (s.swapBuffers h).acts⟩ := by
    rw [turn, perform, Drive.map_run]
  rcases swapBuffers_run s h with ⟨value, acts, -⟩ | ⟨value, acts, -⟩
  · rw [run, value, acts]
    exact ⟨(along_cons _ _ _ _).2 ⟨c.covered.safe, (along_nil _ _).2 c.covered.safe⟩, c,
      List.forall_mem_singleton.2 id, rfl, rfl, rfl⟩
  · rw [run, value, acts]
    have gone := without_candidate c 0
    rw [Multiset.zero_add, Multiset.zero_add] at gone
    have seen : w.after ((Act.swap true :: (s.candidate.toList.map Candidate.frame).map Frame.released).map .act) =
        w.holding ↑s.posted := (after_released w _).trans gone
    have safe := holding_safe c 0
    rw [Multiset.zero_add] at safe
    refine ⟨(along_cons _ _ _ _).2 ⟨c.covered.safe, along_released _ _ ?_⟩, ?_, ?_, rfl, ?_, ?_⟩
    · exact gone ▸ safe
    · change Consistent _ (w.after ((Act.swap true :: _).map .act))
      rw [seen]
      exact replaceCandidate c none _ rfl (by simp) rfl rfl
    · exact List.forall_mem_cons.2 ⟨id, released_presents _⟩
    · exact (congrArg Watch.shown seen).trans rfl
    · exact (congrArg Watch.flipping seen).trans rfl

theorem idle_of_ne_post (c : Consistent s w) (h : σ) (r : Request) (other : r ≠ .post) :
    Idles s w (s.turn h r) := by
  cases r with
  | post => exact absurd rfl other
  | overlay rs => exact overlay_idles c rs h
  | swapBuffers => exact swapBuffers_idles c h
  | setTransform transform area =>
    exact ⟨(along_nil _ _).2 c.covered.safe, ⟨c.outputs, c.held, c.candidate, c.visible, c.shown, c.flipping⟩,
      List.forall_mem_nil _, rfl, rfl, rfl⟩
  | scheduleModeSet =>
    exact ⟨(along_nil _ _).2 c.covered.safe, ⟨c.outputs, c.held, c.candidate, c.visible, c.shown, c.flipping⟩,
      List.forall_mem_nil _, rfl, rfl, rfl⟩

end Surface

end Multihead.Scanout
