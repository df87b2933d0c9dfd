import Multihead.Proofs.Layout.Sweep

/-! # What a layout lights
Every layout lights what can be lit, a single one only the first such output, and switches the rest off. What it lights
can run as it stands, up to the format and the scale, which it leaves alone like all that describes an output. -/

set_option autoImplicit false

namespace Multihead

/-! ## One output -/

namespace Output

theorem layAt_used (cursor : Option Int32) (o : Output) :
    (o.layAt cursor).used = true ↔ o.Lightable ∧ cursor.isSome = true := by
  by_cases lightable : o.Lightable
  · rw [and_iff_right lightable]
    cases cursor with
    | none => exact iff_of_false (o.layAt_none ▸ Bool.false_ne_true) Bool.false_ne_true
    | some x => exact iff_of_true (layAt_of_lightable lightable x ▸ rfl) rfl
  · exact iff_of_false (layAt_of_dark lightable cursor ▸ Bool.false_ne_true) fun both => lightable both.1

namespace Laid

variable {o a : Output}

theorem of_used (laid : o.Laid a) (used : a.used = true) :
    (∃ n, a.current = some n ∧ n < a.modes.length) ∧ a.power = .on ∧ a.orientation = .normal := by
  cases laid with
  | off => cases used
  | lit lightable p => exact ⟨⟨o.startMode, rfl, startMode_lt lightable⟩, rfl, rfl⟩

theorem of_unused (laid : o.Laid a) (unused : a.used = false) : a = { o with used := false, power := .off } := by
  cases laid with
  | off => rfl
  | lit lightable p => cases unused

/-- Nothing else of an output is touched. -/
theorem frame (laid : o.Laid a) :
    a = { o with
      used := a.used, current := a.current, topLeft := a.topLeft, power := a.power, orientation := a.orientation } := by
  cases laid <;> rfl

theorem isValid_iff (laid : o.Laid a) :
    a.isValid = true ↔ (a.used = true → a.format ∈ a.formats ∧ a.scale.isPos = true) := by
  cases laid with
  | off => exact iff_of_true rfl fun used => absurd used Bool.false_ne_true
  | lit lightable p =>
    have connected : (o.litAt p).connected = true := lightable.1
    have running : (o.litAt p).currentMode.isSome = true := by
      simpa [currentMode, litAt] using startMode_lt lightable
    have used : (o.litAt p).used = true := rfl
    simp [isValid, connected, running, used]

end Laid

end Output

/-! ## All outputs -/

namespace Layout

theorem cursorPast_none (l : Layout) (conf : Configuration) : l.cursorPast none conf = none := by
  induction conf with
  | nil => rfl
  | cons o conf ih => rw [cursorPast_cons, advance_none, ih]

/-- The cursor is gone once a layout for one output has found it. -/
theorem cursorPast_isSome (l : Layout) (x : Int32) (conf : Configuration) :
    (l.cursorPast (some x) conf).isSome = true ↔ (l = single → ∀ p ∈ conf, ¬ p.Lightable) := by
  induction conf generalizing x with
  | nil => exact iff_of_true rfl fun _ => List.forall_mem_nil _
  | cons o conf ih =>
    rw [cursorPast_cons, List.forall_mem_cons]
    by_cases lightable : o.Lightable
    · rw [l.advance_of_lightable lightable]
      cases l with
      | sideBySide => exact iff_of_true ((ih _).2 nofun) nofun
      | clone => exact iff_of_true ((ih _).2 nofun) nofun
      | single =>
        rw [moveOn, cursorPast_none]
        exact iff_of_false Bool.false_ne_true fun dark => (dark rfl).1 lightable
    · rw [l.advance_of_dark lightable, ih, and_iff_right lightable]

theorem isValid_arrange (l : Layout) (conf : Configuration) :
    (l.arrange conf).isValid = true ↔
      ∀ a ∈ l.arrange conf, a.used = true → a.format ∈ a.formats ∧ a.scale.isPos = true := by
  rw [Configuration.isValid, List.all_eq_true]
  refine forall₂_congr fun a ha => ?_
  obtain ⟨i, here⟩ := List.mem_iff_getElem?.1 ha
  rw [arrange_getElem?, Option.map_eq_some_iff] at here
  obtain ⟨o, -, rfl⟩ := here
  exact (o.layAt_laid _).isValid_iff

/-- What there is after a layout: the same outputs in their places, of which those in use can run. -/
theorem lights_what_can_be_lit (l : Layout) (conf : Configuration) :
    let after := l.arrange conf
    after.length = conf.length ∧
      (∀ i o, conf[i]? = some o → ∃ a, after[i]? = some a ∧
        (a.used = true ↔ o.Lightable ∧ (l = single → ∀ p ∈ conf.take i, ¬ p.Lightable)) ∧
        (a.used = true → (∃ n, a.current = some n ∧ n < a.modes.length) ∧ a.power = .on ∧ a.orientation = .normal) ∧
        (a.used = false → a = { o with used := false, power := .off }) ∧
        a = { o with
          used := a.used, current := a.current, topLeft := a.topLeft, power := a.power,
          orientation := a.orientation }) ∧
      (after.isValid = true ↔ ∀ a ∈ after, a.used = true → a.format ∈ a.formats ∧ a.scale.isPos = true) := by
  intro after
  refine ⟨l.length_arrange conf, fun i o place => ?_, l.isValid_arrange conf⟩
  have cursor := l.cursorPast_isSome 0 (conf.take i)
  have laid := o.layAt_laid (l.cursorPast (some 0) (conf.take i))
  refine ⟨o.layAt (l.cursorPast (some 0) (conf.take i)), ?_, ?_, laid.of_used, laid.of_unused, laid.frame⟩
  · rw [l.arrange_getElem? conf i, place, Option.map_some]
  · rw [Output.layAt_used, cursor]

theorem desk_lit_once :
    (∃ a, (single.arrange desk)[2]? = some a ∧ a.used = true ∧ a.power = .on) ∧
      ∃ a, (single.arrange desk)[3]? = some a ∧ a.used = false ∧ a.power = .off ∧ a.topLeft = ⟨7, 7⟩ := by
  obtain ⟨-, outputs, -⟩ := lights_what_can_be_lit single desk
  obtain ⟨first, place, used, runs, -⟩ := outputs 2 _ rfl
  obtain ⟨second, place', used', -, dark, -⟩ := outputs 3 _ rfl
  have lit : first.used = true := used.2 ⟨by decide, fun _ => by decide⟩
  have unlit : second.used = false := by
    rw [← Bool.not_eq_true, used']
    exact fun lights => lights.2 rfl _ (List.mem_of_getElem? (i := 2) rfl) (by decide)
  refine ⟨⟨first, place, lit, (runs lit).2.1⟩, second, place', unlit, ?_⟩
  rw [dark unlit]
  exact ⟨rfl, rfl⟩

end Layout

end Multihead
