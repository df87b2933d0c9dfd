import Mathlib.Data.List.Forall2
import Multihead.Layout
import Multihead.Proofs.Display.Leaf

/-! # Layouts as sweeps
Every layout goes through the outputs once and carries a cursor along: where the next output that can be lit goes, as
long as one is still to be lit. The layouts differ in how the cursor moves on. A sweep reads of an output only what no
layout changes, so that a second sweep finds what the first one found. -/

set_option autoImplicit false

namespace Multihead

/-! ## One output -/

namespace Output

def Lightable (o : Output) : Prop := o.connected = true ∧ o.modes ≠ []

theorem canLight_iff (o : Output) : o.canLight = true ↔ o.Lightable := by simp [canLight, Lightable]

instance : DecidablePred Lightable := fun o => decidable_of_iff _ o.canLight_iff

theorem startMode_lt {o : Output} (lightable : o.Lightable) : o.startMode < o.modes.length := by
  rw [startMode]
  split_ifs with inRange
  · exact inRange
  · exact List.length_pos_iff.2 lightable.2

/-- What a layout may make of an output. -/
inductive Laid (o : Output) : Output → Prop where
  | off : Laid o o.switchedOff
  | lit (lightable : o.Lightable) (p : Point) : Laid o (o.litAt p)

/-- Where an output is lit while the cursor stands here. -/
def spot (cursor : Option Int32) (o : Output) : Option Int32 := if o.Lightable then cursor else none

def layAt (cursor : Option Int32) (o : Output) : Output :=
  match o.spot cursor with
  | none => o.switchedOff
  | some x => o.litAt ⟨x, 0⟩

theorem spot_of_lightable {o : Output} (lightable : o.Lightable) (cursor : Option Int32) : o.spot cursor = cursor :=
  if_pos lightable

theorem spot_of_dark {o : Output} (dark : ¬ o.Lightable) (cursor : Option Int32) : o.spot cursor = none := if_neg dark

@[simp] theorem spot_none (o : Output) : o.spot none = none := ite_self _

theorem layAt_of_lightable {o : Output} (lightable : o.Lightable) (x : Int32) : o.layAt (some x) = o.litAt ⟨x, 0⟩ := by
  rw [layAt, spot_of_lightable lightable]

theorem layAt_of_dark {o : Output} (dark : ¬ o.Lightable) (cursor : Option Int32) :
    o.layAt cursor = o.switchedOff := by
  rw [layAt, spot_of_dark dark]

@[simp] theorem layAt_none (o : Output) : o.layAt none = o.switchedOff := by rw [layAt, spot_none]

theorem layAt_laid (cursor : Option Int32) (o : Output) : o.Laid (o.layAt cursor) := by
  by_cases lightable : o.Lightable
  · cases cursor with
    | none => exact o.layAt_none ▸ .off
    | some x => exact layAt_of_lightable lightable x ▸ .lit lightable _
  · exact layAt_of_dark lightable cursor ▸ .off

namespace Laid

variable {o a : Output}

theorem lightable_iff (laid : o.Laid a) : a.Lightable ↔ o.Lightable := by cases laid <;> exact Iff.rfl

theorem litAt_eq (laid : o.Laid a) (p : Point) : a.litAt p = o.litAt p := by cases laid <;> rfl

/-- What cannot be lit was not lit before either. -/
theorem switchedOff_eq (laid : o.Laid a) (dark : ¬ o.Lightable) : a.switchedOff = o.switchedOff := by
  cases laid with
  | off => rfl
  | lit lightable p => exact absurd lightable dark

theorem spot_eq (laid : o.Laid a) (cursor : Option Int32) : a.spot cursor = o.spot cursor := by
  simp only [spot, laid.lightable_iff]

/-- As long as the cursor stands somewhere, what was lit before is lit anew, wherever it was. -/
theorem layAt_eq (laid : o.Laid a) (x : Int32) : a.layAt (some x) = o.layAt (some x) := by
  by_cases lightable : o.Lightable
  · rw [layAt_of_lightable lightable, layAt_of_lightable (laid.lightable_iff.2 lightable), laid.litAt_eq]
  · rw [layAt_of_dark lightable, layAt_of_dark (mt laid.lightable_iff.1 lightable), laid.switchedOff_eq lightable]

end Laid

theorem layAt_layAt (cursor : Option Int32) (o : Output) : (o.layAt cursor).layAt cursor = o.layAt cursor := by
  cases cursor with
  | none => rw [layAt_none, layAt_none]; rfl
  | some x => exact (o.layAt_laid (some x)).layAt_eq x

end Output

/-! ## All outputs -/

namespace Layout

open Output (Laid)

/-- Where the cursor goes from here, past an output that was lit. -/
def moveOn : Layout → Int32 → Output → Option Int32
  | sideBySide, x, lit => some (x + lit.extent.w)
  | clone, x, _ => some x
  | single, _, _ => none

def advance (l : Layout) (cursor : Option Int32) (o : Output) : Option Int32 :=
  match o.spot cursor with
  | none => cursor
  | some x => l.moveOn x (o.litAt ⟨x, 0⟩)

def sweep (l : Layout) : Option Int32 → Configuration → Configuration
  | _, [] => []
  | cursor, o :: os => o.layAt cursor :: sweep l (l.advance cursor o) os

/-- Where the cursor stands after these outputs. -/
def cursorPast (l : Layout) (cursor : Option Int32) (conf : Configuration) : Option Int32 :=
  conf.foldl l.advance cursor

variable (l : Layout)

theorem advance_of_lightable {o : Output} (lightable : o.Lightable) (x : Int32) :
    l.advance (some x) o = l.moveOn x (o.litAt ⟨x, 0⟩) := by
  rw [advance, Output.spot_of_lightable lightable]

theorem advance_of_dark {o : Output} (dark : ¬ o.Lightable) (cursor : Option Int32) : l.advance cursor o = cursor := by
  rw [advance, Output.spot_of_dark dark]

@[simp] theorem advance_none (o : Output) : l.advance none o = none := by rw [advance, Output.spot_none]

theorem advance_of_laid {o a : Output} (laid : o.Laid a) (cursor : Option Int32) :
    l.advance cursor a = l.advance cursor o := by
  simp only [advance, laid.spot_eq, laid.litAt_eq]

theorem cursorPast_cons (cursor : Option Int32) (o : Output) (conf : Configuration) :
    l.cursorPast cursor (o :: conf) = l.cursorPast (l.advance cursor o) conf := rfl

theorem sweep_cons_of_lightable {o : Output} (lightable : o.Lightable) (x : Int32) (conf : Configuration) :
    l.sweep (some x) (o :: conf) = o.litAt ⟨x, 0⟩ :: l.sweep (l.moveOn x (o.litAt ⟨x, 0⟩)) conf := by
  rw [sweep, Output.layAt_of_lightable lightable, advance_of_lightable l lightable]

theorem sweep_cons_of_dark {o : Output} (dark : ¬ o.Lightable) (cursor : Option Int32) (conf : Configuration) :
    l.sweep cursor (o :: conf) = o.switchedOff :: l.sweep cursor conf := by
  rw [sweep, Output.layAt_of_dark dark, advance_of_dark l dark]

theorem sweep_none (conf : Configuration) : l.sweep none conf = conf.map Output.switchedOff := by
  induction conf with
  | nil => rfl
  | cons o conf ih => rw [sweep, o.layAt_none, advance_none, ih, List.map_cons]

theorem sweep_getElem? (cursor : Option Int32) (conf : Configuration) (i : Nat) :
    (l.sweep cursor conf)[i]? = conf[i]?.map (Output.layAt (l.cursorPast cursor (conf.take i))) := by
  induction conf generalizing cursor i with
  | nil => rfl
  | cons o conf ih =>
    cases i with
    | zero => rfl
    | succ i => exact ih (l.advance cursor o) i

theorem sweep_laid (cursor : Option Int32) (conf : Configuration) : List.Forall₂ Laid conf (l.sweep cursor conf) := by
  induction conf generalizing cursor with
  | nil => exact .nil
  | cons o conf ih => exact .cons (o.layAt_laid cursor) (ih _)

/-! ## The layouts -/

theorem tile_eq_sweep (x : Int32) (conf : Configuration) : tile x conf = sideBySide.sweep (some x) conf := by
  induction conf generalizing x with
  | nil => rfl
  | cons o conf ih =>
    rw [tile]
    split_ifs with lightable
    · rw [sweep_cons_of_lightable _ (o.canLight_iff.1 lightable), moveOn, ← ih]
    · rw [sweep_cons_of_dark _ (mt o.canLight_iff.2 lightable), ih]

theorem stack_eq_sweep (conf : Configuration) : stack conf = clone.sweep (some 0) conf := by
  induction conf with
  | nil => rfl
  | cons o conf ih =>
    rw [stack] at ih
    rw [stack, List.map_cons, ih]
    split_ifs with lightable
    · rw [sweep_cons_of_lightable _ (o.canLight_iff.1 lightable), moveOn]
    · rw [sweep_cons_of_dark _ (mt o.canLight_iff.2 lightable)]

theorem solo_eq_sweep (conf : Configuration) : solo conf = single.sweep (some 0) conf := by
  induction conf with
  | nil => rfl
  | cons o conf ih =>
    rw [solo]
    split_ifs with lightable
    · rw [sweep_cons_of_lightable _ (o.canLight_iff.1 lightable), moveOn, sweep_none]
    · rw [sweep_cons_of_dark _ (mt o.canLight_iff.2 lightable), ih]

theorem arrange_eq_sweep (conf : Configuration) : l.arrange conf = l.sweep (some 0) conf := by
  cases l with
  | sideBySide => exact tile_eq_sweep 0 conf
  | clone => exact stack_eq_sweep conf
  | single => exact solo_eq_sweep conf

theorem arrange_getElem? (conf : Configuration) (i : Nat) :
    (l.arrange conf)[i]? = conf[i]?.map (Output.layAt (l.cursorPast (some 0) (conf.take i))) := by
  rw [arrange_eq_sweep, sweep_getElem?]

theorem arrange_laid (conf : Configuration) : List.Forall₂ Laid conf (l.arrange conf) := by
  rw [arrange_eq_sweep]
  exact l.sweep_laid (some 0) conf

theorem length_arrange (conf : Configuration) : (l.arrange conf).length = conf.length :=
  (l.arrange_laid conf).length_eq.symm

/-! ## One layout after another -/

theorem sweep_sweep (cursor : Option Int32) (conf : Configuration) :
    l.sweep cursor (l.sweep cursor conf) = l.sweep cursor conf := by
  induction conf generalizing cursor with
  | nil => rfl
  | cons o conf ih => rw [sweep, sweep, o.layAt_layAt, l.advance_of_laid (o.layAt_laid cursor), ih]

/-- The cursor never stops: whatever can be lit is lit. -/
def LightsAll : Prop := ∀ x lit, (l.moveOn x lit).isSome = true

variable {l}

theorem LightsAll.advance_isSome (all : l.LightsAll) (x : Int32) (o : Output) :
    (l.advance (some x) o).isSome = true := by
  by_cases lightable : o.Lightable
  · rw [advance_of_lightable l lightable]
    exact all x _
  · rw [advance_of_dark l lightable]
    rfl

/-- A layout that lights all it can does not see which layouts were there before it. -/
theorem LightsAll.sweep_of_laid (all : l.LightsAll) {conf conf' : Configuration}
    (laid : List.Forall₂ Laid conf conf') (x : Int32) : l.sweep (some x) conf' = l.sweep (some x) conf := by
  -- where the cursor goes is the same for both, since it moves by what was lit, and both light the same
  induction laid generalizing x with
  | nil => rfl
  | @cons o a conf conf' laid _ ih =>
    obtain ⟨y, moved⟩ := Option.isSome_iff_exists.1 (all.advance_isSome x o)
    rw [sweep, sweep, laid.layAt_eq, l.advance_of_laid laid, moved, ih]

theorem LightsAll.arrange_arrange (all : l.LightsAll) (before : Layout) (conf : Configuration) :
    l.arrange (before.arrange conf) = l.arrange conf := by
  rw [l.arrange_eq_sweep, l.arrange_eq_sweep]
  exact all.sweep_of_laid (before.arrange_laid conf) 0

/-- The outcome of several layouts, the first of the list first. -/
def arrangeAll (ls : List Layout) (conf : Configuration) : Configuration := ls.foldl (fun conf l => l.arrange conf) conf

theorem LightsAll.arrange_arrangeAll (all : l.LightsAll) (ls : List Layout) (conf : Configuration) :
    l.arrange (arrangeAll ls conf) = l.arrange conf := by
  induction ls generalizing conf with
  | nil => rfl
  | cons before ls ih => exact (ih (before.arrange conf)).trans (all.arrange_arrange before conf)

/-- A second time no layout changes anything, and those that light all they can do not depend on what was laid out
before them. -/
theorem arrange_settled (conf : Configuration) :
    (∀ l : Layout, l.arrange (l.arrange conf) = l.arrange conf) ∧
      ∀ ls, sideBySide.arrange (arrangeAll ls conf) = sideBySide.arrange conf ∧
        clone.arrange (arrangeAll ls conf) = clone.arrange conf := by
  have sideBySide_all : sideBySide.LightsAll := fun _ _ => rfl
  have clone_all : clone.LightsAll := fun _ _ => rfl
  refine ⟨fun l => ?_, fun ls => ⟨sideBySide_all.arrange_arrangeAll ls conf, clone_all.arrange_arrangeAll ls conf⟩⟩
  rw [arrange_eq_sweep, arrange_eq_sweep, sweep_sweep]

/-- One without a mode, one that is not connected, one whose preferred mode does not exist, and a plain one. -/
def desk : Configuration :=
  [.unlit 1 "A",
    { Output.unlit 1 "B" with connected := false, used := true, modes := [⟨⟨1920, 1080⟩, 60000⟩] },
    { Output.unlit 2 "A" with
      modes := [⟨⟨3840, 2160⟩, 60000⟩, ⟨⟨1920, 1080⟩, 60000⟩], preferred := 5, scale := ⟨0x4000000000000000⟩ },
    { Output.unlit 2 "B" with used := true, modes := [⟨⟨1280, 720⟩, 60000⟩], topLeft := ⟨7, 7⟩ }]

/-- To light one output only is to leave the others where the layout before has put them. -/
example : single.arrange (sideBySide.arrange desk) ≠ single.arrange desk := by decide +kernel

end Layout

end Multihead
