import Mathlib.Algebra.Ring.Int.Defs
import Multihead.Proofs.Layout.Lighting

/-! # Outputs side by side
Side by side, each output starts where the one before it ends. As long as the widths together stay in the range of the
coordinates, the outputs that are lit share out the columns from zero up to this sum: each column is shown by just one
of them. Beyond this range positions wrap around. -/

set_option autoImplicit false

namespace Multihead

/-! ## Coordinates -/

theorem saturate_nonneg {i : Int} (nonneg : 0 ≤ i) : 0 ≤ (saturate i).toInt := by
  rw [saturate]
  split_ifs with low high
  · rw [Int32.toInt_minValue] at low
    omega
  · decide
  · rw [Int32.toInt_maxValue] at high
    rwa [Int32.toInt_ofInt_of_le (by omega) (by omega)]

theorem saturate_le {i : Int} {b : Int32} (h : i ≤ b.toInt) : (saturate i).toInt ≤ b.toInt := by
  have lowest := b.minValue_le_toInt
  rw [saturate]
  split_ifs with low high
  · exact lowest
  · exact Int.le_trans (Int.le_of_lt high) h
  · rw [Int32.toInt_minValue] at low
    rw [Int32.toInt_maxValue] at high
    rwa [Int32.toInt_ofInt_of_le (by omega) (by omega)]

theorem Rect.overlaps_eq_false_of_left {a b : Rect} (apart : a.origin.x.toInt + a.size.w.toInt ≤ b.origin.x.toInt) :
    a.overlaps b = false := by
  have edge : ¬ b.origin.x < a.right := by
    rw [Int32.lt_iff_toInt_lt, Int.not_lt]
    exact saturate_le apart
  simp [overlaps, edge]

theorem Scale.logical32_nonneg (s : Scale) {len : Int32} (nonneg : 0 ≤ len) : 0 ≤ (s.logical32 len).toInt := by
  have nonneg : ¬ len.toInt < 0 := Int.not_lt.2 (Int32.le_iff_toInt_le.1 nonneg)
  rw [logical32, if_neg nonneg]
  exact saturate_nonneg (Int.natCast_nonneg _)

/-! ## Widths -/

namespace Output

/-- The logical width at the mode in which an output is lit. -/
def startWidth (o : Output) : Int :=
  match o.modes[if o.preferred < o.modes.length then o.preferred else 0]? with
  | none => 0
  | some mode => (o.scale.logical32 mode.size.w).toInt

def left (o : Output) : Int := o.extents.origin.x.toInt

def width (o : Output) : Int := o.extents.size.w.toInt

/-- This column of the logical layout is on the output. -/
def Shows (o : Output) (x : Int) : Prop := o.used = true ∧ o.left ≤ x ∧ x < o.left + o.width

theorem startWidth_nonneg {o : Output} (sizes : ∀ mode ∈ o.modes, 0 ≤ mode.size.w) : 0 ≤ o.startWidth := by
  rw [startWidth]
  split
  · exact Int.le_refl 0
  · next mode here => exact o.scale.logical32_nonneg (sizes mode (List.mem_of_getElem? here))

theorem width_litAt (o : Output) (p : Point) : (o.litAt p).width = o.startWidth := by
  have mode : (o.litAt p).currentMode = o.modes[o.startMode]? := rfl
  rw [width, extents, extent, mode, startWidth, startMode]
  cases o.modes[if o.preferred < o.modes.length then o.preferred else 0]? <;> rfl

end Output

namespace Configuration

/-- The widths of the outputs in use, together. -/
def breadth (conf : Configuration) : Int := ((conf.filter (·.used)).map Output.width).sum

/-- The widths of the outputs that can be lit, together. -/
def startBreadth (conf : Configuration) : Int := ((conf.filter (·.Lightable)).map Output.startWidth).sum

/-- Where the `i`-th output starts if all that can be lit stand side by side. -/
def edge (conf : Configuration) (i : Nat) : Int := startBreadth (conf.take i)

theorem startBreadth_cons (o : Output) (conf : Configuration) :
    startBreadth (o :: conf) = (if o.Lightable then o.startWidth else 0) + startBreadth conf := by
  by_cases lightable : o.Lightable <;> simp [startBreadth, lightable]

theorem startBreadth_append (conf more : Configuration) :
    startBreadth (conf ++ more) = startBreadth conf + startBreadth more := by
  rw [startBreadth, List.filter_append, List.map_append, List.sum_append]
  rfl

theorem startBreadth_nonneg {conf : Configuration} (sizes : ∀ o ∈ conf, ∀ mode ∈ o.modes, 0 ≤ mode.size.w) :
    0 ≤ startBreadth conf := by
  induction conf with
  | nil => exact Int.le_refl 0
  | cons o conf ih =>
    obtain ⟨here, later⟩ := List.forall_mem_cons.1 sizes
    have first := Output.startWidth_nonneg here
    have rest := ih later
    rw [startBreadth_cons]
    split_ifs <;> omega

variable {conf : Configuration} {i j : Nat}

theorem edge_zero (conf : Configuration) : edge conf 0 = 0 := rfl

theorem edge_length (conf : Configuration) : edge conf conf.length = startBreadth conf := by
  rw [edge, List.take_length]

theorem edge_succ {o : Output} (place : conf[i]? = some o) :
    edge conf (i + 1) = edge conf i + if o.Lightable then o.startWidth else 0 := by
  have single : startBreadth [o] = if o.Lightable then o.startWidth else 0 :=
    (startBreadth_cons o []).trans (Int.add_zero _)
  rw [edge, List.take_add_one, place, startBreadth_append, ← single]
  rfl

section Sizes
variable (sizes : ∀ o ∈ conf, ∀ mode ∈ o.modes, 0 ≤ mode.size.w)
include sizes

theorem edge_le_edge (h : i ≤ j) : edge conf i ≤ edge conf j := by
  have between : 0 ≤ startBreadth ((conf.take j).drop i) :=
    startBreadth_nonneg fun o ho => sizes o (List.mem_of_mem_take (List.mem_of_mem_drop ho))
  have split : conf.take j = conf.take i ++ (conf.take j).drop i := by
    conv_lhs => rw [← List.take_append_drop i (conf.take j), List.take_take, Nat.min_eq_left h]
  rw [edge, edge, split, startBreadth_append]
  omega

theorem edge_nonneg : 0 ≤ edge conf i := edge_zero conf ▸ edge_le_edge sizes (Nat.zero_le i)

theorem edge_le_startBreadth : edge conf i ≤ startBreadth conf := by
  rcases Nat.le_total i conf.length with inside | beyond
  · exact edge_length conf ▸ edge_le_edge sizes inside
  · exact Int.le_of_eq (congrArg startBreadth (List.take_of_length_le beyond))

/-- No column lies between two edges that follow one another and between two others as well. -/
theorem edge_unique {x : Int} (hi : edge conf i ≤ x ∧ x < edge conf (i + 1))
    (hj : edge conf j ≤ x ∧ x < edge conf (j + 1)) : i = j := by
  rcases Nat.lt_trichotomy i j with below | same | above
  · exact absurd (Int.lt_of_lt_of_le hi.2 (edge_le_edge sizes below)) (Int.not_lt.2 hj.1)
  · exact same
  · exact absurd (Int.lt_of_lt_of_le hj.2 (edge_le_edge sizes above)) (Int.not_lt.2 hi.1)

end Sizes

theorem exists_edges {x : Int} (nonneg : 0 ≤ x) {n : Nat} (inside : x < edge conf n) :
    ∃ i < n, edge conf i ≤ x ∧ x < edge conf (i + 1) := by
  induction n with
  | zero => exact absurd inside (Int.not_lt.2 nonneg)
  | succ n ih =>
    by_cases earlier : x < edge conf n
    · obtain ⟨i, hi, here⟩ := ih earlier
      exact ⟨i, Nat.lt_succ_of_lt hi, here⟩
    · exact ⟨n, n.lt_succ_self, Int.not_lt.1 earlier, inside⟩

end Configuration

/-! ## Side by side -/

namespace Layout

open Multihead.Configuration

theorem sweep_take (l : Layout) (cursor : Option Int32) (conf : Configuration) (i : Nat) :
    (l.sweep cursor conf).take i = l.sweep cursor (conf.take i) := by
  induction conf generalizing cursor i with
  | nil => rw [sweep, List.take_nil, sweep]
  | cons o conf ih =>
    cases i with
    | zero => rfl
    | succ i => rw [sweep, List.take_succ_cons, ih, List.take_succ_cons, sweep]

/-- The cursor has moved by the widths of what was lit; it wraps around at the end of the range. -/
theorem cursorPast_sideBySide (x : Int32) (conf : Configuration) :
    sideBySide.cursorPast (some x) conf = some (x + Int32.ofInt (startBreadth conf)) := by
  induction conf generalizing x with
  | nil => exact congrArg some (Int32.add_zero x).symm
  | cons o conf ih =>
    rw [cursorPast_cons, startBreadth_cons]
    by_cases lightable : o.Lightable
    · have width : Int32.ofInt o.startWidth = (o.litAt ⟨x, 0⟩).extent.w := by
        rw [← o.width_litAt ⟨x, 0⟩]
        exact Int32.ofInt_toInt _
      rw [advance_of_lightable _ lightable, moveOn, ih, if_pos lightable, Int32.ofInt_add, width, Int32.add_assoc]
    · rw [advance_of_dark _ lightable, ih, if_neg lightable, Int.zero_add]

theorem sideBySide_getElem? {conf : Configuration} {i : Nat} {o : Output} (place : conf[i]? = some o) :
    (sideBySide.arrange conf)[i]? =
      some (if o.Lightable then o.litAt ⟨Int32.ofInt (edge conf i), 0⟩ else o.switchedOff) := by
  rw [arrange_getElem?, place, Option.map_some, cursorPast_sideBySide, Int32.zero_add, edge]
  split_ifs with lightable
  · rw [Output.layAt_of_lightable lightable]
  · rw [Output.layAt_of_dark lightable]

theorem exists_of_sideBySide {conf : Configuration} {i : Nat} {a : Output}
    (place : (sideBySide.arrange conf)[i]? = some a) :
    ∃ o, conf[i]? = some o ∧ (if o.Lightable then o.litAt ⟨Int32.ofInt (edge conf i), 0⟩ else o.switchedOff) = a := by
  have bound : i < conf.length := by
    rw [← sideBySide.length_arrange conf]
    exact (List.getElem?_eq_some_iff.1 place).1
  have here : conf[i]? = some conf[i] := List.getElem?_eq_getElem bound
  rw [sideBySide_getElem? here, Option.some.injEq] at place
  exact ⟨conf[i], here, place⟩

/-- What is lit keeps the width that it started with. -/
theorem breadth_sideBySide (conf : Configuration) : breadth (sideBySide.arrange conf) = startBreadth conf := by
  rw [arrange_eq_sweep]
  -- a width is the same wherever the output stands, so that the sweep may start anywhere
  generalize (0 : Int32) = x
  induction conf generalizing x with
  | nil => rfl
  | cons o conf ih =>
    rw [startBreadth_cons]
    split_ifs with lightable
    · rw [sweep_cons_of_lightable _ lightable, moveOn, ← ih, ← o.width_litAt ⟨x, 0⟩]
      rfl
    · rw [sweep_cons_of_dark _ lightable, ← ih x, Int.zero_add]
      rfl

theorem breadth_take_sideBySide (conf : Configuration) (i : Nat) :
    breadth ((sideBySide.arrange conf).take i) = edge conf i := by
  rw [arrange_eq_sweep, sweep_take, ← arrange_eq_sweep, breadth_sideBySide, edge]

section Tiles
variable {conf : Configuration} (sizes : ∀ o ∈ conf, ∀ mode ∈ o.modes, 0 ≤ mode.size.w)
  (room : startBreadth conf ≤ Int32.maxValue.toInt)
include sizes room

theorem toInt_ofInt_edge (i : Nat) : (Int32.ofInt (edge conf i)).toInt = edge conf i := by
  have low := edge_nonneg sizes (i := i)
  have high := Int.le_trans (edge_le_startBreadth sizes (i := i)) room
  rw [Int32.toInt_maxValue] at high
  exact Int32.toInt_ofInt_of_le (by omega) (by omega)

theorem span_of_used {i : Nat} {a : Output} (place : (sideBySide.arrange conf)[i]? = some a) (used : a.used = true) :
    a.left = edge conf i ∧ a.left + a.width = edge conf (i + 1) := by
  obtain ⟨o, here, rfl⟩ := exists_of_sideBySide place
  split_ifs at used ⊢ with lightable
  · have left : (o.litAt ⟨Int32.ofInt (edge conf i), 0⟩).left = edge conf i := toInt_ofInt_edge sizes room i
    refine ⟨left, ?_⟩
    rw [edge_succ here, if_pos lightable, left, Output.width_litAt]
  · cases used

/-- An output shows the columns between its edge and the next one; this is none if it was not lit. -/
theorem shows_iff {i : Nat} {a : Output} (place : (sideBySide.arrange conf)[i]? = some a) (x : Int) :
    a.Shows x ↔ edge conf i ≤ x ∧ x < edge conf (i + 1) := by
  cases used : a.used with
  | true =>
    obtain ⟨left, right⟩ := span_of_used sizes room place used
    rw [Output.Shows, ← right, left, used]
    exact and_iff_right rfl
  | false =>
    obtain ⟨o, here, rfl⟩ := exists_of_sideBySide place
    split_ifs at used with lightable
    · cases used
    · have same : edge conf (i + 1) = edge conf i := by
        rw [edge_succ here, if_neg lightable, Int.add_zero]
      refine iff_of_false (fun shows => ?_) (by omega)
      rw [if_neg lightable] at shows
      cases shows.1

end Tiles

/-- Side by side, what can be lit shares out the columns from zero on, from left to right and without a gap, if the
coordinates suffice; the rest is only switched off. -/
theorem sideBySide_tiles (conf : Configuration) (sizes : ∀ o ∈ conf, ∀ mode ∈ o.modes, 0 ≤ mode.size.w)
    (room : startBreadth conf ≤ Int32.maxValue.toInt) :
    let laid := sideBySide.arrange conf
    laid.length = conf.length ∧
      (∀ (i : Nat) (o : Output), conf[i]? = some o → o.Lightable →
        ∃ x : Int32, x.toInt = breadth (laid.take i) ∧ laid[i]? = some { o with
          used := true, power := .on, orientation := .normal,
          current := some (if o.preferred < o.modes.length then o.preferred else 0), topLeft := ⟨x, 0⟩ }) ∧
      (∀ (i : Nat) (o : Output), conf[i]? = some o → ¬ o.Lightable →
        laid[i]? = some { o with used := false, power := .off }) ∧
      (∀ (i j : Nat) (a b : Output), i < j → laid[i]? = some a → laid[j]? = some b → a.used = true → b.used = true →
        a.left + a.width ≤ b.left ∧ a.extents.overlaps b.extents = false) ∧
      breadth laid = startBreadth conf ∧
      ∀ x : Int, (∃! i : Nat, ∃ a : Output, laid[i]? = some a ∧ a.Shows x) ↔ 0 ≤ x ∧ x < breadth laid := by
  intro laid
  -- all that is said of places follows from the edges: an output that is lit spans from one to the next
  refine ⟨sideBySide.length_arrange conf, fun i o place lightable => ?lit, fun i o place dark => ?dark,
    fun i j a b below ha hb used used' => ?apart, breadth_sideBySide conf, fun x => ⟨?inside, ?shown⟩⟩
  case lit =>
    refine ⟨Int32.ofInt (edge conf i), ?_, ?_⟩
    · rw [toInt_ofInt_edge sizes room, breadth_take_sideBySide]
    · rw [sideBySide_getElem? place, if_pos lightable]
      rfl
  case dark =>
    rw [sideBySide_getElem? place, if_neg dark]
    rfl
  case apart =>
    obtain ⟨-, right⟩ := span_of_used sizes room ha used
    obtain ⟨left, -⟩ := span_of_used sizes room hb used'
    have apart : a.left + a.width ≤ b.left := by
      rw [right, left]
      exact edge_le_edge sizes below
    exact ⟨apart, Rect.overlaps_eq_false_of_left apart⟩
  case inside =>
    rintro ⟨i, ⟨a, place, shows⟩, -⟩
    obtain ⟨lo, hi⟩ := (shows_iff sizes room place x).1 shows
    rw [breadth_sideBySide]
    exact ⟨Int.le_trans (edge_nonneg sizes) lo, Int.lt_of_lt_of_le hi (edge_le_startBreadth sizes)⟩
  case shown =>
    rintro ⟨lo, hi⟩
    rw [breadth_sideBySide, ← edge_length] at hi
    obtain ⟨i, bound, here⟩ := exists_edges lo hi
    rw [← sideBySide.length_arrange conf] at bound
    have place : laid[i]? = some laid[i] := List.getElem?_eq_getElem bound
    refine ⟨i, ⟨laid[i], place, (shows_iff sizes room place x).2 here⟩, ?_⟩
    rintro j ⟨b, place', shows⟩
    exact edge_unique sizes ((shows_iff sizes room place' x).1 shows) here

/-- The third output of the desk is lit at its first mode and at half its size, and the fourth one right of it. -/
theorem desk_tiled :
    (∀ o ∈ desk, ∀ mode ∈ o.modes, 0 ≤ mode.size.w) ∧ startBreadth desk = 3200 ∧
      (∃ x : Int32, x.toInt = 1920 ∧ (sideBySide.arrange desk)[3]?.map (·.topLeft) = some ⟨x, 0⟩) ∧
      (∃! i : Nat, ∃ a : Output, (sideBySide.arrange desk)[i]? = some a ∧ a.Shows 1919) ∧
      ¬ ∃! i : Nat, ∃ a : Output, (sideBySide.arrange desk)[i]? = some a ∧ a.Shows 3200 := by
  have sizes : ∀ o ∈ desk, ∀ mode ∈ o.modes, 0 ≤ mode.size.w := by decide
  have total : startBreadth desk = 3200 := by decide +kernel
  have earlier : breadth ((sideBySide.arrange desk).take 3) = 1920 := by decide +kernel
  have room : startBreadth desk ≤ Int32.maxValue.toInt := by
    rw [total]
    decide
  obtain ⟨-, lit, -, -, same, shown⟩ := sideBySide_tiles desk sizes room
  obtain ⟨x, position, place⟩ := lit 3 _ rfl (by decide)
  refine ⟨sizes, total, ⟨x, position.trans earlier, ?_⟩, (shown 1919).2 ?_, fun once => ?_⟩
  · rw [place]
    rfl
  · rw [same, total]
    decide
  · have beyond := ((shown 3200).1 once).2
    rw [same, total] at beyond
    exact absurd beyond (by decide)

end Layout

end Multihead
