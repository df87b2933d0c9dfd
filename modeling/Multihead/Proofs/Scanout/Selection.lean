import Multihead.Proofs.Scanout.Promise

/-! # Which client buffer is selected
A renderable is chosen if it fills the view and all above it are upright and outside of the view; there is at most one
such place in a list. Its buffer is the only one that is ever imported. What is outside of the view is passed over, but
only if it is upright: a transformed renderable hides all that is below it, wherever it is drawn. -/

set_option autoImplicit false

namespace Multihead.Scanout

/-! ## Renderables in a view -/

/-- It covers the view exactly, and nothing below it shows through. -/
structure Renderable.Fills (r : Renderable) (area : Rect) : Prop where
  upright : r.transform = .normal
  solid : r.alpha = .one
  plain : r.shaped = false
  placed : r.position = area
  seen : r.position.overlaps area = true

structure Renderable.Clears (r : Renderable) (area : Rect) : Prop where
  upright : r.transform = .normal
  outside : r.position.overlaps area = false

theorem Renderable.Clears.not_fills {r : Renderable} {area : Rect} (clears : r.Clears area) : ¬ r.Fills area :=
  fun fills => Bool.noConfusion (clears.outside.symm.trans fills.seen)

/-- In a list from the bottom up, the renderable at this place fills the view, and all above it are clear of it. -/
structure Foremost (rs : List Renderable) (area : Rect) (i : Nat) (r : Renderable) : Prop where
  place : rs[i]? = some r
  fills : r.Fills area
  above : ∀ j, i < j → ∀ r', rs[j]? = some r' → r'.Clears area

theorem foremost_iff (rs : List Renderable) (area : Rect) (i : Nat) (r : Renderable) :
    Foremost rs area i r ↔ ∃ below above, rs = below ++ r :: above ∧ below.length = i ∧ r.Fills area ∧
      ∀ r' ∈ above, r'.Clears area := by
  constructor
  · rintro ⟨place, fills, above⟩
    obtain ⟨bound, here⟩ := List.getElem?_eq_some_iff.1 place
    refine ⟨rs.take i, rs.drop (i + 1), ?_, List.length_take_of_le bound.le, fills, fun r' hr' => ?_⟩
    · rw [← here, List.getElem_cons_drop, List.take_append_drop]
    · obtain ⟨k, hk⟩ := List.mem_iff_getElem?.1 hr'
      rw [List.getElem?_drop] at hk
      exact above (i + 1 + k) (by omega) r' hk
  · rintro ⟨below, above, rfl, rfl, fills, clear⟩
    refine ⟨by simp, fills, fun j hj r' hr' => clear r' ?_⟩
    obtain ⟨k, rfl⟩ := Nat.exists_eq_add_of_lt hj
    rw [List.getElem?_append_right (by omega), show below.length + k + 1 - below.length = k + 1 by omega,
      List.getElem?_cons_succ] at hr'
    exact List.mem_of_getElem? hr'

theorem Foremost.unique {rs : List Renderable} {area : Rect} {i j : Nat} {r r' : Renderable}
    (first : Foremost rs area i r) (second : Foremost rs area j r') : i = j := by
  rcases Nat.lt_trichotomy i j with below | same | above
  · exact absurd second.fills (first.above j below r' second.place).not_fills
  · exact same
  · exact absurd first.fills (second.above i above r first.place).not_fills

/-! ## Matching -/

namespace Matcher

variable {m : Matcher} {r : Renderable}

theorem covers_iff (seen : r.position.overlaps m.area = true) (upright : r.transform = .normal) :
    m.covers r = true ↔ r.Fills m.area := by
  simp only [covers, Bool.and_eq_true, beq_iff_eq, Bool.not_eq_true']
  constructor
  · rintro ⟨⟨solid, plain⟩, placed⟩
    exact ⟨upright, solid, plain, placed, seen⟩
  · rintro ⟨-, solid, plain, placed, -⟩
    exact ⟨⟨solid, plain⟩, placed⟩

theorem step_area (m : Matcher) (r : Renderable) : (m.step r).2.area = m.area := by
  unfold step
  split_ifs <;> rfl

theorem step_of_infeasible (given_up : m.feasible = false) (r : Renderable) : m.step r = (false, m) := by
  rw [step, given_up]
  rfl

theorem step_of_clears (clears : r.Clears m.area) : m.step r = (false, m) := by
  cases feasible : m.feasible with
  | false => exact step_of_infeasible feasible r
  | true => simp [step, feasible, clears.upright, clears.outside]

theorem step_of_fills (feasible : m.feasible = true) (fills : r.Fills m.area) : m.step r = (true, m) := by
  have covers := (covers_iff fills.seen fills.upright).2 fills
  simp [step, feasible, fills.upright, fills.seen, covers]

theorem step_of_turned (turned : r.transform ≠ .normal) :
    (m.step r).1 = false ∧ (m.step r).2.feasible = false := by
  cases feasible : m.feasible with
  | false =>
    rw [step_of_infeasible feasible]
    exact ⟨rfl, feasible⟩
  | true => simp [step, feasible, turned, giveUp]

theorem step_of_blocking (feasible : m.feasible = true) (in_the_way : ¬ r.Clears m.area)
    (partly : ¬ r.Fills m.area) : m.step r = (false, m.giveUp) := by
  by_cases upright : r.transform = .normal
  · have seen : r.position.overlaps m.area = true :=
      Bool.of_not_eq_false fun outside => in_the_way ⟨upright, outside⟩
    have uncovered : m.covers r = false := Bool.eq_false_iff.2 (mt (covers_iff seen upright).1 partly)
    simp [step, feasible, upright, seen, uncovered]
  · simp [step, feasible, upright]

/-- The first of the renderables, from the topmost down, that matches. -/
def choice (m : Matcher) (rs : List Renderable) : Option Renderable := (m.pick rs).map (·.chosen)

@[simp] theorem choice_nil (m : Matcher) : m.choice [] = none := rfl

theorem choice_cons (m : Matcher) (r : Renderable) (rs : List Renderable) :
    m.choice (r :: rs) = if (m.step r).1 then some r else (m.step r).2.choice rs := by
  rw [choice, pick]
  split_ifs
  · rfl
  · rw [Option.map_map]
    rfl

theorem choice_of_infeasible (given_up : m.feasible = false) (rs : List Renderable) : m.choice rs = none := by
  induction rs with
  | nil => rfl
  | cons r rs ih => rw [choice_cons, step_of_infeasible given_up, if_neg Bool.false_ne_true, ih]

theorem choice_of_clears (clears : r.Clears m.area) (rs : List Renderable) : m.choice (r :: rs) = m.choice rs := by
  rw [choice_cons, step_of_clears clears, if_neg Bool.false_ne_true]

theorem choice_of_turned (turned : r.transform ≠ .normal) (rs : List Renderable) : m.choice (r :: rs) = none := by
  obtain ⟨passed, given_up⟩ := step_of_turned (m := m) turned
  rw [choice_cons, passed, if_neg Bool.false_ne_true, choice_of_infeasible given_up]

theorem choice_eq_some_iff (feasible : m.feasible = true) (rs : List Renderable) (r : Renderable) :
    m.choice rs = some r ↔ ∃ above below, rs = above ++ r :: below ∧ r.Fills m.area ∧
      ∀ r' ∈ above, r'.Clears m.area := by
  induction rs with
  | nil => simp
  | cons first rs ih =>
    by_cases clears : first.Clears m.area
    · rw [choice_of_clears clears, ih]
      constructor
      · rintro ⟨above, below, rfl, fills, clear⟩
        exact ⟨first :: above, below, rfl, fills, List.forall_mem_cons.2 ⟨clears, clear⟩⟩
      · rintro ⟨above, below, split, fills, clear⟩
        cases above with
        | nil =>
          obtain ⟨rfl, rfl⟩ := List.cons.inj split
          exact absurd fills clears.not_fills
        | cons first' above =>
          obtain ⟨rfl, rfl⟩ := List.cons.inj split
          exact ⟨above, below, rfl, fills, (List.forall_mem_cons.1 clear).2⟩
    · -- the search ends here, and so does any list of renderables that are clear of the view
      have here : (∃ above below, first :: rs = above ++ r :: below ∧ r.Fills m.area ∧
          ∀ r' ∈ above, r'.Clears m.area) ↔ first = r ∧ r.Fills m.area := by
        constructor
        · rintro ⟨above, below, split, fills, clear⟩
          cases above with
          | nil => exact ⟨(List.cons.inj split).1, fills⟩
          | cons first' above =>
            obtain ⟨rfl, -⟩ := List.cons.inj split
            exact absurd (List.forall_mem_cons.1 clear).1 clears
        · rintro ⟨rfl, fills⟩
          exact ⟨[], rs, rfl, fills, List.forall_mem_nil _⟩
      rw [here, choice_cons]
      by_cases fills : first.Fills m.area
      · rw [step_of_fills feasible fills, if_pos rfl, Option.some.injEq]
        exact ⟨fun same => ⟨same, same ▸ fills⟩, And.left⟩
      · have given_up : m.giveUp.feasible = false := rfl
        rw [step_of_blocking feasible clears fills, if_neg Bool.false_ne_true, choice_of_infeasible given_up]
        exact iff_of_false (Option.some_ne_none r).symm fun ⟨same, fills'⟩ => fills (same ▸ fills')

/-! ### One more renderable -/

theorem choice_insert_of_clears (m : Matcher) (above : List Renderable) (clears : r.Clears m.area)
    (below : List Renderable) : m.choice (above ++ r :: below) = m.choice (above ++ below) := by
  -- what is above may leave the search in any state, with the same view
  induction above generalizing m with
  | nil => exact choice_of_clears clears below
  | cons first above ih =>
    have later := ih (m.step first).2 ((m.step_area first).symm ▸ clears)
    rw [List.cons_append, List.cons_append, choice_cons, choice_cons, later]

theorem choice_insert_of_turned (m : Matcher) (above : List Renderable) (turned : r.transform ≠ .normal)
    (below : List Renderable) : m.choice (above ++ r :: below) = m.choice above := by
  induction above generalizing m with
  | nil => exact choice_of_turned turned below
  | cons first above ih => rw [List.cons_append, choice_cons, choice_cons, ih]

theorem choice_append_of_some {above : List Renderable} (chosen : m.choice above = some r)
    (below : List Renderable) : m.choice (above ++ below) = some r := by
  induction above generalizing m with
  | nil => cases chosen
  | cons first above ih =>
    rw [choice_cons] at chosen
    rw [List.cons_append, choice_cons]
    cases matched : (m.step first).1 with
    | true => rwa [matched] at chosen
    | false =>
      rw [matched] at chosen
      exact ih chosen

end Matcher

/-- What is chosen among renderables that are listed from the bottom up. -/
def chosenIn (rs : List Renderable) (area : Rect) : Option Renderable := (Matcher.start area).choice rs.reverse

theorem chosenIn_eq_some_iff (rs : List Renderable) (area : Rect) (r : Renderable) :
    chosenIn rs area = some r ↔ ∃ i, Foremost rs area i r := by
  rw [chosenIn, Matcher.choice_eq_some_iff rfl]
  simp only [foremost_iff]
  constructor
  · rintro ⟨above, below, split, fills, clear⟩
    refine ⟨_, below.reverse, above.reverse, ?_, rfl, fills, fun r' hr' => clear r' (List.mem_reverse.1 hr')⟩
    rw [← List.reverse_reverse rs, split]
    simp
  · rintro ⟨i, below, above, rfl, -, fills, clear⟩
    exact ⟨above.reverse, below.reverse, by simp, fills, fun r' hr' => clear r' (List.mem_reverse.1 hr')⟩

section Insert
variable (below above : List Renderable) (area : Rect) {r : Renderable}

theorem chosenIn_insert_of_clears (clears : r.Clears area) :
    chosenIn (below ++ r :: above) area = chosenIn (below ++ above) area := by
  have passed := (Matcher.start area).choice_insert_of_clears above.reverse clears below.reverse
  simpa [chosenIn] using passed

theorem chosenIn_insert_of_turned (turned : r.transform ≠ .normal) :
    chosenIn (below ++ r :: above) area = chosenIn above area := by
  have stopped := (Matcher.start area).choice_insert_of_turned above.reverse turned below.reverse
  simpa [chosenIn] using stopped

theorem chosenIn_append_of_some (chosen : chosenIn above area = some r) :
    chosenIn (below ++ above) area = some r := by
  rw [chosenIn, List.reverse_append]
  exact Matcher.choice_append_of_some chosen below.reverse

end Insert

/-! ## Importing -/

section Import
variable {σ : Type} [Hardware σ]

theorem candidateOf_eq_some_iff (size : Size) (k : Nat) (b : ClientBuffer) (h : σ) (c : Candidate) :
    (candidateOf size k b h).value = some c ↔
      ∃ planes, b.size = size ∧ b.planes = some planes ∧ (Hardware.importPlanes k planes h).1 = some c.fb ∧
        c.buffer = b := by
  obtain ⟨buffer, fb⟩ := c
  rw [candidateOf]
  by_cases fits : b.size = size
  · rw [if_pos fits]
    cases shared : b.planes with
    | none => simp
    | some planes => simp [Drive.importPlanes, Drive.ask, fits, eq_comm]
  · rw [if_neg fits]
    simp [fits]

theorem candidateOf_acts (size : Size) (k : Nat) (b : ClientBuffer) (h : σ) :
    (candidateOf size k b h).acts =
      if b.size = size then
        b.planes.toList.map fun planes => .importBuffer k planes (Hardware.importPlanes k planes h).1
      else [] := by
  rw [candidateOf]
  by_cases fits : b.size = size
  · rw [if_pos fits, if_pos fits]
    cases b.planes with
    | none => rfl
    | some planes => rfl
  · rw [if_neg fits, if_neg fits]
    rfl

theorem mem_candidateOf_acts (size : Size) (k : Nat) (b : ClientBuffer) (h : σ) (a : Act) :
    a ∈ (candidateOf size k b h).acts ↔
      ∃ planes, b.size = size ∧ b.planes = some planes ∧
        a = .importBuffer k planes (Hardware.importPlanes k planes h).1 := by
  rw [candidateOf_acts]
  by_cases fits : b.size = size
  · simp [fits, eq_comm]
  · simp [fits]

def offer (size : Size) (k : Nat) : Option Renderable → Drive σ (Option Candidate)
  | none => pure none
  | some r => candidateOf size k r.buffer

theorem offer_eq_some_iff (size : Size) (k : Nat) (chosen : Option Renderable) (h : σ) (c : Candidate) :
    (offer size k chosen h).value = some c ↔
      ∃ r, chosen = some r ∧ (candidateOf size k r.buffer h).value = some c := by
  cases chosen <;> simp [offer]

theorem mem_offer_acts (size : Size) (k : Nat) (chosen : Option Renderable) (h : σ) (a : Act) :
    a ∈ (offer size k chosen h).acts ↔ ∃ r, chosen = some r ∧ a ∈ (candidateOf size k r.buffer h).acts := by
  cases chosen <;> simp [offer]

theorem length_offer_acts (size : Size) (k : Nat) (chosen : Option Renderable) (h : σ) :
    (offer size k chosen h).acts.length ≤ 1 := by
  cases chosen with
  | none => exact Nat.zero_le 1
  | some r =>
    rw [offer, candidateOf_acts]
    split_ifs
    · cases r.buffer.planes <;> simp
    · exact Nat.zero_le 1

theorem select_eq_offer (rs : List Renderable) (area : Rect) (size : Size) (k : Nat) (h : σ) :
    (select rs area size k h).value.candidate = (offer size k (chosenIn rs area) h).value ∧
      (select rs area size k h).acts = (offer size k (chosenIn rs area) h).acts ∧
      (select rs area size k h).state = (offer size k (chosenIn rs area) h).state := by
  rw [select, chosenIn, Matcher.choice]
  cases (Matcher.start area).pick rs.reverse with
  | none => exact ⟨rfl, rfl, rfl⟩
  | some p =>
    simp only [Drive.bind_run, Option.map_some, offer]
    cases (candidateOf size k p.chosen.buffer h).value with
    | none => exact ⟨rfl, List.append_nil _, rfl⟩
    | some c => exact ⟨rfl, List.append_nil _, rfl⟩

/-! ## Selecting -/

open Surface (fullScreen twoHeads twoHeadsView)

/-- There is a candidate just if the foremost renderable has a buffer of the right size that the output can import. No
other renderable counts, and no other buffer is imported. -/
theorem candidate_iff_foremost (rs : List Renderable) (area : Rect) (size : Size) (k : Nat) (h : σ) :
    let selected := select rs area size k h
    (∀ c, selected.value.candidate = some c ↔
      ∃ i r planes, Foremost rs area i r ∧ r.buffer.size = size ∧ r.buffer.planes = some planes ∧
        (Hardware.importPlanes k planes h).1 = some c.fb ∧ c.buffer = r.buffer) ∧
      (∀ i j r r', Foremost rs area i r → Foremost rs area j r' → i = j ∧ r = r') ∧
      (∀ a, a ∈ selected.acts ↔
        ∃ i r planes, Foremost rs area i r ∧ r.buffer.size = size ∧ r.buffer.planes = some planes ∧
          a = .importBuffer k planes (Hardware.importPlanes k planes h).1) ∧
      selected.acts.length ≤ 1 ∧
      ∀ i r, Foremost rs area i r →
        (r.buffer.size ≠ size ∨
          ∀ planes, r.buffer.planes = some planes → (Hardware.importPlanes k planes h).1 = none) →
        selected.value.candidate = none := by
  intro selected
  obtain ⟨value, acts, -⟩ := select_eq_offer rs area size k h
  have one_place : ∀ i j r r', Foremost rs area i r → Foremost rs area j r' → i = j ∧ r = r' := by
    intro i j r r' first second
    obtain rfl := first.unique second
    exact ⟨rfl, Option.some.inj (first.place.symm.trans second.place)⟩
  have candidate : ∀ c, selected.value.candidate = some c ↔
      ∃ i r planes, Foremost rs area i r ∧ r.buffer.size = size ∧ r.buffer.planes = some planes ∧
        (Hardware.importPlanes k planes h).1 = some c.fb ∧ c.buffer = r.buffer := by
    intro c
    simp only [selected, value, offer_eq_some_iff, chosenIn_eq_some_iff, candidateOf_eq_some_iff]
    constructor
    · rintro ⟨r, ⟨i, foremost⟩, planes, imports⟩
      exact ⟨i, r, planes, foremost, imports⟩
    · rintro ⟨i, r, planes, foremost, imports⟩
      exact ⟨r, ⟨i, foremost⟩, planes, imports⟩
  refine ⟨candidate, one_place, fun a => ?imports, ?once, fun i r foremost unsuitable => ?unsuitable⟩
  case imports =>
    simp only [selected, acts, mem_offer_acts, chosenIn_eq_some_iff, mem_candidateOf_acts]
    constructor
    · rintro ⟨r, ⟨i, foremost⟩, planes, imports⟩
      exact ⟨i, r, planes, foremost, imports⟩
    · rintro ⟨i, r, planes, foremost, imports⟩
      exact ⟨r, ⟨i, foremost⟩, planes, imports⟩
  case once =>
    rw [acts]
    exact length_offer_acts size k _ h
  case unsuitable =>
    rw [Option.eq_none_iff_forall_ne_some]
    intro c got
    obtain ⟨j, r', planes, foremost', fits, shared, imported, -⟩ := (candidate c).1 got
    obtain ⟨-, rfl⟩ := one_place i j r r' foremost foremost'
    rcases unsuitable with misfit | refused
    · exact misfit fits
    · rw [refused planes shared] at imported
      cases imported

/-- A buffer of another client that covers the view. -/
def backdrop : Renderable := { fullScreen with buffer := ⟨1, ⟨1920, 1080⟩, some [1]⟩ }

/-- A window on the right of the view. -/
def besideView (transform : Transform) : Renderable :=
  ⟨⟨9, ⟨100, 100⟩, some [9]⟩, ⟨⟨1920, 0⟩, ⟨100, 100⟩⟩, transform, .one, false⟩

/-- The upper of two that cover the view, below a window that is outside; and nothing, if its memory is not shared. -/
theorem backdrop_covered :
    (select [backdrop, fullScreen, besideView .normal] twoHeadsView ⟨1920, 1080⟩ 0 (twoHeads true)).value.candidate =
        some ⟨fullScreen.buffer, ⟨100003⟩⟩ ∧
      (∀ a ∈ (select [backdrop, fullScreen, besideView .normal] twoHeadsView ⟨1920, 1080⟩ 0 (twoHeads true)).acts,
        a = .importBuffer 0 [3] (some ⟨100003⟩)) ∧
      (select [backdrop, { fullScreen with buffer := ⟨7, ⟨1920, 1080⟩, none⟩ }] twoHeadsView ⟨1920, 1080⟩ 0
        (twoHeads true)).value.candidate = none := by
  have seen : twoHeadsView.overlaps twoHeadsView = true := by decide
  have fills : ∀ buffer, ({ fullScreen with buffer } : Renderable).Fills twoHeadsView :=
    fun buffer => ⟨rfl, rfl, rfl, rfl, seen⟩
  have upper : Foremost [backdrop, fullScreen, besideView .normal] twoHeadsView 1 fullScreen :=
    (foremost_iff _ _ _ _).2 ⟨[backdrop], [besideView .normal], rfl, rfl, fills _,
      List.forall_mem_singleton.2 ⟨rfl, by decide⟩⟩
  have secret : Foremost [backdrop, { fullScreen with buffer := ⟨7, ⟨1920, 1080⟩, none⟩ }] twoHeadsView 1 _ :=
    (foremost_iff _ _ _ _).2 ⟨[backdrop], [], rfl, rfl, fills _, List.forall_mem_nil _⟩
  have imported : (Hardware.importPlanes 0 [3] (twoHeads true)).1 = some ⟨100003⟩ := by decide
  obtain ⟨candidate, one_place, imports, -, -⟩ := candidate_iff_foremost
    [backdrop, fullScreen, besideView .normal] twoHeadsView ⟨1920, 1080⟩ 0 (twoHeads true)
  obtain ⟨-, -, -, -, unsuitable⟩ := candidate_iff_foremost
    [backdrop, { fullScreen with buffer := ⟨7, ⟨1920, 1080⟩, none⟩ }] twoHeadsView ⟨1920, 1080⟩ 0 (twoHeads true)
  refine ⟨(candidate _).2 ⟨1, _, [3], upper, rfl, rfl, imported, rfl⟩, fun a ha => ?_, ?_⟩
  · obtain ⟨i, r, planes, foremost, -, shared, rfl⟩ := (imports a).1 ha
    obtain ⟨-, rfl⟩ := one_place _ _ _ _ upper foremost
    obtain rfl : [3] = planes := Option.some.inj shared
    rw [imported]
  · exact unsuitable 1 _ secret (.inr fun planes shared => by cases shared)

/-! ## Outside of the view -/

/-- One more renderable that is outside of the view changes nothing at all if it is upright. If it is transformed, nothing
below it is selected any more, so that it changes the result if there was one, and it was below. -/
theorem outside_unseen_iff (below above : List Renderable) (r : Renderable) (area : Rect) (size : Size) (k : Nat) (h : σ)
    (outside : r.position.overlaps area = false) :
    let more := select (below ++ r :: above) area size k h
    let fewer := select (below ++ above) area size k h
    (more.value.candidate = fewer.value.candidate ↔
      r.transform = .normal ∨ fewer.value.candidate = none ∨ ∃ i r', Foremost above area i r') ∧
      (r.transform = .normal → more.acts = fewer.acts ∧ more.state = fewer.state) ∧
      (r.transform ≠ .normal → more.value.candidate = (select above area size k h).value.candidate) := by
  intro more fewer
  obtain ⟨value, acts, state⟩ := select_eq_offer (below ++ r :: above) area size k h
  obtain ⟨value', acts', state'⟩ := select_eq_offer (below ++ above) area size k h
  obtain ⟨value_above, -, -⟩ := select_eq_offer above area size k h
  by_cases upright : r.transform = .normal
  · have same := chosenIn_insert_of_clears below above area (r := r) ⟨upright, outside⟩
    rw [same] at value acts state
    refine ⟨iff_of_true (value.trans value'.symm) (.inl upright), fun _ => ?_, fun turned => absurd upright turned⟩
    exact ⟨acts.trans acts'.symm, state.trans state'.symm⟩
  · have stopped := chosenIn_insert_of_turned below above area upright
    rw [stopped] at value
    refine ⟨?_, fun upright' => absurd upright' upright, fun _ => value.trans value_above.symm⟩
    rw [or_iff_right upright]
    cases chosen : chosenIn above area with
    | none =>
      -- nothing is selected above, so that only another empty result is the same
      have none_above : ¬ ∃ i r', Foremost above area i r' := by
        rintro ⟨i, r', foremost⟩
        rw [(chosenIn_eq_some_iff above area r').2 ⟨i, foremost⟩] at chosen
        cases chosen
      have no_result : more.value.candidate = none := by
        rw [value, chosen]
        rfl
      rw [or_iff_left none_above, no_result]
      exact eq_comm
    | some r' =>
      have some_above := (chosenIn_eq_some_iff above area r').1 chosen
      obtain ⟨i, foremost⟩ := some_above
      rw [chosenIn_append_of_some below above area chosen] at value'
      rw [chosen] at value
      exact iff_of_true (value.trans value'.symm) (.inr ⟨i, r', foremost⟩)

/-- An upright window beside the view leaves the client's buffer below it alone. -/
theorem besideView_unseen : (besideView .normal).position.overlaps twoHeadsView = false ∧
    (select [fullScreen, besideView .normal] twoHeadsView ⟨1920, 1080⟩ 0 (twoHeads true)).value.candidate =
      (select [fullScreen] twoHeadsView ⟨1920, 1080⟩ 0 (twoHeads true)).value.candidate := by
  have outside : (besideView .normal).position.overlaps twoHeadsView = false := by decide
  exact ⟨outside, (outside_unseen_iff [fullScreen] [] (besideView .normal) twoHeadsView ⟨1920, 1080⟩ 0 (twoHeads true)
    outside).1.2 (.inl rfl)⟩

/-- A rotated one hides it, although it is drawn elsewhere. -/
theorem besideView_hides : (besideView .quarter).position.overlaps twoHeadsView = false ∧
    (select [fullScreen] twoHeadsView ⟨1920, 1080⟩ 0 (twoHeads true)).value.candidate =
      some ⟨fullScreen.buffer, ⟨100003⟩⟩ ∧
    (select [fullScreen, besideView .quarter] twoHeadsView ⟨1920, 1080⟩ 0 (twoHeads true)).value.candidate = none := by
  decide

end Import

end Multihead.Scanout
