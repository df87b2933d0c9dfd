import Mathlib.Algebra.Order.BigOperators.Group.List
import Mathlib.Algebra.Order.Ring.Nat
import Mathlib.Data.Finset.Max
import Multihead.Pacing.Timings

/-! # Flip statistics
The longest of the flips, and their mean. A sum that is checked at every step comes out just if the whole sum is in
range, since no sum on the way is larger than the whole. -/

set_option autoImplicit false

namespace Multihead

namespace Duration

/-- The nanoseconds of several durations together, in range or not. -/
def total (ds : List Duration) : Nat := (ds.map nanos).sum

theorem total_cons (d : Duration) (ds : List Duration) : total (d :: ds) = d.nanos + total ds := by
  rw [total, List.map_cons, List.sum_cons, total]

/-! ## Sums -/

theorem plus?_eq_some_iff (a b s : Duration) : a.plus? b = some s ↔ s.nanos = a.nanos + b.nanos := by
  rw [plus?]
  split
  · rw [Option.some.injEq]
    exact ⟨fun same => same ▸ rfl, fun same => ext_nanos same.symm⟩
  · next out =>
    refine iff_of_false (by simp) fun same => out ?_
    exact same ▸ s.inRange

theorem foldlM_plus?_eq_some_iff (ds : List Duration) (a s : Duration) :
    ds.foldlM plus? a = some s ↔ s.nanos = a.nanos + total ds := by
  induction ds generalizing a with
  | nil =>
    rw [List.foldlM_nil, total, List.map_nil, List.sum_nil, Nat.add_zero, Option.pure_def, Option.some.injEq]
    exact ⟨fun same => same ▸ rfl, fun same => ext_nanos same.symm⟩
  | cons d ds ih =>
    rw [List.foldlM_cons, Option.bind_eq_bind, Option.bind_eq_some_iff]
    simp only [plus?_eq_some_iff, ih]
    rw [total_cons]
    constructor
    · rintro ⟨b, first, rest⟩
      omega
    · intro whole
      have bound := s.inRange
      refine ⟨⟨a.nanos + d.nanos, by omega⟩, rfl, ?_⟩
      rw [whole, Nat.add_assoc]

theorem sum?_eq_some_iff (ds : List Duration) (s : Duration) : sum? ds = some s ↔ s.nanos = total ds := by
  rw [sum?, foldlM_plus?_eq_some_iff, zero, Nat.zero_add]

theorem sum?_eq_none_iff (ds : List Duration) : sum? ds = none ↔ limit ≤ total ds := by
  constructor
  · intro none
    by_contra fits
    have some := (sum?_eq_some_iff ds ⟨total ds, Nat.not_le.1 fits⟩).2 rfl
    rw [none] at some
    cases some
  · intro out
    cases sum : sum? ds with
    | none => rfl
    | some s =>
      have bound := s.inRange
      rw [(sum?_eq_some_iff ds s).1 sum] at bound
      exact absurd out (Nat.not_le.2 bound)

/-! ## The longest -/

theorem nanos_longer (a b : Duration) : (a.longer b).nanos = max a.nanos b.nanos := by
  rw [longer]
  split <;> omega

theorem longer_eq (a b : Duration) : a.longer b = a ∨ a.longer b = b := by
  rw [longer]
  split
  · exact .inr rfl
  · exact .inl rfl

theorem le_foldl_longer (ds : List Duration) (a : Duration) :
    a.nanos ≤ (ds.foldl longer a).nanos ∧ ∀ d ∈ ds, d.nanos ≤ (ds.foldl longer a).nanos := by
  induction ds generalizing a with
  | nil => simp
  | cons d ds ih =>
    obtain ⟨first, later⟩ := ih (a.longer d)
    rw [nanos_longer, max_le_iff] at first
    exact ⟨first.1, List.forall_mem_cons.2 ⟨first.2, later⟩⟩

theorem foldl_longer_mem (ds : List Duration) (a : Duration) : ds.foldl longer a ∈ a :: ds := by
  induction ds generalizing a with
  | nil => exact List.mem_singleton_self a
  | cons d ds ih =>
    rw [List.foldl_cons]
    rcases List.mem_cons.1 (ih (a.longer d)) with same | later
    · rw [same]
      rcases longer_eq a d with first | second
      · rw [first]
        exact List.mem_cons_self
      · rw [second]
        exact List.mem_cons_of_mem a List.mem_cons_self
    · exact List.mem_cons_of_mem a (List.mem_cons_of_mem d later)

/-! ## Bounds of a mean -/

theorem total_le (ds : List Duration) (most : Nat) (bound : ∀ d ∈ ds, d.nanos ≤ most) : total ds ≤ ds.length * most := by
  have sum := List.sum_le_card_nsmul (ds.map nanos) most (List.forall_mem_map.2 bound)
  rwa [List.length_map, Nat.nsmul_eq_mul] at sum

theorem le_total (ds : List Duration) (least : Nat) (bound : ∀ d ∈ ds, least ≤ d.nanos) : ds.length * least ≤ total ds := by
  have sum := List.card_nsmul_le_sum (ds.map nanos) least (List.forall_mem_map.2 bound)
  rwa [List.length_map, Nat.nsmul_eq_mul] at sum

theorem exists_shortest (ds : List Duration) (some_flip : ds ≠ []) : ∃ d ∈ ds, ∀ e ∈ ds, d.nanos ≤ e.nanos := by
  obtain ⟨d, hd, least⟩ := Finset.exists_min_image ds.toFinset nanos ((List.toFinset_nonempty_iff ds).2 some_flip)
  exact ⟨d, List.mem_toFinset.1 hd, fun e he => least e (List.mem_toFinset.2 he)⟩

end Duration

namespace Timings

open Duration (total)

variable (t : Timings)

theorem longestFlip_nil (none_yet : t.flips = []) : t.longestFlip = Duration.zero := by
  rw [longestFlip, none_yet, List.foldl_nil]

theorem le_longestFlip : ∀ d ∈ t.flips, d.nanos ≤ t.longestFlip.nanos := (Duration.le_foldl_longer t.flips .zero).2

theorem longestFlip_mem (some_flip : t.flips ≠ []) : t.longestFlip ∈ t.flips := by
  rcases List.mem_cons.1 (Duration.foldl_longer_mem t.flips .zero) with zero | found
  · -- when no flip is longer than zero, the first one is zero itself
    obtain ⟨d, ds, flips⟩ := List.exists_cons_of_ne_nil some_flip
    have first : d ∈ t.flips := flips ▸ List.mem_cons_self
    have bound := t.le_longestFlip d first
    rw [longestFlip, zero] at bound ⊢
    have same : d = Duration.zero := Duration.ext_nanos (Nat.le_zero.1 bound)
    exact same ▸ first
  · exact found

theorem meanFlip_of_out (out : Duration.limit ≤ total t.flips) : t.meanFlip = Duration.zero := by
  rw [meanFlip, (Duration.sum?_eq_none_iff t.flips).2 out]

theorem meanFlip_nil (none_yet : t.flips = []) : t.meanFlip = Duration.zero := by
  rw [meanFlip, none_yet]
  rfl

theorem nanos_meanFlip (some_flip : t.flips ≠ []) (few : t.flips.length < 2 ^ 32) (fits : total t.flips < Duration.limit) :
    t.meanFlip.nanos = total t.flips / t.flips.length := by
  have count : (UInt32.ofNat t.flips.length).toNat = t.flips.length := UInt32.toNat_ofNat_of_lt' few
  have nonzero : UInt32.ofNat t.flips.length ≠ 0 := by
    intro zero
    rw [zero] at count
    exact some_flip (List.length_eq_zero_iff.1 count.symm)
  have sum : Duration.sum? t.flips = some ⟨total t.flips, fits⟩ := (Duration.sum?_eq_some_iff _ _).2 rfl
  rw [meanFlip, sum]
  simp only [Duration.dividedBy?, if_neg nonzero, Option.getD_some, Duration.dividedBy, count]

/-- The longest flip is one of the flips, and zero if there are none. The mean is the quotient of sum and number, rounded
down, between the shortest flip and the longest; it is zero if there are no flips or their sum is out of range. -/
theorem statistics_of_flips (few : t.flips.length < 2 ^ 32) :
    (∀ d ∈ t.flips, d.nanos ≤ t.longestFlip.nanos) ∧
      (if t.flips = [] then t.longestFlip = Duration.zero else t.longestFlip ∈ t.flips) ∧
      (t.flips ≠ [] → total t.flips < Duration.limit →
        t.meanFlip.nanos = total t.flips / t.flips.length ∧
          ∃ shortest ∈ t.flips, (∀ d ∈ t.flips, shortest.nanos ≤ d.nanos) ∧ shortest.nanos ≤ t.meanFlip.nanos) ∧
      (t.flips = [] ∨ Duration.limit ≤ total t.flips → t.meanFlip = Duration.zero) ∧
      t.meanFlip.nanos ≤ t.longestFlip.nanos := by
  refine ⟨t.le_longestFlip, ?_, fun some_flip fits => ?_, fun no_mean => ?_, ?_⟩
  · split
    · next none_yet => exact t.longestFlip_nil none_yet
    · next some_flip => exact t.longestFlip_mem some_flip
  · have mean := t.nanos_meanFlip some_flip few fits
    obtain ⟨shortest, found, least⟩ := Duration.exists_shortest t.flips some_flip
    refine ⟨mean, shortest, found, least, ?_⟩
    rw [mean, Nat.le_div_iff_mul_le (List.length_pos_of_ne_nil some_flip), Nat.mul_comm]
    exact Duration.le_total t.flips _ least
  · exact no_mean.elim t.meanFlip_nil t.meanFlip_of_out
  · by_cases some_flip : t.flips = []
    · rw [t.meanFlip_nil some_flip]
      exact Nat.zero_le _
    · rcases Nat.lt_or_ge (total t.flips) Duration.limit with fits | out
      · rw [t.nanos_meanFlip some_flip few fits]
        exact Nat.div_le_of_le_mul (Duration.total_le t.flips _ t.le_longestFlip)
      · rw [t.meanFlip_of_out out]
        exact Nat.zero_le _

/-- Flips of one, two and five nanoseconds take five at most, and two and two thirds in the mean. -/
def threeFlips : Timings := { fresh .zero .zero with flips := [.ofNanos 1, .ofNanos 5, .ofNanos 2] }

theorem threeFlips_statistics : threeFlips.flips.length < 2 ^ 32 ∧ total threeFlips.flips < Duration.limit ∧
    threeFlips.longestFlip.nanos = 5 ∧ threeFlips.meanFlip.nanos = 2 ∧
    threeFlips.meanFlip.nanos ≤ threeFlips.longestFlip.nanos := by
  have few : threeFlips.flips.length < 2 ^ 32 := by decide
  have fits : total threeFlips.flips < Duration.limit := by decide
  obtain ⟨-, -, mean, -, ordered⟩ := threeFlips.statistics_of_flips few
  exact ⟨few, fits, by decide, (mean (by decide) fits).1, ordered⟩

/-- The longest duration there is and one nanosecond have no mean. -/
example : ({ fresh .zero .zero with flips := [.ofNanos Duration.limit, .ofNanos 1] } : Timings).meanFlip = .zero := by
  decide

end Timings

end Multihead
