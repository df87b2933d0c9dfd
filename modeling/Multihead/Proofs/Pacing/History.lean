import Mathlib.Data.List.Basic
import Mathlib.Data.List.Induction
import Multihead.Pacing.Timings

/-! # The history of flips
Timings hear of flips that are scheduled and completed, and of frames. A flip took from the latest time at which it was
scheduled until it was completed. All of the last flips are kept, and up to as many again that came before them. -/

set_option autoImplicit false

namespace Multihead.Timings

/-- What timings hear of. -/
inductive Report where
  | scheduled (now : Duration)
  | completed (now : Duration)
  | posted (kind : FrameKind) (refresh : Option Duration)

def Report.isCompletion : Report → Bool
  | completed _ => true
  | scheduled _ | posted _ _ => false

def Report.isPost : Report → Bool
  | posted _ _ => true
  | scheduled _ | completed _ => false

def hear (t : Timings) : Report → Timings
  | .scheduled now => t.flipScheduled now
  | .completed now => t.flipCompleted now
  | .posted kind refresh => t.framePosted kind refresh

def after (t : Timings) (reports : List Report) : Timings := reports.foldl hear t

theorem after_append (t : Timings) (reports : List Report) (r : Report) :
    t.after (reports ++ [r]) = (t.after reports).hear r := by
  rw [after, List.foldl_append, List.foldl_cons, List.foldl_nil, after]

/-! ## Round trips -/

/-- When the flip was scheduled that is under way after these reports. -/
def underWay (reports : List Report) : Option Duration :=
  match (reports.filter (!·.isPost)).getLast? with
  | some (.scheduled since) => some since
  | _ => none

/-- How long the flip took that a report completes, after earlier ones. -/
def trip (earlier : List Report) : Report → Option Duration
  | .completed now => (underWay earlier).map now.minus
  | .scheduled _ | .posted _ _ => none

def tripAt (reports : List Report) (i : Nat) : Option Duration := reports[i]?.bind (trip (reports.take i))

/-- How long flips took, oldest first. -/
def roundTrips (reports : List Report) : List Duration := (List.range reports.length).filterMap (tripAt reports)

section Append
variable (reports : List Report)

theorem underWay_scheduled (now : Duration) : underWay (reports ++ [.scheduled now]) = some now := by
  simp [underWay, Report.isPost]

theorem underWay_completed (now : Duration) : underWay (reports ++ [.completed now]) = none := by
  simp [underWay, Report.isPost]

theorem underWay_posted (kind : FrameKind) (refresh : Option Duration) :
    underWay (reports ++ [.posted kind refresh]) = underWay reports := by
  simp [underWay, Report.isPost]

theorem roundTrips_append (r : Report) : roundTrips (reports ++ [r]) = roundTrips reports ++ (trip reports r).toList := by
  have earlier : ∀ i ∈ List.range reports.length, tripAt (reports ++ [r]) i = tripAt reports i := by
    intro i hi
    have bound := List.mem_range.1 hi
    rw [tripAt, List.getElem?_append_left bound, List.take_append_of_le_length (Nat.le_of_lt bound), tripAt]
  have last : tripAt (reports ++ [r]) reports.length = trip reports r := by
    rw [tripAt, List.getElem?_concat_length, List.take_left, Option.bind_some]
  rw [roundTrips, List.length_append, List.length_singleton, List.range_succ, List.filterMap_append,
    List.filterMap_congr earlier, roundTrips, List.filterMap_cons, List.filterMap_nil, last]
  cases trip reports r <;> rfl

end Append

/-- The latest flip was scheduled at this time, and nothing but frames came since. -/
def Awaited (reports : List Report) (since : Duration) : Prop :=
  ∃ before posts, reports = before ++ .scheduled since :: posts ∧ ∀ r ∈ posts, r.isPost = true

theorem awaited_append (reports : List Report) (r : Report) (since : Duration) :
    Awaited (reports ++ [r]) since ↔ r = .scheduled since ∨ r.isPost = true ∧ Awaited reports since := by
  constructor
  · rintro ⟨before, posts, same, only_posts⟩
    rcases List.eq_nil_or_concat posts with rfl | ⟨posts, last, rfl⟩
    · obtain ⟨-, last⟩ := List.append_inj' same rfl
      exact .inl (List.singleton_inj.1 last)
    · rw [List.concat_eq_append] at same only_posts
      rw [← List.cons_append, ← List.append_assoc] at same
      obtain ⟨rfl, last⟩ := List.append_inj' same rfl
      obtain rfl := List.singleton_inj.1 last
      obtain ⟨earlier, post⟩ := List.forall_mem_append.1 only_posts
      exact .inr ⟨post r (List.mem_singleton_self r), before, posts, rfl, earlier⟩
  · rintro (rfl | ⟨post, before, posts, rfl, only_posts⟩)
    · exact ⟨reports, [], rfl, List.forall_mem_nil _⟩
    · refine ⟨before, posts ++ [r], by rw [List.append_assoc, List.cons_append], ?_⟩
      exact List.forall_mem_append.2 ⟨only_posts, List.forall_mem_singleton.2 post⟩

theorem underWay_eq_some_iff (reports : List Report) (since : Duration) :
    underWay reports = some since ↔ Awaited reports since := by
  induction reports using List.reverseRecOn with
  | nil => simp [underWay, Awaited]
  | append_singleton reports r ih =>
    rw [awaited_append, ← ih]
    cases r with
    | scheduled now => simp [underWay_scheduled, Report.isPost]
    | completed now => simp [underWay_completed, Report.isPost]
    | posted kind refresh => simp [underWay_posted, Report.isPost]

theorem trip_eq_some_iff (earlier : List Report) (r : Report) (d : Duration) :
    trip earlier r = some d ↔
      ∃ now since, r = .completed now ∧ Awaited earlier since ∧ d.nanos = now.nanos - since.nanos := by
  have value : ∀ now since : Duration, now.minus since = d ↔ d.nanos = now.nanos - since.nanos :=
    fun now since => ⟨fun same => same ▸ rfl, fun same => (Duration.ext_nanos same).symm⟩
  cases r with
  | scheduled now => simp [trip]
  | posted kind refresh => simp [trip]
  | completed now => simp [trip, underWay_eq_some_iff, value]

theorem tripAt_eq_some_iff (reports : List Report) (i : Nat) (d : Duration) :
    tripAt reports i = some d ↔
      ∃ now since, reports[i]? = some (.completed now) ∧ Awaited (reports.take i) since ∧
        d.nanos = now.nanos - since.nanos := by
  rw [tripAt, Option.bind_eq_some_iff]
  simp only [trip_eq_some_iff]
  constructor
  · rintro ⟨_, here, now, since, rfl, awaited, length⟩
    exact ⟨now, since, here, awaited, length⟩
  · rintro ⟨now, since, here, awaited, length⟩
    exact ⟨_, here, now, since, rfl, awaited, length⟩

/-! ## The window -/

/-- How many of so many flips are kept. -/
def kept (n : Nat) : Nat := if n < window then n else window + n % window

def recent (flips : List Duration) : List Duration := flips.drop (flips.length - kept flips.length)

theorem kept_le (n : Nat) : kept n ≤ n := by
  rw [kept, window]
  split <;> omega

theorem kept_lt (n : Nat) : kept n < 2 * window := by
  rw [kept, window]
  split <;> omega

theorem min_le_kept (n : Nat) : min n window ≤ kept n := by
  rw [kept, window]
  split <;> omega

theorem length_recent (flips : List Duration) : (recent flips).length = kept flips.length := by
  rw [recent, List.length_drop, Nat.sub_sub_self (kept_le _)]

theorem kept_succ (n : Nat) : kept (n + 1) = if 2 * window ≤ kept n + 1 then window else kept n + 1 := by
  rcases Nat.lt_or_ge n window with few | many
  · have before : kept n = n := if_pos few
    rw [window] at few
    rw [before, kept, window]
    split_ifs <;> omega
  · have before : kept n = window + n % window := if_neg (Nat.not_lt.2 many)
    rw [window] at many
    rw [before, kept, window]
    split_ifs <;> omega

theorem record_recent (flips : List Duration) (flip : Duration) :
    record (recent flips) flip = recent (flips ++ [flip]) := by
  have all : recent flips ++ [flip] = (flips ++ [flip]).drop (flips.length - kept flips.length) :=
    (List.drop_append_of_le_length (Nat.sub_le _ _)).symm
  have length : (recent flips ++ [flip]).length = kept flips.length + 1 := by
    rw [List.length_append, length_recent, List.length_singleton]
  have few := kept_le flips.length
  have grown : recent (flips ++ [flip]) = (flips ++ [flip]).drop (flips.length + 1 - kept (flips.length + 1)) := by
    rw [recent, List.length_append, List.length_singleton]
  rw [record, length, grown, kept_succ, all]
  -- both sides are ends of all flips, and of the same length
  split_ifs with full
  · have dropped : flips.length - kept flips.length + (kept flips.length + 1 - window) = flips.length + 1 - window := by
      omega
    rw [List.drop_drop, dropped]
  · rw [Nat.add_sub_add_right]

/-! ## Runs -/

theorem pending_flipCompleted (t : Timings) (now : Duration) : (t.flipCompleted now).pending = none := by
  rw [flipCompleted]
  split
  · assumption
  · rfl

section Runs
variable (composite bypass : Duration) (reports : List Report)

theorem pending_after : ((fresh composite bypass).after reports).pending = underWay reports := by
  induction reports using List.reverseRecOn with
  | nil => rfl
  | append_singleton reports r ih =>
    rw [after_append]
    cases r with
    | scheduled now => rw [underWay_scheduled]; rfl
    | posted kind refresh => rw [underWay_posted, ← ih]; rfl
    | completed now => rw [underWay_completed, hear, pending_flipCompleted]

theorem flips_hear (t : Timings) (earlier : List Report) (pending : t.pending = underWay earlier) (r : Report) :
    (t.hear r).flips = (trip earlier r).elim t.flips (record t.flips) := by
  cases r with
  | scheduled now => rfl
  | posted kind refresh => rfl
  | completed now =>
    rw [hear, flipCompleted, trip, ← pending]
    cases t.pending <;> rfl

theorem flips_after : ((fresh composite bypass).after reports).flips = recent (roundTrips reports) := by
  induction reports using List.reverseRecOn with
  | nil => rfl
  | append_singleton reports r ih =>
    rw [after_append, flips_hear _ reports (pending_after composite bypass reports), ih, roundTrips_append]
    cases trip reports r with
    | none => rw [Option.toList_none, List.append_nil]; rfl
    | some d => exact record_recent _ d

/-- Whether the `i`-th of these reports is a completion that finds a flip pending. -/
def finds (t : Timings) (reports : List Report) (i : Nat) : Bool :=
  reports[i]?.any Report.isCompletion && (t.after (reports.take i)).pending.isSome

theorem isSome_trip (earlier : List Report) (r : Report) :
    (trip earlier r).isSome = (r.isCompletion && (underWay earlier).isSome) := by
  cases r <;> simp [trip, Report.isCompletion]

theorem length_roundTrips :
    (roundTrips reports).length = (List.range reports.length).countP ((fresh composite bypass).finds reports) := by
  rw [roundTrips, List.length_filterMap_eq_countP]
  congr 1
  funext i
  rw [finds, pending_after, tripAt]
  cases reports[i]? with
  | none => rfl
  | some r => exact isSome_trip _ r

end Runs

/-- Of the flips that were pending when they were completed the latest are kept: all of them at first, later as many as
one window holds and a part of another one. -/
theorem flips_are_latest (composite bypass : Duration) (reports : List Report) :
    let start := fresh composite bypass
    let n := (List.range reports.length).countP (start.finds reports)
    let k := if n < 360 then n else 360 + n % 360
    (roundTrips reports).length = n ∧ (start.after reports).flips = (roundTrips reports).drop (n - k) ∧
      (start.after reports).flips.length = k ∧ k < 720 ∧ min n 360 ≤ k ∧
      ∀ i d, tripAt reports i = some d ↔
        ∃ now since, reports[i]? = some (.completed now) ∧ Awaited (reports.take i) since ∧
          d.nanos = now.nanos - since.nanos := by
  intro start n k
  have count : (roundTrips reports).length = n := length_roundTrips composite bypass reports
  have flips : (start.after reports).flips = recent (roundTrips reports) := flips_after composite bypass reports
  refine ⟨count, ?_, ?_, kept_lt n, min_le_kept n, tripAt_eq_some_iff reports⟩
  · rw [flips, recent, count]
    rfl
  · rw [flips, length_recent, count]
    rfl

/-- A flip that is scheduled anew counts from then on, a second completion does not count, and no time is negative. -/
example :
    ((fresh .zero .zero).after [.scheduled (.ofNanos 1), .scheduled (.ofNanos 5), .posted .composite none,
      .completed (.ofNanos 7), .completed (.ofNanos 9), .scheduled (.ofNanos 20), .completed (.ofNanos 12)]).flips =
      [.ofNanos 2, .ofNanos 0] := by decide

end Multihead.Timings
