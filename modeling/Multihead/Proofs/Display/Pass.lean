import Multihead.Display.Cluster

/-! # Passes over the members
A pass offers slices to the members in order and stops at the first one that does not accept. Its record of calls
says so: every call but the last was accepted, a pass that stopped ends with the call that was not, the places of
the calls grow, and each call carries the slice that was meant for its place. An application is one pass, or two. -/

set_option autoImplicit false

namespace Multihead.Cluster

variable {α : Type} [Backend α]

/-! ## One step of a pass -/

theorem offerFrom_nil (k : Nat) (ss : List (Option Slice)) :
    offerFrom k ([] : List α) ss = ⟨[], [], none, [], []⟩ := by
  cases ss <;> rfl

theorem offerFrom_nil_slices (k : Nat) (ms : List α) : offerFrom k ms [] = ⟨ms, [], none, [], []⟩ := by
  cases ms <;> rfl

theorem offerFrom_skip (k : Nat) (m : α) (ms : List α) (rest : List (Option Slice)) :
    offerFrom k (m :: ms) (none :: rest) =
      { offerFrom (k + 1) ms rest with members := m :: (offerFrom (k + 1) ms rest).members } := rfl

theorem offerFrom_accepted (k : Nat) (m : α) (ms : List α) (s : Slice) (rest : List (Option Slice))
    (ok : (Backend.apply m s.outputs).answer = .ok true) :
    offerFrom k (m :: ms) (some s :: rest) =
      ⟨(Backend.apply m s.outputs).state :: (offerFrom (k + 1) ms rest).members,
        ⟨k, s, .ok true⟩ :: (offerFrom (k + 1) ms rest).calls, (offerFrom (k + 1) ms rest).stop,
        (Backend.apply m s.outputs).asked ++ (offerFrom (k + 1) ms rest).asked,
        (Backend.apply m s.outputs).undone ++ (offerFrom (k + 1) ms rest).undone⟩ := by
  simp only [offerFrom, ok]

/-- The error in an answer that is no acceptance; a refusal has none. -/
def complaint : Except DisplayError Bool → Option DisplayError
  | .ok _ => none
  | .error e => some e

theorem complaint_answer (t : Stop) : complaint t.answer = t.error := by
  obtain ⟨place, error⟩ := t
  cases error <;> rfl

theorem answer_eq_of_complaint {a b : Except DisplayError Bool} (ha : a ≠ .ok true) (hb : b ≠ .ok true)
    (same : complaint a = complaint b) : a = b := by
  match a, b with
  | .ok false, .ok false => rfl
  | .error e, .error e' => rw [Option.some.inj same]
  | .ok true, _ => exact absurd rfl ha
  | _, .ok true => exact absurd rfl hb

theorem offerFrom_stopped (k : Nat) (m : α) (ms : List α) (s : Slice) (rest : List (Option Slice))
    (no : (Backend.apply m s.outputs).answer ≠ .ok true) :
    offerFrom k (m :: ms) (some s :: rest) =
      ⟨(Backend.apply m s.outputs).state :: ms, [⟨k, s, (Backend.apply m s.outputs).answer⟩],
        some ⟨k, complaint (Backend.apply m s.outputs).answer⟩, (Backend.apply m s.outputs).asked,
        (Backend.apply m s.outputs).undone⟩ := by
  cases h : (Backend.apply m s.outputs).answer with
  | error e => simp only [offerFrom, h, complaint]
  | ok b =>
    cases b with
    | true => exact absurd h no
    | false => simp only [offerFrom, h, complaint]

theorem configureFrom_nil (k : Nat) (ss : List (Option Slice)) :
    configureFrom k ([] : List α) ss = ⟨.ok (), [], [], []⟩ := by
  cases ss <;> rfl

theorem configureFrom_nil_slices (k : Nat) (ms : List α) : configureFrom k ms [] = ⟨.ok (), ms, [], []⟩ := by
  cases ms <;> rfl

theorem configureFrom_skip (k : Nat) (m : α) (ms : List α) (rest : List (Option Slice)) :
    configureFrom k (m :: ms) (none :: rest) =
      { configureFrom (k + 1) ms rest with members := m :: (configureFrom (k + 1) ms rest).members } := rfl

theorem configureFrom_accepted (k : Nat) (m : α) (ms : List α) (s : Slice) (rest : List (Option Slice))
    (ok : (Backend.configure m s.outputs).answer = .ok ()) :
    configureFrom k (m :: ms) (some s :: rest) =
      ⟨(configureFrom (k + 1) ms rest).answer,
        (Backend.configure m s.outputs).state :: (configureFrom (k + 1) ms rest).members,
        ⟨k, s, .ok ()⟩ :: (configureFrom (k + 1) ms rest).calls,
        (Backend.configure m s.outputs).events ++ (configureFrom (k + 1) ms rest).events⟩ := by
  simp only [configureFrom, ok]

theorem configureFrom_failed (k : Nat) (m : α) (ms : List α) (s : Slice) (rest : List (Option Slice))
    (e : ConfigureError) (failed : (Backend.configure m s.outputs).answer = .error e) :
    configureFrom k (m :: ms) (some s :: rest) =
      ⟨.error (.outputsOf s.card e), (Backend.configure m s.outputs).state :: ms, [⟨k, s, .error e⟩],
        (Backend.configure m s.outputs).events⟩ := by
  simp only [configureFrom, failed]

/-! ## The record of calls -/

theorem offerFrom_call (k : Nat) (ms : List α) (ss : List (Option Slice)) :
    ∀ c ∈ (offerFrom k ms ss).calls,
      ∃ i, c.member = k + i ∧ i < ms.length ∧ ss[i]? = some (some c.slice) := by
  induction ms generalizing k ss with
  | nil => simp [offerFrom_nil]
  | cons m ms ih =>
    have later : ∀ rest, ∀ c ∈ (offerFrom (k + 1) ms rest).calls, ∀ s : Option Slice,
        ∃ i, c.member = k + i ∧ i < (m :: ms).length ∧ (s :: rest)[i]? = some (some c.slice) := by
      intro rest c hc s
      obtain ⟨i, hi, hlt, hs⟩ := ih (k + 1) rest c hc
      exact ⟨i + 1, by omega, by rw [List.length_cons]; omega, hs⟩
    intro c hc
    match ss with
    | [] => simp [offerFrom_nil_slices] at hc
    | none :: rest =>
      rw [offerFrom_skip] at hc
      exact later rest c hc none
    | some s :: rest =>
      by_cases ok : (Backend.apply m s.outputs).answer = .ok true
      · rw [offerFrom_accepted k m ms s rest ok, List.mem_cons] at hc
        rcases hc with rfl | hc
        · exact ⟨0, rfl, Nat.succ_pos _, rfl⟩
        · exact later rest c hc (some s)
      · rw [offerFrom_stopped k m ms s rest ok, List.mem_singleton] at hc
        exact ⟨0, by rw [hc]; rfl, Nat.succ_pos _, by rw [hc]; rfl⟩

theorem offerFrom_all_accepted (k : Nat) (ms : List α) (ss : List (Option Slice))
    (through : (offerFrom k ms ss).stop = none) :
    ∀ c ∈ (offerFrom k ms ss).calls, c.reply = .ok true := by
  induction ms generalizing k ss with
  | nil => simp [offerFrom_nil]
  | cons m ms ih =>
    intro c hc
    match ss with
    | [] => simp [offerFrom_nil_slices] at hc
    | none :: rest => exact ih (k + 1) rest through c hc
    | some s :: rest =>
      by_cases ok : (Backend.apply m s.outputs).answer = .ok true
      · rw [offerFrom_accepted k m ms s rest ok] at through hc
        rcases List.mem_cons.1 hc with rfl | hc
        · rfl
        · exact ih (k + 1) rest through c hc
      · rw [offerFrom_stopped k m ms s rest ok] at through
        cases through

theorem configureFrom_all_accepted (k : Nat) (ms : List α) (ss : List (Option Slice))
    (through : (configureFrom k ms ss).answer = .ok ()) :
    ∀ c ∈ (configureFrom k ms ss).calls, c.reply = .ok () := by
  induction ms generalizing k ss with
  | nil => simp [configureFrom_nil]
  | cons m ms ih =>
    match ss with
    | [] => simp [configureFrom_nil_slices]
    | none :: rest => exact ih (k + 1) rest through
    | some s :: rest =>
      cases answer : (Backend.configure m s.outputs).answer with
      | ok u =>
        rw [configureFrom_accepted k m ms s rest answer] at through ⊢
        exact List.forall_mem_cons.2 ⟨rfl, ih (k + 1) rest through⟩
      | error e =>
        rw [configureFrom_failed k m ms s rest e answer] at through
        cases through

/-- A pass that stopped ends with the call that was not accepted. -/
theorem offerFrom_last_call (k : Nat) (ms : List α) (ss : List (Option Slice)) (t : Stop)
    (stopped : (offerFrom k ms ss).stop = some t) :
    ∃ before last, (offerFrom k ms ss).calls = before ++ [last] ∧
      (∀ c ∈ before, c.reply = .ok true ∧ c.member < last.member) ∧
      last.reply ≠ .ok true ∧ last.member = t.member ∧ complaint last.reply = t.error := by
  induction ms generalizing k ss with
  | nil => simp [offerFrom_nil] at stopped
  | cons m ms ih =>
    match ss with
    | [] => simp [offerFrom_nil_slices] at stopped
    | none :: rest => exact ih (k + 1) rest stopped
    | some s :: rest =>
      by_cases ok : (Backend.apply m s.outputs).answer = .ok true
      · rw [offerFrom_accepted k m ms s rest ok] at stopped ⊢
        obtain ⟨before, last, hcalls, hbefore, hno, hmem, herr⟩ := ih (k + 1) rest stopped
        have place : k < last.member := by
          obtain ⟨i, hi, -, -⟩ := offerFrom_call (k + 1) ms rest last (by rw [hcalls]; simp)
          omega
        refine ⟨⟨k, s, .ok true⟩ :: before, last, by simp [hcalls], ?_, hno, hmem, herr⟩
        exact List.forall_mem_cons.2 ⟨⟨rfl, place⟩, hbefore⟩
      · rw [offerFrom_stopped k m ms s rest ok] at stopped ⊢
        cases stopped
        exact ⟨[], ⟨k, s, (Backend.apply m s.outputs).answer⟩, rfl, by simp, ok, rfl, rfl⟩

theorem offerFrom_stop_place (k : Nat) (ms : List α) (ss : List (Option Slice)) (t : Stop)
    (stopped : (offerFrom k ms ss).stop = some t) : ∃ i, t.member = k + i ∧ i < ms.length := by
  obtain ⟨before, last, hcalls, -, -, hmem, -⟩ := offerFrom_last_call k ms ss t stopped
  obtain ⟨i, hi, hlt, -⟩ := offerFrom_call k ms ss last (by rw [hcalls]; simp)
  exact ⟨i, hmem ▸ hi, hlt⟩

theorem offerFrom_calls_ne_nil {k : Nat} {ms : List α} {ss : List (Option Slice)} {p : Pass α} {t : Stop}
    (pass : offerFrom k ms ss = p) (stopped : p.stop = some t) : p.calls ≠ [] := by
  subst pass
  obtain ⟨before, last, hcalls, -⟩ := offerFrom_last_call k ms ss t stopped
  rw [hcalls]
  simp

/-! ## Members side by side -/

theorem offerFrom_append_through (k : Nat) (xs ys : List α) (ss ts : List (Option Slice))
    (length : xs.length = ss.length) (through : (offerFrom k xs ss).stop = none) :
    offerFrom k (xs ++ ys) (ss ++ ts) =
      ⟨(offerFrom k xs ss).members ++ (offerFrom (k + xs.length) ys ts).members,
        (offerFrom k xs ss).calls ++ (offerFrom (k + xs.length) ys ts).calls, (offerFrom (k + xs.length) ys ts).stop,
        (offerFrom k xs ss).asked ++ (offerFrom (k + xs.length) ys ts).asked,
        (offerFrom k xs ss).undone ++ (offerFrom (k + xs.length) ys ts).undone⟩ := by
  induction xs generalizing k ss with
  | nil =>
    obtain rfl : ss = [] := List.length_eq_zero_iff.1 length.symm
    simp [offerFrom_nil]
  | cons x xs ih =>
    cases ss with
    | nil => simp at length
    | cons s ss =>
      have places : k + (x :: xs).length = k + 1 + xs.length := by rw [List.length_cons]; omega
      rw [places]
      cases s with
      | none =>
        have later := ih (k + 1) ss (Nat.succ.inj length) through
        simp only [List.cons_append, offerFrom_skip, later]
      | some s =>
        by_cases ok : (Backend.apply x s.outputs).answer = .ok true
        · rw [offerFrom_accepted k x xs s ss ok] at through
          have later := ih (k + 1) ss (Nat.succ.inj length) through
          simp only [List.cons_append, offerFrom_accepted k x _ s _ ok, later, List.append_assoc]
        · rw [offerFrom_stopped k x xs s ss ok] at through
          cases through

theorem offerFrom_append_stopped (k : Nat) (xs ys : List α) (ss ts : List (Option Slice))
    (stopped : (offerFrom k xs ss).stop ≠ none) :
    offerFrom k (xs ++ ys) (ss ++ ts) =
      { offerFrom k xs ss with members := (offerFrom k xs ss).members ++ ys } := by
  induction xs generalizing k ss with
  | nil => exact absurd (by rw [offerFrom_nil]) stopped
  | cons x xs ih =>
    match ss with
    | [] => exact absurd (by rw [offerFrom_nil_slices]) stopped
    | none :: ss =>
      have later := ih (k + 1) ss stopped
      simp only [List.cons_append, offerFrom_skip, later]
    | some s :: ss =>
      by_cases ok : (Backend.apply x s.outputs).answer = .ok true
      · rw [offerFrom_accepted k x xs s ss ok] at stopped
        have later := ih (k + 1) ss stopped
        simp only [List.cons_append, offerFrom_accepted k x _ s _ ok, later]
      · simp only [List.cons_append, offerFrom_stopped k x _ s _ ok]

/-- Members without a slice at the end are left alone. -/
theorem offerFrom_append_idle (k : Nat) (xs ys : List α) (ss : List (Option Slice))
    (length : xs.length = ss.length) :
    offerFrom k (xs ++ ys) ss = { offerFrom k xs ss with members := (offerFrom k xs ss).members ++ ys } := by
  by_cases through : (offerFrom k xs ss).stop = none
  · have joined := offerFrom_append_through k xs ys ss [] length through
    simpa [offerFrom_nil_slices, through] using joined
  · simpa using offerFrom_append_stopped k xs ys ss [] through

theorem configureFrom_append_through (k : Nat) (xs ys : List α) (ss ts : List (Option Slice))
    (length : xs.length = ss.length) (through : (configureFrom k xs ss).answer = .ok ()) :
    configureFrom k (xs ++ ys) (ss ++ ts) =
      ⟨(configureFrom (k + xs.length) ys ts).answer,
        (configureFrom k xs ss).members ++ (configureFrom (k + xs.length) ys ts).members,
        (configureFrom k xs ss).calls ++ (configureFrom (k + xs.length) ys ts).calls,
        (configureFrom k xs ss).events ++ (configureFrom (k + xs.length) ys ts).events⟩ := by
  induction xs generalizing k ss with
  | nil =>
    obtain rfl : ss = [] := List.length_eq_zero_iff.1 length.symm
    simp [configureFrom_nil]
  | cons x xs ih =>
    cases ss with
    | nil => simp at length
    | cons s ss =>
      have places : k + (x :: xs).length = k + 1 + xs.length := by rw [List.length_cons]; omega
      rw [places]
      cases s with
      | none =>
        have later := ih (k + 1) ss (Nat.succ.inj length) through
        simp only [List.cons_append, configureFrom_skip, later]
      | some s =>
        cases answer : (Backend.configure x s.outputs).answer with
        | ok u =>
          rw [configureFrom_accepted k x xs s ss answer] at through
          have later := ih (k + 1) ss (Nat.succ.inj length) through
          simp only [List.cons_append, configureFrom_accepted k x _ s _ answer, later, List.append_assoc]
        | error e =>
          rw [configureFrom_failed k x xs s ss e answer] at through
          cases through

theorem configureFrom_append_failed (k : Nat) (xs ys : List α) (ss ts : List (Option Slice))
    (failed : (configureFrom k xs ss).answer ≠ .ok ()) :
    configureFrom k (xs ++ ys) (ss ++ ts) =
      { configureFrom k xs ss with members := (configureFrom k xs ss).members ++ ys } := by
  induction xs generalizing k ss with
  | nil => exact absurd (by rw [configureFrom_nil]) failed
  | cons x xs ih =>
    match ss with
    | [] => exact absurd (by rw [configureFrom_nil_slices]) failed
    | none :: ss =>
      have later := ih (k + 1) ss failed
      simp only [List.cons_append, configureFrom_skip, later]
    | some s :: ss =>
      cases answer : (Backend.configure x s.outputs).answer with
      | ok u =>
        rw [configureFrom_accepted k x xs s ss answer] at failed
        have later := ih (k + 1) ss failed
        simp only [List.cons_append, configureFrom_accepted k x _ s _ answer, later]
      | error e => simp only [List.cons_append, configureFrom_failed k x _ s _ e answer]

/-! ## One pass or two -/

theorem application_of_incomplete (g : Cluster α) (conf : Configuration) (card : CardId)
    (h : g.incomplete = some card) : g.application conf = ⟨.error (.incomplete card), g, [], [], [], []⟩ := by
  rw [application, h]

/-- How an application ends if the cluster is usable: the pass goes through, or the way back does, or neither. -/
inductive Ends (g : Cluster α) (conf : Configuration) : Application α → Prop where
  | carriedOut (p : Pass α) (pass : offerFrom 0 g.members (g.slices conf) = p) (through : p.stop = none) :
    Ends g conf ⟨.ok true, ⟨p.members, none⟩, p.calls, [], p.asked, p.undone⟩
  | takenBack (p back : Pass α) (t : Stop) (pass : offerFrom 0 g.members (g.slices conf) = p)
    (stopped : p.stop = some t)
    (way : offerFrom 0 p.members ((g.slices g.configuration).take t.member) = back) (through : back.stop = none) :
    Ends g conf ⟨t.answer, ⟨back.members, none⟩, p.calls, back.calls, p.asked,
      p.undone ++ back.asked ++ back.undone⟩
  | stranded (p back : Pass α) (t u : Stop) (card : CardId) (pass : offerFrom 0 g.members (g.slices conf) = p)
    (stopped : p.stop = some t)
    (way : offerFrom 0 p.members ((g.slices g.configuration).take t.member) = back) (stuck : back.stop = some u)
    (named : cardAt (g.slices g.configuration) u.member = card) :
    Ends g conf ⟨.error (.incomplete card), ⟨back.members, some card⟩, p.calls, back.calls, p.asked,
      p.undone ++ back.asked ++ back.undone⟩

theorem application_ends (g : Cluster α) (conf : Configuration) (usable : g.incomplete = none) :
    Ends g conf (g.application conf) := by
  simp only [application, usable]
  cases hp : (offerFrom 0 g.members (g.slices conf)).stop with
  | none => exact .carriedOut _ rfl hp
  | some t =>
    simp only [restore]
    cases hb : (offerFrom 0 (offerFrom 0 g.members (g.slices conf)).members
        ((g.slices g.configuration).take t.member)).stop with
    | none => exact .takenBack _ _ t rfl hp rfl hb
    | some u => exact .stranded _ _ t u _ rfl hp rfl hb rfl

/-- An application makes a second pass over the members that the first one left, which may be an empty one. -/
theorem application_two_passes (g : Cluster α) (conf : Configuration) (usable : g.incomplete = none) :
    let first := offerFrom 0 g.members (g.slices conf)
    (g.application conf).forward = first.calls ∧ (g.application conf).asked = first.asked ∧
      ∃ ss, (g.application conf).back = (offerFrom 0 first.members ss).calls ∧
        (g.application conf).cluster.members = (offerFrom 0 first.members ss).members := by
  have ends := g.application_ends conf usable
  generalize g.application conf = r at ends ⊢
  cases ends with
  | carriedOut p pass through =>
    subst pass
    exact ⟨rfl, rfl, [], by rw [offerFrom_nil_slices], by rw [offerFrom_nil_slices]⟩
  | takenBack p back t pass stopped way through =>
    subst pass way
    exact ⟨rfl, rfl, _, rfl, rfl⟩
  | stranded p back t u card pass stopped way stuck named =>
    subst pass way
    exact ⟨rfl, rfl, _, rfl, rfl⟩

/-- A request is carried out if, and only if, the first pass goes through. -/
theorem application_of_through (g : Cluster α) (conf : Configuration) (usable : g.incomplete = none) :
    let first := offerFrom 0 g.members (g.slices conf)
    ((g.application conf).answer = .ok true ↔ first.stop = none) ∧
      (first.stop = none → (g.application conf).cluster = ⟨first.members, none⟩) := by
  have ends := g.application_ends conf usable
  generalize g.application conf = r at ends ⊢
  cases ends with
  | carriedOut p pass through =>
    subst pass
    exact ⟨iff_of_true rfl through, fun _ => rfl⟩
  | takenBack p back t pass stopped way through =>
    subst pass
    have no : t.answer ≠ .ok true := by
      obtain ⟨place, error⟩ := t
      cases error <;> simp [Stop.answer]
    exact ⟨iff_of_false no (by simp [stopped]), fun h => absurd h (by simp [stopped])⟩
  | stranded p back t u card pass stopped way stuck named =>
    subst pass
    exact ⟨iff_of_false (by simp) (by simp [stopped]), fun h => absurd h (by simp [stopped])⟩

end Multihead.Cluster
