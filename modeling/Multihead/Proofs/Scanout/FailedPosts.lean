import Multihead.Proofs.Scanout.Ledger
import Multihead.Proofs.Scanout.ModeSets

/-! # Posts that fail
A post that fails has waited for the frame before it, and made that frame visible. Nothing else has come of it: no output
was asked to show anything, and what was obtained is gone again. The next post tells the outputs the same as if the one
that failed had never been made; only the wait is not repeated. -/

set_option autoImplicit false

namespace Multihead.Scanout

/-! ## Orders -/

/-- What an output is told to show, whatever it answers. -/
inductive Order where
  | flip (output : Nat) (fb : Framebuffer)
  | modeSet (output : Nat) (fb : Framebuffer)
  deriving DecidableEq

def Order.isFlip : Order → Bool
  | flip _ _ => true
  | modeSet _ _ => false

namespace Act

def order : Act → Option Order
  | flip k fb _ => some (.flip k fb)
  | setCrtc k fb _ => some (.modeSet k fb)
  | _ => none

/-- It is done to get a frame, and has a result. -/
def isFetch : Act → Bool
  | lock _ | copy _ _ | framebuffer _ _ _ => true
  | _ => false

def found : Act → Option Framebuffer
  | framebuffer _ _ answer => answer
  | _ => none

end Act

def orders (acts : List Act) : List Order := acts.filterMap Act.order

def fetches (acts : List Act) : List Act := acts.filter Act.isFetch

def framebuffers (acts : List Act) : List Framebuffer := acts.filterMap Act.found

theorem framebuffers_fetches (acts : List Act) : framebuffers (fetches acts) = framebuffers acts := by
  rw [framebuffers, fetches, List.filterMap_filter, framebuffers]
  congr 1
  funext a
  cases a <;> rfl

/-! ## Reports -/

/-- What is read from a part of a trace: the orders, whether a flip was taken, the waits, and the framebuffers that were
found. -/
structure Reported (acts : List Act) (told : List Order) (taken : Bool) (waited : List Act)
    (found : List Framebuffer) : Prop where
  told : orders acts = told
  taken : acts.any Act.takesFlip = taken
  waited : waitsIn acts = waited
  found : framebuffers acts = found

theorem Reported.append {acts more : List Act} {told told' : List Order} {taken taken' : Bool} {waited waited' : List Act}
    {found found' : List Framebuffer} (first : Reported acts told taken waited found)
    (second : Reported more told' taken' waited' found') :
    Reported (acts ++ more) (told ++ told') (taken || taken') (waited ++ waited') (found ++ found') where
  told := by rw [orders, List.filterMap_append, ← first.told, ← second.told, orders, orders]
  taken := by rw [List.any_append, first.taken, second.taken]
  waited := by rw [waitsIn_append, first.waited, second.waited]
  found := by rw [framebuffers, List.filterMap_append, ← first.found, ← second.found, framebuffers, framebuffers]

theorem Surface.reported_settling (s : Surface) : Reported s.settling [] false (s.pendingPlaces.map .wait) [] := by
  have silent : ∀ a ∈ s.settling, a.order = none ∧ a.takesFlip = false ∧ a.found = none :=
    s.forall_settling (fun _ => ⟨rfl, rfl, rfl⟩) fun f => by cases f <;> exact ⟨rfl, rfl, rfl⟩
  refine ⟨?_, ?_, s.waitsIn_settling, ?_⟩
  · exact List.filterMap_eq_nil_iff.2 fun a ha => (silent a ha).1
  · exact List.any_eq_false.2 fun a ha => Bool.eq_false_iff.1 (silent a ha).2.1
  · exact List.filterMap_eq_nil_iff.2 fun a ha => (silent a ha).2.2

theorem Fetched.reported {p : Pipeline} {r : Except PresentError (FrontBuffer × Framebuffer)} {acts : List Act}
    (fetched : Fetched p r acts) : Reported acts [] false [] (r.toOption.map Prod.snd).toList := by
  cases fetched with
  | noFrontBuffer reason => exact ⟨rfl, rfl, rfl, rfl⟩
  | noCopy front reason => exact ⟨rfl, rfl, rfl, rfl⟩
  | noFramebuffer carried => cases carried <;> exact ⟨rfl, rfl, rfl, rfl⟩
  | got carried fb => cases carried <;> exact ⟨rfl, rfl, rfl, rfl⟩

/-- What `n` outputs are told for a framebuffer, if a mode-set is due or not, and if a flip is taken or not. -/
def ordersFor (n : Nat) (fb : Framebuffer) (due taken : Bool) : List Order :=
  if due then (List.range n).map (.modeSet · fb)
  else (List.range n).map (.flip · fb) ++ if taken then [] else (List.range n).map (.modeSet · fb)

theorem flips_ordersFor (n : Nat) (fb : Framebuffer) (due taken : Bool) :
    (ordersFor n fb due taken).filter Order.isFlip = if due then [] else (List.range n).map (.flip · fb) := by
  cases due <;> cases taken <;> simp [ordersFor, Order.isFlip, List.filter_map, Function.comp_def]

theorem Presented.reported {n : Nat} {fb : Framebuffer} {due taken : Bool} {acts : List Act}
    (presented : Presented n fb due taken acts) : Reported acts (ordersFor n fb due taken) taken [] [] := by
  have modeSets : ∀ ok : Nat → Bool, Reported ((List.range n).map fun k => .setCrtc k fb (ok k))
      ((List.range n).map (.modeSet · fb)) false [] [] := by
    intro ok
    refine ⟨?_, ?_, ?_, ?_⟩
    · simp [orders, List.filterMap_map, Function.comp_def, Act.order]
    · simp [Act.takesFlip]
    · simp [waitsIn, Act.isWait]
    · simp [framebuffers, Act.found]
  have flips : ∀ ok : Nat → Bool, Reported ((List.range n).map fun k => .flip k fb (ok k))
      ((List.range n).map (.flip · fb)) ((List.range n).any ok) [] [] := by
    intro ok
    refine ⟨?_, ?_, ?_, ?_⟩
    · simp [orders, List.filterMap_map, Function.comp_def, Act.order]
    · simp [List.any_map, Function.comp_def, Act.takesFlip]
    · simp [waitsIn, Act.isWait]
    · simp [framebuffers, Act.found]
  cases presented with
  | modeSet ok => exact modeSets ok
  | @flipped ok j place taken =>
    have some_taken : (List.range n).any ok = true := List.any_eq_true.2 ⟨j, List.mem_range.2 place, taken⟩
    have report := flips ok
    rw [some_taken] at report
    rw [ordersFor, if_neg Bool.false_ne_true, if_pos rfl, List.append_nil]
    exact report
  | fellBack ok =>
    have none_taken : (List.range n).any (fun _ => false) = false := by simp
    have report := (flips fun _ => false).append (modeSets ok)
    rw [none_taken] at report
    exact report

/-- A frame is shown by the framebuffer of the candidate, or by one that was found for it. -/
def Surface.source (s : Surface) (found : Option Framebuffer) : Option Framebuffer :=
  (s.candidate.map (·.fb)).or found

theorem Sourced.reported {s : Surface} {frame : Frame} {fb : Framebuffer} {acts : List Act}
    (sourced : Sourced s frame fb acts) :
    frame.isClient = s.candidate.isSome ∧
      ∃ found : Option Framebuffer, Reported acts [] false [] found.toList ∧ s.source found = some fb := by
  cases sourced with
  | client c kept =>
    have own : s.source none = some c.fb := by rw [Surface.source, kept]; rfl
    exact ⟨by rw [kept]; rfl, none, ⟨rfl, rfl, rfl, rfl⟩, own⟩
  | composite none_kept fetched =>
    have fresh : s.source (some fb) = some fb := by rw [Surface.source, none_kept]; rfl
    exact ⟨by rw [none_kept]; rfl, some fb, fetched.reported, fresh⟩

namespace Surface

/-- What the outputs are told in a post that finds this framebuffer. -/
def told (s : Surface) (found : Option Framebuffer) (taken : Bool) : List Order :=
  match s.source found with
  | none => []
  | some fb => ordersFor s.outputs fb s.needsModeSet taken

/-- The flips that a post waits for at once. -/
def awaitedAtOnce (s : Surface) (taken : Bool) : List Act :=
  if taken && (s.outputs == 1 || s.candidate.isSome) then s.places.map .wait else []

end Surface

/-- What is found for the frame, and what outputs answer to flips, decides all that is told and waited for. -/
theorem Posted.reported {s u : Surface} {r : Except PresentError Unit} {acts : List Act} (posted : Posted s r u acts) :
    ∃ (found : Option Framebuffer) (taken : Bool),
      Reported acts (s.told found taken) taken (s.pendingPlaces.map .wait ++ s.awaitedAtOnce taken) found.toList ∧
        r.isOk = (s.source found).isSome := by
  cases posted with
  | failed e t none_kept fetched =>
    have report := s.reported_settling.append fetched.reported
    have no_source : s.source none = none := by rw [Surface.source, none_kept]; rfl
    refine ⟨none, false, ?_, by rw [no_source]; rfl⟩
    rw [Surface.told, no_source]
    exact report
  | @scheduled frame fb source acts taken t sourced presented later =>
    obtain ⟨client, found, fetched, from_fb⟩ := sourced.reported
    have report := s.reported_settling.append (fetched.append presented.reported)
    have left : s.awaitedAtOnce taken = [] := by
      rw [waitsAtOnce_eq, client] at later
      rw [Surface.awaitedAtOnce, later, Bool.and_false, if_neg Bool.false_ne_true]
    refine ⟨found, taken, ?_, by rw [from_fb]; rfl⟩
    rw [Surface.told, from_fb, left]
    simpa using report
  | @settled frame fb source acts taken t sourced presented once =>
    obtain ⟨client, found, fetched, from_fb⟩ := sourced.reported
    have again := ((s.settled.schedule frame).raised taken).reported_settling
    have report := s.reported_settling.append (fetched.append (presented.reported.append again))
    have awaited : s.awaitedAtOnce taken = (if taken then s.places else []).map .wait := by
      rw [waitsAtOnce_eq, client] at once
      rw [Surface.awaitedAtOnce, once, Bool.and_true]
      cases taken <;> rfl
    refine ⟨found, taken, ?_, by rw [from_fb]; rfl⟩
    rw [Surface.told, from_fb, awaited]
    simpa using report

theorem Posted.fetch_of_error {s u : Surface} {e : PresentError} {acts : List Act} (posted : Posted s (.error e) u acts) :
    ∃ fetch, acts = s.settling ++ fetch ∧ Fetched s.pipeline (.error e) fetch := by
  cases posted with
  | failed e t none_kept fetched => exact ⟨_, rfl, fetched⟩

/-! ## Surfaces that have caught up -/

theorem Timings.sleep_flipCompleted (t : Timings) (now : Duration) : (t.flipCompleted now).sleep = t.sleep := by
  obtain ⟨_, _, _, pending, _⟩ := t
  cases pending <;> rfl

/-- `u` is what `s` becomes when what was scheduled is waited for, but for the candidate and the flips measured. -/
def Surface.CaughtUp (s u : Surface) : Prop :=
  ∃ candidate timings, u = { s.settled with candidate, timings }

namespace Surface

variable {σ : Type} [Hardware σ]

/-- At most a flip is completed. -/
theorem timings_settle (s : Surface) (h : σ) :
    (s.settle h).value.timings = s.timings ∨ ∃ now, (s.settle h).value.timings = s.timings.flipCompleted now := by
  rw [settle, Drive.bind_run, ((s.awaitFlips h).value.promote_run _).1, awaitFlips]
  cases s.flipsPending with
  | false => exact .inl rfl
  | true => exact .inr ⟨_, rfl⟩

theorem sleep_settle (s : Surface) (h : σ) : (s.settle h).value.recommendedSleep = s.recommendedSleep := by
  rw [recommendedSleep, recommendedSleep]
  rcases s.timings_settle h with same | ⟨now, completed⟩
  · rw [same]
  · rw [completed, Timings.sleep_flipCompleted]

theorem CaughtUp.perform {s u : Surface} (caught_up : s.CaughtUp u) (h₁ h₂ : σ) {r : Request} (other : r ≠ .post) :
    (s.perform r h₁).value.CaughtUp (u.perform r h₂).value := by
  obtain ⟨candidate, timings, rfl⟩ := caught_up
  cases r with
  | post => exact absurd rfl other
  | overlay rs =>
    obtain ⟨kept, _, _, value, -⟩ := s.overlay_run rs h₁
    obtain ⟨kept', _, _, value', -⟩ := ({ s.settled with candidate, timings } : Surface).overlay_run rs h₂
    change (s.overlay rs h₁).value.2.CaughtUp (Surface.overlay _ rs h₂).value.2
    rw [value, value']
    exact ⟨kept', timings, rfl⟩
  | swapBuffers =>
    change (s.swapBuffers h₁).value.2.CaughtUp (Surface.swapBuffers _ h₂).value.2
    rcases s.swapBuffers_run h₁ with ⟨value, -⟩ | ⟨value, -⟩ <;>
      rcases ({ s.settled with candidate, timings } : Surface).swapBuffers_run h₂ with ⟨value', -⟩ | ⟨value', -⟩ <;>
      rw [value, value'] <;>
      exact ⟨_, timings, rfl⟩
  | setTransform transform area => exact ⟨candidate, timings, rfl⟩
  | scheduleModeSet => exact ⟨candidate, timings, rfl⟩

theorem CaughtUp.serve {s u : Surface} (caught_up : s.CaughtUp u) (h₁ h₂ : σ) {rs : List Request} (others : .post ∉ rs) :
    (s.serve rs h₁).value.CaughtUp (u.serve rs h₂).value ∧
      (s.serve rs h₁).value.pendingPlaces = s.pendingPlaces := by
  -- the requests are the same, but what the hardware answers may differ from the first one on
  induction rs generalizing s u h₁ h₂ with
  | nil => exact ⟨caught_up, rfl⟩
  | cons r rs ih =>
    obtain ⟨first, later⟩ := not_or.1 (mt List.mem_cons.2 others)
    obtain ⟨_, _, _, _, value, -⟩ := s.perform_of_aside h₁ (Ne.symm first)
    have pending : (s.perform r h₁).value.pendingPlaces = s.pendingPlaces := by
      rw [value]
      rfl
    obtain ⟨again, still⟩ := ih (caught_up.perform h₁ h₂ (Ne.symm first)) (s.perform r h₁).state (u.perform r h₂).state
      later
    exact ⟨again, still.trans pending⟩

theorem CaughtUp.alike {s u : Surface} (caught_up : s.CaughtUp u) (candidate : s.candidate = u.candidate) :
    u.source = s.source ∧ u.told = s.told ∧ u.awaitedAtOnce = s.awaitedAtOnce ∧ u.pendingPlaces = [] := by
  obtain ⟨kept, timings, rfl⟩ := caught_up
  obtain rfl : s.candidate = kept := candidate
  exact ⟨rfl, rfl, rfl, rfl⟩

/-- If also the same comes of getting a frame, both tell the outputs the same. -/
theorem CaughtUp.same_orders {s u : Surface} (caught_up : s.CaughtUp u) (candidate : s.candidate = u.candidate)
    (h₁ h₂ : σ) (same : fetches (s.post h₁).acts = fetches (u.post h₂).acts) :
    (s.post h₁).value.1.isOk = (u.post h₂).value.1.isOk ∧
      (orders (s.post h₁).acts).filter Order.isFlip = (orders (u.post h₂).acts).filter Order.isFlip ∧
      ((s.post h₁).acts.any Act.takesFlip = (u.post h₂).acts.any Act.takesFlip →
        orders (s.post h₁).acts = orders (u.post h₂).acts ∧
          waitsIn (s.post h₁).acts = s.pendingPlaces.map .wait ++ waitsIn (u.post h₂).acts) := by
  obtain ⟨found, taken, report, answer⟩ := (s.post_posted h₁).reported
  obtain ⟨found', taken', report', answer'⟩ := (u.post_posted h₂).reported
  obtain ⟨source, told, awaited, idle⟩ := caught_up.alike candidate
  rw [told, awaited, idle] at report'
  rw [source] at answer'
  -- a framebuffer is found by a fetch, and by nothing else
  obtain rfl : found = found' := by
    have lists : found.toList = found'.toList := by
      rw [← report.found, ← report'.found, ← framebuffers_fetches, same, framebuffers_fetches]
    simpa using congrArg List.head? lists
  refine ⟨answer.trans answer'.symm, ?flips, fun alike => ?orders⟩
  case flips =>
    rw [report.told, report'.told, Surface.told, Surface.told]
    cases s.source found with
    | none => rfl
    | some fb => rw [flips_ordersFor, flips_ordersFor]
  case orders =>
    obtain rfl : taken = taken' := by rw [← report.taken, alike, report'.taken]
    exact ⟨report.told.trans report'.told.symm, report.waited.trans (congrArg _ report'.waited.symm)⟩

/-! ## Failed posts -/

/-- `u` has waited for what `s` had scheduled, and is as `s` in everything else. -/
structure OnlyWaited (s u : Surface) : Prop where
  visible : u.visible = s.scheduled.or s.visible
  scheduled : u.scheduled = none
  flipsPending : u.flipsPending = false
  candidate : u.candidate = s.candidate
  needsModeSet : u.needsModeSet = s.needsModeSet
  area : u.area = s.area
  transform : u.transform = s.transform
  option : u.option = s.option
  outputs : u.outputs = s.outputs
  pipeline : u.pipeline = s.pipeline
  sleep : u.recommendedSleep = s.recommendedSleep

theorem onlyWaited_settle (s : Surface) (h : σ) : s.OnlyWaited (s.settle h).value := by
  have sleep := s.sleep_settle h
  obtain ⟨⟨t, value⟩, -⟩ := s.settle_settled h
  rw [value] at sleep ⊢
  exact ⟨rfl, rfl, rfl, rfl, rfl, rfl, rfl, rfl, rfl, rfl, sleep⟩

theorem OnlyWaited.caughtUp {s u : Surface} (waited : s.OnlyWaited u) : s.CaughtUp u := by
  obtain ⟨outputs, pipeline, area, transform, option, candidate, scheduled, visible, due, pending, timings⟩ := u
  obtain ⟨rfl, rfl, rfl, -, rfl, rfl, rfl, rfl, rfl, rfl, -⟩ := waited
  exact ⟨candidate, timings, rfl⟩

theorem post_failed {s : Surface} {h : σ} {e : PresentError} (failed : (s.post h).value.1 = .error e) :
    s.OnlyWaited (s.post h).value.2 ∧
      ∃ fetch, (s.post h).acts = s.settling ++ fetch ∧ Fetched s.pipeline (.error e) fetch := by
  have posted := s.post_posted h
  rw [failed] at posted
  refine ⟨?_, posted.fetch_of_error⟩
  rcases s.post_run h with ⟨e', -, value, -⟩ | ⟨frame, fb, h', -, value, -⟩
  · rw [value]
    exact s.onlyWaited_settle h
  · rw [value] at failed
    cases failed

/-- A post that fails has only waited: all that it obtained is gone again, and no output was asked to show anything. When
the next post gets the same frame as if the one that failed had never been made, it asks for the same flips. How the
outputs answer these belongs to the surroundings, and these are held fixed: mode-sets are compared where the flips are
taken alike. There the next post asks for the same mode-sets, too, and waits for the same but for what was waited for
already. -/
theorem failed_post_only_waits (s : Surface) (h : σ) (e : PresentError) (failed : (s.post h).value.1 = .error e) :
    let acts := (s.post h).acts
    let u := (s.post h).value.2
    asked acts = [] ∧ s.OnlyWaited u ∧
      (∃ fetch, acts = s.pendingPlaces.map .wait ++ (s.retired.map Frame.released ++ fetch) ∧
        Fetched s.pipeline (.error e) fetch ∧ InHand [] fetch []) ∧
      ∀ (rs : List Request) (h₁ h₂ : σ), .post ∉ rs →
        let without := s.serve rs h₁
        let after := u.serve rs h₂
        let next := without.value.post without.state
        let next' := after.value.post after.state
        without.value.candidate = after.value.candidate → fetches next.acts = fetches next'.acts →
          next.value.1.isOk = next'.value.1.isOk ∧
            (orders next.acts).filter Order.isFlip = (orders next'.acts).filter Order.isFlip ∧
            (next.acts.any Act.takesFlip = next'.acts.any Act.takesFlip →
              orders next.acts = orders next'.acts ∧ waitsIn next.acts = waitsIn acts ++ waitsIn next'.acts) := by
  intro acts u
  obtain ⟨waited, fetch, all, fetched⟩ := post_failed failed
  have posted := s.post_posted h
  rw [failed] at posted
  refine ⟨posted.asked_of_error, waited, ⟨fetch, ?_, fetched, fetched.inHand⟩, ?_⟩
  · exact all.trans (List.append_assoc ..)
  · intro rs h₁ h₂ others without after next next' candidate same
    obtain ⟨caught_up, pending⟩ := waited.caughtUp.serve h₁ h₂ others
    have waits : waitsIn acts = without.value.pendingPlaces.map .wait := by
      change waitsIn (s.post h).acts = (s.serve rs h₁).value.pendingPlaces.map .wait
      rw [pending, all, waitsIn_append, s.waitsIn_settling, fetched.reported.waited, List.append_nil]
    rw [waits]
    exact caught_up.same_orders candidate without.state after.state same

/-- Two outputs that have drawn a third frame, which can be locked or not. -/
def twoHeadsDrawn (jammed : Bool) : Rig :=
  { twoHeads true with swaps := 3, faults := ⟨false, false, jammed, false⟩ }

/-- The third frame cannot be locked at first, when the second one is scheduled. -/
theorem twoHeads_jammed : (create {} 2 twoHeadsView .normal (twoHeads true)).value = .ok twoHeadsSurface ∧
    ∃ s u, s = (twoHeadsSurface.serve [.swapBuffers, .post]
        (create {} 2 twoHeadsView .normal (twoHeads true)).state).value ∧ u = (s.post (twoHeadsDrawn true)).value.2 ∧
      s.flipsPending = true ∧ s.scheduled = some (.composite ⟨2, ⟨1920, 1080⟩⟩) ∧
      (s.post (twoHeadsDrawn true)).value.1 = .error (.noFrontBuffer "lock failed") ∧
      (s.post (twoHeadsDrawn true)).acts = [.wait 0, .wait 1, .release ⟨1, ⟨1920, 1080⟩⟩, .lock none] ∧
      u.flipsPending = false ∧ u.visible = some (.composite ⟨2, ⟨1920, 1080⟩⟩) ∧
      orders (u.post (twoHeadsDrawn false)).acts = [.flip 0 ⟨3⟩, .flip 1 ⟨3⟩] := by
  obtain ⟨s, made⟩ : ∃ s, s = (twoHeadsSurface.serve [.swapBuffers, .post]
    (create {} 2 twoHeadsView .normal (twoHeads true)).state).value := ⟨_, rfl⟩
  have failed : (s.post (twoHeadsDrawn true)).value.1 = .error (.noFrontBuffer "lock failed") := by
    rw [made]
    decide +kernel
  have scheduled : s.scheduled = some (.composite ⟨2, ⟨1920, 1080⟩⟩) := by
    rw [made]
    decide +kernel
  obtain ⟨-, waited, -, next⟩ := s.failed_post_only_waits (twoHeadsDrawn true) _ failed
  obtain ⟨-, -, same⟩ := next [] (twoHeadsDrawn false) (twoHeadsDrawn false) List.not_mem_nil waited.candidate.symm
    (by rw [made]; decide +kernel)
  refine ⟨rfl, s, _, made, rfl, ?pending, scheduled, failed, ?acts, waited.flipsPending, ?visible, ?orders⟩
  case visible => rw [waited.visible, scheduled, Option.some_or]
  case orders =>
    have told : orders (s.post (twoHeadsDrawn false)).acts = [.flip 0 ⟨3⟩, .flip 1 ⟨3⟩] := by
      rw [made]
      decide +kernel
    exact (same (by rw [made]; decide +kernel)).1.symm.trans told
  all_goals
    rw [made]
    decide +kernel

end Surface

end Multihead.Scanout
