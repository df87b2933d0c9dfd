import Mathlib.Algebra.Group.Nat.Defs
import Multihead.Proofs.Text.Trimming
import Multihead.Settings.Location

/-! # The settings in effect
They are those of the first place where there is anything, or the defaults, with what the environment says over them.
What the environment can say is told by the spelling of its variables. -/

set_option autoImplicit false

namespace Multihead

/-! ## Variables -/

namespace Environment

/-- One of the words for yes, in large or small letters, between blanks. -/
def SaysYes (value : String) : Prop :=
  ∃ word, Text.Between value.toList word ∧ String.ofList (word.map Char.toLower) ∈ yesWords

/-- A number in decimal digits, perhaps with a plus sign, between blanks. -/
def Spells (value : String) (n : Nat) : Prop :=
  ∃ plus digits, Text.Between value.toList (plus ++ digits) ∧ (plus = [] ∨ plus = ['+']) ∧ digits ≠ [] ∧
    (∀ c ∈ digits, Text.isAsciiDigit c = true) ∧ Nat.ofDigitChars 10 digits 0 = n

theorem small_eq_toLower (c : Char) : small c = c.toLower := by
  unfold small Char.toLower
  by_cases capital : 'A' ≤ c ∧ c ≤ 'Z'
  · have high : c.toNat ≤ 90 := capital.2
    have valid : (c.toNat + 32).isValidChar := Or.inl (by omega)
    have capital' : c.val ≥ 'A'.val ∧ c.val ≤ 'Z'.val := capital
    rw [if_pos capital, dif_pos capital']
    refine Char.ext (UInt32.toNat.inj ?_)
    calc (Char.ofNat (c.toNat + 32)).toNat = c.toNat + 32 := by rw [Char.ofNat, dif_pos valid]; rfl
      _ = (c.toNat + 32) % 2 ^ 32 := by omega
      _ = (c.val + 32).toNat := (UInt32.toNat_add c.val 32).symm
  · have other : ¬(c.val ≥ 'A'.val ∧ c.val ≤ 'Z'.val) := capital
    rw [if_neg capital, dif_neg other]

/-- No blank is a capital letter, and none is in a word for yes. -/
theorem not_isBlank_of_isYes {word : List Char} (yes : String.ofList (word.map small) ∈ yesWords) :
    ∀ c ∈ word, Text.isBlank c = false := by
  intro c hc
  have plain : (yesWords.all fun w => w.toList.all fun c => !Text.isBlank c) = true := by decide
  have mapped : Text.isBlank (small c) = false := by
    have all := List.all_eq_true.1 plain _ yes
    rw [String.toList_ofList] at all
    simpa using List.all_eq_true.1 all (small c) (List.mem_map_of_mem hc)
  unfold small at mapped
  split at mapped
  · next capital =>
    have low : 'A'.toNat ≤ c.toNat := capital.1
    have high : c.toNat ≤ 'Z'.toNat := capital.2
    have first : 'A'.toNat = 65 := rfl
    have last : 'Z'.toNat = 90 := rfl
    simp only [Text.isBlank, Text.blankRanges, List.any_cons, List.any_nil, Bool.or_false, Bool.or_eq_false_iff,
      Bool.and_eq_false_iff, decide_eq_false_iff_not]
    omega
  · exact mapped

theorem isYes_iff (value : String) : isYes value = true ↔ SaysYes value := by
  have same : small = Char.toLower := funext small_eq_toLower
  rw [isYes, List.contains_iff_mem, SaysYes, ← same]
  constructor
  · intro yes
    exact ⟨Text.trim value.toList, Text.between_trim value.toList, yes⟩
  · rintro ⟨word, between, yes⟩
    rwa [Text.trim_of_between between (not_isBlank_of_isYes yes)]

theorem unsigned?_eq_some_iff {cs : List Char} {n : UInt64} :
    unsigned? cs = some n ↔ cs ≠ [] ∧ (∀ c ∈ cs, Text.isAsciiDigit c = true) ∧ Nat.ofDigitChars 10 cs 0 = n.toNat := by
  have value : decimal cs = Nat.ofDigitChars 10 cs 0 := rfl
  simp only [unsigned?, value, Option.ite_none_right_eq_some, Option.some.injEq, Bool.and_eq_true, Bool.not_eq_true',
    List.isEmpty_eq_false_iff, List.all_eq_true, decide_eq_true_eq]
  constructor
  · rintro ⟨⟨⟨nonempty, digits⟩, small⟩, rfl⟩
    exact ⟨nonempty, digits, (UInt64.toNat_ofNat_of_lt small).symm⟩
  · rintro ⟨nonempty, digits, same⟩
    rw [same]
    exact ⟨⟨⟨nonempty, digits⟩, n.toNat_lt⟩, UInt64.ofNat_toNat⟩

def withoutPlus : List Char → List Char
  | '+' :: cs => cs
  | cs => cs

theorem millis?_eq (value : String) :
    millis? value = (unsigned? (withoutPlus (Text.trim value.toList))).map Duration.ofMillis := rfl

theorem exists_plus (cs : List Char) : ∃ plus, (plus = [] ∨ plus = ['+']) ∧ cs = plus ++ withoutPlus cs := by
  unfold withoutPlus
  split
  · exact ⟨['+'], Or.inr rfl, rfl⟩
  · exact ⟨[], Or.inl rfl, rfl⟩

theorem withoutPlus_append {plus digits : List Char} (unsigned : plus = [] ∨ plus = ['+'])
    (all : ∀ c ∈ digits, Text.isAsciiDigit c = true) : withoutPlus (plus ++ digits) = digits := by
  obtain rfl | rfl := unsigned
  · rw [List.nil_append]
    unfold withoutPlus
    split
    · exact absurd (all '+' (by simp)) (by decide)
    · rfl
  · rfl

theorem millis?_eq_some_iff (value : String) (d : Duration) :
    millis? value = some d ↔ ∃ n : UInt64, Spells value n.toNat ∧ d = .ofMillis n := by
  rw [millis?_eq]
  constructor
  · intro h
    obtain ⟨n, read, rfl⟩ := Option.map_eq_some_iff.1 h
    obtain ⟨plus, unsigned, parts⟩ := exists_plus (Text.trim value.toList)
    have between := Text.between_trim value.toList
    rw [parts] at between
    exact ⟨n, ⟨plus, _, between, unsigned, unsigned?_eq_some_iff.1 read⟩, rfl⟩
  · rintro ⟨n, ⟨plus, digits, between, unsigned, number⟩, rfl⟩
    have solid : ∀ c ∈ plus ++ digits, Text.isBlank c = false := by
      intro c hc
      obtain hc | hc := List.mem_append.1 hc
      · obtain rfl | rfl := unsigned
        · cases hc
        · obtain rfl := List.mem_singleton.1 hc
          decide
      · exact Text.not_isBlank_of_isAsciiDigit (number.2.1 c hc)
    rw [Text.trim_of_between between solid, withoutPlus_append unsigned number.2.1,
      unsigned?_eq_some_iff.2 number]
    rfl

end Environment

/-! ## Files -/

namespace Host

variable {File : Type} {h : Host File}

/-- The settings that something at a path holds: what cannot be opened or read holds the defaults. -/
inductive Holds (h : Host File) : Entry File → Settings → Prop
  | read {f s} (parsed : h.read f = some s) : Holds h (.file f) s
  | malformed {f} (unparsed : h.read f = none) : Holds h (.file f) {}
  | closed : Holds h .closed {}

/-- The first path where there is anything decides; where there is nothing at all it is the defaults. -/
inductive Decides (h : Host File) (paths : List String) : Settings → Prop
  | first {before path after s} (order : paths = before ++ path :: after)
    (missing : ∀ p ∈ before, h.look p = .nothing) (there : h.Holds (h.look path) s) : Decides h paths s
  | nowhere (missing : ∀ p ∈ paths, h.look p = .nothing) : Decides h paths {}

/-- The paths that are tried: two in the user's directory, if there is one, and then the one for all users. -/
def searched (h : Host File) : List String :=
  (h.user.toList.flatMap fun inside => [inside "cosmic-mux.ron", inside "cosmic-mux/config.ron"]) ++
    ["/etc/cosmic-mux/config.ron"]

theorem locations_eq (h : Host File) : h.locations = h.searched := by
  unfold locations searched
  cases h.user <;> rfl

section Files
variable {before after paths : List String} {path : String} {s : Settings}

theorem isThere_iff (e : Entry File) : e.isThere = true ↔ e ≠ .nothing := by
  cases e <;> simp [Entry.isThere]

theorem holds_iff (e : Entry File) : h.Holds e s ↔ e ≠ .nothing ∧ e.settings h.read = s := by
  constructor
  · intro holds
    cases holds with
    | read parsed => exact ⟨nofun, by rw [Entry.settings, parsed]; rfl⟩
    | malformed unparsed => exact ⟨nofun, by rw [Entry.settings, unparsed]; rfl⟩
    | closed => exact ⟨nofun, rfl⟩
  · rintro ⟨there, rfl⟩
    cases e with
    | nothing => exact absurd rfl there
    | closed => exact .closed
    | file f =>
      rw [Entry.settings]
      cases parsed : h.read f with
      | none => exact .malformed parsed
      | some s => exact .read parsed

theorem firstOf_append (missing : ∀ p ∈ before, h.look p = .nothing) (after : List String) :
    h.firstOf (before ++ after) = h.firstOf after := by
  induction before with
  | nil => rfl
  | cons p before ih =>
    have absent : ¬(h.look p).isThere = true := by
      rw [missing p (by simp)]
      exact Bool.false_ne_true
    rw [List.cons_append, firstOf, if_neg absent, ih fun q hq => missing q (by simp [hq])]

theorem decides_firstOf (h : Host File) (paths : List String) : h.Decides paths (h.firstOf paths) := by
  induction paths with
  | nil => exact .nowhere (by simp)
  | cons p paths ih =>
    rw [firstOf]
    split
    · next something =>
      exact .first (congrArg (p :: ·) (List.nil_append paths).symm) (List.forall_mem_nil _)
        ((holds_iff _).2 ⟨(isThere_iff _).1 something, rfl⟩)
    · next absent =>
      have missing : h.look p = .nothing := not_not.1 (mt (isThere_iff _).2 absent)
      generalize h.firstOf paths = s at ih ⊢
      cases ih with
      | first order earlier there =>
        exact .first (congrArg (p :: ·) order) (List.forall_mem_cons.2 ⟨missing, earlier⟩) there
      | nowhere nothing => exact .nowhere (List.forall_mem_cons.2 ⟨missing, nothing⟩)

theorem decides_iff : h.Decides paths s ↔ s = h.firstOf paths := by
  constructor
  · intro decides
    cases decides with
    | first order missing there =>
      obtain ⟨something, rfl⟩ := (holds_iff _).1 there
      rw [order, firstOf_append missing, firstOf, if_pos ((isThere_iff _).2 something), config]
    | nowhere missing =>
      have := firstOf_append missing []
      rw [List.append_nil] at this
      exact this.symm
  · rintro rfl
    exact decides_firstOf h paths

/-- What stands behind the first path where there is anything does not matter. -/
theorem firstOf_congr {h' : Host File} (reads : h'.read = h.read) (something : h.look path ≠ .nothing)
    (same : ∀ p ∈ before ++ [path], h'.look p = h.look p) :
    h'.firstOf (before ++ path :: after) = h.firstOf (before ++ path :: after) := by
  have config_congr (p : String) (hp : p ∈ before ++ [path]) : h'.config (some p) = h.config (some p) := by
    rw [config, config, same p hp, reads]
  induction before with
  | nil =>
    have there := (isThere_iff _).2 something
    have here : path ∈ [] ++ [path] := List.mem_singleton.2 rfl
    rw [List.nil_append, firstOf, firstOf, same path here, if_pos there, if_pos there, config_congr path here]
  | cons p before ih =>
    rw [List.cons_append, firstOf, firstOf, same p (by simp), config_congr p (by simp),
      ih (fun q hq => same q (List.mem_cons_of_mem p hq)) fun q hq => config_congr q (List.mem_cons_of_mem p hq)]

end Files

end Host

/-! ## Overrides -/

namespace Settings

/-- A budget, and the duration that is reported for it, where a variable may say another one than the file. -/
structure Overridden (said : Option String) (file budget : UInt64) (reported : Duration) : Prop where
  given : ∀ value n, said = some value → Environment.Spells value n → n < 2 ^ 64 → budget.toNat = n
  kept : (¬∃ value n, said = some value ∧ Environment.Spells value n ∧ n < 2 ^ 64) → budget = file
  reports : reported.nanos = budget.toNat * 1000000

theorem overridden (said : Option String) (file : UInt64) :
    Overridden said file (Overrides.budget (said.bind Environment.millis?) file)
      (.ofMillis (Overrides.budget (said.bind Environment.millis?) file)) where
  given := by
    rintro value n rfl spelled fits
    have spelled' : Environment.Spells value (UInt64.ofNat n).toNat := by rwa [UInt64.toNat_ofNat_of_lt' fits]
    have read := (Environment.millis?_eq_some_iff value _).2 ⟨UInt64.ofNat n, spelled', rfl⟩
    rw [Option.bind_some, read, Overrides.budget, Duration.millis_ofMillis, UInt64.ofNat_toNat,
      UInt64.toNat_ofNat_of_lt' fits]
  kept := by
    intro unspelled
    have unread : said.bind Environment.millis? = none := by
      refine Option.eq_none_iff_forall_ne_some.2 fun d h => unspelled ?_
      obtain ⟨value, rfl, read⟩ := Option.bind_eq_some_iff.1 h
      obtain ⟨n, spelled, -⟩ := (Environment.millis?_eq_some_iff value d).1 read
      exact ⟨value, n.toNat, rfl, spelled, n.toNat_lt⟩
    rw [unread]
    rfl
  reports := rfl

/-- The switch can only turn direct scan-out off. -/
theorem bypass_apply (env : Environment) (s : Settings) :
    ((Overrides.ofEnvironment env).apply s).bypass = .prohibited ↔ s.bypass = .prohibited ∨
      ∃ value, env "COSMIC_DISABLE_DIRECT_SCANOUT" = some value ∧ Environment.SaysYes value := by
  have asked : (Overrides.ofEnvironment env).disableDirectScanout = some true ↔
      ∃ value, env "COSMIC_DISABLE_DIRECT_SCANOUT" = some value ∧ Environment.SaysYes value := by
    simp only [Overrides.ofEnvironment, Option.map_eq_some_iff, Environment.isYes_iff]
  rw [Overrides.apply, ← asked]
  by_cases off : (Overrides.ofEnvironment env).disableDirectScanout = some true <;> simp [off]

/-- The settings in effect are those of the first place where there is anything, or the defaults, and each variable
that says something takes precedence over one of them. -/
theorem settings_in_effect {File : Type} (h : Host File) (env : Environment) :
    ∃ file, (∀ s, h.Decides h.searched s ↔ s = file) ∧
      (∀ before path after (look : String → Entry File), h.searched = before ++ path :: after →
        h.look path ≠ .nothing → (∀ p ∈ before ++ [path], look p = h.look p) →
          load { h with look } env = load h env) ∧
      ((load h env).bypass = .prohibited ↔ file.bypass = .prohibited ∨
        ∃ value, env "COSMIC_DISABLE_DIRECT_SCANOUT" = some value ∧ Environment.SaysYes value) ∧
      (load h env).initialLayout = file.initialLayout ∧
      Overridden (env "COSMIC_COMPOSITE_RENDER_BUDGET_MS") file.compositeBudget (load h env).compositeBudget
        (load h env).compositeDuration ∧
      Overridden (env "COSMIC_BYPASS_RENDER_BUDGET_MS") file.bypassBudget (load h env).bypassBudget
        (load h env).bypassDuration := by
  rw [← h.locations_eq]
  refine ⟨h.firstOf h.locations, fun s => Host.decides_iff, ?_, ?_, rfl, overridden _ _, overridden _ _⟩
  · intro before path after look order something same
    have searched : { h with look }.locations = h.locations := rfl
    rw [load, load, searched, order]
    exact congrArg _ (Host.firstOf_congr rfl something same)
  · exact bypass_apply env _

/-- A file that is not closed in the first place, and one that is well formed in the last. -/
def shadowing : Host String where
  user := some ("/home/.config/" ++ ·)
  look
    | "/home/.config/cosmic-mux.ron" => .file "(bypass: Prohibited"
    | "/etc/cosmic-mux/config.ron" => .file "(initial_layout: Clone)"
    | _ => .nothing
  read
    | "(initial_layout: Clone)" => some { initialLayout := .clone }
    | _ => none

def twoVariables : Environment
  | "COSMIC_DISABLE_DIRECT_SCANOUT" => some " Yes"
  | "COSMIC_BYPASS_RENDER_BUDGET_MS" => some " +07\t"
  | _ => none

theorem shadowed_settings :
    (load shadowing twoVariables).initialLayout = .sideBySide ∧ (load shadowing twoVariables).bypass = .prohibited ∧
    (load shadowing twoVariables).compositeBudget = 50 ∧ (load shadowing twoVariables).bypassDuration.nanos = 7000000 := by
  obtain ⟨file, decides, -, bypass, layout, composite, budget⟩ := settings_in_effect shadowing twoVariables
  have order : shadowing.searched =
      [] ++ "/home/.config/cosmic-mux.ron" :: ["/home/.config/cosmic-mux/config.ron", "/etc/cosmic-mux/config.ron"] := by
    decide
  have first : shadowing.Holds (shadowing.look "/home/.config/cosmic-mux.ron") {} := .malformed rfl
  obtain rfl := (decides {}).1 (.first order (List.forall_mem_nil _) first)
  have yes : Environment.SaysYes " Yes" :=
    ⟨['Y', 'e', 's'], ⟨[' '], [], by decide, List.all_eq_true.1 (by decide), List.forall_mem_nil _⟩, by decide⟩
  have seven : Environment.Spells " +07\t" 7 :=
    ⟨['+'], ['0', '7'], ⟨[' '], ['\t'], by decide, List.all_eq_true.1 (by decide), List.all_eq_true.1 (by decide)⟩,
      Or.inr rfl, by decide, List.all_eq_true.1 (by decide), rfl⟩
  refine ⟨layout, bypass.2 (Or.inr ⟨" Yes", by decide, yes⟩), composite.kept ?_, ?_⟩
  · rintro ⟨value, n, said, -⟩
    exact absurd said (by simp [twoVariables])
  · rw [budget.reports, budget.given " +07\t" 7 (by decide) seven (by decide)]

end Settings

end Multihead
