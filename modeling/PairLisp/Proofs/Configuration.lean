import PairLisp.Proofs.Capitals
import PairLisp.Proofs.ListNotation
import PairLisp.Proofs.Literals
import PairLisp.Settings

/-!
# Settings are loaded in normal form

Loading either fails or gives settings that need no further care: the notation is one that there is, the
limit is positive, and whatever was trimmed or changed in case stays as it is when it is loaded again.
The route:

* what the variables say is stated without reference to loading: `MisnamesStyle` and `MisstatesLimit` for
  what is refused, `Follows` for what is given. Loading decides between them, the notation first
  (`load_cases`);
* settings that were loaded are `Normal` (`Follows.normal`): upper case is final, and an integer has no
  more digits than the literal that it was read from;
* normal settings can be written into the variables and are loaded from there as they were
  (`Normal.load_writtenOver`).
-/

namespace PairLisp

/-- There are two notations. -/
theorem Expr.Style.ofName?_eq_none_iff {name : String} :
    ofName? name = none ↔ name ≠ "dot" ∧ name ≠ "list" := by
  rw [ofName?, table, List.lookup_eq_none_iff]
  simp

/-- No white space stands in what is written for an integer. -/
theorem Text.trim_ofInt (n : Int) : trim (Numeral.ofInt n) = Numeral.ofInt n := by
  refine (trimmed_of_forall fun c hc => ?_).trim_eq
  rw [Numeral.ofInt, String.toList_ofList] at hc
  rcases List.mem_append.mp hc with hsign | hdigit
  · split at hsign
    · rw [List.mem_singleton.mp hsign]
      decide +kernel
    · cases hsign
  · have hrange := isDigit_iff.mp (Nat.isDigit_of_mem_toDigits (by decide) (by decide) hdigit)
    have hapart : ∀ span ∈ spaceSpans, span.2 < 48 ∨ 57 < span.1 := by decide
    refine Bool.eq_false_iff.mpr fun hspace => ?_
    obtain ⟨span, hspan, hfirst, hlast⟩ := inSpans_iff.mp hspace
    have := hapart span hspan
    omega

namespace Settings

/-! ## What the variables say -/

/-- The variables name a notation, and there is none of that name, whatever its case. -/
def MisnamesStyle (environ : String → Option String) : Prop :=
  ∃ value, environ "DOTLISP_NOTATION" = some value ∧
    Text.lower (Text.trim value) ≠ "dot" ∧ Text.lower (Text.trim value) ≠ "list"

/-- The text is an integer literal of a positive number, with no more digits than are converted. -/
def StatesLimit (text : String) (limit : Nat) : Prop :=
  0 < limit ∧
    ∃ l : Numeral.Literal, l.text = text ∧ l.width ≤ Numeral.digitLimit ∧ l.integer = limit

/-- The variables give a limit that is not blank, and it is no such literal. -/
def MisstatesLimit (environ : String → Option String) : Prop :=
  ∃ value, environ "DOTLISP_RECURSION_LIMIT" = some value ∧ Text.trim value ≠ "" ∧
    ∀ limit, ¬ StatesLimit (Text.trim value) limit

/-- The settings are what the variables say, and the default where they say nothing. -/
structure Follows (environ : String → Option String) (settings : Settings) : Prop where
  prompt : settings.prompt = (environ "DOTLISP_PROMPT").getD default.prompt
  errorMark : settings.errorMark = (environ "DOTLISP_ERROR_PREFIX").getD default.errorMark
  style : settings.style =
    ((environ "DOTLISP_NOTATION").map fun value => Text.lower (Text.trim value)).getD default.style
  limit (n : Nat) : settings.recursionLimit = some n ↔
    ∃ value, environ "DOTLISP_RECURSION_LIMIT" = some value ∧ StatesLimit (Text.trim value) n
  logLevel : settings.logLevel =
    ((environ "DOTLISP_LOG_LEVEL").map fun value => Text.upper (Text.trim value)).getD
      default.logLevel

/-! ## Loading one setting -/

theorem lower_trim_style : Text.lower (Text.trim default.style) = default.style := by
  decide +kernel

theorem upper_trim_logLevel : Text.upper (Text.trim default.logLevel) = default.logLevel := by
  decide +kernel

theorem trim_empty : Text.trim "" = "" := rfl

/-- The name of a notation is accepted in any case and with white space around it, and is given as the
    notation is called. -/
theorem loadStyle_cases (value : String) :
    let name := Text.lower (Text.trim value)
    (name ≠ "dot" ∧ name ≠ "list") ∧ loadStyle value = .error (.style name) ∨
      (name = "dot" ∨ name = "list") ∧ loadStyle value = .ok name := by
  intro name
  cases hname : Expr.Style.ofName? name with
  | none => exact .inl ⟨Expr.Style.ofName?_eq_none_iff.mp hname, by rw [loadStyle, hname]⟩
  | some style =>
      refine .inr ⟨?_, by rw [loadStyle, hname]⟩
      by_contra hnone
      rw [Expr.Style.ofName?_eq_none_iff.mpr (not_or.mp hnone)] at hname
      cases hname

/-- A limit is stated by a literal of a positive integer. -/
theorem statesLimit_iff {text : String} {limit : Nat} :
    StatesLimit text limit ↔ 0 < limit ∧ Numeral.ofLiteral? text = some (limit : Int) := by
  rw [StatesLimit, Numeral.ofLiteral?_eq_some_iff]

theorem not_statesLimit_empty (limit : Nat) : ¬ StatesLimit "" limit := by
  intro h
  cases (statesLimit_iff.mp h).2

/-- A text states at most one limit. -/
theorem StatesLimit.unique {text : String} {limit limit' : Nat} (h : StatesLimit text limit)
    (h' : StatesLimit text limit') : limit = limit' := by
  have hsame := (statesLimit_iff.mp h).2.symm.trans (statesLimit_iff.mp h').2
  exact Int.ofNat_inj.mp (Option.some_inj.mp hsame)

/-- A limit is refused if it is not blank and no literal of a positive number, and else given as that
    number, or as none. -/
theorem loadLimit_cases (value : String) :
    (Text.trim value ≠ "" ∧ ∀ n, ¬ StatesLimit (Text.trim value) n) ∧
        (∃ fault, loadLimit value = .error fault ∧ ∀ given, fault ≠ .style given) ∨
      (Text.trim value = "" ∨ ∃ n, StatesLimit (Text.trim value) n) ∧
        ∃ limit, loadLimit value = .ok limit ∧
          ∀ n, limit = some n ↔ StatesLimit (Text.trim value) n := by
  by_cases hblank : Text.trim value = ""
  · refine .inr ⟨.inl hblank, none, by rw [loadLimit, if_pos hblank], fun n => ?_⟩
    rw [hblank]
    exact iff_of_false (Option.some_ne_none n).symm (not_statesLimit_empty n)
  · cases hread : Numeral.ofLiteral? (Text.trim value) with
    | none =>
        refine .inl ⟨⟨hblank, fun n hn => ?_⟩, .limitNotInteger (Text.trim value), ?_, ?_⟩
        · rw [statesLimit_iff, hread] at hn
          cases hn.2
        · rw [loadLimit, if_neg hblank, hread]
        · intro given heq
          cases heq
    | some m =>
        by_cases hpos : 0 < m
        · have hstates : StatesLimit (Text.trim value) m.toNat :=
            statesLimit_iff.mpr ⟨by omega, by rw [hread, Int.toNat_of_nonneg hpos.le]⟩
          refine .inr ⟨.inr ⟨m.toNat, hstates⟩, some m.toNat, ?_, fun n => ?_⟩
          · rw [loadLimit, if_neg hblank, hread]
            exact if_pos hpos
          · rw [Option.some_inj]
            exact ⟨fun heq => heq ▸ hstates, hstates.unique⟩
        · refine .inl ⟨⟨hblank, fun n hn => ?_⟩, .limitNotPositive m, ?_, ?_⟩
          · obtain ⟨hn, hsame⟩ := statesLimit_iff.mp hn
            have hm : m = (n : Int) := Option.some_inj.mp (hread.symm.trans hsame)
            omega
          · rw [loadLimit, if_neg hblank, hread]
            exact if_neg hpos
          · intro given heq
            cases heq

/-! ## Loading all of them -/

variable {environ : String → Option String} {settings : Settings}

/-- A notation that is not named is that of the default, which is known. -/
theorem misnamesStyle_iff :
    MisnamesStyle environ ↔
      Text.lower (Text.trim ((environ "DOTLISP_NOTATION").getD default.style)) ≠ "dot" ∧
        Text.lower (Text.trim ((environ "DOTLISP_NOTATION").getD default.style)) ≠ "list" := by
  rw [MisnamesStyle]
  cases environ "DOTLISP_NOTATION" with
  | none =>
      rw [Option.getD_none, lower_trim_style]
      simp [default]
  | some value => simp

/-- A limit that is not given is blank. -/
theorem misstatesLimit_iff :
    MisstatesLimit environ ↔
      Text.trim ((environ "DOTLISP_RECURSION_LIMIT").getD "") ≠ "" ∧
        ∀ n, ¬ StatesLimit (Text.trim ((environ "DOTLISP_RECURSION_LIMIT").getD "")) n := by
  rw [MisstatesLimit]
  cases environ "DOTLISP_RECURSION_LIMIT" with
  | none => simp [trim_empty]
  | some value => simp

/-- A variable that is not set states no more than one that is empty. -/
theorem exists_limit_iff {n : Nat} :
    (∃ value, environ "DOTLISP_RECURSION_LIMIT" = some value ∧ StatesLimit (Text.trim value) n) ↔
      StatesLimit (Text.trim ((environ "DOTLISP_RECURSION_LIMIT").getD "")) n := by
  cases environ "DOTLISP_RECURSION_LIMIT" with
  | none => simp [trim_empty, not_statesLimit_empty]
  | some value => simp

/-- **Loading ends in one of three ways.** An unknown notation is refused whatever the limit is, a limit
    that is none is refused next, and else the settings are what the variables say. -/
theorem load_cases (environ : String → Option String) :
    MisnamesStyle environ ∧ (∃ given, load environ = .error (.style given)) ∨
      ¬ MisnamesStyle environ ∧ MisstatesLimit environ ∧
        (∃ fault, load environ = .error fault ∧ ∀ given, fault ≠ .style given) ∨
      ¬ MisnamesStyle environ ∧ ¬ MisstatesLimit environ ∧
        ∃ settings, load environ = .ok settings ∧ Follows environ settings := by
  rw [misnamesStyle_iff, misstatesLimit_iff]
  rcases loadStyle_cases ((environ "DOTLISP_NOTATION").getD default.style) with
    ⟨hunknown, hstyle⟩ | ⟨hknown, hstyle⟩
  · exact .inl ⟨hunknown, _, by rw [load, hstyle]; rfl⟩
  · right
    have hnamed := not_and_or.mpr (hknown.imp not_not_intro not_not_intro)
    rcases loadLimit_cases ((environ "DOTLISP_RECURSION_LIMIT").getD "") with
      ⟨hmisstated, fault, hlimit, hfault⟩ | ⟨hstated, limit, hlimit, hstates⟩
    · exact .inl ⟨hnamed, hmisstated, fault, by rw [load, hstyle, hlimit]; rfl, hfault⟩
    · have hlimited := not_and_or.mpr (hstated.imp not_not_intro fun h => not_forall_not.mpr h)
      refine .inr ⟨hnamed, hlimited, _, by rw [load, hstyle, hlimit]; rfl, ?_⟩
      exact {
        prompt := rfl
        errorMark := rfl
        style := by rw [← lower_trim_style, Option.getD_map, lower_trim_style]
        limit := fun n => (hstates n).trans exists_limit_iff.symm
        logLevel := by rw [← upper_trim_logLevel, Option.getD_map, upper_trim_logLevel]; rfl }

/-! ## Loading again -/

/-- Nothing is left for loading to change: the notation has the name it is known by, the limit is
    positive and short enough to be read, and the level is trimmed and in upper case. -/
structure Normal (settings : Settings) : Prop where
  style : settings.style = "dot" ∨ settings.style = "list"
  limit {n : Nat} (h : settings.recursionLimit = some n) : 0 < n ∧ n < 10 ^ Numeral.digitLimit
  logLevel : Text.trim settings.logLevel = settings.logLevel ∧
    Text.upper settings.logLevel = settings.logLevel

/-- Settings that follow the environment are normal, unless it misnames a notation. -/
theorem Follows.normal (h : Follows environ settings) (hstyle : ¬ MisnamesStyle environ) :
    settings.Normal where
  style := by
    rw [h.style, ← lower_trim_style, Option.getD_map]
    rw [misnamesStyle_iff, not_and_or, not_not, not_not] at hstyle
    exact hstyle
  limit {n} hn := by
    obtain ⟨value, -, hpos, l, -, hwidth, hinteger⟩ := (h.limit n).mp hn
    have hlt := Numeral.Literal.natAbs_integer_lt hwidth
    rw [hinteger, Int.natAbs_natCast] at hlt
    exact ⟨hpos, hlt⟩
  logLevel := by
    rw [h.logLevel, ← upper_trim_logLevel, Option.getD_map]
    exact ⟨(Text.trimmed_trim _).upper.trim_eq, Text.upper_upper _⟩

/-- The notation is known, and every expression without blanks has a text in it. -/
theorem Normal.exists_render (h : settings.Normal) (e : Expr) :
    ∃ written, Expr.render settings.style e = .ok written ∧
      (e.ComposedOf (fun _ => True) False → ∃ text, written = .ok text) := by
  rcases h.style with heq | heq
  · exact ⟨.ok e.dotText, by rw [heq]; rfl, fun _ => ⟨e.dotText, rfl⟩⟩
  · exact ⟨e.listing, by rw [heq]; rfl, fun he => ⟨_, Expr.listing_eq_ok (he.listable id)⟩⟩

/-- The settings in the variables, in front of whatever others there are: the limit in decimal, or not
    set if there is none, and all else as it is. -/
def writtenOver (settings : Settings) (others : String → Option String) (name : String) :
    Option String :=
  if name = "DOTLISP_PROMPT" then some settings.prompt
  else if name = "DOTLISP_ERROR_PREFIX" then some settings.errorMark
  else if name = "DOTLISP_NOTATION" then some settings.style
  else if name = "DOTLISP_RECURSION_LIMIT" then
    settings.recursionLimit.map fun limit => Numeral.ofInt limit
  else if name = "DOTLISP_LOG_LEVEL" then some settings.logLevel
  else others name

/-- Loading the notation of normal settings gives it back. -/
theorem Normal.loadStyle_eq (h : settings.Normal) :
    loadStyle settings.style = .ok settings.style := by
  rcases h.style with heq | heq
  · rw [heq]
    decide +kernel
  · rw [heq]
    decide +kernel

/-- Loading the limit of normal settings, written out, gives it back. -/
theorem Normal.loadLimit_eq (h : settings.Normal) :
    loadLimit ((settings.recursionLimit.map fun limit => Numeral.ofInt limit).getD "") =
      .ok settings.recursionLimit := by
  cases hlimit : settings.recursionLimit with
  | none => rfl
  | some n =>
      obtain ⟨hpos, hlt⟩ := h.limit hlimit
      have hread : Numeral.ofLiteral? (Numeral.ofInt n) = some (n : Int) :=
        Numeral.ofLiteral?_ofInt (by rwa [Int.natAbs_natCast])
      have hstates : StatesLimit (Text.trim (Numeral.ofInt n)) n := by
        rw [Text.trim_ofInt]
        exact statesLimit_iff.mpr ⟨hpos, hread⟩
      -- it is a literal of the limit, so it cannot be refused, nor be another one
      show loadLimit (Numeral.ofInt n) = .ok (some n)
      rcases loadLimit_cases (Numeral.ofInt n) with ⟨⟨-, hnone⟩, -⟩ | ⟨-, limit, hload, hlimit⟩
      · exact absurd hstates (hnone n)
      · rw [hload, (hlimit n).mpr hstates]

/-- Loading the log level of normal settings gives it back. -/
theorem Normal.loadLevel_eq (h : settings.Normal) :
    loadLevel settings.logLevel = settings.logLevel := by
  rw [loadLevel, h.logLevel.1, h.logLevel.2]

/-- **Normal settings can be written down and loaded again.** -/
theorem Normal.load_writtenOver (h : settings.Normal) (others : String → Option String) :
    load (settings.writtenOver others) = .ok settings := by
  simp only [load, writtenOver, String.reduceEq, if_true, if_false, Option.getD_some, h.loadStyle_eq,
    h.loadLimit_eq, h.loadLevel_eq]
  rfl

/-- **Loading gives valid settings in normal form, or fails for a reason that can be told from the
    variables.** It fails exactly if the notation is set and is not known, or the limit is set, is not
    blank and is no literal of a positive number with at most as many digits as are converted, and then
    the notation is complained of first. What is loaded is what the variables say: the notation is a
    known one, in which every expression without blanks has a text, the limit is positive if there is
    one, and from the settings written into any variables the same settings are loaded. -/
theorem load_gives_normal_settings_or_fails (environ : String → Option String) :
    ((∃ fault, load environ = .error fault) ↔ MisnamesStyle environ ∨ MisstatesLimit environ) ∧
      ((∃ given, load environ = .error (.style given)) ↔ MisnamesStyle environ) ∧
      ∀ settings, load environ = .ok settings →
        Follows environ settings ∧
          (∀ e, ∃ written, Expr.render settings.style e = .ok written ∧
            (e.ComposedOf (fun _ => True) False → ∃ text, written = .ok text)) ∧
          (∀ n, settings.recursionLimit = some n → 0 < n) ∧
          ∀ others, load (settings.writtenOver others) = .ok settings := by
  rcases load_cases environ with ⟨hstyle, given, hload⟩ | ⟨hstyle, hlimit, fault, hload, hfault⟩ |
    ⟨hstyle, hlimit, loaded, hload, hfollows⟩
  · refine ⟨iff_of_true ⟨_, hload⟩ (.inl hstyle), iff_of_true ⟨given, hload⟩ hstyle, ?_⟩
    intro settings hok
    cases hload.symm.trans hok
  · refine ⟨iff_of_true ⟨_, hload⟩ (.inr hlimit), iff_of_false ?_ hstyle, ?_⟩
    · rintro ⟨given, herror⟩
      exact hfault given (Except.error.inj (hload.symm.trans herror))
    · intro settings hok
      cases hload.symm.trans hok
  · have hnormal := hfollows.normal hstyle
    refine ⟨iff_of_false ?_ (not_or.mpr ⟨hstyle, hlimit⟩), iff_of_false ?_ hstyle, ?_⟩
    · rintro ⟨fault, herror⟩
      cases hload.symm.trans herror
    · rintro ⟨given, herror⟩
      cases hload.symm.trans herror
    · intro settings hok
      obtain rfl : loaded = settings := Except.ok.inj (hload.symm.trans hok)
      exact ⟨hfollows, hnormal.exists_render, fun n hn => (hnormal.limit hn).1,
        hnormal.load_writtenOver⟩

/-- Digits of two scripts, and a letter whose upper case is two letters. -/
theorem load_gives_normal_settings_or_fails_two_scripts :
    let environ (name : String) := [("DOTLISP_NOTATION", " List\t"),
      ("DOTLISP_RECURSION_LIMIT", "+1_٠٥"), ("DOTLISP_LOG_LEVEL", "\u2003straße ")].lookup name
    let settings : Settings := ⟨">>> ", "**ERR** ", "list", some 105, "STRASSE"⟩
    load environ = .ok settings ∧ Follows environ settings ∧
      load (settings.writtenOver fun _ => none) = .ok settings := by
  intro environ settings
  have hload : load environ = .ok settings := by decide +kernel
  obtain ⟨hfollows, -, -, hagain⟩ := (load_gives_normal_settings_or_fails environ).2.2 settings hload
  exact ⟨hload, hfollows, hagain _⟩

end Settings
end PairLisp
