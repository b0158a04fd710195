import PairLisp.CommandLine.Run
import PairLisp.Proofs.Cutting
import PairLisp.Proofs.Drivers

/-!
# Inputs one after the other

Nothing but the session survives from one input to the next, so two texts can be run one after the
other or as one text with a line end between them. This holds after any mixture of errors in the first
text, as long as it does not end within a list: the reader starts anew behind each error. The route:

* behind tokens that leave no list open, the reader goes on as at the start (`segments_append`);
* the loop over two parts is the loop over the first one and then over the second one in the session
  that it left, unless a failure ends it in the first one (`runSegments_append`);
* the line end is a blank, so the tokens of the whole text are those of its parts (`lex_append_newline`),
  also in a file with other line ends;
* the command runs its files in turn, so by induction on the files it writes what it writes for one
  file with all their texts (`runFiles_sameEffect`).
-/

namespace PairLisp

open Token

/-! ## Open lists -/

namespace Reader

/-- Whether what was read ends with an error at the end of input: a list was left open. -/
def leftOpen (segments : List (Except ReadError Expr)) : Bool :=
  match segments.getLast? with
  | some (.error cause) => cause.atEnd
  | _ => false

theorem leftOpen_of_cons {segment : Except ReadError Expr} {segments : List (Except ReadError Expr)}
    (h : leftOpen (segment :: segments) = false) : leftOpen segments = false := by
  cases segments with
  | nil => rfl
  | cons next rest =>
      rw [leftOpen, List.getLast?_cons_cons] at h
      exact h

/-- **Behind tokens that leave no list open, the reader goes on as at the start.** -/
theorem segments_append {state : State} {tokens : List Token}
    (h : leftOpen (segments state tokens) = false) (later : List Token) :
    segments state (tokens ++ later) = segments state tokens ++ segments .start later := by
  induction tokens generalizing state with
  | nil =>
      -- in every state but the first one, the end of input would be an error
      rcases state with (_ | ⟨_ | _, _⟩) | ⟨_, _, _⟩
      · rfl
      · cases (h : true = false)
      · cases (h : true = false)
      · cases (h : true = false)
  | cons t tokens ih =>
      rw [segments] at h
      rw [List.cons_append, segments, segments]
      cases hstep : step state t with
      | more next =>
          rw [hstep] at h
          exact ih h
      | value e =>
          rw [hstep] at h
          exact congrArg (.ok e :: ·) (ih (leftOpen_of_cons h))
      | refused cause =>
          rw [hstep] at h
          exact congrArg (.error cause :: ·) (ih (leftOpen_of_cons h))

end Reader

/-- Whether the last reading of a source finds a list open at the end of input. -/
def Source.leavesOpen (source : Source) : Bool :=
  Reader.leftOpen ((TokenStream.ofSource source).readings.map Prod.snd)

/-! ## The loop over two parts -/

namespace ReadLoop

/-- A run in two parts: the second one follows the first, unless a failure has ended that one. -/
structure Transcript.InTwoParts (before after whole : Transcript) : Prop where
  going : before.failure? = none → after.Follows before.output whole
  ended : ∀ cause, before.failure? = some cause → before.Follows "" whole

/-- The same line in front of two transcripts that have written the same. -/
theorem Transcript.Follows.cons {t other t' other' : Transcript} {line : String}
    (h : t.Follows "" other) (ht : t.Follows line t') (hother : other.Follows line other') :
    t'.Follows "" other' := by
  refine ⟨?_, ?_, ?_⟩
  · rw [hother.output, h.output, ht.output, String.empty_append, String.empty_append]
  · rw [hother.session, h.session, ht.session]
  · rw [hother.failure, h.failure, ht.failure]

/-- A line in front of the first part is in front of the whole. -/
theorem Transcript.InTwoParts.cons {before after whole before' whole' : Transcript} {line : String}
    (h : before.InTwoParts after whole) (hbefore : before.Follows line before')
    (hwhole : whole.Follows line whole') : before'.InTwoParts after whole' := by
  constructor
  · intro hnone
    rw [hbefore.failure] at hnone
    rw [hbefore.output]
    exact (h.going hnone).trans hwhole
  · intro cause hcause
    rw [hbefore.failure] at hcause
    exact (h.ended cause hcause).cons hbefore hwhole

variable (settings : Settings)

/-- The number of forms dealt with before makes no difference to what is written. -/
theorem follows_of_count (session : Session) (segments : List (Except ReadError Expr))
    (count other : Nat) :
    (runSegments settings false session count segments).Follows ""
      (runSegments settings false session other segments) := by
  refine TokenStream.driveAll_rel
    (fun position position' : Position => position.session = position'.session)
    (fun transcript transcript' : Transcript => transcript.Follows "" transcript') ?_ ?_ rfl
  · rintro ⟨session, count⟩ ⟨_, other⟩ rfl reading -
    simp only [doReading, turn]
    cases (reply settings session reading).line with
    | error failure => exact .ends ⟨String.empty_append.symm, rfl, rfl⟩
    | ok line =>
        refine .goesOn rfl fun transcript transcript' h => ⟨?_, h.session, h.failure⟩
        simp only [Transcript.behind, h.output, String.empty_append]
  · rintro ⟨session, count⟩ ⟨_, other⟩ rfl
    exact ⟨String.empty_append.symm, rfl, rfl⟩

/-- **The loop over two parts is the loop over each of them**, in the session that the first one
    leaves. By induction on the first part: its first line is the first line of the whole. -/
theorem runSegments_append (session : Session) (first second : List (Except ReadError Expr))
    (count later : Nat) :
    let before := runSegments settings false session count first
    before.InTwoParts (runSegments settings false before.session later second)
      (runSegments settings false session count (first ++ second)) := by
  induction first generalizing session count with
  | nil =>
      refine ⟨fun _ => follows_of_count settings session second later count, ?_⟩
      intro cause hcause
      cases hcause
  | cons segment rest ih =>
      cases hline : (reply settings session segment).line with
      | error failure =>
          rw [List.cons_append, runSegments_of_failure false session count rest hline,
            runSegments_of_failure false session count (rest ++ second) hline]
          refine ⟨?_, fun _ _ => ⟨rfl, rfl, rfl⟩⟩
          intro hnone
          cases hnone
      | ok line =>
          have hbefore := follows_of_line session hline rest count
          have hwhole := follows_of_line session hline (rest ++ second) count
          intro before
          rw [show before.session = _ from hbefore.session]
          exact (ih (session.turn segment).2 (count + 1)).cons hbefore hwhole

/-- **A source with the tokens of two others is run like these two in turn**, if the first one leaves
    no list open. -/
theorem run_inTwoParts {first second whole : Source} (hopen : first.leavesOpen = false)
    (htokens : (TokenStream.ofSource whole).toList =
      (TokenStream.ofSource first).toList ++ (TokenStream.ofSource second).toList)
    (session : Session) :
    let before := run settings false session first
    before.InTwoParts (run settings false before.session second)
      (run settings false session whole) := by
  rw [Source.leavesOpen, ← segments_eq_readings] at hopen
  intro before
  have hbefore : before = runSegments settings false session 0
      (Reader.segments .start (TokenStream.ofSource first).toList) := by
    rw [segments_eq_readings]
    exact run_eq settings false session first
  rw [run_eq, run_eq, ← segments_eq_readings, ← segments_eq_readings, htokens,
    Reader.segments_append hopen, hbefore]
  exact runSegments_append settings session _ _ 0 0

end ReadLoop

/-- A line end between two texts keeps their tokens apart. -/
theorem Token.lex_append_newline (first second : String) :
    lex (first ++ "\n" ++ second) = lex first ++ lex second := by
  have hfeed : isBlank '\n' = true := by decide
  rw [lex_eq_split, lex_eq_split, lex_eq_split, String.append_assoc, String.toList_append,
    String.toList_append]
  exact split_append_blank hfeed first.toList second.toList

/-! ## Files -/

namespace CommandLine

/-- Two runs have written the same to standard output and have ended in the same way. -/
structure Report.SameEffect (report other : Report) : Prop where
  stdout : report.stdout = other.stdout
  ending : report.ending = other.ending

theorem Report.SameEffect.trans {report other third : Report} (h : report.SameEffect other)
    (h' : other.SameEffect third) : report.SameEffect third :=
  ⟨h.stdout.trans h'.stdout, h.ending.trans h'.ending⟩

/-- How the command ends if the loop is the last thing it does. -/
def Ending.ofLoop : Option ReadLoop.Failure → Ending
  | none => .returned 0
  | some cause => .loopFailed cause

namespace Job

variable (job : Job)

/-- The report of a job that ends with the loop over a text. -/
def runText (session : Session) (text : String) : Report :=
  job.report (ReadLoop.run job.settings false session (.ofFile text))
    fun _ => ⟨"", "", .returned 0⟩

/-- Where the loop is the last thing done, the command has written what the loop has written. -/
theorem effect_report (transcript : ReadLoop.Transcript) :
    let report := job.report transcript fun _ => ⟨"", "", .returned 0⟩
    report.stdout = transcript.output ∧ report.ending = .ofLoop transcript.failure? := by
  rw [report]
  cases transcript.failure? with
  | none => exact ⟨String.append_empty, rfl⟩
  | some cause => exact ⟨rfl, rfl⟩

/-- Of a job, only its settings have a part in what it writes for a text. -/
theorem sameEffect_runText {job other : Job} (h : job.settings = other.settings) (session : Session)
    (text : String) : (job.runText session text).SameEffect (other.runText session text) := by
  obtain ⟨hstdout, hending⟩ :=
    job.effect_report (ReadLoop.run job.settings false session (.ofFile text))
  obtain ⟨hstdout', hending'⟩ :=
    other.effect_report (ReadLoop.run other.settings false session (.ofFile text))
  rw [← h] at hstdout' hending'
  rw [runText, runText, ← h]
  exact ⟨hstdout.trans hstdout'.symm, hending.trans hending'.symm⟩

theorem runFiles_singleton {files : String → File} {name text : String}
    (h : (files name).contents name = .ok text) (session : Session) :
    job.runFiles files session [name] = job.runText session text := by
  rw [runFiles, h]
  rfl

/-- Going on behind the first part of a run has the effect of the whole run. -/
theorem sameEffect_of_inTwoParts {before after whole : ReadLoop.Transcript}
    (h : before.InTwoParts after whole) (goOn : Session → Report)
    (hafter : (goOn before.session).SameEffect
      (job.report after fun _ => ⟨"", "", .returned 0⟩)) :
    (job.report before goOn).SameEffect (job.report whole fun _ => ⟨"", "", .returned 0⟩) := by
  obtain ⟨hstdout, hending⟩ := job.effect_report after
  obtain ⟨hwhole, hlast⟩ := job.effect_report whole
  rw [report]
  cases hfailure : before.failure? with
  | none =>
      have hgoing := h.going hfailure
      constructor
      · rw [hwhole, hgoing.output, ← hstdout, ← hafter.stdout]
      · rw [hlast, hgoing.failure, ← hending, ← hafter.ending]
  | some cause =>
      have hended := h.ended cause hfailure
      constructor
      · rw [hwhole, hended.output, String.empty_append]
      · rw [hlast, hended.failure, hfailure]
        rfl

/-- **Files that are run in turn have the effect of one file with all their texts**, if no file but the
    last one leaves a list open. By induction on the files. -/
theorem runFiles_sameEffect {files : String → File} {names texts : List String}
    (h : List.Forall₂ (fun name text => (files name).contents name = .ok text) names texts)
    (hne : names ≠ []) (hopen : ∀ text ∈ texts.dropLast, (Source.ofFile text).leavesOpen = false)
    (session : Session) :
    (job.runFiles files session names).SameEffect
      (job.runText session ("\n".intercalate texts)) := by
  induction h generalizing session with
  | nil => exact absurd rfl hne
  | @cons name text names texts hcontents hrest ih =>
      cases hrest with
      | nil =>
          rw [job.runFiles_singleton hcontents, String.intercalate_singleton]
          exact ⟨rfl, rfl⟩
      | @cons next nextText names texts hnext hrest =>
          have hfirst : (Source.ofFile text).leavesOpen = false := hopen text List.mem_cons_self
          have hafter := ih (List.cons_ne_nil _ _)
            fun other hother => hopen other (List.mem_cons_of_mem text hother)
          have htokens := lex_append_newline text ("\n".intercalate (nextText :: texts))
          rw [← toList_ofFile, ← toList_ofFile, ← toList_ofFile] at htokens
          have hparts := ReadLoop.run_inTwoParts job.settings hfirst htokens session
          rw [runFiles, hcontents, String.intercalate_cons_cons]
          exact job.sameEffect_of_inTwoParts hparts (job.runFiles files · (next :: names))
            (hafter _)

end Job

/-- **The files that are given have no part in the rest of the plan**, nor in its failure. -/
theorem plan_of_options (options : Options) (environ : String → Option String) :
    (∃ report, ∀ args names, Options.parse args = .ok { options with files := names } →
        plan args environ = .error report) ∨
      ∃ job : Job, ∀ args names, Options.parse args = .ok { options with files := names } →
        plan args environ = .ok { job with files := names } := by
  cases hload : Settings.load environ with
  | error cause =>
      refine .inl ⟨cannotStart cause.message, fun args names hargs => ?_⟩
      simp only [plan, hargs, hload]
  | ok loaded =>
      -- what the arguments put in place of the settings does not depend on the files either
      have hsettings : ∀ names, override loaded { options with files := names } =
          override loaded options := fun names => rfl
      cases hlevel : Level.threshold? (override loaded options).logLevel with
      | none =>
          refine .inl ⟨cannotStart ("Invalid log level: " ++ (override loaded options).logLevel),
            fun args names hargs => ?_⟩
          simp only [plan, hargs, hload, hsettings, hlevel]
      | some threshold =>
          refine .inr ⟨⟨override loaded options, threshold, [], !options.noPrompt⟩,
            fun args names hargs => ?_⟩
          simp only [plan, hargs, hload, hsettings, hlevel]

/-- **The command over some files has the effect of the command over one file** with all their
    texts. -/
theorem run_sameEffect {args single : List String} {options : Options} {joined : String}
    {files alone : String → File} {texts : List String}
    (hargs : Options.parse args = .ok options) (hne : options.files ≠ [])
    (hsingle : Options.parse single = .ok { options with files := [joined] })
    (hcontents : List.Forall₂ (fun name text => (files name).contents name = .ok text)
      options.files texts)
    (hjoined : (alone joined).contents joined = .ok ("\n".intercalate texts))
    (hopen : ∀ text ∈ texts.dropLast, (Source.ofFile text).leavesOpen = false)
    (environ : String → Option String) (stdin : String) :
    (run args environ stdin files).SameEffect (run single environ stdin alone) := by
  rcases plan_of_options options environ with ⟨report, hplan⟩ | ⟨job, hplan⟩
  · rw [run, run, hplan args options.files hargs, hplan single [joined] hsingle]
    exact ⟨rfl, rfl⟩
  · rw [run, run, hplan args options.files hargs, hplan single [joined] hsingle]
    have hsome : options.files.isEmpty = false := List.isEmpty_eq_false_iff.mpr hne
    have hall := ({ job with files := options.files } : Job).runFiles_sameEffect hcontents hne hopen
      job.session
    have halone := ({ job with files := [joined] } : Job).runFiles_singleton hjoined job.session
    have hsame := @Job.sameEffect_runText { job with files := options.files }
      { job with files := [joined] } rfl job.session ("\n".intercalate texts)
    simp only [hsome]
    show Report.SameEffect (Job.runFiles { job with files := options.files } files job.session
        options.files) (Job.runFiles { job with files := [joined] } alone job.session [joined])
    rw [halone]
    exact hall.trans hsame

end CommandLine

/-! ## Inputs in turn -/

section NoFailure

variable {settings : Settings} {style : Expr.Style} (hstyle : settings.style = style.name)
variable {session : Session} (hsession : session.Within .all) (text : String)
include hsession

/-- A run over a text leaves a session without blanks. -/
theorem within_run_ofText :
    (ReadLoop.run settings false session (.ofText text)).session.Within .all := by
  rw [ReadLoop.run_eq]
  exact ReadLoop.within_runSegments hsession false 0
    (segmentWithin_of_mem_readings fun _ _ => trivial)

include hstyle

/-- Nothing ends the loop over a text early in a session that holds expressions only and no blank. -/
theorem failure?_run_ofText :
    (ReadLoop.run settings false session (.ofText text)).failure? = none := by
  rw [ReadLoop.run_eq]
  refine (ReadLoop.runSegments_eq hstyle false session _ (fun result hresult => ?_) 0).2.2
  exact ReadLoop.answerable_of_turnWithin id
    (turnWithin_of_mem_turns (fun _ _ => trivial) hsession result hresult)

end NoFailure

/-- **Inputs that are run one after the other are run like one input** with line ends between them, if
    none but the last one leaves a list open.

    For the loop over two texts, in every session and without prompts: the whole text is answered by
    what the first one is answered by and then the second one in the session after it, and the session
    at the end is the same. Nothing ends these loops early if the notation exists and the session holds
    expressions only and no blank; if anything does end the first one early, it ends the loop over the
    whole text at the same place.

    For the command, over any files that exist and with any options: it writes to standard output what
    it writes, with the same options, for a single file with the texts of all files, and it ends in the
    same way. -/
theorem inputs_in_turn_as_one :
    (∀ (settings : Settings) (session : Session) (first second : String),
      (Source.ofText first).leavesOpen = false →
      let before := ReadLoop.run settings false session (.ofText first)
      let after := ReadLoop.run settings false before.session (.ofText second)
      let whole := ReadLoop.run settings false session (.ofText (first ++ "\n" ++ second))
      (before.failure? = none →
        whole.output = before.output ++ after.output ∧ whole.session = after.session ∧
          whole.failure? = after.failure?) ∧
      (∀ style : Expr.Style, settings.style = style.name → session.Within .all →
        before.failure? = none ∧ after.failure? = none) ∧
      (∀ cause, before.failure? = some cause →
        whole.output = before.output ∧ whole.session = before.session ∧
          whole.failure? = some cause)) ∧
    ∀ (args single : List String) (options : CommandLine.Options) (joined : String)
      (texts : List String) (files alone : String → CommandLine.File)
      (environ : String → Option String) (stdin : String),
      CommandLine.Options.parse args = .ok options → options.files ≠ [] →
      CommandLine.Options.parse single = .ok { options with files := [joined] } →
      List.Forall₂ (fun name text => (files name).contents name = .ok text) options.files texts →
      (alone joined).contents joined = .ok ("\n".intercalate texts) →
      (∀ text ∈ texts.dropLast, (Source.ofFile text).leavesOpen = false) →
      (CommandLine.run args environ stdin files).stdout =
          (CommandLine.run single environ stdin alone).stdout ∧
        (CommandLine.run args environ stdin files).ending =
          (CommandLine.run single environ stdin alone).ending := by
  constructor
  · intro settings session first second hopen before after whole
    have htokens : (TokenStream.ofSource (.ofText (first ++ "\n" ++ second))).toList =
        (TokenStream.ofSource (.ofText first)).toList ++
          (TokenStream.ofSource (.ofText second)).toList := by
      rw [toList_ofText, toList_ofText, toList_ofText, lex_append_newline]
    have hparts : before.InTwoParts after whole :=
      ReadLoop.run_inTwoParts settings hopen htokens session
    refine ⟨?_, ?_, ?_⟩
    · intro hnone
      have hgoing := hparts.going hnone
      exact ⟨hgoing.output, hgoing.session, hgoing.failure⟩
    · intro style hstyle hsession
      exact ⟨failure?_run_ofText hstyle hsession first,
        failure?_run_ofText hstyle (within_run_ofText hsession first) second⟩
    · intro cause hcause
      have hended := hparts.ended cause hcause
      exact ⟨hended.output.trans String.empty_append, hended.session,
        hended.failure.trans hcause⟩
  · intro args single options joined texts files alone environ stdin hargs hne hsingle hcontents
      hjoined hopen
    have hsame := CommandLine.run_sameEffect hargs hne hsingle hcontents hjoined hopen environ stdin
    exact ⟨hsame.stdout, hsame.ending⟩

/-- A definition, a dotted list with one item too many, whose end is read as two more forms, and a
    call; in the second text another call and a list that stays open. -/
theorem inputs_in_turn_as_one_stray_end :
    let session := Session.start Session.defaultLimit
    let first := "(DEFUN F (X)\r\n  (PLUS X 1)) (A . B C 5) (F 1)\r"
    let second := "(F 2) (F"
    let whole := ReadLoop.run .default false session (.ofText (first ++ "\n" ++ second))
    let files := fun name => if name = "a" then CommandLine.File.text first
      else if name = "b" then .text second else .missing
    let alone := fun name =>
      if name = "ab" then CommandLine.File.text (first ++ "\n" ++ second) else .missing
    (Source.ofText first).leavesOpen = false ∧ (Source.ofText second).leavesOpen = true ∧
      whole.output =
        "F\n**ERR** expected ')' after dotted pair, found 'C'\n5\n" ++
        "**ERR** ')' is a bad s-expression\n2\n" ++
        "3\n**ERR** unexpected end of input, expected ')'\n" ∧
      (CommandLine.run ["--notation=list", "a", "b"] (fun _ => none) "" files).stdout =
        (CommandLine.run ["ab", "--notation", "list"] (fun _ => none) "" alone).stdout := by
  intro session first second whole files alone
  have hopen : (Source.ofText first).leavesOpen = false := by decide +kernel
  obtain ⟨hloop, hcommand⟩ := inputs_in_turn_as_one
  obtain ⟨hparts, hfailure, _⟩ := hloop .default session first second hopen
  obtain ⟨hnone, _⟩ := hfailure .dotted rfl (Session.within_start .all _)
  obtain ⟨houtput, _, _⟩ := hparts hnone
  have hstdout := hcommand ["--notation=list", "a", "b"] ["ab", "--notation", "list"]
    ⟨["a", "b"], some "list", false, none, []⟩ "ab" [first, second] files alone (fun _ => none) ""
    (by decide +kernel) (by decide) (by decide +kernel) (.cons rfl (.cons rfl .nil)) rfl
    (by
      intro text htext
      obtain rfl := List.mem_singleton.mp htext
      decide +kernel)
  exact ⟨hopen, by decide +kernel, houtput.trans (by decide +kernel), hstdout.1⟩

end PairLisp
