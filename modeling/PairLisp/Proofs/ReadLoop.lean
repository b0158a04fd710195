import PairLisp.Proofs.ListNotation
import PairLisp.Proofs.Readings
import PairLisp.Proofs.Vocabulary
import PairLisp.ReadLoop

/-!
# What the read loop does with any text

The loop takes a turn for each reading: it evaluates what was read, or not if the reading failed,
and writes a record of the value or of the error. This file shows that nothing else happens. No text
and no session can end the loop before its input, and every segment of the input has its record:

* `Session.turns` are the values and errors of the turns, each taken in the session that the one
  before it left;
* a turn keeps to the vocabulary of the session and of the form (`within_turn`), so a session without
  a blank never comes to evaluate one, and nothing it does is a misuse (`Error.Within.concernsForm`);
* where all errors concern forms and all values can be written in the notation, a turn of the loop
  writes one record and goes on (`line_reply`), and the whole run writes all of them in order
  (`runSegments_eq`).
-/

namespace PairLisp

open Token Grammar

/-! ## Notations -/

/-- The name that selects a notation. -/
def Expr.Style.name : Expr.Style → String
  | .dotted => "dot"
  | .listed => "list"

/-- The name of a notation selects it. -/
theorem Expr.render_name (style : Expr.Style) (e : Expr) :
    e.render style.name = .ok (e.writing style) := by
  cases style <;> rfl

/-- Quoting what can be written leaves the kind of an error as it is. -/
theorem Expr.quoting_of_listable {e : Expr} (h : e.listable = true) (kind : ErrorKind) :
    kind.quoting e = kind := by
  rw [ErrorKind.quoting, listing_eq_ok h]

/-- A message quotes what can be written. -/
theorem Expr.quotingMessage_of_listable {e : Expr} (h : e.listable = true) (said : String) :
    quotingMessage e said = "'" ++ e.listText ++ "'" ++ said := by
  rw [quotingMessage, listing_eq_ok h, listText_eq_listed h]

/-! ## Turns -/

/-- What was read is within the vocabulary: a form is, and an error concerns the text. -/
def SegmentWithin (v : Vocabulary) : Except ReadError Expr → Prop
  | .ok form => form.Within v
  | .error cause => cause.kind = .malformedInput

/-- An error is no misuse, and what it quotes of a form is within the vocabulary. -/
def Error.Within (v : Vocabulary) : Error → Prop
  | .read cause => cause.kind = .malformedInput
  | .eval cause => cause.Within v

/-- The value or the error of a turn is within the vocabulary. -/
def TurnWithin (v : Vocabulary) : Except Error Expr → Prop
  | .ok value => value.Within v
  | .error cause => cause.Within v

theorem turnWithin_mapError {v : Vocabulary} {result : Except EvalError Expr}
    (h : ResultWithin v result) : TurnWithin v (result.mapError Error.eval) := by
  cases result with
  | ok value => exact h
  | error cause => exact h

namespace Session

/-- What one turn of the loop comes to, given what was read, and the session after it. -/
def turn (session : Session) : Except ReadError Expr → Except Error Expr × Session
  | .error cause => (.error (.read cause), session)
  | .ok form =>
    let outcome := session.evalForm form
    (outcome.result.mapError .eval, session.after outcome)

/-- What the turns of the loop come to, given what was read. -/
def turns (session : Session) : List (Except ReadError Expr) → List (Except Error Expr)
  | [] => []
  | segment :: rest => (session.turn segment).1 :: (session.turn segment).2.turns rest

/-- There is one turn for each segment. -/
theorem length_turns (session : Session) (segments : List (Except ReadError Expr)) :
    (session.turns segments).length = segments.length := by
  induction segments generalizing session with
  | nil => rfl
  | cons segment rest ih => rw [turns, List.length_cons, List.length_cons, ih]

/-- The definitions and the environment are within the vocabulary. -/
def Within (v : Vocabulary) (session : Session) : Prop :=
  session.defs.Within v ∧ session.env.Within v

theorem within_start (v : Vocabulary) (limit : Nat) : (start limit).Within v :=
  ⟨Definitions.within_empty v, Env.within_empty v⟩

variable {v : Vocabulary} {session : Session}

/-- **A turn keeps to the vocabulary** of the session and of what was read. -/
theorem within_turn (h : session.Within v) {segment : Except ReadError Expr}
    (hsegment : SegmentWithin v segment) :
    TurnWithin v (session.turn segment).1 ∧ (session.turn segment).2.Within v := by
  cases segment with
  | error cause => exact ⟨hsegment, h⟩
  | ok form =>
      obtain ⟨hresult, htable⟩ := within_evaluate h.1 hsegment h.2 session.depth true
      exact ⟨turnWithin_mapError hresult, htable, h.2⟩

/-- All turns keep to the vocabulary. -/
theorem within_turns (h : session.Within v) {segments : List (Except ReadError Expr)}
    (hsegments : ∀ segment ∈ segments, SegmentWithin v segment) :
    ∀ result ∈ session.turns segments, TurnWithin v result := by
  induction segments generalizing session with
  | nil => exact nofun
  | cons segment rest ih =>
      obtain ⟨hsegment, hrest⟩ := List.forall_mem_cons.mp hsegments
      obtain ⟨hresult, hnext⟩ := within_turn h hsegment
      exact List.forall_mem_cons.mpr ⟨hresult, ih hnext hrest⟩

end Session

/-- What the kind of a fault is in a definition without blanks. -/
theorem DefunFault.Within.kind_eq {v : Vocabulary} (hblanks : ¬ v.blanks) {fault : DefunFault}
    (h : fault.Within v) : fault.kind = .malformedDefun := by
  cases fault with
  | parameter given => exact Expr.quoting_of_listable (Expr.ComposedOf.listable h hblanks) _
  | misuse cause => exact False.elim h
  | form | name | parameterList => rfl

/-- **An error within a vocabulary without blanks concerns a form**: it is no misuse, the blank was
    not evaluated, and what it quotes can be quoted. -/
theorem Error.Within.concernsForm {v : Vocabulary} (hblanks : ¬ v.blanks) {cause : Error}
    (h : cause.Within v) : cause.concernsForm = true := by
  cases cause with
  | read cause => exact congrArg ErrorKind.concernsForm h
  | eval cause =>
      cases cause with
      | blankForm => exact absurd h hblanks
      | misuse cause => exact False.elim h
      | illegalFunctionName head =>
          exact congrArg ErrorKind.concernsForm
            (Expr.quoting_of_listable (Expr.ComposedOf.listable h hblanks) .illegalFunctionName)
      | malformedDefun fault => exact congrArg ErrorKind.concernsForm (h.kind_eq hblanks)
      | malformedConditional fault =>
          cases fault with
          | misuse cause => exact False.elim h
          | atomic | improper | notTestResult => rfl
      | _ => rfl

/-! ## Records -/

namespace ReadLoop

/-- What the loop writes about a turn, up to the end of the line. -/
def report (settings : Settings) (style : Expr.Style) : Except Error Expr → String
  | .ok value => value.write style
  | .error cause => settings.errorMark ++ cause.message

variable {settings : Settings} {style : Expr.Style}

theorem session_refuse (session : Session) (events : List Event) (cause : Error) :
    (refuse settings session events cause).session = session := by
  rw [refuse]
  split <;> rfl

/-- Whatever the reply is, the turn has been taken. -/
theorem session_reply (session : Session) (segment : Except ReadError Expr) :
    (reply settings session segment).session = (session.turn segment).2 := by
  cases segment with
  | error cause => exact session_refuse session [] (.read cause)
  | ok form =>
      simp only [reply, Session.turn]
      cases (session.evalForm form).result with
      | ok value => rfl
      | error cause => exact session_refuse _ _ (.eval cause)

/-- The loop over what was read, `count` forms having been dealt with before. -/
def runSegments (settings : Settings) (prompting : Bool) (session : Session) (count : Nat)
    (segments : List (Except ReadError Expr)) : Transcript :=
  TokenStream.driveAll (doReading settings prompting) (doEnd settings prompting) ⟨session, count⟩
    segments

/-- The loop goes through the readings of its source. -/
theorem run_eq (settings : Settings) (prompting : Bool) (session : Session) (source : Source) :
    run settings prompting session source =
      runSegments settings prompting session 0
        ((TokenStream.ofSource source).readings.map Prod.snd) :=
  TokenStream.drive_eq _ _ _ _

section Steps

variable (prompting : Bool) (session : Session) (count : Nat)
  {segment : Except ReadError Expr} (later : List (Except ReadError Expr))

/-- At the end of input there is a last prompt. -/
theorem runSegments_nil :
    runSegments settings prompting session count [] =
      ⟨promptText settings prompting, session, [.inputEnded count], none⟩ := by
  simp [runSegments, TokenStream.driveAll, doEnd, turn, Transcript.ofLast]

/-- **A reply with a line is a prompt, that line and the loop from there on.** -/
theorem runSegments_of_line {line : String}
    (h : (reply settings session segment).line = .ok line) :
    runSegments settings prompting session count (segment :: later) =
      let transcript := runSegments settings prompting (session.turn segment).2 (count + 1) later
      { transcript with
        output := promptText settings prompting ++ line ++ transcript.output
        events := (reply settings session segment).events ++ transcript.events } := by
  rw [← @session_reply settings]
  simp only [runSegments, TokenStream.driveAll, doReading, turn, h]
  rfl

/-- **A reply without a line ends the loop.** -/
theorem runSegments_of_failure {failure : Failure}
    (h : (reply settings session segment).line = .error failure) :
    runSegments settings prompting session count (segment :: later) =
      ⟨promptText settings prompting, (session.turn segment).2,
        (reply settings session segment).events, some failure⟩ := by
  rw [← @session_reply settings]
  simp [runSegments, TokenStream.driveAll, doReading, turn, h, Transcript.ofLast]

end Steps

/-- What every turn preserves, a run preserves, also if it ends early. -/
theorem runSegments_preserves {P : Session → Prop} {segments : List (Except ReadError Expr)}
    (hturn : ∀ session, ∀ segment ∈ segments, P session → P (session.turn segment).2)
    {session : Session} (h : P session) (prompting : Bool) (count : Nat) :
    P (runSegments settings prompting session count segments).session := by
  induction segments generalizing session count with
  | nil => exact h
  | cons segment rest ih =>
      have hnext : P (session.turn segment).2 := hturn session segment List.mem_cons_self h
      cases hline : (reply settings session segment).line with
      | error failure =>
          rw [runSegments_of_failure prompting session count rest hline]
          exact hnext
      | ok line =>
          rw [runSegments_of_line prompting session count rest hline]
          exact ih (fun session next hmem => hturn session next (List.mem_cons_of_mem segment hmem))
            hnext (count + 1)

/-- **A run keeps to the vocabulary** of the session and of what was read, also if it ends early. -/
theorem within_runSegments {v : Vocabulary} {session : Session} (h : session.Within v)
    (prompting : Bool) (count : Nat) {segments : List (Except ReadError Expr)}
    (hsegments : ∀ segment ∈ segments, SegmentWithin v segment) :
    (runSegments settings prompting session count segments).session.Within v := by
  refine runSegments_preserves ?_ h prompting count
  intro session segment hmem hsession
  exact (Session.within_turn hsession (hsegments segment hmem)).2

/-- What the loop answers with a line: an error that concerns a form, or a value that can be written
    in the notation. -/
def Answerable (style : Expr.Style) : Except Error Expr → Prop
  | .ok value => Expr.writable style value = true
  | .error cause => cause.concernsForm = true

/-- Without blanks the loop has an answer to everything. -/
theorem answerable_of_turnWithin {v : Vocabulary} (hblanks : ¬ v.blanks) {result : Except Error Expr}
    (h : TurnWithin v result) : Answerable style result := by
  cases result with
  | ok value => exact Expr.ComposedOf.writable h hblanks style
  | error cause => exact h.concernsForm hblanks

/-- An error that concerns a form is answered with a record of it. -/
theorem line_refuse (style : Expr.Style) (session : Session) (events : List Event) {cause : Error}
    (h : cause.concernsForm = true) :
    (refuse settings session events cause).line =
      .ok (report settings style (.error cause) ++ "\n") := by
  rw [refuse, if_pos h]
  rfl

variable (hstyle : settings.style = style.name)
include hstyle

/-- The line of a value is its text, if it has one. -/
theorem valueLine_eq (value : Expr) :
    valueLine settings value =
      if Expr.writable style value then .ok (value.write style ++ "\n")
      else .error (.unwritten .noToken) := by
  rw [valueLine, hstyle, Expr.render_name, Expr.writing_eq]
  cases Expr.writable style value <;> rfl

/-- **The loop replies with a record of the turn**, if the turn can be answered. -/
theorem line_reply (session : Session) (segment : Except ReadError Expr)
    (h : Answerable style (session.turn segment).1) :
    (reply settings session segment).line =
      .ok (report settings style (session.turn segment).1 ++ "\n") := by
  cases segment with
  | error cause => exact line_refuse style session [] h
  | ok form =>
      simp only [reply, Session.turn] at h ⊢
      cases hresult : (session.evalForm form).result with
      | ok value =>
          rw [hresult] at h
          exact (valueLine_eq hstyle value).trans (if_pos h)
      | error cause =>
          rw [hresult] at h
          exact line_refuse style _ _ h

/-- **A run writes a prompt and a record for each turn**, and a last prompt. By induction on what was
    read: the first record is written, and the rest is a run in the session after it. -/
theorem runSegments_eq (prompting : Bool) (session : Session)
    (segments : List (Except ReadError Expr))
    (h : ∀ result ∈ session.turns segments, Answerable style result) (count : Nat) :
    (runSegments settings prompting session count segments).output =
        String.join ((session.turns segments).map fun result =>
          promptText settings prompting ++ (report settings style result ++ "\n")) ++
        promptText settings prompting ∧
      (runSegments settings prompting session count segments).events.getLast? =
        some (.inputEnded (count + segments.length)) ∧
      (runSegments settings prompting session count segments).failure? = none := by
  induction segments generalizing session count with
  | nil =>
      rw [runSegments_nil]
      exact ⟨String.empty_append.symm, rfl, rfl⟩
  | cons segment rest ih =>
      obtain ⟨hfirst, hrest⟩ := List.forall_mem_cons.mp h
      obtain ⟨houtput, hevents, hfailure⟩ := ih (session.turn segment).2 hrest (count + 1)
      rw [runSegments_of_line prompting session count rest (line_reply hstyle session segment hfirst)]
      refine ⟨?_, ?_, hfailure⟩
      · dsimp only
        rw [houtput, Session.turns, List.map_cons, String.join_cons]
        simp only [String.append_assoc]
      · dsimp only
        rw [List.getLast?_append, hevents, List.length_cons, Nat.add_right_comm, Nat.add_assoc]
        rfl

end ReadLoop

/-! ## Texts -/

/-- What is read from a source is within any vocabulary that has all tokens of texts. -/
theorem segmentWithin_of_mem_readings {v : Vocabulary}
    (hv : ∀ token, Token.Readable token → v.atoms token) {source : Source} :
    ∀ segment ∈ (TokenStream.ofSource source).readings.map Prod.snd, SegmentWithin v segment := by
  intro segment h
  cases segment with
  | ok form =>
      obtain ⟨part, hpart, he⟩ := List.mem_map.mp h
      exact (readable_of_mem_readings hpart he).mono hv False.elim
  | error cause =>
      rw [← segments_eq_readings] at h
      exact Reader.kind_of_mem_segments h

/-- No token is held behind a reading, so that one can be put back. -/
theorem pushBack?_read (stream : TokenStream) (t : Token) :
    (stream.read.2.pushBack? t).isSome = true := by
  obtain ⟨-, -, hheld⟩ := read_stream stream
  rw [TokenStream.pushBack?, hheld]
  rfl

/-- What the turns over a source come to is within the vocabulary of the session. -/
theorem turnWithin_of_mem_turns {v : Vocabulary}
    (hv : ∀ token, Token.Readable token → v.atoms token) {session : Session}
    (hsession : session.Within v) {source : Source} :
    ∀ result ∈ session.turns ((TokenStream.ofSource source).readings.map Prod.snd),
      TurnWithin v result :=
  Session.within_turns hsession (segmentWithin_of_mem_readings hv)

/-- **The loop answers every segment of every text**, in every session that holds expressions only
    and no blank. Nothing ends it before its input. The tokens of the text fall into segments that
    are not empty, each of them an expression or a beginning of one up to the token that cannot go on
    with it or up to the end. Each segment has one turn. Its error, if it has one, concerns a form and
    is no misuse of an item, a stack, a table, a divisor or a conversion, of which no primitive is
    guilty for any arguments. A reading leaves room for a token that is put back. The value of a turn,
    if it has one, can be written. The output has a prompt, if the loop prompts, and a line for each
    turn, and a last prompt. -/
theorem run_answers_every_segment (settings : Settings) (style : Expr.Style)
    (hstyle : settings.style = style.name) (prompting : Bool) (session : Session)
    (hsession : session.Within .all) (text : String) :
    let readings := (TokenStream.ofSource (.ofText text)).readings
    let results := session.turns (readings.map Prod.snd)
    let prompt := if prompting then settings.prompt else ""
    let transcript := ReadLoop.run settings prompting session (.ofText text)
    transcript.failure? = none ∧
      transcript.events.getLast? = some (.inputEnded readings.length) ∧
      Segmented (lex text) readings ∧
      readings.flatMap Prod.fst = lex text ∧
      (∀ reading ∈ readings, reading.1 ≠ []) ∧
      results.length = readings.length ∧
      (∀ cause, .error cause ∈ results →
        cause.concernsForm = true ∧ ∀ misuse, cause.kind ≠ .misuse misuse) ∧
      (∀ (p : Primitive) (args : List Expr) (misuse : Misuse),
        p.apply args ≠ .error (.misuse misuse)) ∧
      (∀ (stream : TokenStream) (t : Token), (stream.read.2.pushBack? t).isSome = true) ∧
      (∀ value, .ok value ∈ results → value.writing style = .ok (value.write style)) ∧
      transcript.output = String.join (results.map fun result =>
        prompt ++ (ReadLoop.report settings style result ++ "\n")) ++ prompt := by
  intro readings results prompt transcript
  have hsegmented : Segmented (lex text) readings := by
    rw [← toList_ofText]
    exact TokenStream.segmented_readings _
  have hwithin : ∀ result ∈ results, TurnWithin .all result :=
    turnWithin_of_mem_turns (fun _ _ => trivial) hsession
  have hanswerable : ∀ result ∈ results, ReadLoop.Answerable style result := fun result hresult =>
    ReadLoop.answerable_of_turnWithin id (hwithin result hresult)
  obtain ⟨houtput, hevents, hfailure⟩ :=
    ReadLoop.runSegments_eq hstyle prompting session (readings.map Prod.snd) hanswerable 0
  have hrun : transcript = ReadLoop.runSegments settings prompting session 0
      (readings.map Prod.snd) := ReadLoop.run_eq settings prompting session (.ofText text)
  rw [hrun]
  refine ⟨hfailure, ?_, hsegmented, hsegmented.flatMap_fst, hsegmented.ne_nil, ?_, ?_,
    Primitive.apply_ne_misuse, pushBack?_read, ?_, houtput⟩
  · rw [hevents, List.length_map, Nat.zero_add]
  · rw [Session.length_turns, List.length_map]
  · intro cause hcause
    have hconcerns : cause.concernsForm = true := hanswerable _ hcause
    refine ⟨hconcerns, fun misuse hmisuse => ?_⟩
    rw [Error.concernsForm, hmisuse] at hconcerns
    cases hconcerns
  · intro value hvalue
    exact (Expr.writing_eq style value).trans (if_pos (hanswerable _ hvalue))

/-- A form, a parenthesis too many and a list that stays open, on two lines. -/
theorem run_answers_every_segment_two_broken :
    let settings := { Settings.default with style := "list" }
    let session := Session.start Session.defaultLimit
    let readings := (TokenStream.ofSource (.ofText "(CAR (QUOTE (A)))\n) (B")).readings
    let transcript := ReadLoop.run settings true session (.ofText "(CAR (QUOTE (A)))\n) (B")
    settings.style = Expr.Style.listed.name ∧ session.Within .all ∧ transcript.failure? = none ∧
      readings.map (fun reading => reading.1.length) = [9, 1, 2] ∧
      readings.flatMap Prod.fst = lex "(CAR (QUOTE (A)))\n) (B" ∧
      transcript.output =
        ">>> A\n>>> **ERR** ')' is a bad s-expression\n" ++
        ">>> **ERR** unexpected end of input, expected ')'\n>>> " := by
  intro settings session readings transcript
  have hsession : session.Within .all := Session.within_start .all Session.defaultLimit
  obtain ⟨hfailure, -, -, htokens, -, -, -, -, -, -, houtput⟩ :=
    run_answers_every_segment settings .listed rfl true session hsession "(CAR (QUOTE (A)))\n) (B"
  exact ⟨rfl, hsession, hfailure, by decide +kernel, htokens, houtput.trans (by decide +kernel)⟩

end PairLisp
