import PairLisp.Proofs.ReadLoop
import PairLisp.Proofs.SessionHistory

/-!
# Three ways through a text

The forms of a text can be evaluated for their values, loaded for their definitions, or handed to the
read loop, which writes what they come to and goes on behind an error. The first two take the text as
one chunk, and the loop takes it line by line. This file shows that all three go the same way up to the
first error: they come to the same values, the same error and the same session. The route:

* loading comes to the same as evaluation but for the values, as `Session.loadSource_eq` has it;
* evaluation takes the turns of the loop up to the first one that fails (`evalSegments_turns`);
* the loop writes a line for each of these turns and goes on in the session after it
  (`runSegments_cons`, `runSegments_done`), so that what it has written when evaluation ends is what
  evaluation came to (`run_of_finished`, `run_of_error`), unless a value cannot be written, which ends
  the loop there (`run_of_unwritable`);
* the chunk and the lines have the same tokens (`toList_ofString`, `toList_ofText`).
-/

namespace PairLisp

namespace Session

/-! ## Evaluation by turns -/

variable (session : Session)

theorem map_form_executed (forms : List Expr) :
    (session.executed forms).map Executed.form = forms := by
  induction forms generalizing session with
  | nil => rfl
  | cons form rest ih => rw [executed, List.map_cons, ih]

/-- A turn on a form is its evaluation, and leaves the session after it. -/
theorem turn_ok {form : Expr} {result : Except EvalError Expr}
    (h : (session.evalForm form).result = result) :
    session.turn (.ok form) = (result.mapError .eval, session.afterForm form) := by
  subst h
  rfl

/-- The forms that have values, each with its value. -/
def HasValues (done : List (Expr × Expr)) : Prop :=
  session.executed (done.map Prod.fst) = done.map fun item => ⟨item.1, .ok item.2⟩

/-- Some forms have values exactly if the first of them do, and the others do behind these. -/
theorem HasValues.of_append {session : Session} {first last : List (Expr × Expr)}
    (h : session.HasValues (first ++ last)) :
    session.HasValues first ∧ (session.afterForms (first.map Prod.fst)).HasValues last := by
  have hlength : (session.executed (first.map Prod.fst)).length = first.length := by
    have hforms := congrArg List.length (session.map_form_executed (first.map Prod.fst))
    rwa [List.length_map, List.length_map] at hforms
  rw [HasValues, List.map_append, List.map_append, executed_append] at h
  exact List.append_inj h (by rw [hlength, List.length_map])

/-- **Evaluation takes turns up to the first one that fails.** The session that it leaves is the one
    behind its last turn. -/
theorem evalSegments_turns (segments : List (Except ReadError Expr)) :
    ∃ done, session.HasValues done ∧
      (session.evalSegments segments).values = done.map Prod.snd ∧
      ((segments = done.map (fun item => .ok item.1) ∧
          (session.evalSegments segments).error? = none ∧
          (session.evalSegments segments).session = session.afterForms (done.map Prod.fst)) ∨
        ∃ segment later cause, segments = done.map (fun item => .ok item.1) ++ segment :: later ∧
          (session.evalSegments segments).error? = some cause ∧
          (session.afterForms (done.map Prod.fst)).turn segment =
            (.error cause, (session.evalSegments segments).session)) := by
  obtain ⟨done, hdone, hvalues⟩ := session.upToFailure_evalSegments segments
  refine ⟨done, ?_⟩
  have hsession := session.session_evalSegments segments
  have hforms := session.map_form_executed (session.evalSegments segments).forms
  generalize (session.evalSegments segments).forms = forms at hdone hsession hforms
  generalize (session.evalSegments segments).error? = error? at hdone ⊢
  generalize hexecuted : session.executed forms = executed at hdone hforms
  cases hdone with
  | finished =>
      have hfirst : forms = done.map Prod.fst := by
        rw [← hforms, List.map_map]
        rfl
      rw [hfirst] at hexecuted hsession
      exact ⟨hexecuted, hvalues, .inl ⟨rfl, rfl, hsession⟩⟩
  | unreadable =>
      have hfirst : forms = done.map Prod.fst := by
        rw [← hforms, List.map_map]
        rfl
      rw [hfirst] at hexecuted hsession
      refine ⟨hexecuted, hvalues, .inr ⟨_, _, _, rfl, rfl, ?_⟩⟩
      rw [hsession]
      rfl
  | @failed form cause later =>
      have hlast : forms = done.map Prod.fst ++ [form] := by
        rw [← hforms, List.map_append, List.map_map]
        rfl
      rw [hlast, executed_append] at hexecuted
      obtain ⟨hfirst, hfailed⟩ := List.append_inj' hexecuted rfl
      have hresult : ((session.afterForms (done.map Prod.fst)).evalForm form).result =
          .error cause := congrArg Executed.result (List.cons.inj hfailed).1
      refine ⟨hfirst, hvalues, .inr ⟨_, _, _, rfl, rfl, ?_⟩⟩
      rw [turn_ok _ hresult, hsession, hlast, afterForms_append]
      rfl

/-- A source without an error is a row of forms that all have values. -/
theorem evalSegments_finished {segments : List (Except ReadError Expr)}
    (h : (session.evalSegments segments).error? = none) :
    ∃ done, session.HasValues done ∧ segments = done.map (fun item => .ok item.1) ∧
      (session.evalSegments segments).values = done.map Prod.snd ∧
      (session.evalSegments segments).session = session.afterForms (done.map Prod.fst) := by
  obtain ⟨done, hdone, hvalues, ⟨hsegments, _, hsession⟩ | ⟨_, _, _, _, herror, _⟩⟩ :=
    session.evalSegments_turns segments
  · exact ⟨done, hdone, hsegments, hvalues, hsession⟩
  · rw [h] at herror
    cases herror

/-- A source with an error is a row of forms that have values up to the segment at fault. -/
theorem evalSegments_failed {segments : List (Except ReadError Expr)} {cause : Error}
    (h : (session.evalSegments segments).error? = some cause) :
    ∃ done segment later, session.HasValues done ∧
      segments = done.map (fun item => .ok item.1) ++ segment :: later ∧
      (session.evalSegments segments).values = done.map Prod.snd ∧
      (session.afterForms (done.map Prod.fst)).turn segment =
        (.error cause, (session.evalSegments segments).session) := by
  obtain ⟨done, hdone, hvalues, ⟨_, herror, _⟩ | ⟨segment, later, _, hsegments, herror, hturn⟩⟩ :=
    session.evalSegments_turns segments
  · rw [h] at herror
    cases herror
  · rw [h] at herror
    cases herror
    exact ⟨done, segment, later, hdone, hsegments, hvalues, hturn⟩

/-- The values of evaluation and the error that ends it are those of turns. -/
theorem mem_turns_of_evalSegments (segments : List (Except ReadError Expr)) :
    (∀ value ∈ (session.evalSegments segments).values, .ok value ∈ session.turns segments) ∧
      ∀ cause, (session.evalSegments segments).error? = some cause →
        .error cause ∈ session.turns segments := by
  induction segments generalizing session with
  | nil => exact ⟨by simp [evalSegments, TokenStream.driveAll], fun cause h => by cases h⟩
  | cons segment rest ih =>
      cases segment with
      | error readCause =>
          refine ⟨by simp [evalSegments, TokenStream.driveAll, evalReading], fun cause h => ?_⟩
          cases h
          exact List.mem_cons_self
      | ok form =>
          rw [evalSegments_ok, turns]
          cases hresult : (session.evalForm form).result with
          | error evalCause =>
              rw [turn_ok session hresult]
              refine ⟨by simp, fun cause h => ?_⟩
              cases h
              exact List.mem_cons_self
          | ok value =>
              obtain ⟨hvalues, hcause⟩ := ih (session.afterForm form)
              rw [turn_ok session hresult]
              refine ⟨List.forall_mem_cons.mpr ⟨List.mem_cons_self, fun other hother => ?_⟩,
                fun cause h => List.mem_cons_of_mem _ (hcause cause h)⟩
              exact List.mem_cons_of_mem _ (hvalues other hother)

end Session

/-! ## The loop without prompts -/

namespace ReadLoop

/-- A transcript is that of an earlier moment of another one: `written` is what was written until
    then, and all else is the same. -/
structure Transcript.Follows (t : Transcript) (written : String) (whole : Transcript) : Prop where
  output : whole.output = written ++ t.output
  session : whole.session = t.session
  failure : whole.failure? = t.failure?

theorem Transcript.Follows.trans {t next whole : Transcript} {written later : String}
    (h : t.Follows later next) (h' : next.Follows written whole) :
    t.Follows (written ++ later) whole := by
  refine ⟨?_, h'.session.trans h.session, h'.failure.trans h.failure⟩
  rw [h'.output, h.output, String.append_assoc]

/-- The lines of values. -/
def valueLines (style : Expr.Style) (values : List Expr) : String :=
  String.join (values.map fun value => value.write style ++ "\n")

@[simp] theorem valueLines_cons (style : Expr.Style) (value : Expr) (values : List Expr) :
    valueLines style (value :: values) = value.write style ++ "\n" ++ valueLines style values :=
  String.join_cons

/-- The line of an error. -/
def errorLine (settings : Settings) (cause : Error) : String :=
  settings.errorMark ++ cause.message ++ "\n"

variable {settings : Settings} {style : Expr.Style} (session : Session)

/-- A reply with a line is that line and the loop from there on. -/
theorem follows_of_line {segment : Except ReadError Expr} {line : String}
    (h : (reply settings session segment).line = .ok line)
    (later : List (Except ReadError Expr)) (count : Nat) :
    (runSegments settings false (session.turn segment).2 (count + 1) later).Follows line
      (runSegments settings false session count (segment :: later)) := by
  rw [runSegments_of_line false session count later h]
  exact ⟨congrArg (· ++ _) String.empty_append, rfl, rfl⟩

/-- What is not an error of a form is not answered. -/
theorem line_refuse_of_not_concernsForm (events : List Event) {cause : Error}
    (h : cause.concernsForm = false) :
    (refuse settings session events cause).line = .error (.error cause) := by
  rw [refuse, h]
  rfl

/-- An error that does not concern a form ends the loop. -/
theorem runSegments_of_not_concernsForm {segment : Except ReadError Expr} {cause : Error}
    (hturn : (session.turn segment).1 = .error cause) (h : cause.concernsForm = false)
    (later : List (Except ReadError Expr)) (count : Nat) :
    (runSegments settings false session count (segment :: later)).output = "" ∧
      (runSegments settings false session count (segment :: later)).session =
        (session.turn segment).2 ∧
      (runSegments settings false session count (segment :: later)).failure? =
        some (.error cause) := by
  have hline : (reply settings session segment).line = .error (.error cause) := by
    cases segment with
    | error readCause =>
        cases hturn
        exact line_refuse_of_not_concernsForm session [] h
    | ok form =>
        simp only [Session.turn] at hturn
        cases hresult : (session.evalForm form).result with
        | ok value =>
            rw [hresult] at hturn
            cases hturn
        | error evalCause =>
            rw [hresult] at hturn
            cases hturn
            simp only [reply, hresult]
            exact line_refuse_of_not_concernsForm _ _ h
  rw [runSegments_of_failure false session count later hline]
  exact ⟨rfl, rfl, rfl⟩

variable (hstyle : settings.style = style.name)
include hstyle

/-- **A turn of the loop is a line and the loop from there on.** -/
theorem runSegments_cons (segment : Except ReadError Expr)
    (h : Answerable style (session.turn segment).1)
    (later : List (Except ReadError Expr)) (count : Nat) :
    (runSegments settings false (session.turn segment).2 (count + 1) later).Follows
      (report settings style (session.turn segment).1 ++ "\n")
      (runSegments settings false session count (segment :: later)) :=
  follows_of_line session (line_reply hstyle session segment h) later count

/-- A value that cannot be written ends the loop. -/
theorem runSegments_of_unwritable {form value : Expr}
    (hturn : session.turn (.ok form) = (.ok value, session.afterForm form))
    (h : Expr.writable style value = false) (later : List (Except ReadError Expr)) (count : Nat) :
    (runSegments settings false session count (.ok form :: later)).output = "" ∧
      (runSegments settings false session count (.ok form :: later)).session =
        session.afterForm form ∧
      (runSegments settings false session count (.ok form :: later)).failure? =
        some (.unwritten .noToken) := by
  have hresult : (session.evalForm form).result = .ok value := by
    have hfirst := congrArg Prod.fst hturn
    simp only [Session.turn] at hfirst
    cases hvalue : (session.evalForm form).result with
    | ok other =>
        rw [hvalue] at hfirst
        cases hfirst
        rfl
    | error cause =>
        rw [hvalue] at hfirst
        cases hfirst
  have hline : (reply settings session (.ok form)).line = .error (.unwritten .noToken) := by
    simp only [reply, hresult]
    rw [valueLine_eq hstyle, h]
    rfl
  rw [runSegments_of_failure false session count later hline, hturn]
  exact ⟨rfl, rfl, rfl⟩

/-- **The loop writes the values of forms that have some**, and goes on behind them. By induction on
    the forms: each of them is a turn. -/
theorem runSegments_done {done : List (Expr × Expr)} (h : session.HasValues done)
    (hwritable : ∀ value ∈ done.map Prod.snd, Expr.writable style value = true)
    (later : List (Except ReadError Expr)) (count : Nat) :
    (runSegments settings false (session.afterForms (done.map Prod.fst)) (count + done.length)
        later).Follows
      (valueLines style (done.map Prod.snd))
      (runSegments settings false session count (done.map (fun item => .ok item.1) ++ later)) := by
  induction done generalizing session count with
  | nil => exact ⟨String.empty_append.symm, rfl, rfl⟩
  | cons item rest ih =>
      obtain ⟨form, value⟩ := item
      obtain ⟨hfirst, hrest⟩ := List.cons.inj h
      obtain ⟨hvalue, hvalues⟩ := List.forall_mem_cons.mp hwritable
      have hturn : session.turn (.ok form) = (.ok value, session.afterForm form) :=
        session.turn_ok (congrArg Executed.result hfirst)
      have hline := runSegments_cons session hstyle (.ok form) (by rw [hturn]; exact hvalue)
        (rest.map (fun item => .ok item.1) ++ later) count
      rw [hturn] at hline
      have hlines := (ih (session.afterForm form) hrest hvalues (count + 1)).trans hline
      have hcount : count + ((form, value) :: rest).length = count + 1 + rest.length := by
        rw [List.length_cons]
        omega
      have hvalues : valueLines style (((form, value) :: rest).map Prod.snd) =
          value.write style ++ "\n" ++ valueLines style (rest.map Prod.snd) := valueLines_cons ..
      rw [hcount, hvalues]
      exact hlines

end ReadLoop

/-! ## Evaluation and the loop -/

section Drivers

open ReadLoop

variable {settings : Settings} {style : Expr.Style} (hstyle : settings.style = style.name)
variable (session : Session) {segments : List (Except ReadError Expr)}
include hstyle

/-- Where evaluation comes to the end, the loop has written its values and left its session. -/
theorem run_of_finished
    (hwritable : ∀ value ∈ (session.evalSegments segments).values, Expr.writable style value = true)
    (h : (session.evalSegments segments).error? = none) (count : Nat) :
    (runSegments settings false session count segments).output =
        valueLines style (session.evalSegments segments).values ∧
      (runSegments settings false session count segments).session =
        (session.evalSegments segments).session ∧
      (runSegments settings false session count segments).failure? = none := by
  obtain ⟨done, hdone, hsegments, hvalues, hsession⟩ := session.evalSegments_finished h
  rw [hvalues] at hwritable
  have hfollows := runSegments_done session hstyle hdone hwritable [] count
  rw [List.append_nil, ← hsegments, runSegments_nil] at hfollows
  refine ⟨?_, ?_, hfollows.failure⟩
  · rw [hfollows.output, hvalues]
    exact String.append_empty
  · rw [hfollows.session, hsession]

/-- **Where evaluation ends in an error, the loop writes that error behind the values**, and goes on in
    the session that evaluation left, whatever comes. -/
theorem run_of_error
    (hwritable : ∀ value ∈ (session.evalSegments segments).values, Expr.writable style value = true)
    {cause : Error} (hform : cause.concernsForm = true)
    (h : (session.evalSegments segments).error? = some cause)
    (later : List (Except ReadError Expr)) (count : Nat) :
    (runSegments settings false (session.evalSegments segments).session
        (count + ((session.evalSegments segments).values.length + 1)) later).Follows
      (valueLines style (session.evalSegments segments).values ++ errorLine settings cause)
      (runSegments settings false session count
        (segments.take ((session.evalSegments segments).values.length + 1) ++ later)) := by
  obtain ⟨done, segment, rest, hdone, hsegments, hvalues, hturn⟩ := session.evalSegments_failed h
  rw [hvalues] at hwritable
  have hlength : (session.evalSegments segments).values.length = done.length := by
    rw [hvalues, List.length_map]
  have htake : segments.take (done.length + 1) ++ later =
      done.map (fun item => .ok item.1) ++ segment :: later := by
    have hall : (done.map fun item => (.ok item.1 : Except ReadError Expr)).take
        (done.length + 1) = done.map fun item => .ok item.1 :=
      List.take_of_length_le (by rw [List.length_map]; omega)
    rw [hsegments, List.take_append, hall, List.length_map, Nat.add_sub_cancel_left]
    exact List.append_assoc ..
  have hlines := runSegments_done session hstyle hdone hwritable (segment :: later) count
  have hline := runSegments_cons (session.afterForms (done.map Prod.fst)) hstyle segment
    (by rw [hturn]; exact hform) later (count + done.length)
  rw [hturn] at hline
  rw [← hvalues, ← htake] at hlines
  rw [hlength]
  exact hline.trans hlines

/-- An error that does not concern a form ends the loop, too, where evaluation ended. -/
theorem run_of_escaping_error
    (hwritable : ∀ value ∈ (session.evalSegments segments).values, Expr.writable style value = true)
    {cause : Error} (hform : cause.concernsForm = false)
    (h : (session.evalSegments segments).error? = some cause) (count : Nat) :
    (runSegments settings false session count segments).output =
        valueLines style (session.evalSegments segments).values ∧
      (runSegments settings false session count segments).session =
        (session.evalSegments segments).session ∧
      (runSegments settings false session count segments).failure? = some (.error cause) := by
  obtain ⟨done, segment, rest, hdone, hsegments, hvalues, hturn⟩ := session.evalSegments_failed h
  rw [hvalues] at hwritable
  have hlines := runSegments_done session hstyle hdone hwritable (segment :: rest) count
  rw [← hsegments, ← hvalues] at hlines
  obtain ⟨houtput, hsession, hfailure⟩ := @runSegments_of_not_concernsForm settings
    (session.afterForms (done.map Prod.fst)) segment cause (congrArg Prod.fst hturn) hform rest
    (count + done.length)
  refine ⟨?_, ?_, ?_⟩
  · rw [hlines.output, houtput, String.append_empty]
  · rw [hlines.session, hsession, hturn]
  · rw [hlines.failure, hfailure]

/-- **A value that cannot be written ends the loop**, whatever evaluation goes on to: the values before
    it have been written. -/
theorem run_of_unwritable {before later : List Expr} {value : Expr}
    (hvalues : (session.evalSegments segments).values = before ++ value :: later)
    (hbefore : ∀ other ∈ before, Expr.writable style other = true)
    (h : Expr.writable style value = false) (count : Nat) :
    (runSegments settings false session count segments).output = valueLines style before ∧
      (runSegments settings false session count segments).failure? =
        some (.unwritten .noToken) := by
  obtain ⟨done, hdone, hall, hsegments⟩ := session.evalSegments_turns segments
  obtain ⟨rest, hrest⟩ : ∃ rest, segments = done.map (fun item => .ok item.1) ++ rest := by
    rcases hsegments with ⟨hsegments, -⟩ | ⟨segment, later, -, hsegments, -⟩
    · exact ⟨[], by rw [hsegments, List.append_nil]⟩
    · exact ⟨_, hsegments⟩
  -- the forms up to the one with that value
  rw [hall] at hvalues
  obtain ⟨first, behind, rfl, hfirst, hbehind⟩ := List.map_eq_append_iff.mp hvalues
  obtain ⟨⟨form, other⟩, last, rfl, rfl, -⟩ := List.map_eq_cons_iff.mp hbehind
  obtain ⟨hexecuted, hlast⟩ := hdone.of_append
  have hturn := (session.afterForms (first.map Prod.fst)).turn_ok
    (congrArg Executed.result (List.cons.inj hlast).1)
  have hlines := runSegments_done session hstyle hexecuted (by rwa [hfirst])
    (.ok form :: (last.map (fun item => .ok item.1) ++ rest)) count
  obtain ⟨houtput, -, hfailure⟩ := runSegments_of_unwritable _ hstyle hturn h
    (last.map (fun item => .ok item.1) ++ rest) (count + first.length)
  rw [hrest, List.map_append, List.map_cons, List.append_assoc, List.cons_append]
  refine ⟨?_, ?_⟩
  · rw [hlines.output, houtput, String.append_empty, hfirst]
  · rw [hlines.failure, hfailure]

end Drivers

/-- A text has the same readings in one chunk and line by line. -/
theorem readings_ofString (text : String) :
    (TokenStream.ofSource (.ofString text)).readings.map Prod.snd =
      (TokenStream.ofSource (.ofText text)).readings.map Prod.snd := by
  rw [← segments_eq_readings, ← segments_eq_readings, toList_ofString, toList_ofText]

open ReadLoop in
/-- **Evaluating a text, loading it and running the loop over it agree**, in every session and in
    either notation, if the loop does not prompt. Loading comes to the same error or to none, and to
    the same session. As to the loop, suppose that all values have a text in the notation, as all of them
    do in dot notation and in a session that holds expressions only and no blank. If there is no error,
    the loop writes the lines of the values and comes to the same session. If there is one, then when
    the loop has dealt with the readings up to it, it has written the lines of the values and the line of
    the error, its session is the one that evaluation left, and it goes on from there. This is about
    errors that concern a form, as all errors do in a session without a blank; any other error ends the
    loop as well. And so does a value without a text, behind the lines of the values before it. -/
theorem drivers_agree (settings : Settings) (style : Expr.Style)
    (hstyle : settings.style = style.name) (session : Session) (text : String) :
    let run := session.evalSource (.ofString text)
    let load := session.loadSource (.ofString text)
    let transcript := ReadLoop.run settings false session (.ofText text)
    load.error? = run.error? ∧ load.session = run.session ∧
    (style = .dotted ∨ session.Within .all → ∀ value ∈ run.values, value.HasText style) ∧
    ((∀ value ∈ run.values, value.HasText style) →
      (run.error? = none →
        transcript.output = valueLines style run.values ∧ transcript.session = run.session ∧
          transcript.failure? = none) ∧
      ∀ cause, run.error? = some cause →
        (session.Within .all → cause.concernsForm = true) ∧
        (cause.concernsForm = true →
          let turns := run.values.length + 1
          let readings := (TokenStream.ofSource (.ofText text)).readings.map Prod.snd
          let before := runSegments settings false session 0 (readings.take turns)
          let after := runSegments settings false run.session turns (readings.drop turns)
          before.output = valueLines style run.values ++ errorLine settings cause ∧
            before.session = run.session ∧ before.failure? = none ∧
            transcript.output = before.output ++ after.output ∧
            transcript.session = after.session) ∧
        (cause.concernsForm = false →
          transcript.output = valueLines style run.values ∧ transcript.session = run.session ∧
            transcript.failure? = some (.error cause))) ∧
    ∀ before value later, run.values = before ++ value :: later →
      (∀ other ∈ before, other.HasText style) → ¬ value.HasText style →
      transcript.output = valueLines style before ∧
        transcript.failure? = some (.unwritten .noToken) := by
  intro run load transcript
  have hload : load = run.load := session.loadSource_eq (.ofString text)
  have hrun : run = session.evalSegments
      ((TokenStream.ofSource (.ofText text)).readings.map Prod.snd) := by
    rw [← readings_ofString]
    exact session.evalSource_eq (.ofString text)
  have htranscript : transcript = runSegments settings false session 0
      ((TokenStream.ofSource (.ofText text)).readings.map Prod.snd) :=
    ReadLoop.run_eq settings false session (.ofText text)
  obtain ⟨hvalues, hcauses⟩ := session.mem_turns_of_evalSegments
    ((TokenStream.ofSource (.ofText text)).readings.map Prod.snd)
  have hwithin (hsession : session.Within .all) : ∀ result ∈ session.turns
      ((TokenStream.ofSource (.ofText text)).readings.map Prod.snd), TurnWithin .all result :=
    turnWithin_of_mem_turns (fun _ _ => trivial) hsession
  refine ⟨by rw [hload]; rfl, by rw [hload]; rfl, ?_, ?_, ?_⟩
  · rintro (rfl | hsession) value hvalue
    · exact ⟨_, rfl⟩
    · rw [hrun] at hvalue
      have hturn : value.Within .all := hwithin hsession _ (hvalues value hvalue)
      exact Expr.hasText_iff.mpr (Expr.ComposedOf.writable hturn id style)
  · intro hwritten
    have hwritable : ∀ value ∈ run.values, Expr.writable style value = true :=
      fun value hvalue => Expr.hasText_iff.mp (hwritten value hvalue)
    rw [hrun] at hwritable ⊢
    rw [htranscript]
    refine ⟨fun herror => run_of_finished hstyle session hwritable herror 0, ?_⟩
    intro cause herror
    refine ⟨?_, ?_, ?_⟩
    · intro hsession
      exact Error.Within.concernsForm id (hwithin hsession _ (hcauses cause herror))
    · intro hform turns readings before after
      have hbefore := run_of_error hstyle session hwritable hform herror [] 0
      have hwhole := run_of_error hstyle session hwritable hform herror (readings.drop turns) 0
      rw [List.append_nil, Nat.zero_add, runSegments_nil] at hbefore
      rw [List.take_append_drop, Nat.zero_add] at hwhole
      have houtput : before.output = valueLines style (session.evalSegments readings).values ++
          errorLine settings cause := hbefore.output.trans String.append_empty
      exact ⟨houtput, hbefore.session, hbefore.failure, by rw [houtput]; exact hwhole.output,
        hwhole.session⟩
    · intro hform
      exact run_of_escaping_error hstyle session hwritable hform herror 0
  · intro before value later hsplit hbefore hvalue
    rw [hrun] at hsplit
    rw [htranscript]
    refine run_of_unwritable hstyle session hsplit
      (fun other hother => Expr.hasText_iff.mp (hbefore other hother)) ?_ 0
    rw [Expr.hasText_iff] at hvalue
    exact Bool.eq_false_iff.mpr hvalue

/-- A definition and a call of it, a call with too few arguments on the next line, and one more call
    that only the loop comes to. -/
theorem drivers_agree_too_few_arguments :
    let settings := { Settings.default with style := "list" }
    let session := Session.start Session.defaultLimit
    let text := "(DEFUN F (X) (PLUS X 1)) (F 1)\n(F) (F 2)"
    let run := session.evalSource (.ofString text)
    let load := session.loadSource (.ofString text)
    let transcript := ReadLoop.run settings false session (.ofText text)
    settings.style = Expr.Style.listed.name ∧
      run.error? = some (.eval (.arityMismatch "F" 1 0)) ∧
      load.error? = some (.eval (.arityMismatch "F" 1 0)) ∧
      load.session = run.session ∧
      transcript.output =
        "F\n2\n**ERR** F expects 1 parameters, but 0 were provided\n" ++ "3\n" := by
  intro settings session text run load transcript
  have herror : run.error? = some (.eval (.arityMismatch "F" 1 0)) := by decide +kernel
  obtain ⟨hload, hsession, htexts, hloop, _⟩ := drivers_agree settings .listed rfl session text
  obtain ⟨_, hform, _⟩ := (hloop (htexts (.inr (Session.within_start .all _)))).2 _ herror
  obtain ⟨hbefore, _, _, houtput, _⟩ := hform rfl
  refine ⟨rfl, herror, hload.trans herror, hsession, ?_⟩
  rw [houtput, hbefore]
  decide +kernel

end PairLisp
