import PairLisp.Proofs.Readings
import PairLisp.Proofs.TableEntries
import PairLisp.Session

/-!
# What a session remembers

A session is asked to evaluate sources of text, to load some for their definitions and to evaluate
single forms, and much of this may fail: a text may be broken, a form may have no value, levels may
run out. This file shows that all a session is left with is the definitions that it accepted. The
route:

* `Executed` is a form that was evaluated, with what it came to. It makes a definition if it is a
  `DEFUN` that did not fail (`Executed.definition?`);
* one form adds what it makes and nothing else (`defs_afterForm`), so forms in a row add what they
  make in order (`defs_afterForms`);
* a source is evaluated up to the first failure (`UpToFailure`). This holds of evaluation and of
  loading alike, since the two come to the same but for the values (`loadSource_eq`);
* a step comes to evaluating the forms that it executes (`perform_eq`), and the table after any number
  of steps follows by induction (`defs_performAll`).
-/

namespace PairLisp

open Eval

/-! ## Definitions that forms make -/

/-- The definition that a form describes, if it is a `DEFUN`. -/
def Definition.ofForm? : Expr → Option Definition
  | .pair (.atom name) tail =>
    if Symbol.key name = "DEFUN" then (ofOperands tail).toOption else none
  | _ => none

/-- The definition that a form makes is the one that it is accepted for. -/
theorem Definition.ofForm?_eq_some_iff {form : Expr} {d : Definition} :
    ofForm? form = some d ↔ AcceptedDefun form d := by
  constructor
  · intro h
    match form with
    | .atom token => cases h
    | .blank => cases h
    | .pair .blank tail => cases h
    | .pair (.pair first rest) tail => cases h
    | .pair (.atom name) tail =>
        rw [ofForm?] at h
        split at h
        · next hkey =>
            refine ⟨name, tail, rfl, hkey, ?_⟩
            cases hd : ofOperands tail with
            | error fault =>
                rw [hd] at h
                cases h
            | ok found =>
                rw [hd] at h
                cases h
                rfl
        · cases h
  · rintro ⟨name, tail, rfl, hkey, hd⟩
    rw [ofForm?, if_pos hkey, hd]
    rfl

/-- A form that was evaluated, and what it came to. -/
structure Executed where
  form : Expr
  result : Except EvalError Expr

/-- The definition that was made: the one that the form describes, unless the form failed. -/
def Executed.definition? (x : Executed) : Option Definition :=
  match x.result with
  | .ok _ => Definition.ofForm? x.form
  | .error _ => none

namespace Session

/-! ## Forms in a row -/

/-- The request that a session makes of the evaluator for a form. -/
def request (session : Session) (form : Expr) : Request :=
  ⟨form, session.env, true, session.depth⟩

/-- The session after a form, whatever it came to. -/
def afterForm (session : Session) (form : Expr) : Session :=
  session.after (session.evalForm form)

/-- The session after forms that are evaluated one after the other. -/
def afterForms (session : Session) (forms : List Expr) : Session :=
  forms.foldl afterForm session

/-- Forms that are evaluated one after the other, each with what it comes to. -/
def executed (session : Session) : List Expr → List Executed
  | [] => []
  | form :: rest => ⟨form, (session.evalForm form).result⟩ :: (session.afterForm form).executed rest

variable (session : Session)

/-- A form makes a definition exactly if the request for it defines something. -/
theorem definition?_evalForm_eq_some_iff {form : Expr} {d : Definition} :
    (Executed.mk form (session.evalForm form).result).definition? = some d ↔
      (session.request form).Defines d := by
  constructor
  · intro h
    cases hresult : (session.evalForm form).result with
    | error cause =>
        rw [hresult] at h
        cases h
    | ok value =>
        rw [hresult] at h
        -- without a level there is no value
        have hdepth : 0 < session.depth := by
          refine Nat.pos_of_ne_zero fun hzero => ?_
          rw [evalForm, hzero] at hresult
          cases hresult
        exact ⟨rfl, hdepth, Definition.ofForm?_eq_some_iff.mp h⟩
  · intro h
    have hresult : (session.evalForm form).result = .ok (.atom d.name) := (h.run session.defs).1
    rw [hresult]
    exact Definition.ofForm?_eq_some_iff.mpr h.2.2

/-- **A form adds the definition that it makes, and nothing else.** -/
theorem defs_afterForm (form : Expr) :
    (session.afterForm form).defs =
      session.defs.addAll
        (Executed.mk form (session.evalForm form).result).definition?.toList := by
  show ((session.request form).run session.defs).defs = _
  cases hmade : (Executed.mk form (session.evalForm form).result).definition? with
  | some d =>
      have hd := (definition?_evalForm_eq_some_iff session).mp hmade
      rw [(hd.run session.defs).2]
      rfl
  | none =>
      refine table_run_of_not_defines ?_ session.defs
      intro d hd
      rw [(definition?_evalForm_eq_some_iff session).mpr hd] at hmade
      cases hmade

/-- **Forms in a row add the definitions that they make**, in order. -/
theorem defs_afterForms (forms : List Expr) :
    (session.afterForms forms).defs =
      session.defs.addAll ((session.executed forms).filterMap Executed.definition?) := by
  induction forms generalizing session with
  | nil => rfl
  | cons form rest ih =>
      show ((session.afterForm form).afterForms rest).defs = _
      rw [ih, defs_afterForm, ← Definitions.addAll_append, executed, List.filterMap_cons]
      cases (Executed.mk form (session.evalForm form).result).definition? with
      | none => rfl
      | some d => rfl

/-- Forms leave alone all of a session but its table. -/
theorem afterForms_eq (forms : List Expr) :
    (session.afterForms forms).env = session.env ∧
      (session.afterForms forms).depth = session.depth := by
  induction forms generalizing session with
  | nil => exact ⟨rfl, rfl⟩
  | cons form rest ih => exact ih (session.afterForm form)

theorem afterForms_append (forms later : List Expr) :
    session.afterForms (forms ++ later) = (session.afterForms forms).afterForms later :=
  List.foldl_append

/-- What later forms come to depends on the session that earlier ones left. -/
theorem executed_append (forms later : List Expr) :
    session.executed (forms ++ later) =
      session.executed forms ++ (session.afterForms forms).executed later := by
  induction forms generalizing session with
  | nil => rfl
  | cons form rest ih =>
      rw [List.cons_append, executed, ih, executed, List.cons_append]
      rfl

/-- Every definition that was made is described by a form for which the request defines it: the
    environment and the levels are those of the session throughout. -/
theorem defines_of_mem_executed {forms : List Expr} {x : Executed} (hx : x ∈ session.executed forms)
    {d : Definition} (hd : x.definition? = some d) : (session.request x.form).Defines d := by
  induction forms generalizing session with
  | nil => cases hx
  | cons form rest ih =>
      rcases List.mem_cons.mp hx with rfl | hrest
      · exact (definition?_evalForm_eq_some_iff session).mp hd
      · exact ih (session.afterForm form) hrest

/-! ## Sources of text -/

/-- What is evaluated of the readings of a source, and the error that ends it: `done` are the forms
    that have values, each with its value, and behind them are the end of the source, something that
    cannot be read or a form that fails. Nothing is evaluated behind a failure. -/
inductive UpToFailure (done : List (Expr × Expr)) :
    List (Except ReadError Expr) → List Executed → Option Error → Prop where
  | finished : UpToFailure done (done.map fun item => .ok item.1)
      (done.map fun item => ⟨item.1, .ok item.2⟩) none
  | unreadable {cause : ReadError} {later : List (Except ReadError Expr)} :
      UpToFailure done (done.map (fun item => .ok item.1) ++ .error cause :: later)
        (done.map fun item => ⟨item.1, .ok item.2⟩) (some (.read cause))
  | failed {form : Expr} {cause : EvalError} {later : List (Except ReadError Expr)} :
      UpToFailure done (done.map (fun item => .ok item.1) ++ .ok form :: later)
        (done.map (fun item => ⟨item.1, .ok item.2⟩) ++ [⟨form, .error cause⟩])
        (some (.eval cause))

/-- A form that has a value comes before what goes on up to the failure. -/
theorem UpToFailure.cons {done : List (Expr × Expr)} {readings : List (Except ReadError Expr)}
    {executed : List Executed} {error? : Option Error}
    (h : UpToFailure done readings executed error?) (form value : Expr) :
    UpToFailure ((form, value) :: done) (.ok form :: readings) (⟨form, .ok value⟩ :: executed)
      error? := by
  cases h with
  | finished => exact .finished
  | unreadable => exact .unreadable
  | failed => exact .failed

/-- Evaluates the forms among some readings, up to the first error. -/
def evalSegments (session : Session) (segments : List (Except ReadError Expr)) : Run :=
  TokenStream.driveAll evalReading (fun last => ⟨[], none, last, [], []⟩) session segments

/-- The forms of a source are evaluated as its readings are. -/
theorem evalSource_eq (source : Source) :
    session.evalSource source =
      session.evalSegments ((TokenStream.ofSource source).readings.map Prod.snd) :=
  TokenStream.drive_eq evalReading _ session _

/-- What evaluating a form and what follows it comes to, by what the form comes to. -/
theorem evalSegments_ok (form : Expr) (later : List (Except ReadError Expr)) :
    session.evalSegments (.ok form :: later) =
      match (session.evalForm form).result with
      | .error cause =>
        ⟨[], some (.eval cause), session.afterForm form, (session.evalForm form).events, [form]⟩
      | .ok value =>
        let run := (session.afterForm form).evalSegments later
        { run with
          values := value :: run.values
          events := (session.evalForm form).events ++ run.events
          forms := form :: run.forms } := by
  rw [evalSegments, TokenStream.driveAll, evalReading]
  cases (session.evalForm form).result <;> rfl

variable (segments : List (Except ReadError Expr))

/-- **Evaluation goes up to the first failure**, and the forms that have values are those whose values
    are returned. -/
theorem upToFailure_evalSegments :
    ∃ done, UpToFailure done segments (session.executed (session.evalSegments segments).forms)
        (session.evalSegments segments).error? ∧
      (session.evalSegments segments).values = done.map Prod.snd := by
  induction segments generalizing session with
  | nil => exact ⟨[], .finished, rfl⟩
  | cons segment rest ih =>
      cases segment with
      | error cause => exact ⟨[], .unreadable, rfl⟩
      | ok form =>
          rw [evalSegments_ok]
          cases hresult : (session.evalForm form).result with
          | error cause =>
              refine ⟨[], ?_, rfl⟩
              show UpToFailure [] _ [⟨form, (session.evalForm form).result⟩] _
              rw [hresult]
              exact .failed
          | ok value =>
              obtain ⟨done, hdone, hvalues⟩ := ih (session.afterForm form)
              refine ⟨(form, value) :: done, ?_, congrArg (value :: ·) hvalues⟩
              have hcons := hdone.cons form value
              rw [← hresult] at hcons
              exact hcons

/-- A run leaves the session that its forms lead to. -/
theorem session_evalSegments :
    (session.evalSegments segments).session =
      session.afterForms (session.evalSegments segments).forms := by
  induction segments generalizing session with
  | nil => rfl
  | cons segment rest ih =>
      cases segment with
      | error cause => rfl
      | ok form =>
          rw [evalSegments_ok]
          cases (session.evalForm form).result with
          | error cause => rfl
          | ok value => exact ih (session.afterForm form)

/-- What a run comes to apart from its values. -/
def Run.load (run : Run) : Load :=
  ⟨run.error?, run.session, run.events, run.forms⟩

/-- **Loading a source is evaluating it and dropping the values.** Both deal with each reading alike. -/
theorem loadSource_eq (source : Source) :
    session.loadSource source = (session.evalSource source).load := by
  rw [loadSource, TokenStream.drive_eq, evalSource_eq, evalSegments]
  refine TokenStream.driveAll_rel Eq (fun (load : Load) (run : Run) => load = run.load) ?_ ?_ rfl
  · rintro session _ rfl reading -
    cases reading with
    | error cause => exact .ends rfl
    | ok form =>
        rw [loadReading, evalReading]
        cases (session.evalForm form).result with
        | error cause => exact .ends rfl
        | ok value =>
            refine .goesOn rfl ?_
            rintro _ run rfl
            rfl
  · rintro session _ rfl
    rfl

/-! ## Steps -/

/-- What a session can be asked to do. -/
inductive Step where
  /-- To evaluate a source of text. -/
  | eval (source : Source)
  /-- To load a source of text for its definitions. -/
  | load (source : Source)
  /-- To evaluate a form. -/
  | form (e : Expr)

/-- The session after a step. -/
def perform : Step → Session
  | .eval source => (session.evalSource source).session
  | .load source => (session.loadSource source).session
  | .form e => session.afterForm e

/-- The forms that a step executes, a failed one included. -/
def formsOf : Step → List Expr
  | .eval source => (session.evalSource source).forms
  | .load source => (session.loadSource source).forms
  | .form e => [e]

/-- The session after some steps. -/
def performAll (steps : List Step) : Session :=
  steps.foldl perform session

/-- What some steps execute, in order. -/
def executedBy (session : Session) : List Step → List Executed
  | [] => []
  | step :: rest => session.executed (session.formsOf step) ++ (session.perform step).executedBy rest

/-- A step comes to evaluating the forms that it executes. -/
theorem perform_eq (step : Step) :
    session.perform step = session.afterForms (session.formsOf step) := by
  cases step with
  | eval source =>
      rw [perform, formsOf, evalSource_eq]
      exact session.session_evalSegments _
  | load source =>
      rw [perform, formsOf, loadSource_eq, evalSource_eq]
      exact session.session_evalSegments _
  | form e => rfl

/-- And so do some steps. -/
theorem performAll_eq (steps : List Step) :
    ∃ forms, session.performAll steps = session.afterForms forms ∧
      session.executedBy steps = session.executed forms := by
  induction steps generalizing session with
  | nil => exact ⟨[], rfl, rfl⟩
  | cons step rest ih =>
      obtain ⟨forms, hsession, hexecuted⟩ := ih (session.perform step)
      refine ⟨session.formsOf step ++ forms, ?_, ?_⟩
      · show (session.perform step).performAll rest = _
        rw [hsession, afterForms_append, perform_eq]
      · rw [executedBy, hexecuted, executed_append, perform_eq]

/-- **The table after some steps** has the definitions that were made, in order. -/
theorem defs_performAll (steps : List Step) :
    (session.performAll steps).defs =
      session.defs.addAll ((session.executedBy steps).filterMap Executed.definition?) := by
  obtain ⟨forms, hsession, hexecuted⟩ := session.performAll_eq steps
  rw [hsession, hexecuted, defs_afterForms]

/-- Forms that make definitions make the same ones in every session with the same environment and the
    same levels. -/
theorem executedBy_forms {made : List Executed}
    (h : ∀ x ∈ made, ∃ d, (session.request x.form).Defines d ∧ x.definition? = some d) :
    (session.executedBy (made.map fun x => .form x.form)).filterMap Executed.definition? =
      made.filterMap Executed.definition? := by
  induction made generalizing session with
  | nil => rfl
  | cons x rest ih =>
      obtain ⟨d, hdefines, hd⟩ := h x List.mem_cons_self
      have hmade := (definition?_evalForm_eq_some_iff session).mpr hdefines
      have hrest := ih (session.afterForm x.form) fun y hy => h y (List.mem_cons_of_mem x hy)
      show List.filterMap Executed.definition? (⟨x.form, (session.evalForm x.form).result⟩ ::
        (session.afterForm x.form).executedBy (rest.map fun x => .form x.form)) = _
      rw [List.filterMap_cons_some hmade, List.filterMap_cons_some hd, hrest]

/-- Leaving out the forms that make nothing changes nothing about what is made. -/
theorem filterMap_definition?_filter (xs : List Executed) :
    (xs.filter fun x => x.definition?.isSome).filterMap Executed.definition? =
      xs.filterMap Executed.definition? := by
  have hdrop : (fun x : Executed => if x.definition?.isSome = true then x.definition? else none) =
      Executed.definition? := by
    funext x
    cases x.definition? with
    | none => rfl
    | some d => rfl
  rw [List.filterMap_filter, hdrop]

/-- An accepted form makes its definition in every session like this one. -/
theorem defines_of_accepted {steps : List Step} {x : Executed}
    (h : x ∈ (session.executedBy steps).filter fun x => x.definition?.isSome) :
    ∃ d, (session.request x.form).Defines d ∧ x.definition? = some d := by
  obtain ⟨forms, _, hexecuted⟩ := session.performAll_eq steps
  obtain ⟨hmem, hsome⟩ := List.mem_filter.mp h
  obtain ⟨d, hd⟩ := Option.isSome_iff_exists.mp hsome
  rw [hexecuted] at hmem
  exact ⟨d, session.defines_of_mem_executed hmem hd, hd⟩

/-- A source that is evaluated is executed up to the first failure among its readings. -/
theorem upToFailure_evalSource (source : Source) :
    ∃ done, UpToFailure done ((TokenStream.ofSource source).readings.map Prod.snd)
        (session.executedBy [.eval source]) (session.evalSource source).error? ∧
      (session.evalSource source).values = done.map Prod.snd := by
  rw [executedBy, formsOf, executedBy, List.append_nil, evalSource_eq]
  exact session.upToFailure_evalSegments _

/-- Loading a source executes the same forms. -/
theorem executedBy_load (source : Source) :
    session.executedBy [.load source] = session.executedBy [.eval source] := by
  have hforms : session.formsOf (.load source) = session.formsOf (.eval source) := by
    show (session.loadSource source).forms = (session.evalSource source).forms
    rw [loadSource_eq]
    rfl
  show session.executed (session.formsOf (.load source)) ++ [] = _
  rw [hforms]
  rfl

/-- **A session is the history of the definitions that it accepted.** After any steps from the start
    the ambient environment is empty, and the history of the table has the definitions described by
    the accepted forms, the last one first: a form is accepted if it is a `DEFUN` that was executed and
    did not fail. A fresh session that is given these forms only, in order, comes to the same table.
    What is executed of a source of text, in any session, is the forms up to the first failure, be it
    one of reading or of evaluation. -/
theorem session_is_history_of_definitions (limit : Nat) (steps : List Step) :
    let session := (start limit).performAll steps
    let accepted := ((start limit).executedBy steps).filter fun x => x.definition?.isSome
    session.env = .empty ∧
    session.defs.history = (accepted.filterMap Executed.definition?).reverse ∧
    ((start limit).performAll (accepted.map fun x => .form x.form)).defs = session.defs ∧
    ∀ (before : Session) (source : Source),
      let readings := (TokenStream.ofSource source).readings.map Prod.snd
      (∃ done, UpToFailure done readings (before.executedBy [.eval source])
          (before.evalSource source).error? ∧
        (before.evalSource source).values = done.map Prod.snd) ∧
      ∃ done, UpToFailure done readings (before.executedBy [.load source])
        (before.loadSource source).error? := by
  intro session accepted
  obtain ⟨forms, hsession, _⟩ := (start limit).performAll_eq steps
  have hmade : accepted.filterMap Executed.definition? =
      ((start limit).executedBy steps).filterMap Executed.definition? :=
    filterMap_definition?_filter _
  have hdefs : session.defs =
      (start limit).defs.addAll (accepted.filterMap Executed.definition?) := by
    rw [hmade]
    exact (start limit).defs_performAll steps
  refine ⟨?_, ?_, ?_, ?_⟩
  · show ((start limit).performAll steps).env = .empty
    rw [hsession]
    exact ((start limit).afterForms_eq forms).1
  · rw [hdefs, Definitions.history_addAll]
    exact List.append_nil _
  · rw [defs_performAll, executedBy_forms (start limit) fun x => defines_of_accepted _, hdefs]
  · intro before source readings
    obtain ⟨done, hdone, hvalues⟩ := before.upToFailure_evalSource source
    refine ⟨⟨done, hdone, hvalues⟩, done, ?_⟩
    rw [executedBy_load, loadSource_eq]
    exact hdone

end Session
end PairLisp
