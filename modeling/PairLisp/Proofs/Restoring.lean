import PairLisp.Proofs.ListRoundTrip
import PairLisp.Proofs.ReadLoop
import PairLisp.Proofs.SessionHistory

/-!
# Dumping and restoring definitions

A definition has a text: the `DEFUN` form that makes it, in list notation. This file shows that the
texts of all definitions of a session, the oldest first, make the same definitions in a fresh session,
up to the spelling of the ends of lists in their bodies. The route:

* the text of a definition is the list notation of a form (`text_eq_listText`), which reads back with
  the ends of its lists spelled out (`canon_form`);
* a definition is `Legible` if its names are identifiers and its form can be read. Every definition
  that comes from a form which was read is (`legible_of_accepted`), and the text of a legible definition
  makes it again (`evalSource_text`);
* whatever evaluating a readable form preserves holds of all sessions that are fed source text, in any
  of the ways there are (`FedText.preserves`), and so these hold legible definitions only
  (`restorable_of_fedText`);
* the texts are evaluated one after the other, each in a session with the definitions before it
  (`defs_restoring`).
-/

namespace PairLisp

open Token Grammar Eval

/-! ## The form of a definition -/

namespace Expr

theorem readable_of_proper {e : Expr} {items : List Expr} (h : e.Proper items) (he : e.Readable) :
    ∀ item ∈ items, item.Readable := by
  induction h with
  | nil _ => simp
  | cons _ ih => exact List.forall_mem_cons.mpr ⟨he.1, ih he.2⟩

/-- A list that ends in `NIL` is kept but for its items. -/
theorem canon_ofList_nil (items : List Expr) :
    (ofList items nil).canon = ofList (items.map canon) nil := by
  induction items with
  | nil => rfl
  | cons item items ih =>
      have hend : (ofList (items.map canon) nil).plainEnd = ofList (items.map canon) nil := by
        cases items with
        | nil => simp [nil, plainEnd, isNil_nil]
        | cons next rest => rfl
      rw [List.map_cons, ofList_cons, ofList_cons, canon, ih, hend]

end Expr

namespace Definition

/-- The form that makes this definition. -/
def form (d : Definition) : Expr :=
  .ofList [.atom "DEFUN", .atom d.name, .ofList (d.formals.map .atom) Expr.nil, d.body] Expr.nil

/-- This definition with every null atom that is the rest of a pair in its body spelled `NIL`. -/
def canon (d : Definition) : Definition :=
  { d with body := d.body.canon }

/-- A definition is written as its name, its parameters and its body between parentheses. -/
theorem text_eq (d : Definition) :
    d.text = "(" ++ "DEFUN" ++ " " ++ d.name ++ " " ++
      (Expr.ofList (d.formals.map .atom) Expr.nil).listText ++ " " ++ d.body.listText ++ ")" := rfl

/-- The text of a definition is its form in list notation. -/
theorem text_eq_listText {d : Definition} (h : d.form.Readable) : d.text = d.form.listText := by
  have hlistable {e : Expr} (he : e.Readable) : e.listable = true := Expr.ComposedOf.listable he id
  have hparts := Expr.readable_of_proper (Expr.proper_ofList _) h
  rw [text_eq, Expr.listText_eq_listed (hlistable (hparts _ (by simp))),
    Expr.listText_eq_listed (hlistable (hparts d.body (by simp))),
    Expr.listText_eq_listed (hlistable h)]
  simp only [form, Expr.ofList_cons, Expr.ofList_nil, Expr.nil, Expr.listed, Expr.listedRest,
    Expr.isNil_nil, if_true, String.append_assoc]

/-- Spelling null ends `NIL` in the form of a definition is spelling them so in its body. -/
theorem canon_form (d : Definition) : d.form.canon = d.canon.form := by
  have hformals : (Expr.ofList (d.formals.map .atom) Expr.nil).canon =
      Expr.ofList (d.formals.map .atom) Expr.nil := by
    rw [Expr.canon_ofList_nil, List.map_map]
    rfl
  rw [form, Expr.canon_ofList_nil, List.map_cons, List.map_cons, List.map_cons, List.map_cons,
    hformals]
  rfl

/-- The text does not tell apart the ends of lists. -/
theorem text_canon (d : Definition) : d.canon.text = d.text := by
  rw [text_eq, text_eq, canon, Expr.listText_canon]

/-- The names of the definition are identifiers, and its form can be read. -/
structure Legible (d : Definition) : Prop where
  name : Symbol.isIdentifier d.name = true
  formals : ∀ n ∈ d.formals, Symbol.isIdentifier n = true
  readable : d.form.Readable

/-- **A definition is legible if it was made by a form that can be read.** -/
theorem legible_of_accepted {e : Expr} {d : Definition} (h : AcceptedDefun e d) (he : e.Readable) :
    d.Legible := by
  obtain ⟨name, tail, rfl, _, hd⟩ := h
  cases describes_iff.mpr hd with
  | definition hproper hname hformals hnames =>
      have hparts := Expr.readable_of_proper hproper he.2
      have hnil := Expr.readable_nil
      refine ⟨hname, hnames, Expr.composedOf_ofList ?_ hnil⟩
      refine List.forall_mem_cons.mpr ⟨(by decide +kernel : Token.Readable "DEFUN"), ?_⟩
      rintro item (_ | ⟨_, _ | ⟨_, _ | ⟨_, hnone⟩⟩⟩)
      · exact hparts _ (by simp)
      · exact Expr.composedOf_ofList (Expr.readable_of_proper hformals (hparts _ (by simp))) hnil
      · exact hparts _ (by simp)
      · cases hnone

/-- The form of a legible definition makes that definition, whatever its body is. -/
theorem accepted_form_canon {d : Definition} (h : d.Legible) :
    AcceptedDefun d.canon.form d.canon := by
  refine ⟨"DEFUN", _, rfl, by decide +kernel, ?_⟩
  exact describes_iff.mp
    (.definition (Expr.proper_ofList _) h.name (Expr.proper_ofList _) h.formals)

end Definition

/-! ## Evaluating the text of a definition -/

/-- An expression in list notation is all that is read of its text. -/
theorem segments_listText {e : Expr} (h : e.Readable) :
    Reader.segments .start (lex e.listText) = [.ok e.canon] := by
  have htokens := (Expr.split_listed_append h).1 [] boundary_nil
  have hread := read_of_derives (Expr.derives_listTokens h).1 []
  rw [split_nil, List.append_nil] at htokens
  rw [List.append_nil] at hread
  rw [lex_eq_split, Expr.listText_eq_listed (Expr.ComposedOf.listable h id), htokens,
    List.append_nil, Reader.segments_start, hread]
  rfl

namespace Session

variable (session : Session)

/-- **The text of a legible definition makes it again** in every session that has a level. -/
theorem evalSource_text {d : Definition} (h : d.Legible) (hdepth : 0 < session.depth) :
    (session.evalSource (.ofString d.text)).answer = .ok (.one (.atom d.name)) ∧
      (session.evalSource (.ofString d.text)).session.defs = session.defs.add d.canon := by
  have hsegments : Reader.segments .start (TokenStream.ofSource (.ofString d.text)).toList =
      [.ok d.canon.form] := by
    rw [toList_ofString, Definition.text_eq_listText h.readable, segments_listText h.readable,
      Definition.canon_form]
  have hdefines : (session.request d.canon.form).Defines d.canon :=
    ⟨rfl, hdepth, Definition.accepted_form_canon h⟩
  obtain ⟨hresult, hdefs⟩ := hdefines.run session.defs
  have hvalue : (session.evalForm d.canon.form).result = .ok (.atom d.name) := hresult
  rw [evalSource_eq, ← segments_eq_readings, hsegments, evalSegments_ok, hvalue]
  exact ⟨rfl, hdefs⟩

theorem depth_performAll (steps : List Step) :
    (session.performAll steps).depth = session.depth := by
  obtain ⟨forms, hsession, _⟩ := session.performAll_eq steps
  rw [hsession, (session.afterForms_eq forms).2]

/-- The steps that evaluate the texts of definitions. -/
def restoring (ds : List Definition) : List Step :=
  ds.map fun d => .eval (.ofString d.text)

/-- **The texts of legible definitions make them again**, in order. -/
theorem defs_restoring {ds : List Definition} (h : ∀ d ∈ ds, 0 < session.depth ∧ d.Legible) :
    (session.performAll (restoring ds)).defs = session.defs.addAll (ds.map Definition.canon) := by
  induction ds generalizing session with
  | nil => rfl
  | cons d rest ih =>
      obtain ⟨⟨hdepth, hd⟩, hrest⟩ := List.forall_mem_cons.mp h
      have hsame : (session.perform (.eval (.ofString d.text))).depth = session.depth :=
        session.depth_performAll [.eval (.ofString d.text)]
      have hfirst : (session.perform (.eval (.ofString d.text))).defs = session.defs.add d.canon :=
        (session.evalSource_text hd hdepth).2
      show ((session.perform (.eval (.ofString d.text))).performAll (restoring rest)).defs = _
      rw [ih _ (by rwa [hsame]), hfirst]
      rfl

/-! ## Sessions that are fed source text -/

/-- The sessions that come about by feeding source text to a fresh one. -/
inductive FedText (limit : Nat) : Session → Prop where
  | start : FedText limit (start limit)
  /-- A source is evaluated. -/
  | eval {session : Session} (source : Source) :
      FedText limit session → FedText limit (session.evalSource source).session
  /-- A source is loaded for its definitions. -/
  | load {session : Session} (source : Source) :
      FedText limit session → FedText limit (session.loadSource source).session
  /-- The read loop is run over a source. -/
  | loop {session : Session} (settings : Settings) (prompting : Bool) (source : Source) :
      FedText limit session → FedText limit (ReadLoop.run settings prompting session source).session

/-- What every turn preserves, evaluation up to the first error preserves. -/
theorem evalSegments_preserves {P : Session → Prop} {segments : List (Except ReadError Expr)}
    (hturn : ∀ session, ∀ segment ∈ segments, P session → P (session.turn segment).2)
    {session : Session} (h : P session) : P (session.evalSegments segments).session := by
  induction segments generalizing session with
  | nil => exact h
  | cons segment rest ih =>
      cases segment with
      | error cause => exact h
      | ok e =>
          have hnext : P (session.afterForm e) := hturn session (.ok e) List.mem_cons_self h
          rw [evalSegments_ok]
          cases (session.evalForm e).result with
          | error cause => exact hnext
          | ok value =>
              exact ih (fun session next hmem => hturn session next (List.mem_cons_of_mem _ hmem))
                hnext

/-- **What readable forms preserve holds of every session that is fed source text**, if it holds at
    the start. -/
theorem FedText.preserves {P : Session → Prop} {limit : Nat} (hstart : P (.start limit))
    (hform : ∀ (session : Session) (e : Expr), e.Readable → P session → P (session.afterForm e))
    {session : Session} (h : FedText limit session) : P session := by
  have hturn : ∀ (source : Source) (session : Session),
      ∀ segment ∈ (TokenStream.ofSource source).readings.map Prod.snd,
        P session → P (session.turn segment).2 := by
    intro source session segment hmem hsession
    obtain ⟨part, hpart, rfl⟩ := List.mem_map.mp hmem
    cases he : part.2 with
    | error cause => exact hsession
    | ok e => exact hform session e (readable_of_mem_readings hpart he) hsession
  induction h with
  | start => exact hstart
  | eval source _ ih =>
      rw [evalSource_eq]
      exact evalSegments_preserves (hturn source) ih
  | load source _ ih =>
      rw [loadSource_eq, evalSource_eq]
      exact evalSegments_preserves (hturn source) ih
  | loop settings prompting source _ ih =>
      rw [ReadLoop.run_eq]
      exact ReadLoop.runSegments_preserves (hturn source) ih prompting 0

/-- The definitions of the session are legible, and there are none if there is no level. -/
def Restorable (limit : Nat) (session : Session) : Prop :=
  session.depth = levels limit ∧ ∀ d ∈ session.defs.history, 0 < levels limit ∧ d.Legible

/-- A form that can be written leaves a session that can be restored. -/
theorem Restorable.afterForm {limit : Nat} {session : Session} (h : session.Restorable limit)
    {e : Expr} (he : e.Readable) : (session.afterForm e).Restorable limit := by
  refine ⟨h.1, fun d hd => ?_⟩
  rw [defs_afterForm, Definitions.history_addAll] at hd
  rcases List.mem_append.mp hd with hnew | hold
  · have hmade := Option.mem_toList.mp (List.mem_reverse.mp hnew)
    obtain ⟨_, hdepth, haccepted⟩ := session.definition?_evalForm_eq_some_iff.mp hmade
    refine ⟨?_, Definition.legible_of_accepted haccepted he⟩
    rw [← h.1]
    exact hdepth
  · exact h.2 d hold

/-- A session that is fed source text holds legible definitions only. -/
theorem restorable_of_fedText {limit : Nat} {session : Session} (h : session.FedText limit) :
    session.Restorable limit := by
  refine h.preserves ⟨rfl, ?_⟩ fun session e he hsession => hsession.afterForm he
  intro d hd
  cases hd

/-- **Definitions can be dumped and restored.** The texts of all definitions of a session that was fed
    source text, errors included, are evaluated in a fresh session, the oldest first. Each of them
    answers the name of its function, and the table that results has the same number of definitions in
    the same order: with the same name, the same parameters and the same body up to null atoms in rest
    position, which are spelled `NIL`, and with the same text. The fresh session has any limit, but it
    has a level if the first one has some. -/
theorem definitions_can_be_restored (limit fresh : Nat)
    (hfresh : 0 < levels limit → 0 < levels fresh) (session : Session)
    (hsession : session.FedText limit) :
    let dumped := session.defs.history.reverse
    (∀ before d after, dumped = before ++ d :: after →
      (((start fresh).performAll (restoring before)).evalSource (.ofString d.text)).answer =
        .ok (.one (.atom d.name))) ∧
    List.Forall₂ (fun d restored => restored.name = d.name ∧ restored.formals = d.formals ∧
        restored.body = d.body.canon ∧ restored.text = d.text)
      session.defs.history ((start fresh).performAll (restoring dumped)).defs.history := by
  intro dumped
  have hdumped : ∀ d ∈ dumped, 0 < (start fresh).depth ∧ d.Legible := by
    intro d hd
    obtain ⟨hlevels, hlegible⟩ := (restorable_of_fedText hsession).2 d (List.mem_reverse.mp hd)
    exact ⟨hfresh hlevels, hlegible⟩
  refine ⟨?_, ?_⟩
  · intro before d after hsplit
    obtain ⟨hdepth, hd⟩ := hdumped d (by rw [hsplit]; simp)
    refine (evalSource_text _ hd ?_).1
    rw [depth_performAll]
    exact hdepth
  · have hhistory : ((start fresh).performAll (restoring dumped)).defs.history =
        session.defs.history.map Definition.canon := by
      rw [defs_restoring (start fresh) hdumped, Definitions.history_addAll, List.map_reverse,
        List.reverse_reverse]
      exact List.append_nil _
    rw [hhistory, List.forall₂_map_right_iff, List.forall₂_same]
    intro d _
    exact ⟨rfl, rfl, rfl, d.text_canon⟩

/-- A parameter that is spelled `nil`, the ends of lists in other spellings, a form that fails and, in
    the loop behind it, a function without parameters. -/
theorem definitions_can_be_restored_nil_parameter :
    let first := ((start defaultLimit).evalSource
      (.ofString "(defun f (nil . Nil) (quote (a . nil))) (CAR 1) (DEFUN LATER () 1)")).session
    let session := (ReadLoop.run Settings.default true first (.ofText "(F) )\n(DEFUN G nil T)")).session
    let f : Definition :=
      ⟨"f", ["nil"], .ofList [.atom "quote", .pair (.atom "a") (.atom "nil")] Expr.nil⟩
    let g : Definition := ⟨"G", [], .atom "T"⟩
    let restored := (start defaultLimit).performAll (restoring session.defs.history.reverse)
    (0 < levels defaultLimit → 0 < levels defaultLimit) ∧ session.FedText defaultLimit ∧
      session.defs.history = [g, f] ∧ f.text = "(DEFUN f (nil) (quote (a)))" ∧
      (((start defaultLimit).performAll (restoring [f])).evalSource (.ofString g.text)).answer =
        .ok (.one (.atom "G")) ∧
      session.defs.history.length = restored.defs.history.length := by
  intro first session f g restored
  have hsession : session.FedText defaultLimit := .loop _ _ _ (.eval _ .start)
  have hhistory : session.defs.history = [g, f] := by decide +kernel
  obtain ⟨hanswers, hrestored⟩ :=
    definitions_can_be_restored defaultLimit defaultLimit id session hsession
  have hsplit : session.defs.history.reverse = [f] ++ g :: [] := congrArg List.reverse hhistory
  exact ⟨id, hsession, hhistory, by decide +kernel, hanswers [f] g [] hsplit, hrestored.length_eq⟩

end Session

end PairLisp
