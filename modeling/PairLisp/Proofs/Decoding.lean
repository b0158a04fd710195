import PairLisp.Proofs.ListNotation
import PairLisp.Proofs.ReadLoop

/-!
# The output of the read loop can be decoded

Without prompts the output of the loop is a sequence of lines. Each line belongs to one turn, its
beginning tells values from errors, and in dot notation the value itself can be read from it. All of
this rests on the tokens that can get into a line: whatever a session evaluates began as a text, so
its atoms and names are symbols of texts, which have no blanks and no line feeds in them.

* `Vocabulary.readable` is the vocabulary of the symbols of texts, and every session that the loop
  has made from the start keeps to it (`within_afterRuns`);
* messages and values within it have no line feed (`singleLine_message`, `singleLine_write`), nor do
  the messages about tokens (`singleLine_of_mem_segments`), so every record is one line
  (`splitLines_join`);
* no value looks like an error (`not_marked_write`), and dot notation comes back from its line
  (`read_dotText_line`).
-/

namespace PairLisp

open Token Grammar

/-! ## Texts within a line -/

/-- A text without a line feed. -/
def SingleLine (text : String) : Prop :=
  '\n' ∉ text.toList

instance (text : String) : Decidable (SingleLine text) :=
  inferInstanceAs (Decidable (_ ∉ _))

theorem SingleLine.append {first second : String} (hfirst : SingleLine first)
    (hsecond : SingleLine second) : SingleLine (first ++ second) := by
  rw [SingleLine, String.toList_append, List.mem_append]
  exact fun h => h.elim hfirst hsecond

/-- A symbol of a text has no line feed, as it has no blanks. -/
theorem singleLine_of_readable {token : String} (h : Token.Readable token) : SingleLine token :=
  fun hmem => h.2.1 '\n' hmem (by decide)

theorem singleLine_repr (n : Nat) : SingleLine n.repr := by
  rw [SingleLine, Nat.repr, String.toList_ofList]
  intro h
  have hdigit : '\n'.isDigit = true := Nat.isDigit_of_mem_toDigits (by decide) (by decide) h
  exact absurd hdigit (by decide)

namespace Source

/-- The first line of a text is cut off behind its line feed. -/
theorem splitLines_append {body : List Char} (h : '\n' ∉ body) (line rest : List Char) :
    splitLines line (body ++ '\n' :: rest) =
      String.ofList (line.reverse ++ body ++ ['\n']) :: splitLines [] rest := by
  induction body generalizing line with
  | nil => simp [splitLines]
  | cons c body ih =>
      obtain ⟨hc, hbody⟩ := List.ne_and_not_mem_of_not_mem_cons h
      rw [List.cons_append, splitLines, if_neg (Ne.symm hc), ih hbody, List.reverse_cons,
        List.append_assoc line.reverse, List.singleton_append]

/-- Records without line feeds can be told apart once each has been ended by one. -/
theorem splitLines_join {records : List String} (h : ∀ record ∈ records, SingleLine record) :
    splitLines [] (String.join (records.map (· ++ "\n"))).toList = records.map (· ++ "\n") := by
  induction records with
  | nil => rfl
  | cons record records ih =>
      obtain ⟨hrecord, hrecords⟩ := List.forall_mem_cons.mp h
      have htext : (String.join ((record :: records).map (· ++ "\n"))).toList =
          record.toList ++ '\n' :: (String.join (records.map (· ++ "\n"))).toList := by
        simp
      have hline : String.ofList (record.toList ++ ['\n']) = record ++ "\n" := by
        simp
      rw [htext, splitLines_append hrecord, ih hrecords, List.map_cons, List.reverse_nil,
        List.nil_append, hline]

end Source

/-- There are as many line feeds as records. -/
theorem count_join {records : List String} (h : ∀ record ∈ records, SingleLine record) :
    (String.join (records.map (· ++ "\n"))).toList.count '\n' = records.length := by
  induction records with
  | nil => rfl
  | cons record records ih =>
      obtain ⟨hrecord, hrecords⟩ := List.forall_mem_cons.mp h
      have hnone : record.toList.count '\n' = 0 := List.count_eq_zero.mpr hrecord
      rw [List.map_cons, String.join_cons, String.toList_append, String.toList_append,
        List.count_append, List.count_append, hnone, ih hrecords, List.length_cons, Nat.zero_add,
        Nat.add_comm]
      rfl

/-! ## The symbols of texts -/

/-- The numeral of an integer can be a symbol. -/
theorem readable_ofInt (n : Int) : Token.Readable (Numeral.ofInt n) := by
  have hdigits : ∀ c ∈ Nat.toDigits 10 n.natAbs, c.isDigit = true := fun c hc =>
    Nat.isDigit_of_mem_toDigits (by decide) (by decide) hc
  have hchars : ∀ c ∈ (Numeral.ofInt n).toList, c = '-' ∨ c.isDigit = true := by
    rw [Numeral.ofInt, String.toList_ofList]
    intro c hc
    rcases List.mem_append.mp hc with hsign | hdigit
    · split at hsign
      · exact .inl (List.mem_singleton.mp hsign)
      · cases hsign
    · exact .inr (hdigits c hdigit)
  refine ⟨?_, ?_, ?_⟩
  · rw [Numeral.ofInt, ne_eq, ← String.toList_eq_nil_iff, String.toList_ofList,
      List.append_eq_nil_iff]
    exact fun h => Nat.toDigits_ne_nil h.2
  · intro c hc hmem
    rcases hchars c hc with rfl | hdigit
    · exact absurd hmem (by decide)
    · have hnone : (blanks ++ delimiters).all (fun c => !c.isDigit) = true := by decide
      have hc := List.all_eq_true.mp hnone c hmem
      rw [hdigit] at hc
      cases hc
  · intro hdot
    rcases hchars '.' (List.mem_of_mem_head? hdot) with h | h
    · exact absurd h (by decide)
    · exact absurd h (by decide)

/-- The vocabulary of the symbols that a text can have. -/
def Vocabulary.readable : Vocabulary where
  atoms := Token.Readable
  names := Token.Readable
  blanks := False
  names_of_atoms h := h
  truth := by decide +kernel
  nil := by decide +kernel
  numeral n _ := readable_ofInt n
  label p := by cases p <;> decide +kernel
  quote := by decide +kernel

/-- The session after the loop has run over some texts, each with settings of its own and without
    prompts. -/
def ReadLoop.afterRuns (session : Session) (inputs : List (Settings × String)) : Session :=
  inputs.foldl (fun session input => (run input.1 false session (.ofText input.2)).session) session

/-- **Whatever texts a session is made of, all it holds are symbols of texts.** -/
theorem within_afterRuns {session : Session} (h : session.Within .readable)
    (inputs : List (Settings × String)) : (ReadLoop.afterRuns session inputs).Within .readable := by
  induction inputs generalizing session with
  | nil => exact h
  | cons input inputs ih =>
      have hnext : (ReadLoop.run input.1 false session (.ofText input.2)).session.Within
          .readable := by
        rw [ReadLoop.run_eq]
        exact ReadLoop.within_runSegments h false 0
          (segmentWithin_of_mem_readings fun _ htoken => htoken)
      rw [ReadLoop.afterRuns, List.foldl_cons]
      exact ih hnext

/-! ## Values and messages within a line -/

theorem singleLine_dotted {e : Expr} (h : e.Readable) : SingleLine e.dotted := by
  induction e with
  | atom token => exact singleLine_of_readable h
  | pair first rest ihfirst ihrest =>
      have hopen : SingleLine ("(" ++ first.dotted) := .append (by decide) (ihfirst h.1)
      exact ((hopen.append (by decide)).append (ihrest h.2)).append (by decide)
  | blank => exact False.elim h

/-- List notation has no line feed, neither as a whole nor behind an item. -/
theorem singleLine_listed {e : Expr} (h : e.Readable) :
    SingleLine e.listed ∧ SingleLine e.listedRest := by
  induction e with
  | atom token =>
      have htoken : SingleLine token := singleLine_of_readable h
      refine ⟨htoken, ?_⟩
      rw [Expr.listedRest]
      split
      · decide
      · exact (SingleLine.append (by decide) htoken).append (by decide)
  | pair first rest ihfirst ihrest =>
      obtain ⟨hfirst, -⟩ := ihfirst h.1
      obtain ⟨-, hrest⟩ := ihrest h.2
      exact ⟨(SingleLine.append (by decide) hfirst).append hrest,
        (SingleLine.append (by decide) hfirst).append hrest⟩
  | blank => exact False.elim h

theorem singleLine_listText {e : Expr} (h : e.Readable) : SingleLine e.listText := by
  rw [Expr.listText_eq_listed (Expr.ComposedOf.listable h id)]
  exact (singleLine_listed h).1

/-- **A value is written in one line**, in either notation. -/
theorem singleLine_write {e : Expr} (h : e.Readable) (style : Expr.Style) :
    SingleLine (e.write style) := by
  cases style with
  | dotted =>
      rw [Expr.write, Expr.dotText_eq_dotted]
      exact singleLine_dotted h
  | listed => exact singleLine_listText h

/-- A text between two others that have no line feed. -/
theorem SingleLine.between {text : String} (h : SingleLine text) {left right : String}
    (hleft : SingleLine left) (hright : SingleLine right) : SingleLine (left ++ text ++ right) :=
  (hleft.append h).append hright

/-- A message that quotes an expression of symbols is one line if the rest of it is. -/
theorem singleLine_quotingMessage {e : Expr} (h : e.Readable) {said : String}
    (hsaid : SingleLine said) : SingleLine (quotingMessage e said) := by
  rw [Expr.quotingMessage_of_listable (Expr.ComposedOf.listable h id)]
  exact ((singleLine_listText h).between (by decide) (by decide)).append hsaid

theorem singleLine_faultMessage {fault : DefunFault} (h : fault.Within .readable) :
    SingleLine fault.message := by
  cases fault with
  | parameter given => exact singleLine_quotingMessage h (by decide +kernel)
  | misuse cause => exact False.elim h
  | form | name | parameterList => decide +kernel

theorem singleLine_arityMessage {name : String} (h : SingleLine name) (expected actual : Nat) :
    SingleLine (EvalError.arityMessage name expected.repr actual.repr) := by
  have hexpected : SingleLine (name ++ " expects " ++ expected.repr) :=
    (h.append (by decide +kernel)).append (singleLine_repr expected)
  exact ((hexpected.append (by decide +kernel)).append (singleLine_repr actual)).append
    (by decide +kernel)

/-- **What is said about an error is one line**, if all that the error quotes are symbols. -/
theorem singleLine_message {cause : EvalError} (h : cause.Within .readable) :
    SingleLine cause.message := by
  cases cause with
  | illegalFunctionName head => exact singleLine_quotingMessage h (by decide +kernel)
  | malformedDefun fault => exact singleLine_faultMessage h
  | malformedConditional fault =>
      cases fault with
      | misuse cause => exact False.elim h
      | atomic | improper | notTestResult => decide +kernel
  | arityMismatch name expected actual =>
      exact singleLine_arityMessage (singleLine_of_readable h) expected actual
  | invalidIdentifier name | badArguments name | undefinedFunction name =>
      exact (singleLine_of_readable h).between (by decide +kernel) (by decide +kernel)
  | unboundIdentifier name | operandNotPair name | atomsOnly name | nonIntegerOperand name
  | integerTooLarge name | divisionByZero name =>
      exact (singleLine_of_readable h).append (by decide +kernel)
  | nestedDefunForbidden | noMatchingClause | recursionDepthExceeded => decide +kernel
  | blankForm | misuse cause => exact False.elim h

/-! ## Messages about tokens -/

/-- What is said about a token is one line if the token is. -/
theorem Reader.Blamed.singleLine {text : String} {cause : ReadError} (h : Blamed text cause)
    (htext : SingleLine text) : SingleLine cause.message := by
  cases h with
  | unexpected hquoted =>
      have hall : ∀ s ∈ [text, ")", "."], SingleLine s :=
        List.forall_mem_cons.mpr ⟨htext, by decide⟩
      exact (hall _ hquoted).between (by decide +kernel) (by decide +kernel)
  | misplacedDot => decide +kernel
  | notClosed => exact htext.between (by decide +kernel) (by decide +kernel)

/-- What is said about the end of input is one line. -/
theorem Reader.LeftOpen.singleLine {cause : ReadError} (h : LeftOpen cause) :
    SingleLine cause.message := by
  cases h <;> decide +kernel

/-- **What is said about a text that cannot be read is one line**, as its tokens are. -/
theorem Reader.singleLine_of_mem_segments {tokens : List Token}
    (htokens : ∀ t ∈ tokens, SingleLine t.text) {state : State} {cause : ReadError}
    (h : .error cause ∈ segments state tokens) : SingleLine cause.message := by
  rcases blamed_of_mem_segments h with ⟨t, ht, hblamed⟩ | hopen
  · exact hblamed.singleLine (htokens t ht)
  · exact hopen.singleLine

/-- The tokens of a text have no line feed. -/
theorem singleLine_of_mem_lex {text : String} {t : Token} (h : t ∈ lex text) :
    SingleLine t.text := by
  by_cases hkind : t.kind = .symbol
  · exact singleLine_of_readable (readable_of_mem_lex h hkind)
  · rw [lex_eq_split] at h
    have hplain : ∀ t ∈ [lparen, rparen, dot], SingleLine t.text := by decide
    exact hplain t (mem_of_mem_split h hkind)

/-! ## Marks -/

/-- The text begins with the mark of errors. -/
def Marked (text : String) : Prop :=
  Settings.default.errorMark.toList <+: text.toList

/-- **No value looks like an error**: a symbol has no blank, and a pair begins with a parenthesis. -/
theorem not_marked_write {e : Expr} (h : e.Readable) (style : Expr.Style) :
    ¬ Marked (e.write style ++ "\n") := by
  rintro ⟨rest, hrest⟩
  cases e with
  | atom token =>
      have htext : (Expr.atom token).write style = token := by
        cases style with
        | dotted => exact Expr.dotText_eq_dotted _
        | listed => exact Expr.listText_eq_listed (Expr.ComposedOf.listable h id)
      -- the mark ends with a blank, which would have to be in the symbol
      have hblank : ' ' ∈ (token ++ "\n").toList := by
        rw [← htext, ← hrest]
        exact List.mem_append_left _ (by decide)
      rw [String.toList_append, List.mem_append] at hblank
      rcases hblank with hblank | hblank
      · exact h.2.1 ' ' hblank (by decide)
      · exact absurd hblank (by decide)
  | pair first second =>
      have hopen : ∃ more, ((Expr.pair first second).write style).toList = '(' :: more := by
        cases style with
        | dotted => exact ⟨_, by rw [Expr.write, Expr.dotText_eq_dotted, Expr.dotted]; simp; rfl⟩
        | listed =>
            have hlistable := Expr.ComposedOf.listable h id
            exact ⟨_, by rw [Expr.write, Expr.listText_eq_listed hlistable, Expr.listed]; simp; rfl⟩
      obtain ⟨more, hmore⟩ := hopen
      rw [String.toList_append, hmore] at hrest
      exact absurd (List.cons.inj hrest).1 (by decide)
  | blank => exact h

/-- **A value in dot notation comes back from its line.** -/
theorem read_dotText_line {e : Expr} (h : e.Readable) :
    (TokenStream.ofSource (.ofString (e.dotText ++ "\n"))).read.1 = .ok (some e) := by
  have hend : Boundary ['\n'] := boundary_cons (by decide) []
  have htokens : lex (e.dotText ++ "\n") = e.dotTokens ++ [] := by
    rw [lex_eq_split, String.toList_append]
    exact (Expr.split_dotted_append h hend).trans (by rw [split_blank (by decide), split_nil])
  rw [(read_stream _).1, toList_ofString, htokens, read_of_derives (Expr.derives_dotTokens h)]

/-! ## Lines and turns -/

/-- The line tells what the turn came to. -/
structure Tells (settings : Settings) (result : Except Error Expr) (line : String) : Prop where
  /-- The only line feed is the last character. -/
  one_line : ∃ text, line = text ++ "\n" ∧ SingleLine text
  /-- The mark stands before errors and before nothing else. -/
  marked_iff : Marked line ↔ ∃ cause, result = .error cause
  /-- In dot notation the line is read as the value. -/
  reads_back : settings.style = Expr.Style.dotted.name → ∀ value, result = .ok value →
    (TokenStream.ofSource (.ofString line)).read.1 = .ok (some value)

/-- What is asked of the results of turns for their lines to tell them. -/
def Plain : Except Error Expr → Prop
  | .ok value => value.Readable
  | .error cause => SingleLine cause.message

/-- A record is one line if what it tells is. -/
theorem singleLine_report {settings : Settings}
    (hmark : settings.errorMark = Settings.default.errorMark) (style : Expr.Style)
    {result : Except Error Expr} (h : Plain result) :
    SingleLine (ReadLoop.report settings style result) := by
  cases result with
  | ok value => exact singleLine_write h style
  | error cause =>
      have hdefault : SingleLine settings.errorMark := by
        rw [hmark]
        decide
      exact hdefault.append h

/-- A record tells what the turn came to. -/
theorem tells_report {settings : Settings} {style : Expr.Style}
    (hstyle : settings.style = style.name)
    (hmark : settings.errorMark = Settings.default.errorMark) {result : Except Error Expr}
    (h : Plain result) : Tells settings result (ReadLoop.report settings style result ++ "\n") where
  one_line := ⟨_, rfl, singleLine_report hmark style h⟩
  marked_iff := by
    cases result with
    | ok value =>
        refine iff_of_false (not_marked_write h style) ?_
        rintro ⟨cause, hcause⟩
        cases hcause
    | error cause =>
        refine iff_of_true ?_ ⟨cause, rfl⟩
        rw [Marked, ReadLoop.report, hmark, String.append_assoc, String.toList_append]
        exact List.prefix_append _ _
  reads_back := by
    rintro hdot value rfl
    cases style with
    | dotted => exact read_dotText_line h
    | listed => exact absurd (hstyle.symm.trans hdot) (by decide)

/-- Only a reading that failed makes a turn end in an error of reading. -/
theorem Session.error_mem_of_mem_turns {session : Session} {cause : ReadError}
    {segments : List (Except ReadError Expr)}
    (h : .error (.read cause) ∈ session.turns segments) : .error cause ∈ segments := by
  induction segments generalizing session with
  | nil => cases h
  | cons segment rest ih =>
      rcases List.mem_cons.mp h with heq | h
      · cases segment with
        | error fault =>
            cases heq
            exact List.mem_cons_self
        | ok form =>
            simp only [turn] at heq
            cases hresult : (session.evalForm form).result <;> rw [hresult] at heq <;> cases heq
      · exact List.mem_cons_of_mem segment (ih h)

/-- The turns of a session of symbols have results that lines can tell. -/
theorem plain_of_mem_turns {session : Session} (hsession : session.Within .readable)
    {text : String} {result : Except Error Expr}
    (h : result ∈ session.turns ((TokenStream.ofSource (.ofText text)).readings.map Prod.snd)) :
    Plain result := by
  have hwithin : TurnWithin .readable result :=
    turnWithin_of_mem_turns (fun _ htoken => htoken) hsession result h
  match result with
  | .ok value => exact hwithin
  | .error (.eval cause) => exact singleLine_message hwithin
  | .error (.read cause) =>
      have hsegment := Session.error_mem_of_mem_turns h
      rw [← segments_eq_readings, toList_ofText] at hsegment
      exact Reader.singleLine_of_mem_segments (fun _ ht => singleLine_of_mem_lex ht) hsegment

/-- Without prompts the output is nothing but the records, each ended by a line feed. -/
theorem output_without_prompts {settings : Settings} {style : Expr.Style}
    (hstyle : settings.style = style.name) {session : Session}
    (hsession : session.Within .readable) (text : String) :
    (ReadLoop.run settings false session (.ofText text)).output =
      String.join (((session.turns
        ((TokenStream.ofSource (.ofText text)).readings.map Prod.snd)).map
          (ReadLoop.report settings style)).map (· ++ "\n")) := by
  obtain ⟨hjoin, -⟩ := ReadLoop.runSegments_eq hstyle false session
    ((TokenStream.ofSource (.ofText text)).readings.map Prod.snd)
    (fun result hresult => ReadLoop.answerable_of_turnWithin id
      (turnWithin_of_mem_turns (fun _ htoken => htoken) hsession result hresult)) 0
  rw [ReadLoop.run_eq, hjoin, List.map_map]
  simp [Function.comp_def, ReadLoop.promptText]

/-- **The output of the loop can be decoded.** A session starts without definitions, and the loop
    runs over any number of texts in it. If the loop does not prompt and marks errors as it does by
    default, the output of each further run has as many line feeds as readings, and it is cut at
    them into the lines of the turns, in order. Each line tells what its turn came to. -/
theorem output_tells_every_turn (limit : Nat) (earlier : List (Settings × String))
    (settings : Settings) (style : Expr.Style) (hstyle : settings.style = style.name)
    (hmark : settings.errorMark = Settings.default.errorMark) (text : String) :
    let session := ReadLoop.afterRuns (.start limit) earlier
    let readings := (TokenStream.ofSource (.ofText text)).readings
    let results := session.turns (readings.map Prod.snd)
    let output := (ReadLoop.run settings false session (.ofText text)).output
    let lines := Source.splitLines [] output.toList
    output.toList.count '\n' = readings.length ∧ String.join lines = output ∧
      List.Forall₂ (Tells settings) results lines := by
  intro session readings results output lines
  have hsession : session.Within .readable :=
    within_afterRuns (Session.within_start .readable limit) earlier
  have hplain : ∀ result ∈ results, Plain result := fun result hresult =>
    plain_of_mem_turns hsession hresult
  have hrecords : ∀ record ∈ results.map (ReadLoop.report settings style), SingleLine record := by
    intro record hrecord
    obtain ⟨result, hresult, rfl⟩ := List.mem_map.mp hrecord
    exact singleLine_report hmark style (hplain result hresult)
  have houtput : output =
      String.join ((results.map (ReadLoop.report settings style)).map (· ++ "\n")) :=
    output_without_prompts hstyle hsession text
  have hlines : lines = results.map fun result => ReadLoop.report settings style result ++ "\n" := by
    show Source.splitLines [] output.toList = _
    rw [houtput, Source.splitLines_join hrecords, List.map_map]
    rfl
  refine ⟨?_, ?_, ?_⟩
  · rw [houtput, count_join hrecords, List.length_map, Session.length_turns, List.length_map]
  · rw [hlines, houtput, List.map_map]
    rfl
  · rw [hlines, List.forall₂_map_right_iff, List.forall₂_same]
    exact fun result hresult => tells_report hstyle hmark (hplain result hresult)

/-- A value can spell the mark, but without the blank that ends the mark. -/
theorem output_tells_every_turn_mark_as_value :
    let session := ReadLoop.afterRuns (.start Session.defaultLimit)
      [(Settings.default, "(DEFUN MARK (X) (CONS (QUOTE **ERR**) X))")]
    let text := "(MARK 1) )\n(CAR (MARK 2)) (MARK)"
    let readings := (TokenStream.ofSource (.ofText text)).readings
    let output := (ReadLoop.run Settings.default false session (.ofText text)).output
    let lines := Source.splitLines [] output.toList
    Settings.default.style = Expr.Style.dotted.name ∧
      lines = ["(**ERR** . 1)\n", "**ERR** ')' is a bad s-expression\n", "**ERR**\n",
        "**ERR** MARK expects 1 parameters, but 0 were provided\n"] ∧
      output.toList.count '\n' = readings.length ∧ String.join lines = output ∧
      List.Forall₂ (Tells Settings.default) (session.turns (readings.map Prod.snd)) lines :=
  ⟨rfl, by decide +kernel,
    output_tells_every_turn Session.defaultLimit
      [(Settings.default, "(DEFUN MARK (X) (CONS (QUOTE **ERR**) X))")] Settings.default .dotted
      rfl rfl "(MARK 1) )\n(CAR (MARK 2)) (MARK)"⟩

end PairLisp
