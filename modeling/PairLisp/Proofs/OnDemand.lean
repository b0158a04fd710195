import PairLisp.Proofs.Parsing

/-!
# Reading on demand

A stream asks for a line when it needs a token and has none left. This file shows that it never does
so too early: when an expression is complete or a token is refused, the last line asked for is the
one that holds the last token used, and nothing that comes later has had any effect. Only a reading
that comes to the end of input asks for all lines, and no reading after it asks again. The route:

* one reading takes some further lines and stops within the last of them, whatever lines come later,
  or it takes all lines (`readFrom_cases`);
* by induction on the number of readings, a stream stands within the last line it has asked for, or it
  has come to the end (`readTimes_cases`), where it stays (`readTimes_of_exhausted`);
* a supply whose end shows as an empty line hands out the lines before it (`Supply.usable`), so what
  holds of a list of lines holds of either kind of supply.
-/

namespace PairLisp

open Token Reader Grammar

/-! ## One reading -/

/-- Whether a reading has come to the end of input: nothing was left, or a list was still open. -/
def Reader.foundEnd : Except ReadError (Option Expr) → Bool
  | .ok none => true
  | .ok (some _) => false
  | .error cause => cause.atEnd

/-- Whatever is open when the input ends, the reading comes to the end. -/
theorem Reader.foundEnd_finish (state : State) : foundEnd state.finish = true := by
  rcases state with (_ | ⟨_ | _, _⟩) | ⟨_, _, _⟩ <;> rfl

/-- A run that is done has used tokens, and has not come to the end. -/
theorem Reader.feed_done {state : State} {tokens rest : List Token} {result : Except ReadError Expr}
    (h : feed state tokens = .done result rest) :
    (∃ front, front ≠ [] ∧ tokens = front ++ rest) ∧ foundEnd (result.map some) = false := by
  fun_induction feed state tokens with
  | case1 => cases h
  | case2 state t tokens next hstep ih =>
      obtain ⟨⟨front, _, rfl⟩, hend⟩ := ih h
      exact ⟨⟨t :: front, by simp, rfl⟩, hend⟩
  | case3 state t tokens e hstep =>
      cases h
      exact ⟨⟨[t], by simp, rfl⟩, rfl⟩
  | case4 state t tokens cause hstep =>
      cases h
      exact ⟨⟨[t], by simp, rfl⟩, atEnd_of_refused hstep⟩

namespace TokenStream

/-! What reading on comes to, by what the tokens at hand come to and whether a line follows. -/

/-- A reading that is complete with the tokens at hand asks for no line. -/
theorem readFrom_of_done {state : State} {line rest : List Token} {result : Except ReadError Expr}
    (h : feed state line = .done result rest) (source : Source) :
    readFrom state.stack line source = (result.map some, ⟨none, rest, source⟩) := by
  rw [readFrom_stack, h]

/-- A reading that is not complete asks for one more line. -/
theorem readFrom_cons {state next : State} {line : List Token} (h : feed state line = .pending next)
    (chunk : String) (chunks : List String) (asked closing : Nat) :
    readFrom state.stack line ⟨chunk :: chunks, asked, closing⟩ =
      readFrom next.stack (lex chunk) ⟨chunks, asked + 1, closing⟩ := by
  rw [readFrom_stack, h]
  rfl

/-- A reading that is not complete when the lines are used up is finished as it stands. -/
theorem readFrom_nil {state next : State} {line : List Token} (h : feed state line = .pending next)
    (asked closing : Nat) :
    readFrom state.stack line ⟨[], asked, closing⟩ =
      (next.finish, ⟨none, [], ⟨[], asked + closing, 0⟩⟩) := by
  rw [readFrom_stack, h]
  rfl

/-- The tokens of the line last asked for, where those of `line` were at hand before. -/
def lastLine (line : List Token) : List String → List Token
  | [] => line
  | chunk :: chunks => lastLine (lex chunk) chunks

/-- The last line of all is the last one of those taken later, if any has been. -/
theorem lastLine_append (line : List Token) (taken more : List String) :
    lastLine line (taken ++ more) = lastLine (lastLine line taken) more := by
  induction taken generalizing line with
  | nil => rfl
  | cons chunk taken ih => exact ih (lex chunk)

/-- Tokens used before matter as long as no further line is asked for. -/
theorem exists_lastLine_append (used line : List Token) (more : List String) :
    ∃ front, lastLine (used ++ line) more = front ++ lastLine line more := by
  cases more with
  | nil => exact ⟨used, rfl⟩
  | cons chunk chunks => exact ⟨[], rfl⟩

/-- A reading takes some further lines and stops within the last one of all, and so it does whatever
    lines come later. -/
def StopsWithin (state : State) (line : List Token) (pending : List String) (asked closing : Nat) :
    Prop :=
  ∃ answer more later front rest, pending = more ++ later ∧ foundEnd answer = false ∧ front ≠ [] ∧
    lastLine line more = front ++ rest ∧
    ∀ others, readFrom state.stack line ⟨more ++ others, asked, closing⟩ =
      (answer, ⟨none, rest, ⟨others, asked + more.length, closing⟩⟩)

/-- A reading takes all lines and comes to the end. -/
def TakesAll (state : State) (line : List Token) (pending : List String) (asked closing : Nat) :
    Prop :=
  ∃ answer, foundEnd answer = true ∧ readFrom state.stack line ⟨pending, asked, closing⟩ =
    (answer, ⟨none, [], ⟨[], asked + pending.length + closing, 0⟩⟩)

/-- No line is asked for if the tokens at hand are enough. -/
theorem stopsWithin_of_done {state : State} {line rest : List Token}
    {result : Except ReadError Expr} (h : feed state line = .done result rest)
    (pending : List String) (asked closing : Nat) :
    StopsWithin state line pending asked closing := by
  obtain ⟨⟨front, hne, hfront⟩, hend⟩ := feed_done h
  exact ⟨_, [], pending, front, rest, rfl, hend, hne, hfront, fun _ => readFrom_of_done h _⟩

/-- **What one reading does.** It asks for no line before the tokens of the last one are used up. -/
theorem readFrom_cases (state : State) (line : List Token) (pending : List String)
    (asked closing : Nat) :
    StopsWithin state line pending asked closing ∨ TakesAll state line pending asked closing := by
  induction pending generalizing state line asked with
  | nil =>
      cases hfeed : feed state line with
      | done result rest => exact .inl (stopsWithin_of_done hfeed [] asked closing)
      | pending next => exact .inr ⟨_, foundEnd_finish next, readFrom_nil hfeed asked closing⟩
  | cons chunk chunks ih =>
      cases hfeed : feed state line with
      | done result rest => exact .inl (stopsWithin_of_done hfeed (chunk :: chunks) asked closing)
      | pending next =>
          -- the line is asked for, and the reading goes on with its tokens
          rcases ih next (lex chunk) (asked + 1) with
            ⟨answer, more, later, front, rest, rfl, hend, hne, hlast, hread⟩ | ⟨answer, hend, hread⟩
          · refine .inl ⟨answer, chunk :: more, later, front, rest, rfl, hend, hne, hlast, ?_⟩
            intro others
            rw [List.cons_append, readFrom_cons hfeed, hread, List.length_cons,
              Nat.add_right_comm, Nat.add_assoc]
          · refine .inr ⟨answer, hend, ?_⟩
            rw [readFrom_cons hfeed, hread, List.length_cons, Nat.add_right_comm asked 1,
              Nat.add_assoc asked]

/-! ## Any number of readings -/

/-- The answers of a number of readings, and the stream after them. -/
def readTimes (stream : TokenStream) : Nat → List (Except ReadError (Option Expr)) × TokenStream
  | 0 => ([], stream)
  | n + 1 =>
    let (answers, after) := stream.readTimes n
    let (answer, last) := after.read
    (answers ++ [answer], last)

/-- One more reading goes on where those before it ended. -/
theorem readTimes_succ {stream after last : TokenStream} {n : Nat}
    {answers : List (Except ReadError (Option Expr))} {answer : Except ReadError (Option Expr)}
    (h : stream.readTimes n = (answers, after)) (hread : after.read = (answer, last)) :
    stream.readTimes (n + 1) = (answers ++ [answer], last) := by
  rw [readTimes, h]
  dsimp only
  rw [hread]

/-- A stream that has come to the end. -/
def exhausted (asked : Nat) : TokenStream :=
  ⟨none, [], ⟨[], asked, 0⟩⟩

/-- Behind the end nothing is read and nothing is asked for. -/
theorem read_exhausted (asked : Nat) : (exhausted asked).read = (.ok none, exhausted asked) := by
  have hfeed : feed .start [] = .pending .start := rfl
  exact readFrom_nil hfeed asked 0

/-- No reading behind the end asks for anything. -/
theorem readTimes_of_exhausted {stream : TokenStream} {n asked : Nat}
    (h : (stream.readTimes n).2 = exhausted asked) (m : Nat) :
    (stream.readTimes (n + m)).2 = exhausted asked := by
  induction m with
  | zero => exact h
  | succ m ih =>
      have hsplit : stream.readTimes (n + m) =
          ((stream.readTimes (n + m)).1, exhausted asked) := by rw [← ih]
      rw [← Nat.add_assoc, readTimes_succ hsplit (read_exhausted asked)]

/-- The last reading has come to the end. -/
def cameToEnd (answers : List (Except ReadError (Option Expr))) : Bool :=
  answers.getLast?.any foundEnd

/-- Readings have come to the end if the last one has. -/
theorem cameToEnd_concat (answers : List (Except ReadError (Option Expr)))
    (answer : Except ReadError (Option Expr)) :
    cameToEnd (answers ++ [answer]) = foundEnd answer := by
  rw [cameToEnd, List.getLast?_concat]
  rfl

/-- The stream of the tokens of some lines, of which none has been asked for. -/
def unread (closing : Nat) (lines : List String) : TokenStream :=
  .ofSource ⟨lines, 0, closing⟩

/-- After `n` readings of the lines `taken`, whatever lines come later, `rest` is left of the last
    line, `front` having been used. -/
structure StandsWithin (closing n : Nat) (taken : List String) (front rest : List Token)
    (answers : List (Except ReadError (Option Expr))) : Prop where
  last_eq : lastLine [] taken = front ++ rest
  readTimes_eq : ∀ others, (unread closing (taken ++ others)).readTimes n =
    (answers, ⟨none, rest, ⟨others, taken.length, closing⟩⟩)

/-- A stream that has used tokens of a line has asked for one. -/
theorem StandsWithin.exists_concat {closing n : Nat} {taken : List String} {front rest : List Token}
    {answers : List (Except ReadError (Option Expr))}
    (h : StandsWithin closing n taken front rest answers) (hne : front ≠ []) :
    ∃ before line, taken = before ++ [line] ∧ lex line = front ++ rest := by
  rcases List.eq_nil_or_concat taken with rfl | ⟨before, line, rfl⟩
  · exact absurd (List.append_eq_nil_iff.mp h.last_eq.symm).1 hne
  · refine ⟨before, line, List.concat_eq_append .., ?_⟩
    rw [← h.last_eq, List.concat_eq_append, lastLine_append]
    rfl

/-- A reading that stops moves the stream on, within the same line or into a later one. -/
theorem StandsWithin.next {closing n : Nat} {taken later : List String} {front rest : List Token}
    {answers : List (Except ReadError (Option Expr))}
    (h : StandsWithin closing n taken front rest answers)
    (hstop : StopsWithin .start rest later taken.length closing) :
    ∃ answer more later' front' rest', later = more ++ later' ∧ foundEnd answer = false ∧
      front' ≠ [] ∧ StandsWithin closing (n + 1) (taken ++ more) front' rest' (answers ++ [answer]) := by
  obtain ⟨answer, more, later', front', rest', hlater, hend, hne, hlast, hread⟩ := hstop
  obtain ⟨used, hused⟩ := exists_lastLine_append front rest more
  refine ⟨answer, more, later', used ++ front', rest', hlater, hend, ?_, ?_, ?_⟩
  · intro hempty
    exact hne (List.append_eq_nil_iff.mp hempty).2
  · rw [lastLine_append, h.last_eq, hused, hlast, List.append_assoc]
  · intro others
    rw [List.append_assoc, List.length_append]
    exact readTimes_succ (h.readTimes_eq (more ++ others)) (hread others)

/-- **Where any number of readings leaves a stream**: within the last line it has asked for, or at the
    end. By induction on the number. -/
theorem readTimes_cases (closing : Nat) (lines : List String) (n : Nat) :
    (∃ taken later front rest answers, lines = taken ++ later ∧ cameToEnd answers = false ∧
        (0 < n → front ≠ []) ∧ StandsWithin closing n taken front rest answers) ∨
      ∃ answers, cameToEnd answers = true ∧
        (unread closing lines).readTimes n = (answers, exhausted (lines.length + closing)) := by
  induction n with
  | zero =>
      refine .inl ⟨[], lines, [], [], [], rfl, rfl, ?_, rfl, fun others => rfl⟩
      intro hpos
      exact absurd hpos (Nat.lt_irrefl 0)
  | succ n ih =>
      rcases ih with ⟨taken, later, front, rest, answers, rfl, _, _, hstands⟩ |
        ⟨answers, _, hended⟩
      · rcases readFrom_cases .start rest later taken.length closing with hstop |
          ⟨answer, hend, hread⟩
        · obtain ⟨answer, more, later', front', rest', rfl, hend, hne, hnext⟩ := hstands.next hstop
          refine .inl ⟨taken ++ more, later', front', rest', _, (List.append_assoc ..).symm, ?_,
            fun _ => hne, hnext⟩
          rw [cameToEnd_concat, hend]
        · refine .inr ⟨answers ++ [answer], by rw [cameToEnd_concat, hend], ?_⟩
          rw [List.length_append]
          exact readTimes_succ (hstands.readTimes_eq later) hread
      · refine .inr ⟨answers ++ [.ok none], by rw [cameToEnd_concat]; rfl, ?_⟩
        exact readTimes_succ hended (read_exhausted _)

end TokenStream

/-! ## Supplies of lines -/

/-- How lines are handed out: by a supply that knows its end, or by one whose end shows as an empty
    line. -/
inductive Supply where
  | bounded
  | marked

namespace Supply

/-- The source of the lines that a supply has. -/
def source : Supply → List String → Source
  | .bounded => Source.ofChunks
  | .marked => Source.ofLines

/-- The lines that are handed out before the end. -/
def usable : Supply → List String → List String
  | .bounded, lines => lines
  | .marked, lines => lines.takeWhile (· ≠ "")

/-- How many requests it takes to learn that nothing is left. -/
def closing : Supply → Nat
  | .bounded => 0
  | .marked => 1

/-- How many requests it takes to come to the end: one for each line and, if the end shows as an
    empty line, one more. -/
def requests : Supply → List String → Nat
  | .bounded, lines => lines.length
  | .marked, lines => (lines.takeWhile (· ≠ "")).length + 1

variable (supply : Supply)

/-- A supply gives a stream of its usable lines that have not been read. -/
theorem ofSource_eq (lines : List String) :
    TokenStream.ofSource (supply.source lines) =
      TokenStream.unread supply.closing (supply.usable lines) := by
  cases supply <;> rfl

/-- It takes a request for each usable line, and those that it takes to learn of the end. -/
theorem requests_eq (lines : List String) :
    supply.requests lines = (supply.usable lines).length + supply.closing := by
  cases supply <;> rfl

variable {supply} {lines taken later : List String}

/-- Lines that are handed out are handed out whatever comes behind them. -/
theorem usable_append (h : supply.usable lines = taken ++ later) (others : List String) :
    supply.usable (taken ++ others) = taken ++ supply.usable others := by
  cases supply with
  | bounded => rfl
  | marked =>
      refine List.takeWhile_append_of_pos fun line hline => ?_
      have hmem : line ∈ lines.takeWhile (· ≠ "") := by
        have husable : lines.takeWhile (· ≠ "") = taken ++ later := h
        rw [husable]
        exact List.mem_append_left later hline
      exact List.all_eq_true.mp List.all_takeWhile line hmem

/-- What is usable stands at the beginning of the lines. -/
theorem exists_append_of_usable (h : supply.usable lines = taken ++ later) :
    ∃ behind, lines = taken ++ behind := by
  cases supply with
  | bounded => exact ⟨later, h⟩
  | marked =>
      refine ⟨later ++ lines.dropWhile (· ≠ ""), ?_⟩
      have husable : lines.takeWhile (· ≠ "") = taken ++ later := h
      rw [← List.append_assoc, ← husable, List.takeWhile_append_dropWhile]

open TokenStream

/-- The stream of a supply whose lines go on in any way behind one that is handed out. -/
theorem ofSource_of_usable {before later : List String} {line : String}
    (h : supply.usable lines = (before ++ [line]) ++ later) (others : List String) :
    TokenStream.ofSource (supply.source (before ++ line :: others)) =
      unread supply.closing ((before ++ [line]) ++ supply.usable others) := by
  rw [← usable_append h, ← ofSource_eq, List.append_assoc, List.singleton_append]

/-- What a stream has done when it stands within a line, whatever the supply has behind that line. -/
theorem readTimes_of_standsWithin {before later : List String} {line : String} {n : Nat}
    {front rest : List Token} {answers : List (Except ReadError (Option Expr))}
    (husable : supply.usable lines = (before ++ [line]) ++ later)
    (h : StandsWithin supply.closing n (before ++ [line]) front rest answers)
    (others : List String) :
    (TokenStream.ofSource (supply.source (before ++ line :: others))).readTimes n =
      (answers, ⟨none, rest, ⟨supply.usable others, before.length + 1, supply.closing⟩⟩) := by
  have hlength : (before ++ [line]).length = before.length + 1 := List.length_append
  rw [ofSource_of_usable husable, h.readTimes_eq, hlength]

/-- The tokens of a stream, by a line that it will ask for. -/
theorem toList_of_usable {before later : List String} {line : String}
    (husable : supply.usable lines = (before ++ [line]) ++ later) (others : List String) :
    (TokenStream.ofSource (supply.source (before ++ line :: others))).toList =
      before.flatMap lex ++ lex line ++ (supply.usable others).flatMap lex := by
  rw [ofSource_of_usable husable]
  simp [unread, ofSource, toList]

end Supply

open TokenStream

/-- **The reader never reads ahead**, whatever supply its lines come from and however often it is
    called. After a call that completes an expression or refuses a token, the number of lines asked
    for is that of the line that holds the last token used, and all answers so far are the same
    whatever lines come later. After a call that comes to the end of input, every line has been asked
    for, and no later call asks again. -/
theorem reader_never_reads_ahead (supply : Supply) (lines : List String) (n : Nat) :
    let stream := TokenStream.ofSource (supply.source lines)
    let answer := (stream.readTimes n).2.read.1
    let now := (stream.readTimes (n + 1)).2
    (foundEnd answer = false →
      ∃ before line later front, lines = before ++ line :: later ∧
        now.source.asked = before.length + 1 ∧
        stream.toList = before.flatMap lex ++ front ++ now.toList ∧
        front ≠ [] ∧ front <+: lex line ∧
        ∀ others,
          let other := TokenStream.ofSource (supply.source (before ++ line :: others))
          (other.readTimes (n + 1)).1 = (stream.readTimes (n + 1)).1 ∧
            (other.readTimes (n + 1)).2.source.asked = before.length + 1) ∧
    (foundEnd answer = true →
      now.source.pending = [] ∧ now.source.asked = supply.requests lines ∧
        ∀ m, (stream.readTimes (n + 1 + m)).2.source.asked = supply.requests lines) := by
  intro stream answer now
  have hanswer : cameToEnd (stream.readTimes (n + 1)).1 = foundEnd answer := by
    rw [readTimes_succ (stream.readTimes n).eta.symm (stream.readTimes n).2.read.eta.symm]
    exact cameToEnd_concat _ answer
  rcases readTimes_cases supply.closing (supply.usable lines) (n + 1) with
    ⟨taken, later, front, rest, answers, husable, hgoing, hfront, hstands⟩ |
    ⟨answers, hended, hread⟩
  · obtain ⟨before, line, rfl, hline⟩ := hstands.exists_concat (hfront n.succ_pos)
    obtain ⟨behind, hbehind⟩ := Supply.exists_append_of_usable husable
    obtain rfl : lines = before ++ line :: behind := by
      rw [hbehind, List.append_assoc, List.singleton_append]
    have hreads := Supply.readTimes_of_standsWithin husable hstands
    have hread : stream.readTimes (n + 1) = _ := hreads behind
    have hnow : now = ⟨none, rest, _⟩ := congrArg Prod.snd hread
    rw [← hanswer, hread, hgoing]
    constructor
    · intro _
      refine ⟨before, line, behind, front, rfl, by rw [hnow], ?_, hfront n.succ_pos,
        ⟨rest, hline.symm⟩, ?_⟩
      · rw [hnow, Supply.toList_of_usable husable, hline]
        simp [toList]
      · intro others other
        rw [hreads others]
        exact ⟨rfl, rfl⟩
    · intro hend
      cases hend
  · rw [← supply.ofSource_eq] at hread
    have hnow : now = exhausted (supply.requests lines) := by
      rw [supply.requests_eq]
      exact congrArg Prod.snd hread
    rw [← hanswer, hread, hended]
    constructor
    · intro hend
      cases hend
    · intro _
      refine ⟨by rw [hnow]; rfl, by rw [hnow]; rfl, fun m => ?_⟩
      rw [readTimes_of_exhausted hnow m]
      rfl

/-- An expression over three lines, a refused token and a symbol behind it on the third, and an empty
    line that hides another one. -/
theorem reader_never_reads_ahead_third_line :
    let lines := ["(A\n", "\n", " . B) ) C\n", "D\n", "", "E\n"]
    let stream := TokenStream.ofSource (Supply.marked.source lines)
    let answers := (stream.readTimes 5).1
    answers.map foundEnd = [false, false, false, false, true] ∧
      (∃ before line later front, lines = before ++ line :: later ∧
        (stream.readTimes 3).2.source.asked = before.length + 1 ∧ front ≠ [] ∧
        front <+: lex line) ∧
      ∀ m, (stream.readTimes (5 + m)).2.source.asked = 5 := by
  intro lines stream answers
  obtain ⟨hwithin, _⟩ := reader_never_reads_ahead .marked lines 2
  obtain ⟨_, hended⟩ := reader_never_reads_ahead .marked lines 4
  obtain ⟨before, line, later, front, hlines, hasked, _, hfront, hline, _⟩ :=
    hwithin (by decide +kernel)
  obtain ⟨_, _, hlater⟩ := hended (by decide +kernel)
  exact ⟨by decide +kernel, ⟨before, line, later, front, hlines, hasked, hfront, hline⟩, hlater⟩

end PairLisp
