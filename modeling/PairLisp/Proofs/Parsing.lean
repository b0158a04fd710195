import PairLisp.Proofs.Grammar

/-!
# Reading decides the grammar

What reading answers on any tokens, said by the grammar alone. Nothing is read exactly from no
tokens, an expression exactly where one stands at the front, and everything else is an error: at
the first token that no expression could have there, or at the end of the tokens, if they could
still go on.

* `feed_eq_pending_iff`, `feed_eq_ok_iff` and `feed_eq_error_iff` sort the runs of the reader;
* `InnermostOpen` finds the list that the end of input leaves open, by its tokens;
* `readFrom_spec` takes the result to streams: the chunks that a stream asks for make no
  difference, and no token is held when reading is over.
-/

namespace PairLisp

/-- Whether an error was found at the end of input, and not at a token. -/
def ReadError.atEnd : ReadError → Bool
  | .unexpected _ | .misplacedDot | .notClosed _ | .misuse _ => false
  | .endInList | .endAfterDot | .endAfterTail => true

namespace Grammar

open Reader

/-! ## Runs from the start -/

theorem awaits_start : Awaits [] .start := .expression .start

/-- A reader that waits for more has read the beginning of an expression. -/
theorem awaits_of_pending {tokens : List Token} {state : State}
    (h : feed .start tokens = .pending state) : Awaits tokens state := by
  have hspec := feed_spec awaits_start tokens
  rwa [h] at hspec

/-- The reader waits for more exactly behind a proper prefix of an expression. -/
theorem feed_eq_pending_iff {tokens : List Token} :
    (∃ state, feed .start tokens = .pending state) ↔ Viable tokens := by
  constructor
  · rintro ⟨state, hfeed⟩
    exact viable_of_awaits (awaits_of_pending hfeed)
  · rintro ⟨more, e, hne, hder⟩
    have hfull := feed_start_of_derives hder []
    rw [List.append_nil, feed_append] at hfull
    cases hfeed : feed .start tokens with
    | pending state => exact ⟨state, rfl⟩
    | done result rest =>
        -- the run ended before `more` was touched, so `more` would be left over
        rw [hfeed] at hfull
        have hrest : rest ++ more = [] := (Progress.done.inj hfull).2
        exact absurd (List.append_eq_nil_iff.mp hrest).2 hne

/-- The reader completes an expression exactly where one stands at the front. -/
theorem feed_eq_ok_iff {tokens rest : List Token} {e : Expr} :
    feed .start tokens = .done (.ok e) rest ↔
      ∃ used, tokens = used ++ rest ∧ Derives used (.expression e) := by
  constructor
  · intro hfeed
    have hspec := feed_spec awaits_start tokens
    rw [hfeed] at hspec
    exact hspec
  · rintro ⟨used, rfl, hder⟩
    exact feed_start_of_derives hder rest

/-- Of two expressions at the front of the same tokens, neither is longer. -/
theorem derives_unique {used rest used' rest' : List Token} {e e' : Expr}
    (h : Derives used (.expression e)) (h' : Derives used' (.expression e'))
    (heq : used ++ rest = used' ++ rest') : used = used' ∧ e = e' := by
  have hfeed := feed_start_of_derives h rest
  rw [heq, feed_start_of_derives h' rest'] at hfeed
  obtain ⟨hvalue, rfl⟩ := Progress.done.inj hfeed
  exact ⟨List.append_cancel_right heq, (Except.ok.inj hvalue).symm⟩

/-- A proper prefix of an expression has no expression at its front. -/
theorem not_complete_of_viable {tokens : List Token} (h : Viable tokens) : ¬ Complete tokens := by
  rintro ⟨used, rest, e, rfl, hder⟩
  obtain ⟨state, hfeed⟩ := feed_eq_pending_iff.mpr h
  rw [feed_start_of_derives hder] at hfeed
  cases hfeed

/-- A waiting reader refuses exactly the tokens that no expression could have there. -/
theorem step_refused_iff {before : List Token} {state : State} {t : Token}
    (h : feed .start before = .pending state) :
    (∃ cause, step state t = .refused cause) ↔ ¬ IsPrefix (before ++ [t]) := by
  constructor
  · rintro ⟨cause, hstep⟩ ⟨more, e, hder⟩
    have hfull := feed_start_of_derives hder []
    rw [List.append_nil, List.append_assoc, feed_append_of_pending h, List.singleton_append,
      feed_cons, hstep] at hfull
    cases hfull
  · intro hnot
    -- a token that is taken leaves a partial derivation, which can be completed
    have hadvanced := advanced_step (awaits_of_pending h) t
    cases hstep : step state t with
    | refused cause => exact ⟨cause, rfl⟩
    | more next =>
        rw [hstep] at hadvanced
        obtain ⟨more, e, _, hder⟩ := viable_of_awaits hadvanced
        exact absurd ⟨more, e, hder⟩ hnot
    | value e =>
        rw [hstep] at hadvanced
        refine absurd ⟨[], e, ?_⟩ hnot
        rwa [List.append_nil]

/-- **A token is refused exactly where the tokens before it could go on, but not with it.** -/
theorem feed_eq_error_iff {before rest : List Token} {t : Token} :
    (∃ cause, feed .start (before ++ t :: rest) = .done (.error cause) rest) ↔
      Viable before ∧ ¬ IsPrefix (before ++ [t]) := by
  constructor
  · rintro ⟨cause, hfeed⟩
    have hspec := feed_spec awaits_start (before ++ t :: rest)
    rw [hfeed] at hspec
    obtain ⟨used, u, state, heq, hawaits, hstep⟩ := hspec
    -- the same tokens are left, so the run stopped at `t`
    obtain ⟨rfl, hcons⟩ := List.append_inj' heq (by simp)
    obtain ⟨rfl, _⟩ := List.cons.inj hcons
    have hviable : Viable before := viable_of_awaits hawaits
    refine ⟨hviable, ?_⟩
    obtain ⟨next, hpending⟩ := feed_eq_pending_iff.mpr hviable
    rw [feed_append_of_pending hpending, feed_cons] at hfeed
    refine (step_refused_iff hpending).mp ?_
    cases hnext : step next t with
    | refused cause => exact ⟨cause, rfl⟩
    | more last =>
        rw [hnext] at hfeed
        exact absurd (length_feed hfeed) (Nat.lt_irrefl _)
    | value e =>
        rw [hnext] at hfeed
        cases hfeed
  · rintro ⟨hviable, hnot⟩
    obtain ⟨state, hpending⟩ := feed_eq_pending_iff.mpr hviable
    obtain ⟨cause, hstep⟩ := (step_refused_iff hpending).mpr hnot
    refine ⟨cause, ?_⟩
    rw [feed_append_of_pending hpending, feed_cons, hstep]
    rfl

/-- The cause of a refusal is never the end of input. -/
theorem atEnd_of_refused {state : State} {t : Token} {cause : ReadError}
    (h : step state t = .refused cause) : cause.atEnd = false := by
  cases blamed_of_step h <;> rfl

/-! ## The end of input -/

/-- Where the tokens leave their innermost open list, as the cause of the error to report: among
    its items, just behind its dot, or behind its tail. -/
inductive InnermostOpen : List Token → ReadError → Prop where
  | items {outer ts : List Token} {l : Token} {es : List Expr} : l.kind = .lparen →
      Derives ts (.row es) → InnermostOpen (outer ++ l :: ts) .endInList
  | dot {outer ts : List Token} {l d : Token} {e : Expr} {es : List Expr} : l.kind = .lparen →
      Derives ts (.row (e :: es)) → d.kind = .dot →
      InnermostOpen (outer ++ l :: (ts ++ [d])) .endAfterDot
  | tail {outer ts us : List Token} {l d : Token} {e tail : Expr} {es : List Expr} :
      l.kind = .lparen → Derives ts (.row (e :: es)) → d.kind = .dot →
      Derives us (.expression tail) →
      InnermostOpen (outer ++ l :: (ts ++ d :: us)) .endAfterTail

/-- A reader that waits behind at least one token has an open list to complain about. -/
theorem innermostOpen_of_awaits {tokens : List Token} {state : State} (h : Awaits tokens state)
    (hne : tokens ≠ []) :
    ∃ cause, state.endFault? = some cause ∧ InnermostOpen tokens cause := by
  cases h with
  | expression hopen =>
      cases hopen with
      | start => exact absurd rfl hne
      | item _ hl hes => exact ⟨.endInList, rfl, .items hl hes⟩
      | tail _ hl hes hd => exact ⟨.endAfterDot, rfl, .dot hl hes hd⟩
  | close _ hl hes hd htail => exact ⟨.endAfterTail, rfl, .tail hl hes hd htail⟩

/-- A reader that still waits behind an opening parenthesis has opened a list with it. -/
theorem exists_list_of_pending {outer ts : List Token} {l : Token} {last : State}
    (hl : l.kind = .lparen) (h : feed .start (outer ++ l :: ts) = .pending last) :
    ∃ places, feed (.expression (.item [] :: places)) ts = .pending last := by
  have hviable : Viable outer := by
    obtain ⟨more, e, _, hder⟩ := feed_eq_pending_iff.mp ⟨last, h⟩
    exact ⟨l :: ts ++ more, e, by simp, by rwa [← List.append_assoc]⟩
  obtain ⟨state, houter⟩ := feed_eq_pending_iff.mpr hviable
  rw [feed_append_of_pending houter, feed_cons] at h
  cases state with
  | expression places =>
      rw [step_lparen hl] at h
      exact ⟨places, h⟩
  | close items tail outer =>
      have hstep : step (.close items tail outer) l = .refused (.notClosed l.text) := by
        simp [step, hl]
      rw [hstep] at h
      cases h

/-- The reader complains about the innermost open list. -/
theorem endFault?_of_innermostOpen {tokens : List Token} {state : State} {cause : ReadError}
    (h : InnermostOpen tokens cause) (hpending : feed .start tokens = .pending state) :
    state.endFault? = some cause := by
  cases h with
  -- in each case the derivations carry the reader from the parenthesis to the end
  | @items outer ts l es hl hes =>
      obtain ⟨places, hts⟩ := exists_list_of_pending hl hpending
      have hrow := feed_of_derives hes [] places []
      rw [List.append_nil, hts] at hrow
      cases hrow
      rfl
  | @dot outer ts l d e es hl hes hd =>
      obtain ⟨places, hts⟩ := exists_list_of_pending hl hpending
      have hrow := feed_of_derives hes [] places [d]
      rw [hts, List.append_nil, feed_cons, step_dot hd (by simp)] at hrow
      cases hrow
      rfl
  | @tail outer ts us l d e tail es hl hes hd htail =>
      obtain ⟨places, hts⟩ := exists_list_of_pending hl hpending
      have hrow := feed_of_derives hes [] places (d :: us)
      have hlast := feed_of_derives htail (.tail (e :: es).reverse :: places) []
      rw [List.append_nil] at hlast
      rw [hts, List.append_nil, feed_cons, step_dot hd (by simp), resume, hlast] at hrow
      cases hrow
      rfl

theorem innermostOpen_ne_nil {tokens : List Token} {cause : ReadError}
    (h : InnermostOpen tokens cause) : tokens ≠ [] := by
  cases h <;> simp

theorem atEnd_of_innermostOpen {tokens : List Token} {cause : ReadError}
    (h : InnermostOpen tokens cause) : cause.atEnd = true := by
  cases h <;> rfl

/-! ## The answers -/

/-- What reading may answer on the tokens, and which tokens it may leave. -/
inductive Verdict : List Token → Except ReadError (Option Expr) → List Token → Prop where
  | nothing : Verdict [] (.ok none) []
  | expression {used rest : List Token} {e : Expr} : Derives used (.expression e) →
      Verdict (used ++ rest) (.ok (some e)) rest
  | refused {before rest : List Token} {t : Token} {cause : ReadError} : Viable before →
      ¬ IsPrefix (before ++ [t]) → cause.atEnd = false →
      Verdict (before ++ t :: rest) (.error cause) rest
  | ended {tokens : List Token} {cause : ReadError} : Viable tokens →
      InnermostOpen tokens cause → Verdict tokens (.error cause) []

/-- A proper prefix of an expression, read as if nothing came behind it. -/
theorem read_of_viable {tokens : List Token} {cause : ReadError} (h : Viable tokens)
    (hopen : InnermostOpen tokens cause) : Reader.read tokens = (.error cause, []) := by
  obtain ⟨state, hfeed⟩ := feed_eq_pending_iff.mpr h
  have hfault := endFault?_of_innermostOpen hopen hfeed
  rw [Reader.read, hfeed]
  dsimp only
  rw [State.finish, hfault]

/-- An expression at the front is what is read. -/
theorem read_of_derives {used : List Token} {e : Expr} (h : Derives used (.expression e))
    (rest : List Token) : Reader.read (used ++ rest) = (.ok (some e), rest) := by
  rw [Reader.read, feed_start_of_derives h]
  rfl

/-- Reading ends at the first token that no expression could have there. -/
theorem read_of_refused {before : List Token} {t : Token} (h : Viable before)
    (ht : ¬ IsPrefix (before ++ [t])) (rest : List Token) :
    ∃ cause, Reader.read (before ++ t :: rest) = (.error cause, rest) ∧ cause.atEnd = false := by
  obtain ⟨state, hfeed⟩ := feed_eq_pending_iff.mpr h
  obtain ⟨cause, hstep⟩ := (step_refused_iff hfeed).mpr ht
  refine ⟨cause, ?_, atEnd_of_refused hstep⟩
  rw [Reader.read, feed_append_of_pending hfeed, feed_cons, hstep]
  rfl

/-- **Reading gives a verdict by the grammar.** -/
theorem verdict_read (tokens : List Token) :
    Verdict tokens (Reader.read tokens).1 (Reader.read tokens).2 := by
  cases hfeed : feed .start tokens with
  | pending state =>
      have hawaits := awaits_of_pending hfeed
      by_cases hne : tokens = []
      · subst hne
        exact .nothing
      · obtain ⟨cause, _, hopen⟩ := innermostOpen_of_awaits hawaits hne
        have hviable := viable_of_awaits hawaits
        rw [read_of_viable hviable hopen]
        exact .ended hviable hopen
  | done result rest =>
      cases result with
      | ok e =>
          obtain ⟨used, rfl, hder⟩ := feed_eq_ok_iff.mp hfeed
          rw [read_of_derives hder]
          exact .expression hder
      | error cause =>
          have hspec := feed_spec awaits_start tokens
          rw [hfeed] at hspec
          obtain ⟨before, t, _, rfl, _, _⟩ := hspec
          obtain ⟨hviable, ht⟩ := feed_eq_error_iff.mp ⟨cause, hfeed⟩
          obtain ⟨fault, hread, hfault⟩ := read_of_refused hviable ht rest
          rw [hread]
          exact .refused hviable ht hfault

/-- An error that is not found at the end: the token it was found at is the last one taken. -/
theorem refused_of_error {tokens : List Token} {cause : ReadError}
    (h : (Reader.read tokens).1 = .error cause) (hcause : cause.atEnd = false) :
    ∃ before t, tokens = before ++ t :: (Reader.read tokens).2 ∧ Viable before ∧
      ¬ IsPrefix (before ++ [t]) := by
  have hverdict := verdict_read tokens
  rw [h] at hverdict
  generalize (Reader.read tokens).2 = left at hverdict
  cases hverdict with
  | refused hviable ht _ => exact ⟨_, _, rfl, hviable, ht⟩
  | ended _ hopen =>
      rw [atEnd_of_innermostOpen hopen] at hcause
      cases hcause

/-- An error that is found at the end: all tokens are taken. -/
theorem ended_of_error {tokens : List Token} {cause : ReadError}
    (h : (Reader.read tokens).1 = .error cause) (hcause : cause.atEnd = true) :
    (Reader.read tokens).2 = [] ∧ Viable tokens ∧ InnermostOpen tokens cause := by
  have hverdict := verdict_read tokens
  rw [h] at hverdict
  generalize (Reader.read tokens).2 = left at hverdict
  cases hverdict with
  | refused _ _ hfalse =>
      rw [hfalse] at hcause
      cases hcause
  | ended hviable hopen => exact ⟨rfl, hviable, hopen⟩

/-- What it means that an answer on the tokens, with the tokens it leaves, decides the grammar and
    finds errors as early as they can be found. -/
structure Decides (tokens : List Token) (answer : Except ReadError (Option Expr))
    (left : List Token) : Prop where
  /-- Nothing is read exactly from no tokens. -/
  none_iff : answer = .ok none ↔ tokens = []
  /-- An expression is read exactly where it stands at the front, and just its tokens go. -/
  some_iff : ∀ e rest, (answer = .ok (some e) ∧ left = rest) ↔
    ∃ used, tokens = used ++ rest ∧ Derives used (.expression e)
  /-- Only one expression stands at the front. -/
  some_unique : ∀ used rest e used' rest' e', tokens = used ++ rest →
    Derives used (.expression e) → tokens = used' ++ rest' → Derives used' (.expression e') →
    used = used' ∧ e = e'
  /-- A token is refused, and the tokens through it go, exactly where those before it could go on
      but not with it. -/
  refused_iff : ∀ before t rest, tokens = before ++ t :: rest →
    ((∃ cause, answer = .error cause ∧ cause.atEnd = false ∧ left = rest) ↔
      Viable before ∧ ¬ IsPrefix (before ++ [t]))
  /-- An error that is not found at the end is found at one of the tokens. -/
  refused_token : ∀ cause, answer = .error cause → cause.atEnd = false →
    ∃ before t, tokens = before ++ t :: left
  /-- An error is found at the end exactly behind a proper prefix of an expression. -/
  ended_iff : (∃ cause, answer = .error cause ∧ cause.atEnd = true) ↔
    tokens ≠ [] ∧ Viable tokens ∧ ¬ Complete tokens
  /-- The innermost open list decides which error that is. -/
  ended_cause : ∀ cause, (answer = .error cause ∧ cause.atEnd = true) ↔
    Viable tokens ∧ InnermostOpen tokens cause
  /-- At the end no token is left. -/
  ended_left : ∀ cause, answer = .error cause → cause.atEnd = true → left = []
  /-- The tokens left are the last ones, in their order. -/
  left_suffix : left <:+ tokens

/-- **Reading a list of tokens decides the grammar.** Each answer is inverted through its verdict,
    and the runs above give the answer from what the grammar says. -/
theorem decides_read (tokens : List Token) :
    Decides tokens (Reader.read tokens).1 (Reader.read tokens).2 where
  none_iff := by
    constructor
    · intro hanswer
      have hverdict := verdict_read tokens
      rw [hanswer] at hverdict
      cases hverdict
      rfl
    · rintro rfl
      rfl
  some_iff := by
    intro e rest
    constructor
    · rintro ⟨hanswer, rfl⟩
      have hverdict := verdict_read tokens
      rw [hanswer] at hverdict
      generalize (Reader.read tokens).2 = left at hverdict
      cases hverdict with
      | expression hder => exact ⟨_, rfl, hder⟩
    · rintro ⟨used, rfl, hder⟩
      rw [read_of_derives hder]
      exact ⟨rfl, rfl⟩
  some_unique := by
    rintro used rest e used' rest' e' rfl hder heq hder'
    exact derives_unique hder hder' heq
  refused_iff := by
    intro before t rest htokens
    constructor
    · rintro ⟨cause, hanswer, hcause, hleft⟩
      obtain ⟨before', t', heq, hviable, ht⟩ := refused_of_error hanswer hcause
      -- the same tokens are left, so it is the same token
      rw [hleft] at heq
      obtain ⟨rfl, hcons⟩ := List.append_inj' (htokens.symm.trans heq) (by simp)
      obtain ⟨rfl, _⟩ := List.cons.inj hcons
      exact ⟨hviable, ht⟩
    · rintro ⟨hviable, ht⟩
      obtain ⟨cause, hread, hcause⟩ := read_of_refused hviable ht rest
      rw [htokens, hread]
      exact ⟨cause, rfl, hcause, rfl⟩
  refused_token := by
    intro cause hanswer hcause
    obtain ⟨before, t, heq, _⟩ := refused_of_error hanswer hcause
    exact ⟨before, t, heq⟩
  ended_iff := by
    constructor
    · rintro ⟨cause, hanswer, hcause⟩
      obtain ⟨_, hviable, hopen⟩ := ended_of_error hanswer hcause
      exact ⟨innermostOpen_ne_nil hopen, hviable, not_complete_of_viable hviable⟩
    · rintro ⟨hne, hviable, _⟩
      obtain ⟨state, hfeed⟩ := feed_eq_pending_iff.mpr hviable
      obtain ⟨cause, _, hopen⟩ := innermostOpen_of_awaits (awaits_of_pending hfeed) hne
      rw [read_of_viable hviable hopen]
      exact ⟨cause, rfl, atEnd_of_innermostOpen hopen⟩
  ended_cause := by
    intro cause
    constructor
    · rintro ⟨hanswer, hcause⟩
      exact (ended_of_error hanswer hcause).2
    · rintro ⟨hviable, hopen⟩
      rw [read_of_viable hviable hopen]
      exact ⟨rfl, atEnd_of_innermostOpen hopen⟩
  ended_left := by
    intro cause hanswer hcause
    exact (ended_of_error hanswer hcause).1
  left_suffix := by
    have hverdict := verdict_read tokens
    generalize (Reader.read tokens).1 = answer at hverdict
    generalize (Reader.read tokens).2 = left at hverdict ⊢
    cases hverdict with
    | nothing => exact List.suffix_refl []
    | expression _ => exact List.suffix_append _ left
    | @refused before _ t _ _ _ _ => exact ⟨before ++ [t], by simp⟩
    | ended _ _ => exact List.nil_suffix

/-! ## Streams -/

theorem pending_of_next_some {source after : Source} {chunk : String}
    (h : source.next = (some chunk, after)) : source.pending = chunk :: after.pending := by
  rw [Source.next] at h
  split at h
  · next hpending =>
      cases h
      exact hpending
  · cases h

theorem pending_of_next_none {source after : Source} (h : source.next = (none, after)) :
    source.pending = [] ∧ after.pending = [] := by
  rw [Source.next] at h
  split at h
  · cases h
  · next hpending =>
      cases h
      exact ⟨hpending, rfl⟩

/-- What a run comes to if nothing follows: the answer and the tokens left. -/
def outcome : Progress State → Except ReadError (Option Expr) × List Token
  | .pending state => (state.finish, [])
  | .done result rest => (result.map some, rest)

theorem outcome_feed_start (tokens : List Token) :
    outcome (feed .start tokens) = Reader.read tokens := by
  rw [Reader.read]
  cases feed .start tokens <;> rfl

/-- Reading on from a state in the middle of a stream is a run over all its tokens, whatever
    chunks they come in. By induction on the chunks: each of them is asked for when the tokens at hand
    are used up. -/
theorem readFrom_spec (state : State) (line : List Token) (source : Source) :
    ((TokenStream.readFrom state.stack line source).1,
        (TokenStream.readFrom state.stack line source).2.toList) =
      outcome (feed state (line ++ source.pending.flatMap Token.lex)) ∧
    (TokenStream.readFrom state.stack line source).2.held = none := by
  generalize hlength : source.pending.length = n
  induction n using Nat.strongRecOn generalizing state line source with
  | ind n ih =>
    subst hlength
    rw [TokenStream.readFrom_stack]
    cases hfeed : feed state line with
    | done result rest =>
        rw [feed_append, hfeed]
        exact ⟨rfl, rfl⟩
    | pending next =>
        rw [feed_append_of_pending hfeed]
        rcases hnext : source.next with ⟨_ | chunk, after⟩
        · obtain ⟨hpending, hafter⟩ := pending_of_next_none hnext
          rw [hpending]
          refine ⟨?_, rfl⟩
          rw [TokenStream.toList, hafter]
          rfl
        · rw [pending_of_next_some hnext, List.flatMap_cons]
          exact ih _ (TokenStream.length_pending_next hnext) next (Token.lex chunk) after rfl

/-- **A stream is read like the list of its tokens.** -/
theorem read_stream (stream : TokenStream) :
    stream.read.1 = (Reader.read stream.toList).1 ∧
      stream.read.2.toList = (Reader.read stream.toList).2 ∧ stream.read.2.held = none := by
  obtain ⟨heq, hheld⟩ :=
    readFrom_spec .start (stream.held.toList ++ stream.line) stream.source
  rw [outcome_feed_start] at heq
  exact ⟨congrArg Prod.fst heq, congrArg Prod.snd heq, hheld⟩

/-- The verdict on a stream is the one on the list of its tokens. -/
theorem verdict_stream (stream : TokenStream) :
    Verdict stream.toList stream.read.1 stream.read.2.toList := by
  obtain ⟨hanswer, hleft, _⟩ := read_stream stream
  rw [hanswer, hleft]
  exact verdict_read stream.toList

/-- **Reading from a stream decides the grammar**, with errors found as early as they can be, and
    leaves the tokens behind it in the stream with none of them held. -/
theorem read_decides_expressions (stream : TokenStream) :
    Decides stream.toList stream.read.1 stream.read.2.toList ∧ stream.read.2.held = none := by
  obtain ⟨hanswer, hleft, hheld⟩ := read_stream stream
  rw [hanswer, hleft]
  exact ⟨decides_read stream.toList, hheld⟩

/-! ## Reading to the end -/

/-- An expression takes at least one token. -/
theorem derives_ne_nil {ts : List Token} {e : Expr} (h : Derives ts (.expression e)) :
    ts ≠ [] := by
  cases h <;> simp

theorem derives_nil_row {es : List Expr} (h : Derives [] (.row es)) : es = [] := by
  generalize htokens : [] = tokens at h
  cases h with
  | none => rfl
  | more he _ => exact absurd (List.append_eq_nil_iff.mp htokens.symm).1 (derives_ne_nil he)

/-- With an expression at the front, a row begins with it. -/
theorem derives_row_of_derives {used rest : List Token} {e : Expr} {es : List Expr}
    (h : Derives used (.expression e)) :
    Derives (used ++ rest) (.row es) ↔ ∃ fs, es = e :: fs ∧ Derives rest (.row fs) := by
  constructor
  · intro hrow
    generalize htokens : used ++ rest = tokens at hrow
    cases hrow with
    | none => exact absurd (List.append_eq_nil_iff.mp htokens).1 (derives_ne_nil h)
    | @more ts us f fs hf hfs =>
        obtain ⟨rfl, rfl⟩ := derives_unique h hf htokens
        obtain rfl := List.append_cancel_left htokens
        exact ⟨fs, rfl, hfs⟩
  · rintro ⟨fs, rfl, hfs⟩
    exact .more h hfs

/-- A row is not refused, nor does it end too early. -/
theorem read_of_derives_row {tokens : List Token} {es : List Expr} (h : Derives tokens (.row es)) :
    ∃ answer, (Reader.read tokens).1 = .ok answer := by
  cases h with
  | none => exact ⟨none, rfl⟩
  | more he _ =>
      rw [read_of_derives he]
      exact ⟨_, rfl⟩

/-- **Reading all of a stream gives a row of expressions** exactly if its tokens are one. -/
theorem readAll_eq_ok_iff (stream : TokenStream) (es : List Expr) :
    stream.readAll.1 = .ok es ↔ Derives stream.toList (.row es) := by
  fun_induction TokenStream.readAll stream generalizing es with
  | case1 stream after hread =>
      have hverdict := verdict_stream stream
      rw [hread] at hverdict
      generalize stream.toList = tokens at hverdict
      generalize after.toList = left at hverdict
      cases hverdict
      constructor
      · intro h
        cases h
        exact .none
      · intro h
        rw [derives_nil_row h]
  | case2 stream e after hread result last hrest ih =>
      have hverdict := verdict_stream stream
      rw [hread] at hverdict
      generalize stream.toList = tokens at hverdict
      rw [hrest] at ih
      cases hverdict with
      | expression he =>
          rw [derives_row_of_derives he]
          simp only [← ih]
          cases result with
          | ok fs =>
              constructor
              · intro h
                cases h
                exact ⟨fs, rfl, rfl⟩
              · rintro ⟨gs, rfl, hgs⟩
                cases hgs
                rfl
          | error cause =>
              constructor
              · intro h
                cases h
              · rintro ⟨gs, rfl, hgs⟩
                cases hgs
  | case3 stream cause after hread =>
      constructor
      · intro h
        cases h
      · intro h
        obtain ⟨answer, hanswer⟩ := read_of_derives_row h
        rw [← (read_stream stream).1, hread] at hanswer
        cases hanswer

end Grammar
end PairLisp
