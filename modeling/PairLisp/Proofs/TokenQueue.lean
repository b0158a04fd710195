import PairLisp.Proofs.OnDemand
import PairLisp.Proofs.Readings

/-!
# A stream as a queue of tokens

A stream keeps its tokens in three places: the token that was looked at or put back, the line last
asked for, and the chunks not asked for yet. Seen from outside it is a list of pending tokens and a
flag, which says that the place for a token is taken. This file proves it for any sequence of
requests, made at any point of the input:

* `TokenQueue.perform` says what each request does to the list and the flag, and
  `TokenStream.queue` reads these two off a stream;
* each request to a stream is answered as the queue answers it, and leaves the queue of the stream as
  the queue itself would be (`perform_queue`), so by induction any number of requests does
  (`performAll_of_perform`);
* a reading takes tokens off the front, and what comes behind them has no effect on its answer unless
  the input ended (`exists_takesFront_read`, `exists_takesFront_readAll`);
* `TokenQueue.Effect` says which tokens an answered request takes away or puts back. By induction no
  token is lost, none is made twice and none is moved past another one (`accounted_performAll`).
-/

namespace PairLisp

open Token Reader

/-! ## Readings of a list -/

namespace Reader

/-- A run that is done has used some tokens, and would have been done with these whatever came
    behind them. -/
theorem feed_done_append {state : State} {tokens rest : List Token}
    {result : Except ReadError Expr} (h : feed state tokens = .done result rest) :
    ∃ used, tokens = used ++ rest ∧ ∀ more, feed state (used ++ more) = .done result more := by
  fun_induction feed state tokens with
  | case1 => cases h
  | case2 state t tokens next hstep ih =>
      obtain ⟨used, rfl, hused⟩ := ih h
      refine ⟨t :: used, rfl, ?_⟩
      intro more
      rw [List.cons_append, feed, hstep]
      exact hused more
  | case3 state t tokens e hstep =>
      cases h
      exact ⟨[t], rfl, fun more => by rw [List.singleton_append, feed, hstep]⟩
  | case4 state t tokens cause hstep =>
      cases h
      exact ⟨[t], rfl, fun more => by rw [List.singleton_append, feed, hstep]⟩

/-- If the tokens end in the middle of an expression, the reading is finished as it stands. -/
theorem read_of_pending {tokens : List Token} {state : State}
    (h : feed .start tokens = .pending state) : read tokens = (state.finish, []) := by
  rw [read, h]

/-- If the tokens hold an expression or an error, the rest is left. -/
theorem read_of_done {tokens rest : List Token} {result : Except ReadError Expr}
    (h : feed .start tokens = .done result rest) : read tokens = (result.map some, rest) := by
  rw [read, h]

/-- An expression is read from at least one token. -/
theorem length_read {tokens rest : List Token} {e : Expr}
    (h : read tokens = (.ok (some e), rest)) : rest.length < tokens.length := by
  cases hfeed : feed .start tokens with
  | pending state =>
      rw [read_of_pending hfeed] at h
      obtain ⟨hfinish, -⟩ := Prod.mk.inj h
      have hend := foundEnd_finish state
      rw [hfinish] at hend
      cases hend
  | done result left =>
      rw [read_of_done hfeed] at h
      obtain rfl : left = rest := congrArg Prod.snd h
      exact length_feed hfeed

/-- Reads all expressions of a list of tokens up to its end or the first error, and returns the
    tokens left. -/
def readAll (tokens : List Token) : Except ReadError (List Expr) × List Token :=
  match _ : read tokens with
  | (.ok none, rest) => (.ok [], rest)
  | (.ok (some e), rest) =>
    let (result, last) := readAll rest
    (result.map (e :: ·), last)
  | (.error cause, rest) => (.error cause, rest)
termination_by tokens.length
decreasing_by exact length_read (by assumption)

/-- Reading takes the tokens `used` off the front and answers by them alone: whatever came behind
    them would be left as it is, or nothing comes behind them. -/
def TakesFront {α : Type} (reading : List Token → α × List Token) (used : List Token) (answer : α)
    (rest : List Token) : Prop :=
  (∀ more, reading (used ++ more) = (answer, more)) ∨ rest = [] ∧ reading used = (answer, [])

/-- Reading one expression takes tokens from the front only. -/
theorem exists_takesFront_read (tokens : List Token) :
    ∃ used, tokens = used ++ (read tokens).2 ∧
      TakesFront read used (read tokens).1 (read tokens).2 := by
  cases hfeed : feed .start tokens with
  | pending state =>
      have hread := read_of_pending hfeed
      rw [hread]
      exact ⟨tokens, (List.append_nil tokens).symm, .inr ⟨rfl, hread⟩⟩
  | done result rest =>
      obtain ⟨used, htokens, hused⟩ := feed_done_append hfeed
      rw [read_of_done hfeed]
      exact ⟨used, htokens, .inl fun more => read_of_done (hused more)⟩

theorem readAll_of_none {tokens rest : List Token} (h : read tokens = (.ok none, rest)) :
    readAll tokens = (.ok [], rest) := by
  rw [readAll]
  split <;> next heq => cases h.symm.trans heq <;> rfl

theorem readAll_of_some {tokens rest : List Token} {e : Expr}
    (h : read tokens = (.ok (some e), rest)) :
    readAll tokens = ((readAll rest).1.map (e :: ·), (readAll rest).2) := by
  rw [readAll]
  split <;> next heq => cases h.symm.trans heq <;> rfl

theorem readAll_of_error {tokens rest : List Token} {cause : ReadError}
    (h : read tokens = (.error cause, rest)) : readAll tokens = (.error cause, rest) := by
  rw [readAll]
  split <;> next heq => cases h.symm.trans heq <;> rfl

/-- The reading that ends a row of readings takes what it takes by itself. -/
theorem TakesFront.of_last {used rest : List Token} {answer : Except ReadError (Option Expr)}
    {result : Except ReadError (List Expr)} (h : TakesFront read used answer rest)
    (hlast : ∀ {tokens left : List Token}, read tokens = (answer, left) →
      readAll tokens = (result, left)) : TakesFront readAll used result rest := by
  rcases h with hfront | ⟨hrest, hused⟩
  · exact .inl fun more => hlast (hfront more)
  · exact .inr ⟨hrest, hlast hused⟩

/-- A reading and those that follow it take their tokens one behind the other. -/
theorem TakesFront.cons {used more rest : List Token} {e : Expr}
    {result : Except ReadError (List Expr)}
    (h : TakesFront read used (.ok (some e)) (more ++ rest))
    (hmore : TakesFront readAll more result rest) :
    TakesFront readAll (used ++ more) (result.map (e :: ·)) rest := by
  rcases h with hfront | ⟨hrest, hused⟩
  · rcases hmore with hmore | ⟨hend, hmore⟩
    · refine .inl fun later => ?_
      rw [List.append_assoc, readAll_of_some (hfront (more ++ later)), hmore]
    · refine .inr ⟨hend, ?_⟩
      rw [readAll_of_some (hfront more), hmore]
  · -- the input ended with the expression, and nothing is left for the others
    obtain ⟨rfl, rfl⟩ := List.append_eq_nil_iff.mp hrest
    refine .inr ⟨rfl, ?_⟩
    have hnone : readAll [] = (result, []) := by
      rcases hmore with hmore | ⟨-, hmore⟩
      · exact hmore []
      · exact hmore
    rw [List.append_nil, readAll_of_some hused, hnone]

/-- Reading all expressions takes tokens from the front only. -/
theorem exists_takesFront_readAll (tokens : List Token) :
    ∃ used, tokens = used ++ (readAll tokens).2 ∧
      TakesFront readAll used (readAll tokens).1 (readAll tokens).2 := by
  -- the tokens of the first reading are taken in any case, and then those of the others
  have hone := exists_takesFront_read tokens
  fun_induction readAll tokens with
  | case1 tokens rest hread =>
      rw [hread] at hone
      obtain ⟨used, htokens, hused⟩ := hone
      exact ⟨used, htokens, hused.of_last readAll_of_none⟩
  | case2 tokens e rest hread result last hrest ih =>
      rw [hread] at hone
      obtain ⟨used, htokens, hused⟩ := hone
      rw [hrest] at ih
      obtain ⟨more, rfl, hmore⟩ := ih (exists_takesFront_read rest)
      exact ⟨used ++ more, by rw [htokens, List.append_assoc], hused.cons hmore⟩
  | case3 tokens cause rest hread =>
      rw [hread] at hone
      obtain ⟨used, htokens, hused⟩ := hone
      exact ⟨used, htokens, hused.of_last readAll_of_error⟩

end Reader

/-! ## Requests -/

namespace TokenStream

/-- What a stream can be asked to do. -/
inductive Request where
  | peek
  | advance
  | pushBack (token : Token)
  | read
  | readAll

/-- What comes back. -/
inductive Reply where
  /-- The token looked at or taken; there is none at the end of input. -/
  | token (found : Option Token)
  /-- The token was put back. -/
  | putBack
  /-- The token was not put back, as the place is taken. -/
  | full
  | expression (result : Except ReadError (Option Expr))
  | expressions (result : Except ReadError (List Expr))

/-- The reply of a stream to a request, and the stream afterwards. -/
def perform (stream : TokenStream) : Request → Reply × TokenStream
  | .peek => (.token stream.peek.1, stream.peek.2)
  | .advance => (.token stream.advance.1, stream.advance.2)
  | .pushBack token =>
    match stream.pushBack? token with
    | some after => (.putBack, after)
    | none => (.full, stream)
  | .read => (.expression stream.read.1, stream.read.2)
  | .readAll => (.expressions stream.readAll.1, stream.readAll.2)

/-- The replies to requests made one after the other, and the state after them. -/
def performAll {σ : Type} (perform : σ → Request → Reply × σ) (s : σ) :
    List Request → List Reply × σ
  | [] => ([], s)
  | request :: requests =>
    let (reply, next) := perform s request
    let (replies, last) := performAll perform next requests
    (reply :: replies, last)

end TokenStream

open TokenStream

/-! ## Queues -/

/-- The tokens still to come, in order, and whether the place for a token is taken. -/
structure TokenQueue where
  pending : List Token
  held : Bool

namespace TokenQueue

/-- The reply of a queue to a request, and the queue afterwards. Looking at a token takes the place,
    and so does putting one back, which needs the place to be free. Taking a token and reading free
    it. -/
def perform (q : TokenQueue) : Request → Reply × TokenQueue
  | .peek =>
    match q.pending with
    | [] => (.token none, q)
    | t :: rest => (.token (some t), ⟨t :: rest, true⟩)
  | .advance =>
    match q.pending with
    | [] => (.token none, ⟨[], false⟩)
    | t :: rest => (.token (some t), ⟨rest, false⟩)
  | .pushBack token =>
    if q.held then (.full, q) else (.putBack, ⟨token :: q.pending, true⟩)
  | .read => (.expression (Reader.read q.pending).1, ⟨(Reader.read q.pending).2, false⟩)
  | .readAll =>
    (.expressions (Reader.readAll q.pending).1, ⟨(Reader.readAll q.pending).2, false⟩)

end TokenQueue

namespace TokenStream

/-- A stream as a queue. -/
def queue (stream : TokenStream) : TokenQueue :=
  ⟨stream.toList, stream.held.isSome⟩

/-! ## One request -/

/-- The first token of the line at hand and the chunks behind it is taken, and only that. -/
theorem takeFrom_spec (line : List Token) (source : Source) :
    (takeFrom line source).1 = (line ++ source.pending.flatMap lex).head? ∧
      (takeFrom line source).2.toList = (line ++ source.pending.flatMap lex).tail ∧
      (takeFrom line source).2.held = none := by
  fun_induction takeFrom line source with
  | case1 source t rest => exact ⟨rfl, rfl, rfl⟩
  | case2 source chunk after hnext ih =>
      rw [Grammar.pending_of_next_some hnext, List.nil_append, List.flatMap_cons]
      exact ih
  | case3 source after hnext =>
      obtain ⟨hpending, hafter⟩ := Grammar.pending_of_next_none hnext
      rw [hpending]
      refine ⟨rfl, ?_, rfl⟩
      rw [toList, hafter]
      rfl

/-- Taking a token takes the first one, whether it was held back or not. -/
theorem advance_spec (stream : TokenStream) :
    stream.advance.1 = stream.toList.head? ∧ stream.advance.2.toList = stream.toList.tail ∧
      stream.advance.2.held = none := by
  obtain ⟨held, line, source⟩ := stream
  cases held with
  | some t => exact ⟨rfl, rfl, rfl⟩
  | none => exact takeFrom_spec line source

/-- The front of the stream is held once it has been looked at. -/
theorem peek_spec (stream : TokenStream) :
    stream.peek.1 = stream.toList.head? ∧ stream.peek.2.toList = stream.toList ∧
      stream.peek.2.held = stream.toList.head? := by
  obtain ⟨held, line, source⟩ := stream
  cases held with
  | some t => exact ⟨rfl, rfl, rfl⟩
  | none =>
      obtain ⟨hfront, hrest, hheld⟩ := takeFrom_spec line source
      refine ⟨hfront, ?_, hfront⟩
      rw [toList, hheld] at hrest
      have hlist : ∀ tokens : List Token, tokens.head?.toList ++ tokens.tail = tokens := by
        rintro (_ | ⟨t, tokens⟩) <;> rfl
      calc (takeFrom line source).1.toList ++ (takeFrom line source).2.line ++
            (takeFrom line source).2.source.pending.flatMap lex
        _ = (takeFrom line source).1.toList ++ (line ++ source.pending.flatMap lex).tail := by
            rw [List.append_assoc, ← hrest]
            rfl
        _ = line ++ source.pending.flatMap lex := by rw [hfront, hlist]

/-- All of a stream is read like the list of its tokens. -/
theorem readAll_stream (stream : TokenStream) :
    ((stream.readAll).1, stream.readAll.2.toList) = Reader.readAll stream.toList ∧
      stream.readAll.2.held = none := by
  have hheld := (Grammar.read_stream stream).2.2
  fun_induction TokenStream.readAll stream with
  | case1 stream after hread =>
      rw [hread] at hheld
      exact ⟨(readAll_of_none (read_toList hread)).symm, hheld⟩
  | case2 stream e after hread result last hrest ih =>
      rw [hrest] at ih
      obtain ⟨hall, hlast⟩ := ih (Grammar.read_stream after).2.2
      refine ⟨?_, hlast⟩
      rw [readAll_of_some (read_toList hread), ← hall]
  | case3 stream cause after hread =>
      rw [hread] at hheld
      exact ⟨(readAll_of_error (read_toList hread)).symm, hheld⟩

/-- **A stream answers a request as its queue does**, and goes on as its queue does. -/
theorem perform_queue (stream : TokenStream) (request : Request) :
    stream.queue.perform request =
      ((stream.perform request).1, (stream.perform request).2.queue) := by
  cases request with
  | peek =>
      obtain ⟨hfound, hpending, hheld⟩ := peek_spec stream
      simp only [queue, TokenQueue.perform, perform, hfound, hpending, hheld]
      cases htokens : stream.toList with
      | nil =>
          -- nothing is held where nothing is pending
          have hnone : stream.held = none := by
            cases hsome : stream.held with
            | none => rfl
            | some t =>
                rw [toList, hsome] at htokens
                cases htokens
          rw [hnone]
          rfl
      | cons t rest => rfl
  | advance =>
      obtain ⟨hfound, hpending, hheld⟩ := advance_spec stream
      simp only [queue, TokenQueue.perform, perform, hfound, hpending, hheld]
      cases stream.toList <;> rfl
  | pushBack token =>
      obtain ⟨held, line, source⟩ := stream
      cases held <;> rfl
  | read =>
      obtain ⟨hanswer, hpending, hheld⟩ := Grammar.read_stream stream
      simp only [queue, TokenQueue.perform, perform, hanswer, hpending, hheld]
      rfl
  | readAll =>
      obtain ⟨hall, hheld⟩ := readAll_stream stream
      simp only [queue, TokenQueue.perform, perform, ← hall, hheld]
      rfl

/-- Where one request leads to the same reply and to states of the same view, any number of them
    does. -/
theorem performAll_of_perform {σ τ : Type} {perform : σ → Request → Reply × σ}
    {perform' : τ → Request → Reply × τ} {view : σ → τ}
    (h : ∀ s request, perform' (view s) request =
      ((perform s request).1, view (perform s request).2)) (s : σ) (requests : List Request) :
    performAll perform' (view s) requests =
      ((performAll perform s requests).1, view (performAll perform s requests).2) := by
  induction requests generalizing s with
  | nil => rfl
  | cons request requests ih =>
      simp only [performAll, h, ih]

end TokenStream

/-! ## Where the tokens go -/

namespace TokenQueue

/-- What an answered request does to the pending tokens: what it takes is taken off the front, and
    what it puts back is put in front. -/
inductive Effect : Request → Reply → List Token → List Token → Prop where
  | peek (pending : List Token) : Effect .peek (.token pending.head?) pending pending
  | advance (t : Token) (rest : List Token) : Effect .advance (.token (some t)) (t :: rest) rest
  | ended : Effect .advance (.token none) [] []
  | putBack (t : Token) (pending : List Token) : Effect (.pushBack t) .putBack pending (t :: pending)
  | full (t : Token) (pending : List Token) : Effect (.pushBack t) .full pending pending
  | read {used rest : List Token} {result : Except ReadError (Option Expr)} :
      TakesFront Reader.read used result rest → Effect .read (.expression result) (used ++ rest) rest
  | readAll {used rest : List Token} {result : Except ReadError (List Expr)} :
      TakesFront Reader.readAll used result rest →
      Effect .readAll (.expressions result) (used ++ rest) rest

/-- **A request does to the queue what it is meant to do.** -/
theorem effect_perform (q : TokenQueue) (request : Request) :
    Effect request (q.perform request).1 q.pending (q.perform request).2.pending := by
  obtain ⟨pending, held⟩ := q
  cases request with
  | peek =>
      cases pending with
      | nil => exact .peek []
      | cons t rest => exact .peek (t :: rest)
  | advance =>
      cases pending with
      | nil => exact .ended
      | cons t rest => exact .advance t rest
  | pushBack token =>
      cases held with
      | true => exact .full token pending
      | false => exact .putBack token pending
  | read =>
      obtain ⟨used, hpending, hused⟩ := exists_takesFront_read pending
      have heffect := Effect.read hused
      rwa [← hpending] at heffect
  | readAll =>
      obtain ⟨used, hpending, hused⟩ := exists_takesFront_readAll pending
      have heffect := Effect.readAll hused
      rwa [← hpending] at heffect

/-- The effects of answered requests, one after the other, lead from one list of pending tokens to
    another. -/
inductive Accounted : List Token → List (Request × Reply) → List Token → Prop where
  | none (pending : List Token) : Accounted pending [] pending
  | more {request : Request} {reply : Reply} {before next after : List Token}
      {later : List (Request × Reply)} : Effect request reply before next →
      Accounted next later after → Accounted before ((request, reply) :: later) after

/-- **All requests together account for every token.** -/
theorem accounted_performAll (q : TokenQueue) (requests : List Request) :
    Accounted q.pending (requests.zip (performAll perform q requests).1)
      (performAll perform q requests).2.pending := by
  induction requests generalizing q with
  | nil => exact .none q.pending
  | cons request requests ih => exact .more (effect_perform q request) (ih _)

end TokenQueue

namespace TokenStream

/-- **A stream is a queue of tokens with one place to put a token back.** Any requests to a stream,
    wherever its tokens come from and whatever was done to it before, are answered as those to the
    list of its pending tokens and the flag are, and lead to a stream with the list and the flag
    that these lead to. The tokens are accounted for all the way. -/
theorem stream_is_token_queue (stream : TokenStream) (requests : List Request) :
    (performAll perform stream requests).1 =
        (performAll TokenQueue.perform stream.queue requests).1 ∧
      (performAll perform stream requests).2.queue =
        (performAll TokenQueue.perform stream.queue requests).2 ∧
      TokenQueue.Accounted stream.toList (requests.zip (performAll perform stream requests).1)
        (performAll perform stream requests).2.toList := by
  have hsame := performAll_of_perform perform_queue stream requests
  have haccounted := TokenQueue.accounted_performAll stream.queue requests
  rw [hsame] at haccounted ⊢
  exact ⟨rfl, rfl, haccounted⟩

end TokenStream
end PairLisp
