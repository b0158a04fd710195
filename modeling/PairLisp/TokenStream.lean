import PairLisp.Reader
import PairLisp.Source

/-!
# Streams of tokens

A stream delivers the tokens of a source on demand. It asks for a chunk only when the tokens of
the last one are used up, and it has room for one token that was looked at or put back.
-/

namespace PairLisp

/-- Tokens still to come. -/
structure TokenStream where
  /-- The token that was looked at or put back. -/
  held : Option Token
  /-- The tokens left of the chunk last asked for. -/
  line : List Token
  /-- The chunks after it. -/
  source : Source
deriving DecidableEq

namespace TokenStream

/-- The stream of all tokens of a source. -/
def ofSource (source : Source) : TokenStream :=
  ⟨none, [], source⟩

/-- All tokens still to come, in order. -/
def toList (stream : TokenStream) : List Token :=
  stream.held.toList ++ stream.line ++ stream.source.pending.flatMap Token.lex

/-- A chunk that was asked for is no longer to come. -/
theorem length_pending_next {source after : Source} {chunk : String}
    (h : source.next = (some chunk, after)) : after.pending.length < source.pending.length := by
  unfold Source.next at h
  split at h
  · next heq =>
    cases h
    simp [heq]
  · simp at h

/-- Takes the first token of `line`, or of the first chunk that has one. -/
def takeFrom (line : List Token) (source : Source) : Option Token × TokenStream :=
  match line with
  | token :: rest => (some token, ⟨none, rest, source⟩)
  | [] =>
    match _ : source.next with
    | (some chunk, after) => takeFrom (Token.lex chunk) after
    | (none, after) => (none, ⟨none, [], after⟩)
termination_by source.pending.length
decreasing_by exact length_pending_next (by assumption)

/-- Takes the next token; there is none at the end of input. -/
def advance (stream : TokenStream) : Option Token × TokenStream :=
  match stream.held with
  | some token => (some token, { stream with held := none })
  | none => takeFrom stream.line stream.source

/-- Looks at the next token, which is held from then on. -/
def peek (stream : TokenStream) : Option Token × TokenStream :=
  match stream.held with
  | some token => (some token, stream)
  | none =>
    let (token, after) := takeFrom stream.line stream.source
    (token, { after with held := token })

/-- Puts a token back in front, if none is held. -/
def pushBack? (stream : TokenStream) (token : Token) : Option TokenStream :=
  match stream.held with
  | some _ => none
  | none => some { stream with held := some token }

/-- Goes on reading with `stack` open, from the tokens of `line` and then of further chunks. -/
def readFrom (stack : Reader.Stack) (line : List Token) (source : Source) :
    Except ReadError (Option Expr) × TokenStream :=
  match stack.feed line with
  | .done result rest => (result.map some, ⟨none, rest, source⟩)
  | .pending next =>
    match _ : source.next with
    | (some chunk, after) => readFrom next (Token.lex chunk) after
    | (none, after) => (next.finish, ⟨none, [], after⟩)
termination_by source.pending.length
decreasing_by exact length_pending_next (by assumption)

/-- Reads one expression; there is none at the end of input. -/
def read (stream : TokenStream) : Except ReadError (Option Expr) × TokenStream :=
  readFrom [] (stream.held.toList ++ stream.line) stream.source

/-! ## Reading to the end -/

/-- The tokens of the next chunk are the first ones still to come. -/
theorem flatMap_pending_next {source after : Source} {chunk : String}
    (h : source.next = (some chunk, after)) :
    source.pending.flatMap Token.lex = Token.lex chunk ++ after.pending.flatMap Token.lex := by
  unfold Source.next at h
  split at h
  · next heq =>
    cases h
    rw [heq, List.flatMap_cons]
  · cases h

/-- A reading that does not come to nothing uses up a token, unless a list was open before. -/
theorem length_readFrom {stack : Reader.Stack} {line : List Token} {source : Source}
    {answer : Except ReadError (Option Expr)} {after : TokenStream}
    (h : readFrom stack line source = (answer, after)) (hne : answer ≠ .ok none) :
    after.toList.length <
      (line ++ source.pending.flatMap Token.lex).length + if stack = [] then 0 else 1 := by
  fun_induction readFrom stack line source with
  | case1 stack line source result rest hfeed =>
    obtain ⟨_, rfl⟩ := Prod.mk.inj h
    have := Reader.Stack.length_feed hfeed
    simp only [toList, Option.toList_none, List.nil_append, List.length_append]
    omega
  | case2 stack line source next hfeed chunk later hnext ih =>
    have hrest := ih h
    rw [flatMap_pending_next hnext, List.length_append]
    cases line with
    | nil =>
      cases hfeed
      simpa using hrest
    | cons token line =>
      rw [List.length_cons]
      split at hrest <;> omega
  | case3 stack line source next hfeed later hnext =>
    obtain ⟨rfl, rfl⟩ := Prod.mk.inj h
    have hnil : later.pending = [] := by
      unfold Source.next at hnext
      split at hnext
      · cases hnext
      · cases hnext
        rfl
    cases line with
    | nil =>
      cases hfeed
      cases stack with
      | nil => exact absurd rfl hne
      | cons top below => simp [toList, hnil]
    | cons token line =>
      simp only [toList, hnil, Option.toList_none, List.nil_append, List.flatMap_nil,
        List.length_nil, List.cons_append, List.length_cons]
      omega

/-- What the next reading comes to, if the input has not ended, and the stream after it. -/
def next (stream : TokenStream) : Option (Except ReadError Expr × TokenStream) :=
  match stream.read with
  | (.ok none, _) => none
  | (.ok (some e), after) => some (.ok e, after)
  | (.error cause, after) => some (.error cause, after)

/-- A reading uses up a token, also one that fails. -/
theorem length_next {stream after : TokenStream} {reading : Except ReadError Expr}
    (h : stream.next = some (reading, after)) : after.toList.length < stream.toList.length := by
  rw [next] at h
  split at h
  · cases h
  · next hread =>
    cases h
    exact length_readFrom hread (by simp)
  · next hread =>
    cases h
    exact length_readFrom hread (by simp)

/-- What is to be done behind a reading: nothing more, or the work goes on in a state, and what was
    done before comes in front of its result. -/
inductive Course (σ ρ : Type) where
  | ends (result : ρ)
  | goesOn (state : σ) (before : ρ → ρ)

/-- Does something about one reading after the other, until that ends the work or the input ends. A
    form is read when the one before it has been dealt with. -/
def drive {σ ρ : Type} (act : σ → Except ReadError Expr → Course σ ρ) (atEnd : σ → ρ) (state : σ)
    (stream : TokenStream) : ρ :=
  match _ : stream.next with
  | none => atEnd state
  | some (reading, after) =>
    match act state reading with
    | .ends result => result
    | .goesOn state before => before (after.drive act atEnd state)
termination_by stream.toList.length
decreasing_by exact length_next (by assumption)

/-- Reads all expressions up to the end of input or the first error. -/
def readAll (stream : TokenStream) : Except ReadError (List Expr) × TokenStream :=
  match _ : stream.read with
  | (.ok none, after) => (.ok [], after)
  | (.ok (some e), after) =>
    let (result, last) := after.readAll
    (result.map (e :: ·), last)
  | (.error cause, after) => (.error cause, after)
termination_by stream.toList.length
decreasing_by exact length_readFrom (by assumption) (by simp)

end TokenStream
end PairLisp
