import PairLisp.TokenStream

/-!
# The reader by what it waits for

The reader keeps a stack of open lists, and a stack could hold more than a reader ever has on it: a list
below the top that waits for its closing parenthesis, or one without items that waits for its tail. This
file gives the reader the states that it can be in, and no others. A `State` is the chain of the places
that wait for an expression, innermost first, or a list whose tail has been read and the places around
it.

* `State.stack` is the stack that a state stands for;
* a step on the stack of a state is the step of the state (`step_stack`), and so is a run over tokens
  (`feed_stack`) and the end of input (`finish_stack`). So nothing is ever taken off an empty stack;
* `read` and `segments` read one expression and all of them from a list of tokens. Every error among
  these is put down to a token or to the end of input (`blamed_of_mem_segments`).
-/

namespace PairLisp
namespace Reader

/-! ## States -/

/-- Where the next expression goes in a list still open. The items read so far are kept latest
    first. -/
inductive Place where
  | item (items : List Expr)
  | tail (items : List Expr)
deriving DecidableEq

/-- What the reader waits for: an expression at the innermost place, where no place at all means
    that nothing is open, or the parenthesis that closes a dotted list. -/
inductive State where
  | expression (places : List Place)
  | close (items : List Expr) (tail : Expr) (outer : List Place)
deriving DecidableEq

/-- The state in which nothing is open. -/
def State.start : State := .expression []

/-- Hands a complete expression to the place that waits for it. -/
def deliver (e : Expr) : List Place → Step State
  | [] => .value e
  | .item items :: outer => .more (.expression (.item (e :: items) :: outer))
  | .tail items :: outer => .more (.close items e outer)

/-- A closing parenthesis while an expression could come. -/
def closeList (text : String) : List Place → Step State
  | [] => .refused (.unexpected text)
  | .item items :: outer => deliver (Expr.ofList items.reverse Expr.nil) outer
  | .tail _ :: _ => .refused (.unexpected ")")

/-- A dot while an expression could come: it needs an item before it. -/
def startTail (text : String) : List Place → Step State
  | [] => .refused (.unexpected text)
  | .item (e :: items) :: outer => .more (.expression (.tail (e :: items) :: outer))
  | .item [] :: _ => .refused (.unexpected ".")
  | .tail _ :: _ => .refused (.unexpected ".")

/-- The effect of a token in a state. -/
def step : State → Token → Step State
  | .expression places, token =>
    match token.kind with
    | .lparen => .more (.expression (.item [] :: places))
    | .rparen => closeList token.text places
    | .dot => startTail token.text places
    | .symbol => deliver (.atom token.text) places
  | .close items tail outer, token =>
    match token.kind with
    | .rparen => deliver (Expr.ofList items.reverse tail) outer
    | .dot => .refused .misplacedDot
    | .lparen | .symbol => .refused (.notClosed token.text)

/-- What is wrong with the end of input in a state; nothing if no list is open. -/
def State.endFault? : State → Option ReadError
  | .expression [] => none
  | .expression (.item _ :: _) => some .endInList
  | .expression (.tail _ :: _) => some .endAfterDot
  | .close _ _ _ => some .endAfterTail

/-- What a reading comes to when the input ends: nothing, if nothing was open. -/
def State.finish (state : State) : Except ReadError (Option Expr) :=
  match state.endFault? with
  | none => .ok none
  | some cause => .error cause

/-- Gives the tokens to the reader one after the other. -/
def feed (state : State) : List Token → Progress State
  | [] => .pending state
  | token :: rest =>
    match step state token with
    | .more next => feed next rest
    | .value e => .done (.ok e) rest
    | .refused cause => .done (.error cause) rest

/-! ## The stack of a state -/

/-- The list that a place is in. -/
def Place.openList : Place → OpenList
  | .item items => ⟨items, Expr.nil, .items⟩
  | .tail items => ⟨items, Expr.nil, .tail⟩

/-- The stack that a state stands for. -/
def State.stack : State → Stack
  | .expression places => places.map Place.openList
  | .close items tail outer => ⟨items, tail, .close⟩ :: outer.map Place.openList

/-- A step, seen through a function on states. -/
def Step.map {σ τ : Type} (f : σ → τ) : Step σ → Step τ
  | .more state => .more (f state)
  | .value e => .value e
  | .refused cause => .refused cause

/-- A run, seen through a function on states. -/
def Progress.map {σ τ : Type} (f : σ → τ) : Progress σ → Progress τ
  | .pending state => .pending (f state)
  | .done result rest => .done result rest

/-- Handing an expression to the stack of some places is handing it to the innermost place. -/
theorem handOver_openList (e : Expr) (places : List Place) :
    Stack.handOver e (places.map Place.openList) = (deliver e places).map State.stack := by
  rcases places with _ | ⟨_ | _, outer⟩ <;> rfl

/-- **A step on the stack of a state is the step of the state.** -/
theorem step_stack (state : State) (token : Token) :
    state.stack.step token = (step state token).map State.stack := by
  obtain ⟨kind, text⟩ := token
  rcases state with (_ | ⟨⟨items⟩ | ⟨items⟩, outer⟩) | ⟨items, tail, outer⟩
  · cases kind <;> rfl
  · cases kind with
    | lparen => rfl
    | rparen => exact handOver_openList _ outer
    | dot => cases items <;> rfl
    | symbol => rfl
  · cases kind <;> rfl
  · cases kind with
    | rparen => exact handOver_openList _ outer
    | lparen | dot | symbol => rfl

/-- **A run over tokens on the stack of a state is the run of the state.** By induction on the tokens:
    every step leads to the stack of a state again. -/
theorem feed_stack (state : State) (tokens : List Token) :
    state.stack.feed tokens = (feed state tokens).map State.stack := by
  induction tokens generalizing state with
  | nil => rfl
  | cons token rest ih =>
      rw [Stack.feed, feed, step_stack]
      cases step state token with
      | more next => exact ih next
      | value e => rfl
      | refused cause => rfl

/-- The token that ends a run is used up. -/
theorem length_feed {state : State} {tokens rest : List Token} {result : Except ReadError Expr}
    (h : feed state tokens = .done result rest) : rest.length < tokens.length := by
  have hstack := feed_stack state tokens
  rw [h] at hstack
  exact Stack.length_feed hstack

/-- The end of input is the same for a state and for its stack. -/
theorem finish_stack (state : State) : state.stack.finish = state.finish := by
  rcases state with (_ | ⟨_ | _, outer⟩) | ⟨items, tail, outer⟩ <;> rfl

/-! ## Lists of tokens -/

/-- Reads one expression and returns the tokens left. -/
def read (tokens : List Token) : Except ReadError (Option Expr) × List Token :=
  match feed .start tokens with
  | .pending state => (state.finish, [])
  | .done result rest => (result.map some, rest)

/-- What the tokens hold, in order: expressions, and errors where a token was refused or the
    input ended too early. -/
def segments (state : State) : List Token → List (Except ReadError Expr)
  | [] => (state.endFault?.map Except.error).toList
  | token :: rest =>
    match step state token with
    | .more next => segments next rest
    | .value e => .ok e :: segments .start rest
    | .refused cause => .error cause :: segments .start rest

/-! ## What is wrong -/

/-- What can be said about a token with a text that is refused. -/
inductive Blamed (text : String) : ReadError → Prop where
  | unexpected {s : String} : s ∈ [text, ")", "."] → Blamed text (.unexpected s)
  | misplacedDot : Blamed text .misplacedDot
  | notClosed : Blamed text (.notClosed text)

/-- What can be said about the end of input. -/
inductive LeftOpen : ReadError → Prop where
  | inList : LeftOpen .endInList
  | afterDot : LeftOpen .endAfterDot
  | afterTail : LeftOpen .endAfterTail

/-- An expression is never refused by the place that waits for it. -/
theorem deliver_ne_refused (e : Expr) (places : List Place) (cause : ReadError) :
    deliver e places ≠ .refused cause := by
  intro h
  rcases places with _ | ⟨_ | _, outer⟩ <;> cases h

theorem blamed_of_closeList {text : String} {places : List Place} {cause : ReadError}
    (h : closeList text places = .refused cause) : Blamed text cause := by
  rcases places with _ | ⟨items | items, outer⟩
  · cases h
    exact .unexpected (by simp)
  · exact absurd h (deliver_ne_refused _ outer cause)
  · cases h
    exact .unexpected (by simp)

theorem blamed_of_startTail {text : String} {places : List Place} {cause : ReadError}
    (h : startTail text places = .refused cause) : Blamed text cause := by
  rcases places with _ | ⟨(_ | ⟨e, items⟩) | items, outer⟩
  · cases h
    exact .unexpected (by simp)
  · cases h
    exact .unexpected (by simp)
  · cases h
  · cases h
    exact .unexpected (by simp)

/-- A token that is refused is to blame. -/
theorem blamed_of_step {state : State} {t : Token} {cause : ReadError}
    (h : step state t = .refused cause) : Blamed t.text cause := by
  obtain ⟨kind, text⟩ := t
  cases state with
  | expression places =>
      cases kind with
      | lparen => cases h
      | rparen => exact blamed_of_closeList h
      | dot => exact blamed_of_startTail h
      | symbol => exact absurd h (deliver_ne_refused _ places cause)
  | close items tail outer =>
      cases kind with
      | rparen => exact absurd h (deliver_ne_refused _ outer cause)
      | dot =>
          cases h
          exact .misplacedDot
      | lparen | symbol =>
          cases h
          exact .notClosed

/-- What is wrong with the end of input is that a list was left open. -/
theorem leftOpen_of_endFault? {state : State} {cause : ReadError}
    (h : state.endFault? = some cause) : LeftOpen cause := by
  rcases state with (_ | ⟨_ | _, _⟩) | ⟨_, _, _⟩
  · cases h
  · cases h
    exact .inList
  · cases h
    exact .afterDot
  · cases h
    exact .afterTail

/-- **Every error in a list of tokens is put down to one of them or to the end.** -/
theorem blamed_of_mem_segments {state : State} {tokens : List Token} {cause : ReadError}
    (h : .error cause ∈ segments state tokens) :
    (∃ t ∈ tokens, Blamed t.text cause) ∨ LeftOpen cause := by
  induction tokens generalizing state with
  | nil =>
      rw [segments] at h
      cases hfault : state.endFault? with
      | none =>
          rw [hfault] at h
          cases h
      | some fault =>
          rw [hfault] at h
          cases List.mem_singleton.mp h
          exact .inr (leftOpen_of_endFault? hfault)
  | cons t tokens ih =>
      -- an error further on is put down to the tokens further on
      have hlater {next : State} (h : .error cause ∈ segments next tokens) :
          (∃ t' ∈ t :: tokens, Blamed t'.text cause) ∨ LeftOpen cause :=
        (ih h).imp_left fun ⟨t', ht', hblamed⟩ => ⟨t', List.mem_cons_of_mem t ht', hblamed⟩
      rw [segments] at h
      cases hstep : step state t with
      | more next =>
          rw [hstep] at h
          exact hlater h
      | value e =>
          rw [hstep] at h
          rcases List.mem_cons.mp h with heq | h
          · cases heq
          · exact hlater h
      | refused fault =>
          rw [hstep] at h
          rcases List.mem_cons.mp h with heq | h
          · cases heq
            exact .inl ⟨t, List.mem_cons_self, blamed_of_step hstep⟩
          · exact hlater h

/-- An error of the reader concerns the text that is read, and is never a misuse. -/
theorem kind_of_mem_segments {state : State} {tokens : List Token} {cause : ReadError}
    (h : .error cause ∈ segments state tokens) : cause.kind = .malformedInput := by
  rcases blamed_of_mem_segments h with ⟨t, -, hblamed⟩ | hopen
  · cases hblamed <;> rfl
  · cases hopen <;> rfl

end Reader

/-! ## Streams -/

namespace TokenStream

open Reader

/-- What reading on with a state open comes to, by what the tokens at hand come to. -/
theorem readFrom_stack (state : State) (line : List Token) (source : Source) :
    readFrom state.stack line source =
      match feed state line with
      | .done result rest => (result.map some, ⟨none, rest, source⟩)
      | .pending next =>
        match source.next with
        | (some chunk, after) => readFrom next.stack (Token.lex chunk) after
        | (none, after) => (next.finish, ⟨none, [], after⟩) := by
  rw [readFrom, feed_stack]
  cases feed state line with
  | done result rest => rfl
  | pending next =>
      dsimp only [Progress.map]
      rw [← finish_stack]
      split <;> simp_all

end TokenStream
end PairLisp
