import PairLisp.Error
import PairLisp.Token

/-!
# Building expressions from tokens

The reader takes one token at a time. It keeps the lists still open on a stack, the innermost one on
top. A list waits for items at first, for its tail behind a dot, and for its closing parenthesis only
behind the tail. A token is looked at first, and refused if no expression could have it there. Then it
opens a list, or it completes an expression, which goes to the list on top.

* `Stack.step` is the effect of one token;
* `Stack.feed` runs the reader until an expression is complete, a token is refused or the tokens are
  used up;
* `Stack.finish` is what the end of input makes of what is open.
-/

namespace PairLisp
namespace Reader

/-- What a list still open waits for. -/
inductive Phase where
  /-- An item, a dot or the closing parenthesis. -/
  | items
  /-- The expression behind a dot. -/
  | tail
  /-- The closing parenthesis behind a tail. -/
  | close
deriving DecidableEq

/-- A list still open. -/
structure OpenList where
  /-- The items read so far, latest first. -/
  items : List Expr
  /-- What the list ends in. -/
  tail : Expr
  phase : Phase
deriving DecidableEq

namespace OpenList

/-- A list that has just been opened. -/
def start : OpenList :=
  ⟨[], Expr.nil, .items⟩

/-- The list that is complete if it is closed now. -/
def value (l : OpenList) : Expr :=
  Expr.ofList l.items.reverse l.tail

/-- Puts an expression where it belongs. -/
def put (l : OpenList) (e : Expr) : OpenList :=
  if l.phase = .tail then { l with tail := e, phase := .close }
  else { l with items := e :: l.items }

end OpenList

/-- The effect of one token on a reader with states of some type. -/
inductive Step (σ : Type) where
  | more (state : σ)
  | value (e : Expr)
  | refused (cause : ReadError)
deriving DecidableEq

/-- How far a list of tokens carries a reader with states of some type. -/
inductive Progress (σ : Type) where
  /-- All tokens are used up. -/
  | pending (state : σ)
  /-- An expression is complete, or a token was refused. -/
  | done (result : Except ReadError Expr) (rest : List Token)

/-- The lists still open, the innermost one first. -/
abbrev Stack := List OpenList

namespace Stack

/-- Hands a complete expression to the list on top, if there is one. -/
def handOver (e : Expr) : Stack → Step Stack
  | [] => .value e
  | top :: below => .more (top.put e :: below)

/-- The effect of a token that has been looked at. -/
def accept (stack : Stack) (token : Token) : Step Stack :=
  match token.kind with
  | .lparen => .more (.start :: stack)
  | .rparen =>
    match Take.top stack with
    | .ok (done, below) => handOver done.value below
    | .error cause => .refused (.misuse cause)
  | .dot | .symbol => handOver (.atom token.text) stack

/-- The effect of a token. -/
def step (stack : Stack) (token : Token) : Step Stack :=
  match stack with
  | [] =>
    match token.kind with
    | .rparen | .dot => .refused (.unexpected token.text)
    | .lparen | .symbol => accept [] token
  | top :: below =>
    match top.phase, token.kind with
    | .close, .dot => .refused .misplacedDot
    | .close, .rparen => accept (top :: below) token
    | .close, .lparen | .close, .symbol => .refused (.notClosed token.text)
    | .items, .dot =>
      if top.items.isEmpty then .refused (.unexpected ".")
      else .more ({ top with phase := .tail } :: below)
    | .tail, .dot => .refused (.unexpected ".")
    | .tail, .rparen => .refused (.unexpected ")")
    | .items, .lparen | .items, .rparen | .items, .symbol | .tail, .lparen | .tail, .symbol =>
      accept (top :: below) token

/-- What is wrong with the end of input while a list is open, by what the list waits for. -/
def endCauses : List (Phase × ReadError) :=
  [(.items, .endInList), (.tail, .endAfterDot), (.close, .endAfterTail)]

/-- What a reading comes to when the input ends: nothing, if nothing was open. -/
def finish : Stack → Except ReadError (Option Expr)
  | [] => .ok none
  | top :: _ =>
    match Take.entry endCauses top.phase with
    | .ok cause => .error cause
    | .error cause => .error (.misuse cause)

/-- Gives the tokens to the reader one after the other. -/
def feed (stack : Stack) : List Token → Progress Stack
  | [] => .pending stack
  | token :: rest =>
    match step stack token with
    | .more next => feed next rest
    | .value e => .done (.ok e) rest
    | .refused cause => .done (.error cause) rest

/-- The token that completes an expression or is refused is used up. -/
theorem length_feed {stack : Stack} {tokens rest : List Token} {result : Except ReadError Expr}
    (h : feed stack tokens = .done result rest) : rest.length < tokens.length := by
  fun_induction feed stack tokens with
  | case1 => simp at h
  | case2 stack token tokens next hstep ih => exact Nat.lt_succ_of_lt (ih h)
  | case3 stack token tokens e hstep =>
    cases h
    exact Nat.lt_succ_self _
  | case4 stack token tokens cause hstep =>
    cases h
    exact Nat.lt_succ_self _

end Stack
end Reader
end PairLisp
