import PairLisp.Proofs.Places

/-!
# The grammar of expressions

The reader is a machine with a chain of open lists. This file says what it reads by a grammar,

    E ::= symbol | '(' ')' | '(' E+ ')' | '(' E+ '.' E ')'

and shows that the machine decides it: what it accepts, how much it consumes, and that it refuses
a token as soon as no expression could go on with it. The route:

* `Derives` is the grammar, for single expressions and for rows of them at once;
* a derivation carries the machine along, from any chain of places (`feed_of_derives`), so an
  expression at the front of the tokens is read, and read to its end;
* `Opened` and `Awaits` describe the partial derivations that the states of the machine stand
  for. A step keeps this description (`advanced_step`), and so does a run (`feed_spec`);
* every partial derivation can be completed (`viable_of_awaits`), so the machine is never in a
  state without a way on.

`PairLisp.Proofs.Parsing` turns this into what reading answers and how much it consumes.
-/

namespace PairLisp
namespace Grammar

open Reader

/-! ## The grammar -/

/-- What a run of tokens may stand for: one expression, or any number of them in a row. -/
inductive Phrase where
  | expression (e : Expr)
  | row (es : List Expr)

/-- The tokens derive the phrase. Symbols are taken verbatim, and a list is nested to the right
    with the expression behind its dot, or `NIL`, at the end. -/
inductive Derives : List Token → Phrase → Prop where
  | symbol {t : Token} : t.kind = .symbol → Derives [t] (.expression (.atom t.text))
  | empty {l r : Token} : l.kind = .lparen → r.kind = .rparen →
      Derives [l, r] (.expression Expr.nil)
  | list {l r : Token} {ts : List Token} {e : Expr} {es : List Expr} : l.kind = .lparen →
      Derives ts (.row (e :: es)) → r.kind = .rparen →
      Derives (l :: (ts ++ [r])) (.expression (.ofList (e :: es) Expr.nil))
  | dotted {l d r : Token} {ts us : List Token} {e tail : Expr} {es : List Expr} :
      l.kind = .lparen → Derives ts (.row (e :: es)) → d.kind = .dot →
      Derives us (.expression tail) → r.kind = .rparen →
      Derives (l :: (ts ++ d :: (us ++ [r]))) (.expression (.ofList (e :: es) tail))
  | none : Derives [] (.row [])
  | more {ts us : List Token} {e : Expr} {es : List Expr} : Derives ts (.expression e) →
      Derives us (.row es) → Derives (ts ++ us) (.row (e :: es))

/-- The tokens are a proper prefix of an expression. -/
def Viable (tokens : List Token) : Prop :=
  ∃ more e, more ≠ [] ∧ Derives (tokens ++ more) (.expression e)

/-- The tokens are a prefix of an expression. -/
def IsPrefix (tokens : List Token) : Prop :=
  ∃ more e, Derives (tokens ++ more) (.expression e)

/-- An expression stands at the front of the tokens. -/
def Complete (tokens : List Token) : Prop :=
  ∃ used rest e, tokens = used ++ rest ∧ Derives used (.expression e)

/-- A row in two parts. -/
theorem derives_row_append {ts us : List Token} {es fs : List Expr} (h : Derives ts (.row es))
    (h' : Derives us (.row fs)) : Derives (ts ++ us) (.row (es ++ fs)) := by
  induction es generalizing ts with
  | nil =>
      cases h
      exact h'
  | cons e es ih =>
      cases h with
      | more he hes =>
          rw [List.append_assoc]
          exact .more he (ih hes)

/-- A row with one expression more at its end. -/
theorem derives_row_snoc {ts us : List Token} {es : List Expr} {e : Expr}
    (h : Derives ts (.row es)) (h' : Derives us (.expression e)) :
    Derives (ts ++ us) (.row (es ++ [e])) := by
  refine derives_row_append h ?_
  have hone := Derives.more h' .none
  rwa [List.append_nil] at hone

/-- The list of a row that is closed without a dot, the empty one included. -/
theorem derives_closed {l r : Token} {ts : List Token} {es : List Expr} (hl : l.kind = .lparen)
    (h : Derives ts (.row es)) (hr : r.kind = .rparen) :
    Derives (l :: (ts ++ [r])) (.expression (.ofList es Expr.nil)) := by
  cases es with
  | nil =>
      cases h
      exact .empty hl hr
  | cons e es => exact .list hl h hr

/-! ## Running the reader -/

/-- Goes on behind the effect of a token. -/
def resume : Step State → List Token → Progress State
  | .more state, rest => feed state rest
  | .value e, rest => .done (.ok e) rest
  | .refused cause, rest => .done (.error cause) rest

theorem feed_cons (state : State) (t : Token) (rest : List Token) :
    feed state (t :: rest) = resume (step state t) rest := by
  rw [feed]
  cases step state t <;> rfl

/-- A run over two parts: the second part is touched only if the first one leaves the reader
    waiting. -/
theorem feed_append (state : State) (xs ys : List Token) :
    feed state (xs ++ ys) =
      match feed state xs with
      | .pending next => feed next ys
      | .done result rest => .done result (rest ++ ys) := by
  induction xs generalizing state with
  | nil => rfl
  | cons t xs ih =>
      rw [List.cons_append, feed_cons, feed_cons]
      cases step state t with
      | more next => exact ih next
      | value e => rfl
      | refused cause => rfl

/-- Tokens can be given to the reader in two portions. -/
theorem feed_append_of_pending {state next : State} {xs : List Token}
    (h : feed state xs = .pending next) (ys : List Token) :
    feed state (xs ++ ys) = feed next ys := by
  rw [feed_append, h]

/-! The effect of a token by its kind. -/

theorem step_lparen {t : Token} (h : t.kind = .lparen) (places : List Place) :
    step (.expression places) t = .more (.expression (.item [] :: places)) := by
  simp [step, h]

theorem step_symbol {t : Token} (h : t.kind = .symbol) (places : List Place) :
    step (.expression places) t = deliver (.atom t.text) places := by
  simp [step, h]

theorem step_rparen {t : Token} (h : t.kind = .rparen) (items : List Expr)
    (outer : List Place) :
    step (.expression (.item items :: outer)) t =
      deliver (.ofList items.reverse Expr.nil) outer := by
  simp [step, h, closeList]

theorem step_dot {t : Token} (h : t.kind = .dot) {items : List Expr} (hne : items ≠ [])
    (outer : List Place) :
    step (.expression (.item items :: outer)) t = .more (.expression (.tail items :: outer)) := by
  cases items with
  | nil => exact absurd rfl hne
  | cons e items => simp [step, h, startTail]

theorem step_close {t : Token} (h : t.kind = .rparen) (items : List Expr) (tail : Expr)
    (outer : List Place) :
    step (.close items tail outer) t = deliver (.ofList items.reverse tail) outer := by
  simp [step, h]

/-- What reading a phrase does, from any chain of places and whatever comes behind it: an
    expression is delivered to the innermost place, a row is added to its items. -/
def Carries (ts : List Token) : Phrase → Prop
  | .expression e => ∀ places rest,
      feed (.expression places) (ts ++ rest) = resume (deliver e places) rest
  | .row es => ∀ items outer rest,
      feed (.expression (.item items :: outer)) (ts ++ rest) =
        feed (.expression (.item (es.reverse ++ items) :: outer)) rest

/-- **A derivation carries the reader along.** -/
theorem feed_of_derives {ts : List Token} {phrase : Phrase} (h : Derives ts phrase) :
    Carries ts phrase := by
  induction h with
  | symbol ht =>
      intro places rest
      rw [List.singleton_append, feed_cons, step_symbol ht]
  | empty hl hr =>
      intro places rest
      rw [List.cons_append, feed_cons, step_lparen hl, resume, List.singleton_append, feed_cons,
        step_rparen hr]
      rfl
  | @list l r ts e es hl _ hr ih =>
      intro places rest
      rw [List.cons_append, feed_cons, step_lparen hl, resume, List.append_assoc, ih,
        List.singleton_append, feed_cons, step_rparen hr, List.append_nil, List.reverse_reverse]
  | @dotted l d r ts us e tail es hl _ hd _ hr ih ihtail =>
      intro places rest
      -- the dot is taken because the row has an item
      have hne : (e :: es).reverse ++ [] ≠ [] := by simp
      rw [List.cons_append, feed_cons, step_lparen hl, resume, List.append_assoc, ih,
        List.cons_append, feed_cons, step_dot hd hne, resume, List.append_assoc, ihtail, deliver,
        resume, List.singleton_append, feed_cons, step_close hr, List.append_nil,
        List.reverse_reverse]
  | none =>
      intro items outer rest
      rfl
  | @more ts us e es _ _ ih ihrest =>
      intro items outer rest
      rw [List.append_assoc, ih, deliver, resume, ihrest, List.reverse_cons, List.append_assoc,
        List.singleton_append]

/-- An expression at the front of the tokens is read to its end and no further. -/
theorem feed_start_of_derives {ts : List Token} {e : Expr} (h : Derives ts (.expression e))
    (rest : List Token) : feed .start (ts ++ rest) = .done (.ok e) rest :=
  feed_of_derives h [] rest

/-! ## Partial derivations -/

/-- The tokens up to where an expression can come. Each place is a list that was opened, with the
    row of its items so far and, for a tail, the dot behind them. -/
inductive Opened : List Token → List Place → Prop where
  | start : Opened [] []
  | item {pre ts : List Token} {outer : List Place} {l : Token} {es : List Expr} :
      Opened pre outer → l.kind = .lparen → Derives ts (.row es) →
      Opened (pre ++ l :: ts) (.item es.reverse :: outer)
  | tail {pre ts : List Token} {outer : List Place} {l d : Token} {e : Expr} {es : List Expr} :
      Opened pre outer → l.kind = .lparen → Derives ts (.row (e :: es)) → d.kind = .dot →
      Opened (pre ++ l :: (ts ++ [d])) (.tail (e :: es).reverse :: outer)

/-- The tokens that a state of the reader stands for. -/
inductive Awaits : List Token → State → Prop where
  | expression {pre : List Token} {places : List Place} : Opened pre places →
      Awaits pre (.expression places)
  | close {pre ts us : List Token} {outer : List Place} {l d : Token} {e tail : Expr}
      {es : List Expr} : Opened pre outer → l.kind = .lparen → Derives ts (.row (e :: es)) →
      d.kind = .dot → Derives us (.expression tail) →
      Awaits (pre ++ l :: (ts ++ d :: us)) (.close (e :: es).reverse tail outer)

/-- What the effect of the last token says about the tokens up to it. Of a refused token nothing
    is said: that no expression allows it comes from the run that follows a derivation. -/
def Advanced (read : List Token) : Step State → Prop
  | .more state => Awaits read state
  | .value e => Derives read (.expression e)
  | .refused _ => True

/-- An expression at an open place. -/
theorem advanced_deliver {pre ts : List Token} {places : List Place} {e : Expr}
    (h : Opened pre places) (he : Derives ts (.expression e)) :
    Advanced (pre ++ ts) (deliver e places) := by
  cases h with
  | start => exact he
  | @item pre us outer l es hpre hl hes =>
      have hopen := Opened.item hpre hl (derives_row_snoc hes he)
      rw [List.reverse_append] at hopen
      rw [List.append_assoc, List.cons_append]
      exact .expression hopen
  | @tail pre us outer l d f es hpre hl hes hd =>
      rw [List.append_assoc, List.cons_append, List.append_assoc, List.singleton_append]
      exact .close hpre hl hes hd he

/-- A closing parenthesis where an expression could come. -/
theorem advanced_closeList {pre : List Token} {places : List Place} {t : Token}
    (h : Opened pre places) (ht : t.kind = .rparen) :
    Advanced (pre ++ [t]) (closeList t.text places) := by
  cases h with
  | start => trivial
  | @item pre ts outer l es hpre hl hes =>
      rw [closeList, List.reverse_reverse, List.append_assoc, List.cons_append]
      exact advanced_deliver hpre (derives_closed hl hes ht)
  | tail => trivial

/-- A dot where an expression could come. -/
theorem advanced_startTail {pre : List Token} {places : List Place} {t : Token}
    (h : Opened pre places) (ht : t.kind = .dot) :
    Advanced (pre ++ [t]) (startTail t.text places) := by
  cases h with
  | start => trivial
  | @item pre ts outer l es hpre hl hes =>
      cases es with
      | nil => trivial
      | cons e es =>
          have hopen := Opened.tail hpre hl hes ht
          -- the latest item is in front, and the dot asks for one
          obtain ⟨f, fs, hfs⟩ : ∃ f fs, (e :: es).reverse = f :: fs :=
            List.exists_cons_of_ne_nil (by simp)
          rw [hfs] at hopen ⊢
          rw [List.append_assoc, List.cons_append]
          exact .expression hopen
  | tail => trivial

/-- **A step of the reader extends the partial derivation or completes it.** -/
theorem advanced_step {pre : List Token} {state : State} (h : Awaits pre state) (t : Token) :
    Advanced (pre ++ [t]) (step state t) := by
  cases h with
  | @expression pre places hopen =>
      rw [step]
      cases hkind : t.kind with
      | lparen => exact .expression (.item hopen hkind .none)
      | rparen => exact advanced_closeList hopen hkind
      | dot => exact advanced_startTail hopen hkind
      | symbol => exact advanced_deliver hopen (.symbol hkind)
  | @close pre ts us outer l d e tail es hpre hl hes hd htail =>
      rw [step]
      cases hkind : t.kind with
      | rparen =>
          -- the dotted list is complete and goes to the place around it
          dsimp only
          rw [List.reverse_reverse, List.append_assoc, List.cons_append, List.append_assoc,
            List.cons_append]
          exact advanced_deliver hpre (.dotted hl hes hd htail hkind)
      | lparen => trivial
      | dot => trivial
      | symbol => trivial

/-- What a run says about the tokens: used up, or up to the end of an expression, or up to the
    token that was refused. -/
def Advances (pre tokens : List Token) : Progress State → Prop
  | .pending state => Awaits (pre ++ tokens) state
  | .done (.ok e) rest => ∃ used, tokens = used ++ rest ∧ Derives (pre ++ used) (.expression e)
  | .done (.error cause) rest => ∃ used t state, tokens = used ++ t :: rest ∧
      Awaits (pre ++ used) state ∧ step state t = .refused cause

/-- **A run of the reader follows a partial derivation** until it is complete or a token is
    refused. -/
theorem feed_spec {pre : List Token} {state : State} (h : Awaits pre state)
    (tokens : List Token) : Advances pre tokens (feed state tokens) := by
  induction tokens generalizing pre state with
  | nil =>
      rw [feed, Advances, List.append_nil]
      exact h
  | cons t tokens ih =>
      have hstep := advanced_step h t
      rw [feed_cons]
      cases hnext : step state t with
      | value e =>
          rw [hnext] at hstep
          exact ⟨[t], rfl, hstep⟩
      | refused cause => exact ⟨[], t, state, rfl, by rwa [List.append_nil], hnext⟩
      | more next =>
          rw [hnext] at hstep
          have hrest := ih hstep
          rw [resume]
          -- the token just read moves from the tokens behind it to those in front
          generalize feed next tokens = progress at hrest
          rcases progress with last | ⟨cause | e, rest⟩
          · simpa [Advances] using hrest
          · obtain ⟨used, u, last, rfl, hused, hrefused⟩ := hrest
            exact ⟨t :: used, u, last, rfl, by simpa using hused, hrefused⟩
          · obtain ⟨used, rfl, hused⟩ := hrest
            exact ⟨t :: used, rfl, by simpa using hused⟩

/-! ## Completing a partial derivation -/

/-- Whatever expression comes at an open place, some tokens behind it close all open lists. -/
theorem exists_closing {pre : List Token} {places : List Place} (h : Opened pre places) :
    ∃ closing, ∀ ts e, Derives ts (.expression e) →
      ∃ v, Derives (pre ++ (ts ++ closing)) (.expression v) := by
  induction h with
  | start =>
      refine ⟨[], fun ts e he => ⟨e, ?_⟩⟩
      rwa [List.append_nil]
  | @item pre us outer l es _ hl hes ih =>
      obtain ⟨closing, hclosing⟩ := ih
      refine ⟨.rparen :: closing, fun ts e he => ?_⟩
      -- the list ends with the expression and is itself one, at the place outside
      have hlist := derives_closed hl (derives_row_snoc hes he) (r := .rparen) rfl
      obtain ⟨v, hv⟩ := hclosing _ _ hlist
      exact ⟨v, by simpa using hv⟩
  | @tail pre us outer l d f es _ hl hes hd ih =>
      obtain ⟨closing, hclosing⟩ := ih
      refine ⟨.rparen :: closing, fun ts e he => ?_⟩
      have hlist := Derives.dotted hl hes hd he (r := .rparen) rfl
      obtain ⟨v, hv⟩ := hclosing _ _ hlist
      exact ⟨v, by simpa using hv⟩

/-- Where the reader waits, an expression can still be completed. -/
theorem viable_of_awaits {pre : List Token} {state : State} (h : Awaits pre state) :
    Viable pre := by
  cases h with
  | expression hopen =>
      obtain ⟨closing, hclosing⟩ := exists_closing hopen
      obtain ⟨v, hv⟩ := hclosing _ _ (.symbol (t := .symbol ['X']) rfl)
      exact ⟨_, v, by simp, hv⟩
  | @close pre ts us outer l d e tail es hpre hl hes hd htail =>
      obtain ⟨closing, hclosing⟩ := exists_closing hpre
      obtain ⟨v, hv⟩ := hclosing _ _ (.dotted hl hes hd htail (r := .rparen) rfl)
      exact ⟨.rparen :: closing, v, by simp, by simpa using hv⟩

end Grammar
end PairLisp
