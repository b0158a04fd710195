import PairLisp.Proofs.Adequacy
import PairLisp.Proofs.Nested

/-!
# Errors about the number of arguments

An error of this kind gives a number that is expected and a number that was found. It can be raised
by a `QUOTE` form, by a primitive and by a defined function, and then passes through any number of
calls and conditionals unchanged. This file traces it back to the form that it is about. The route:

* `Written` is a form in the text of the program: in the form that is evaluated, or in the body of a
  definition in force. Nothing else is ever evaluated;
* `Miscounts` says of such a form, by its operands alone, that it raises the error. Every error of
  this kind is that of a form in the text (`miscounts_of_answer`), by induction on the levels;
* a call that miscounts has another number of operands than is expected. `QUOTE` measures the length
  of its tail instead, which is one for a bare tail (`Expr.length_eq_one_iff`), so there the error
  finds just the number that it expects (`Miscounts.eq_iff_bareQuote`).
-/

namespace PairLisp

/-! ## Lengths -/

/-- The expression is neither a pair nor the end of a list. -/
def Expr.Bare (e : Expr) : Prop :=
  (∃ token, e = .atom token ∧ Symbol.key token ≠ "NIL") ∨ e = .blank

theorem Expr.length_eq_zero_iff {e : Expr} : e.length = 0 ↔ e.Proper [] := by
  constructor
  · intro h
    cases e with
    | atom token =>
        rw [length] at h
        split at h
        · next hnil => exact .nil (by simpa [Symbol.isNil] using hnil)
        · cases h
    | pair first rest => cases h
    | blank => cases h
  · intro h
    cases h with
    | nil hkey => simp [length, Symbol.isNil, hkey]

/-- **Besides the lists of one item, just the bare expressions have length one.** -/
theorem Expr.length_eq_one_iff {e : Expr} : e.length = 1 ↔ (∃ item, e.Proper [item]) ∨ e.Bare := by
  cases e with
  | atom token =>
      constructor
      · intro h
        refine .inr (.inl ⟨token, rfl, fun hkey => ?_⟩)
        simp [length, Symbol.isNil, hkey] at h
      · rintro (⟨item, hproper⟩ | ⟨other, heq, hkey⟩ | heq)
        · cases hproper
        · cases heq
          simp [length, Symbol.isNil, hkey]
        · cases heq
  | pair first rest =>
      constructor
      · intro h
        exact .inl ⟨first, .cons (length_eq_zero_iff.mp (Nat.succ.inj h))⟩
      · rintro (⟨item, hproper⟩ | ⟨other, heq, -⟩ | heq)
        · cases hproper with
          | cons hrest => rw [length, length_eq_zero_iff.mpr hrest]
        · cases heq
        · cases heq
  | blank => exact iff_of_true rfl (.inr (.inr rfl))

namespace Eval

/-! ## Forms that miscount -/

/-- The form stands in the text that evaluating `e` can come to: in `e` itself, or in the body of a
    definition in force. -/
def Written (defs : Definitions) (e form : Expr) : Prop :=
  form.Part e ∨ ∃ name d, defs.get? name = some d ∧ form.Part d.body

theorem Written.of_part {defs : Definitions} {part e form : Expr} (h : Written defs part form)
    (hpart : part.Part e) : Written defs e form := by
  rcases h with hform | hbody
  · exact .inl (hform.trans hpart)
  · exact .inr hbody

theorem Written.of_body {defs : Definitions} {name : String} {d : Definition}
    (hd : defs.get? name = some d) {form : Expr} (h : Written defs d.body form) (e : Expr) :
    Written defs e form := by
  rcases h with hform | hbody
  · exact .inr ⟨name, d, hd, hform⟩
  · exact .inr hbody

/-- `Miscounts defs form name expected actual`: the form has the wrong number of operands for what
    its head names. A call has its operands counted, and `QUOTE` has the length of its tail taken. -/
inductive Miscounts (defs : Definitions) : Expr → String → Nat → Nat → Prop where
  | quote {name : String} {tail : Expr} : Symbol.key name = "QUOTE" → (∀ e, ¬ tail.Proper [e]) →
      Miscounts defs (.pair (.atom name) tail) "QUOTE" 1 tail.length
  | primitive {name : String} {tail : Expr} {items : List Expr} {p : Primitive} :
      Rules.Ordinary name → Symbol.key name = p.label → tail.Proper items →
      items.length ≠ p.expected →
      Miscounts defs (.pair (.atom name) tail) p.label p.expected items.length
  | defined {name : String} {tail : Expr} {items : List Expr} {d : Definition} :
      Rules.Ordinary name → Rules.NoPrimitive name → defs.get? name = some d →
      tail.Proper items → items.length ≠ d.formals.length →
      Miscounts defs (.pair (.atom name) tail) d.name d.formals.length items.length

/-- The form is a `QUOTE` in front of a bare tail. -/
def BareQuote (form : Expr) : Prop :=
  ∃ name tail, form = .pair (.atom name) tail ∧ Symbol.key name = "QUOTE" ∧ tail.Bare

theorem not_bare_of_proper {tail : Expr} {items : List Expr} (h : tail.Proper items) :
    ¬ tail.Bare := by
  rintro (⟨token, rfl, hkey⟩ | rfl)
  · cases h with
    | nil hnil => exact hkey hnil
  · cases h

/-- **A form that miscounts finds the number it expects just if it is a `QUOTE` in front of a bare
    tail.** -/
theorem Miscounts.eq_iff_bareQuote {defs : Definitions} {form : Expr} {name : String}
    {expected actual : Nat} (h : Miscounts defs form name expected actual) :
    actual = expected ↔ BareQuote form := by
  -- a call whose operands are counted has a list for its tail
  have hcall : ∀ {head : String} {tail : Expr} {items : List Expr}, tail.Proper items →
      ¬ BareQuote (.pair (.atom head) tail) := by
    rintro head tail items hproper ⟨_, _, heq, -, hbare⟩
    cases heq
    exact not_bare_of_proper hproper hbare
  cases h with
  | quote hname hnone =>
      rw [Expr.length_eq_one_iff]
      constructor
      · rintro (⟨item, hproper⟩ | hbare)
        · exact absurd hproper (hnone item)
        · exact ⟨_, _, rfl, hname, hbare⟩
      · rintro ⟨_, _, heq, -, hbare⟩
        cases heq
        exact .inr hbare
  | primitive _ _ hproper hne => exact iff_of_false hne (hcall hproper)
  | defined _ _ _ hproper hne => exact iff_of_false hne (hcall hproper)

/-! ## Where the errors come from -/

/-- Where a function refuses its arguments because of their number, the call miscounts: there are as
    many arguments as operands. -/
theorem miscounts_of_enter {defs : Definitions} {name : String} {tail : Expr} {f : Function}
    {items args : List Expr} {env : Env} {label : String} {expected actual : Nat}
    (hname : Rules.Ordinary name) (hf : function? defs name = some f) (hitems : tail.Proper items)
    (hlen : args.length = items.length)
    (h : enter f args env = .settled (.error (.arityMismatch label expected actual))) :
    Miscounts defs (.pair (.atom name) tail) label expected actual := by
  cases f with
  | primitive p =>
      have hlabel := Primitive.ofName?_eq_some_iff.mp (function?_eq_primitive_iff.mp hf)
      cases Primitive.applies_iff.mpr (Entry.settled.inj h) with
      | arity hne =>
          rw [hlen] at hne ⊢
          exact .primitive hname hlabel hitems hne
  | defined d =>
      obtain ⟨hnone, hd⟩ := function?_eq_defined_iff.mp hf
      rw [enter, Definition.bindArguments] at h
      by_cases hcount : args.length = d.arity
      · rw [if_pos hcount] at h
        cases h
      · rw [if_neg hcount] at h
        cases h
        rw [hlen] at hcount ⊢
        exact .defined hname (Rules.ofName?_eq_none_iff.mp hnone) hd hitems hcount

/-- **Every error about a number of arguments is that of a form in the text.** By induction on the
    levels: the error is raised by the form itself, or one level below, by a part of the form or by
    the body of the function that it calls. -/
theorem miscounts_of_answer {defs : Definitions} {depth : Nat} {e : Expr} {env : Env}
    {name : String} {expected actual : Nat}
    (h : answer defs depth e env = .error (.arityMismatch name expected actual)) :
    ∃ form, Written defs e form ∧ Miscounts defs form name expected actual := by
  induction depth generalizing e env with
  | zero => cases h
  | succ depth ih =>
      have horigin := origin_of_finish h
      generalize hs : shape defs e env = s at horigin
      cases horigin with
      | checks =>
          cases refused_of_shape hs with
          | quote hname hnone => exact ⟨_, .inl (.whole _), .quote hname hnone⟩
      | part hpart hfails =>
          rw [← hs] at hpart
          obtain ⟨head, tail, rfl, htail⟩ := part_of_mem_parts hpart
          obtain ⟨form, hform, hcounts⟩ := ih hfails
          exact ⟨form, hform.of_part (.rest htail), hcounts⟩
      | refused hentry hargs =>
          obtain ⟨head, tail, rfl, hform, hf, hitems⟩ := of_shape_call hs
          have hname := SpecialForm.ofName?_eq_none_iff.mp hform
          exact ⟨_, .inl (.whole _), miscounts_of_enter hname hf
            (Expr.toList?_eq_some_iff.mp hitems) (length_of_valuesOf hargs) hentry⟩
      | body hentry hfails =>
          obtain ⟨d, rfl, rfl⟩ := body_of_enter hentry
          obtain ⟨called, hd⟩ := get?_of_shape_call hs
          obtain ⟨form, hform, hcounts⟩ := ih hfails
          exact ⟨form, hform.of_body hd e, hcounts⟩

end Eval

open Eval

/-- **An error about a number of arguments is about a form in the text, and contradicts itself only
    for a `QUOTE` in front of a bare tail.** Whatever is evaluated, such an error is due to a form that
    is written in it or in the body of a definition in force and that miscounts; the number found is
    the one expected just if the form is a `QUOTE` in front of a bare tail. And each of these does
    raise an error of this kind. -/
theorem arity_error_contradicts_itself_only_for_bare_quote (depth : Nat) (e : Expr) (env : Env)
    (topLevel : Bool) (defs : Definitions) :
    (∀ name expected actual,
      ((evaluate depth e env topLevel).run defs).result =
        .error (.arityMismatch name expected actual) →
      ∃ form, Written defs e form ∧ Miscounts defs form name expected actual ∧
        (actual = expected ↔ BareQuote form)) ∧
    (BareQuote e → 0 < depth → (evaluate depth e env topLevel).run defs =
      ⟨.error (.arityMismatch "QUOTE" 1 1), defs, []⟩) := by
  refine ⟨?_, ?_⟩
  · intro name expected actual h
    by_cases hform : IsDefun e
    · -- a `DEFUN` form has other errors
      obtain ⟨head, tail, rfl, hkey⟩ := hform
      cases depth with
      | zero => cases h
      | succ below =>
          rw [evaluate, step_defun (evaluate below) tail env topLevel hkey] at h
          rcases error_of_define h with hcause | ⟨fault, hcause⟩
          · cases hcause
          · cases hcause
    · rw [(run_evaluate_of_not_isDefun hform depth env topLevel defs).1] at h
      obtain ⟨form, hwritten, hcounts⟩ := miscounts_of_answer h
      exact ⟨form, hwritten, hcounts, hcounts.eq_iff_bareQuote⟩
  · rintro ⟨name, tail, rfl, hname, hbare⟩ hdepth
    obtain ⟨below, rfl⟩ : ∃ below, depth = below + 1 := ⟨depth - 1, by omega⟩
    have hnone : ∀ item, ¬ tail.Proper [item] := fun item h => not_bare_of_proper h hbare
    rw [evaluate, step_quote (evaluate below) tail env topLevel hname,
      Rules.quote_of_not_proper hnone, Expr.length_eq_one_iff.mpr (.inr hbare)]
    rfl

/-- The error of a `QUOTE` in the body of a function passes through the call and the `CAR` around
    it, and that of a call with one operand too many is no contradiction. -/
theorem arity_error_contradicts_itself_only_for_bare_quote_in_body :
    (∃ form, Written (.add .empty ⟨"F", ["X"], .pair (.atom "QUOTE") (.atom "X")⟩)
        (.ofList [.atom "CAR", .ofList [.atom "F", .atom "1"] Expr.nil] Expr.nil) form ∧
      Miscounts (.add .empty ⟨"F", ["X"], .pair (.atom "QUOTE") (.atom "X")⟩) form "QUOTE" 1 1 ∧
      BareQuote form) ∧
    (∃ form, Written (.add .empty ⟨"F", ["X"], .pair (.atom "QUOTE") (.atom "X")⟩)
        (.ofList [.atom "CAR", .ofList [.atom "F", .atom "1", .atom "2"] Expr.nil] Expr.nil) form ∧
      Miscounts (.add .empty ⟨"F", ["X"], .pair (.atom "QUOTE") (.atom "X")⟩) form "F" 1 2 ∧
      ¬ BareQuote form) ∧
    (evaluate 1 (.pair (.atom "quote") (.atom "X")) .empty true).run .empty =
      ⟨.error (.arityMismatch "QUOTE" 1 1), .empty, []⟩ := by
  refine ⟨?_, ?_, ?_⟩
  · obtain ⟨form, hwritten, hcounts, hiff⟩ :=
      (arity_error_contradicts_itself_only_for_bare_quote 4
        (.ofList [.atom "CAR", .ofList [.atom "F", .atom "1"] Expr.nil] Expr.nil) .empty true
        (.add .empty ⟨"F", ["X"], .pair (.atom "QUOTE") (.atom "X")⟩)).1 "QUOTE" 1 1
        (by decide +kernel)
    exact ⟨form, hwritten, hcounts, hiff.mp rfl⟩
  · obtain ⟨form, hwritten, hcounts, hiff⟩ :=
      (arity_error_contradicts_itself_only_for_bare_quote 4
        (.ofList [.atom "CAR", .ofList [.atom "F", .atom "1", .atom "2"] Expr.nil] Expr.nil) .empty
        true (.add .empty ⟨"F", ["X"], .pair (.atom "QUOTE") (.atom "X")⟩)).1 "F" 1 2
        (by decide +kernel)
    exact ⟨form, hwritten, hcounts, fun hbare => absurd (hiff.mpr hbare) (by decide)⟩
  · exact (arity_error_contradicts_itself_only_for_bare_quote 1 _ .empty true .empty).2
      ⟨"quote", .atom "X", rfl, by decide +kernel, .inl ⟨"X", rfl, by decide +kernel⟩⟩
      Nat.one_pos

/-- `(QUOTE . 5)` expects one argument, and the error says that one was found. -/
theorem bare_quote_finds_expected_number :
    ((evaluate 1 (.pair (.atom "QUOTE") (.atom "5")) .empty true).run .empty).result =
      .error (.arityMismatch "QUOTE" 1 1) := by
  decide +kernel

end PairLisp
