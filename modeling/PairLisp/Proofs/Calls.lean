import PairLisp.Proofs.AsciiCase
import PairLisp.Proofs.TableEntries

/-!
# Calling what was defined

A definition is accepted in one place, found in another and bound to its arguments in a third. This
file puts the three together, for the parameters of a definition and for a call of it:

* a name that a definition may have is no numeral (`isNumeral_of_isIdentifier`), so a parameter is
  looked up unless it spells one of the two constants;
* binding the parameters makes each of them stand for the argument at its last place
  (`lookup?_extend_of_last`), whatever the caller had bound;
* quoted values are handed to a function as they are (`run_each_quoted`), and a call comes to the body
  in the extended environment (`run_evaluate_call`);
* a definition stays in force until another one of its name is made (`get?_tableAfter`), and a name
  that no record calls hidden is the name of no primitive (`noPrimitive_of_not_hidden`).

The two constants and the special forms are the exceptions, of parameters and of functions: these
names are accepted, but what they stand for cannot be changed.
-/

namespace PairLisp

/-! ## Identifiers and numerals -/

/-- A letter is neither a digit nor a sign. -/
theorem Text.not_numeral_of_isLetter {c : Char} (h : isLetter c = true) :
    c.isDigit = false ∧ c ≠ '+' ∧ c ≠ '-' := by
  refine ⟨?_, ?_, ?_⟩
  · rw [← Bool.not_eq_true, isDigit_iff]
    intro hdigit
    have hascii : c.toNat < 128 := by omega
    rw [isLetter, if_pos hascii, isAlpha_iff] at h
    omega
  · rintro rfl
    revert h
    decide
  · rintro rfl
    revert h
    decide

/-- **No identifier is a numeral.** -/
theorem Symbol.isNumeral_of_isIdentifier {token : String} (h : isIdentifier token = true) :
    Numeral.isNumeral token = false := by
  rw [isIdentifier] at h
  cases htoken : token.toList with
  | nil =>
      rw [htoken] at h
      cases h
  | cons c cs =>
      rw [htoken] at h
      obtain ⟨hdigit, hplus, hminus⟩ :=
        Text.not_numeral_of_isLetter (Bool.and_eq_true_iff.mp h).1
      have hdigits : Numeral.digits token = c :: cs := by
        rw [Numeral.digits, htoken, Numeral.splitSign_of_ne hplus hminus]
      rw [Numeral.isNumeral, hdigits, List.all_cons, hdigit, Bool.false_and, Bool.and_false]

/-! ## Parameters -/

/-- The place of the last of some names that spells a token, in any case. -/
structure LastSpelling (names : List String) (token : String) (place : Nat) : Prop where
  spells : ∃ name, names[place]? = some name ∧ Symbol.key name = Symbol.key token
  last : ∀ other name, place < other → names[other]? = some name →
    Symbol.key name ≠ Symbol.key token

theorem LastSpelling.of_cons {name : String} {names : List String} {token : String} {place : Nat}
    (h : LastSpelling (name :: names) token (place + 1)) : LastSpelling names token place :=
  ⟨h.spells, fun other found hless hfound => h.last (other + 1) found (Nat.succ_lt_succ hless) hfound⟩

theorem LastSpelling.cons {names : List String} {token : String} {place : Nat}
    (h : LastSpelling names token place) (name : String) :
    LastSpelling (name :: names) token (place + 1) := by
  refine ⟨h.spells, ?_⟩
  intro other found hless hfound
  cases other with
  | zero => omega
  | succ other => exact h.last other found (by omega) hfound

/-- A name that some parameter has, has a last place among them. -/
theorem exists_lastSpelling {names : List String} {token : String}
    (h : ∃ name ∈ names, Symbol.key name = Symbol.key token) :
    ∃ place, LastSpelling names token place := by
  induction names with
  | nil =>
      obtain ⟨name, hname, -⟩ := h
      cases hname
  | cons first names ih =>
      by_cases hlater : ∃ name ∈ names, Symbol.key name = Symbol.key token
      · obtain ⟨place, hplace⟩ := ih hlater
        exact ⟨place + 1, hplace.cons first⟩
      · obtain ⟨name, hname, hkey⟩ := h
        rcases List.mem_cons.mp hname with rfl | hname
        · refine ⟨0, ⟨name, rfl, hkey⟩, ?_⟩
          intro other found hless hfound hspells
          cases other with
          | zero => omega
          | succ other => exact hlater ⟨found, List.mem_of_getElem? hfound, hspells⟩
        · exact absurd ⟨name, hname, hkey⟩ hlater

namespace Env

/-- Binding parameters leaves all other names as they are. -/
theorem lookup?_extend_of_ne {names : List String} {token : String}
    (h : ∀ name ∈ names, Symbol.key name ≠ Symbol.key token) (values : List Expr) (env : Env) :
    (env.extend names values).lookup? token = env.lookup? token := by
  induction names generalizing values env with
  | nil => rfl
  | cons name names ih =>
      cases values with
      | nil => rfl
      | cons value values =>
          have hname := h name List.mem_cons_self
          have hnames := fun other hother => h other (List.mem_cons_of_mem name hother)
          show ((Env.bind name value env).extend names values).lookup? token = _
          rw [ih hnames, lookup?_bind, if_neg hname]

/-- **A name that is bound several times stands for the last value**, whatever was bound before. -/
theorem lookup?_extend_of_last {names : List String} {token : String} {place : Nat}
    (h : LastSpelling names token place) {values : List Expr}
    (hlen : values.length = names.length) (env : Env) :
    (env.extend names values).lookup? token = values[place]? := by
  induction names generalizing values env place with
  | nil =>
      obtain ⟨name, hname, -⟩ := h.spells
      cases hname
  | cons name names ih =>
      cases values with
      | nil => cases hlen
      | cons value values =>
          show ((Env.bind name value env).extend names values).lookup? token = _
          cases place with
          | succ place => exact ih h.of_cons (Nat.succ.inj hlen) (.bind name value env)
          | zero =>
              obtain ⟨found, hfound, hkey⟩ := h.spells
              cases hfound
              have hothers : ∀ other ∈ names, Symbol.key other ≠ Symbol.key token := by
                intro other hother
                obtain ⟨i, hi⟩ := List.mem_iff_getElem?.mp hother
                exact h.last (i + 1) other (Nat.succ_pos i) hi
              rw [lookup?_extend_of_ne hothers, lookup?_bind, if_pos hkey]
              rfl

end Env

/-- The parameters of an accepted definition are identifiers. -/
theorem Definition.isIdentifier_of_mem_formals {tail : Expr} {d : Definition}
    (h : ofOperands tail = .ok d) {p : String} (hp : p ∈ d.formals) :
    Symbol.isIdentifier p = true := by
  cases describes_iff.mpr h with
  | definition _ _ _ hnames => exact hnames p hp

namespace Eval

section Atoms

variable {token : String} (hid : Symbol.isIdentifier token = true)
include hid

theorem atom_of_key_truth (h : Symbol.key token = "T") (env : Env) :
    atom token env = .ok Expr.truth := by
  simp [atom, Symbol.isNumeral_of_isIdentifier hid, Symbol.isTrue, h]

theorem atom_of_key_nil (h : Symbol.key token = "NIL") (env : Env) :
    atom token env = .ok Expr.nil := by
  simp [atom, Symbol.isNumeral_of_isIdentifier hid, Symbol.isTrue, Symbol.isNil, h]

theorem atom_of_lookup? (htruth : Symbol.key token ≠ "T") (hnil : Symbol.key token ≠ "NIL")
    {env : Env} {value : Expr} (h : env.lookup? token = some value) :
    atom token env = .ok value := by
  simp [atom, Symbol.isNumeral_of_isIdentifier hid, Symbol.isTrue, Symbol.isNil, htruth, hnil, hid, h]

end Atoms

end Eval

open Eval

/-- **A parameter stands for its argument, unless it spells a constant.** Where an accepted
    definition is given as many arguments as it has parameters, these can be bound, and each
    parameter then evaluates to the argument at the last place of its name, in any case and whatever
    the caller has bound. A parameter that spells `T` or `NIL` evaluates to that constant. -/
theorem parameter_stands_for_argument (tail : Expr) (d : Definition)
    (hd : Definition.ofOperands tail = .ok d) (args : List Expr)
    (hargs : args.length = d.formals.length) (caller : Env) (defs : Definitions) :
    ∃ inner, d.bindArguments args caller = .ok inner ∧
      ∀ p ∈ d.formals, ∀ depth topLevel,
        (Symbol.key p ≠ "T" → Symbol.key p ≠ "NIL" →
          ∃ place value, LastSpelling d.formals p place ∧ args[place]? = some value ∧
            (evaluate (depth + 1) (.atom p) inner topLevel).run defs = ⟨.ok value, defs, []⟩) ∧
        (Symbol.key p = "T" →
          (evaluate (depth + 1) (.atom p) inner topLevel).run defs = ⟨.ok Expr.truth, defs, []⟩) ∧
        (Symbol.key p = "NIL" →
          (evaluate (depth + 1) (.atom p) inner topLevel).run defs = ⟨.ok Expr.nil, defs, []⟩) := by
  refine ⟨caller.extend d.formals args, if_pos hargs, ?_⟩
  intro p hp depth topLevel
  have hid := Definition.isIdentifier_of_mem_formals hd hp
  have hrun : (evaluate (depth + 1) (.atom p) (caller.extend d.formals args) topLevel).run defs =
      ⟨atom p (caller.extend d.formals args), defs, []⟩ := rfl
  rw [hrun]
  refine ⟨?_, ?_, ?_⟩
  · intro htruth hnil
    obtain ⟨place, hplace⟩ := exists_lastSpelling ⟨p, hp, rfl⟩
    have hlookup := Env.lookup?_extend_of_last hplace hargs caller
    obtain ⟨name, hname, -⟩ := hplace.spells
    obtain ⟨hless, -⟩ := List.getElem?_eq_some_iff.mp hname
    have hvalue : args[place]? = some args[place] := List.getElem?_eq_getElem (hargs ▸ hless)
    refine ⟨place, args[place], hplace, hvalue, ?_⟩
    rw [atom_of_lookup? hid htruth hnil (hlookup.trans hvalue)]
  · intro htruth
    rw [atom_of_key_truth hid htruth]
  · intro hnil
    rw [atom_of_key_nil hid hnil]

/-- Of a parameter that is there twice the later argument is found, in front of what the caller has
    bound to the same name. -/
theorem parameter_stands_for_argument_twice :
    ∃ inner place,
      Definition.bindArguments ⟨"F", ["x", "Y", "X"], .atom "Y"⟩ [.atom "1", .atom "2", .atom "3"]
        (.bind "X" (.atom "9") .empty) = .ok inner ∧
      LastSpelling ["x", "Y", "X"] "x" place ∧
      [Expr.atom "1", .atom "2", .atom "3"][place]? = some (.atom "3") ∧
      (evaluate 1 (.atom "x") inner false).run .empty = ⟨.ok (.atom "3"), .empty, []⟩ := by
  obtain ⟨inner, hinner, h⟩ := parameter_stands_for_argument
    (.ofList [.atom "F", .ofList [.atom "x", .atom "Y", .atom "X"] Expr.nil, .atom "Y"] Expr.nil)
    ⟨"F", ["x", "Y", "X"], .atom "Y"⟩ (by decide +kernel) [.atom "1", .atom "2", .atom "3"] rfl
    (.bind "X" (.atom "9") .empty) .empty
  obtain ⟨place, value, hplace, hvalue, hrun⟩ :=
    (h "x" List.mem_cons_self 0 false).1 (by decide +kernel) (by decide +kernel)
  cases hinner
  have hthree : ((evaluate 1 (.atom "x") (Env.extend (.bind "X" (.atom "9") .empty)
      ["x", "Y", "X"] [.atom "1", .atom "2", .atom "3"]) false).run .empty).result =
        .ok (.atom "3") := by decide +kernel
  rw [hrun] at hthree
  cases hthree
  exact ⟨_, place, rfl, hplace, hvalue, hrun⟩

/-- A parameter `T` is accepted and bound, and its argument is still not found. -/
theorem parameter_named_truth_is_not_found :
    Definition.ofOperands (.ofList [.atom "F", .ofList [.atom "T"] Expr.nil, .atom "T"] Expr.nil) =
      .ok ⟨"F", ["T"], .atom "T"⟩ ∧
    Definition.bindArguments ⟨"F", ["T"], .atom "T"⟩ [.atom "5"] .empty =
      .ok (.bind "T" (.atom "5") .empty) ∧
    LastSpelling ["T"] "T" 0 ∧
    ((evaluate 1 (.atom "T") (.bind "T" (.atom "5") .empty) false).run .empty).result ≠
      .ok (.atom "5") := by
  refine ⟨by decide +kernel, rfl, ⟨⟨"T", rfl, rfl⟩, ?_⟩, by decide +kernel⟩
  intro other name hless hname
  cases other with
  | zero => omega
  | succ other => cases hname

/-! ## Calls with quoted values -/

/-- The form whose value is a given expression. -/
def Expr.quoted (e : Expr) : Expr :=
  .ofList [.atom "QUOTE", e] Expr.nil

/-- A quoted expression is its own value, which takes one level and leaves no trace. -/
theorem run_evaluate_quoted (depth : Nat) (e : Expr) (env : Env) (topLevel : Bool)
    (defs : Definitions) :
    (evaluate (depth + 1) e.quoted env topLevel).run defs = ⟨.ok e, defs, []⟩ := by
  have hkey : Symbol.key "QUOTE" = SpecialForm.quote.label := by decide +kernel
  show (step (evaluate depth) (.pair (.atom "QUOTE") (.pair e Expr.nil)) env topLevel).run defs = _
  rw [step_quote (evaluate depth) (.pair e Expr.nil) env topLevel hkey]
  rfl

namespace Eval

/-- Quoted operands are the arguments. -/
theorem run_each_quoted (depth : Nat) (values : List Expr) (env : Env) (defs : Definitions) :
    (each (evaluate (depth + 1)) env (values.map Expr.quoted)).run defs =
      ⟨.ok values, defs, []⟩ := by
  induction values with
  | nil => rfl
  | cons value values ih =>
      simp only [List.map_cons, each, Action.run_bind, run_evaluate_quoted, Action.follow_ok, ih,
        Action.run_pure, List.append_nil]

/-- **A call with quoted values comes to the body**, with the parameters bound to the values on top of
    the caller's environment. Only the record of the call is added. -/
theorem run_evaluate_call {defs : Definitions} {name : String} {d : Definition}
    (hname : CallableName name) (hd : defs.get? name = some d) {values : List Expr}
    (hvalues : values.length = d.formals.length) (depth : Nat) (env : Env) (topLevel : Bool) :
    (evaluate (depth + 2) (.pair (.atom name) (.ofList (values.map Expr.quoted) Expr.nil)) env
        topLevel).run defs =
      ((evaluate (depth + 1) d.body (env.extend d.formals values) false).run defs).behind
        [.applied d.name (env.extend d.formals values)] := by
  have hprimitive := Rules.ofName?_eq_none_iff.mpr hname.2
  have hitems := Expr.toList?_of_proper (Expr.proper_ofList (values.map Expr.quoted))
  have hbind : d.bindArguments values env = .ok (env.extend d.formals values) := if_pos hvalues
  rw [evaluate, step_call (evaluate (depth + 1)) _ env topLevel hname.1,
    call_eq_callOnce (keepsTable_evaluate (depth + 1))]
  simp only [callOnce, operands, applyDefinition, hitems, Action.run_bind,
    Action.run_definitions, Action.follow_ok, hprimitive, hd, run_each_quoted, hbind]
  rfl

/-! ## Definitions in force -/

/-- What is recorded when a definition is made. -/
theorem events_define_accepted {tail : Expr} {d : Definition}
    (h : Definition.ofOperands tail = .ok d) (defs : Definitions) :
    ((define tail true).run defs).events =
      (if (Primitive.ofName? d.name).isSome then [Event.hiddenByPrimitive d.name] else []) ++
        ((if defs.contains d.name then [Event.redefined d.name] else []) ++ [.defined d]) := by
  simp [define, h]

variable {defs : Definitions} {r : Request} {d : Definition}

/-- A definition that is not recorded as hidden has the name of no primitive. -/
theorem noPrimitive_of_not_hidden (hr : r.Defines d)
    (h : ∀ name, Event.hiddenByPrimitive name ∉ (r.run defs).events) :
    Rules.NoPrimitive d.name := by
  obtain ⟨form, env, topLevel, depth⟩ := r
  obtain ⟨htop, hdepth, head, tail, hform, hkey, hd⟩ := hr
  dsimp only at htop hdepth hform
  subst htop hform
  obtain ⟨below, rfl⟩ : ∃ below, depth = below + 1 := ⟨depth - 1, by omega⟩
  rw [← Rules.ofName?_eq_none_iff]
  cases hp : Primitive.ofName? d.name with
  | none => rfl
  | some p =>
      refine absurd ?_ (h d.name)
      show _ ∈ ((step (evaluate below) (.pair (.atom head) tail) env true).run defs).events
      rw [step_defun (evaluate below) tail env true hkey, events_define_accepted hd, hp]
      exact List.mem_append_left _ List.mem_cons_self

/-- **A definition stays in force** until one of the same name is made. -/
theorem get?_tableAfter {name : String} (h : defs.get? name = some d) {requests : List Request}
    (hothers : ∀ r ∈ requests, ∀ other, r.Defines other →
      Symbol.key other.name ≠ Symbol.key name) :
    (tableAfter defs requests).get? name = some d := by
  induction requests generalizing defs with
  | nil => exact h
  | cons r rest ih =>
      show (tableAfter (r.run defs).defs rest).get? name = some d
      refine ih ?_ fun other hother => hothers other (List.mem_cons_of_mem r hother)
      by_cases hdefines : ∃ other, r.Defines other
      · obtain ⟨other, hother⟩ := hdefines
        have hne := hothers r List.mem_cons_self other hother
        rw [(hother.run defs).2, Definitions.get?_add, if_neg hne.symm]
        exact h
      · have hkeep := table_run_of_not_defines (fun other hother => hdefines ⟨other, hother⟩) defs
        rw [hkeep]
        exact h

end Eval

/-- **A definition that is not announced as hidden can be called, and the call is its body**, unless
    it has the name of a special form. Such a definition is made by a form of the session, and after
    it whatever else is requested but another definition of its name. Then a call under any spelling
    of the name, with quoted values for its parameters, comes to what the body comes to one level
    below, with the parameters bound to the values on top of the caller's environment; only the
    record of the call is added, and the table is left as it was. -/
theorem call_of_definition_is_body (defs : Definitions) (r : Request) (d : Definition)
    (hr : r.Defines d) (hannounced : ∀ name, Event.hiddenByPrimitive name ∉ (r.run defs).events)
    (hordinary : ∀ special : SpecialForm, Symbol.key d.name ≠ special.label)
    (later : List Request)
    (hlater : ∀ r' ∈ later, ∀ d', r'.Defines d' → Symbol.key d'.name ≠ Symbol.key d.name)
    (name : String) (hname : Symbol.key name = Symbol.key d.name) (values : List Expr)
    (hvalues : values.length = d.formals.length) (env : Env) (topLevel : Bool) (depth : Nat) :
    (evaluate (depth + 2) (.pair (.atom name) (.ofList (values.map Expr.quoted) Expr.nil)) env
        topLevel).run (tableAfter defs (r :: later)) =
      ((evaluate (depth + 1) d.body (env.extend d.formals values) false).run
        (tableAfter defs (r :: later))).behind [.applied d.name (env.extend d.formals values)] ∧
    ((evaluate (depth + 1) d.body (env.extend d.formals values) false).run
      (tableAfter defs (r :: later))).defs = tableAfter defs (r :: later) := by
  have hcallable : CallableName name :=
    (callableName_congr hname).mpr ⟨hordinary, noPrimitive_of_not_hidden hr hannounced⟩
  have hadded : (r.run defs).defs.get? name = some d := by
    rw [(hr.run defs).2, Definitions.get?_add, if_pos hname]
  have hforce : (tableAfter defs (r :: later)).get? name = some d := by
    refine get?_tableAfter hadded fun r' hr' d' hd' => ?_
    rw [hname]
    exact hlater r' hr' d' hd'
  exact ⟨run_evaluate_call hcallable hforce hvalues depth env topLevel,
    keepsTable_evaluate (depth + 1) d.body (env.extend d.formals values) _⟩

/-- A function that calls one defined after it. The call is in lower case, and the caller has bound
    one of the parameters to something else. -/
theorem call_of_definition_is_body_later_callee :
    ((evaluate 9 (.pair (.atom "sum") (.ofList ([.atom "3", .atom "4"].map Expr.quoted) Expr.nil))
        (.bind "X" (.atom "100") .empty) true).run
      (tableAfter .empty
        [⟨.ofList [.atom "DEFUN", .atom "SUM", .ofList [.atom "X", .atom "Y"] Expr.nil,
            .ofList [.atom "PLUS", .atom "X", .ofList [.atom "SQUARE", .atom "Y"] Expr.nil] Expr.nil]
            Expr.nil, .empty, true, 1⟩,
          ⟨.ofList [.atom "DEFUN", .atom "SQUARE", .ofList [.atom "X"] Expr.nil,
            .ofList [.atom "TIMES", .atom "X", .atom "X"] Expr.nil] Expr.nil, .empty, true, 1⟩])).result =
      .ok (.atom "19") := by
  refine (congrArg Outcome.result (call_of_definition_is_body .empty _ ⟨"SUM", ["X", "Y"],
    .ofList [.atom "PLUS", .atom "X", .ofList [.atom "SQUARE", .atom "Y"] Expr.nil] Expr.nil⟩
    ⟨rfl, by decide, _, _, rfl, by decide +kernel, by decide +kernel⟩ ?_ ?_ _ ?_ "sum"
    (by decide +kernel) [.atom "3", .atom "4"] rfl _ true 7).1).trans (by decide +kernel)
  · intro name hmem
    have hevents : ((⟨.ofList [.atom "DEFUN", .atom "SUM", .ofList [.atom "X", .atom "Y"] Expr.nil,
        .ofList [.atom "PLUS", .atom "X", .ofList [.atom "SQUARE", .atom "Y"] Expr.nil] Expr.nil]
        Expr.nil, .empty, true, 1⟩ : Request).run .empty).events = [.defined ⟨"SUM", ["X", "Y"],
          .ofList [.atom "PLUS", .atom "X", .ofList [.atom "SQUARE", .atom "Y"] Expr.nil]
            Expr.nil⟩] := by
      decide +kernel
    rw [hevents] at hmem
    cases List.mem_singleton.mp hmem
  · intro special
    cases special <;> decide +kernel
  · intro r' hr' d' hd'
    obtain rfl := List.mem_singleton.mp hr'
    have hanswer : ((⟨.ofList [.atom "DEFUN", .atom "SQUARE", .ofList [.atom "X"] Expr.nil,
        .ofList [.atom "TIMES", .atom "X", .atom "X"] Expr.nil] Expr.nil, .empty, true, 1⟩ :
          Request).run .empty).result = .ok (.atom "SQUARE") := by
      decide +kernel
    rw [(hd'.run .empty).1] at hanswer
    rw [Expr.atom.inj (Except.ok.inj hanswer)]
    decide +kernel

/-- A function named `COND` is accepted without a warning, and a call of it is a conditional. -/
theorem definition_named_like_special_form_is_not_called :
    (⟨.ofList [.atom "DEFUN", .atom "COND", .ofList [.atom "X"] Expr.nil, .atom "X"] Expr.nil, .empty,
        true, 9⟩ : Request).Defines ⟨"COND", ["X"], .atom "X"⟩ ∧
    ((⟨.ofList [.atom "DEFUN", .atom "COND", .ofList [.atom "X"] Expr.nil, .atom "X"] Expr.nil, .empty,
        true, 9⟩ : Request).run .empty).events = [.defined ⟨"COND", ["X"], .atom "X"⟩] ∧
    ((evaluate 9 (.pair (.atom "COND") (.ofList ([.atom "A"].map Expr.quoted) Expr.nil)) .empty
        true).run ((⟨.ofList [.atom "DEFUN", .atom "COND", .ofList [.atom "X"] Expr.nil, .atom "X"]
          Expr.nil, .empty, true, 9⟩ : Request).run .empty).defs).result =
      .error (.unboundIdentifier "QUOTE") ∧
    ((evaluate 8 (.atom "X") (.bind "X" (.atom "A") .empty) false).run
      ((⟨.ofList [.atom "DEFUN", .atom "COND", .ofList [.atom "X"] Expr.nil, .atom "X"]
          Expr.nil, .empty, true, 9⟩ : Request).run .empty).defs).result = .ok (.atom "A") := by
  refine ⟨⟨rfl, by decide, _, _, rfl, by decide +kernel, by decide +kernel⟩, ?_, ?_, ?_⟩
  all_goals decide +kernel

end PairLisp
