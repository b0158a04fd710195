import PairLisp.Proofs.TableEntries
import PairLisp.Proofs.Correspondence

/-!
# More definitions and more bindings

A table may get definitions of further names, and an environment may get bindings that are older
than all it has. Neither hides anything, so the only lookups that can have another answer are those
that found nothing. This file shows that such a lookup never goes unnoticed: it ends the whole
evaluation, as a function that is not defined or an identifier that is not bound. The route:

* `ExtendedBy` says of two tables, and of two environments, that what the first one has under a name
  the second one has too. Fresh definitions and older bindings lead to this (`extendedBy_addAll`,
  `extendedBy_onTop`), and binding parameters alike keeps it (`Env.ExtendedBy.extend`);
* `Misses` are the two errors of a lookup in vain. Unless the checks on a form end in one of them,
  they come to the same in the extension (`shapes_underExtension`);
* so evaluations correspond, with a miss of the first one for an excuse (`sound_underExtension`).
-/

namespace PairLisp

/-! ## Environments -/

namespace Env

/-- The bindings of an environment, and the older ones of `outer` below them. -/
def onTop (env outer : Env) : Env :=
  env.bindings.foldr (fun pair below => .bind pair.1 pair.2 below) outer

theorem onTop_bind (name : String) (value : Expr) (rest outer : Env) :
    (bind name value rest).onTop outer = .bind name value (rest.onTop outer) := by
  rw [onTop, bindings_bind]
  rfl

/-- What a name is bound to in the first environment, it is bound to in the second. -/
def ExtendedBy (env env' : Env) : Prop :=
  ∀ token value, env.lookup? token = some value → env'.lookup? token = some value

/-- Bindings stay as they are when others are put below them. -/
theorem extendedBy_onTop (env outer : Env) : env.ExtendedBy (env.onTop outer) := by
  intro token value hvalue
  induction env with
  | empty => cases hvalue
  | bind name bound rest ih =>
      rw [lookup?_bind] at hvalue
      rw [onTop_bind, lookup?_bind]
      by_cases hname : Symbol.key name = Symbol.key token
      · rw [if_pos hname] at hvalue ⊢
        exact hvalue
      · rw [if_neg hname] at hvalue ⊢
        exact ih hvalue

theorem ExtendedBy.bind {env env' : Env} (h : env.ExtendedBy env') (name : String) (value : Expr) :
    (Env.bind name value env).ExtendedBy (.bind name value env') := by
  intro token found hfound
  rw [lookup?_bind] at hfound ⊢
  by_cases hname : Symbol.key name = Symbol.key token
  · rw [if_pos hname] at hfound ⊢
    exact hfound
  · rw [if_neg hname] at hfound ⊢
    exact h token found hfound

/-- An extension is kept when parameters are bound on both sides. -/
theorem ExtendedBy.extend {env env' : Env} (h : env.ExtendedBy env') (names : List String)
    (values : List Expr) : (env.extend names values).ExtendedBy (env'.extend names values) := by
  induction names generalizing env env' values with
  | nil => exact h
  | cons name names ih =>
      cases values with
      | nil => exact h
      | cons value values => exact ih (h.bind name value) values

end Env

/-! ## Tables -/

namespace Definitions

/-- What is in force for a name in the first table is in force for it in the second. -/
def ExtendedBy (defs defs' : Definitions) : Prop :=
  ∀ name d, defs.get? name = some d → defs'.get? name = some d

/-- A definition of a name that is free in the smaller table hides nothing of it. -/
theorem ExtendedBy.add_fresh {defs defs' : Definitions} (h : defs.ExtendedBy defs') {d : Definition}
    (hd : defs.contains d.name = false) : defs.ExtendedBy (defs'.add d) := by
  intro name found hfound
  have hne : Symbol.key name ≠ Symbol.key d.name := by
    intro hkey
    have hsame : defs.get? d.name = some found := by rw [← hfound, get?, get?, hkey]
    rw [contains, hsame] at hd
    cases hd
  rw [get?_add, if_neg hne]
  exact h name found hfound

theorem extendedBy_addAll {defs : Definitions} {added : List Definition}
    (h : ∀ d ∈ added, defs.contains d.name = false) : defs.ExtendedBy (defs.addAll added) := by
  -- the definitions need not be free in the table that has the ones before them already
  have hgrown : ∀ {defs' : Definitions}, defs.ExtendedBy defs' →
      defs.ExtendedBy (defs'.addAll added) := by
    induction added with
    | nil => exact id
    | cons d added ih =>
        intro defs' hdefs'
        have hd := h d List.mem_cons_self
        exact ih (fun other hother => h other (List.mem_cons_of_mem d hother)) (hdefs'.add_fresh hd)
  exact hgrown fun _ _ hfound => hfound

end Definitions

namespace Eval

/-! ## The comparison -/

/-- The errors of a lookup that found nothing. -/
inductive Misses : EvalError → Prop where
  | function (name : String) : Misses (.undefinedFunction name)
  | identifier (name : String) : Misses (.unboundIdentifier name)

/-- The same form in an environment and in an extension of it. -/
def underExtension : Matching where
  excused := Misses
  errors := Eq
  values := Eq
  forms e env e' env' := e = e' ∧ env.ExtendedBy env'

variable {defs defs' : Definitions} {env env' : Env}

/-- An atom keeps its value, unless it is an identifier that is not bound. -/
theorem answers_atom_underExtension (henv : env.ExtendedBy env') (token : String) :
    underExtension.Answers Eq (atom token env) (atom token env') := by
  cases hvalue : env.lookup? token with
  | some value =>
      refine .of_eq rfl ?_
      rw [atom, atom, hvalue, henv token value hvalue]
  | none =>
      rw [atom, atom, hvalue]
      split
      · exact .value rfl
      · split
        · exact .value rfl
        · split
          · exact .value rfl
          · split
            · exact .excused (.identifier token)
            · exact .error rfl

/-- A name keeps its function, unless it has none. -/
theorem function?_of_extendedBy (hdefs : defs.ExtendedBy defs') {name : String} {f : Function}
    (hf : function? defs name = some f) : function? defs' name = some f := by
  rw [function?] at hf ⊢
  cases hp : Primitive.ofName? name with
  | some p =>
      rw [hp] at hf
      exact hf
  | none =>
      rw [hp] at hf
      obtain ⟨d, hd, rfl⟩ := Option.map_eq_some_iff.mp hf
      show (defs'.get? name).map Function.defined = some (.defined d)
      rw [hdefs name d hd]
      rfl

/-- The checks on a form come to the same, unless they end in a miss. -/
theorem shape_of_extendedBy (hdefs : defs.ExtendedBy defs') (env env' : Env) (head tail : Expr) :
    (∃ cause, Misses cause ∧ shape defs (.pair head tail) env = .settled (.error cause)) ∨
      shape defs (.pair head tail) env = shape defs' (.pair head tail) env' := by
  match head with
  | .blank => exact .inr rfl
  | .pair first rest => exact .inr rfl
  | .atom name =>
      rw [shape, shape]
      cases SpecialForm.ofName? name with
      | some form =>
          cases form with
          | quote => exact .inr rfl
          | cond => exact .inr rfl
          | defun => exact .inr rfl
      | none =>
          show (∃ cause, Misses cause ∧ callShape defs name tail = .settled (.error cause)) ∨
            callShape defs name tail = callShape defs' name tail
          rw [callShape, callShape]
          cases hf : function? defs name with
          | none => exact .inl ⟨_, .function name, rfl⟩
          | some f => exact .inr (by rw [function?_of_extendedBy hdefs hf])

/-- **Forms ask for the same in an extension**, unless they end in a miss. The parts are evaluated in
    the same two environments, and a body in what its parameters make of them. -/
theorem shapes_underExtension (hdefs : defs.ExtendedBy defs') (henv : env.ExtendedBy env')
    (e : Expr) : underExtension.Shapes env env' (shape defs e env) (shape defs' e env') := by
  cases e with
  | atom token => exact .settled (answers_atom_underExtension henv token)
  | blank => exact .settled (.error rfl)
  | pair head tail =>
      rcases shape_of_extendedBy hdefs env env' head tail with ⟨cause, hmiss, hs⟩ | hs
      · rw [hs]
        exact .excused hmiss
      · rw [← hs]
        refine Matching.shapes_same rfl rfl ?_ ?_
        · intro part _
          exact ⟨rfl, henv⟩
        · intro d items _ args _
          exact ⟨rfl, henv.extend d.formals args⟩

/-- More definitions and more bindings change no answer, as nothing that was found is hidden. -/
theorem sound_underExtension (hdefs : defs.ExtendedBy defs') : underExtension.Sound defs defs' where
  isTrue h := congrArg Expr.isTrue h
  noMatchingClause := rfl
  shapes := by
    rintro e env _ env' ⟨rfl, henv⟩
    exact shapes_underExtension hdefs henv e

/-- **What does not end in a miss is answered alike in an extension.** -/
theorem answer_of_extendedBy (hdefs : defs.ExtendedBy defs') (henv : env.ExtendedBy env')
    {depth : Nat} {e : Expr}
    (h : ∀ cause, answer defs depth e env = .error cause → ¬ Misses cause) :
    answer defs depth e env = answer defs' depth e env' := by
  have hanswers : underExtension.Answers Eq (answer defs depth e env) (answer defs' depth e env') :=
    Matching.answers_answer (sound_underExtension hdefs) (.inl ⟨rfl, rfl⟩) ⟨rfl, henv⟩
  exact hanswers.eq_of_not_excused rfl h

end Eval

open Eval

/-- A `DEFUN` form of the session comes to the same from every table and in every environment; any
    other form does in an extension, unless it ends in a miss. -/
theorem result_of_extendedBy {defs defs' : Definitions} {env env' : Env}
    (hdefs : defs.ExtendedBy defs') (henv : env.ExtendedBy env') {depth : Nat} {e : Expr}
    {top : Bool}
    (h : ∀ cause, ((evaluate depth e env top).run defs).result = .error cause → ¬ Misses cause) :
    ((evaluate depth e env' top).run defs').result = ((evaluate depth e env top).run defs).result := by
  by_cases hform : IsDefun e
  · obtain ⟨name, tail, rfl, hkey⟩ := hform
    cases depth with
    | zero => rfl
    | succ below =>
        rw [evaluate, step_defun (evaluate below) tail env' top hkey,
          step_defun (evaluate below) tail env top hkey]
        exact result_define_eq tail top defs' defs
  · have hresult := (run_evaluate_of_not_isDefun hform depth env top defs).1
    have hresult' := (run_evaluate_of_not_isDefun hform depth env' top defs').1
    rw [hresult] at h ⊢
    rw [hresult', answer_of_extendedBy hdefs henv h]

/-- **Fresh definitions and older bindings change nothing that was found.** If a form ends neither in
    a function that is not defined nor in an identifier that is not bound, then with any definitions
    added whose names are not in the table, and with any bindings below those of the environment, it
    ends in the same value or the same error, and it adds the same definition, if any. -/
theorem extension_is_conservative (depth : Nat) (e : Expr) (env : Env) (top : Bool)
    (defs : Definitions) (added : List Definition) (outer : Env)
    (hfresh : ∀ d ∈ added, defs.contains d.name = false)
    (hfunction : ∀ name,
      ((evaluate depth e env top).run defs).result ≠ .error (.undefinedFunction name))
    (hidentifier : ∀ name,
      ((evaluate depth e env top).run defs).result ≠ .error (.unboundIdentifier name)) :
    ((evaluate depth e (env.onTop outer) top).run (defs.addAll added)).result =
        ((evaluate depth e env top).run defs).result ∧
      SameAddition defs (defs.addAll added) ((evaluate depth e env top).run defs).defs
        ((evaluate depth e (env.onTop outer) top).run (defs.addAll added)).defs := by
  constructor
  · refine result_of_extendedBy (Definitions.extendedBy_addAll hfresh)
      (Env.extendedBy_onTop env outer) ?_
    intro cause hcause hmiss
    cases hmiss with
    | function name => exact hfunction name hcause
    | identifier name => exact hidentifier name hcause
  · -- whether a request defines something is not a matter of its environment
    have hdefines : ∀ d, (⟨e, env, top, depth⟩ : Request).Defines d ↔
        (⟨e, env.onTop outer, top, depth⟩ : Request).Defines d := fun _ => Iff.rfl
    exact sameAddition_of_defines_iff hdefines defs (defs.addAll added)

/-- A function sees a variable of its caller. A binding of the same variable below that one is not
    seen, nor are a new function under the name of a primitive and one under that of the variable. -/
theorem extension_is_conservative_for_callee :
    ((evaluate 5 (.ofList [.atom "f", .atom "1"] Expr.nil)
        ((Env.bind "y" (.atom "2") .empty).onTop (.bind "Y" (.atom "7") .empty)) true).run
      ((Definitions.empty.add ⟨"F", ["X"],
        .ofList [.atom "PLUS", .atom "X", .atom "Y"] Expr.nil⟩).addAll
          [⟨"plus", [], .atom "0"⟩, ⟨"Y", ["F"], .atom "0"⟩, ⟨"y", [], .atom "1"⟩])).result =
      .ok (.atom "3") := by
  have hvalue : ((evaluate 5 (.ofList [.atom "f", .atom "1"] Expr.nil)
      (Env.bind "y" (.atom "2") .empty) true).run (Definitions.empty.add ⟨"F", ["X"],
        .ofList [.atom "PLUS", .atom "X", .atom "Y"] Expr.nil⟩)).result = .ok (.atom "3") := by
    decide +kernel
  refine (extension_is_conservative _ _ _ _ _ _ _ (by decide +kernel) ?_ ?_).1.trans hvalue
  · intro name hmiss
    exact nomatch hvalue.symm.trans hmiss
  · intro name hmiss
    exact nomatch hvalue.symm.trans hmiss

end PairLisp
