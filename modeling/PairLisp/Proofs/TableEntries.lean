import PairLisp.Proofs.Adequacy
import PairLisp.Proofs.Nested

/-!
# What evaluation can see of the table of definitions

A name is looked up among the special forms first, then among the primitives, and in the table only
if it is neither; and of the table only the definition in force is ever used. This file turns these
two facts into a law about whole evaluations, and about what can be evaluated after them:

* `Definitions.AgreesOn` compares two tables on some names. Adding the same definition to both keeps
  what they agree on (`AgreesOn.add`);
* the checks on a form ask the table for callable names only (`shape_of_agreesOn`), so tables that
  agree on these cannot be told apart by a nested form (`answer_of_agreesOn`);
* a form adds a definition or none, and which one does not depend on the table
  (`sameAddition_run`), so tables that agree keep agreeing from one form to the next, and all later
  results are the same (`results_of_agreesOn`).

What is left for a law about `DEFUN` forms is to see on which names two tables agree.
-/

namespace PairLisp

/-! ## Tables that agree -/

namespace Definitions

/-- Adds definitions one after the other. -/
def addAll (defs : Definitions) (added : List Definition) : Definitions :=
  added.foldl add defs

theorem addAll_append (defs : Definitions) (added later : List Definition) :
    defs.addAll (added ++ later) = (defs.addAll added).addAll later :=
  List.foldl_append

/-- The history of the table has them in front, the last one first. -/
theorem history_addAll (defs : Definitions) (added : List Definition) :
    (defs.addAll added).history = added.reverse ++ defs.history := by
  induction added generalizing defs with
  | nil => rfl
  | cons d added ih =>
      show ((defs.add d).addAll added).history = _
      rw [ih, history_add, List.reverse_cons, List.append_assoc, List.singleton_append]

/-- The two tables have the same definition in force, or none, for each of some names. -/
def AgreesOn (names : String → Prop) (defs defs' : Definitions) : Prop :=
  ∀ name, names name → defs.get? name = defs'.get? name

variable {names : String → Prop} {defs defs' : Definitions}

theorem AgreesOn.add (h : defs.AgreesOn names defs') (d : Definition) :
    (defs.add d).AgreesOn names (defs'.add d) := by
  intro name hname
  rw [get?_add, get?_add, h name hname]

/-- A definition of a name that is none of those compared makes no difference. -/
theorem agreesOn_add_left {d : Definition}
    (h : ∀ name, names name → Symbol.key name ≠ Symbol.key d.name) :
    (defs.add d).AgreesOn names defs := by
  intro name hname
  rw [get?_add, if_neg (h name hname)]

/-- Tables that agree but for one name agree on every name once it is defined in both. -/
theorem AgreesOn.add_of_ne {key : String}
    (h : defs.AgreesOn (fun name => Symbol.key name ≠ key) defs') {d : Definition}
    (hd : Symbol.key d.name = key) : (defs.add d).AgreesOn names (defs'.add d) := by
  intro name _
  rw [get?_add, get?_add, hd]
  by_cases hname : Symbol.key name = key
  · rw [if_pos hname, if_pos hname]
  · rw [if_neg hname, if_neg hname, h name hname]

/-- Definitions of different names can be made in either order. -/
theorem agreesOn_add_comm {d d' : Definition} (h : Symbol.key d.name ≠ Symbol.key d'.name) :
    ((defs.add d).add d').AgreesOn names ((defs.add d').add d) := by
  intro name _
  rw [get?_add, get?_add, get?_add, get?_add]
  by_cases hname : Symbol.key name = Symbol.key d'.name
  · have hne : Symbol.key name ≠ Symbol.key d.name := fun heq => h (heq.symm.trans hname)
    rw [if_pos hname, if_neg hne, if_pos hname]
  · rw [if_neg hname, if_neg hname]

end Definitions

namespace Eval

/-! ## Nested forms -/

/-- The name can only be that of a defined function: it spells neither a special form nor a
    primitive. -/
def CallableName (name : String) : Prop :=
  Rules.Ordinary name ∧ Rules.NoPrimitive name

/-- Whether a name is callable is a matter of its key. -/
theorem callableName_congr {name name' : String} (h : Symbol.key name = Symbol.key name') :
    CallableName name ↔ CallableName name' := by
  rw [CallableName, Rules.Ordinary, Rules.NoPrimitive, h]
  exact Iff.rfl

variable {defs defs' : Definitions}

/-- Tables that agree on names have the same functions under them. -/
theorem function?_of_agreesOn (h : defs.AgreesOn CallableName defs') {name : String}
    (hname : Rules.Ordinary name) : function? defs name = function? defs' name := by
  rw [function?, function?]
  cases hp : Primitive.ofName? name with
  | some p => rfl
  | none => rw [h name ⟨hname, Rules.ofName?_eq_none_iff.mp hp⟩]

/-- The checks on a form see the table through callable names only. -/
theorem shape_of_agreesOn (h : defs.AgreesOn CallableName defs') (e : Expr) (env : Env) :
    shape defs e env = shape defs' e env := by
  match e with
  | .atom token => rfl
  | .blank => rfl
  | .pair .blank tail => rfl
  | .pair (.pair first rest) tail => rfl
  | .pair (.atom name) tail =>
      rw [shape, shape]
      cases hform : SpecialForm.ofName? name with
      | some form => cases form <;> rfl
      | none =>
          have hname := SpecialForm.ofName?_eq_none_iff.mp hform
          dsimp only
          rw [callShape, callShape, function?_of_agreesOn h hname]

/-- **Only callable names of a table matter to evaluation.** -/
theorem answer_of_agreesOn (h : defs.AgreesOn CallableName defs') (depth : Nat) :
    answer defs depth = answer defs' depth := by
  induction depth with
  | zero => rfl
  | succ depth ih =>
      funext e env
      show (shape defs e env).finish (answer defs depth) env =
        (shape defs' e env).finish (answer defs' depth) env
      rw [shape_of_agreesOn h, ih]

/-! ## Requests -/

/-- A use of the evaluator: a form, its environment, whether it is a form of the session, and a
    number of levels. -/
structure Request where
  form : Expr
  env : Env
  topLevel : Bool
  depth : Nat

/-- What a request comes to from a table. -/
def Request.run (r : Request) (defs : Definitions) : Outcome Expr :=
  (evaluate r.depth r.form r.env r.topLevel).run defs

/-- The request is an accepted `DEFUN` of the session for the definition `d`. -/
def Request.Defines (r : Request) (d : Definition) : Prop :=
  r.topLevel = true ∧ 0 < r.depth ∧ AcceptedDefun r.form d

/-- The results of requests that are made one after the other, failed ones included, each from the
    table that the one before it left. -/
def results (defs : Definitions) : List Request → List (Except EvalError Expr)
  | [] => []
  | r :: rest => (r.run defs).result :: results (r.run defs).defs rest

/-- The table that requests leave behind. -/
def tableAfter (defs : Definitions) (requests : List Request) : Definitions :=
  requests.foldl (fun defs r => (r.run defs).defs) defs

theorem tableAfter_append (requests later : List Request) :
    tableAfter defs (requests ++ later) = tableAfter (tableAfter defs requests) later :=
  List.foldl_append

/-- A request that defines adds its definition to any table. -/
theorem Request.Defines.run {r : Request} {d : Definition} (h : r.Defines d)
    (defs : Definitions) :
    (r.run defs).result = .ok (.atom d.name) ∧ (r.run defs).defs = defs.add d := by
  obtain ⟨form, env, topLevel, depth⟩ := r
  obtain ⟨htop, hdepth, hform⟩ := h
  obtain ⟨below, rfl⟩ : ∃ below, depth = below + 1 := ⟨depth - 1, by dsimp at hdepth; omega⟩
  dsimp only at htop hform
  subst htop
  exact run_step_of_accepted hform (evaluate below) env defs

/-- A request that defines nothing leaves the table alone. -/
theorem table_run_of_not_defines {r : Request} (h : ∀ d, ¬ r.Defines d) (defs : Definitions) :
    (r.run defs).defs = defs := by
  obtain ⟨form, env, topLevel, depth⟩ := r
  cases topLevel with
  | false => exact keepsTable_evaluate depth form env defs
  | true =>
      cases depth with
      | zero => rfl
      | succ below =>
          have hform : ∀ d, ¬ AcceptedDefun form d := fun d hd => h d ⟨rfl, below.succ_pos, hd⟩
          exact keepsTable_step_of_not_accepted (keepsTable_evaluate below) env true hform defs

/-- The same definition has been added to two tables, or none has. -/
def SameAddition (defs defs' after after' : Definitions) : Prop :=
  (after = defs ∧ after' = defs') ∨ ∃ d, after = defs.add d ∧ after' = defs'.add d

/-- Requests that define the same add the same. -/
theorem sameAddition_of_defines_iff {r r' : Request} (h : ∀ d, r.Defines d ↔ r'.Defines d)
    (defs defs' : Definitions) :
    SameAddition defs defs' (r.run defs).defs (r'.run defs').defs := by
  by_cases hsome : ∃ d, r.Defines d
  · obtain ⟨d, hd⟩ := hsome
    exact .inr ⟨d, (hd.run defs).2, (((h d).mp hd).run defs').2⟩
  · have hnone : ∀ d, ¬ r.Defines d := fun d hd => hsome ⟨d, hd⟩
    have hnone' : ∀ d, ¬ r'.Defines d := fun d hd => hnone d ((h d).mpr hd)
    exact .inl ⟨table_run_of_not_defines hnone defs, table_run_of_not_defines hnone' defs'⟩

/-- **What a request adds does not depend on the table.** -/
theorem sameAddition_run (r : Request) (defs defs' : Definitions) :
    SameAddition defs defs' (r.run defs).defs (r.run defs').defs :=
  sameAddition_of_defines_iff (fun _ => Iff.rfl) defs defs'

/-- Whatever two tables agree on, they agree on behind a request. -/
theorem agreesOn_run {names : String → Prop} (h : defs.AgreesOn names defs') (r : Request) :
    (r.run defs).defs.AgreesOn names (r.run defs').defs := by
  rcases sameAddition_run r defs defs' with ⟨hkeep, hkeep'⟩ | ⟨d, hadd, hadd'⟩
  · rwa [hkeep, hkeep']
  · rw [hadd, hadd']
    exact h.add d

/-- Tables that agree on names still do so after any requests. -/
theorem agreesOn_tableAfter {names : String → Prop} (h : defs.AgreesOn names defs')
    (requests : List Request) :
    (tableAfter defs requests).AgreesOn names (tableAfter defs' requests) := by
  induction requests generalizing defs defs' with
  | nil => exact h
  | cons r rest ih => exact ih (agreesOn_run h r)

/-- A refused `DEFUN`, and one that is no form of the session, fail from every table alike. -/
theorem result_define_eq (tail : Expr) (topLevel : Bool) (defs defs' : Definitions) :
    ((define tail topLevel).run defs).result = ((define tail topLevel).run defs').result := by
  cases topLevel with
  | false => rfl
  | true =>
      cases hd : Definition.ofOperands tail with
      | error fault => simp [define, hd]
      | ok d =>
          have hresult := (run_define_accepted hd defs).1
          have hresult' := (run_define_accepted hd defs').1
          exact hresult.trans hresult'.symm

/-- **Tables that agree on the callable names give the same result.** -/
theorem result_run_of_agreesOn (h : defs.AgreesOn CallableName defs') (r : Request) :
    (r.run defs).result = (r.run defs').result := by
  obtain ⟨form, env, topLevel, depth⟩ := r
  by_cases hform : IsDefun form
  · obtain ⟨name, tail, rfl, hkey⟩ := hform
    cases depth with
    | zero => rfl
    | succ below =>
        simp only [Request.run, evaluate, step_defun (evaluate below) tail env topLevel hkey]
        exact result_define_eq tail topLevel defs defs'
  · have hresult := (run_evaluate_of_not_isDefun hform depth env topLevel defs).1
    have hresult' := (run_evaluate_of_not_isDefun hform depth env topLevel defs').1
    rw [← answer_of_agreesOn h depth] at hresult'
    exact hresult.trans hresult'.symm

/-- **And the same results ever after.** -/
theorem results_of_agreesOn (h : defs.AgreesOn CallableName defs') (requests : List Request) :
    results defs requests = results defs' requests := by
  induction requests generalizing defs defs' with
  | nil => rfl
  | cons r rest ih => rw [results, results, result_run_of_agreesOn h r, ih (agreesOn_run h r)]

/-! ## Definitions that make no difference -/

variable {r r' : Request} {d d' : Definition}

/-- A definition of a name that is not callable is never used. -/
theorem agreesOn_of_defines_taken (hr : r.Defines d) (hname : ¬ CallableName d.name) :
    (r.run defs).defs.AgreesOn CallableName defs := by
  rw [(hr.run defs).2]
  refine Definitions.agreesOn_add_left fun name hcallable hkey => ?_
  exact hname ((callableName_congr hkey).mp hcallable)

/-- A definition that a later one of the same name hides is not used behind that one. -/
theorem agreesOn_of_defines_hidden (hr : r.Defines d) (hr' : r'.Defines d')
    (hname : Symbol.key d.name = Symbol.key d'.name) (between : List Request) :
    (tableAfter defs (r :: (between ++ [r']))).AgreesOn CallableName
      (tableAfter defs (between ++ [r'])) := by
  -- up to the second definition the tables differ in the one name only
  have hother : (r.run defs).defs.AgreesOn (fun name => Symbol.key name ≠ Symbol.key d'.name)
      defs := by
    rw [(hr.run defs).2]
    refine Definitions.agreesOn_add_left fun name hne => ?_
    rwa [hname]
  have hbetween := agreesOn_tableAfter hother between
  have hfirst : tableAfter defs (r :: (between ++ [r'])) =
      (tableAfter (r.run defs).defs between).add d' := by
    rw [← (hr'.run _).2]
    exact tableAfter_append between [r']
  have hsecond : tableAfter defs (between ++ [r']) = (tableAfter defs between).add d' := by
    rw [← (hr'.run _).2]
    exact tableAfter_append between [r']
  rw [hfirst, hsecond]
  exact hbetween.add_of_ne rfl

/-- Definitions of different names can be made in either order. -/
theorem agreesOn_of_defines_swapped (hr : r.Defines d) (hr' : r'.Defines d')
    (hname : Symbol.key d.name ≠ Symbol.key d'.name) :
    (tableAfter defs [r, r']).AgreesOn CallableName (tableAfter defs [r', r]) := by
  have hfirst : tableAfter defs [r, r'] = (defs.add d).add d' := by
    rw [← (hr.run defs).2, ← (hr'.run _).2]
    rfl
  have hsecond : tableAfter defs [r', r] = (defs.add d').add d := by
    rw [← (hr'.run defs).2, ← (hr.run _).2]
    rfl
  rw [hfirst, hsecond]
  exact Definitions.agreesOn_add_comm hname

/-- **The table matters only through the definitions in force for callable names.** From two tables
    that agree on these, a form has the same result and adds the same definition, if any; and so do
    all the forms after it. Therefore a `DEFUN` of a name that a special form or a primitive has, in
    any case, changes no later result; nor does a definition that a later one of the same name
    hides, whatever is evaluated between them; and two definitions of different names can be
    exchanged. -/
theorem only_callable_entries_matter (defs : Definitions) :
    (∀ defs' : Definitions,
      (∀ name, (∀ special : SpecialForm, Symbol.key name ≠ special.label) →
        (∀ p : Primitive, Symbol.key name ≠ p.label) → defs.get? name = defs'.get? name) →
      ∀ r : Request, (r.run defs).result = (r.run defs').result ∧
        SameAddition defs defs' (r.run defs).defs (r.run defs').defs ∧
        ∀ later, results (r.run defs).defs later = results (r.run defs').defs later) ∧
    (∀ (r : Request) (d : Definition), r.Defines d →
      ((∃ special : SpecialForm, Symbol.key d.name = special.label) ∨
        ∃ p : Primitive, Symbol.key d.name = p.label) →
      ∀ later, results (r.run defs).defs later = results defs later) ∧
    (∀ (r r' : Request) (d d' : Definition), r.Defines d → r'.Defines d' →
      Symbol.key d.name = Symbol.key d'.name →
      ∀ between later, results (tableAfter defs (r :: (between ++ [r']))) later =
        results (tableAfter defs (between ++ [r'])) later) ∧
    ∀ (r r' : Request) (d d' : Definition), r.Defines d → r'.Defines d' →
      Symbol.key d.name ≠ Symbol.key d'.name →
      ∀ later, results (tableAfter defs [r, r']) later =
        results (tableAfter defs [r', r]) later := by
  refine ⟨?_, ?_, ?_, ?_⟩
  · intro defs' hagree r
    have h : defs.AgreesOn CallableName defs' := fun name hname => hagree name hname.1 hname.2
    exact ⟨result_run_of_agreesOn h r, sameAddition_run r defs defs',
      results_of_agreesOn (agreesOn_run h r)⟩
  · intro r d hr hname
    refine results_of_agreesOn (agreesOn_of_defines_taken hr ?_)
    rintro ⟨hordinary, hprimitive⟩
    rcases hname with ⟨special, hkey⟩ | ⟨p, hkey⟩
    · exact hordinary special hkey
    · exact hprimitive p hkey
  · intro r r' d d' hr hr' hname between
    exact results_of_agreesOn (agreesOn_of_defines_hidden hr hr' hname between)
  · intro r r' d d' hr hr' hname
    exact results_of_agreesOn (agreesOn_of_defines_swapped hr hr' hname)

/-- A table answers like one in which `QUOTE` is defined too. A function under the name of a
    primitive, in lower case, leaves that primitive alone. Where a name is defined twice, the first
    definition cannot be told behind the second one, although a call between them used it. And a
    function can be defined before one that it calls, or after it. -/
theorem only_callable_entries_matter_defun_car :
    ((⟨.ofList [.atom "quote", .atom "A"] Expr.nil, .empty, true, 5⟩ : Request).run
        (Definitions.empty.add ⟨"Quote", ["X"], .atom "1"⟩)).result = .ok (.atom "A") ∧
    results ((⟨.ofList [.atom "DEFUN", .atom "car", Expr.nil, .atom "1"] Expr.nil, .empty, true,
          5⟩ : Request).run .empty).defs
        [⟨.ofList [.atom "CAR", .ofList [.atom "QUOTE", .ofList [.atom "A"] Expr.nil] Expr.nil]
          Expr.nil, .empty, true, 5⟩] = [.ok (.atom "A")] ∧
    results (tableAfter .empty
        [⟨.ofList [.atom "DEFUN", .atom "F", Expr.nil, .atom "1"] Expr.nil, .empty, true, 5⟩,
          ⟨.ofList [.atom "F"] Expr.nil, .empty, true, 5⟩,
          ⟨.ofList [.atom "DEFUN", .atom "f", Expr.nil, .atom "2"] Expr.nil, .empty, true, 5⟩])
        [⟨.ofList [.atom "F"] Expr.nil, .empty, true, 5⟩] = [.ok (.atom "2")] ∧
    results (tableAfter .empty
        [⟨.ofList [.atom "DEFUN", .atom "F", Expr.nil, .ofList [.atom "G"] Expr.nil] Expr.nil,
            .empty, true, 5⟩,
          ⟨.ofList [.atom "DEFUN", .atom "G", Expr.nil, .atom "1"] Expr.nil, .empty, true, 5⟩])
        [⟨.ofList [.atom "F"] Expr.nil, .empty, true, 5⟩] = [.ok (.atom "1")] := by
  refine ⟨?_, ?_, ?_, ?_⟩
  · refine (((only_callable_entries_matter .empty).1 _ ?_ _).1).symm.trans (by decide +kernel)
    intro name hspecial _
    have hne : Symbol.key name ≠ Symbol.key "Quote" := fun h =>
      hspecial .quote (h.trans (by decide +kernel))
    rw [Definitions.get?_add, if_neg hne]
  · refine ((only_callable_entries_matter .empty).2.1 _ ⟨"car", [], .atom "1"⟩ ?_
      (.inr ⟨.car, by decide +kernel⟩) _).trans (by decide +kernel)
    exact ⟨rfl, by decide, _, _, rfl, by decide +kernel, by decide +kernel⟩
  · refine ((only_callable_entries_matter .empty).2.2.1 _ _ ⟨"F", [], .atom "1"⟩
      ⟨"f", [], .atom "2"⟩ ?_ ?_ (by decide +kernel)
      [⟨.ofList [.atom "F"] Expr.nil, .empty, true, 5⟩] _).trans (by decide +kernel)
    · exact ⟨rfl, by decide, _, _, rfl, by decide +kernel, by decide +kernel⟩
    · exact ⟨rfl, by decide, _, _, rfl, by decide +kernel, by decide +kernel⟩
  · refine ((only_callable_entries_matter .empty).2.2.2 _ _
      ⟨"F", [], .ofList [.atom "G"] Expr.nil⟩ ⟨"G", [], .atom "1"⟩ ?_ ?_ (by decide +kernel)
      _).trans (by decide +kernel)
    · exact ⟨rfl, by decide, _, _, rfl, by decide +kernel, by decide +kernel⟩
    · exact ⟨rfl, by decide, _, _, rfl, by decide +kernel, by decide +kernel⟩

end Eval
end PairLisp
