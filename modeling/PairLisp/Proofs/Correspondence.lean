import Mathlib.Data.List.Forall2
import PairLisp.Proofs.Nested

/-!
# Two evaluations side by side

Many laws of evaluation compare two runs: in two environments, in two spellings, within two numbers
of levels. What has to be checked for such a law is how the shapes of corresponding forms
correspond; that whole evaluations do follows here once and for all.

* `Matching` names what is compared: which errors count as the same, which excuse the first run
  from further comparison, and which values and which forms correspond;
* `Matching.Shapes` says when two shapes correspond, so that they ask for corresponding forms only;
* `Matching.Sound` is what a law has to provide;
* `answers_answer` carries the comparison through evaluation: one level first (`answers_finish`),
  then all levels by induction.
-/

namespace PairLisp
namespace Eval

/-- What is compared between two evaluations. -/
structure Matching where
  /-- Where the first evaluation fails in this way, nothing is asked of the second. -/
  excused : EvalError → Prop
  /-- The errors that correspond. -/
  errors : EvalError → EvalError → Prop
  /-- The values that correspond. -/
  values : Expr → Expr → Prop
  /-- The forms that correspond, each with the environment it is evaluated in. -/
  forms : Expr → Env → Expr → Env → Prop

namespace Matching

variable (m : Matching) {α β γ δ : Type}

/-! ## Results -/

/-- Two results correspond, where `R` compares their values. -/
inductive Answers (R : α → β → Prop) : Except EvalError α → Except EvalError β → Prop where
  | value {a : α} {b : β} : R a b → Answers R (.ok a) (.ok b)
  | error {cause cause' : EvalError} : m.errors cause cause' →
      Answers R (.error cause) (.error cause')
  | excused {cause : EvalError} {r : Except EvalError β} : m.excused cause →
      Answers R (.error cause) r

variable {m}

/-- Corresponding results go on to corresponding results. -/
theorem Answers.bind {R : α → β → Prop} {S : γ → δ → Prop} {r : Except EvalError α}
    {r' : Except EvalError β} {f : α → Except EvalError γ} {f' : β → Except EvalError δ}
    (h : m.Answers R r r') (hf : ∀ a b, R a b → m.Answers S (f a) (f' b)) :
    m.Answers S (r >>= f) (r' >>= f') := by
  cases h with
  | value hab => exact hf _ _ hab
  | error hcause => exact .error hcause
  | excused hcause => exact .excused hcause

/-- Where errors correspond only to themselves, equal results correspond. -/
theorem Answers.of_eq (herrors : m.errors = Eq) {r r' : Except EvalError α} (h : r = r') :
    m.Answers Eq r r' := by
  subst h
  cases r with
  | ok a => exact .value rfl
  | error cause => exact .error (by rw [herrors])

/-- Where nothing is excused and errors correspond only to themselves, corresponding results are
    equal. -/
theorem Answers.eq_of_not_excused (herrors : m.errors = Eq) {r r' : Except EvalError α}
    (h : m.Answers Eq r r') (hr : ∀ cause, r = .error cause → ¬ m.excused cause) : r = r' := by
  cases h with
  | value hab => rw [hab]
  | error hcause =>
      rw [herrors] at hcause
      rw [hcause]
  | excused hcause => exact absurd hcause (hr _ rfl)

/-! ## Shapes -/

variable (m)

/-- What two functions lead to corresponds. -/
inductive Entries : Entry → Entry → Prop where
  | settled {r r' : Except EvalError Expr} : m.Answers m.values r r' →
      Entries (.settled r) (.settled r')
  | body {e e' : Expr} {env env' : Env} : m.forms e env e' env' →
      Entries (.body e env) (.body e' env')

/-- Two functions correspond when corresponding arguments lead them to what corresponds. -/
def Functions (env env' : Env) (f f' : Function) : Prop :=
  ∀ args args', List.Forall₂ m.values args args' → m.Entries (enter f args env) (enter f' args' env')

/-- The parts of two clauses are forms that correspond. -/
def Clauses (env env' : Env) (clause clause' : Expr × Expr) : Prop :=
  m.forms clause.1 env clause'.1 env' ∧ m.forms clause.2 env clause'.2 env'

/-- Two shapes correspond: what they settle, or the forms and functions that they ask for. Where the
    first one settles for an excuse, the second one may ask for anything. -/
inductive Shapes (env env' : Env) : Shape → Shape → Prop where
  | settled {r r' : Except EvalError Expr} : m.Answers m.values r r' →
      Shapes env env' (.settled r) (.settled r')
  | excused {cause : EvalError} {s : Shape} : m.excused cause →
      Shapes env env' (.settled (.error cause)) s
  | clauses {cs cs' : List (Expr × Expr)} : List.Forall₂ (m.Clauses env env') cs cs' →
      Shapes env env' (.clauses cs) (.clauses cs')
  | call {f f' : Function} {items items' : List Expr} : m.Functions env env' f f' →
      List.Forall₂ (fun e e' => m.forms e env e' env') items items' →
      Shapes env env' (.call f items) (.call f' items')

/-- The comparison can be carried through evaluation from two tables. -/
structure Sound (defs defs' : Definitions) : Prop where
  /-- Corresponding values decide a test alike. -/
  isTrue : ∀ {value value'}, m.values value value' → value.isTrue = value'.isTrue
  /-- No clause being true is the same failure. -/
  noMatchingClause : m.errors .noMatchingClause .noMatchingClause
  /-- Corresponding forms have corresponding shapes. -/
  shapes : ∀ {e env e' env'}, m.forms e env e' env' →
    m.Shapes env env' (shape defs e env) (shape defs' e' env')

variable {m}

/-! ## The same form on both sides

Where values and errors correspond only to themselves, a form corresponds to itself in another
environment as soon as its parts do. -/

section Same

variable (hvalues : m.values = Eq) (herrors : m.errors = Eq) {env env' : Env}
include hvalues herrors

/-- A function corresponds to itself if its body does, with the parameters bound alike. -/
theorem functions_same {f : Function}
    (hbody : ∀ d args, f = .defined d → args.length = d.arity →
      m.forms d.body (env.extend d.formals args) d.body (env'.extend d.formals args)) :
    m.Functions env env' f f := by
  intro args args' hargs
  rw [hvalues, List.forall₂_eq_eq_eq] at hargs
  subst hargs
  cases f with
  | primitive p =>
      refine .settled ?_
      rw [hvalues]
      exact .of_eq herrors rfl
  | defined d =>
      by_cases hlen : args.length = d.arity
      · simp only [enter, Definition.bindArguments, if_pos hlen]
        exact .body (hbody d args rfl hlen)
      · simp only [enter, Definition.bindArguments, if_neg hlen]
        exact .settled (.error (by rw [herrors]))

theorem shapes_same {s : Shape} (hparts : ∀ e ∈ s.parts, m.forms e env e env')
    (hbody : ∀ d items, s = .call (.defined d) items → ∀ args, args.length = d.arity →
      m.forms d.body (env.extend d.formals args) d.body (env'.extend d.formals args)) :
    m.Shapes env env' s s := by
  cases s with
  | settled r =>
      refine .settled ?_
      rw [hvalues]
      exact .of_eq herrors rfl
  | clauses cs =>
      refine .clauses (List.forall₂_same.mpr fun clause hclause => ?_)
      have hmem : ∀ e ∈ [clause.1, clause.2], m.forms e env e env' := fun e he =>
        hparts e (List.mem_flatMap.mpr ⟨clause, hclause, he⟩)
      exact ⟨hmem clause.1 (by simp), hmem clause.2 (by simp)⟩
  | call f items =>
      refine .call (functions_same hvalues herrors ?_) (List.forall₂_same.mpr hparts)
      rintro d args rfl hlen
      exact hbody d items rfl args hlen

end Same

/-! ## One level -/

section Level

variable {defs defs' : Definitions} (hm : m.Sound defs defs') {ans ans' : Answerer}
variable (hans : ∀ {e env e' env'}, m.forms e env e' env' →
  m.Answers m.values (ans e env) (ans' e' env'))
include hans

/-- Corresponding operands have corresponding values. -/
theorem answers_valuesOf {env env' : Env} {items items' : List Expr}
    (h : List.Forall₂ (fun e e' => m.forms e env e' env') items items') :
    m.Answers (List.Forall₂ m.values) (valuesOf ans env items) (valuesOf ans' env' items') := by
  induction h with
  | nil => exact .value .nil
  | cons hform _ ih =>
      refine (hans hform).bind fun value value' hvalue => ?_
      refine ih.bind fun values values' hvalues => ?_
      exact .value (.cons hvalue hvalues)

/-- Corresponding entries into functions come to corresponding answers. -/
theorem answers_entry {entry entry' : Entry} (h : m.Entries entry entry') :
    m.Answers m.values (entry.finish ans) (entry'.finish ans') := by
  cases h with
  | settled hr => exact hr
  | body hform => exact hans hform

include hm

/-- A test is decided alike on both sides, so the same clause is selected or skipped. -/
theorem answers_firstTrue {env env' : Env} {cs cs' : List (Expr × Expr)}
    (h : List.Forall₂ (m.Clauses env env') cs cs') :
    m.Answers m.values (firstTrue ans env cs) (firstTrue ans' env' cs') := by
  induction h with
  | nil => exact .error hm.noMatchingClause
  | cons hclause _ ih =>
      refine (hans hclause.1).bind fun value value' hvalue => ?_
      have htest := hm.isTrue hvalue
      by_cases hv : value'.isTrue = true
      · rw [if_pos (htest.trans hv), if_pos hv]
        exact hans hclause.2
      · rw [htest, if_neg hv, if_neg hv]
        exact ih

/-- **Corresponding shapes are finished alike**, if corresponding forms are answered alike at the
    level below. -/
theorem answers_finish {env env' : Env} {s s' : Shape} (h : m.Shapes env env' s s') :
    m.Answers m.values (s.finish ans env) (s'.finish ans' env') := by
  cases h with
  | settled hr => exact hr
  | excused hcause => exact .excused hcause
  | clauses hcs => exact answers_firstTrue hm hans hcs
  | call hf hitems =>
      refine (answers_valuesOf hans hitems).bind fun args args' hargs => ?_
      exact answers_entry hans (hf args args' hargs)

end Level

/-! ## Every level -/

/-- The numbers of levels of two evaluations that can be compared: the same one, or a larger one
    on the right, where running out of levels on the left is an excuse. -/
def Levels (m : Matching) (depth depth' : Nat) : Prop :=
  (depth = depth' ∧ m.errors .recursionDepthExceeded .recursionDepthExceeded) ∨
    (depth ≤ depth' ∧ m.excused .recursionDepthExceeded)

theorem Levels.below {depth depth' : Nat} (h : m.Levels (depth + 1) depth') :
    ∃ below, depth' = below + 1 ∧ m.Levels depth below := by
  rcases h with ⟨rfl, herror⟩ | ⟨hle, hexcused⟩
  · exact ⟨depth, rfl, .inl ⟨rfl, herror⟩⟩
  · exact ⟨depth' - 1, by omega, .inr ⟨by omega, hexcused⟩⟩

/-- **Corresponding forms are answered alike** by evaluation to any depth. -/
theorem answers_answer {defs defs' : Definitions} (hm : m.Sound defs defs') {depth depth' : Nat}
    (hdepth : m.Levels depth depth') {e e' : Expr} {env env' : Env} (h : m.forms e env e' env') :
    m.Answers m.values (answer defs depth e env) (answer defs' depth' e' env') := by
  induction depth generalizing depth' e e' env env' with
  | zero =>
      rcases hdepth with ⟨rfl, herror⟩ | ⟨_, hexcused⟩
      · exact .error herror
      · exact .excused hexcused
  | succ depth ih =>
      obtain ⟨below, rfl, hbelow⟩ := hdepth.below
      exact answers_finish hm (ih hbelow) (hm.shapes h)

end Matching

end Eval
end PairLisp
