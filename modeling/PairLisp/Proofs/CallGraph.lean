import Mathlib.Algebra.GroupWithZero.Nat
import Mathlib.Logic.Relation
import PairLisp.Proofs.Adequacy
import PairLisp.Proofs.FreeNames

/-!
# Functions that do not call themselves

A call jumps into a body that is written elsewhere, so evaluation need not end. It does where no
function leads back to itself, and then the levels it takes can be read off the text:

* `Definitions.Refers` is the graph of references among the functions in force, and a table is
  `Acyclic` when no path of it leads back to where it began;
* `Definitions.Reaches` says which functions a form can come to call. A part of a form reaches no
  more than the form, and the body of a called function reaches less: not that function itself
  (`not_reaches_body`);
* `levelsNeeded` adds the size of a form and the sizes of all bodies it reaches. Every form that one
  level of evaluation hands to the next needs less (`levelsNeeded_part`, `levelsNeeded_body`), so
  the levels do not run out (`answer_ne_overflow`).

All that is evaluated are parts of the form and of bodies, never a value, so nothing depends on the
environment.
-/

namespace PairLisp

open Relation

theorem Expr.size_pos (e : Expr) : 0 < e.size := by
  cases e <;> simp [Expr.size]

/-- A part is not larger than the whole. -/
theorem Expr.Part.size_le {e f : Expr} (h : Part e f) : e.size ≤ f.size := by
  induction h with
  | whole => exact Nat.le_refl _
  | first _ ih =>
      rw [Expr.size]
      omega
  | rest _ ih =>
      rw [Expr.size]
      omega

namespace Definitions

/-! ## References -/

/-- A token in the body in force for `f` is the name `g`, in any case, and `g` is defined. -/
def Refers (defs : Definitions) (f g : String) : Prop :=
  ∃ d, defs.get? f = some d ∧ (∃ token ∈ d.body.tokens, Symbol.key token = Symbol.key g) ∧
    defs.contains g = true

/-- No function leads back to itself. -/
def Acyclic (defs : Definitions) : Prop :=
  ∀ f, ¬ TransGen defs.Refers f f

/-- A form can come to call the function under a key: one of its tokens is the name of a function
    that leads there. -/
def Reaches (defs : Definitions) (e : Expr) (key : String) : Prop :=
  ∃ token ∈ e.tokens, defs.contains token = true ∧
    ∃ f, ReflTransGen defs.Refers token f ∧ Symbol.key f = key

variable {defs : Definitions}

/-- A table is asked for names in any case. -/
theorem contains_congr {name name' : String} (h : Symbol.key name = Symbol.key name') :
    defs.contains name = defs.contains name' := by
  rw [contains, contains, get?, get?, h]

/-- The spelling of the name that is referred to does not matter. -/
theorem Refers.congr_right {f g g' : String} (h : defs.Refers f g)
    (hkey : Symbol.key g = Symbol.key g') : defs.Refers f g' := by
  obtain ⟨d, hd, ⟨token, htoken, hname⟩, hdefined⟩ := h
  exact ⟨d, hd, ⟨token, htoken, hname.trans hkey⟩, contains_congr hkey ▸ hdefined⟩

/-- A table is acyclic if the functions can be ranked so that references go down. -/
theorem acyclic_of_rank (rank : String → Nat) (h : ∀ f g, defs.Refers f g → rank g < rank f) :
    defs.Acyclic := by
  intro f hcycle
  have hlt : ∀ g, TransGen defs.Refers f g → rank g < rank f := by
    intro g hpath
    induction hpath with
    | single hstep => exact h _ _ hstep
    | tail _ hstep ih => exact Nat.lt_trans (h _ _ hstep) ih
  exact Nat.lt_irrefl _ (hlt f hcycle)

/-! ## What a form reaches -/

/-- What a part of an expression can call, the expression can call. -/
theorem Reaches.of_part {part e : Expr} {key : String} (h : defs.Reaches part key)
    (hpart : part.Part e) : defs.Reaches e key := by
  obtain ⟨token, htoken, hreach⟩ := h
  exact ⟨token, hpart.tokens_subset htoken, hreach⟩

section Call

variable {name : String} {d : Definition} (hd : defs.get? name = some d)
include hd

/-- A call can call its head. -/
theorem reaches_called (tail : Expr) : defs.Reaches (.pair (.atom name) tail) (Symbol.key name) := by
  refine ⟨name, by simp [Expr.tokens], ?_, name, .refl, rfl⟩
  rw [contains, hd]
  rfl

/-- What the body of a called function reaches, the call reaches. -/
theorem Reaches.of_body {key : String} (h : defs.Reaches d.body key) (tail : Expr) :
    defs.Reaches (.pair (.atom name) tail) key := by
  obtain ⟨token, htoken, hdefined, f, hpath, hkey⟩ := h
  have hstep : defs.Refers name token := ⟨d, hd, ⟨token, htoken, rfl⟩, hdefined⟩
  refine ⟨name, by simp [Expr.tokens], ?_, f, .head hstep hpath, hkey⟩
  rw [contains, hd]
  rfl

/-- **In an acyclic table a body does not reach its own function.** -/
theorem not_reaches_body (hacyclic : defs.Acyclic) : ¬ defs.Reaches d.body (Symbol.key name) := by
  rintro ⟨token, htoken, hdefined, f, hpath, hkey⟩
  have hstep : defs.Refers name token := ⟨d, hd, ⟨token, htoken, rfl⟩, hdefined⟩
  -- the path comes back to the name, if only in another spelling
  obtain ⟨last, hlast, hback⟩ := TransGen.tail'_iff.mp (TransGen.head' hstep hpath)
  exact hacyclic name (.tail' hlast (hback.congr_right hkey))

end Call

/-! ## Levels -/

open Classical in
/-- The sizes of the bodies under some keys, added up. -/
noncomputable def bodySizes (keys : String → Prop) (entries : List (String × Definition)) : Nat :=
  ((entries.filter fun entry => keys entry.1).map fun entry => entry.2.body.size).sum

theorem bodySizes_cons_of_pos {keys : String → Prop} {entry : String × Definition}
    (h : keys entry.1) (entries : List (String × Definition)) :
    bodySizes keys (entry :: entries) = entry.2.body.size + bodySizes keys entries := by
  simp [bodySizes, h]

theorem bodySizes_cons_of_neg {keys : String → Prop} {entry : String × Definition}
    (h : ¬ keys entry.1) (entries : List (String × Definition)) :
    bodySizes keys (entry :: entries) = bodySizes keys entries := by
  simp [bodySizes, h]

/-- More names have bodies of at least the same size. -/
theorem bodySizes_mono {keys keys' : String → Prop} (h : ∀ key, keys key → keys' key)
    (entries : List (String × Definition)) : bodySizes keys entries ≤ bodySizes keys' entries := by
  induction entries with
  | nil => exact Nat.le_refl _
  | cons entry entries ih =>
      by_cases hkeys : keys entry.1
      · rw [bodySizes_cons_of_pos hkeys, bodySizes_cons_of_pos (h _ hkeys)]
        omega
      · rw [bodySizes_cons_of_neg hkeys]
        by_cases hkeys' : keys' entry.1
        · rw [bodySizes_cons_of_pos hkeys']
          omega
        · rwa [bodySizes_cons_of_neg hkeys']

/-- With fewer keys, at least the body under a key that is missing is saved. -/
theorem bodySizes_add_le {keys keys' : String → Prop} (h : ∀ key, keys key → keys' key)
    {entries : List (String × Definition)} {entry : String × Definition} (hmem : entry ∈ entries)
    (hkeys : ¬ keys entry.1) (hkeys' : keys' entry.1) :
    bodySizes keys entries + entry.2.body.size ≤ bodySizes keys' entries := by
  induction entries with
  | nil => cases hmem
  | cons other entries ih =>
      rcases List.mem_cons.mp hmem with rfl | hmem
      · have hrest := bodySizes_mono h entries
        rw [bodySizes_cons_of_neg hkeys, bodySizes_cons_of_pos hkeys']
        omega
      · have hrest := ih hmem
        by_cases hother : keys other.1
        · rw [bodySizes_cons_of_pos hother, bodySizes_cons_of_pos (h _ hother)]
          omega
        · rw [bodySizes_cons_of_neg hother]
          by_cases hother' : keys' other.1
          · rw [bodySizes_cons_of_pos hother']
            omega
          · rwa [bodySizes_cons_of_neg hother']

end Definitions

namespace Eval

open Definitions

/-- The size of a form and of all bodies that it reaches. -/
noncomputable def levelsNeeded (defs : Definitions) (e : Expr) : Nat :=
  e.size + bodySizes (defs.Reaches e) defs.current

/-- The size of a form and of all bodies in force. -/
def textSize (defs : Definitions) (e : Expr) : Nat :=
  e.size + (defs.current.map fun entry => entry.2.body.size).sum

variable {defs : Definitions}

/-- A form reaches no more than all bodies in force. -/
theorem levelsNeeded_le_textSize (e : Expr) : levelsNeeded defs e ≤ textSize defs e := by
  have hall : bodySizes (fun _ => True) defs.current =
      (defs.current.map fun entry => entry.2.body.size).sum := by
    simp [bodySizes]
  have hmono : bodySizes (defs.Reaches e) defs.current ≤ bodySizes (fun _ => True) defs.current :=
    bodySizes_mono (fun _ _ => trivial) defs.current
  rw [levelsNeeded, textSize]
  omega

/-- An operand needs fewer levels than its call. -/
theorem levelsNeeded_part (defs : Definitions) (head : Expr) {part tail : Expr}
    (h : part.Part tail) :
    levelsNeeded defs part < levelsNeeded defs (.pair head tail) := by
  have hsize := h.size_le
  have hbodies : bodySizes (defs.Reaches part) defs.current ≤
      bodySizes (defs.Reaches (.pair head tail)) defs.current :=
    bodySizes_mono (fun _ hreach => hreach.of_part (.rest h)) defs.current
  rw [levelsNeeded, levelsNeeded, Expr.size]
  omega

/-- Where no function calls itself again, its body needs fewer levels than a call of it. -/
theorem levelsNeeded_body (hacyclic : defs.Acyclic) {name : String} {d : Definition}
    (hd : defs.get? name = some d) (tail : Expr) :
    levelsNeeded defs d.body < levelsNeeded defs (.pair (.atom name) tail) := by
  have hbodies : bodySizes (defs.Reaches d.body) defs.current + d.body.size ≤
      bodySizes (defs.Reaches (.pair (.atom name) tail)) defs.current :=
    bodySizes_add_le (fun _ hreach => hreach.of_body hd tail) (mem_current_of_get? hd)
      (not_reaches_body hd hacyclic) (reaches_called hd tail)
  have hcall := Expr.size_pos (.pair (.atom name) tail)
  rw [levelsNeeded, levelsNeeded]
  omega

/-! ## Running out of levels -/

/-- The checks on a form take no further level. -/
theorem shape_ne_overflow (e : Expr) (env : Env) :
    shape defs e env ≠ .settled (.error .recursionDepthExceeded) := by
  intro h
  cases refused_of_shape h

/-- Neither a primitive nor the binding of arguments takes a further level. -/
theorem enter_ne_overflow (f : Function) (args : List Expr) (env : Env) :
    enter f args env ≠ .settled (.error .recursionDepthExceeded) := by
  intro h
  cases f with
  | primitive p =>
      have happlies := Primitive.applies_iff.mpr (Entry.settled.inj h)
      exact Rules.applies_ne_overflow happlies rfl
  | defined d =>
      rw [enter, Definition.bindArguments] at h
      split at h
      · next hbind =>
          split at hbind <;> cases hbind
          cases h
      · cases h

/-- A `DEFUN` form takes no further level. -/
theorem define_ne_overflow (tail : Expr) (top : Bool) (defs : Definitions) :
    ((define tail top).run defs).result ≠ .error .recursionDepthExceeded := by
  intro h
  rcases error_of_define h with hcause | ⟨fault, hcause⟩
  · cases hcause
  · cases hcause

/-- **Without cycles the levels suffice.** By induction on the levels: an error of running out comes
    from a form one level below, and that one needs less. -/
theorem answer_ne_overflow (hacyclic : defs.Acyclic) {depth : Nat} {e : Expr}
    (hdepth : levelsNeeded defs e ≤ depth) (env : Env) :
    answer defs depth e env ≠ .error .recursionDepthExceeded := by
  induction depth generalizing e env with
  | zero =>
      have hpos := e.size_pos
      rw [levelsNeeded] at hdepth
      omega
  | succ depth ih =>
      intro h
      have horigin := origin_of_finish h
      generalize hs : shape defs e env = s at horigin
      cases horigin with
      | checks => exact shape_ne_overflow e env hs
      | part hpart hfails =>
          rw [← hs] at hpart
          obtain ⟨head, tail, rfl, htail⟩ := part_of_mem_parts hpart
          have hless := levelsNeeded_part defs head htail
          exact ih (by omega) env hfails
      | refused hentry => exact enter_ne_overflow _ _ env hentry
      | body hentry hfails =>
          obtain ⟨d, rfl, rfl⟩ := body_of_enter hentry
          obtain ⟨name, tail, rfl, _, hf, _⟩ := of_shape_call hs
          have hless := levelsNeeded_body hacyclic (function?_eq_defined_iff.mp hf).2 tail
          exact ih (by omega) _ hfails

end Eval

open Eval

/-- **Without recursive definitions evaluation ends, within a number of levels that the text
    fixes.** If no function leads back to itself through the names in the bodies in force, then no
    form runs out of levels where there are as many as the form and all bodies together have atoms
    and pairs, whatever the environment holds. -/
theorem evaluation_ends_without_recursion (defs : Definitions) (hacyclic : defs.Acyclic)
    (e : Expr) (env : Env) (top : Bool) (depth : Nat) (hdepth : textSize defs e ≤ depth) :
    ((evaluate depth e env top).run defs).result ≠ .error .recursionDepthExceeded := by
  by_cases hform : IsDefun e
  · obtain ⟨name, tail, rfl, hkey⟩ := hform
    obtain ⟨below, rfl⟩ : ∃ below, depth = below + 1 := by
      have hpos := Expr.size_pos (.pair (.atom name) tail)
      rw [textSize] at hdepth
      exact ⟨depth - 1, by omega⟩
    rw [evaluate, step_defun (evaluate below) tail env top hkey]
    exact define_ne_overflow tail top defs
  · rw [(run_evaluate_of_not_isDefun hform depth env top defs).1]
    exact answer_ne_overflow hacyclic (Nat.le_trans (levelsNeeded_le_textSize e) hdepth) env

/-- A function that calls another one twice: neither leads back to itself, and the form and the two
    bodies have 21 atoms and pairs. -/
theorem evaluation_ends_without_recursion_twice :
    ((evaluate 21 (.ofList [.atom "twice", .atom "Y"] Expr.nil) (.bind "Y" (.atom "1") .empty)
        true).run ((Definitions.empty.add ⟨"NEXT", ["X"],
          .ofList [.atom "PLUS", .atom "X", .atom "1"] Expr.nil⟩).add ⟨"TWICE", ["X"],
          .ofList [.atom "next", .ofList [.atom "next", .atom "X"] Expr.nil] Expr.nil⟩)).result ≠
      .error .recursionDepthExceeded := by
  refine evaluation_ends_without_recursion _ ?_ _ _ _ _ (by decide +kernel)
  -- only the second function refers to anything, and that is the first one
  refine Definitions.acyclic_of_rank
    (fun name => if Symbol.key name = Symbol.key "TWICE" then 1 else 0) ?_
  rintro f g ⟨d, hd, ⟨token, htoken, hname⟩, hdefined⟩
  rw [Definitions.get?_add, Definitions.get?_add] at hd
  split at hd
  · next htwice =>
      cases hd
      have hother : ∀ token ∈ (Expr.ofList [.atom "next",
          .ofList [.atom "next", .atom "X"] Expr.nil] Expr.nil).tokens,
          Symbol.key token ≠ Symbol.key "TWICE" := by decide +kernel
      have hg : Symbol.key g ≠ Symbol.key "TWICE" := fun h =>
        hother token htoken (hname.trans h)
      rw [if_pos htwice, if_neg hg]
      exact Nat.one_pos
  · split at hd
    · cases hd
      have hnone : ∀ token ∈ (Expr.ofList [.atom "PLUS", .atom "X", .atom "1"] Expr.nil).tokens,
          Symbol.key token ≠ Symbol.key "TWICE" ∧ Symbol.key token ≠ Symbol.key "NEXT" := by
        decide +kernel
      have htwice : Symbol.key g ≠ Symbol.key "TWICE" := fun h =>
        (hnone token htoken).1 (hname.trans h)
      have hnext : Symbol.key g ≠ Symbol.key "NEXT" := fun h =>
        (hnone token htoken).2 (hname.trans h)
      rw [Definitions.contains, Definitions.get?_add, if_neg htwice, Definitions.get?_add,
        if_neg hnext] at hdefined
      cases hdefined
    · cases hd

end PairLisp
