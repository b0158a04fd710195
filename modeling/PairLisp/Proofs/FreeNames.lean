import PairLisp.Proofs.Correspondence

/-!
# What evaluation can see of an environment

Scoping is dynamic: a called function sees the bindings of its caller, and of the caller's caller,
below its own parameters. So a name may be looked up that is written nowhere in the form, but in
the body of a function that the form comes to call. This file shows that no further names count:

* `freeNames` lists the tokens of a form, and those of the definitions in force that are no
  parameter of their definition;
* binding the parameters of a function takes environments that agree on the free names to
  environments that agree on the tokens of its body too (`lookup?_extend_congr`);
* so environments that agree on the free names cannot be told apart (`sound_onFreeNames`). Values
  are passed on, and never evaluated.

Two changes of an environment keep the lookups that count: leaving out a binding that another one
hides, and any change that keeps the bindings of each free name in their order.
-/

namespace PairLisp

namespace Env

/-! ## Lookups -/

/-- Binding the same names to the same values makes two environments agree on these names, and
    keeps what they agreed on before. -/
theorem lookup?_extend_congr {names : List String} {values : List Expr}
    (hlen : values.length = names.length) {env env' : Env} {token : String}
    (h : (∀ name ∈ names, Symbol.key name ≠ Symbol.key token) →
      env.lookup? token = env'.lookup? token) :
    (env.extend names values).lookup? token = (env'.extend names values).lookup? token := by
  induction names generalizing values env env' with
  | nil =>
      rw [List.length_eq_zero_iff.mp hlen]
      exact h fun name hname => nomatch hname
  | cons name names ih =>
      cases values with
      | nil => cases hlen
      | cons value values =>
          rw [extend_cons, extend_cons]
          refine ih (Nat.succ.inj hlen) fun hnames => ?_
          rw [lookup?_bind, lookup?_bind]
          by_cases hname : Symbol.key name = Symbol.key token
          · rw [if_pos hname, if_pos hname]
          · rw [if_neg hname, if_neg hname]
            refine h fun other hother => ?_
            rcases List.mem_cons.mp hother with rfl | hother
            · exact hname
            · exact hnames other hother

/-- Whether a binding is one of the name, in any case. -/
def spells (token : String) (binding : String × Expr) : Bool :=
  Symbol.key binding.1 == Symbol.key token

theorem spells_iff {token name : String} {value : Expr} :
    spells token (name, value) = true ↔ Symbol.key name = Symbol.key token :=
  beq_iff_eq

/-- The value of a name is that of its most recent binding. -/
theorem lookup?_eq_find? (env : Env) (token : String) :
    env.lookup? token = (env.bindings.find? (spells token)).map Prod.snd := by
  induction env with
  | empty => rfl
  | bind name value outer ih =>
      rw [lookup?_bind, bindings_bind]
      by_cases hname : Symbol.key name = Symbol.key token
      · rw [if_pos hname, List.find?_cons_of_pos (spells_iff.mpr hname)]
        rfl
      · rw [if_neg hname, List.find?_cons_of_neg (mt spells_iff.mp hname), ih]

/-! ## Changes of an environment -/

/-- The second environment is the first without a binding that a more recent one of the same name
    hides. -/
def DropsHidden (env env' : Env) : Prop :=
  ∃ before name value between hidden old after, Symbol.key hidden = Symbol.key name ∧
    env.bindings = before ++ (name, value) :: (between ++ (hidden, old) :: after) ∧
    env'.bindings = before ++ (name, value) :: (between ++ after)

/-- The two environments have the same bindings of each of the names, in the same order. The order
    between bindings of different names may be another one, and other names may be bound in any
    way. -/
def SameBindings (names : List String) (env env' : Env) : Prop :=
  ∀ name ∈ names, env.bindings.filter (spells name) = env'.bindings.filter (spells name)

theorem DropsHidden.lookup?_eq {env env' : Env} (h : DropsHidden env env') (token : String) :
    env.lookup? token = env'.lookup? token := by
  obtain ⟨before, name, value, between, hidden, old, after, hkey, henv, henv'⟩ := h
  rw [lookup?_eq_find?, lookup?_eq_find?, henv, henv', List.find?_append, List.find?_append]
  by_cases hname : Symbol.key name = Symbol.key token
  · -- the more recent binding is found before the hidden one is reached
    have hspells : spells token (name, value) = true := spells_iff.mpr hname
    rw [List.find?_cons_of_pos hspells, List.find?_cons_of_pos hspells]
  · have hspells : ¬ spells token (name, value) = true := mt spells_iff.mp hname
    have hhidden : ¬ spells token (hidden, old) = true := by rwa [spells_iff, hkey]
    rw [List.find?_cons_of_neg hspells, List.find?_cons_of_neg hspells, List.find?_append,
      List.find?_append, List.find?_cons_of_neg hhidden]

theorem SameBindings.lookup?_eq {names : List String} {env env' : Env}
    (h : SameBindings names env env') {token : String} (htoken : token ∈ names) :
    env.lookup? token = env'.lookup? token := by
  rw [lookup?_eq_find?, lookup?_eq_find?, ← List.head?_filter, ← List.head?_filter,
    h token htoken]

end Env

/-! ## Free names -/

/-- The tokens of the body that are no parameter, in any case. -/
def Definition.freeNames (d : Definition) : List String :=
  d.body.tokens.filter fun token => d.formals.all fun formal => Symbol.key formal ≠ Symbol.key token

/-- The free names of a function are those in its body that are no parameters. -/
theorem Definition.mem_freeNames {d : Definition} {token : String} :
    token ∈ d.freeNames ↔ token ∈ d.body.tokens ∧
      ∀ formal ∈ d.formals, Symbol.key formal ≠ Symbol.key token := by
  simp [freeNames]

namespace Eval

/-- The tokens that evaluating a form may look up: its own, and those that are free in the body of
    a definition in force. -/
def freeNames (defs : Definitions) (e : Expr) : List String :=
  e.tokens ++ defs.current.flatMap fun entry => entry.2.freeNames

/-- The free names of a form are its own tokens and those of the functions in force. -/
theorem mem_freeNames {defs : Definitions} {e : Expr} {token : String} :
    token ∈ freeNames defs e ↔
      token ∈ e.tokens ∨ ∃ entry ∈ defs.current, token ∈ entry.2.freeNames := by
  rw [freeNames, List.mem_append, List.mem_flatMap]

/-- The free names of a part are free names of the whole. -/
theorem freeNames_subset_of_part {defs : Definitions} {part e : Expr} (h : part.Part e) :
    freeNames defs part ⊆ freeNames defs e := by
  intro token htoken
  rcases mem_freeNames.mp htoken with hform | hbody
  · exact mem_freeNames.mpr (.inl (h.tokens_subset hform))
  · exact mem_freeNames.mpr (.inr hbody)

theorem mem_current_of_get? {defs : Definitions} {name : String} {d : Definition}
    (h : defs.get? name = some d) : (Symbol.key name, d) ∈ defs.current := by
  obtain ⟨before, after, hcurrent, _⟩ := List.lookup_eq_some_iff.mp h
  rw [hcurrent]
  exact List.mem_append_right before List.mem_cons_self

/-- A free name of a body in force is one of its parameters or a free name of every form. -/
theorem mem_freeNames_of_body {defs : Definitions} {name : String} {d : Definition}
    (h : defs.get? name = some d) {token : String} (htoken : token ∈ freeNames defs d.body)
    (hfree : ∀ formal ∈ d.formals, Symbol.key formal ≠ Symbol.key token) (e : Expr) :
    token ∈ freeNames defs e := by
  rcases mem_freeNames.mp htoken with hbody | hother
  · exact mem_freeNames.mpr (.inr ⟨_, mem_current_of_get? h,
      Definition.mem_freeNames.mpr ⟨hbody, hfree⟩⟩)
  · exact mem_freeNames.mpr (.inr hother)

/-! ## The comparison -/

/-- The same form in two environments that agree on its free names. -/
def onFreeNames (defs : Definitions) : Matching where
  excused _ := False
  errors := Eq
  values := Eq
  forms e env e' env' :=
    e = e' ∧ ∀ token ∈ freeNames defs e, env.lookup? token = env'.lookup? token

/-- The value of an atom depends on what the environment has for it, and on nothing else. -/
theorem atom_congr {token : String} {env env' : Env}
    (h : env.lookup? token = env'.lookup? token) : atom token env = atom token env' := by
  rw [atom, atom, h]

/-- The checks on a form look into the environment for atoms only. -/
theorem shape_congr {defs : Definitions} {e : Expr} {env env' : Env}
    (h : ∀ token ∈ e.tokens, env.lookup? token = env'.lookup? token) :
    shape defs e env = shape defs e env' := by
  match e with
  | .atom token => rw [shape, shape, atom_congr (h token (by simp [Expr.tokens]))]
  | .blank => rfl
  | .pair .blank tail => rfl
  | .pair (.pair first rest) tail => rfl
  | .pair (.atom name) tail => rfl

/-- **Agreement on the free names goes down with evaluation**: to the parts of a form, whose free
    names are among its own, and to the body of a function, whose parameters are bound alike. -/
theorem sound_onFreeNames (defs : Definitions) : (onFreeNames defs).Sound defs defs where
  isTrue h := congrArg Expr.isTrue h
  noMatchingClause := rfl
  shapes := by
    rintro e env _ env' ⟨rfl, hagree⟩
    have hshape : shape defs e env = shape defs e env' :=
      shape_congr fun token htoken => hagree token (mem_freeNames.mpr (.inl htoken))
    rw [← hshape]
    refine Matching.shapes_same rfl rfl ?_ ?_
    · intro part hpart
      obtain ⟨head, tail, rfl, htail⟩ := part_of_mem_parts hpart
      exact ⟨rfl, fun token htoken => hagree token (freeNames_subset_of_part (.rest htail) htoken)⟩
    · intro d items hcall args hlen
      obtain ⟨name, hd⟩ := get?_of_shape_call hcall
      refine ⟨rfl, fun token htoken => Env.lookup?_extend_congr hlen fun hfree => ?_⟩
      exact hagree token (mem_freeNames_of_body hd htoken hfree e)

end Eval

open Eval

/-- Environments that agree on the free names of a form cannot be told apart by evaluating it. -/
theorem agrees_of_freeNames {defs : Definitions} {e : Expr} {env env' : Env}
    (h : ∀ token ∈ freeNames defs e, env.lookup? token = env'.lookup? token) (depth : Nat)
    (top : Bool) :
    ((evaluate depth e env top).run defs).Agrees ((evaluate depth e env' top).run defs) := by
  refine agrees_evaluate Iff.rfl (fun _ => ?_) top
  have hanswers : (onFreeNames defs).Answers Eq (answer defs depth e env)
      (answer defs depth e env') :=
    Matching.answers_answer (sound_onFreeNames defs) (.inl ⟨rfl, rfl⟩) ⟨rfl, h⟩
  exact Matching.Answers.eq_of_not_excused rfl hanswers fun _ _ => id

/-- **The environment matters only through the free names of a form.** Two environments in which
    each free name has the same value, or none in both, give the same result and the same table.
    So it makes no difference to leave out a binding that another one hides; nor does anything
    count but the bindings of each free name in their order, so that bindings of different names
    can be exchanged, and other names bound or left out. -/
theorem only_free_names_matter (depth : Nat) (e : Expr) (defs : Definitions) (top : Bool)
    (env env' : Env) :
    ((∀ token ∈ freeNames defs e, env.lookup? token = env'.lookup? token) →
      ((evaluate depth e env top).run defs).Agrees ((evaluate depth e env' top).run defs)) ∧
    (env.DropsHidden env' →
      ((evaluate depth e env top).run defs).Agrees ((evaluate depth e env' top).run defs)) ∧
    (Env.SameBindings (freeNames defs e) env env' →
      ((evaluate depth e env top).run defs).Agrees ((evaluate depth e env' top).run defs)) := by
  refine ⟨fun h => agrees_of_freeNames h depth top, ?_, ?_⟩
  · intro hdrops
    exact agrees_of_freeNames (fun token _ => hdrops.lookup?_eq token) depth top
  · intro hsame
    exact agrees_of_freeNames (fun token htoken => hsame.lookup?_eq htoken) depth top

/-- A function that adds a variable of its caller: the caller's `y` counts, in any case, and its
    `X` does not. -/
theorem only_free_names_matter_to_callee :
    ((evaluate 5 (.ofList [.atom "f", .atom "1"] Expr.nil)
          (.bind "y" (.atom "2") (.bind "X" (.atom "9") .empty)) true).run
        (Definitions.empty.add ⟨"F", ["X"],
          .ofList [.atom "PLUS", .atom "X", .atom "Y"] Expr.nil⟩)).Agrees
      ((evaluate 5 (.ofList [.atom "f", .atom "1"] Expr.nil)
          (.bind "Z" (.atom "7") (.bind "Y" (.atom "2") .empty)) true).run
        (Definitions.empty.add ⟨"F", ["X"],
          .ofList [.atom "PLUS", .atom "X", .atom "Y"] Expr.nil⟩)) ∧
    ((evaluate 5 (.ofList [.atom "f", .atom "1"] Expr.nil)
        (.bind "Z" (.atom "7") (.bind "Y" (.atom "2") .empty)) true).run
      (Definitions.empty.add ⟨"F", ["X"],
        .ofList [.atom "PLUS", .atom "X", .atom "Y"] Expr.nil⟩)).result = .ok (.atom "3") :=
  ⟨(only_free_names_matter 5 _ _ true _ _).1 (by decide +kernel), by decide +kernel⟩

end PairLisp
