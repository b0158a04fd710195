import Mathlib.Data.List.Forall2
import PairLisp.Proofs.Calls

/-!
# Environments as lists of bindings

An environment is a chain that grows at its front, by one binding, by names and values in pairs, or
by the parameters of a function and their arguments. Several environments may grow from the same one.
This file shows that each of them stands for the list of the pairs bound on the way to it, the most
recent one first, and that every question about an environment is answered by that list:

* `FirstNamed` says which item of a list is the first with a name of some key, and what stands before
  and behind it;
* what is found for a name is the part of the chain that begins with the first pair of that name
  (`find?_eq_some_iff`), from which the value follows (`lookup?_eq_some_iff`);
* growing an environment grows its list (`bindings_grow`), so by induction over any sequence of
  steps the environments made stand for the lists made (`growAll_map`).
-/

namespace PairLisp

/-! ## The first item of a name -/

section Named

variable {α : Type} {nameOf : α → String} {key : String}

/-- No item has a name of the key. -/
def NoneNamed (nameOf : α → String) (key : String) (items : List α) : Prop :=
  ∀ item ∈ items, Symbol.key (nameOf item) ≠ key

theorem noneNamed_nil (nameOf : α → String) (key : String) : NoneNamed nameOf key [] := by
  intro item hitem
  cases hitem

/-- None of the items has a name if the first one has another name and none of the rest has it. -/
theorem noneNamed_cons_iff {x : α} {items : List α} :
    NoneNamed nameOf key (x :: items) ↔
      Symbol.key (nameOf x) ≠ key ∧ NoneNamed nameOf key items :=
  List.forall_mem_cons

/-- If not none of the items has a name, one of them has it. -/
theorem not_noneNamed_iff {items : List α} :
    ¬ NoneNamed nameOf key items ↔ ∃ item ∈ items, Symbol.key (nameOf item) = key := by
  simp only [NoneNamed, ne_eq, not_forall, not_not, exists_prop]

/-- The first item with a name of the key, the items before it and those behind it. -/
structure FirstNamed (nameOf : α → String) (key : String) (items before : List α) (item : α)
    (behind : List α) : Prop where
  items_eq : items = before ++ item :: behind
  spells : Symbol.key (nameOf item) = key
  first : NoneNamed nameOf key before

/-- An item with the name is the first one if it stands in front. -/
theorem firstNamed_head (nameOf : α → String) {key : String} (x : α)
    (h : Symbol.key (nameOf x) = key) (items : List α) :
    FirstNamed nameOf key (x :: items) [] x items :=
  ⟨rfl, h, noneNamed_nil nameOf key⟩

/-- The first item with a name stays so behind an item with another name. -/
theorem FirstNamed.cons {items before behind : List α} {item : α}
    (h : FirstNamed nameOf key items before item behind) (x : α)
    (hx : Symbol.key (nameOf x) ≠ key) :
    FirstNamed nameOf key (x :: items) (x :: before) item behind :=
  ⟨congrArg (x :: ·) h.items_eq, h.spells, noneNamed_cons_iff.mpr ⟨hx, h.first⟩⟩

/-- The first item is the head of a list, or it is the first one behind it. -/
theorem FirstNamed.of_cons {items before behind : List α} {item x : α}
    (h : FirstNamed nameOf key (x :: items) before item behind) :
    (item = x ∧ behind = items ∧ Symbol.key (nameOf x) = key) ∨
      ∃ between, FirstNamed nameOf key items between item behind ∧
        Symbol.key (nameOf x) ≠ key := by
  obtain ⟨hitems, hspells, hfirst⟩ := h
  cases before with
  | nil =>
      cases hitems
      exact .inl ⟨rfl, rfl, hspells⟩
  | cons y between =>
      cases hitems
      obtain ⟨hx, hbetween⟩ := noneNamed_cons_iff.mp hfirst
      exact .inr ⟨between, ⟨rfl, hspells, hbetween⟩, hx⟩

/-- A list has no item of a key exactly if it has no first one. -/
theorem noneNamed_iff {items : List α} :
    NoneNamed nameOf key items ↔
      ∀ before item behind, ¬ FirstNamed nameOf key items before item behind := by
  constructor
  · rintro h before item behind ⟨rfl, hspells, -⟩
    exact h item (List.mem_append_right before List.mem_cons_self) hspells
  · intro h
    induction items with
    | nil => exact noneNamed_nil nameOf key
    | cons x items ih =>
        have hx : Symbol.key (nameOf x) ≠ key :=
          fun heq => h [] x items (firstNamed_head nameOf x heq items)
        refine noneNamed_cons_iff.mpr ⟨hx, ih ?_⟩
        intro before item behind hfirst
        exact h (x :: before) item behind (hfirst.cons x hx)

theorem not_firstNamed_nil (before : List α) (item : α) (behind : List α) :
    ¬ FirstNamed nameOf key [] before item behind :=
  noneNamed_iff.mp (noneNamed_nil nameOf key) before item behind

/-- There is at most one first item. -/
theorem FirstNamed.unique {items before before' behind behind' : List α} {item item' : α}
    (h : FirstNamed nameOf key items before item behind)
    (h' : FirstNamed nameOf key items before' item' behind') : item = item' ∧ behind = behind' := by
  induction items generalizing before before' with
  | nil => exact absurd h (not_firstNamed_nil before item behind)
  | cons x items ih =>
      rcases h.of_cons with ⟨rfl, rfl, heq⟩ | ⟨between, hbetween, hne⟩
      · rcases h'.of_cons with ⟨rfl, rfl, -⟩ | ⟨-, -, hne⟩
        · exact ⟨rfl, rfl⟩
        · exact absurd heq hne
      · rcases h'.of_cons with ⟨-, -, heq⟩ | ⟨between', hbetween', -⟩
        · exact absurd heq hne
        · exact ih hbetween hbetween'

end Named

namespace Env

/-! ## Questions -/

/-- The innermost binding is found if it has the name, and otherwise the search goes on behind it.
    -/
theorem find?_bind (bound : String) (value : Expr) (outer : Env) (name : String) :
    (bind bound value outer).find? name =
      if Symbol.key bound = Symbol.key name then some (bind bound value outer).node
      else outer.find? name :=
  outer.node.find_bind bound value name

/-- **What is found for a name is the part of the chain that begins with its first pair.** By
    induction on the bindings: each of them is the node found, or the search goes on behind it. -/
theorem find?_eq_some_iff {env : Env} {node : Node} {name : String} :
    env.find? name = some node ↔ ∃ before pair behind,
      FirstNamed Prod.fst (Symbol.key name) env.bindings before pair behind ∧
        node.Holds (pair :: behind) := by
  induction env with
  | empty =>
      constructor
      · intro h
        cases h
      · rintro ⟨before, pair, behind, hfirst, -⟩
        exact absurd hfirst (not_firstNamed_nil before pair behind)
  | bind bound value outer ih =>
      have hholds : (bind bound value outer).node.Holds ((bound, value) :: outer.bindings) :=
        outer.reached.holds.bind bound value
      rw [find?_bind, bindings_bind]
      by_cases hname : Symbol.key bound = Symbol.key name
      · rw [if_pos hname]
        constructor
        · intro h
          cases h
          exact ⟨[], _, _, firstNamed_head Prod.fst (bound, value) hname outer.bindings, hholds⟩
        · rintro ⟨before, pair, behind, hfirst, hnode⟩
          -- a node is known by what it holds, so the one found can be no other than this
          rcases hfirst.of_cons with ⟨rfl, rfl, -⟩ | ⟨between, -, hne⟩
          · rw [hholds.unique hnode]
          · exact absurd hname hne
      · rw [if_neg hname, ih]
        constructor
        · rintro ⟨before, pair, behind, hfirst, hnode⟩
          exact ⟨(bound, value) :: before, pair, behind, hfirst.cons (bound, value) hname, hnode⟩
        · rintro ⟨before, pair, behind, hfirst, hnode⟩
          rcases hfirst.of_cons with ⟨-, -, heq⟩ | ⟨between, hbetween, -⟩
          · exact absurd heq hname
          · exact ⟨between, pair, behind, hbetween, hnode⟩

/-- No binding is found just if none has the name. -/
theorem find?_eq_none_iff {env : Env} {name : String} :
    env.find? name = none ↔ NoneNamed Prod.fst (Symbol.key name) env.bindings := by
  induction env with
  | empty => exact ⟨fun _ => noneNamed_nil Prod.fst (Symbol.key name), fun _ => rfl⟩
  | bind bound value outer ih =>
      rw [find?_bind, bindings_bind, noneNamed_cons_iff]
      by_cases hname : Symbol.key bound = Symbol.key name
      · rw [if_pos hname]
        constructor
        · intro h
          cases h
        · rintro ⟨hne, -⟩
          exact absurd hname hne
      · rw [if_neg hname, ih]
        exact (and_iff_right hname).symm

/-- The value of a name is that of its first pair. -/
theorem lookup?_eq_some_iff {env : Env} {name : String} {value : Expr} :
    env.lookup? name = some value ↔ ∃ before bound behind,
      FirstNamed Prod.fst (Symbol.key name) env.bindings before (bound, value) behind := by
  rw [lookup?, Option.map_eq_some_iff]
  constructor
  · rintro ⟨node, hnode, rfl⟩
    obtain ⟨before, ⟨bound, found⟩, behind, hfirst, hholds⟩ := find?_eq_some_iff.mp hnode
    rw [hholds.value_eq]
    exact ⟨before, bound, behind, hfirst⟩
  · rintro ⟨before, bound, behind, hfirst⟩
    cases hfind : env.find? name with
    | none =>
        have hnone := noneNamed_iff.mp (find?_eq_none_iff.mp hfind)
        exact absurd hfirst (hnone before (bound, value) behind)
    | some node =>
        obtain ⟨before', pair, behind', hfirst', hholds⟩ := find?_eq_some_iff.mp hfind
        obtain ⟨rfl, -⟩ := hfirst.unique hfirst'
        exact ⟨node, rfl, hholds.value_eq⟩

/-- A name has no value just if no binding has the name. -/
theorem lookup?_eq_none_iff {env : Env} {name : String} :
    env.lookup? name = none ↔ NoneNamed Prod.fst (Symbol.key name) env.bindings := by
  rw [noneNamed_iff, Option.eq_none_iff_forall_ne_some]
  constructor
  · rintro h before ⟨bound, value⟩ behind hfirst
    exact h value (lookup?_eq_some_iff.mpr ⟨before, bound, behind, hfirst⟩)
  · intro h value hvalue
    obtain ⟨before, bound, behind, hfirst⟩ := lookup?_eq_some_iff.mp hvalue
    exact h before (bound, value) behind hfirst

/-- A name is contained just if some binding has it. -/
theorem contains_iff {env : Env} {name : String} :
    env.contains name = true ↔ ∃ pair ∈ env.bindings, Symbol.key pair.1 = Symbol.key name := by
  rw [contains, Option.isSome_iff_ne_none, ne_eq, find?_eq_none_iff, not_noneNamed_iff]

/-- An identifier that is no constant is not bound exactly if the list has no pair of its name. -/
theorem atom_eq_unbound_iff {env : Env} {token : String} (hid : Symbol.isIdentifier token = true)
    (htruth : Symbol.key token ≠ "T") (hnil : Symbol.key token ≠ "NIL") :
    Eval.atom token env = .error (.unboundIdentifier token) ↔
      NoneNamed Prod.fst (Symbol.key token) env.bindings := by
  rw [← lookup?_eq_none_iff]
  constructor
  · intro h
    cases hvalue : env.lookup? token with
    | none => rfl
    | some value =>
        rw [Eval.atom_of_lookup? hid htruth hnil hvalue] at h
        cases h
  · intro h
    simp [Eval.atom, Symbol.isNumeral_of_isIdentifier hid, Symbol.isTrue, Symbol.isNil, htruth,
      hnil, hid, h]

/-! ## Growth -/

/-- A way to get an environment from another one. -/
inductive Growth where
  /-- One binding in front. -/
  | bind (name : String) (value : Expr)
  /-- Names and values in pairs, as far as both go. -/
  | extend (names : List String) (values : List Expr)
  /-- The parameters of a function and the arguments of a call. -/
  | call (d : Definition) (args : List Expr)

/-- The environment that another one grows to. -/
def grow (env : Env) : Growth → Except EvalError Env
  | .bind name value => .ok (.bind name value env)
  | .extend names values => .ok (env.extend names values)
  | .call d args => d.bindArguments args env

/-- The list that a list of pairs grows to: what is bound last comes first. A call needs as many
    arguments as there are parameters. -/
def Growth.onPairs (pairs : List (String × Expr)) : Growth → Except EvalError (List (String × Expr))
  | .bind name value => .ok ((name, value) :: pairs)
  | .extend names values => .ok ((names.zip values).reverse ++ pairs)
  | .call d args =>
    if args.length = d.formals.length then .ok ((d.formals.zip args).reverse ++ pairs)
    else .error (.arityMismatch d.name d.formals.length args.length)

/-- Bindings of parameters come in front, the last parameter first. -/
theorem bindings_extend (env : Env) (names : List String) (values : List Expr) :
    (env.extend names values).bindings = (names.zip values).reverse ++ env.bindings := by
  induction names generalizing env values with
  | nil => rfl
  | cons name names ih =>
      cases values with
      | nil => rfl
      | cons value values =>
          rw [extend_cons, ih, bindings_bind, List.zip_cons_cons, List.reverse_cons,
            List.append_assoc]
          rfl

/-- **An environment grows as its list does**, and fails to grow as its list does. -/
theorem bindings_grow (env : Env) (growth : Growth) :
    (env.grow growth).map bindings = growth.onPairs env.bindings := by
  cases growth with
  | bind name value => exact congrArg Except.ok (bindings_bind name value env)
  | extend names values => exact congrArg Except.ok (bindings_extend env names values)
  | call d args =>
      rw [grow, Growth.onPairs, Definition.bindArguments, Definition.arity]
      by_cases hlen : args.length = d.formals.length
      · rw [if_pos hlen, if_pos hlen]
        exact congrArg Except.ok (bindings_extend env d.formals args)
      · rw [if_neg hlen, if_neg hlen]
        rfl

/-- What a step adds to the things there are. The step names by its place the one that it starts
    from, and if that cannot grow, nothing is added. -/
def grown {α : Type} (grow : α → Growth → Except EvalError α) (made : List α)
    (step : Nat × Growth) : Option α :=
  made[step.1]?.bind fun a => (grow a step.2).toOption

/-- Takes steps one after the other. What there is stays as it is. -/
def growAll {α : Type} (grow : α → Growth → Except EvalError α) (made : List α) :
    List (Nat × Growth) → List α
  | [] => made
  | step :: steps => growAll grow (made ++ (grown grow made step).toList) steps

section Views

variable {α β : Type} {grow : α → Growth → Except EvalError α}
  {grow' : β → Growth → Except EvalError β} {view : α → β}
  (h : ∀ a growth, (grow a growth).map view = grow' (view a) growth)
include h

theorem grown_map (made : List α) (step : Nat × Growth) :
    grown grow' (made.map view) step = (grown grow made step).map view := by
  rw [grown, grown, List.getElem?_map]
  cases made[step.1]? with
  | none => rfl
  | some a =>
      show (grow' (view a) step.2).toOption = (grow a step.2).toOption.map view
      rw [← h]
      cases grow a step.2 <;> rfl

/-- Where each step commutes with a view, any number of steps does. -/
theorem growAll_map (made : List α) (steps : List (Nat × Growth)) :
    growAll grow' (made.map view) steps = (growAll grow made steps).map view := by
  induction steps generalizing made with
  | nil => rfl
  | cons step steps ih =>
      rw [growAll, growAll, ← ih, List.map_append, ← Option.toList_map, grown_map h]

end Views

/-! ## Environments and lists -/

/-- An environment stands for a list of pairs: its nodes hold them, with the key of each name and no
    node without a name among them. The list answers every question about the environment, and says
    what it can grow to. -/
structure Denotes (env : Env) (pairs : List (String × Expr)) : Prop where
  holds : env.node.Holds pairs
  bindings_eq : env.bindings = pairs
  length_eq : env.length = pairs.length
  isEmpty_iff : env.isEmpty = true ↔ pairs = []
  find?_iff (name : String) (node : Node) :
    env.find? name = some node ↔ ∃ before pair behind,
      FirstNamed Prod.fst (Symbol.key name) pairs before pair behind ∧ node.Holds (pair :: behind)
  lookup?_iff (name : String) (value : Expr) :
    env.lookup? name = some value ↔ ∃ before bound behind,
      FirstNamed Prod.fst (Symbol.key name) pairs before (bound, value) behind
  contains_iff (name : String) :
    env.contains name = true ↔ ∃ pair ∈ pairs, Symbol.key pair.1 = Symbol.key name
  missing_iff (name : String) :
    (env.find? name = none ↔ NoneNamed Prod.fst (Symbol.key name) pairs) ∧
      (env.lookup? name = none ↔ NoneNamed Prod.fst (Symbol.key name) pairs)
  unbound_iff {token : String} (hid : Symbol.isIdentifier token = true)
    (htruth : Symbol.key token ≠ "T") (hnil : Symbol.key token ≠ "NIL") :
    Eval.atom token env = .error (.unboundIdentifier token) ↔ NoneNamed Prod.fst (Symbol.key token) pairs
  length_extend (names : List String) (values : List Expr) :
    (env.extend names values).length = pairs.length + min names.length values.length
  bindArguments_error_iff (d : Definition) (args : List Expr) (cause : EvalError) :
    d.bindArguments args env = .error cause ↔
      args.length ≠ d.formals.length ∧
        cause = .arityMismatch d.name d.formals.length args.length

/-- **An environment denotes the list of its bindings.** -/
theorem denotes_bindings (env : Env) : env.Denotes env.bindings where
  holds := env.reached.holds
  bindings_eq := rfl
  length_eq := rfl
  isEmpty_iff := by
    cases env with
    | empty => exact ⟨fun _ => rfl, fun _ => rfl⟩
    | bind name value outer => simp
  find?_iff name node := find?_eq_some_iff
  lookup?_iff name value := lookup?_eq_some_iff
  contains_iff name := contains_iff
  missing_iff name := ⟨find?_eq_none_iff, lookup?_eq_none_iff⟩
  unbound_iff := atom_eq_unbound_iff
  length_extend names values := by
    rw [length, bindings_extend, List.length_append, List.length_reverse,
      List.length_zip, Nat.add_comm]
  bindArguments_error_iff d args cause := by
    rw [Definition.bindArguments, Definition.arity]
    by_cases hlen : args.length = d.formals.length
    · rw [if_pos hlen]
      constructor
      · intro h
        cases h
      · rintro ⟨hne, -⟩
        exact absurd hlen hne
    · rw [if_neg hlen, Except.error.injEq, eq_comm]
      exact (and_iff_right hlen).symm

/-- **Environments are lists of bindings.** Let environments grow from the empty one and from each
    other in any way, by single bindings, by names and values in pairs and by calls. Each of them
    stands for the list of the pairs bound on the way to it, the most recent one first. -/
theorem environments_are_binding_lists (steps : List (Nat × Growth)) :
    List.Forall₂ Denotes (growAll grow [.empty] steps) (growAll Growth.onPairs [[]] steps) := by
  have hlists : growAll Growth.onPairs [[]] steps = (growAll grow [.empty] steps).map bindings :=
    growAll_map bindings_grow [.empty] steps
  rw [hlists, List.forall₂_map_right_iff, List.forall₂_same]
  intro env _
  exact denotes_bindings env

end Env
end PairLisp
