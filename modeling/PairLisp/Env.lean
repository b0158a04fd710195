import PairLisp.Expr.Printer

/-!
# Environments

Bindings are kept in a chain of nodes, the most recent one first. Binding a name makes a new node in
front of the chain and never changes the chain, so a binding made for a call is gone when the call
returns. Names are found without regard to case: a node keeps the key of its name beside the name.

The environment without bindings is a node without a name. A chain can end in two ways, with a node
that has no outer one or with a node that has no name, and whoever goes along it stops at either. An
`Env` is a node that was made by binding names, starting with none bound. In such a chain a node
without a name stands alone (`Node.Reached.holds`).
-/

namespace PairLisp

/-- A node of a chain of bindings. -/
structure Node where
  /-- The name that is bound. A node without a name binds nothing. -/
  name : Option String
  /-- The key of the name. -/
  key : Option String
  /-- The value that the name is bound to. -/
  value : Expr
  /-- The node of the binding made before this one. -/
  outer : Option Node

namespace Node

/-- A node with the key of its name. -/
def make (name : Option String) (value : Expr) (outer : Option Node) : Node :=
  ⟨name, name.map Symbol.key, value, outer⟩

/-- A node without a name. -/
def empty : Node :=
  make none .blank none

/-- Whether a node has no name. -/
def isEmpty (node : Node) : Bool :=
  node.name.isNone

/-- Binds a name in front of a node. A node without a name is not kept. -/
def bind (node : Node) (name : String) (value : Expr) : Node :=
  make (some name) value (if node.isEmpty then none else some node)

/-- Binds names to values pairwise, in order, until one of the lists ends. Of two equal names the
    later one is found. -/
def extend (node : Node) (names : List String) (values : List Expr) : Node :=
  (names.zip values).foldl (fun node pair => node.bind pair.1 pair.2) node

mutual

/-- The bindings from a node on, most recent first. -/
def bindings : Node → List (String × Expr)
  | ⟨none, _, _, _⟩ => []
  | ⟨some name, _, value, outer⟩ => (name, value) :: outerBindings outer

/-- The bindings from an outer node on, if there is one. -/
def outerBindings : Option Node → List (String × Expr)
  | none => []
  | some node => bindings node

end

mutual

/-- The nearest node with a key, from a node on. -/
def findKey (sought : String) : Node → Option Node
  | ⟨none, _, _, _⟩ => none
  | ⟨some name, key, value, outer⟩ =>
    if key = some sought then some ⟨some name, key, value, outer⟩ else findOuterKey sought outer

/-- The nearest node with a key, from an outer node on, if there is one. -/
def findOuterKey (sought : String) : Option Node → Option Node
  | none => none
  | some node => findKey sought node

end

/-- The nearest node that binds a name. -/
def find (node : Node) (name : String) : Option Node :=
  node.findKey (Symbol.key name)

/-- Binding puts the pair in front, also where a node without a name is dropped. -/
theorem bindings_bind (node : Node) (name : String) (value : Expr) :
    (node.bind name value).bindings = (name, value) :: node.bindings := by
  obtain ⟨_ | bound, key, old, outer⟩ := node
  · simp [bind, make, isEmpty, bindings, outerBindings]
  · simp [bind, make, isEmpty, bindings, outerBindings]

/-- A new node is found by its name, and all other names are found behind it. -/
theorem find_bind (node : Node) (bound : String) (value : Expr) (name : String) :
    (node.bind bound value).find name =
      if Symbol.key bound = Symbol.key name then some (node.bind bound value)
      else node.find name := by
  obtain ⟨_ | old, key, oldValue, outer⟩ := node
  · simp [bind, make, isEmpty, find, findKey, findOuterKey]
  · simp [bind, make, isEmpty, find, findKey, findOuterKey]

/-! ## Chains that are made by binding -/

/-- A node that was made by binding names, starting with none bound. -/
inductive Reached : Node → Prop where
  | empty : Reached .empty
  | bind {node : Node} (name : String) (value : Expr) : Reached node → Reached (node.bind name value)

/-- Binding names in pairs is binding them one by one. -/
theorem Reached.extend {node : Node} (h : Reached node) (names : List String)
    (values : List Expr) : Reached (node.extend names values) := by
  rw [Node.extend]
  induction names.zip values generalizing node with
  | nil => exact h
  | cons pair pairs ih => exact ih (h.bind pair.1 pair.2)

/-- A node holds a list of bindings: each node on the way has a name, the key of that name and a
    value, and only the last one has no outer node. A node without a name stands alone, and holds
    nothing. -/
inductive Holds : Node → List (String × Expr) → Prop where
  | none : Holds ⟨none, none, .blank, none⟩ []
  | last {name : String} {value : Expr} :
      Holds ⟨some name, some (Symbol.key name), value, none⟩ [(name, value)]
  | more {name : String} {value : Expr} {outer : Node} {pair : String × Expr}
      {pairs : List (String × Expr)} : Holds outer (pair :: pairs) →
      Holds ⟨some name, some (Symbol.key name), value, some outer⟩ ((name, value) :: pair :: pairs)

/-- A chain that holds some bindings holds one more in front when a name is bound. -/
theorem Holds.bind {node : Node} {pairs : List (String × Expr)} (h : Holds node pairs)
    (name : String) (value : Expr) : Holds (node.bind name value) ((name, value) :: pairs) := by
  cases h with
  | none => exact .last
  | last => exact .more .last
  | more h => exact .more (.more h)

/-- **A node that was made by binding holds its bindings.** -/
theorem Reached.holds {node : Node} (h : Reached node) : Holds node node.bindings := by
  induction h with
  | empty => exact .none
  | bind name value _ ih =>
    rw [bindings_bind]
    exact ih.bind name value

/-- The first node has the value of the first binding. -/
theorem Holds.value_eq {node : Node} {name : String} {value : Expr} {pairs : List (String × Expr)}
    (h : Holds node ((name, value) :: pairs)) : node.value = value := by
  cases h with
  | last => rfl
  | more _ => rfl

/-- What a node holds determines it. -/
theorem Holds.unique {node other : Node} {pairs : List (String × Expr)} (h : Holds node pairs)
    (h' : Holds other pairs) : node = other := by
  induction h generalizing other with
  | none =>
    cases h'
    rfl
  | last =>
    cases h'
    rfl
  | more _ ih =>
    cases h' with
    | more h' => rw [ih h']

end Node

/-- An environment. -/
structure Env where
  /-- The node of the most recent binding. -/
  node : Node
  reached : node.Reached

namespace Env

/-- The environment without bindings. -/
def empty : Env :=
  ⟨.empty, .empty⟩

/-- Binds a name in front of an environment. -/
def bind (name : String) (value : Expr) (outer : Env) : Env :=
  ⟨outer.node.bind name value, outer.reached.bind name value⟩

/-- Binds names to values pairwise, in order, until one of the lists ends. -/
def extend (env : Env) (names : List String) (values : List Expr) : Env :=
  ⟨env.node.extend names values, env.reached.extend names values⟩

/-- Whether nothing is bound. -/
def isEmpty (env : Env) : Bool :=
  env.node.isEmpty

/-- The bindings, most recent first. -/
def bindings (env : Env) : List (String × Expr) :=
  env.node.bindings

/-- The number of bindings. -/
def length (env : Env) : Nat :=
  env.bindings.length

/-- The node of the most recent binding of a name. -/
def find? (env : Env) (name : String) : Option Node :=
  env.node.find name

/-- The value bound to a name. -/
def lookup? (env : Env) (name : String) : Option Expr :=
  (env.find? name).map Node.value

/-- Whether a name is bound. -/
def contains (env : Env) (name : String) : Bool :=
  (env.find? name).isSome

/-- The bindings between braces, each as a name and its value as it is shown. -/
def text (env : Env) : String :=
  let entries := env.bindings.map fun (name, value) => name ++ ": " ++ value.shown
  "\x7b" ++ String.intercalate ", " entries ++ "\x7d"

/-! ## Environments by their bindings -/

/-- An environment has no bindings, or it was made by binding a name. -/
@[induction_eliminator] theorem induction {motive : Env → Prop} (empty : motive .empty)
    (bind : ∀ name value outer, motive outer → motive (.bind name value outer)) (env : Env) :
    motive env := by
  obtain ⟨node, h⟩ := env
  induction h with
  | empty => exact empty
  | bind name value h ih => exact bind name value ⟨_, h⟩ ih

@[cases_eliminator] theorem cases {motive : Env → Prop} (empty : motive .empty)
    (bind : ∀ name value outer, motive (.bind name value outer)) (env : Env) : motive env :=
  induction empty (fun name value outer _ => bind name value outer) env

@[simp] theorem bindings_bind (name : String) (value : Expr) (outer : Env) :
    (bind name value outer).bindings = (name, value) :: outer.bindings :=
  outer.node.bindings_bind name value

/-- An environment is determined by its bindings. -/
theorem bindings_inj {env other : Env} (h : env.bindings = other.bindings) : env = other := by
  obtain ⟨node, hnode⟩ := env
  obtain ⟨otherNode, hother⟩ := other
  have hholds : otherNode.Holds node.bindings := by
    rw [show node.bindings = otherNode.bindings from h]
    exact hother.holds
  have hsame : node = otherNode := hnode.holds.unique hholds
  subst hsame
  rfl

instance : DecidableEq Env := fun env other =>
  decidable_of_iff (env.bindings = other.bindings) ⟨bindings_inj, congrArg bindings⟩

@[simp] theorem isEmpty_empty : empty.isEmpty = true := rfl

@[simp] theorem isEmpty_bind (name : String) (value : Expr) (outer : Env) :
    (bind name value outer).isEmpty = false := rfl

@[simp] theorem extend_nil (env : Env) (values : List Expr) : env.extend [] values = env := rfl

@[simp] theorem extend_cons (env : Env) (name : String) (names : List String) (value : Expr)
    (values : List Expr) :
    env.extend (name :: names) (value :: values) = (bind name value env).extend names values := rfl

/-- The most recent binding of a name is the one that counts. -/
theorem lookup?_bind (name : String) (value : Expr) (outer : Env) (token : String) :
    (bind name value outer).lookup? token =
      if Symbol.key name = Symbol.key token then some value else outer.lookup? token := by
  rw [lookup?, find?, bind, Node.find_bind]
  split
  · rfl
  · rfl

end Env
end PairLisp
