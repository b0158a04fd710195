import PairLisp.Definition

/-!
# The table of definitions

A later definition of a name takes the place of an earlier one, but nothing is forgotten: beside
the definitions in force the table keeps everything ever added. Names are found without regard to
case.
-/

namespace PairLisp

/-- The definitions made so far. -/
structure Definitions where
  /-- The definition in force under each key. -/
  current : List (String × Definition)
  /-- Everything ever added, most recent first. -/
  history : List Definition
deriving DecidableEq

namespace Definitions

/-- No definitions. -/
def empty : Definitions := ⟨[], []⟩

/-- Adds a definition, which is in force from then on. -/
def add (defs : Definitions) (d : Definition) : Definitions :=
  let key := Symbol.key d.name
  ⟨(key, d) :: defs.current.filter (fun entry => entry.1 ≠ key), d :: defs.history⟩

/-- The definition in force for a name. -/
def get? (defs : Definitions) (name : String) : Option Definition :=
  defs.current.lookup (Symbol.key name)

/-- Whether a name is defined. -/
def contains (defs : Definitions) (name : String) : Bool :=
  (defs.get? name).isSome

/-- The number of definitions ever added. -/
def length (defs : Definitions) : Nat :=
  defs.history.length

/-! ## What adding does -/

/-- Dropping the entries of one key leaves those of the others. -/
theorem lookup_filter_ne {key other : String} (h : other ≠ key)
    (entries : List (String × Definition)) :
    (entries.filter fun entry => entry.1 ≠ key).lookup other = entries.lookup other := by
  induction entries with
  | nil => rfl
  | cons entry entries ih =>
    by_cases hk : entry.1 = key
    · have hne : (other == entry.1) = false := by simp [hk, h]
      rw [List.filter_cons_of_neg (by simp [hk]), ih, List.lookup_cons, hne]
    · rw [List.filter_cons_of_pos (by simp [hk]), List.lookup_cons, List.lookup_cons, ih]

/-- A definition added is found under every spelling of its name; other names are not affected. -/
theorem get?_add (defs : Definitions) (d : Definition) (name : String) :
    (defs.add d).get? name =
      if Symbol.key name = Symbol.key d.name then some d else defs.get? name := by
  unfold get? add
  by_cases h : Symbol.key name = Symbol.key d.name
  · simp [h]
  · have hne : (Symbol.key name == Symbol.key d.name) = false := by simp [h]
    rw [List.lookup_cons, hne, if_neg h]
    exact lookup_filter_ne h _

@[simp] theorem history_add (defs : Definitions) (d : Definition) :
    (defs.add d).history = d :: defs.history := rfl

end Definitions
end PairLisp
