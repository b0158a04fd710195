import PairLisp.Event

/-!
# Actions on the table of definitions

Evaluation may add to the table of definitions, may fail, and leaves a record of what it did. An
action describes such a computation as a function of the table it starts from. A failure keeps
what was added and recorded before it.
-/

namespace PairLisp

/-- What an action comes to. -/
structure Outcome (α : Type) where
  /-- The value, or why there is none. -/
  result : Except EvalError α
  /-- The definitions afterwards. -/
  defs : Definitions
  /-- What happened on the way, in order. -/
  events : List Event
deriving DecidableEq

/-- A computation that starts from a table of definitions. -/
@[ext] structure Action (α : Type) where
  /-- What the action comes to when it starts from a table. -/
  run : Definitions → Outcome α

namespace Action

variable {α β γ : Type}

/-- The action that does nothing but return a value. -/
def ret (a : α) : Action α :=
  ⟨fun defs => ⟨.ok a, defs, []⟩⟩

/-- The action that fails. -/
def fail (cause : EvalError) : Action α :=
  ⟨fun defs => ⟨.error cause, defs, []⟩⟩

/-- A result that needs no table. -/
def ofExcept (result : Except EvalError α) : Action α :=
  ⟨fun defs => ⟨result, defs, []⟩⟩

/-- What a first outcome and the action chosen from its value come to together. -/
def follow (before : Outcome α) (f : α → Action β) : Outcome β :=
  match before.result with
  | .ok a =>
    let after := (f a).run before.defs
    ⟨after.result, after.defs, before.events ++ after.events⟩
  | .error cause => ⟨.error cause, before.defs, before.events⟩

/-- One action, and then another one that may depend on its value. -/
def andThen (m : Action α) (f : α → Action β) : Action β :=
  ⟨fun defs => follow (m.run defs) f⟩

instance : Monad Action where
  pure := ret
  bind := andThen

/-- The current table of definitions. -/
def definitions : Action Definitions :=
  ⟨fun defs => ⟨.ok defs, defs, []⟩⟩

/-- Adds a definition. -/
def add (d : Definition) : Action Unit :=
  ⟨fun defs => ⟨.ok (), defs.add d, []⟩⟩

/-- Records an event. -/
def record (event : Event) : Action Unit :=
  ⟨fun defs => ⟨.ok (), defs, [event]⟩⟩

/-- Records an event if a condition holds. -/
def recordIf (condition : Bool) (event : Event) : Action Unit :=
  if condition then record event else ret ()

/-! ## Laws of sequencing -/

/-- What follows a result starts from the table behind it. -/
theorem run_andThen_ok {m : Action α} {f : α → Action β} {defs : Definitions} {a : α}
    (h : (m.run defs).result = .ok a) :
    (andThen m f).run defs =
      ⟨((f a).run (m.run defs).defs).result, ((f a).run (m.run defs).defs).defs,
        (m.run defs).events ++ ((f a).run (m.run defs).defs).events⟩ := by
  simp [andThen, follow, h]

/-- Nothing follows an error. -/
theorem run_andThen_error {m : Action α} {f : α → Action β} {defs : Definitions}
    {cause : EvalError} (h : (m.run defs).result = .error cause) :
    (andThen m f).run defs = ⟨.error cause, (m.run defs).defs, (m.run defs).events⟩ := by
  simp [andThen, follow, h]

end Action
end PairLisp
