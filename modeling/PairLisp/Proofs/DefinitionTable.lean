import PairLisp.Proofs.Bindings
import PairLisp.Proofs.FreeNames

/-!
# The table of definitions as its history

The table keeps two things: what is in force under each key, and everything ever added. Each addition
changes both, and different questions are answered from one or the other. This file shows that the two
never come apart, whatever is added, under whatever names:

* `Consistent` says that the definitions in force are those of the history that no later one of the
  same name hides, one for each key;
* adding a definition keeps a table consistent (`Consistent.add`), so by induction all tables are
  (`consistent_addAll`);
* in a consistent table, looking up a name finds the latest definition of that name in the history
  (`Consistent.get?_eq_some_iff`).
-/

namespace PairLisp

namespace Definitions

/-- What is in force agrees with the history: there is one entry for each key, and the entries are the
    latest definitions of the keys. -/
structure Consistent (defs : Definitions) : Prop where
  nodup : (defs.current.map Prod.fst).Nodup
  mem_current_iff (key : String) (d : Definition) :
    (key, d) ∈ defs.current ↔
      ∃ before behind, FirstNamed Definition.name key defs.history before d behind

theorem consistent_empty : empty.Consistent where
  nodup := List.nodup_nil
  mem_current_iff key d := by
    constructor
    · intro h
      cases h
    · rintro ⟨before, behind, hfirst⟩
      exact absurd hfirst (not_firstNamed_nil before d behind)

/-- The entries of a table after an addition. -/
theorem mem_current_add {defs : Definitions} {d : Definition} {entry : String × Definition} :
    entry ∈ (defs.add d).current ↔
      entry = (Symbol.key d.name, d) ∨ entry ∈ defs.current ∧ entry.1 ≠ Symbol.key d.name := by
  rw [add, List.mem_cons, List.mem_filter, decide_eq_true_iff]

/-- **An addition keeps a table consistent.** The definition added is the latest of its key, and it
    hides those that have the same key and no others. -/
theorem Consistent.add {defs : Definitions} (h : defs.Consistent) (d : Definition) :
    (defs.add d).Consistent where
  nodup := by
    rw [Definitions.add, List.map_cons, List.nodup_cons]
    refine ⟨?_, h.nodup.sublist (List.filter_sublist.map Prod.fst)⟩
    intro hkey
    obtain ⟨entry, hentry, heq⟩ := List.mem_map.mp hkey
    exact absurd heq (of_decide_eq_true (List.mem_filter.mp hentry).2)
  mem_current_iff key found := by
    -- the entries that the addition removes are those whose definition it hides in the history
    rw [mem_current_add, history_add]
    constructor
    · rintro (heq | ⟨hmem, hne⟩)
      · cases heq
        exact ⟨[], defs.history, firstNamed_head Definition.name d rfl defs.history⟩
      · obtain ⟨before, behind, hfirst⟩ := (h.mem_current_iff key found).mp hmem
        exact ⟨d :: before, behind, hfirst.cons d hne.symm⟩
    · rintro ⟨before, behind, hfirst⟩
      rcases hfirst.of_cons with ⟨rfl, -, rfl⟩ | ⟨between, hbetween, hne⟩
      · exact .inl rfl
      · exact .inr ⟨(h.mem_current_iff key found).mpr ⟨between, behind, hbetween⟩, hne.symm⟩

/-- Adding definitions keeps a table consistent. -/
theorem consistent_addAll {defs : Definitions} (h : defs.Consistent) (added : List Definition) :
    (defs.addAll added).Consistent := by
  induction added generalizing defs with
  | nil => exact h
  | cons d added ih => exact ih (h.add d)

/-! ## Looking up names -/

/-- Where each key has one entry, an entry is found under its key. -/
theorem lookup_of_mem {entries : List (String × Definition)}
    (hnodup : (entries.map Prod.fst).Nodup) {key : String} {d : Definition}
    (h : (key, d) ∈ entries) : entries.lookup key = some d := by
  induction entries with
  | nil => cases h
  | cons entry entries ih =>
      obtain ⟨hnew, hnodup⟩ := List.nodup_cons.mp hnodup
      rcases List.mem_cons.mp h with rfl | h
      · exact List.lookup_cons_self
      · have hne : key ≠ entry.1 := by
          rintro rfl
          exact hnew (List.mem_map.mpr ⟨(entry.1, d), h, rfl⟩)
        rw [List.lookup_cons, beq_eq_false_iff_ne.mpr hne]
        exact ih hnodup h

/-- **The definition in force for a name is the latest of that name in the history.** -/
theorem Consistent.get?_eq_some_iff {defs : Definitions} (h : defs.Consistent) {name : String}
    {d : Definition} :
    defs.get? name = some d ↔
      ∃ before behind,
        FirstNamed Definition.name (Symbol.key name) defs.history before d behind := by
  rw [← h.mem_current_iff]
  exact ⟨Eval.mem_current_of_get?, lookup_of_mem h.nodup⟩

/-- A consistent table contains the names of its history, and no others. -/
theorem Consistent.contains_iff {defs : Definitions} (h : defs.Consistent) {name : String} :
    defs.contains name = true ↔ ∃ d ∈ defs.history, Symbol.key d.name = Symbol.key name := by
  rw [← not_noneNamed_iff, noneNamed_iff, contains, Option.isSome_iff_exists]
  constructor
  · rintro ⟨d, hget⟩ hnone
    obtain ⟨before, behind, hfirst⟩ := h.get?_eq_some_iff.mp hget
    exact hnone before d behind hfirst
  · intro hsome
    simp only [not_forall, not_not] at hsome
    obtain ⟨before, d, behind, hfirst⟩ := hsome
    exact ⟨d, h.get?_eq_some_iff.mpr ⟨before, behind, hfirst⟩⟩

/-- **The two halves of the table stay consistent.** After any additions, under any names, the history
    is what was added, the latest one first, and its length counts the additions; what is in force is
    the latest definition of each key, so a name finds the first definition in the history that has
    its key, and is defined exactly if there is one. -/
theorem table_agrees_with_history (added : List Definition) :
    (empty.addAll added).history = added.reverse ∧
      (empty.addAll added).length = added.length ∧
      (empty.addAll added).Consistent ∧
      ∀ name,
        (∀ d, (empty.addAll added).get? name = some d ↔ ∃ before behind,
          FirstNamed Definition.name (Symbol.key name) (empty.addAll added).history before d
            behind) ∧
        ((empty.addAll added).contains name = true ↔
          ∃ d ∈ (empty.addAll added).history, Symbol.key d.name = Symbol.key name) := by
  have hhistory : (empty.addAll added).history = added.reverse := by
    rw [history_addAll]
    exact List.append_nil added.reverse
  have hconsistent := consistent_addAll consistent_empty added
  refine ⟨hhistory, ?_, hconsistent, ?_⟩
  · rw [length, hhistory, List.length_reverse]
  · intro name
    exact ⟨fun d => hconsistent.get?_eq_some_iff, hconsistent.contains_iff⟩

-- a letter whose upper case is two letters
example : (empty.addAll [⟨"STRASSE", ["X"], .atom "X"⟩, ⟨"straße", [], .nil⟩, ⟨"ss", [], .nil⟩]).get?
    "Strasse" = some ⟨"straße", [], .nil⟩ := by
  decide +kernel

end Definitions
end PairLisp
