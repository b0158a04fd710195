import PairLisp.Expr.Basic

/-!
# Lists of expressions

Operands, clauses and parameters all pass through three functions: `ofList` puts items in front of a
tail, `toList?` takes the items of a proper list apart again, and `length` counts. The first starts from
the end of a list and the other two from its front. Here is how they fit together. The route:

* taking apart and counting go through the items to the tail (`toList?_ofList`, `length_ofList`), by
  induction on the items;
* every expression is some items in front of an end that is no pair (`exists_items`), by induction on the
  expression, and the end decides: it is null in any spelling, another atom, or the blank.
-/

namespace PairLisp.Expr

variable {items : List Expr} {token : String}

/-- The items of a list that ends in another list are followed by the items of that one. -/
theorem toList?_ofList (items : List Expr) (tail : Expr) :
    (ofList items tail).toList? = tail.toList?.map (items ++ ·) := by
  induction items with
  | nil =>
      show tail.toList? = tail.toList?.map id
      rw [Option.map_id_fun, id]
  | cons item items ih =>
      show (ofList items tail).toList?.map (item :: ·) = tail.toList?.map (item :: items ++ ·)
      rw [ih, Option.map_map]
      rfl

/-- The length of a list that ends in another one is that of both. -/
theorem length_ofList (items : List Expr) (tail : Expr) :
    (ofList items tail).length = items.length + tail.length := by
  induction items with
  | nil => exact (Nat.zero_add _).symm
  | cons item items ih =>
      show (ofList items tail).length + 1 = items.length + 1 + tail.length
      rw [ih]
      omega

/-! ## The three ends -/

theorem toList?_of_null (h : Symbol.isNil token = true) :
    (ofList items (.atom token)).toList? = some items := by
  rw [toList?_ofList, toList?, if_pos h, Option.map_some, List.append_nil]

theorem toList?_of_not_null (h : Symbol.isNil token = false) :
    (ofList items (.atom token)).toList? = none := by
  rw [toList?_ofList, toList?, h]
  rfl

theorem toList?_of_blank : (ofList items .blank).toList? = none := by
  rw [toList?_ofList]
  rfl

/-- **Every expression is a list with one of three ends.** -/
theorem exists_items (e : Expr) :
    (∃ items token, Symbol.isNil token = true ∧ e = ofList items (.atom token)) ∨
      (∃ items token, Symbol.isNil token = false ∧ e = ofList items (.atom token)) ∨
      ∃ items, e = ofList items .blank := by
  induction e with
  | atom token =>
      cases hnil : Symbol.isNil token with
      | true => exact .inl ⟨[], token, hnil, rfl⟩
      | false => exact .inr (.inl ⟨[], token, hnil, rfl⟩)
  | pair first rest _ ih =>
      rcases ih with ⟨items, token, hnil, rfl⟩ | ⟨items, token, hnil, rfl⟩ | ⟨items, rfl⟩
      · exact .inl ⟨first :: items, token, hnil, rfl⟩
      · exact .inr (.inl ⟨first :: items, token, hnil, rfl⟩)
      · exact .inr (.inr ⟨first :: items, rfl⟩)
  | blank => exact .inr (.inr ⟨[], rfl⟩)

theorem toList?_eq_some_iff_null {e : Expr} :
    e.toList? = some items ↔
      ∃ token, Symbol.isNil token = true ∧ e = ofList items (.atom token) := by
  constructor
  · intro h
    rcases e.exists_items with ⟨found, token, hnil, rfl⟩ | ⟨found, token, hnil, rfl⟩ | ⟨found, rfl⟩
    · rw [toList?_of_null hnil, Option.some_inj] at h
      exact ⟨token, hnil, by rw [h]⟩
    · rw [toList?_of_not_null hnil] at h
      cases h
    · rw [toList?_of_blank] at h
      cases h
  · rintro ⟨token, hnil, rfl⟩
    exact toList?_of_null hnil

theorem toList?_eq_none_iff_not_null {e : Expr} :
    e.toList? = none ↔
      (∃ items token, Symbol.isNil token = false ∧ e = ofList items (.atom token)) ∨
        ∃ items, e = ofList items .blank := by
  constructor
  · intro h
    rcases e.exists_items with ⟨found, token, hnil, rfl⟩ | hatom | hblank
    · rw [toList?_of_null hnil] at h
      cases h
    · exact .inl hatom
    · exact .inr hblank
  · rintro (⟨found, token, hnil, rfl⟩ | ⟨found, rfl⟩)
    · exact toList?_of_not_null hnil
    · exact toList?_of_blank

/-- **Building, taking apart and counting fit together.** Items in front of a tail are taken apart into
    those items and what the tail is taken apart into, if it is at all, and are counted with it.
    Conversely, an expression is taken apart into some items exactly if it is these in front of an atom
    that spells `NIL`, and its length is their number; it is not taken apart exactly if it is items in
    front of another atom, or of the blank where no expression stands, and its length is one more. -/
theorem lists_fit_together (items : List Expr) (tail e : Expr) :
    (ofList items tail).toList? = tail.toList?.map (items ++ ·) ∧
      (ofList items tail).length = items.length + tail.length ∧
      (e.toList? = some items ↔
        ∃ token, Symbol.isNil token = true ∧ e = ofList items (.atom token)) ∧
      (e.toList? = some items → e.length = items.length) ∧
      (e.toList? = none ↔
        (∃ found token, Symbol.isNil token = false ∧ e = ofList found (.atom token)) ∨
          ∃ found, e = ofList found .blank) ∧
      (∀ token, Symbol.isNil token = false →
        (ofList items (.atom token)).length = items.length + 1) ∧
      (ofList items .blank).length = items.length + 1 := by
  refine ⟨toList?_ofList items tail, length_ofList items tail, toList?_eq_some_iff_null, ?_,
    toList?_eq_none_iff_not_null, ?_, length_ofList items .blank⟩
  · intro h
    obtain ⟨token, hnil, rfl⟩ := toList?_eq_some_iff_null.mp h
    rw [length_ofList, length, if_pos hnil, Nat.add_zero]
  · intro token hnil
    rw [length_ofList, length, hnil]
    rfl

/-- A list that ends in another atom, inside one that ends in `NIL` in mixed case. -/
theorem lists_fit_together_mixed_spelling :
    let inner := ofList [.atom "B"] (.atom "C")
    let e : Expr := .pair (.atom "A") (.pair inner (.atom "nIl"))
    e.toList? = some [.atom "A", inner] ∧ e.length = 2 ∧
      Symbol.isNil "C" = false ∧ inner.length = 2 := by
  intro inner e
  have hitems : e.toList? = some [.atom "A", inner] := by decide +kernel
  have hend : Symbol.isNil "C" = false := by decide +kernel
  obtain ⟨-, -, -, hlength, -⟩ := lists_fit_together [.atom "A", inner] .nil e
  obtain ⟨-, -, -, -, -, hbare, -⟩ := lists_fit_together [.atom "B"] .nil e
  exact ⟨hitems, hlength hitems, hend, hbare "C" hend⟩

end PairLisp.Expr
