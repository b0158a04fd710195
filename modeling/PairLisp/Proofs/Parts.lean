import PairLisp.Expr.Basic

/-!
# Parts and atoms of expressions

An expression is known by the expressions that stand in it (`Part`) and by the tokens of its atoms
(`tokens`). A condition on an expression is mostly one on its atoms: `ComposedOf` says that all of
them have a property, and whether there may be blanks among them. What holds of an expression in this
sense holds of all its parts (`ComposedOf.of_part`).
-/

namespace PairLisp.Expr

/-- An expression stands somewhere in another one, or is that one itself. -/
inductive Part : Expr → Expr → Prop where
  | whole (e : Expr) : Part e e
  | first {e first rest : Expr} : Part e first → Part e (.pair first rest)
  | rest {e first rest : Expr} : Part e rest → Part e (.pair first rest)

/-- A part of a part is a part. -/
theorem Part.trans {e f g : Expr} (h : Part e f) (h' : Part f g) : Part e g := by
  induction h' with
  | whole => exact h
  | first _ ih => exact .first ih
  | rest _ ih => exact .rest ih

/-- The tokens of the atoms in an expression, in order. -/
def tokens : Expr → List String
  | .atom token => [token]
  | .pair first rest => first.tokens ++ rest.tokens
  | .blank => []

/-- The atoms of a part are atoms of the whole. -/
theorem Part.tokens_subset {e f : Expr} (h : Part e f) : e.tokens ⊆ f.tokens := by
  induction h with
  | whole => exact List.Subset.refl _
  | first _ ih => exact fun token htoken => List.mem_append_left _ (ih htoken)
  | rest _ ih => exact fun token htoken => List.mem_append_right _ (ih htoken)

/-- All atoms of an expression have a property, and blanks are in it only if that is allowed. -/
def ComposedOf (atoms : String → Prop) (blanks : Prop) : Expr → Prop
  | .atom token => atoms token
  | .pair first rest => first.ComposedOf atoms blanks ∧ rest.ComposedOf atoms blanks
  | .blank => blanks

section ComposedOf

variable {atoms : String → Prop} {blanks : Prop}

instance decidableComposedOf [DecidablePred atoms] [Decidable blanks] :
    (e : Expr) → Decidable (e.ComposedOf atoms blanks)
  | .atom token => inferInstanceAs (Decidable (atoms token))
  | .pair first rest =>
    have := decidableComposedOf first
    have := decidableComposedOf rest
    inferInstanceAs (Decidable (first.ComposedOf atoms blanks ∧ rest.ComposedOf atoms blanks))
  | .blank => inferInstanceAs (Decidable blanks)

/-- What an expression is composed of, its parts are composed of. -/
theorem ComposedOf.of_part {part e : Expr} (h : e.ComposedOf atoms blanks) (hpart : part.Part e) :
    part.ComposedOf atoms blanks := by
  induction hpart with
  | whole => exact h
  | first _ ih => exact ih h.1
  | rest _ ih => exact ih h.2

/-- A condition on atoms and blanks can be replaced by a weaker one. -/
theorem ComposedOf.mono {atoms' : String → Prop} {blanks' : Prop} {e : Expr}
    (h : e.ComposedOf atoms blanks) (hatoms : ∀ token, atoms token → atoms' token)
    (hblanks : blanks → blanks') : e.ComposedOf atoms' blanks' := by
  induction e with
  | atom token => exact hatoms token h
  | pair first rest ihfirst ihrest => exact ⟨ihfirst h.1, ihrest h.2⟩
  | blank => exact hblanks h

/-- A list is composed of what its items and its end are composed of. -/
theorem composedOf_ofList {items : List Expr} {tail : Expr}
    (h : ∀ e ∈ items, e.ComposedOf atoms blanks) (htail : tail.ComposedOf atoms blanks) :
    (ofList items tail).ComposedOf atoms blanks := by
  induction items with
  | nil => exact htail
  | cons e items ih =>
      exact ⟨h e List.mem_cons_self, ih fun f hf => h f (List.mem_cons_of_mem e hf)⟩

/-- Where blanks are allowed, only the tokens count. -/
theorem composedOf_iff_tokens {e : Expr} :
    e.ComposedOf atoms True ↔ ∀ token ∈ e.tokens, atoms token := by
  induction e with
  | atom token => simp [ComposedOf, tokens]
  | pair first rest ihfirst ihrest =>
      rw [ComposedOf, tokens, List.forall_mem_append, ihfirst, ihrest]
  | blank => simp [ComposedOf, tokens]

end ComposedOf

end PairLisp.Expr
