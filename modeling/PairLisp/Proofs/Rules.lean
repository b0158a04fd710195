import PairLisp.Proofs.TableFrame

/-!
# The rules of the language

Evaluation stated as rules, without reference to the evaluator. A rule concludes a `Judgment`:
that an expression, a list of operands or a list of clauses comes to a value and a table of
definitions, or to an error. What is derivable is what the rules allow, to any depth of nesting;
running out of levels is no conclusion of any rule.

The parts of the language that need no evaluation have rules of their own, each tied to the
function that decides it:

* `Expr.Proper` — proper lists, decided by `Expr.toList?`;
* `Primitive.Applies` — the built-in functions on evaluated arguments (`Primitive.apply`);
* `Eval.Clauses` — the clauses of a conditional, or what is wrong with them (`Eval.clauses`);
* `Definition.Describes` — what the operands of a `DEFUN` describe (`Definition.ofOperands`).

`Derivable` puts them together. Its order of checks lies in the premises: a rule for a later
check has the success of every earlier one among its premises.
-/

namespace PairLisp

/-! ## Proper lists -/

/-- `Proper e items`: the expression is the list of the items, and its end spells `NIL`. -/
inductive Expr.Proper : Expr → List Expr → Prop where
  | nil {token : String} : Symbol.key token = "NIL" → Proper (.atom token) []
  | cons {first rest : Expr} {items : List Expr} :
      Proper rest items → Proper (.pair first rest) (first :: items)

namespace Expr

/-- The items of a proper list are found. -/
theorem toList?_of_proper {e : Expr} {items : List Expr} (h : Proper e items) :
    e.toList? = some items := by
  induction h with
  | nil hkey => simp [toList?, Symbol.isNil, hkey]
  | cons _ ih => simp [toList?, ih]

/-- What has items is a proper list of them. -/
theorem proper_of_toList? {e : Expr} {items : List Expr} (h : e.toList? = some items) :
    Proper e items := by
  induction e generalizing items with
  | atom token =>
      simp only [toList?] at h
      split at h
      · next hnil =>
          cases h
          exact .nil (by simpa [Symbol.isNil] using hnil)
      · cases h
  | pair first rest _ ih =>
      obtain ⟨tail, htail, rfl⟩ := Option.map_eq_some_iff.mp h
      exact .cons (ih htail)
  | blank => cases h

theorem toList?_eq_some_iff {e : Expr} {items : List Expr} :
    e.toList? = some items ↔ Proper e items :=
  ⟨proper_of_toList?, toList?_of_proper⟩

/-- Only what is no proper list has no items. -/
theorem toList?_eq_none_iff {e : Expr} : e.toList? = none ↔ ∀ items, ¬ Proper e items := by
  rw [Option.eq_none_iff_forall_ne_some]
  exact forall_congr' fun items => not_congr toList?_eq_some_iff

/-- A list that is built of items is a proper list of them. -/
theorem proper_ofList (items : List Expr) : (ofList items nil).Proper items := by
  induction items with
  | nil => exact .nil (by decide +kernel)
  | cons item items ih => exact .cons ih

end Expr

/-! ## Primitives -/

namespace Primitive

/-- The primitives whose two arguments have to be integers. -/
def OnIntegers : Primitive → Prop
  | .plus | .minus | .times | .quotient | .remainder | .less | .greater => True
  | .car | .cdr | .cons | .eq | .atom | .null | .int => False

/-- The number of arguments that each primitive takes. -/
def expected : Primitive → Nat
  | .car | .cdr | .atom | .null | .int => 1
  | .cons | .eq | .plus | .minus | .times | .quotient | .remainder | .less | .greater => 2

/-- The expression is a numeral. -/
inductive Integer : Expr → Prop where
  | numeral {token : String} : Numeral.isNumeral token = true → Integer (.atom token)

/-- The expression is a numeral of the integer, with few enough digits to be converted. -/
inductive Denotes : Expr → Int → Prop where
  | numeral {token : String} : Numeral.isNumeral token = true → Numeral.fits token = true →
      Denotes (.atom token) (Numeral.value token)

/-- What the primitives on integers compute. Division rounds toward zero, and the remainder has
    the sign of the dividend. -/
inductive Computes : Primitive → Int → Int → Int → Prop where
  | plus {a b : Int} : Computes .plus a b (a + b)
  | minus {a b : Int} : Computes .minus a b (a - b)
  | times {a b : Int} : Computes .times a b (a * b)
  | quotient {a b : Int} : b ≠ 0 → Computes .quotient a b (a.tdiv b)
  | remainder {a b : Int} : b ≠ 0 → Computes .remainder a b (a.tmod b)

/-- When a comparison holds. -/
inductive Compares : Primitive → Int → Int → Prop → Prop where
  | less {a b : Int} : Compares .less a b (a < b)
  | greater {a b : Int} : Compares .greater a b (b < a)

/-- When a test of one argument holds. -/
inductive Tests : Primitive → Expr → Prop → Prop where
  | atom {x : Expr} : Tests .atom x (∃ token, x = .atom token)
  | null {x : Expr} : Tests .null x (∃ token, x = .atom token ∧ Symbol.key token = "NIL")
  | int {x : Expr} : Tests .int x (Integer x)

/-- What a primitive answers on evaluated arguments. The number of arguments is checked first,
    then their types, then the digit limit on the operands, then a zero divisor, and last the
    digit limit on the result. -/
inductive Applies : Primitive → List Expr → Except EvalError Expr → Prop where
  | arity {p : Primitive} {args : List Expr} : args.length ≠ p.expected →
      Applies p args (.error (.arityMismatch p.label p.expected args.length))
  | car {x y : Expr} : Applies .car [.pair x y] (.ok x)
  | cdr {x y : Expr} : Applies .cdr [.pair x y] (.ok y)
  | notPair {p : Primitive} {x : Expr} : p = .car ∨ p = .cdr → (∀ a b, x ≠ .pair a b) →
      Applies p [x] (.error (.operandNotPair p.label))
  | cons {x y : Expr} : Applies .cons [x, y] (.ok (.pair x y))
  | same {s t : String} : Symbol.key s = Symbol.key t →
      Applies .eq [.atom s, .atom t] (.ok Expr.truth)
  | different {s t : String} : Symbol.key s ≠ Symbol.key t →
      Applies .eq [.atom s, .atom t] (.ok Expr.nil)
  | notAtoms {x y : Expr} : (∀ s t, ¬ (x = .atom s ∧ y = .atom t)) →
      Applies .eq [x, y] (.error (.atomsOnly "EQ"))
  | holds {p : Primitive} {x : Expr} {P : Prop} : Tests p x P → P →
      Applies p [x] (.ok Expr.truth)
  | fails {p : Primitive} {x : Expr} {P : Prop} : Tests p x P → ¬ P →
      Applies p [x] (.ok Expr.nil)
  | notIntegers {p : Primitive} {x y : Expr} : p.OnIntegers → ¬ (Integer x ∧ Integer y) →
      Applies p [x, y] (.error (.nonIntegerOperand p.label))
  | operandTooLarge {p : Primitive} {x y : Expr} : p.OnIntegers → Integer x → Integer y →
      (∀ a b, ¬ (Denotes x a ∧ Denotes y b)) →
      Applies p [x, y] (.error (.integerTooLarge p.label))
  | zeroDivisor {p : Primitive} {x y : Expr} {a : Int} : p = .quotient ∨ p = .remainder →
      Denotes x a → Denotes y 0 → Applies p [x, y] (.error (.divisionByZero p.label))
  | result {p : Primitive} {x y : Expr} {a b c : Int} : Denotes x a → Denotes y b →
      Computes p a b c → Numeral.fits (Numeral.ofInt c) = true →
      Applies p [x, y] (.ok (.atom (Numeral.ofInt c)))
  | resultTooLarge {p : Primitive} {x y : Expr} {a b c : Int} : Denotes x a → Denotes y b →
      Computes p a b c → Numeral.fits (Numeral.ofInt c) = false →
      Applies p [x, y] (.error (.integerTooLarge p.label))
  | compares {p : Primitive} {x y : Expr} {a b : Int} {P : Prop} : Denotes x a → Denotes y b →
      Compares p a b P → P → Applies p [x, y] (.ok Expr.truth)
  | comparesNot {p : Primitive} {x y : Expr} {a b : Int} {P : Prop} : Denotes x a →
      Denotes y b → Compares p a b P → ¬ P → Applies p [x, y] (.ok Expr.nil)

/-- The table of primitives gives each the number of operands that its rules have. -/
theorem arity_eq_expected (p : Primitive) : p.arity = p.expected := by
  cases p <;> rfl

/-- The test for integers finds the numerals. -/
theorem isInteger_iff {x : Expr} : isInteger x = true ↔ Integer x := by
  constructor
  · intro h
    cases x with
    | atom token => exact .numeral h
    | pair _ _ => exact nomatch h
    | blank => exact nomatch h
  · rintro ⟨h⟩
    exact h

/-- An atom that denotes an integer is converted to it. -/
theorem intValue_of_denotes {x : Expr} {a : Int} (h : Denotes x a) : intValue x = .ok a := by
  obtain ⟨hs, hfits⟩ := h
  simp [intValue, Expr.token, Numeral.toInt, hs, hfits, bind, Except.bind]

/-- Of an integer nothing but its length can keep it from being converted. -/
theorem intValue_of_integer {x : Expr} (h : Integer x) (hlarge : ∀ a, ¬ Denotes x a) :
    intValue x = .error .notConverted := by
  obtain ⟨hs⟩ := h
  next s =>
  cases hfits : Numeral.fits s with
  | true => exact absurd (.numeral hs hfits) (hlarge _)
  | false => simp [intValue, Expr.token, Numeral.toInt, hfits, bind, Except.bind]

/-- Two operands that denote integers are converted to them. -/
theorem operands_of_denotes {x y : Expr} {a b : Int} (label : String) (hx : Denotes x a)
    (hy : Denotes y b) : operands label [x, y] = .ok (a, b) := by
  have hxy : isInteger x = true ∧ isInteger y = true := by
    cases hx
    cases hy
    exact ⟨‹_›, ‹_›⟩
  simp [operands, integers, hxy, intValue_of_denotes hx, intValue_of_denotes hy, bind, Except.bind,
    pure, Except.pure]

/-- An operand that is no integer is noticed before either is converted. -/
theorem operands_of_not_integers {x y : Expr} (label : String)
    (h : ¬ (Integer x ∧ Integer y)) :
    operands label [x, y] = .error (.nonIntegerOperand label) := by
  have hxy : ¬ (isInteger x = true ∧ isInteger y = true) := by
    rwa [isInteger_iff, isInteger_iff]
  simp [operands, integers, hxy, bind, Except.bind]

/-- Of two integers one that is too long to be converted is noticed. -/
theorem operands_of_too_large {x y : Expr} (label : String) (hx : Integer x) (hy : Integer y)
    (h : ∀ a b, ¬ (Denotes x a ∧ Denotes y b)) :
    operands label [x, y] = .error (.integerTooLarge label) := by
  have hxy : isInteger x = true ∧ isInteger y = true := ⟨isInteger_iff.mpr hx, isInteger_iff.mpr hy⟩
  by_cases hfirst : ∃ a, Denotes x a
  · obtain ⟨a, hfirst⟩ := hfirst
    have hsecond := intValue_of_integer hy fun b hb => h a b ⟨hfirst, hb⟩
    simp [operands, integers, hxy, intValue_of_denotes hfirst, hsecond, bind, Except.bind]
  · have hfirst := intValue_of_integer hx fun a ha => hfirst ⟨a, ha⟩
    simp [operands, integers, hxy, hfirst, bind, Except.bind]

/-- The three ways of reading two operands. -/
theorem operands_cases (x y : Expr) :
    ¬ (Integer x ∧ Integer y) ∨
    (Integer x ∧ Integer y ∧ ∀ a b, ¬ (Denotes x a ∧ Denotes y b)) ∨
    ∃ a b, Denotes x a ∧ Denotes y b := by
  by_cases hxy : Integer x ∧ Integer y
  · by_cases hd : ∃ a b, Denotes x a ∧ Denotes y b
    · exact Or.inr (Or.inr hd)
    · exact Or.inr (Or.inl ⟨hxy.1, hxy.2, fun a b h => hd ⟨a, b, h⟩⟩)
  · exact Or.inl hxy

/-- The number of arguments is checked before anything else. -/
theorem apply_of_arity {p : Primitive} {args : List Expr} (h : args.length ≠ p.expected) :
    p.apply args = .error (.arityMismatch p.label p.expected args.length) := by
  rw [← arity_eq_expected] at h ⊢
  exact if_pos h

/-- What is wrong with the operands is what is wrong with the call. -/
theorem apply_operands_error {p : Primitive} (hp : p.OnIntegers) {x y : Expr} {cause : EvalError}
    (h : operands p.label [x, y] = .error cause) : p.apply [x, y] = .error cause := by
  cases p with
  | plus | minus | times =>
      simp [apply, arity, entry, dispatch, arithmetic, h, bind, Except.bind]
  | quotient | remainder =>
      simp [apply, arity, entry, dispatch, division, h, bind, Except.bind]
  | less | greater =>
      simp [apply, arity, entry, dispatch, comparison, h, bind, Except.bind]
  | car | cdr | cons | eq | atom | null | int => exact False.elim hp

/-- A primitive that computes gives the numeral of the result. -/
theorem apply_of_computes {p : Primitive} {x y : Expr} {a b c : Int} (hx : Denotes x a)
    (hy : Denotes y b) (h : Computes p a b c) : p.apply [x, y] = ofInt p.label c := by
  have hxy := operands_of_denotes p.label hx hy
  cases h with
  | quotient hb =>
      simp [apply, arity, entry, dispatch, division, hxy, hb, Numeral.quotient_eq_tdiv, bind,
        Except.bind]
  | remainder hb =>
      simp [apply, arity, entry, dispatch, division, hxy, hb, Numeral.remainder_eq_tmod, bind,
        Except.bind]
  | plus | minus | times =>
      simp [apply, arity, entry, dispatch, arithmetic, hxy, bind, Except.bind]

/-- A primitive that compares gives the truth of the comparison. -/
theorem apply_of_compares {p : Primitive} {x y : Expr} {a b : Int} {P : Prop} (answer : Bool)
    (hx : Denotes x a) (hy : Denotes y b) (h : Compares p a b P) (hP : answer = true ↔ P) :
    p.apply [x, y] = .ok (Expr.ofBool answer) := by
  have hxy := operands_of_denotes p.label hx hy
  cases h with
  | less =>
      have hanswer : decide (a < b) = answer := by rw [Bool.eq_iff_iff, hP, decide_eq_true_iff]
      simp [apply, arity, entry, dispatch, comparison, hxy, hanswer, bind, Except.bind]
  | greater =>
      have hanswer : decide (b < a) = answer := by rw [Bool.eq_iff_iff, hP, decide_eq_true_iff]
      simp [apply, arity, entry, dispatch, comparison, hxy, hanswer, bind, Except.bind]

/-- A primitive that tests gives the truth of the test. -/
theorem apply_of_tests {p : Primitive} {x : Expr} {P : Prop} (answer : Bool)
    (h : Tests p x P) (hP : answer = true ↔ P) : p.apply [x] = .ok (Expr.ofBool answer) := by
  cases h with
  | atom =>
      have hanswer : x.isAtom = answer := by
        rw [Bool.eq_iff_iff, hP]
        cases x <;> simp [Expr.isAtom]
      rw [← hanswer]
      rfl
  | null =>
      have hanswer : x.isNull = answer := by
        rw [Bool.eq_iff_iff, hP]
        cases x <;> simp [Expr.isNull, Symbol.isNil]
      rw [← hanswer]
      rfl
  | int =>
      have hanswer : isInteger x = answer := by rw [Bool.eq_iff_iff, hP, isInteger_iff]
      rw [← hanswer]
      rfl

/-- What the rules allow a primitive to answer is what it answers. -/
theorem apply_of_applies {p : Primitive} {args : List Expr} {r : Except EvalError Expr}
    (h : Applies p args r) : p.apply args = r := by
  cases h with
  | arity h => exact apply_of_arity h
  | car => rfl
  | cdr => rfl
  | notPair hp hx =>
      next x =>
      cases x with
      | pair a b => exact absurd rfl (hx a b)
      | atom token => rcases hp with rfl | rfl <;> rfl
      | blank => rcases hp with rfl | rfl <;> rfl
  | cons => rfl
  | same h => simp [apply, arity, entry, dispatch, argument, sameAtom, h, Expr.ofBool, bind,
      Except.bind]
  | different h => simp [apply, arity, entry, dispatch, argument, sameAtom, h, Expr.ofBool, bind,
      Except.bind]
  | notAtoms h =>
      next x y =>
      cases x with
      | pair _ _ => rfl
      | blank => rfl
      | atom s =>
          cases y with
          | pair _ _ => rfl
          | blank => rfl
          | atom t => exact absurd ⟨rfl, rfl⟩ (h s t)
  | holds ht hP => exact apply_of_tests true ht (iff_of_true rfl hP)
  | fails ht hP => exact apply_of_tests false ht (iff_of_false Bool.false_ne_true hP)
  | notIntegers hp h => exact apply_operands_error hp (operands_of_not_integers p.label h)
  | operandTooLarge hp hx hy h =>
      exact apply_operands_error hp (operands_of_too_large p.label hx hy h)
  | zeroDivisor hp hx hy =>
      have hxy := operands_of_denotes p.label hx hy
      rcases hp with rfl | rfl <;>
        simp [apply, arity, entry, dispatch, division, hxy, bind, Except.bind]
  | result hx hy hc hfits => simp [apply_of_computes hx hy hc, ofInt, Numeral.toText, hfits]
  | resultTooLarge hx hy hc hfits => simp [apply_of_computes hx hy hc, ofInt, Numeral.toText, hfits]
  | compares hx hy hc hP =>
      exact apply_of_compares true hx hy hc (iff_of_true rfl hP)
  | comparesNot hx hy hc hP =>
      exact apply_of_compares false hx hy hc (iff_of_false Bool.false_ne_true hP)

theorem exists_applies_of_tests {p : Primitive} {x : Expr} {P : Prop} (h : Tests p x P) :
    ∃ r, Applies p [x] r := by
  by_cases hP : P
  · exact ⟨_, .holds h hP⟩
  · exact ⟨_, .fails h hP⟩

theorem exists_applies_of_computes {p : Primitive} {x y : Expr} {a b c : Int}
    (hx : Denotes x a) (hy : Denotes y b) (h : Computes p a b c) : ∃ r, Applies p [x, y] r := by
  cases hfits : Numeral.fits (Numeral.ofInt c) with
  | true => exact ⟨_, .result hx hy h hfits⟩
  | false => exact ⟨_, .resultTooLarge hx hy h hfits⟩

theorem exists_applies_of_compares {p : Primitive} {x y : Expr} {a b : Int} {P : Prop}
    (hx : Denotes x a) (hy : Denotes y b) (h : Compares p a b P) : ∃ r, Applies p [x, y] r := by
  by_cases hP : P
  · exact ⟨_, .compares hx hy h hP⟩
  · exact ⟨_, .comparesNot hx hy h hP⟩

/-- What a primitive asks of two integers: a result, a comparison, or what a divisor of zero does
    not have. -/
theorem onIntegers_cases {p : Primitive} (hp : p.OnIntegers) (a b : Int) :
    (∃ c, Computes p a b c) ∨ (∃ P, Compares p a b P) ∨
      (p = .quotient ∨ p = .remainder) ∧ b = 0 := by
  cases p with
  | plus => exact .inl ⟨_, .plus⟩
  | minus => exact .inl ⟨_, .minus⟩
  | times => exact .inl ⟨_, .times⟩
  | quotient =>
      by_cases hb : b = 0
      · exact .inr (.inr ⟨.inl rfl, hb⟩)
      · exact .inl ⟨_, .quotient hb⟩
  | remainder =>
      by_cases hb : b = 0
      · exact .inr (.inr ⟨.inr rfl, hb⟩)
      · exact .inl ⟨_, .remainder hb⟩
  | less => exact .inr (.inl ⟨_, .less⟩)
  | greater => exact .inr (.inl ⟨_, .greater⟩)
  | car | cdr | cons | eq | atom | null | int => exact hp.elim

/-- Some rule covers every pair of operands of a primitive on integers. -/
theorem exists_applies_of_onIntegers {p : Primitive} (hp : p.OnIntegers) (x y : Expr) :
    ∃ r, Applies p [x, y] r := by
  rcases operands_cases x y with h | ⟨hx, hy, h⟩ | ⟨a, b, hx, hy⟩
  · exact ⟨_, .notIntegers hp h⟩
  · exact ⟨_, .operandTooLarge hp hx hy h⟩
  · rcases onIntegers_cases hp a b with ⟨c, hc⟩ | ⟨P, hP⟩ | ⟨hdivides, rfl⟩
    · exact exists_applies_of_computes hx hy hc
    · exact exists_applies_of_compares hx hy hP
    · exact ⟨_, .zeroDivisor hdivides hx hy⟩

/-- Some rule covers every comparison of two expressions. -/
theorem exists_applies_eq (x y : Expr) : ∃ r, Applies .eq [x, y] r := by
  by_cases h : ∃ s t, x = .atom s ∧ y = .atom t
  · obtain ⟨s, t, rfl, rfl⟩ := h
    by_cases hkey : Symbol.key s = Symbol.key t
    · exact ⟨_, .same hkey⟩
    · exact ⟨_, .different hkey⟩
  · exact ⟨_, .notAtoms fun s t hst => h ⟨s, t, hst⟩⟩

/-- Some rule covers a call with one argument. -/
theorem exists_applies_one (p : Primitive) (x : Expr) : ∃ r, Applies p [x] r := by
  cases p with
  | atom => exact exists_applies_of_tests .atom
  | null => exact exists_applies_of_tests .null
  | int => exact exists_applies_of_tests .int
  | car =>
      by_cases h : ∃ a b, x = .pair a b
      · obtain ⟨a, b, rfl⟩ := h
        exact ⟨_, .car⟩
      · exact ⟨_, .notPair (.inl rfl) fun a b hx => h ⟨a, b, hx⟩⟩
  | cdr =>
      by_cases h : ∃ a b, x = .pair a b
      · obtain ⟨a, b, rfl⟩ := h
        exact ⟨_, .cdr⟩
      · exact ⟨_, .notPair (.inr rfl) fun a b hx => h ⟨a, b, hx⟩⟩
  | cons | eq | plus | minus | times | quotient | remainder | less | greater =>
      exact ⟨_, .arity (by simp [expected])⟩

/-- Some rule covers a call with two arguments. -/
theorem exists_applies_two (p : Primitive) (x y : Expr) : ∃ r, Applies p [x, y] r := by
  cases p with
  | cons => exact ⟨_, .cons⟩
  | eq => exact exists_applies_eq x y
  | plus | minus | times | quotient | remainder | less | greater =>
      refine exists_applies_of_onIntegers ?_ x y
      trivial
  | car | cdr | atom | null | int => exact ⟨_, .arity (by simp [expected])⟩

/-- Some rule applies to every primitive on every list of arguments. -/
theorem exists_applies (p : Primitive) (args : List Expr) : ∃ r, Applies p args r := by
  match args with
  | [x] => exact exists_applies_one p x
  | [x, y] => exact exists_applies_two p x y
  | [] => exact ⟨_, .arity (by cases p <;> simp [expected])⟩
  | _ :: _ :: _ :: _ => exact ⟨_, .arity (by cases p <;> simp [expected])⟩

/-- **The rules for the primitives are what the primitives do.** -/
theorem applies_iff {p : Primitive} {args : List Expr} {r : Except EvalError Expr} :
    Applies p args r ↔ p.apply args = r := by
  constructor
  · exact apply_of_applies
  · rintro rfl
    obtain ⟨r, hr⟩ := exists_applies p args
    rw [apply_of_applies hr]
    exact hr

/-- **No primitive misuses its arguments**, whatever they are and however many: no rule concludes so. -/
theorem apply_ne_misuse (p : Primitive) (args : List Expr) (cause : Misuse) :
    p.apply args ≠ .error (.misuse cause) := by
  intro h
  cases applies_iff.mpr h

/-- A name stands for a primitive exactly when it spells the primitive's name, in any case. -/
theorem ofName?_eq_some_iff {name : String} {p : Primitive} :
    ofName? name = some p ↔ Symbol.key name = p.label := by
  rw [ofName?]
  constructor
  · intro h
    have hlabel := List.find?_some h
    exact (beq_iff_eq.mp hlabel).symm
  · intro h
    rw [h]
    cases p <;> rfl

end Primitive

/-! ## Clauses -/

/-- `ClauseList items clauses`: each item is a proper list of a test and a result. -/
inductive Eval.ClauseList : List Expr → List (Expr × Expr) → Prop where
  | nil : ClauseList [] []
  | cons {item test result : Expr} {items : List Expr} {clauses : List (Expr × Expr)} :
      item.Proper [test, result] → ClauseList items clauses →
      ClauseList (item :: items) ((test, result) :: clauses)

/-- The clauses that the tail of a `COND` form consists of, or what is wrong with it: it has to
    be a list that is not empty and proper, and each of its items a list of a test and a
    result. -/
inductive Eval.Clauses : Expr → Except ClauseFault (List (Expr × Expr)) → Prop where
  | atomic {token : String} : Clauses (.atom token) (.error .atomic)
  | improper {tail : Expr} : (∀ token, tail ≠ .atom token) → (∀ items, ¬ tail.Proper items) →
      Clauses tail (.error .improper)
  | notTestResult {first rest : Expr} {items : List Expr} :
      (Expr.pair first rest).Proper items → (∀ clauses, ¬ ClauseList items clauses) →
      Clauses (.pair first rest) (.error .notTestResult)
  | clauses {first rest : Expr} {items : List Expr} {clauses : List (Expr × Expr)} :
      (Expr.pair first rest).Proper items → ClauseList items clauses →
      Clauses (.pair first rest) (.ok clauses)

namespace Eval

/-- A clause is a list of a test and a result. -/
theorem clause_eq_ok_iff {item test result : Expr} :
    clause item = .ok (test, result) ↔ item.Proper [test, result] := by
  rw [← Expr.toList?_eq_some_iff, clause_eq]
  split
  · next a b h => simp [h]
  · next h =>
      constructor
      · intro hnone
        exact nomatch hnone
      · intro hsome
        exact absurd hsome (h test result)

/-- The only thing wrong with a clause is its form. -/
theorem eq_notTestResult {item : Expr} {fault : ClauseFault} (h : clause item = .error fault) :
    fault = .notTestResult := by
  rw [clause_eq] at h
  split at h
  · cases h
  · cases h
    rfl

/-- The first clause at fault is the fault of a list of clauses. -/
theorem mapM_clause_cons (item : Expr) (items : List Expr) :
    (item :: items).mapM clause =
      match clause item with
      | .error fault => .error fault
      | .ok c => (items.mapM clause).map (c :: ·) := by
  rw [List.mapM_cons]
  cases clause item with
  | error fault => rfl
  | ok c => cases items.mapM clause <;> rfl

/-- A list of items is a list of clauses, or one of them is none. -/
theorem mapM_clause_cases (items : List Expr) :
    (∃ cs, ClauseList items cs ∧ items.mapM clause = .ok cs) ∨
      (∀ cs, ¬ ClauseList items cs) ∧ items.mapM clause = .error .notTestResult := by
  induction items with
  | nil => exact .inl ⟨[], .nil, rfl⟩
  | cons item items ih =>
      rw [mapM_clause_cons]
      cases hitem : clause item with
      | error fault =>
          refine .inr ⟨?_, by rw [eq_notTestResult hitem]⟩
          intro cs hlist
          cases hlist with
          | cons hproper _ =>
              rw [clause_eq_ok_iff.mpr hproper] at hitem
              cases hitem
      | ok c =>
          rcases ih with ⟨cs, hlist, hmap⟩ | ⟨hnone, hmap⟩
          · exact .inl ⟨c :: cs, .cons (clause_eq_ok_iff.mp hitem) hlist, by rw [hmap]; rfl⟩
          · refine .inr ⟨?_, by rw [hmap]; rfl⟩
            intro cs hlist
            cases hlist with
            | cons _ hrest => exact hnone _ hrest

/-- A list of items is at most one list of clauses. -/
theorem ClauseList.unique {items : List Expr} {cs cs' : List (Expr × Expr)}
    (h : ClauseList items cs) (h' : ClauseList items cs') : cs = cs' := by
  induction h generalizing cs' with
  | nil =>
      cases h'
      rfl
  | cons hproper _ ih =>
      cases h' with
      | cons hproper' hrest' =>
          cases (Expr.toList?_of_proper hproper).symm.trans (Expr.toList?_of_proper hproper')
          rw [ih hrest']

/-- **The rules for clauses are the check that is made of them.** -/
theorem clauses_iff {tail : Expr} {r : Except ClauseFault (List (Expr × Expr))} :
    Clauses tail r ↔ clauses tail = r := by
  constructor
  · intro h
    cases h with
    | atomic => rfl
    | improper hatom himproper =>
        have hnone := Expr.toList?_eq_none_iff.mpr himproper
        cases tail with
        | atom token => exact absurd rfl (hatom token)
        | pair first rest => simp [clauses, Expr.isAtom, hnone]
        | blank => rfl
    | @notTestResult _ _ items hproper hbad =>
        rcases mapM_clause_cases items with ⟨cs, hlist, _⟩ | ⟨_, hmap⟩
        · exact absurd hlist (hbad cs)
        · simp [clauses, Expr.isAtom, Expr.toList?_eq_some_iff.mpr hproper, hmap]
    | @clauses _ _ items cs hproper hlist =>
        rcases mapM_clause_cases items with ⟨cs', hlist', hmap⟩ | ⟨hnone, _⟩
        · cases hlist.unique hlist'
          simp [clauses, Expr.isAtom, Expr.toList?_eq_some_iff.mpr hproper, hmap]
        · exact absurd hlist (hnone cs)
  · rintro rfl
    cases tail with
    | atom token => exact .atomic
    | blank => exact .improper (by simp) (by intro items h; cases h)
    | pair first rest =>
        cases hlist : (Expr.pair first rest).toList? with
        | none =>
            have himproper := Expr.toList?_eq_none_iff.mp hlist
            simp only [clauses, Expr.isAtom, hlist]
            exact .improper (by simp) himproper
        | some items =>
            have hproper := Expr.toList?_eq_some_iff.mp hlist
            simp only [clauses, Expr.isAtom, hlist]
            rcases mapM_clause_cases items with ⟨cs, hcs, hmap⟩ | ⟨hnone, hmap⟩
            · rw [hmap]
              exact .clauses hproper hcs
            · rw [hmap]
              exact .notTestResult hproper hnone

end Eval

/-! ## Definitions -/

/-- The expression cannot name a function or a parameter. -/
def Definition.NoName (e : Expr) : Prop :=
  ∀ token, e = .atom token → Symbol.isIdentifier token = false

/-- What the operands of a `DEFUN` form describe: a name, a list of parameters and a body, or
    the first of these that is wrong. -/
inductive Definition.Describes : Expr → Except DefunFault Definition → Prop where
  | form {tail : Expr} : (∀ name formals body, ¬ tail.Proper [name, formals, body]) →
      Describes tail (.error .form)
  | name {tail name formals body : Expr} : tail.Proper [name, formals, body] → NoName name →
      Describes tail (.error .name)
  | parameterList {tail formals body : Expr} {name : String} :
      tail.Proper [.atom name, formals, body] → Symbol.isIdentifier name = true →
      (∀ items, ¬ formals.Proper items) → Describes tail (.error .parameterList)
  | parameter {tail formals body bad : Expr} {name : String} {names : List String}
      {rest : List Expr} :
      tail.Proper [.atom name, formals, body] → Symbol.isIdentifier name = true →
      formals.Proper (names.map .atom ++ bad :: rest) →
      (∀ n ∈ names, Symbol.isIdentifier n = true) → NoName bad →
      Describes tail (.error (.parameter bad))
  | definition {tail formals body : Expr} {name : String} {names : List String} :
      tail.Proper [.atom name, formals, body] → Symbol.isIdentifier name = true →
      formals.Proper (names.map .atom) → (∀ n ∈ names, Symbol.isIdentifier n = true) →
      Describes tail (.ok ⟨name, names, body⟩)

namespace Definition

/-- A name is an atom whose token is an identifier. -/
theorem identifier?_eq_some_iff {e : Expr} {name : String} :
    identifier? e = some name ↔ e = .atom name ∧ Symbol.isIdentifier name = true := by
  cases e with
  | atom token =>
      simp only [identifier?]
      split
      · next h =>
          constructor
          · rintro ⟨⟩
            exact ⟨rfl, h⟩
          · rintro ⟨⟨⟩, -⟩
            rfl
      · next h =>
          constructor
          · intro hnone
            exact nomatch hnone
          · rintro ⟨⟨⟩, h'⟩
            exact absurd h' h
  | pair _ _ => simp [identifier?]
  | blank => simp [identifier?]

/-- Only what is no name gives none. -/
theorem identifier?_eq_none_iff {e : Expr} : identifier? e = none ↔ NoName e := by
  rw [Option.eq_none_iff_forall_ne_some]
  constructor
  · intro h token he
    cases hid : Symbol.isIdentifier token with
    | false => rfl
    | true => exact absurd (identifier?_eq_some_iff.mpr ⟨he, hid⟩) (h token)
  · intro h name hname
    obtain ⟨he, hid⟩ := identifier?_eq_some_iff.mp hname
    rw [h name he] at hid
    exact nomatch hid

/-- Reading the parameters stops at the first that is no name. -/
theorem formalNames_append {names : List String} (h : ∀ n ∈ names, Symbol.isIdentifier n = true)
    (rest : List Expr) :
    formalNames (names.map .atom ++ rest) = (formalNames rest).map (names ++ ·) := by
  induction names with
  | nil => cases h : formalNames rest <;> simp [h, Except.map]
  | cons name names ih =>
      have hname := identifier?_eq_some_iff.mpr ⟨rfl, h name (List.mem_cons_self ..)⟩
      have ih := ih fun n hn => h n (List.mem_cons_of_mem _ hn)
      simp only [List.map_cons, List.cons_append, formalNames, hname, ih]
      cases formalNames rest <;> rfl

/-- A list of parameters is names throughout, or names up to one that is none. -/
theorem formals_cases (items : List Expr) :
    ∃ names : List String, (∀ n ∈ names, Symbol.isIdentifier n = true) ∧
      (items = names.map .atom ∨
        ∃ bad rest, items = names.map .atom ++ bad :: rest ∧ NoName bad) := by
  induction items with
  | nil => exact ⟨[], by simp, .inl rfl⟩
  | cons item items ih =>
      cases hid : identifier? item with
      | none => exact ⟨[], by simp, .inr ⟨item, items, rfl, identifier?_eq_none_iff.mp hid⟩⟩
      | some name =>
          obtain ⟨rfl, hname⟩ := identifier?_eq_some_iff.mp hid
          obtain ⟨names, hnames, hitems⟩ := ih
          refine ⟨name :: names, by simpa using ⟨hname, hnames⟩, ?_⟩
          rcases hitems with rfl | ⟨bad, rest, rfl, hbad⟩
          · exact .inl rfl
          · exact .inr ⟨bad, rest, rfl, hbad⟩

/-- What the rules find in the operands of a `DEFUN` is what is read off them. -/
theorem ofOperands_of_describes {tail : Expr} {r : Except DefunFault Definition}
    (h : Describes tail r) : ofOperands tail = r := by
  cases h with
  | form h =>
      rw [ofOperands_eq]
      split
      · next name formals body hlist =>
          exact absurd (Expr.toList?_eq_some_iff.mp hlist) (h name formals body)
      · rfl
  | name hproper hname =>
      simp [ofOperands_eq, Expr.toList?_eq_some_iff.mpr hproper, identifier?_eq_none_iff.mpr hname]
  | parameterList hproper hname hformals =>
      have hid := identifier?_eq_some_iff.mpr ⟨rfl, hname⟩
      simp [ofOperands_eq, Expr.toList?_eq_some_iff.mpr hproper, hid,
        Expr.toList?_eq_none_iff.mpr hformals]
  | parameter hproper hname hformals hnames hbad =>
      have hid := identifier?_eq_some_iff.mpr ⟨rfl, hname⟩
      simp [ofOperands_eq, Expr.toList?_eq_some_iff.mpr hproper, hid,
        Expr.toList?_eq_some_iff.mpr hformals, formalNames_append hnames, formalNames,
        identifier?_eq_none_iff.mpr hbad, Except.map]
  | definition hproper hname hformals hnames =>
      have hid := identifier?_eq_some_iff.mpr ⟨rfl, hname⟩
      have happend := formalNames_append hnames []
      simp only [List.append_nil] at happend
      simp [ofOperands_eq, Expr.toList?_eq_some_iff.mpr hproper, hid,
        Expr.toList?_eq_some_iff.mpr hformals, happend, formalNames, Except.map]

/-- Some rule applies to every tail of a `DEFUN`. -/
theorem exists_describes (tail : Expr) : ∃ r, Describes tail r := by
  by_cases hform : ∃ name formals body, tail.Proper [name, formals, body]
  · obtain ⟨name, formals, body, hproper⟩ := hform
    cases hid : identifier? name with
    | none => exact ⟨_, .name hproper (identifier?_eq_none_iff.mp hid)⟩
    | some token =>
        obtain ⟨rfl, hname⟩ := identifier?_eq_some_iff.mp hid
        by_cases hformals : ∃ items, formals.Proper items
        · obtain ⟨items, hitems⟩ := hformals
          obtain ⟨names, hnames, rfl | ⟨bad, rest, rfl, hbad⟩⟩ := formals_cases items
          · exact ⟨_, .definition hproper hname hitems hnames⟩
          · exact ⟨_, .parameter hproper hname hitems hnames hbad⟩
        · exact ⟨_, .parameterList hproper hname fun items h => hformals ⟨items, h⟩⟩
  · exact ⟨_, .form fun name formals body h => hform ⟨name, formals, body, h⟩⟩

/-- **The rules for definitions are the check that is made of them.** -/
theorem describes_iff {tail : Expr} {r : Except DefunFault Definition} :
    Describes tail r ↔ ofOperands tail = r := by
  constructor
  · exact ofOperands_of_describes
  · rintro rfl
    obtain ⟨r, hr⟩ := exists_describes tail
    rw [ofOperands_of_describes hr]
    exact hr

end Definition

/-! ## Evaluation -/

/-- What evaluation comes to in the rules: a value and the table that results, or an error. -/
inductive Conclusion (α : Type) where
  | value (a : α) (defs : Definitions)
  | error (cause : EvalError)

/-- The conclusion from an answer that leaves the table at `defs`. -/
def Conclusion.ofExcept {α : Type} (defs : Definitions) : Except EvalError α → Conclusion α
  | .ok a => .value a defs
  | .error cause => .error cause

/-- What the rules speak about: an expression, the operands of a call and the clauses of a
    conditional, each in an environment and from a table of definitions. -/
inductive Judgment where
  | expression (e : Expr) (env : Env) (defs : Definitions) (topLevel : Bool)
      (conclusion : Conclusion Expr)
  | operands (items : List Expr) (env : Env) (defs : Definitions)
      (conclusion : Conclusion (List Expr))
  | clauses (clauses : List (Expr × Expr)) (env : Env) (defs : Definitions)
      (conclusion : Conclusion Expr)

namespace Rules

/-- The token is neither a numeral nor one of the two constants. -/
structure Plain (token : String) : Prop where
  notNumeral : Numeral.isNumeral token = false
  notTruth : Symbol.key token ≠ "T"
  notNil : Symbol.key token ≠ "NIL"

/-- The name spells no special form. -/
def Ordinary (name : String) : Prop :=
  ∀ form : Eval.SpecialForm, Symbol.key name ≠ form.label

/-- The name spells no primitive. -/
def NoPrimitive (name : String) : Prop :=
  ∀ p : Primitive, Symbol.key name ≠ p.label

/-- The name spells a primitive or a defined function. -/
def Callable (name : String) (defs : Definitions) : Prop :=
  (∃ p : Primitive, Symbol.key name = p.label) ∨ ∃ d, defs.get? name = some d

/-- The value is an atom that spells `T`. -/
def Holds (value : Expr) : Prop :=
  ∃ token, value = .atom token ∧ Symbol.key token = "T"

/-- **The rules of evaluation.** -/
inductive Derivable : Judgment → Prop where
  -- atoms: numerals and constants come before variables
  | integer {token : String} {env : Env} {defs : Definitions} {top : Bool} :
      Numeral.isNumeral token = true →
      Derivable (.expression (.atom token) env defs top (.value (.atom token) defs))
  | truth {token : String} {env : Env} {defs : Definitions} {top : Bool} :
      Numeral.isNumeral token = false → Symbol.key token = "T" →
      Derivable (.expression (.atom token) env defs top (.value Expr.truth defs))
  | null {token : String} {env : Env} {defs : Definitions} {top : Bool} :
      Numeral.isNumeral token = false → Symbol.key token = "NIL" →
      Derivable (.expression (.atom token) env defs top (.value Expr.nil defs))
  | invalid {token : String} {env : Env} {defs : Definitions} {top : Bool} :
      Plain token → Symbol.isIdentifier token = false →
      Derivable (.expression (.atom token) env defs top (.error (.invalidIdentifier token)))
  | bound {token : String} {env : Env} {defs : Definitions} {top : Bool} {value : Expr} :
      Plain token → Symbol.isIdentifier token = true → env.lookup? token = some value →
      Derivable (.expression (.atom token) env defs top (.value value defs))
  | unbound {token : String} {env : Env} {defs : Definitions} {top : Bool} :
      Plain token → Symbol.isIdentifier token = true → env.lookup? token = none →
      Derivable (.expression (.atom token) env defs top (.error (.unboundIdentifier token)))
  | blank {env : Env} {defs : Definitions} {top : Bool} :
      Derivable (.expression .blank env defs top (.error .blankForm))
  -- special forms
  | illegalHead {head tail : Expr} {env : Env} {defs : Definitions} {top : Bool} :
      (∀ name, head ≠ .atom name) →
      Derivable (.expression (.pair head tail) env defs top (.error (.illegalFunctionName head)))
  | quote {name : String} {tail e : Expr} {env : Env} {defs : Definitions} {top : Bool} :
      Symbol.key name = "QUOTE" → tail.Proper [e] →
      Derivable (.expression (.pair (.atom name) tail) env defs top (.value e defs))
  | quoteArity {name : String} {tail : Expr} {env : Env} {defs : Definitions} {top : Bool} :
      Symbol.key name = "QUOTE" → (∀ e, ¬ tail.Proper [e]) →
      Derivable (.expression (.pair (.atom name) tail) env defs top
        (.error (.arityMismatch "QUOTE" 1 tail.length)))
  | malformedConditional {name : String} {tail : Expr} {env : Env} {defs : Definitions}
      {top : Bool} {fault : ClauseFault} :
      Symbol.key name = "COND" → Eval.Clauses tail (.error fault) →
      Derivable (.expression (.pair (.atom name) tail) env defs top
        (.error (.malformedConditional fault)))
  | conditional {name : String} {tail : Expr} {env : Env} {defs : Definitions} {top : Bool}
      {clauses : List (Expr × Expr)} {c : Conclusion Expr} :
      Symbol.key name = "COND" → Eval.Clauses tail (.ok clauses) →
      Derivable (.clauses clauses env defs c) →
      Derivable (.expression (.pair (.atom name) tail) env defs top c)
  | nestedDefun {name : String} {tail : Expr} {env : Env} {defs : Definitions} :
      Symbol.key name = "DEFUN" →
      Derivable (.expression (.pair (.atom name) tail) env defs false
        (.error .nestedDefunForbidden))
  | malformedDefun {name : String} {tail : Expr} {env : Env} {defs : Definitions}
      {fault : DefunFault} :
      Symbol.key name = "DEFUN" → Definition.Describes tail (.error fault) →
      Derivable (.expression (.pair (.atom name) tail) env defs true
        (.error (.malformedDefun fault)))
  | defun {name : String} {tail : Expr} {env : Env} {defs : Definitions} {d : Definition} :
      Symbol.key name = "DEFUN" → Definition.Describes tail (.ok d) →
      Derivable (.expression (.pair (.atom name) tail) env defs true
        (.value (.atom d.name) (defs.add d)))
  -- calls: the name, then the shape of the operands, then the operands, then the application
  | undefined {name : String} {tail : Expr} {env : Env} {defs : Definitions} {top : Bool} :
      Ordinary name → ¬ Callable name defs →
      Derivable (.expression (.pair (.atom name) tail) env defs top
        (.error (.undefinedFunction name)))
  | badArguments {name : String} {tail : Expr} {env : Env} {defs : Definitions} {top : Bool} :
      Ordinary name → Callable name defs → (∀ items, ¬ tail.Proper items) →
      Derivable (.expression (.pair (.atom name) tail) env defs top
        (.error (.badArguments name)))
  | operandError {name : String} {tail : Expr} {env : Env} {defs : Definitions} {top : Bool}
      {items : List Expr} {cause : EvalError} :
      Ordinary name → Callable name defs → tail.Proper items →
      Derivable (.operands items env defs (.error cause)) →
      Derivable (.expression (.pair (.atom name) tail) env defs top (.error cause))
  | primitive {name : String} {tail : Expr} {env : Env} {defs defs' : Definitions} {top : Bool}
      {items args : List Expr} {p : Primitive} {r : Except EvalError Expr} :
      Ordinary name → Symbol.key name = p.label → tail.Proper items →
      Derivable (.operands items env defs (.value args defs')) → p.Applies args r →
      Derivable (.expression (.pair (.atom name) tail) env defs top (.ofExcept defs' r))
  | wrongArity {name : String} {tail : Expr} {env : Env} {defs defs' : Definitions} {top : Bool}
      {items args : List Expr} {d : Definition} :
      Ordinary name → NoPrimitive name → defs.get? name = some d → tail.Proper items →
      Derivable (.operands items env defs (.value args defs')) →
      args.length ≠ d.formals.length →
      Derivable (.expression (.pair (.atom name) tail) env defs top
        (.error (.arityMismatch d.name d.formals.length args.length)))
  | call {name : String} {tail : Expr} {env : Env} {defs defs' : Definitions} {top : Bool}
      {items args : List Expr} {d : Definition} {c : Conclusion Expr} :
      Ordinary name → NoPrimitive name → defs.get? name = some d → tail.Proper items →
      Derivable (.operands items env defs (.value args defs')) →
      args.length = d.formals.length →
      Derivable (.expression d.body (env.extend d.formals args) defs' false c) →
      Derivable (.expression (.pair (.atom name) tail) env defs top c)
  -- operands, from left to right
  | noOperand {env : Env} {defs : Definitions} :
      Derivable (.operands [] env defs (.value [] defs))
  | firstFails {e : Expr} {rest : List Expr} {env : Env} {defs : Definitions}
      {cause : EvalError} :
      Derivable (.expression e env defs false (.error cause)) →
      Derivable (.operands (e :: rest) env defs (.error cause))
  | laterFails {e value : Expr} {rest : List Expr} {env : Env} {defs defs' : Definitions}
      {cause : EvalError} :
      Derivable (.expression e env defs false (.value value defs')) →
      Derivable (.operands rest env defs' (.error cause)) →
      Derivable (.operands (e :: rest) env defs (.error cause))
  | evaluated {e value : Expr} {rest values : List Expr} {env : Env}
      {defs defs' defs'' : Definitions} :
      Derivable (.expression e env defs false (.value value defs')) →
      Derivable (.operands rest env defs' (.value values defs'')) →
      Derivable (.operands (e :: rest) env defs (.value (value :: values) defs''))
  -- clauses, from left to right
  | noClause {env : Env} {defs : Definitions} :
      Derivable (.clauses [] env defs (.error .noMatchingClause))
  | testFails {test result : Expr} {rest : List (Expr × Expr)} {env : Env} {defs : Definitions}
      {cause : EvalError} :
      Derivable (.expression test env defs false (.error cause)) →
      Derivable (.clauses ((test, result) :: rest) env defs (.error cause))
  | selected {test result value : Expr} {rest : List (Expr × Expr)} {env : Env}
      {defs defs' : Definitions} {c : Conclusion Expr} :
      Derivable (.expression test env defs false (.value value defs')) → Holds value →
      Derivable (.expression result env defs' false c) →
      Derivable (.clauses ((test, result) :: rest) env defs c)
  | skipped {test result value : Expr} {rest : List (Expr × Expr)} {env : Env}
      {defs defs' : Definitions} {c : Conclusion Expr} :
      Derivable (.expression test env defs false (.value value defs')) → ¬ Holds value →
      Derivable (.clauses rest env defs' c) →
      Derivable (.clauses ((test, result) :: rest) env defs c)

end Rules
end PairLisp
