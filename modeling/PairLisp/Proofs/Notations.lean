import PairLisp.Proofs.ListNotation
import PairLisp.Proofs.RoundTrip

/-!
# The two notations by their rules

A notation is given by rules: how an atom is written, and how a pair is written from the texts of its
parts. `DotRules` and `ListRules` state the rules of the two notations for any function from
expressions to texts. The writers do not recurse as the rules do, they work off a stack of pending
pieces. This file shows that following the rules and being the writer is the same:

* what is still pending stands for a text of its own, whatever has been written before
  (`writeDotted_eq`, `writeListed_eq`), so the writers follow the rules (`dotRules_dotText`,
  `listRules_listing`);
* the rules leave no choice, by induction on the expression (`DotRules.unique`, `ListRules.unique`).
  For a list that goes on, the rule speaks of what its rest has between the parentheses, and the text
  of the rest determines that (`enclosed_inj`).
-/

namespace PairLisp.Expr

/-! ## The rules -/

/-- The rules of dot notation: an atom is its token, and a pair is its two parts with a dot between
    them, in parentheses. The blank is no text. -/
structure DotRules (write : Expr → String) : Prop where
  atom (token : String) : write (.atom token) = token
  pair (first rest : Expr) :
    write (.pair first rest) = "(" ++ write first ++ " . " ++ write rest ++ ")"
  blank : write .blank = ""

/-- A text in parentheses. -/
def enclosed (text : String) : String :=
  "(" ++ text ++ ")"

/-- The rules of list notation: an atom is its token. In a pair, the first part is followed by
    nothing if the rest is null, by a dot and the rest if that is another atom, and by a blank and
    what the rest has between its parentheses if that is a pair. The blank is no text, and a list that
    ends in it cannot be written, nor can what has such a list in it. -/
structure ListRules (write : Expr → Except Misuse String) : Prop where
  atom (token : String) : write (.atom token) = .ok token
  pair_null (first : Expr) {token : String} (h : Symbol.isNil token = true) :
    write (.pair first (.atom token)) = (write first).map enclosed
  pair_atom (first : Expr) {token : String} (h : Symbol.isNil token = false) :
    write (.pair first (.atom token)) =
      (write first).map fun text => enclosed (text ++ " . " ++ token)
  pair_pair (first second rest : Expr) :
    ∃ contents : Except Misuse String, write (.pair second rest) = contents.map enclosed ∧
      write (.pair first (.pair second rest)) =
        (write first).bind fun text => contents.map fun inner => enclosed (text ++ " " ++ inner)
  blank : write .blank = .ok ""
  pair_blank (first : Expr) : write (.pair first .blank) = .error .noToken

/-- A text in parentheses determines the text between them. -/
theorem enclosed_inj {s t : String} (h : enclosed s = enclosed t) : s = t := by
  have hlists := congrArg String.toList h
  simp only [enclosed, String.toList_append] at hlists
  exact String.toList_inj.mp (List.append_cancel_left (List.append_cancel_right hlists))

theorem map_enclosed_inj {r r' : Except Misuse String} (h : r.map enclosed = r'.map enclosed) :
    r = r' := by
  cases r with
  | error cause =>
      cases r' with
      | error cause' => exact congrArg Except.error (Except.error.inj h)
      | ok _ => cases h
  | ok text =>
      cases r' with
      | error _ => cases h
      | ok text' => exact congrArg Except.ok (enclosed_inj (Except.ok.inj h))

/-! ## There is no choice -/

/-- The rules of dot notation leave no choice. -/
theorem DotRules.unique {write write' : Expr → String} (h : DotRules write)
    (h' : DotRules write') : write = write' := by
  funext e
  induction e with
  | atom token => rw [h.atom, h'.atom]
  | pair first rest ihfirst ihrest => rw [h.pair, h'.pair, ihfirst, ihrest]
  | blank => rw [h.blank, h'.blank]

/-- The rules of list notation leave no choice, neither for texts nor for what has none. -/
theorem ListRules.unique {write write' : Expr → Except Misuse String} (h : ListRules write)
    (h' : ListRules write') : write = write' := by
  funext e
  induction e with
  | atom token => rw [h.atom, h'.atom]
  | blank => rw [h.blank, h'.blank]
  | pair first rest ihfirst ihrest =>
      cases rest with
      | atom token =>
          cases hnil : Symbol.isNil token with
          | true => rw [h.pair_null first hnil, h'.pair_null first hnil, ihfirst]
          | false => rw [h.pair_atom first hnil, h'.pair_atom first hnil, ihfirst]
      | blank => rw [h.pair_blank, h'.pair_blank]
      | pair second rest =>
          obtain ⟨contents, hrest, hpair⟩ := h.pair_pair first second rest
          obtain ⟨contents', hrest', hpair'⟩ := h'.pair_pair first second rest
          -- the texts of the rest agree, and with them what stands between its parentheses
          have hcontents : contents = contents' := by
            apply map_enclosed_inj
            rw [← hrest, ← hrest', ihrest]
          rw [hpair, hpair', ihfirst, hcontents]

/-! ## The writers follow the rules -/

theorem dotRules_dotText : DotRules dotText where
  atom token := dotText_eq_dotted _
  pair first rest := by
    simp only [dotText_eq_dotted]
    rfl
  blank := dotText_eq_dotted _

/-- What follows the items of a list ends with the closing parenthesis. -/
theorem exists_listedRest_eq (e : Expr) : ∃ text, e.listedRest = text ++ ")" := by
  induction e with
  | atom token =>
      cases hnil : Symbol.isNil token with
      | true => exact ⟨"", by simp [listedRest, hnil]⟩
      | false => exact ⟨" . " ++ token, by simp [listedRest, hnil]⟩
  | pair first rest _ ihrest =>
      obtain ⟨text, htext⟩ := ihrest
      refine ⟨" " ++ first.listed ++ text, ?_⟩
      simp only [listedRest, htext, String.append_assoc]
  | blank => exact ⟨"", rfl⟩

theorem listRules_listing : ListRules listing where
  atom token := listing_eq _
  pair_null first token h := by
    rw [listing_eq, listing_eq]
    cases hfirst : first.listable <;>
      simp [listable, isBlank, hfirst, listed, listedRest, h, enclosed, Except.map]
  pair_atom first token h := by
    rw [listing_eq, listing_eq]
    cases hfirst : first.listable <;>
      simp [listable, isBlank, hfirst, listed, listedRest, h, enclosed, Except.map,
        String.append_assoc]
  pair_pair first second rest := by
    obtain ⟨text, htext⟩ := exists_listedRest_eq rest
    refine ⟨if (pair second rest).listable then .ok (second.listed ++ text) else .error .noToken,
      ?_, ?_⟩
    · rw [listing_eq]
      cases (pair second rest).listable <;>
        simp [listed, htext, enclosed, Except.map, String.append_assoc]
    · rw [listing_eq, listing_eq, listable]
      cases first.listable <;> cases (pair second rest).listable <;>
        simp [isBlank, listed, listedRest, htext, enclosed, Except.map, Except.bind,
          String.append_assoc]
  blank := listing_eq _
  pair_blank first := by
    rw [listing_eq]
    simp [listable, isBlank]

/-- **Each notation is written by its recursive definition, and by nothing else.** A function on
    expressions follows the rules of dot notation exactly if it is the writer of dot notation, and so
    for list notation: the writers, which keep a stack of pending pieces, have the texts that the
    recursion gives, at any depth and with any tokens. Every expression has a text in dot notation, and
    every one without blanks has a text in list notation. -/
theorem writers_are_recursive_definitions :
    (∀ write : Expr → String, DotRules write ↔ write = dotText) ∧
    (∀ write : Expr → Except Misuse String, ListRules write ↔ write = listing) ∧
    ∀ e : Expr, e.ComposedOf (fun _ => True) False → ∃ text, e.listing = .ok text := by
  refine ⟨fun write => ⟨fun h => h.unique dotRules_dotText, ?_⟩,
    fun write => ⟨fun h => h.unique listRules_listing, ?_⟩, ?_⟩
  · rintro rfl
    exact dotRules_dotText
  · rintro rfl
    exact listRules_listing
  · intro e he
    exact ⟨_, listing_eq_ok (he.listable id)⟩

/-- A list in a list, the one ending in `NIL` in lower case and the other in another atom. -/
theorem writers_are_recursive_definitions_two_ends :
    let e : Expr := .pair (.pair (.atom "A") (.atom "nil")) (.pair (.atom "B") (.atom "C"))
    e.ComposedOf (fun _ => True) False ∧ (∃ text, e.listing = .ok text) ∧
      e.listing = .ok "((A) B . C)" ∧ e.dotText = "((A . nil) . (B . C))" := by
  intro e
  have he : e.ComposedOf (fun _ => True) False := by simp [e, ComposedOf]
  exact ⟨he, writers_are_recursive_definitions.2.2 e he, by decide +kernel, by decide +kernel⟩

end PairLisp.Expr
