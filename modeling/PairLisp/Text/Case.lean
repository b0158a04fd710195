import PairLisp.Text.LowerTable
import PairLisp.Text.Spans
import PairLisp.Text.UpperTable

/-!
# Upper and lower case

Full case mapping of texts. `upper` works character by character, and a character may become two
or three (`ß` becomes `SS`). `lower` does too, except that a capital sigma at the end of a word
has a small form of its own. Within ASCII both are the familiar maps, and they are kept apart
from the tables so that a statement about ASCII names never looks into one.
-/

namespace PairLisp.Text

/-- The upper case form of one character. -/
def upperChar (c : Char) : List Char :=
  if c.toNat < 128 then [c.toUpper]
  else match upperExpansions.lookup c.toNat with
    | some codes => codes.map Char.ofNat
    | none => match upperRuns.find? (·.covers c.toNat) with
      | some run => [Char.ofNat (run.image c.toNat)]
      | none => [c]

/-- The upper case form of a text: that of its characters, one after the other. -/
def upper (s : String) : String :=
  String.ofList (s.toList.flatMap upperChar)

/-- The lower case form of one character that stands by itself. -/
def lowerChar (c : Char) : List Char :=
  if c.toNat < 128 then [c.toLower]
  else match lowerExpansions.lookup c.toNat with
    | some codes => codes.map Char.ofNat
    | none => match lowerRuns.find? (·.covers c.toNat) with
      | some run => [Char.ofNat (run.image c.toNat)]
      | none => [c]

/-- Whether a character has case, as far as the end of a word is concerned. -/
def isCased (c : Char) : Bool :=
  if c.toNat < 128 then c.isAlpha else inSpans casedSpans c.toNat

/-- Whether a character is passed over when looking for the end of a word. -/
def isCaseIgnorable (c : Char) : Bool :=
  inSpans caseIgnorableSpans c.toNat

/-- Whether the nearest character that counts has case. -/
def nextIsCased (cs : List Char) : Bool :=
  (cs.dropWhile isCaseIgnorable).head?.any isCased

/-- The lower case form of `after`, which follows the characters `before`, nearest first. A sigma
    that ends a word, with a cased character before it and none behind it, is written `ς`. -/
def lowerFrom (before : List Char) : List Char → List Char
  | [] => []
  | c :: after =>
    let small :=
      if c = 'Σ' then [if nextIsCased before && !nextIsCased after then 'ς' else 'σ']
      else lowerChar c
    small ++ lowerFrom (c :: before) after

/-- The lower case form of a text. -/
def lower (s : String) : String :=
  String.ofList (lowerFrom [] s.toList)

/-! ## ASCII -/

theorem upperChar_ascii {c : Char} (h : c.toNat < 128) : upperChar c = [c.toUpper] := by
  simp [upperChar, h]

@[simp] theorem toList_upper (s : String) : (upper s).toList = s.toList.flatMap upperChar := by
  simp [upper]

end PairLisp.Text
