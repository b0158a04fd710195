import PairLisp.Text.LetterTable
import PairLisp.Text.NumberTable
import PairLisp.Text.PrintableTable
import PairLisp.Text.Spans

/-!
# Classes of characters

The classes that names, numbers and messages rest on: letters, numeric characters, decimal digits
with their values, white space and printable characters. Each is given within ASCII by a
condition on the code point and beyond it by a table.
-/

namespace PairLisp.Text

/-- Whether `c` belongs to one of the letter categories. -/
def isLetter (c : Char) : Bool :=
  if c.toNat < 128 then c.isAlpha else inSpans letterSpans c.toNat

/-- Whether `c` is numeric without being a letter: digits of any script, fractions, Roman and
    circled numbers, superscripts. -/
def isNumber (c : Char) : Bool :=
  if c.toNat < 128 then c.isDigit else inSpans numberSpans c.toNat

/-- Whether `c` may stand inside a name. -/
def isLetterOrNumber (c : Char) : Bool :=
  isLetter c || isNumber c

/-- The value of a decimal digit of any script. -/
def digitValue? (c : Char) : Option Nat :=
  (digitZeros.find? fun z => z ≤ c.toNat && c.toNat ≤ z + 9).map (c.toNat - ·)

/-- The white space that is trimmed off configured values, as closed spans. -/
def spaceSpans : List (Nat × Nat) :=
  [(0x9, 0xD), (0x1C, 0x20), (0x85, 0x85), (0xA0, 0xA0), (0x1680, 0x1680), (0x2000, 0x200A),
   (0x2028, 0x2029), (0x202F, 0x202F), (0x205F, 0x205F), (0x3000, 0x3000)]

/-- Whether `c` is white space. -/
def isSpace (c : Char) : Bool :=
  inSpans spaceSpans c.toNat

/-- A text without the white space at its two ends. -/
def trim (s : String) : String :=
  String.ofList ((s.toList.dropWhile isSpace).reverse.dropWhile isSpace).reverse

/-- Whether `c` can be shown as it is. -/
def isPrintable (c : Char) : Bool :=
  if c.toNat < 128 then 32 ≤ c.toNat && c.toNat < 127 else inSpans printableSpans c.toNat

end PairLisp.Text
