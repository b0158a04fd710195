import PairLisp.Text.Case
import PairLisp.Text.CharClass

/-!
# Symbols

Names are compared without regard to case: two spellings are the same name when their keys agree.
Values keep the spelling they were written with, so the key is computed where a comparison is made
and never stored in place of the spelling.
-/

namespace PairLisp.Symbol

/-- The spelling under which names are compared. -/
def key (name : String) : String :=
  Text.upper name

/-- Whether a token spells the empty list. -/
def isNil (token : String) : Bool :=
  key token == "NIL"

/-- Whether a token spells truth. -/
def isTrue (token : String) : Bool :=
  key token == "T"

/-- Whether a token can name a variable or a function: a letter, then letters and numbers. -/
def isIdentifier (token : String) : Bool :=
  match token.toList with
  | [] => false
  | c :: cs => Text.isLetter c && cs.all Text.isLetterOrNumber

end PairLisp.Symbol
