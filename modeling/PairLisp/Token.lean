/-!
# Tokens

Text falls into parentheses, dots and symbols, separated by spaces, tabs, carriage returns and
line feeds. A parenthesis always stands alone. A dot stands alone where a token begins; inside a
symbol it is an ordinary character. Every other run of characters is a symbol, kept verbatim.

A text is split by itself: a symbol never continues from one text into the next.
-/

namespace PairLisp

/-- What part a token plays. -/
inductive TokenKind where
  | lparen
  | rparen
  | dot
  | symbol
deriving DecidableEq

/-- A token: its part, and the characters it was read from. -/
structure Token where
  kind : TokenKind
  text : String
deriving DecidableEq

namespace Token

/-- Whether a character only separates tokens. -/
def isBlank (c : Char) : Bool :=
  c == ' ' || c == '\t' || c == '\r' || c == '\n'

/-- Whether a character may stand inside a symbol. -/
def isSymbolChar (c : Char) : Bool :=
  !(isBlank c || c == '(' || c == ')')

/-- The opening parenthesis. -/
def lparen : Token := ⟨.lparen, "("⟩

/-- The closing parenthesis. -/
def rparen : Token := ⟨.rparen, ")"⟩

/-- The dot. -/
def dot : Token := ⟨.dot, "."⟩

/-- A symbol. -/
def symbol (cs : List Char) : Token := ⟨.symbol, String.ofList cs⟩

/-- Appends the tokens of a text to those already found, which are kept latest first. -/
def lexOnto (found : List Token) : List Char → List Token
  | [] => found
  | c :: cs =>
    if isBlank c then lexOnto found cs
    else if c == '(' then lexOnto (lparen :: found) cs
    else if c == ')' then lexOnto (rparen :: found) cs
    else if c == '.' then lexOnto (dot :: found) cs
    else lexOnto (symbol (c :: cs.takeWhile isSymbolChar) :: found) (cs.dropWhile isSymbolChar)
termination_by cs => cs.length
decreasing_by
  iterate 4 exact Nat.lt_succ_self _
  exact Nat.lt_succ_of_le (List.dropWhile_sublist isSymbolChar).length_le

/-- The tokens of a text. -/
def lex (text : String) : List Token :=
  (lexOnto [] text.toList).reverse

end Token
end PairLisp
