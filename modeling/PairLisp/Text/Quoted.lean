import PairLisp.Text.CharClass

/-!
# Quoted texts

How messages show a text that came from outside: between quotes, with everything that is not
printable written as an escape. Apostrophes are used as quotes unless the text holds one and no
double quote.
-/

namespace PairLisp.Text

/-- The apostrophe, the usual quote. -/
def apostrophe : Char := Char.ofNat 39

/-- The double quote, used when the text holds an apostrophe and no double quote. -/
def doubleQuote : Char := Char.ofNat 34

/-- The quote that goes around a text. -/
def quoteFor (cs : List Char) : Char :=
  if cs.contains apostrophe && !cs.contains doubleQuote then doubleQuote else apostrophe

/-- The number `n` in hexadecimal, filled up with zeros to `width` digits. -/
def hex (width n : Nat) : List Char :=
  let digits := Nat.toDigits 16 n
  List.replicate (width - digits.length) '0' ++ digits

/-- An escape by number: two, four or eight digits, whichever is enough. -/
def escapeNumber (n : Nat) : List Char :=
  if n < 0x100 then '\\' :: 'x' :: hex 2 n
  else if n < 0x10000 then '\\' :: 'u' :: hex 4 n
  else '\\' :: 'U' :: hex 8 n

/-- One character as it stands between the quotes `quote`. -/
def quotedChar (quote c : Char) : List Char :=
  if c = quote || c = '\\' then ['\\', c]
  else if c = '\t' then ['\\', 't']
  else if c = '\n' then ['\\', 'n']
  else if c = '\r' then ['\\', 'r']
  else if isPrintable c then [c]
  else escapeNumber c.toNat

/-- A text between quotes. -/
def quoted (s : String) : String :=
  let cs := s.toList
  let quote := quoteFor cs
  String.ofList (quote :: cs.flatMap (quotedChar quote) ++ [quote])

end PairLisp.Text
