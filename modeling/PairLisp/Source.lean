/-!
# Sources of text

Text arrives in chunks, usually lines, and a chunk is asked for only when it is needed. A source
keeps the chunks still to come together with the number of those asked for so far, so that
reading ahead can be seen.
-/

namespace PairLisp

/-- Chunks still to come. -/
structure Source where
  /-- The chunks that have not been asked for yet. -/
  pending : List String
  /-- How many times a chunk has been asked for. -/
  asked : Nat
  /-- How many requests it takes to learn that nothing is left: one where the end shows as an
      empty line, none where the supply itself knows its end. -/
  closing : Nat
deriving DecidableEq

namespace Source

/-- A supply of chunks that knows its end. An empty chunk is a chunk like any other. -/
def ofChunks (chunks : List String) : Source :=
  ⟨chunks, 0, 0⟩

/-- One text as a single chunk. -/
def ofString (text : String) : Source :=
  ofChunks [text]

/-- A supply of lines whose end shows as an empty line. -/
def ofLines (lines : List String) : Source :=
  ⟨lines.takeWhile (· ≠ ""), 0, 1⟩

/-- The lines of a text, each with the line feed that ends it; `line` holds the characters of the
    current line, latest first. -/
def splitLines (line : List Char) : List Char → List String
  | [] => if line.isEmpty then [] else [String.ofList line.reverse]
  | c :: cs =>
    if c = '\n' then String.ofList (c :: line).reverse :: splitLines [] cs
    else splitLines (c :: line) cs

/-- A text read line by line. -/
def ofText (text : String) : Source :=
  ofLines (splitLines [] text.toList)

/-- Line feeds in place of the pairs of carriage return and line feed and of the single carriage
    returns in a text. -/
def unifyNewlines : List Char → List Char
  | [] => []
  | '\r' :: '\n' :: cs => '\n' :: unifyNewlines cs
  | '\r' :: cs => '\n' :: unifyNewlines cs
  | c :: cs => c :: unifyNewlines cs

/-- The text of a file read line by line, whatever its line ends are. -/
def ofFile (text : String) : Source :=
  ofText (String.ofList (unifyNewlines text.toList))

/-- Asks for the next chunk. Once the end is known, no further request is made. -/
def next (source : Source) : Option String × Source :=
  match source.pending with
  | chunk :: chunks => (some chunk, ⟨chunks, source.asked + 1, source.closing⟩)
  | [] => (none, ⟨[], source.asked + source.closing, 0⟩)

end Source
end PairLisp
