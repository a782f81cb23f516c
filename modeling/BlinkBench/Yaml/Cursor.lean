import BlinkBench.Yaml.Char
/-!
# A place in a YAML text

What is still to be read, with the line and the column of the next character. Columns decide
indentation, lines and columns together decide how far back a mapping key may start.
-/
namespace BlinkBench.Yaml

/-- The rest of a text and where it starts. -/
structure Cursor where
  rest : List Char
  line : Nat
  column : Nat
deriving Repr

namespace Cursor

/-- The start of a text. -/
def start (text : List Char) : Cursor :=
  { rest := text, line := 0, column := 0 }

/-- Passes one character that is no break. -/
def skip (c : Cursor) : Cursor :=
  { c with rest := c.rest.tail, column := c.column + 1 }

/-- Passes `n` characters that are no breaks. -/
def skipMany (c : Cursor) (n : Nat) : Cursor :=
  { c with rest := c.rest.drop n, column := c.column + n }

/-- Passes one break. -/
def skipBreak (c : Cursor) : Cursor :=
  { rest := c.rest.tail, line := c.line + 1, column := 0 }

/-- Passes the characters up to the first that fails `p`; `p` admits no break. -/
def skipWhile (p : Char → Bool) (c : Cursor) : Cursor :=
  c.skipMany (c.rest.takeWhile p).length

/-- The characters up to the first that fails `p`, and the place after them. -/
def span (p : Char → Bool) (c : Cursor) : List Char × Cursor :=
  let word := c.rest.takeWhile p
  (word, c.skipMany word.length)

/-- Passes blanks, a comment if one follows, and the break that has to come then. -/
def skipLineEnd? (c : Cursor) : Option Cursor :=
  let c := c.skipWhile isBlank
  let c := if c.rest.head? == some '#' then c.skipWhile (!isBreak ·) else c
  match c.rest with
  | [] => some c
  | b :: _ => if isBreak b then some c.skipBreak else none

end Cursor

/-- Passes spaces, comments and breaks up to the next token. Tabs count as spaces inside flow
collections, and elsewhere until the first break if `tabs` is set. A mark of byte order may start
a line, and counts as a column. Also says whether a break was passed. -/
def skipGap (flow : Bool) :
    (tabs comment broken : Bool) → List Char → Nat → Nat → Cursor × Bool
  | _, _, broken, [], line, column => (⟨[], line, column⟩, broken)
  | tabs, comment, broken, c :: rest, line, column =>
    if isBreak c then skipGap flow flow false true rest (line + 1) 0
    else if comment then skipGap flow tabs true broken rest line (column + 1)
    else if c == ' ' || (tabs && c == '\t') || (column == 0 && c == '\ufeff') then
      skipGap flow tabs false broken rest line (column + 1)
    else if c == '#' then skipGap flow tabs true broken rest line (column + 1)
    else (⟨c :: rest, line, column⟩, broken)

end BlinkBench.Yaml
