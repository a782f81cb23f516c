import BlinkBench.Yaml.Cursor
import BlinkBench.Yaml.Scalar.Folding
/-!
# Plain scalars

A plain scalar has no marks of its own. It ends before a colon that a blank follows, before a
comment, before a line that is not indented enough, before a document marker, and inside a flow
collection also before the characters that structure the collection.
-/
namespace BlinkBench.Yaml

/-- The characters that may not follow a colon directly inside a flow collection. -/
def isFlowClash (c : Char) : Bool :=
  c == ',' || c == '?' || c == '[' || c == ']' || c == '\x7b' || c == '\x7d'

/-- The characters that end a plain scalar inside a flow collection. -/
def isFlowMark (c : Char) : Bool :=
  c == ',' || c == '[' || c == ']' || c == '\x7b' || c == '\x7d'

/-- Whether a plain scalar can start with the character `c` when `rest` follows it. -/
def startsPlain (flow : Bool) (c : Char) (rest : List Char) : Bool :=
  if c == '-' then !(rest.head?.any isBlank)
  else if c == '?' || c == ':' then !flow && !atSpace rest
  else !(isBlank c || isBreak c || isFlowMark c || c == '#' || c == '&' || c == '*' || c == '!' ||
    c == '|' || c == '>' || c == '\'' || c == '"' || c == '%' || c == '@' || c == '\x60')

/-- Reads a plain scalar whose lines after the first are indented by `indent` columns. The answer
is the scalar, with `broken` set if the place after it is on a fresh line. Nothing is read where
a colon clashes with a flow mark, or where a tab stands in for indentation. -/
def readPlain (flow : Bool) (indent : Nat) :
    List Char → (line column : Nat) → Folding → Option (Folding × Cursor)
  | [], line, column, f => some (f, ⟨[], line, column⟩)
  | c :: rest, line, column, f =>
    if isBlank c then
      if f.broken && column < indent && c == '\t' then none
      else readPlain flow indent rest line (column + 1) (f.addBlank c)
    else if isBreak c then readPlain flow indent rest (line + 1) 0 (f.addBreak c)
    else if f.isWaiting && ((!flow && column < indent) || c == '#') then
      some (f, ⟨c :: rest, line, column⟩)
    else if column == 0 && atDocumentMark (c :: rest) then some (f, ⟨c :: rest, line, column⟩)
    else if flow && c == ':' && rest.head?.any isFlowClash then none
    else if (c == ':' && atSpace rest) || (flow && isFlowMark c) then
      some (f, ⟨c :: rest, line, column⟩)
    else readPlain flow indent rest line (column + 1) (f.addChar c)

end BlinkBench.Yaml
