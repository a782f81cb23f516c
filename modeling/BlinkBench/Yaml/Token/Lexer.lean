import BlinkBench.Yaml.Token
import BlinkBench.Yaml.Scalar.Plain
import BlinkBench.Yaml.Scalar.Quoted
import BlinkBench.Yaml.Scalar.Block
/-!
# From text to tokens

The tokens of a text, or nothing if no tokens spell it. A mapping key is only known as such when
its colon comes, so each place where one may start is remembered and the key token is put there
afterwards. A key has to be on one line and within 1024 columns of its colon.
-/
namespace BlinkBench.Yaml

/-- A place where a mapping key may have started. -/
structure KeyPlace where
  /-- How many tokens were read before it. -/
  index : Nat
  line : Nat
  column : Nat
  /-- Whether the text makes sense only if a key started here. -/
  required : Bool
deriving Repr

/-- The state between two tokens. -/
structure Lexer where
  cursor : Cursor
  /-- The tokens so far, newest first. -/
  tokens : List Token := []
  count : Nat := 0
  /-- The column of the innermost block collection, if there is one. -/
  indent : Option Nat := none
  /-- The columns of the block collections around it. -/
  outer : List (Option Nat) := []
  /-- Whether a key may start at the next token. -/
  keyAllowed : Bool := true
  /-- The last place in the innermost collection where a key may have started. -/
  place : Option KeyPlace := none
  /-- Such places in the collections around it, one for each flow collection that is open. -/
  places : List (Option KeyPlace) := []

namespace Lexer

/-- Whether a flow collection is open. -/
def inFlow (lx : Lexer) : Bool :=
  !lx.places.isEmpty

/-- The least column of a continuation line. -/
def contentIndent (lx : Lexer) : Nat :=
  match lx.indent with
  | none => 0
  | some n => n + 1

/-- Adds a token. -/
def emit (lx : Lexer) (t : Token) : Lexer :=
  { lx with tokens := t :: lx.tokens, count := lx.count + 1 }

/-- Adds a token before those from the `index`-th on. -/
def insert (lx : Lexer) (index : Nat) (t : Token) : Lexer :=
  let later := lx.count - index
  { lx with
    tokens := lx.tokens.take later ++ t :: lx.tokens.drop later
    count := lx.count + 1 }

/-- Forgets the place where a key may have started. -/
def dropPlace? (lx : Lexer) : Option Lexer :=
  match lx.place with
  | some p => if p.required then none else some { lx with place := none }
  | none => some lx

/-- Remembers that a key may start here. -/
def savePlace? (lx : Lexer) : Option Lexer :=
  if lx.keyAllowed then do
    let lx ← lx.dropPlace?
    return { lx with
      place := some {
        index := lx.count
        line := lx.cursor.line
        column := lx.cursor.column
        required := !lx.inFlow && lx.indent == some lx.cursor.column } }
  else some lx

/-- Whether a key that started at `p` could still end here. -/
def isFresh (lx : Lexer) (p : KeyPlace) : Bool :=
  p.line == lx.cursor.line && lx.cursor.column ≤ p.column + 1024

/-- A place that is too far back is given up, unless a key was required there. -/
def refresh? (lx : Lexer) : Option KeyPlace → Option (Option KeyPlace)
  | some p => if lx.isFresh p then some (some p) else if p.required then none else some none
  | none => some none

/-- Gives up all places that are too far back. -/
def dropStale? (lx : Lexer) : Option Lexer := do
  return { lx with
    place := ← lx.refresh? lx.place
    places := ← lx.places.mapM lx.refresh? }

/-- Whether a block collection at `column` would lie inside the innermost one. -/
def isDeeper (lx : Lexer) (column : Nat) : Bool :=
  lx.indent.all (· < column)

/-- Opens a block collection at `column`, if this is deeper than the innermost one. Its first
token goes before those from the `index`-th on. -/
def openBlock (lx : Lexer) (column index : Nat) (t : Token) : Lexer :=
  if !lx.inFlow && lx.isDeeper column then
    { lx.insert index t with indent := some column, outer := lx.indent :: lx.outer }
  else lx

/-- Closes the block collections for which the stack holds columns beyond `column`. -/
def closeBlocks (column : Option Nat) :
    Option Nat → List (Option Nat) → List Token → Nat → Option Nat × List (Option Nat) × List Token × Nat
  | some n, next :: outer, tokens, count =>
    if column.all (· < n) then closeBlocks column next outer (.blockEnd :: tokens) (count + 1)
    else (some n, next :: outer, tokens, count)
  | indent, outer, tokens, count => (indent, outer, tokens, count)

/-- Closes the block collections that `column` is too far left for; all of them if it is `none`. -/
def closeTo (lx : Lexer) (column : Option Nat) : Lexer :=
  if lx.inFlow then lx
  else
    let (indent, outer, tokens, count) := closeBlocks column lx.indent lx.outer lx.tokens lx.count
    { lx with indent, outer, tokens, count }

/-- Moves the cursor. -/
def move (lx : Lexer) (c : Cursor) : Lexer :=
  { lx with cursor := c }

/-- Passes spaces, comments and breaks. After a break a key may start, except inside a flow
collection. -/
def skipGap (lx : Lexer) : Lexer :=
  let (cursor, broken) :=
    Yaml.skipGap lx.inFlow (lx.inFlow || !lx.keyAllowed) false false
      lx.cursor.rest lx.cursor.line lx.cursor.column
  { lx with cursor, keyAllowed := lx.keyAllowed || (broken && !lx.inFlow) }

/-- A token that ends whatever came before it, at the left margin. -/
def atMargin? (lx : Lexer) : Option Lexer := do
  return { ← (lx.closeTo none).dropPlace? with keyAllowed := false }

/-- A token of one character that a key may start with. -/
def openFlow? (lx : Lexer) (t : Token) : Option Lexer := do
  let lx ← lx.savePlace?
  return { lx.emit t with
    cursor := lx.cursor.skip
    places := lx.place :: lx.places
    place := none
    keyAllowed := true }

/-- The end of a flow collection. Outside of one this is left to the reader of nodes. -/
def closeFlow? (lx : Lexer) (t : Token) : Option Lexer := do
  let lx ← lx.dropPlace?
  let lx := match lx.places with
    | place :: places => { lx with place, places }
    | [] => lx
  return { lx.emit t with cursor := lx.cursor.skip, keyAllowed := false }

/-- A comma between the entries of a flow collection. -/
def flowEntry? (lx : Lexer) : Option Lexer := do
  let lx ← lx.dropPlace?
  return { lx.emit .flowEntry with cursor := lx.cursor.skip, keyAllowed := true }

/-- The dash of an entry of a block sequence. -/
def blockEntry? (lx : Lexer) : Option Lexer := do
  if !lx.inFlow && !lx.keyAllowed then none
  let lx := lx.openBlock lx.cursor.column lx.count .blockSequenceStart
  let lx ← lx.dropPlace?
  return { lx.emit .blockEntry with cursor := lx.cursor.skip, keyAllowed := true }

/-- The question mark of a key that is marked as such. -/
def explicitKey? (lx : Lexer) : Option Lexer := do
  if !lx.inFlow && !lx.keyAllowed then none
  let lx := lx.openBlock lx.cursor.column lx.count .blockMappingStart
  let lx ← lx.dropPlace?
  return { lx.emit .key with cursor := lx.cursor.skip, keyAllowed := !lx.inFlow }

/-- The colon before a value. If a key may have started before it, this is where it did. -/
def value? (lx : Lexer) : Option Lexer := do
  let lx ← match lx.place with
    | some p =>
      let lx := (lx.insert p.index .key).openBlock p.column p.index .blockMappingStart
      some { lx with place := none, keyAllowed := false }
    | none =>
      if !lx.inFlow && !lx.keyAllowed then none
      else
        let lx := lx.openBlock lx.cursor.column lx.count .blockMappingStart
        some { lx with keyAllowed := !lx.inFlow }
  return { lx.emit .value with cursor := lx.cursor.skip }

/-- A token that a key may consist of, and that no key may start right after. -/
def content? (lx : Lexer) (read : Cursor → Option (Token × Cursor)) : Option Lexer := do
  let lx ← lx.savePlace?
  let (t, cursor) ← read lx.cursor
  return { lx.emit t with cursor, keyAllowed := false }

/-- Whether an anchor's name may end before what follows. -/
def endsName : List Char → Bool
  | [] => true
  | c :: _ =>
    isBlank c || isBreak c || c == '?' || c == ':' || c == ',' || c == ']' || c == '\x7d' ||
      c == '%' || c == '@' || c == '\x60'

/-- Reads the name of an anchor or of an alias, behind its mark. -/
def readName? (make : String → Token) (c : Cursor) : Option (Token × Cursor) :=
  let (name, c) := c.skip.span isWordChar
  if !name.isEmpty && endsName c.rest then some (make (String.ofList name), c) else none

/-- Reads a scalar in quotes. -/
def readQuoted? (double : Bool) (c : Cursor) : Option (Token × Cursor) := do
  let c := c.skip
  if double then
    let (f, c) ← readDoubleQuoted 0 0 c.rest c.line c.column {}
    return (.scalar .doubleQuoted f.toText, c)
  else
    let (f, c) ← readSingleQuoted c.rest c.line c.column {}
    return (.scalar .singleQuoted f.toText, c)

/-- A block scalar. A key may start right after it, as it ends with a line. -/
def blockScalar? (lx : Lexer) (folded : Bool) : Option Lexer := do
  let lx ← lx.dropPlace?
  let (header, c) ← readBlockHeader? lx.cursor.skip
  let c ← c.skipLineEnd?
  let indent := header.increment.map ((lx.indent.getD 0) + ·)
  let (b, cursor) ←
    readBlockLines folded (max lx.contentIndent 1) c.rest c.line c.column { indent }
  let style := if folded then ScalarStyle.folded else .literal
  return { lx.emit (.scalar style (b.finish header.chomping)) with cursor, keyAllowed := true }

/-- A plain scalar. A key may start right after it if it ended with its line. -/
def plainScalar? (lx : Lexer) : Option Lexer := do
  let lx ← lx.savePlace?
  let (f, cursor) ←
    readPlain lx.inFlow lx.contentIndent lx.cursor.rest lx.cursor.line lx.cursor.column {}
  return { lx.emit (.scalar .plain f.toText) with cursor, keyAllowed := f.broken }

/-- The next token, which starts with the character `c`. -/
def fetch? (lx : Lexer) (c : Char) (rest : List Char) : Option Lexer :=
  let flow := lx.inFlow
  if lx.cursor.column == 0 && c == '%' then do
    let lx ← lx.atMargin?
    let (d, cursor) ← readDirective? lx.cursor.skip
    return { lx.emit (.directive d) with cursor }
  else if lx.cursor.column == 0 && atDocumentMark (c :: rest) then do
    let lx ← lx.atMargin?
    return { lx.emit (if c == '-' then .documentStart else .documentEnd) with
      cursor := lx.cursor.skipMany 3 }
  else if c == '[' then lx.openFlow? .flowSequenceStart
  else if c == '\x7b' then lx.openFlow? .flowMappingStart
  else if c == ']' then lx.closeFlow? .flowSequenceEnd
  else if c == '\x7d' then lx.closeFlow? .flowMappingEnd
  else if c == ',' then lx.flowEntry?
  else if c == '-' && atSpace rest then lx.blockEntry?
  else if c == '?' && (flow || atSpace rest) then lx.explicitKey?
  else if c == ':' && (flow || atSpace rest) then lx.value?
  else if c == '*' then lx.content? (readName? .alias)
  else if c == '&' then lx.content? (readName? .anchor)
  else if c == '!' then
    lx.content? fun c => do
      let (t, c) ← readTag? flow c
      return (.tag t, c)
  else if c == '|' && !flow then lx.blockScalar? false
  else if c == '>' && !flow then lx.blockScalar? true
  else if c == '\'' then lx.content? (readQuoted? false)
  else if c == '"' then lx.content? (readQuoted? true)
  else if startsPlain flow c rest then lx.plainScalar?
  else none

/-- Reads tokens to the end of the text. Every token takes at least one character, so as many
rounds as there are characters, and one more, are enough. -/
def run? : Nat → Lexer → Option (List Token)
  | 0, _ => none
  | rounds + 1, lx => do
    let lx ← lx.skipGap.dropStale?
    match lx.cursor.rest with
    | [] =>
      let lx ← (lx.closeTo none).dropPlace?
      return lx.tokens.reverse
    | c :: rest => run? rounds (← (lx.closeTo (some lx.cursor.column)).fetch? c rest)

end Lexer

/-- The tokens of a text. -/
def tokens? (text : String) : Option (List Token) :=
  let chars := text.toList
  if chars.all isAllowed then
    let chars := unifyBreaks chars
    Lexer.run? (chars.length + 1) { cursor := .start chars }
  else none

end BlinkBench.Yaml
