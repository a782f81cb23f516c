import BlinkBench.Yaml.Cursor
/-!
# Block scalars

A block scalar is a header, a line end, and the lines that are indented at least as far as its
first line that is not blank, or as far as the header says. A literal scalar keeps its breaks, a
folded one joins lines that start at the indentation.
-/
namespace BlinkBench.Yaml

/-- What becomes of the breaks at the end of a block scalar. -/
inductive Chomping where
  /-- All of them go. -/
  | strip
  /-- The first one stays. -/
  | clip
  /-- All of them stay. -/
  | keep
deriving DecidableEq, Repr

/-- The indentation and chomping marks behind the `|` or `>`. -/
structure BlockHeader where
  chomping : Chomping := .clip
  increment : Option Nat := none

/-- The chomping mark with this character. -/
def chomping? : Char → Option Chomping
  | '+' => some .keep
  | '-' => some .strip
  | _ => none

/-- Reads the marks, which may come in either order. An indentation of zero is refused. -/
def readBlockHeader? (c : Cursor) : Option (BlockHeader × Cursor) :=
  let chomp (h : BlockHeader) (c : Cursor) : BlockHeader × Cursor :=
    match c.rest.head? >>= chomping? with
    | some chomping => ({ h with chomping }, c.skip)
    | none => (h, c)
  let indent (h : BlockHeader) (c : Cursor) : Option (BlockHeader × Cursor) :=
    match c.rest with
    | d :: _ =>
      if d == '0' then none
      else if d.isDigit then some ({ h with increment := some (d.toNat - '0'.toNat) }, c.skip)
      else some (h, c)
    | [] => some (h, c)
  match c.rest.head? >>= chomping? with
  | some chomping => indent { chomping } c.skip
  | none => do
    let (h, c) ← indent {} c
    if h.increment.isSome then some (chomp h c) else some (h, c)

/-- A block scalar that is being read. Text and breaks are kept newest first. -/
structure BlockText where
  /-- The indentation, once it is known. -/
  indent : Option Nat
  /-- The widest indentation of the blank lines at the start. -/
  widest : Nat := 0
  text : List Char := []
  /-- The break that ended the last line of text. -/
  firstBreak : Option Char := none
  /-- The breaks of the blank lines after it. -/
  moreBreaks : List Char := []
  /-- Whether the last line of text started with a blank. -/
  afterBlank : Bool := false
  /-- Whether the next character belongs to a line of text. -/
  inLine : Bool := false

namespace BlockText

/-- Joins the breaks between two lines to the text, where the next line starts with `c`. A line
feed between two lines that start at the indentation folds into a space, or into the breaks of
the blank lines between them. -/
def beginLine (folded : Bool) (b : BlockText) (c : Char) : BlockText :=
  let first :=
    if folded && b.firstBreak == some '\n' && !b.afterBlank && !isBlank c then
      if b.moreBreaks.isEmpty then [' '] else []
    else b.firstBreak.toList
  { b with
    text := b.moreBreaks ++ (first ++ b.text)
    firstBreak := none
    moreBreaks := []
    afterBlank := isBlank c
    inLine := true }

/-- The whole scalar, with the breaks at its end as the header wants them. -/
def finish (chomping : Chomping) (b : BlockText) : String :=
  let last := match chomping with
    | .strip => []
    | .clip => b.firstBreak.toList
    | .keep => b.moreBreaks ++ b.firstBreak.toList
  String.ofList (last ++ b.text).reverse

end BlockText

/-- Reads the lines of a block scalar. The indentation that is not given is the widest one of the
blank lines at the start and of the first other line, but at least `least`. A tab inside the
indentation is refused. -/
def readBlockLines (folded : Bool) (least : Nat) :
    List Char → (line column : Nat) → BlockText → Option (BlockText × Cursor)
  | [], line, column, b => some (b, ⟨[], line, column⟩)
  | c :: rest, line, column, b =>
    if b.inLine then
      if isBreak c then
        readBlockLines folded least rest (line + 1) 0
          { b with firstBreak := some c, inLine := false }
      else readBlockLines folded least rest line (column + 1) { b with text := c :: b.text }
    else
      let inMargin := b.indent.all (column < ·)
      if inMargin && c == ' ' then readBlockLines folded least rest line (column + 1) b
      else if inMargin && c == '\t' then none
      else if isBreak c then
        readBlockLines folded least rest (line + 1) 0
          { b with widest := max b.widest column, moreBreaks := c :: b.moreBreaks }
      else
        let indent := b.indent.getD (max (max b.widest column) least)
        if column == indent then
          let b := { b with indent := some indent }.beginLine folded c
          readBlockLines folded least rest line (column + 1) { b with text := c :: b.text }
        else some (b, ⟨c :: rest, line, column⟩)

end BlinkBench.Yaml
