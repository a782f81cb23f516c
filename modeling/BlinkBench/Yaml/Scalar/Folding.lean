import BlinkBench.Yaml.Char
/-!
# Line folding in flow scalars

Plain and quoted scalars may run over several lines. Blanks around the breaks are dropped, a
single line feed is read as a space, and of several breaks all but the first are kept.
-/
namespace BlinkBench.Yaml

/-- A scalar that is being read: its text so far, and the white space after it, which counts only
if more text follows. Characters are kept newest first. -/
structure Folding where
  text : List Char := []
  blanks : List Char := []
  broken : Bool := false
  firstBreak : Option Char := none
  moreBreaks : List Char := []

namespace Folding

/-- A blank: white space of the line, unless the line has just begun. -/
def addBlank (f : Folding) (c : Char) : Folding :=
  if f.broken then f else { f with blanks := c :: f.blanks }

/-- A break: the first one drops the blanks before it. -/
def addBreak (f : Folding) (c : Char) : Folding :=
  if f.broken then { f with moreBreaks := c :: f.moreBreaks }
  else { f with blanks := [], broken := true, firstBreak := some c }

/-- A break that is written so as to leave no trace. -/
def addEscapedBreak (f : Folding) : Folding :=
  { f with broken := true, firstBreak := none }

/-- Whether white space is waiting. -/
def isWaiting (f : Folding) : Bool :=
  f.broken || !f.blanks.isEmpty

/-- The waiting white space as it counts between two pieces of text, newest first. -/
def separator (f : Folding) : List Char :=
  if f.broken then
    match f.firstBreak with
    | some '\n' => if f.moreBreaks.isEmpty then [' '] else f.moreBreaks
    | some c => f.moreBreaks ++ [c]
    | none => f.moreBreaks
  else f.blanks

/-- Joins the waiting white space to the text. -/
def flush (f : Folding) : Folding :=
  { text := f.separator ++ f.text }

/-- A character of the text itself. -/
def addChar (f : Folding) (c : Char) : Folding :=
  { text := c :: (f.separator ++ f.text) }

/-- The text, without the white space that is still waiting. -/
def toText (f : Folding) : String :=
  String.ofList f.text.reverse

end Folding

end BlinkBench.Yaml
