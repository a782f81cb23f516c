import BlinkBench.Yaml.Cursor
import BlinkBench.Yaml.Scalar.Folding
/-!
# Quoted scalars

Between single quotes only the quote itself is special and is written twice. Between double
quotes a backslash starts an escape. Both may run over several lines, which are folded.
-/
namespace BlinkBench.Yaml

/-- Reads the rest of a scalar in single quotes, behind the opening quote. -/
def readSingleQuoted : List Char → (line column : Nat) → Folding → Option (Folding × Cursor)
  | [], _, _, _ => none
  | c :: rest, line, column, f =>
    if isBlank c then readSingleQuoted rest line (column + 1) (f.addBlank c)
    else if isBreak c then readSingleQuoted rest (line + 1) 0 (f.addBreak c)
    else if column == 0 && atDocumentMark (c :: rest) then none
    else if c == '\'' then
      match rest with
      | '\'' :: rest => readSingleQuoted rest line (column + 2) (f.addChar c)
      | _ => some (f.flush, ⟨rest, line, column + 1⟩)
    else readSingleQuoted rest line (column + 1) (f.addChar c)

/-- The character that a backslash followed by one of these letters stands for. -/
def simpleEscape? : Char → Option Char
  | '0' => some '\x00'
  | 'a' => some '\x07'
  | 'b' => some '\x08'
  | 't' | '\t' => some '\t'
  | 'n' => some '\n'
  | 'v' => some '\x0b'
  | 'f' => some '\x0c'
  | 'r' => some '\r'
  | 'e' => some '\x1b'
  | ' ' => some ' '
  | '"' => some '"'
  | '/' => some '/'
  | '\\' => some '\\'
  | 'N' => some '\u0085'
  | '_' => some '\u00a0'
  | 'L' => some '\u2028'
  | 'P' => some '\u2029'
  | _ => none

/-- How many hexadecimal digits an escape with this letter has. -/
def escapeWidth? : Char → Option Nat
  | 'x' => some 2
  | 'u' => some 4
  | 'U' => some 8
  | _ => none

/-- The character with a code, if there is one: surrogates have none. -/
def charOfCode? (n : Nat) : Option Char :=
  if h : n.isValidChar then some (Char.ofNatAux n h) else none

/-- Reads the rest of a scalar in double quotes, behind the opening quote. While a numeric escape
is being read, `owed` is the number of digits still to come and `code` the value so far. -/
def readDoubleQuoted :
    (owed code : Nat) → List Char → (line column : Nat) → Folding → Option (Folding × Cursor)
  | _, _, [], _, _, _ => none
  | owed + 1, code, c :: rest, line, column, f => do
    let code := code * 16 + (← hexValue? c)
    match owed with
    | 0 => readDoubleQuoted 0 0 rest line (column + 1) (f.addChar (← charOfCode? code))
    | owed + 1 => readDoubleQuoted (owed + 1) code rest line (column + 1) f
  | 0, _, c :: rest, line, column, f =>
    if isBlank c then readDoubleQuoted 0 0 rest line (column + 1) (f.addBlank c)
    else if isBreak c then readDoubleQuoted 0 0 rest (line + 1) 0 (f.addBreak c)
    else if column == 0 && atDocumentMark (c :: rest) then none
    else if c == '"' then some (f.flush, ⟨rest, line, column + 1⟩)
    else if c == '\\' then
      match rest with
      | [] => none
      | e :: rest =>
        if isBreak e then readDoubleQuoted 0 0 rest (line + 1) 0 f.flush.addEscapedBreak
        else match escapeWidth? e with
          | some width => readDoubleQuoted width 0 rest line (column + 2) f.flush
          | none => do
            readDoubleQuoted 0 0 rest line (column + 2) (f.addChar (← simpleEscape? e))
    else readDoubleQuoted 0 0 rest line (column + 1) (f.addChar c)

end BlinkBench.Yaml
