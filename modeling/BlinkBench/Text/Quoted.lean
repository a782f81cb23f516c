import BlinkBench.Text.Hex
import BlinkBench.Text.Hidden
/-!
# Quoted text

Text between quotes as it is shown in messages, so that every character can be told from every
other: a backslash stands before a quote and before itself, and hidden characters are shown by name
or by their codes.
-/
namespace BlinkBench.Text

/-- A character as it is shown between quotes. -/
def showChar (c : Char) : List Char :=
  if c == '\x00' then ['\\', '0']
  else if c == '\t' then ['\\', 't']
  else if c == '\r' then ['\\', 'r']
  else if c == '\n' then ['\\', 'n']
  else if c == '"' || c == '\\' then ['\\', c]
  else if isHidden c then Hex.codeOf c
  else [c]

/-- Text between quotes. -/
def quoted (s : String) : String :=
  String.ofList ('"' :: s.toList.flatMap showChar ++ ['"'])

end BlinkBench.Text
