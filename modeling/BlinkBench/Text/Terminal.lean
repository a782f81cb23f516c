import BlinkBench.Text.Hex
/-!
# Text for terminals

A terminal takes some characters for commands, or for the start of one. In text that comes from
elsewhere they are shown by their codes; tabs, line ends and the other controls stay as they are.
-/
namespace BlinkBench.Text

/-- The controls of ASCII that move a terminal's cursor back, clear its page, ring its bell, or
start a command. -/
def isTerminalControl (c : Char) : Bool :=
  c == '\x07' || c == '\x08' || c == '\x0c' || c == '\x1b' || c == '\x7f'

/-- The controls that follow those of ASCII: each stands for a command with two characters. -/
def isHighControl (c : Char) : Bool :=
  '\x80' ≤ c && c ≤ '\x9f'

/-- A character as a terminal may get it. -/
def tameChar (c : Char) : List Char :=
  if isTerminalControl c then ['\\', 'x'] ++ Hex.twoDigits c.toNat
  else if isHighControl c then Hex.codeOf c
  else [c]

/-- Text as a terminal may get it. -/
def tame (s : String) : String :=
  String.ofList (s.toList.flatMap tameChar)

end BlinkBench.Text
