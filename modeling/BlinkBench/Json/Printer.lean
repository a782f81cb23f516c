import BlinkBench.Json.Basic
/-!
# JSON on several lines

One line for each item and each member, indented by two spaces for every array and object around
it. Arrays and objects without parts take no lines of their own.
-/
namespace BlinkBench.Json

/-- A small hexadecimal digit. -/
def hexChar (n : Nat) : Char :=
  Nat.digitChar n

/-- A character as it is written in a string. -/
def escapeChar (c : Char) : List Char :=
  if c == '"' then ['\\', '"']
  else if c == '\\' then ['\\', '\\']
  else if c == '\x08' then ['\\', 'b']
  else if c == '\x0c' then ['\\', 'f']
  else if c == '\n' then ['\\', 'n']
  else if c == '\r' then ['\\', 'r']
  else if c == '\t' then ['\\', 't']
  else if c.toNat < 0x20 then
    ['\\', 'u', '0', '0', hexChar (c.toNat / 16), hexChar (c.toNat % 16)]
  else [c]

/-- A string between its quotes. -/
def quote (s : String) : List Char :=
  '"' :: s.toList.flatMap escapeChar ++ ['"']

/-- The start of a line under so many open arrays and objects. -/
def newLine (depth : Nat) : List Char :=
  '\n' :: List.replicate (2 * depth) ' '

mutual

/-- A value under so many open arrays and objects. A value that stands for no text is written as
null. -/
def lines (depth : Nat) : Json → List Char
  | .null => "null".toList
  | .bool true => "true".toList
  | .bool false => "false".toList
  | .nat n => (Nat.repr n).toList
  | .numeral text => text.toList
  | .str s => quote s
  | .unpaired => "null".toList
  | .arr [] => ['[', ']']
  | .arr (v :: items) =>
    '[' :: newLine (depth + 1) ++ lines (depth + 1) v ++ moreItems (depth + 1) items ++
      newLine depth ++ [']']
  | .obj [] => ['\x7b', '\x7d']
  | .obj ((key, v) :: members) =>
    '\x7b' :: newLine (depth + 1) ++ quote key ++ [':', ' '] ++ lines (depth + 1) v ++
      moreMembers (depth + 1) members ++ newLine depth ++ ['\x7d']

/-- The items behind the first one. -/
def moreItems (depth : Nat) : List Json → List Char
  | [] => []
  | v :: items => ',' :: newLine depth ++ lines depth v ++ moreItems depth items

/-- The members behind the first one. -/
def moreMembers (depth : Nat) : List (String × Json) → List Char
  | [] => []
  | (key, v) :: members =>
    ',' :: newLine depth ++ quote key ++ [':', ' '] ++ lines depth v ++ moreMembers depth members

end

/-- The text of a value. -/
def pretty (v : Json) : String :=
  String.ofList (lines 0 v)

end BlinkBench.Json
