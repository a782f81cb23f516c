import BlinkBench.Json.Basic
/-!
# Tokens of a JSON text

Marks, words and strings, with the white space between them dropped. The text is read once from
left to right, by a machine that knows whether it is between tokens, in a word or in a string.
-/
namespace BlinkBench.Json

/-- A piece of a JSON text. -/
inductive Token where
  /-- One of the six marks that structure a text. -/
  | mark (c : Char)
  /-- A value that is neither a string nor composed. -/
  | atom (v : Json)
  /-- A string. It has no text if it holds half of a surrogate pair. -/
  | quoted (text : Option String)

/-- Whether this is white space of JSON. -/
def isSpace (c : Char) : Bool :=
  c == ' ' || c == '\t' || c == '\n' || c == '\r'

/-- Whether this is one of the marks that structure a text. -/
def isMark (c : Char) : Bool :=
  c == '[' || c == ']' || c == '\x7b' || c == '\x7d' || c == ',' || c == ':'

/-- What is left after the digits at the start, of which there has to be one. -/
def afterDigits? : List Char → Option (List Char)
  | c :: rest => if c.isDigit then some (rest.dropWhile Char.isDigit) else none
  | [] => none

/-- What is left after an integer without sign: no zero comes before other digits. -/
def afterInteger? : List Char → Option (List Char)
  | '0' :: rest => some rest
  | rest => afterDigits? rest

/-- What is left after a fraction, if there is one. -/
def afterFraction? : List Char → Option (List Char)
  | '.' :: rest => afterDigits? rest
  | rest => some rest

/-- What is left after an exponent, if there is one. -/
def afterExponent? : List Char → Option (List Char)
  | c :: rest =>
    if c == 'e' || c == 'E' then
      match rest with
      | '+' :: digits => afterDigits? digits
      | '-' :: digits => afterDigits? digits
      | digits => afterDigits? digits
    else some (c :: rest)
  | [] => some []

/-- Whether a word is a number. -/
def isNumber (word : List Char) : Bool :=
  let unsigned := match word with
    | '-' :: rest => rest
    | rest => rest
  (afterInteger? unsigned >>= afterFraction? >>= afterExponent?) == some []

/-- The number that decimal digits spell. -/
def decimal (digits : List Char) : Nat :=
  digits.foldl (fun n d => n * 10 + (d.toNat - '0'.toNat)) 0

/-- The value that a word spells. -/
def atom? (word : List Char) : Option Json :=
  if word == "null".toList then some .null
  else if word == "true".toList then some (.bool true)
  else if word == "false".toList then some (.bool false)
  else if isNumber word then
    if word.all Char.isDigit then some (.nat (decimal word))
    else some (.numeral (String.ofList word))
  else none

/-- The value of a hexadecimal digit. -/
def hexDigit? (c : Char) : Option Nat :=
  if '0' ≤ c && c ≤ '9' then some (c.toNat - '0'.toNat)
  else if 'a' ≤ c && c ≤ 'f' then some (c.toNat - 'a'.toNat + 10)
  else if 'A' ≤ c && c ≤ 'F' then some (c.toNat - 'A'.toNat + 10)
  else none

/-- A string that is being read, newest character first. -/
structure Quote where
  chars : List Char := []
  /-- The first half of a surrogate pair, if that was the last thing read. -/
  half : Option Nat := none
  /-- Whether half of a pair was met without its partner. -/
  broken : Bool := false

namespace Quote

/-- A character. -/
def add (q : Quote) (c : Char) : Quote :=
  { chars := c :: q.chars, half := none, broken := q.broken || q.half.isSome }

/-- A code unit of UTF-16. -/
def addUnit (q : Quote) (unit : Nat) : Quote :=
  let isFirst := 0xD800 ≤ unit && unit < 0xDC00
  let isSecond := 0xDC00 ≤ unit && unit < 0xE000
  match q.half with
  | some first =>
    if isSecond then
      { q with
        chars := Char.ofNat (0x10000 + (first - 0xD800) * 0x400 + (unit - 0xDC00)) :: q.chars
        half := none }
    else { q with half := none, broken := true }
  | none =>
    if isFirst then { q with half := some unit }
    else if isSecond then { q with broken := true }
    else { q with chars := Char.ofNat unit :: q.chars }

/-- The string. -/
def finish (q : Quote) : Token :=
  .quoted (if q.broken || q.half.isSome then none else some (String.ofList q.chars.reverse))

end Quote

/-- The character that a backslash followed by this one stands for. -/
def escape? : Char → Option Char
  | '"' => some '"'
  | '\\' => some '\\'
  | '/' => some '/'
  | 'b' => some '\x08'
  | 'f' => some '\x0c'
  | 'n' => some '\n'
  | 'r' => some '\r'
  | 't' => some '\t'
  | _ => none

/-- Where the machine stands. -/
inductive Scan where
  /-- Between two tokens. -/
  | gap
  /-- In a word, newest character first. -/
  | word (chars : List Char)
  /-- In a string. -/
  | quote (q : Quote)
  /-- In a string, behind a backslash. -/
  | escape (q : Quote)
  /-- In a string, in the code of a character, with so many digits to come. -/
  | code (q : Quote) (owed value : Nat)

/-- The tokens of a text, from where the machine stands. -/
def scan : Scan → List Char → Option (List Token)
  | .gap, [] => some []
  | .gap, c :: rest =>
    if isSpace c then scan .gap rest
    else if isMark c then do return .mark c :: (← scan .gap rest)
    else if c == '"' then scan (.quote {}) rest
    else scan (.word [c]) rest
  | .word chars, [] => do return [.atom (← atom? chars.reverse)]
  | .word chars, c :: rest =>
    if isSpace c then do return .atom (← atom? chars.reverse) :: (← scan .gap rest)
    else if isMark c then do
      return .atom (← atom? chars.reverse) :: .mark c :: (← scan .gap rest)
    else if c == '"' then none
    else scan (.word (c :: chars)) rest
  | .quote _, [] => none
  | .quote q, c :: rest =>
    if c == '"' then do return q.finish :: (← scan .gap rest)
    else if c == '\\' then scan (.escape q) rest
    else if c.toNat < 0x20 then none
    else scan (.quote (q.add c)) rest
  | .escape _, [] => none
  | .escape q, c :: rest =>
    if c == 'u' then scan (.code q 4 0) rest
    else do scan (.quote (q.add (← escape? c))) rest
  | .code _ _ _, [] => none
  | .code q owed value, c :: rest => do
    let value := value * 16 + (← hexDigit? c)
    if owed ≤ 1 then scan (.quote (q.addUnit value)) rest
    else scan (.code q (owed - 1) value) rest

/-- The tokens of a text. -/
def tokens? (text : String) : Option (List Token) :=
  scan .gap text.toList

end BlinkBench.Json
