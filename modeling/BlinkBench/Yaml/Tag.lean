import BlinkBench.Yaml.Cursor
/-!
# Tags and directives

A tag is a sequence of octets: it may be written with escapes of the form `%XX`, which need not
add up to Unicode text. A short tag has a handle, which stands for the start of the whole tag.
-/
namespace BlinkBench.Yaml

/-- The octets of a tag, or of a piece of one. -/
abbrev Octets := List UInt8

/-- The octets of a text. -/
def octetsOf (s : String) : Octets :=
  s.toUTF8.toList

/-- The handle of a tag without a name. -/
def primaryHandle : Octets :=
  octetsOf "!"

/-- The handle of the tags that YAML itself defines. -/
def secondaryHandle : Octets :=
  octetsOf "!!"

/-- What the tags that YAML itself defines start with. -/
def coreTag (name : String) : Octets :=
  octetsOf ("tag:yaml.org,2002:" ++ name)

/-- A character that a tag may hold as it is. `whole` tags may hold flow marks too. -/
def isTagChar (whole : Bool) (c : Char) : Bool :=
  isWordChar c || c == ';' || c == '/' || c == '?' || c == ':' || c == '@' || c == '&' ||
    c == '=' || c == '+' || c == '$' || c == '.' || c == '!' || c == '~' || c == '*' ||
    c == '\'' || c == '(' || c == ')' || (whole && (c == ',' || c == '[' || c == ']'))

/-- How many octets a sequence has that starts with this one, after the manner of UTF-8. -/
def octetWidth? (b : Nat) : Option Nat :=
  if b < 0x80 then some 1
  else if 0xC0 ≤ b && b < 0xE0 then some 2
  else if 0xE0 ≤ b && b < 0xF0 then some 3
  else if 0xF0 ≤ b && b < 0xF8 then some 4
  else none

/-- Reads the octets of a tag up to the first character that cannot belong to it. Escapes come in
groups as UTF-8 has them; `owed` is the number of octets that the group still lacks. -/
def readTagOctets? (whole : Bool) : (owed : Nat) → List Char → Nat → Option (Octets × List Char × Nat)
  | 0, '%' :: h :: l :: rest, n => do
    let b := (← hexValue? h) * 16 + (← hexValue? l)
    let width ← octetWidth? b
    let (octets, rest, n) ← readTagOctets? whole (width - 1) rest (n + 3)
    return (b.toUInt8 :: octets, rest, n)
  | owed + 1, '%' :: h :: l :: rest, n => do
    let b := (← hexValue? h) * 16 + (← hexValue? l)
    if 0x80 ≤ b && b < 0xC0 then
      let (octets, rest, n) ← readTagOctets? whole owed rest (n + 3)
      return (b.toUInt8 :: octets, rest, n)
    else none
  | _ + 1, _, _ => none
  | 0, c :: rest, n =>
    if isTagChar whole c then do
      let (octets, rest, n) ← readTagOctets? whole 0 rest (n + 1)
      return (c.toNat.toUInt8 :: octets, rest, n)
    else if c == '%' then none
    else some ([], c :: rest, n)
  | 0, [], n => some ([], [], n)

/-- A piece of a tag ends where an octet is zero. -/
def cutAtZero (o : Octets) : Octets :=
  o.takeWhile (· != 0)

/-- Reads octets at a cursor. -/
def readOctets? (whole : Bool) (c : Cursor) : Option (Octets × Cursor) := do
  let (octets, rest, n) ← readTagOctets? whole 0 c.rest 0
  return (octets, { c with rest, column := c.column + n })

/-- Reads a handle: an exclamation mark, word characters, and perhaps another mark. -/
def readHandle? (c : Cursor) : Option (List Char × Cursor) :=
  match c.rest with
  | '!' :: _ =>
    let (word, c) := c.skip.span isWordChar
    if c.rest.head? == some '!' then some ('!' :: word ++ ['!'], c.skip)
    else some ('!' :: word, c)
  | _ => none

/-- A tag as it is written: with a handle, or whole if the handle is empty. -/
structure TagText where
  handle : Octets
  suffix : Octets
deriving DecidableEq, Repr

/-- Reads a tag. A lone exclamation mark is a tag of its own. -/
def readTag? (flow : Bool) (c : Cursor) : Option (TagText × Cursor) := do
  let (tag, c) ← match c.rest with
    | '!' :: '<' :: _ => do
      let (suffix, after) ← readOctets? true (c.skipMany 2)
      if suffix.isEmpty then none
      else if after.rest.head? == some '>' then
        some (TagText.mk [] (cutAtZero suffix), after.skip)
      else none
    | _ => do
      let (handle, after) ← readHandle? c
      let (suffix, after) ← readOctets? false after
      if 2 ≤ handle.length && handle.getLast? == some '!' then
        if suffix.isEmpty then none
        else some (⟨octetsOf (String.ofList handle), cutAtZero suffix⟩, after)
      else
        let suffix := cutAtZero (octetsOf (String.ofList (handle.drop 1)) ++ suffix)
        if suffix.isEmpty then some (⟨[], primaryHandle⟩, after)
        else some (⟨primaryHandle, suffix⟩, after)
  if atSpace c.rest || (flow && c.rest.head? == some ',') then some (tag, c) else none

/-- A line that tells how to read the document after it. -/
inductive Directive where
  | version (major minor : Nat)
  | handle (name start : Octets)
deriving DecidableEq, Repr

/-- Reads a version number of at most nine digits. -/
def readVersionPart? (c : Cursor) : Option (Nat × Cursor) :=
  let (digits, c) := c.span Char.isDigit
  if digits.isEmpty || 9 < digits.length then none
  else some (digits.foldl (fun n d => n * 10 + (d.toNat - '0'.toNat)) 0, c)

/-- Reads a directive, behind its percent sign, and the rest of its line. -/
def readDirective? (c : Cursor) : Option (Directive × Cursor) := do
  let (name, c) := c.span isWordChar
  if !(c.rest.head?.all fun b => isBlank b || isBreak b) then none
  let (directive, c) ←
    if name == "YAML".toList then do
      let (major, c) ← readVersionPart? (c.skipWhile isBlank)
      if c.rest.head? != some '.' then none
      let (minor, c) ← readVersionPart? c.skip
      some (Directive.version major minor, c)
    else if name == "TAG".toList then do
      let (handle, c) ← readHandle? (c.skipWhile isBlank)
      if handle.getLast? != some '!' then none
      if !(c.rest.head?.any isBlank) then none
      let (start, c) ← readOctets? true (c.skipWhile isBlank)
      if start.isEmpty || !atSpace c.rest then none
      some (Directive.handle (octetsOf (String.ofList handle)) (cutAtZero start), c)
    else none
  some (directive, ← c.skipLineEnd?)

end BlinkBench.Yaml
