import BlinkBench.Manifest.Fields
import BlinkBench.Yaml.Node.Reader
/-!
# Manifests written in YAML

A record is a mapping whose keys are the names of its fields, each at most once. A field with a
default may be left out. An empty scalar counts as an empty record and as an empty list.
-/
namespace BlinkBench.Yaml

/-- What is read from a document at a node. -/
abbrev Decoder (α : Type) := Document → Node → Option α

/-- The text of a scalar, however it is written. -/
def text? : Decoder String := fun d n => do
  match ← d.resolve? n with
  | .scalar _ _ text => some text
  | _ => none

/-- The digits that a number with a mark for its base is written with. -/
def radixDigits? (digit? : Char → Option Nat) (base : Nat) (digits : List Char) : Option Nat :=
  if digits.isEmpty then none
  else digits.foldlM (fun n c => do
    let d ← digit? c
    if d < base then some (n * base + d) else none) 0

/-- A number as an unsigned integer is written: perhaps a plus sign, then digits, which may be
hexadecimal, octal or binary behind a mark. Further leading zeros are refused. -/
def natOfText? (text : String) : Option Nat :=
  let digits := match text.toList with
    | '+' :: rest => rest
    | chars => chars
  match digits with
  | '0' :: 'x' :: rest => radixDigits? hexValue? 16 rest
  | '0' :: 'o' :: rest => radixDigits? hexValue? 8 rest
  | '0' :: 'b' :: rest => radixDigits? hexValue? 2 rest
  | '0' :: _ :: _ => none
  | _ => radixDigits? hexValue? 10 digits

/-- A number below `bound`. The scalar has to be plain, or literal with the tag of integers. -/
def natBelow? (bound : Nat) : Decoder Nat := fun d n => do
  match ← d.resolve? n with
  | .scalar tag style text =>
    if style == .plain || (style == .literal && tag == some (coreTag "int")) then do
      let value ← natOfText? text
      if value < bound then some value else none
    else none
  | _ => none

/-- A number of 64 bits. -/
def uint64? : Decoder UInt64 := fun d n =>
  (natBelow? UInt64.size d n).map UInt64.ofNat

/-- A byte. -/
def uint8? : Decoder UInt8 := fun d n =>
  (natBelow? UInt8.size d n).map UInt8.ofNat

/-- The spellings of null. -/
def isNullText (text : String) : Bool :=
  text == "null" || text == "Null" || text == "NULL" || text == "~"

/-- A number that may be null. Only a plain scalar can be null: if its tag is that of null it has
to be, and with any other tag it is not. -/
def optional? : Decoder (Option UInt64) := fun d n => do
  match ← d.resolve? n with
  | .scalar tag .plain text =>
    match tag with
    | some tag =>
      if tag == coreTag "null" then if isNullText text then some none else none
      else (uint64? d n).map some
    | none => if text.isEmpty || isNullText text then some none else (uint64? d n).map some
  | _ => (uint64? d n).map some

/-- A list. -/
def list? {α : Type} (item? : Node → Option α) : Decoder (List α) := fun d n => do
  match ← d.resolve? n with
  | .sequence _ items => items.mapM item?
  | .scalar _ .plain text => if text.isEmpty then some [] else none
  | _ => none

/-- The fields of a record, which are all among the known ones, and each there once at most. -/
def fields? (known : List String) : Decoder (List (String × Node)) := fun d n => do
  let entries ← match ← d.resolve? n with
    | .mapping _ entries => some entries
    | .scalar _ .plain text => if text.isEmpty then some [] else none
    | _ => none
  let fields ← entries.mapM fun (key, value) => do return (← text? d key, value)
  let names := fields.map (·.1)
  if names.all known.contains && names.eraseDups.length == names.length then some fields else none

/-- The name that a tag of one's own gives, if the tag is one. -/
def ownTag? : Option Octets → Option String
  | some (0x21 :: name) => String.fromUTF8? ⟨name.toArray⟩
  | _ => none

/-- A strategy, by its name or by a tag with its name on an empty or null scalar. -/
def strategy? : Decoder DelayStrategy := fun d n => do
  match ← d.resolve? n with
  | .scalar tag style text =>
    match ownTag? tag with
    | some name =>
      if style == .plain && (text.isEmpty || isNullText text) then DelayStrategy.ofName? name
      else none
    | none => DelayStrategy.ofName? text
  | _ => none

/-- How the values of a manifest are read from a document. -/
def format (d : Document) : Format Node where
  text? := text? d
  uint64? := uint64? d
  uint8? := uint8? d
  limit? := optional? d
  strategy? := strategy? d
  list? item? := list? item? d
  fields? known := fields? known d

end BlinkBench.Yaml

namespace BlinkBench

/-- The manifest that a YAML text spells, before any check. -/
def Manifest.ofYaml? (text : String) : Option Manifest := do
  let d ← Yaml.Document.ofText? text
  (Yaml.format d).manifest? d.root

end BlinkBench
