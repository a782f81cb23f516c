import BlinkBench.Fields
import BlinkBench.Json.Basic
/-!
# Reading values of other types from JSON

A record is an object with a member for each field, or an array of its fields in their order. A
field with a default may be left out of an object, and at the end of an array.
-/
namespace BlinkBench.Json

/-- What is read from a JSON value. -/
abbrev Decoder (α : Type) := Json → Option α

/-- A string. -/
def text? : Decoder String
  | .str s => some s
  | _ => none

/-- A number below `bound`. -/
def natBelow? (bound : Nat) : Decoder Nat
  | .nat n => if n < bound then some n else none
  | _ => none

/-- A number of 64 bits. -/
def uint64? : Decoder UInt64 := fun v =>
  (natBelow? UInt64.size v).map UInt64.ofNat

/-- A byte. -/
def uint8? : Decoder UInt8 := fun v =>
  (natBelow? UInt8.size v).map UInt8.ofNat

/-- A value that may be null. -/
def optional? {α : Type} (read? : Decoder α) : Decoder (Option α)
  | .null => some none
  | v => (read? v).map some

/-- A list. -/
def list? {α : Type} (read? : Decoder α) : Decoder (List α)
  | .arr items => items.mapM read?
  | _ => none

/-- One of some named things: its name, or an object with the name as key and null as value. -/
def named? {α : Type} (ofName? : String → Option α) : Decoder α
  | .str name => ofName? name
  | .obj [(name, .null)] => ofName? name
  | _ => none

/-- What becomes of members that are no fields. -/
inductive Unknown where
  | refused
  | ignored
deriving DecidableEq

/-- The fields of a record, each at most once. -/
def fields? (known : List String) (unknown : Unknown) : Decoder (List (String × Json))
  | .obj members =>
    let fields := members.filter (known.contains ·.1)
    let names := fields.map (·.1)
    if unknown == .refused && fields.length < members.length then none
    else if names.eraseDups.length < names.length then none
    else some fields
  | .arr items => if items.length ≤ known.length then some (known.zip items) else none
  | _ => none

/-- A number of 64 bits as a value. -/
def ofUInt64 (n : UInt64) : Json :=
  .nat n.toNat

/-- A byte as a value. -/
def ofUInt8 (n : UInt8) : Json :=
  .nat n.toNat

/-- A value that may be missing. -/
def ofOption {α : Type} (f : α → Json) : Option α → Json
  | some a => f a
  | none => .null

/-- A list as a value. -/
def ofList {α : Type} (f : α → Json) (l : List α) : Json :=
  .arr (l.map f)

end BlinkBench.Json
