import BlinkBench.Json.Token
/-!
# From tokens to JSON values

A machine with a stack of the arrays and objects that are open. Every token is one step, so a
text may be nested as deeply as it likes.
-/
namespace BlinkBench.Json

/-- An array or an object that is open, newest part first. Keys that stand for no text are kept
as such. -/
inductive Frame where
  | items (done : List Json)
  | members (done : List (Option String × Json)) (key : Option String)

/-- What may come next. -/
inductive Expected where
  /-- A value. -/
  | value
  /-- A value, or the end of the array that has just begun. -/
  | firstItem
  /-- A key. -/
  | key
  /-- A key, or the end of the object that has just begun. -/
  | firstKey
  /-- The colon behind a key. -/
  | colon
  /-- A comma, or the end of what is open. -/
  | separator
  /-- Nothing. -/
  | finished
deriving DecidableEq

/-- The machine between two tokens. -/
structure Builder where
  expected : Expected := .value
  frames : List Frame := []
  root : Option Json := none

namespace Builder

/-- A value is complete. -/
def put (b : Builder) (v : Json) : Builder :=
  match b.frames with
  | [] => { b with root := some v, expected := .finished }
  | .items done :: frames => { b with frames := .items (v :: done) :: frames, expected := .separator }
  | .members done key :: frames =>
    { b with frames := .members ((key, v) :: done) none :: frames, expected := .separator }

/-- The value of an object with these members, newest first. -/
def close (done : List (Option String × Json)) : Json :=
  match done.reverse.mapM fun (key, v) => key.map (·, v) with
  | some members => .obj members
  | none => .unpaired

/-- One token. -/
def step (b : Builder) (t : Token) : Option Builder :=
  let wantsValue := b.expected == .value || b.expected == .firstItem
  let mayEnd := b.expected == .separator
  match t with
  | .atom v => if wantsValue then some (b.put v) else none
  | .quoted text =>
    if wantsValue then some (b.put (text.elim .unpaired .str))
    else if b.expected == .key || b.expected == .firstKey then
      match b.frames with
      | .members done _ :: frames =>
        some { b with frames := .members done text :: frames, expected := .colon }
      | _ => none
    else none
  | .mark c =>
    if c == '[' then
      if wantsValue then some { b with frames := .items [] :: b.frames, expected := .firstItem }
      else none
    else if c == '\x7b' then
      if wantsValue then
        some { b with frames := .members [] none :: b.frames, expected := .firstKey }
      else none
    else if c == ']' then
      match b.frames with
      | .items done :: frames =>
        if mayEnd || b.expected == .firstItem then
          some ({ b with frames }.put (.arr done.reverse))
        else none
      | _ => none
    else if c == '\x7d' then
      match b.frames with
      | .members done _ :: frames =>
        if mayEnd || b.expected == .firstKey then some ({ b with frames }.put (close done))
        else none
      | _ => none
    else if c == ',' then
      if mayEnd then
        match b.frames with
        | .items _ :: _ => some { b with expected := .value }
        | .members _ _ :: _ => some { b with expected := .key }
        | [] => none
      else none
    else if b.expected == .colon then some { b with expected := .value }
    else none

end Builder

end BlinkBench.Json

namespace BlinkBench

/-- The value that a text spells. -/
def Json.parse? (text : String) : Option Json := do
  let b ← (← Json.tokens? text).foldlM Json.Builder.step {}
  b.root

end BlinkBench
