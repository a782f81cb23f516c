import BlinkBench.Manifest.Basic
/-!
# Arguments

Arguments are read from left to right. What asks for help or for the version ends the reading at
once, and so does the first mistake. Options stand alone or, by their letters, in clusters; their
values stand behind them or are attached, with or without an equals sign. Nothing may be given
twice.
-/
namespace BlinkBench.Cli

/-- What was asked for. -/
structure Args where
  /-- The path of a manifest. -/
  config : Option String := none
  maxToggles : Option UInt64 := none
  wallTimeMs : Option UInt64 := none
  delay : Option DelayStrategy := none
  /-- Whether the log goes into detail. -/
  trace : Bool := false
  /-- The path of a directory for the result. -/
  outputDir : Option String := none
deriving DecidableEq, Repr

/-- Why there is no run. -/
inductive Exit where
  /-- The arguments are no use. -/
  | usage
  /-- Help was asked for. -/
  | help
  /-- The version was asked for. -/
  | version
deriving DecidableEq, Repr

/-- An option with a value. -/
inductive ValueOption where
  | config
  | maxToggles
  | wallTimeMs
  | delay
  | outputDir
deriving DecidableEq, Repr

/-- Anything with a name. -/
inductive Named where
  | value (o : ValueOption)
  | trace
  | help
  | version
deriving DecidableEq, Repr

namespace Named

/-- What a long name stands for. -/
def ofName? : String → Option Named
  | "config" => some (value .config)
  | "max-toggles" => some (value .maxToggles)
  | "wall-time-ms" => some (value .wallTimeMs)
  | "delay" => some (value .delay)
  | "output-dir" => some (value .outputDir)
  | "trace" => some trace
  | "help" => some help
  | "version" => some version
  | _ => none

/-- What a letter stands for. -/
def ofLetter? : Char → Option Named
  | 'c' => some (value .config)
  | 'n' => some (value .maxToggles)
  | 'd' => some (value .delay)
  | 'o' => some (value .outputDir)
  | 't' => some trace
  | 'h' => some help
  | 'V' => some version
  | _ => none

end Named

/-- A number of 64 bits: digits, perhaps behind a plus sign. -/
def number? (text : String) : Option UInt64 :=
  let digits := match text.toList with
    | '+' :: digits => digits
    | digits => digits
  if digits.isEmpty || !digits.all Char.isDigit then none
  else
    let n := digits.foldl (fun n c => n * 10 + (c.toNat - '0'.toNat)) 0
    if n < UInt64.size then some (UInt64.ofNat n) else none

/-- A path. -/
def path? (text : String) : Option String :=
  if text.isEmpty then none else some text

/-- A value for what has none yet. -/
def fresh? {α : Type} (old : Option α) (value : Option α) : Option (Option α) :=
  if old.isSome then none else value.map some

namespace Args

/-- Gives an option its value, if it has none yet and the value is one for it. -/
def set? (a : Args) (o : ValueOption) (text : String) : Option Args :=
  match o with
  | .config => (fresh? a.config (path? text)).map fun config => { a with config }
  | .maxToggles =>
    (fresh? a.maxToggles (number? text)).map fun maxToggles => { a with maxToggles }
  | .wallTimeMs =>
    (fresh? a.wallTimeMs (number? text)).map fun wallTimeMs => { a with wallTimeMs }
  | .delay =>
    (fresh? a.delay (DelayStrategy.parse text).toOption).map fun delay => { a with delay }
  | .outputDir => (fresh? a.outputDir (path? text)).map fun outputDir => { a with outputDir }

/-- Gives an option its value. -/
def set (a : Args) (o : ValueOption) (text : String) : Except Exit Args :=
  match a.set? o text with
  | some a => .ok a
  | none => .error .usage

/-- Reads letters behind one dash. The answer has the option that is still without its value. -/
def letters (a : Args) : List Char → Except Exit (Args × Option ValueOption)
  | [] => .ok (a, none)
  | c :: rest =>
    match Named.ofLetter? c with
    | none => .error .usage
    | some .help => .error .help
    | some .version => .error .version
    | some .trace => if a.trace then .error .usage else { a with trace := true }.letters rest
    | some (.value o) =>
      match rest with
      | [] => .ok (a, some o)
      | '=' :: value | value => (a.set o (String.ofList value)).map (·, none)

/-- Reads a name behind two dashes, and the value attached to it. The answer has the option that
is still without its value. -/
def long (a : Args) (name : String) (value : Option String) :
    Except Exit (Args × Option ValueOption) :=
  match Named.ofName? name, value with
  | none, _ => .error .usage
  | some (.value o), some value => (a.set o value).map (·, none)
  | some (.value o), none => .ok (a, some o)
  | some _, some _ => .error .usage
  | some .help, none => .error .help
  | some .version, none => .error .version
  | some .trace, none => if a.trace then .error .usage else .ok ({ a with trace := true }, none)

/-- What an argument looks like. -/
inductive Shape where
  /-- Two dashes alone: no options follow. -/
  | terminator
  | long (name : String) (value : Option String)
  | letters (chars : List Char)
  /-- Anything else. -/
  | word

/-- What an argument looks like. -/
def shape (arg : String) : Shape :=
  match arg.toList with
  | ['-', '-'] => .terminator
  | '-' :: '-' :: rest =>
    let name := rest.takeWhile (· != '=')
    let value := match rest.dropWhile (· != '=') with
      | _ :: value => some (String.ofList value)
      | [] => none
    .long (String.ofList name) value
  | '-' :: c :: rest => .letters (c :: rest)
  | _ => .word

/-- Reads arguments, where an option may still be without its value. -/
def parseFrom (a : Args) (owed : Option ValueOption) : List String → Except Exit Args
  | [] => if owed.isSome then .error .usage else .ok a
  | arg :: rest =>
    match owed, shape arg with
    | some o, .word => do (← a.set o arg).parseFrom none rest
    | some _, _ => .error .usage
    | none, .word => .error .usage
    | none, .terminator => if rest.isEmpty then .ok a else .error .usage
    | none, .letters chars => do
      let (a, owed) ← a.letters chars
      a.parseFrom owed rest
    | none, .long name value => do
      let (a, owed) ← a.long name value
      a.parseFrom owed rest

/-- What some arguments ask for. -/
def parse (args : List String) : Except Exit Args :=
  ({} : Args).parseFrom none args

end Args

end BlinkBench.Cli
