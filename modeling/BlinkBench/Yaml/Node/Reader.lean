import BlinkBench.Yaml.Node
import BlinkBench.Yaml.Token.Lexer
/-!
# From tokens to nodes

Tokens are read from left to right, and the next one always decides how to go on. A value that is
left out is an empty scalar.
-/
namespace BlinkBench.Yaml

/-- What is left to read, and what was met on the way. -/
structure NodeState where
  tokens : List Token
  /-- What the handles of tags stand for. -/
  handles : List (Octets × Octets)
  /-- The anchors so far, each name with the number it has now. -/
  names : List (String × Nat) := []
  anchored : List Anchored := []
  /-- How many nodes with an anchor have started. -/
  started : Nat := 0

/-- A reader of nodes: it may find that the tokens make no sense. -/
abbrev NodeReader := StateT NodeState Option

namespace NodeReader

/-- The next token. -/
def peek : NodeReader (Option Token) :=
  return (← get).tokens.head?

/-- Passes the next token. -/
def skip : NodeReader Unit :=
  modify fun s => { s with tokens := s.tokens.tail }

/-- Passes the next token if it is `t`, and says whether it was. -/
def skipIf (t : Token) : NodeReader Bool := do
  if (← peek) == some t then
    skip
    return true
  return false

/-- The anchor and the tag before a node, in either order. -/
def properties : NodeReader (Option String × Option TagText) := do
  match ← peek with
  | some (.anchor name) =>
    skip
    match ← peek with
    | some (.tag t) => skip; return (some name, some t)
    | _ => return (some name, none)
  | some (.tag t) =>
    skip
    match ← peek with
    | some (.anchor name) => skip; return (some name, some t)
    | _ => return (none, some t)
  | _ => return (none, none)

/-- The whole tag. Its handle has to be known. -/
def wholeTag (t : TagText) : NodeReader Octets := do
  if t.handle.isEmpty then return t.suffix
  match (← get).handles.lookup t.handle with
  | some start => return start ++ t.suffix
  | none => failure

/-- Gives a name to the node that starts here. The number is that of names so far, so a name that
is given again shares its number with the next new one. -/
def beginAnchor (name : String) : NodeReader (Nat × Nat) :=
  modifyGet fun s =>
    let id := s.names.length
    let others := s.names.filter (·.1 != name)
    ((id, s.started), { s with names := (name, id) :: others, started := s.started + 1 })

/-- Reads the content of a node, and keeps it if the node has an anchor. -/
def withAnchor (name : Option String) (content : NodeReader Node) : NodeReader Node := do
  match name with
  | none => content
  | some name =>
    let (anchor, order) ← beginAnchor name
    let node ← content
    modify fun s => { s with anchored := { anchor, order, node } :: s.anchored }
    return node

/-- Whether a key or a value is left out, as the next token is one of `ends`. -/
def isLeftOut (ends : List Token) : NodeReader Bool :=
  return (← peek).all ends.contains

mutual

/-- Reads a node. In a `block` it may be a block collection, and as a key or a value of a block
mapping also a sequence that is not indented. -/
def node : Nat → (block unindented : Bool) → NodeReader Node
  | 0, _, _ => failure
  | rounds + 1, block, unindented => do
    if let some (.alias name) ← peek then
      skip
      match (← get).names.lookup name with
      | some anchor => return .alias anchor
      | none => failure
    let (name, tag) ← properties
    let tag ← tag.mapM wholeTag
    match ← peek with
    | some (.scalar style text) =>
      skip
      withAnchor name do return .scalar tag style text
    | some .flowSequenceStart =>
      skip
      withAnchor name do return .sequence tag (← flowSequence rounds true)
    | some .flowMappingStart =>
      skip
      withAnchor name do return .mapping tag (← flowMapping rounds true)
    | some t =>
      if t == .blockEntry && unindented then
        withAnchor name do return .sequence tag (← unindentedSequence rounds)
      else if t == .blockSequenceStart && block then
        skip
        withAnchor name do return .sequence tag (← blockSequence rounds)
      else if t == .blockMappingStart && block then
        skip
        withAnchor name do return .mapping tag (← blockMapping rounds)
      else if name.isSome || tag.isSome then withAnchor name (return .missing tag)
      else failure
    | none =>
      if name.isSome || tag.isSome then withAnchor name (return .missing tag)
      else failure

/-- Reads the entries of a block sequence up to its end. -/
def blockSequence : Nat → NodeReader (List Node)
  | 0 => failure
  | rounds + 1 => do
    if ← skipIf .blockEntry then
      let item ←
        if ← isLeftOut [.blockEntry, .blockEnd] then pure (.missing none)
        else node rounds true false
      return item :: (← blockSequence rounds)
    else if ← skipIf .blockEnd then return []
    else failure

/-- Reads the entries of a sequence whose dashes stand where the keys around it do. -/
def unindentedSequence : Nat → NodeReader (List Node)
  | 0 => failure
  | rounds + 1 => do
    if ← skipIf .blockEntry then
      let item ←
        if ← isLeftOut [.blockEntry, .key, .value, .blockEnd] then pure (.missing none)
        else node rounds true false
      return item :: (← unindentedSequence rounds)
    else return []

/-- Reads the entries of a block mapping up to its end. -/
def blockMapping : Nat → NodeReader (List (Node × Node))
  | 0 => failure
  | rounds + 1 => do
    if ← skipIf .key then
      let key ←
        if ← isLeftOut [.key, .value, .blockEnd] then pure (.missing none)
        else node rounds true true
      let value ←
        if ← skipIf .value then
          if ← isLeftOut [.key, .value, .blockEnd] then pure (.missing none)
          else node rounds true true
        else pure (.missing none)
      return (key, value) :: (← blockMapping rounds)
    else if ← skipIf .blockEnd then return []
    else failure

/-- Reads the entries of a flow sequence up to its end. An entry may be a mapping with a single
key and without braces. -/
def flowSequence : Nat → (first : Bool) → NodeReader (List Node)
  | 0, _ => failure
  | rounds + 1, first => do
    if ← skipIf .flowSequenceEnd then return []
    if !first then
      if !(← skipIf .flowEntry) then failure
    if ← skipIf .flowSequenceEnd then return []
    let item ←
      if ← skipIf .key then
        let key ←
          if ← isLeftOut [.value, .flowEntry, .flowSequenceEnd] then pure (.missing none)
          else node rounds false false
        let value ←
          if ← skipIf .value then
            if ← isLeftOut [.flowEntry, .flowSequenceEnd] then pure (.missing none)
            else node rounds false false
          else pure (.missing none)
        pure (.mapping none [(key, value)])
      else node rounds false false
    return item :: (← flowSequence rounds false)

/-- Reads the entries of a flow mapping up to its end. -/
def flowMapping : Nat → (first : Bool) → NodeReader (List (Node × Node))
  | 0, _ => failure
  | rounds + 1, first => do
    if ← skipIf .flowMappingEnd then return []
    if !first then
      if !(← skipIf .flowEntry) then failure
    if ← skipIf .flowMappingEnd then return []
    let (key, value) ←
      if ← skipIf .key then do
        let key ←
          if ← isLeftOut [.value, .flowEntry, .flowMappingEnd] then pure (.missing none)
          else node rounds false false
        let value ←
          if ← skipIf .value then
            if ← isLeftOut [.flowEntry, .flowMappingEnd] then pure (.missing none)
            else node rounds false false
          else pure (.missing none)
        pure (key, value)
      else do
        let key ← node rounds false false
        pure (key, Node.missing none)
    return (key, value) :: (← flowMapping rounds false)

end

/-- Reads the directives before a document: at most one version, which has to be a known one, and
no handle twice. -/
def directives (versioned : Bool) (handles : List (Octets × Octets)) :
    List Token → Option (List (Octets × Octets) × List Token)
  | .directive (.version major minor) :: rest =>
    if !versioned && major == 1 && (minor == 1 || minor == 2) then directives true handles rest
    else none
  | .directive (.handle name start) :: rest =>
    if (handles.lookup name).isSome then none
    else directives versioned ((name, start) :: handles) rest
  | tokens => some (handles, tokens)

/-- The handles that need no directive. They come last, so a directive wins. -/
def defaultHandles : List (Octets × Octets) :=
  [(primaryHandle, primaryHandle), (secondaryHandle, coreTag "")]

end NodeReader

open NodeReader in
/-- Reads the only document of a text. Every call of a reader but the last two passes a token
before the next one, so twice as many rounds as tokens, and two more, are enough. -/
def Document.ofTokens? (tokens : List Token) : Option Document := do
  let directed := match tokens.head? with
    | some (.directive _) => true
    | _ => false
  let (handles, tokens) ← directives false [] tokens
  let explicit := tokens.head? == some .documentStart
  if directed && !explicit then none
  let tokens := if explicit then tokens.tail else tokens
  let empty := explicit && (match tokens.head? with
    | none | some (.directive _) | some .documentStart | some .documentEnd => true
    | _ => false)
  let read := if empty then pure (.missing none) else node (2 * tokens.length + 2) true false
  let (root, s) ← read.run { tokens, handles := handles ++ defaultHandles }
  if (s.tokens.dropWhile (· == .documentEnd)).isEmpty then
    some { root, anchored := s.anchored }
  else none

/-- The only document of a text. -/
def Document.ofText? (text : String) : Option Document := do
  Document.ofTokens? (← tokens? text)

end BlinkBench.Yaml
