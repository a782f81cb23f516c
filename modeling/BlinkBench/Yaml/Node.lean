import BlinkBench.Yaml.Token
/-!
# The document behind a YAML text

A document is a tree of scalars, sequences and mappings. A node may carry an anchor, and an alias
stands for the node with its anchor. The order and the repetitions of mapping keys are kept.
-/
namespace BlinkBench.Yaml

/-- A node of a document. Tags are kept as octets, an alias as the number of its anchor. -/
inductive Node where
  | scalar (tag : Option Octets) (style : ScalarStyle) (text : String)
  | sequence (tag : Option Octets) (items : List Node)
  | mapping (tag : Option Octets) (entries : List (Node × Node))
  | alias (anchor : Nat)
deriving Repr, Inhabited

/-- A node that is not there: an empty plain scalar. -/
def Node.missing (tag : Option Octets) : Node :=
  .scalar tag .plain ""

/-- A node with an anchor. Two nodes may have anchors of one number; `order` says which of them
starts later. -/
structure Anchored where
  anchor : Nat
  order : Nat
  node : Node

/-- A document, with its nodes that have anchors. -/
structure Document where
  root : Node
  anchored : List Anchored

/-- The node that an anchor's number means in the end: the last one to start with that number. -/
def Document.lookup? (d : Document) (anchor : Nat) : Option Node :=
  let latest := d.anchored.foldl (fun best a =>
    if a.anchor == anchor && best.all (·.order < a.order) then some a else best) none
  latest.map (·.node)

/-- The node itself, or the one it is an alias of. -/
def Document.resolve? (d : Document) : Node → Option Node
  | .alias anchor => d.lookup? anchor
  | node => some node

end BlinkBench.Yaml
