import BlinkBench.Files
import BlinkBench.Manifest.Validate
import BlinkBench.Manifest.Yaml
import BlinkBench.Text.Quoted
/-!
# Loading manifests

A manifest that is loaded from a text or from a file has been checked.
-/
namespace BlinkBench

/-- Why a manifest cannot be loaded. -/
inductive LoadFault where
  /-- The file cannot be opened. -/
  | unopened (path : String)
  /-- What was found spells no manifest. -/
  | unreadable
  /-- The manifest fails a check. -/
  | invalid (fault : ManifestFault)
deriving DecidableEq, Repr

/-- What is said about a manifest that cannot be loaded. -/
def LoadFault.message : LoadFault → String
  | unopened path => "Failed to open manifest at " ++ Text.quoted path
  | unreadable => "Failed to parse PortBlink manifest YAML"
  | invalid fault => fault.message

namespace Manifest

/-- The manifest that a text spells. -/
def ofText (text : String) : Except LoadFault Manifest :=
  match ofYaml? text with
  | none => .error .unreadable
  | some m =>
    match m.validate with
    | .ok () => .ok m
    | .error fault => .error (.invalid fault)

/-- The manifest that bytes spell. -/
def ofBytes (bytes : ByteArray) : Except LoadFault Manifest :=
  match String.fromUTF8? bytes with
  | some text => ofText text
  | none => .error .unreadable

/-- The manifest in what a path led to, if it led anywhere. A directory can be opened, but
nothing can be read from it. -/
def ofEntry (path : String) : Option FileEntry → Except LoadFault Manifest
  | none => .error (.unopened path)
  | some .directory => .error .unreadable
  | some (.file content) => ofBytes content

/-- The manifest in a file. -/
def load (fs : Files) (path : String) : Except LoadFault Manifest :=
  ofEntry path (fs.open? path)

end Manifest

end BlinkBench
