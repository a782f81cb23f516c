/-!
# Files

Directories and files by their places, and paths that are followed part by part. Every part of a
path but the last has to be a directory that exists. Names and paths have a greatest length.
-/
namespace BlinkBench

/-- What can be at a place. -/
inductive FileEntry where
  | directory
  | file (content : ByteArray)

/-- A place: the names on the way to it from the root. -/
abbrev Place := List String

/-- The files that there are. -/
structure Files where
  /-- Where paths begin that do not begin at the root. -/
  working : Place
  entries : List (Place × FileEntry)

namespace Files

/-- What is at a place. The root is always there. -/
def at? (fs : Files) (place : Place) : Option FileEntry :=
  if place.isEmpty then some .directory else fs.entries.lookup place

/-- Whether there is a directory at a place. -/
def isDirectory (fs : Files) (place : Place) : Bool :=
  match fs.at? place with
  | some .directory => true
  | _ => false

/-- The files with something new at a place. -/
def put (fs : Files) (place : Place) (entry : FileEntry) : Files :=
  { fs with entries := (place, entry) :: fs.entries.filter (·.1 != place) }

/-- How many bytes a name may have. -/
def maxNameBytes : Nat := 255

/-- How many bytes a path may have. -/
def maxPathBytes : Nat := 4095

/-- A path, cut at the slashes. -/
structure Path where
  fromRoot : Bool
  parts : List String

namespace Path

/-- The path that a text spells. No path is empty, too long or holds the character zero. -/
def parse? (text : String) : Option Path :=
  if text.isEmpty || text.toList.contains '\x00' || maxPathBytes < text.utf8ByteSize then none
  else some {
    fromRoot := text.toList.head? == some '/'
    parts := (text.toList.splitOn '/').map String.ofList }

/-- Whether a part leads no further. -/
def isStill (part : String) : Bool :=
  part == "" || part == "."

/-- The parts up to the last one that leads further. -/
def way (path : Path) : List String :=
  (path.parts.reverse.dropWhile isStill).reverse

/-- Whether a dot follows the last part that leads further. -/
def endsInDot (path : Path) : Bool :=
  (path.parts.reverse.takeWhile isStill).contains "."

end Path

/-- Where a path begins. -/
def start (fs : Files) (path : Path) : Place :=
  if path.fromRoot then [] else fs.working

/-- The place one part further from a directory. -/
def descend (fs : Files) (place : Place) (part : String) : Option Place :=
  if !fs.isDirectory place then none
  else if Path.isStill part then some place
  else if part == ".." then some place.dropLast
  else if maxNameBytes < part.utf8ByteSize then none
  else some (place ++ [part])

/-- The place that a path leads to. -/
def resolve? (fs : Files) (text : String) : Option Place := do
  let path ← Path.parse? text
  path.parts.foldlM fs.descend (fs.start path)

/-- What a path leads to. -/
def open? (fs : Files) (text : String) : Option FileEntry := do
  fs.at? (← fs.resolve? text)

/-- Makes a directory, if there is nothing at a place. -/
def ensureDirectory (fs : Files) (place : Place) : Option Files :=
  match fs.at? place with
  | some .directory => some fs
  | some (.file _) => none
  | none => some (fs.put place .directory)

/-- Makes the directories on the way along some parts, up to the first one that cannot be there. The
answer also says whether there was none such. -/
def makeParts (fs : Files) (place : Place) : List String → Files × Bool
  | [] => (fs, true)
  | part :: parts =>
    match fs.descend place part with
    | none => (fs, false)
    | some place =>
      match fs.ensureDirectory place with
      | none => (fs, false)
      | some fs => fs.makeParts place parts

/-- Makes a directory behind those on the way to it. A directory cannot be made by the name of a dot, so
where one follows, it has to be there. -/
def makeLast (fs : Files) (path : Path) : Option Files := do
  let place ← path.way.foldlM fs.descend (fs.start path)
  if !path.endsInDot then fs.ensureDirectory place
  else if fs.isDirectory place then some fs
  else none

/-- Makes a directory and all those on the way to it. Where it cannot be made, those that were made before
are left. The answer also says whether it could. -/
def tryDirectories (fs : Files) (text : String) : Files × Bool :=
  match Path.parse? text with
  | none => (fs, false)
  | some path =>
    let (fs, onWay) := fs.makeParts (fs.start path) path.way.dropLast
    match if onWay then fs.makeLast path else none with
    | none => (fs, false)
    | some fs => (fs, true)

/-- Makes a directory and all those on the way to it, if that is possible. -/
def makeDirectories (fs : Files) (text : String) : Option Files :=
  let (fs, made) := fs.tryDirectories text
  if made then some fs else none

/-- Writes a file in a directory that exists, over one that is there already. -/
def write (fs : Files) (text : String) (content : ByteArray) : Option Files := do
  let place ← fs.resolve? text
  if fs.isDirectory place then none
  else if !fs.isDirectory place.dropLast then none
  else some (fs.put place (.file content))

end Files

end BlinkBench
