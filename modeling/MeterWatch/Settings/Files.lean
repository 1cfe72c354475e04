/-!
# Files in memory

Settings are read from files.  A tree of files in memory stands for the ones on
a disk wherever reading must not depend on the outside.
-/

namespace MeterWatch

inductive ReadFault where
  | notFound
  | isDirectory
  /-- A part of the path before its end is a file. -/
  | notDirectory
  | notText
  /-- The file is there, but it cannot be read. -/
  | refused (message : String)
  /-- It cannot be told whether the file is there. -/
  | unreachable (message : String)
  deriving DecidableEq, Repr

namespace ReadFault

def message : ReadFault → String
  | notFound => "No such file or directory (os error 2)"
  | isDirectory => "Is a directory (os error 21)"
  | notDirectory => "Not a directory (os error 20)"
  | notText => "stream did not contain valid UTF-8"
  | refused message | unreachable message => message

def exists? : ReadFault → Bool
  | notFound | notDirectory | unreachable _ => false
  | isDirectory | notText | refused _ => true

end ReadFault

abbrev ReadResult := Except ReadFault String

/-! ## Trees -/

inductive FileNode where
  | directory
  /-- The text of a file, if it is text. -/
  | file (content : Option String)
  deriving DecidableEq, Repr

/-- Everything is listed with its place, counted from the top. -/
structure FileTree where
  nodes : List (List String × FileNode)
  working : List String

namespace FileTree

def pathParts (path : String) : List String := path.splitOn "/"

/-- A place is a directory if something is listed at or below it. -/
def isDirectory (tree : FileTree) (place : List String) : Bool :=
  place.isPrefixOf tree.working || tree.nodes.any fun (listed, node) =>
    place.isPrefixOf listed && (node == .directory || listed != place)

def fileAt? (tree : FileTree) (place : List String) :
    Option (Option String) :=
  tree.nodes.findSome? fun (listed, node) =>
    match node with
    | .file content => if listed = place then some content else none
    | .directory => none

/-- Follows the parts of a path, each of which needs a directory to start. -/
def resolve (tree : FileTree) (place : List String) :
    List String → Except ReadFault (List String)
  | [] => .ok place
  | part :: rest =>
      if (tree.fileAt? place).isSome then .error .notDirectory
      else if !tree.isDirectory place then .error .notFound
      else if part = "" ∨ part = "." then resolve tree place rest
      else if part = ".." then resolve tree place.dropLast rest
      else resolve tree (place ++ [part]) rest

def read (tree : FileTree) (path : String) : ReadResult := do
  if path.isEmpty then .error .notFound
  else
    let start := if path.startsWith "/" then [] else tree.working
    let place ← tree.resolve start (pathParts path)
    match tree.fileAt? place with
    | some (some text) => .ok text
    | some none => .error .notText
    | none =>
        if tree.isDirectory place then .error .isDirectory
        else .error .notFound

/-- A place that a path names, whether or not anything is there. -/
def placeOf (working : List String) (path : String) : List String :=
  (pathParts path).foldl
    (fun place part =>
      if part = "" ∨ part = "." then place
      else if part = ".." then place.dropLast
      else place ++ [part])
    working

end FileTree

end MeterWatch
