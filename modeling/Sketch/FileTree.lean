import Sketch.Text.Lines

/-! A tree of files and directories, and scripts kept in it. Paths are walked part by part: every
part but the last must lead through a directory that is there. -/
namespace Sketch

inductive FileError where
  | notFound | isDirectory | notADirectory | alreadyExists
  deriving Repr, DecidableEq

namespace FileError

def code : FileError → Nat
  | notFound => 2
  | isDirectory => 21
  | notADirectory => 20
  | alreadyExists => 17

def message : FileError → String
  | notFound => "No such file or directory"
  | isDirectory => "Is a directory"
  | notADirectory => "Not a directory"
  | alreadyExists => "File exists"

end FileError

/-- A path as it is written: how many slashes lead it, its parts, and whether a slash ends it. -/
structure Path where
  leading : Nat
  parts : List String
  trailing : Bool
  deriving Repr, DecidableEq

namespace Path

def parse (path : String) : Path where
  leading := (path.toList.takeWhile (· == '/')).length
  parts := ((Text.splitAt '/' path.toList).filter (!·.isEmpty)).map String.ofList
  trailing := path.toList.getLast? == some '/'

/-- The path without needless slashes and dots; a part that leads up stays. -/
def tidy (path : Path) : String :=
  let root := if path.leading = 0 then "" else if path.leading = 2 then "//" else "/"
  let text := root ++ "/".intercalate (path.parts.filter (· != "."))
  if text.isEmpty then "." else text

end Path

inductive Node where
  | file (content : ByteArray)
  | directory

/-- Where a node is: the names that lead to it, the last one first. The root has none. -/
abbrev Place := List String

structure FileTree where
  nodes : List (Place × Node)
  /-- Where paths that do not begin at the root begin. -/
  home : Place

namespace FileTree

/-- Directories down to an empty one, which is the home. -/
def withHome : Place → FileTree
  | [] => ⟨[], []⟩
  | name :: parent => ⟨(name :: parent, .directory) :: (withHome parent).nodes, name :: parent⟩

def node? (tree : FileTree) (place : Place) : Option Node :=
  if place.isEmpty then some .directory else tree.nodes.lookup place

def put (tree : FileTree) (place : Place) (node : Node) : FileTree :=
  { tree with nodes := (place, node) :: tree.nodes.filter (·.1 != place) }

def checkDirectory (tree : FileTree) (place : Place) : Except FileError Unit :=
  match tree.node? place with
  | none => .error .notFound
  | some (.file _) => .error .notADirectory
  | some .directory => .ok ()

def Place.go (place : Place) (part : String) : Place :=
  if part = "." then place else if part = ".." then place.tail else part :: place

/-- Follows the parts of a path, each from a directory that is there. -/
def walk (tree : FileTree) (place : Place) : List String → Except FileError Place
  | [] => .ok place
  | part :: parts => do
    tree.checkDirectory place
    tree.walk (Place.go place part) parts

def origin (tree : FileTree) (path : Path) : Place :=
  if path.leading = 0 then tree.home else []

def read (tree : FileTree) (text : String) : Except FileError ByteArray :=
  if text.isEmpty then .error .notFound
  else do
    let path := Path.parse text
    let parts := if path.trailing then path.parts ++ ["."] else path.parts
    let place ← tree.walk (tree.origin path) parts
    match tree.node? place with
    | none => .error .notFound
    | some .directory => .error .isDirectory
    | some (.file content) => .ok content

/-- Puts a file where a path leads; only its last part may be new, and it must name a file. -/
def write (tree : FileTree) (text : String) (content : ByteArray) : Except FileError FileTree :=
  if text.isEmpty then .error .notFound
  else do
    let path := Path.parse text
    let parent ← tree.walk (tree.origin path) path.parts.dropLast
    tree.checkDirectory parent
    match path.parts.getLast? with
    | none => .error .isDirectory
    | some name =>
      if path.trailing || name = "." || name = ".." then .error .isDirectory
      else match tree.node? (name :: parent) with
        | some .directory => .error .isDirectory
        | _ => .ok (tree.put (name :: parent) (.file content))

def makeDirectories (tree : FileTree) : Place → Except FileError FileTree
  | [] => .ok tree
  | name :: parent => do
    let tree ← if (tree.node? parent).isSome then .ok tree else tree.makeDirectories parent
    match tree.node? (name :: parent) with
    | some .directory => .ok tree
    | some (.file _) => .error .alreadyExists
    | none => do
      tree.checkDirectory parent
      .ok (tree.put (name :: parent) .directory)

/-- Stores a script. The directories above the place that the path names, its parts taken by name
alone, are made first. -/
def save (tree : FileTree) (path : String) (program : String) : FileTree × Option FileError :=
  let parsed := Path.parse path
  match tree.makeDirectories (parsed.parts.foldl Place.go (tree.origin parsed)).tail with
  | .error error => (tree, some error)
  | .ok tree =>
    match tree.write path program.toUTF8 with
    | .error error => (tree, some error)
    | .ok tree => (tree, none)

end FileTree

inductive LoadError where
  | file (error : FileError)
  | notText
  deriving Repr, DecidableEq

/-- The text that a file holds, with every line break of the usual kinds a line feed. -/
def decodeScript (content : ByteArray) : Except LoadError String :=
  match String.fromUTF8? content with
  | none => .error .notText
  | some text => .ok (String.ofList (Text.normalizeNewlines text.toList))

def FileTree.load (tree : FileTree) (path : String) : Except LoadError String :=
  match tree.read path with
  | .error error => .error (.file error)
  | .ok content => decodeScript content

end Sketch
