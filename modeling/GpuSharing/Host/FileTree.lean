import GpuSharing.Host.Command
import GpuSharing.Text.Fields

/-!
# Trees of files

The part of a file system below one directory, where relative and absolute paths
start. Symbolic links are followed wherever they stand in a path.
-/

set_option autoImplicit false

namespace GpuSharing

inductive FileTree where
  /-- A file, with its content if that is text. -/
  | file (content : Option String)
  | program (ending : CommandEnd)
  | link (target : String)
  | directory (entries : List (String × FileTree))

/-- A node of a tree: the names and nodes that lead to it, the last one first. -/
structure Place where
  root : FileTree
  trail : List (String × FileTree) := []

namespace Place

def node (place : Place) : FileTree :=
  match place.trail with
  | [] => place.root
  | (_, node) :: _ => node

def name? (place : Place) : Option String := place.trail.head?.map (·.1)

def longestName : Nat := 255

/-- Goes from a directory along names. Empty names stay in the directory, and `links`
bounds the number of links on the way. -/
def walk (links : Nat) (place : Place) (names : List String) : Except OsError Place :=
  match names with
  | [] => .ok place
  | name :: rest =>
      match place.node with
      | .directory entries =>
          if name = "" ∨ name = "." then walk links place rest
          else if name = ".." then
            match place.trail with
            | [] => .error .notFound
            | _ :: trail => walk links { place with trail } rest
          else if longestName < name.utf8ByteSize then .error .nameTooLong
          else
            match entries.lookup name, links with
            | none, _ => .error .notFound
            | some (.link _), 0 => .error .tooManyLinks
            | some (.link target), links + 1 =>
                let start := if target.startsWith "/" then { place with trail := [] } else place
                walk links start (Text.fields '/' target ++ rest)
            | some node, links => walk links { place with trail := (name, node) :: place.trail } rest
      | _ => .error .notDirectory
  termination_by (links, names.length)

end Place

namespace FileTree

def empty : FileTree := .directory []

def entries : FileTree → List (String × FileTree)
  | .directory entries => entries
  | _ => []

def isDirectory : FileTree → Bool
  | .directory _ => true
  | _ => false

/-- Puts a node at the end of a path, with the directories on the way. A directory that
is there already keeps its entries. -/
def insert (node : FileTree) : List String → FileTree → FileTree
  | [], old =>
      match node, old with
      | .directory [], .directory entries => .directory entries
      | node, _ => node
  | name :: rest, old =>
      let child := insert node rest ((old.entries.lookup name).getD empty)
      .directory ((name, child) :: old.entries.filter (·.1 ≠ name))

def ofFiles (files : List (String × FileTree)) : FileTree :=
  files.foldl (fun tree (path, node) =>
    insert node ((Text.fields '/' path).filter fun name => name ≠ "" && name ≠ ".") tree) empty

def linkLimit : Nat := 40

/-- The place that a path leads to. Nothing is known above the tree. -/
def resolve (files : FileTree) (path : String) : Except OsError Place :=
  if path = "" then .error .notFound
  else Place.walk linkLimit { root := files } (Text.fields '/' path)

def readText (files : FileTree) (path : String) : Except OsError String := do
  match (← files.resolve path).node with
  | .file (some content) => .ok content
  | .directory _ => .error .isDirectory
  | _ => .error .notText

def listNames (files : FileTree) (path : String) : Except OsError (List String) := do
  match (← files.resolve path).node with
  | .directory entries => .ok ((entries.map (·.1)).mergeSort fun a b => a ≤ b)
  | _ => .error .notDirectory

def leads (files : FileTree) (path : String) : Bool := (files.resolve path).isOk

end FileTree

def joinPath (directory name : String) : String :=
  if directory = "" ∨ directory.endsWith "/" then directory ++ name else directory ++ "/" ++ name

structure Host where
  files : FileTree
  run : List String → CommandEnd

end GpuSharing
