import UsageMeter.Files

/-!
A tree of files in memory. Paths are relative to its root; a path is followed
name by name, where every name but the last must lead to a directory. The tree
gives the `Files` that readings ask for.
-/
namespace UsageMeter

/-- A file or a directory. -/
inductive FileNode where
  | file (bytes : List UInt8)
  | directory (entries : List (String × FileNode))

namespace FileNode

/-- An empty directory. -/
def emptyDirectory : FileNode := .directory []

/-- The entry of a name. -/
def child? (name : String) (entries : List (String × FileNode)) : Option FileNode :=
  (entries.find? fun e => e.1 == name).map Prod.snd

/-- The entries with one put in the place of what had its name, or at the end. -/
def setEntry (name : String) (node : FileNode) :
    List (String × FileNode) → List (String × FileNode)
  | [] => [(name, node)]
  | (n, old) :: rest =>
    if n = name then (name, node) :: rest else (n, old) :: setEntry name node rest

/-- The entries of a directory; a file has none. -/
def entries : FileNode → List (String × FileNode)
  | .file _ => []
  | .directory es => es

/-- Puts a node at a path, making the directories on the way. -/
def put (node : FileNode) : List String → FileNode → FileNode
  | [], _ => node
  | name :: rest, old =>
    let below := (child? name old.entries).getD emptyDirectory
    .directory (setEntry name (put node rest below) old.entries)

/-- Makes a directory at a path, unless there is one. -/
def makeDirectory : List String → FileNode → FileNode
  | [], old => .directory old.entries
  | name :: rest, old =>
    let below := (child? name old.entries).getD emptyDirectory
    .directory (setEntry name (makeDirectory rest below) old.entries)

/-- Takes away what is at a path. -/
def remove : List String → FileNode → FileNode
  | [], old => old
  | [name], old => .directory (old.entries.filter fun e => e.1 != name)
  | name :: rest, old =>
    match child? name old.entries with
    | none => old
    | some below => .directory (setEntry name (remove rest below) old.entries)

/-- The longest name an entry can have, in bytes. -/
def longestName : Nat := 255

/-- Follows names from a node; `above` holds the directories on the way, the
nearest first, for names that lead back. -/
def follow : List String → List FileNode → FileNode → Except FileFailure FileNode
  | [], _, node => .ok node
  | _ :: _, _, .file _ => .error .notDirectory
  | name :: rest, above, .directory es =>
    if name = "" ∨ name = "." then follow rest above (.directory es)
    else if name = ".." then
      match above with
      | [] => .error .notFound
      | parent :: higher => follow rest higher parent
    else if longestName < name.utf8ByteSize then .error .nameTooLong
    else
      match child? name es with
      | none => .error .notFound
      | some node => follow rest (.directory es :: above) node

end FileNode

/-- A tree by its root directory. -/
structure FileTree where
  root : FileNode

namespace FileTree

/-- The names on a path. -/
def names (path : String) : List String :=
  (path.splitOn "/").filter fun name => name != "" && name != "."

/-- A tree of empty directories with the given names. -/
def ofDirectories (directories : List String) : FileTree :=
  ⟨.directory (directories.map (·, FileNode.emptyDirectory))⟩

/-- Writes a file. -/
def write (t : FileTree) (path : String) (bytes : List UInt8) : FileTree :=
  ⟨FileNode.put (.file bytes) (names path) t.root⟩

/-- Makes a directory. -/
def makeDirectory (t : FileTree) (path : String) : FileTree :=
  ⟨FileNode.makeDirectory (names path) t.root⟩

/-- Takes away a file or a directory with all that is in it. -/
def remove (t : FileTree) (path : String) : FileTree :=
  ⟨FileNode.remove (names path) t.root⟩

/-- What is at a path. -/
def find (t : FileTree) (path : String) : Except FileFailure FileNode :=
  if path.contains '\x00' then .error .nulInPath
  else if path.isEmpty || path.startsWith "/" then .error .notFound
  else FileNode.follow (path.splitOn "/") [] t.root

/-- The text of a file. -/
def read (t : FileTree) (path : String) : Except FileFailure String :=
  match t.find path with
  | .error e => .error e
  | .ok (.directory _) => .error .isDirectory
  | .ok (.file bytes) =>
    match String.fromUTF8? ⟨bytes.toArray⟩ with
    | some text => .ok text
    | none => .error .notText

/-- The files of a tree. -/
def files (t : FileTree) : Files := t.read

end FileTree
end UsageMeter
