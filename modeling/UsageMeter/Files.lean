import UsageMeter.ReadError

/-!
Files as readings see them: at one moment, every path either gives a text or a
failure. Readings take a `Files` and ask it for the paths they need.
-/
namespace UsageMeter

/-- What reading each path gives at one moment. -/
abbrev Files := String → Except FileFailure String

namespace Files

/-- The path of a name in a directory. -/
def join (directory name : String) : String :=
  if directory.isEmpty || directory.endsWith "/" then directory ++ name
  else directory ++ "/" ++ name

/-- Files that have been read already; no other file is there. -/
def ofTable (table : List (String × Except FileFailure String)) : Files := fun path =>
  match table.find? fun e => e.1 == path with
  | some (_, read) => read
  | none => .error .notFound

/-- The text of a file, or the read error of its failure. -/
def text (files : Files) (path : String) : Except ReadError String :=
  match files path with
  | .ok content => .ok content
  | .error cause => .error (.unavailable path cause)

/-- Reads a file with a parser whose errors have words. -/
def parse {α ε : Type} (files : Files) (path : String) (parser : String → Except ε α)
    (message : ε → String) : Except ReadError α := do
  let content ← files.text path
  match parser content with
  | .ok x => .ok x
  | .error e => .error (.malformed path (message e))

/-- Reads a file that need not be there; one that is there must be of its format. -/
def parseIfReadable {α ε : Type} (files : Files) (path : String) (parser : String → Except ε α)
    (message : ε → String) : Except ReadError (Option α) :=
  match files path with
  | .error _ => .ok none
  | .ok content =>
    match parser content with
    | .ok x => .ok (some x)
    | .error e => .error (.malformed path (message e))

end Files
end UsageMeter
