import UsageMeter.Event
import UsageMeter.Json.Value
import UsageMeter.WordSum

/-!
What a command has to say: what it prints, what went wrong if something did,
and the events on the way. A failure is told as a message with its causes, from
the outermost inwards.
-/
namespace UsageMeter.Cli

/-- The forms that results are printed in. -/
inductive Format where
  | table
  | json
deriving DecidableEq, Repr

/-- The format of a name. -/
def Format.ofName? (s : String) : Option Format :=
  if s = "table" then some .table else if s = "json" then some .json else none

/-- What a command came to. -/
structure Report where
  output : String
  /-- The message of a failure and its causes. -/
  failure : Option (List String)
  events : List Event

/-- A command that broke off at a sum without room, after what it had printed. -/
structure Abort where
  printed : String
  cause : SumOverflow
deriving DecidableEq, Repr

/-- A line of output. -/
def line (s : String) : String := s ++ "\n"

/-- A JSON value on indented lines. -/
def jsonText (v : Json.Value) : String := line v.pretty

/-- A text of which every line but the first begins with blanks. -/
def hang (blanks : Nat) (s : String) : String :=
  String.ofList (s.toList.flatMap fun c =>
    if c = '\n' then '\n' :: List.replicate blanks ' ' else [c])

/-- Causes by their numbers. -/
def numbered : Nat → List String → String
  | _, [] => ""
  | n, cause :: rest =>
    let number := toString n
    "\n" ++ String.ofList (List.replicate (5 - number.length) ' ') ++ number ++ ": " ++
      hang 7 cause ++ numbered (n + 1) rest

/-- Causes under a message; a single one needs no number. -/
def causesText : List String → String
  | [] => ""
  | [cause] => "\n\nCaused by:\n    " ++ hang 4 cause
  | causes => "\n\nCaused by:" ++ numbered 0 causes

/-- What is printed of a failure. -/
def failureText : List String → String
  | [] => ""
  | message :: causes => "Error: " ++ line (message ++ causesText causes)

end UsageMeter.Cli
