import UsageMeter.Tier
import UsageMeter.WordSum

/-!
Why counters or a process could not be read. A `FileFailure` is what the
system says about one file, a `ReadError` what a reading says about it. A reading
that adds counters up can also break off, which a `Readout` keeps apart from failing.
-/
namespace UsageMeter

/-- Why the text of a file could not be had. -/
inductive FileFailure where
  | notFound
  | notPermitted
  | notDirectory
  | isDirectory
  /-- A name on the path is longer than names can be. -/
  | nameTooLong
  /-- The path holds a character that no path can hold. -/
  | nulInPath
  /-- The bytes are not the encoding of a text. -/
  | notText
  /-- Another failure, by the system's words. -/
  | other (words : String)
deriving DecidableEq, Repr

/-- The wording of a file failure. -/
def FileFailure.message : FileFailure → String
  | .notFound => "No such file or directory (os error 2)"
  | .notPermitted => "Permission denied (os error 13)"
  | .notDirectory => "Not a directory (os error 20)"
  | .isDirectory => "Is a directory (os error 21)"
  | .nameTooLong => "File name too long (os error 36)"
  | .nulInPath => "file name contained an unexpected NUL byte"
  | .notText => "stream did not contain valid UTF-8"
  | .other words => words

/-- Why a reading failed. -/
inductive ReadError where
  /-- A file could not be read. -/
  | unavailable (path : String) (cause : FileFailure)
  /-- A file was read but is not of its format. -/
  | malformed (path : String) (reason : String)
  /-- A counter is smaller than it was before. -/
  | counterReset (tier : Tier)
  /-- No tier could be read; one entry for each that was tried. -/
  | exhausted (attempts : List String)
deriving DecidableEq, Repr

namespace ReadError

/-- The wording of a read error. -/
def message : ReadError → String
  | .unavailable path cause => path ++ " unavailable: " ++ cause.message
  | .malformed path reason => "malformed " ++ path ++ ": " ++ reason
  | .counterReset tier => tier.name ++ " counter went backwards"
  | .exhausted attempts => "no usable counter source (" ++ "; ".intercalate attempts ++ ")"

/-- Whether the next tier is tried after this error. -/
def fallsThrough : ReadError → Bool
  | .unavailable .. => true
  | .malformed .. => true
  | _ => false

/-- The error and, under it, the failure that caused it. -/
def causes (e : ReadError) : List String :=
  match e with
  | .unavailable _ cause => [e.message, cause.message]
  | _ => [e.message]

end ReadError

/-- What an attempt to read comes to: a result or a read error, unless a sum has no
room. That ends the attempt, and whatever it was made for, without either. -/
abbrev Readout (α : Type) := Except SumOverflow (Except ReadError α)

end UsageMeter
