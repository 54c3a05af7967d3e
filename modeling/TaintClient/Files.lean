/-
  Files to read from, and why one cannot be read.
-/
import TaintClient.Text.Loose

namespace TaintClient

/-- Why a file cannot be read as text. -/
inductive FileFault
  | missing
  | isDirectory
  /-- A part of the path that should be a directory is none. -/
  | notDirectory
  | nameTooLong
  | denied
  /-- The path holds a character that no name may hold. -/
  | badName
  /-- The octets of the file are no text. -/
  | notText
  /-- Something else, in the words of the system. -/
  | other (message : String)
deriving DecidableEq, Repr

/-- The wording of a fault. -/
def FileFault.message : FileFault → String
  | .missing => "No such file or directory (os error 2)"
  | .denied => "Permission denied (os error 13)"
  | .notDirectory => "Not a directory (os error 20)"
  | .isDirectory => "Is a directory (os error 21)"
  | .nameTooLong => "File name too long (os error 36)"
  | .badName => "file name contained an unexpected NUL byte"
  | .notText => "stream did not contain valid UTF-8"
  | .other message => message

/-- The octets of the files of a system by path. -/
abbrev Files := Text.Loose → Except FileFault (List UInt8)

/-- The text of a file. -/
def Files.text (files : Files) (path : Text.Loose) : Except FileFault String := do
  match Text.Utf8.decode? (← files path) with
  | some s => pure (String.ofList s)
  | none => throw .notText

end TaintClient
