/-
  The program: it gathers its variables, arguments and files, and prints what it comes to.
-/
import Std.Internal.UV.System
import Std.Time.Zoned
import TaintClient.Network
import TaintClient.Program
import TaintClient.Text.Pattern

namespace TaintClient.Main

/-! ## Files -/

/-- The fault of a file that the system could not read. -/
def fileFault (e : IO.Error) : FileFault :=
  match e with
  | .noFileOrDirectory .. => .missing
  | .permissionDenied .. => .denied
  | .inappropriateType _ code _ => if code = 20 then .notDirectory else .isDirectory
  | .invalidArgument _ 36 _ => .nameTooLong
  | e => .other (toString e)

/-- The octets of a file. -/
def readFile (path : String) : IO (Except FileFault (List UInt8)) := do
  if path.contains '\x00' then pure (.error .badName)
  else
    try pure (.ok (← IO.FS.readBinFile path).toList)
    catch e => pure (.error (fileFault e))

/-- The text of a file; a file that cannot be read counts as none. -/
def readText? (path : String) : IO (Option String) := do
  match ← readFile path with
  | .ok bytes => pure ((Text.Utf8.decode? bytes).map String.ofList)
  | .error _ => pure none

/-- The name of the files of variables. -/
def variablesFile : String := ".env"

/-- The file of variables in a directory or the nearest one above it; the names on the way to the
directory are given from its end on. -/
def nearestFile : List String → IO (Option String)
  | [] => pure none
  | name :: above => do
    let path := "/".intercalate (variablesFile :: name :: above).reverse
    match ← readFile path with
    | .ok bytes => pure ((Text.Utf8.decode? bytes).map String.ofList)
    | .error _ => nearestFile above

/-- The file of the working directory and the file beside the program. -/
def filesOfVariables : IO (Option String × Option String) := do
  let working := (toString (← IO.currentDir)).splitOn "/"
  let program := (toString (← IO.appPath)).splitOn "/"
  let beside ← readText? ("/".intercalate (program.dropLast ++ [variablesFile]))
  pure (← nearestFile working.reverse, beside)

/-! ## Variables -/

/-- The parts of octets that end with a zero each. -/
def parts (octets : List UInt8) : List (List UInt8) :=
  octets.foldr (fun b ps =>
    match b, ps with
    | 0, ps => [] :: ps
    | b, p :: ps => (b :: p) :: ps
    | b, [] => [[b]]) []

/-- A variable as the system writes it: its name, an equals sign, and what it holds. -/
def readVariable (octets : List UInt8) : Option (String × Text.Loose) :=
  let name := octets.takeWhile (· ≠ 61)
  (Text.Utf8.decode? name).map fun s =>
    (String.ofList s, .ofOctets (octets.drop (name.length + 1)))

/-- The variables that the program was started with. Where the system does not give their octets,
what is no text in them comes replaced. -/
def environment : IO Environment := do
  match ← readFile "/proc/self/environ" with
  | .ok octets => pure ⟨(parts octets).filterMap readVariable⟩
  | .error _ =>
    let given ← Std.Internal.UV.System.osEnviron
    pure ⟨given.toList.map fun v => (v.1, .ofText v.2)⟩

/-! ## Times -/

/-- Milliseconds as seconds and tenths of them. -/
def seconds (milliseconds : Nat) : String :=
  let tenths := (milliseconds + 50) / 100
  toString (tenths / 10) ++ "." ++ toString (tenths % 10)

/-- A number in a fixed number of digits. -/
def padded (width n : Nat) : String :=
  let digits := (toString n).toList
  String.ofList (List.replicate (width - digits.length) '0' ++ digits)

/-- A time of day to the millisecond. -/
def timeOfDay (t : Std.Time.PlainTime) : String :=
  padded 2 t.hour.val.toNat ++ ":" ++ padded 2 t.minute.val.toNat ++ ":"
    ++ padded 2 t.second.val.toNat ++ "." ++ padded 3 (t.nanosecond.val.toNat / 1000000)

/-- The time now, and the time since the start. -/
def clock (start : Nat) : IO Program.Clock := do
  let now ← Std.Time.Timestamp.now
  let today ← Std.Time.PlainTime.now
  let elapsed := (← IO.monoMsNow) - start
  pure ⟨timeOfDay today, now.toMillisecondsSinceUnixEpoch.val, seconds elapsed⟩

/-! ## The program -/

/-- The configuration that arguments ask for, if they ask for an analysis. -/
def config? (e : Environment) (working beside : Option String) (arguments : List Text.Loose) :
    Option Config := do
  let e ← (e.loaded working beside).toOption
  match Program.command e arguments with
  | .ok (.run c) => some c
  | _ => none

/-- The files that the program may read. -/
def files (c : Option Config) : IO Files := do
  match c.bind (·.codeFile) with
  | none => pure fun _ => .error .missing
  | some path =>
    let result ← readFile path.shown
    pure fun _ => result

/-- Runs the program with its arguments. -/
def run (arguments : List String) : IO UInt32 := do
  let start ← IO.monoMsNow
  let e ← environment
  let (working, beside) ← filesOfVariables
  let arguments := arguments.map Text.Loose.ofText
  let config := config? e working beside arguments
  let timeout := (config.map (·.timeoutSeconds)).getD defaultTimeout
  let deadline := start + timeout.toNat * 1000
  let o ← Program.start (Network.send deadline) (← files config) Text.Pattern.test e working beside
    arguments
  let clock ← clock start
  let errors ← IO.getStderr
  for notice in o.notices do
    errors.putStrLn (notice.text clock)
  let output ← IO.getStdout
  output.putStr o.output
  output.flush
  pure o.exitCode.toUInt32

end TaintClient.Main

/-- The program. -/
def main (arguments : List String) : IO UInt32 := TaintClient.Main.run arguments
