/-
  Reading a command line. A value stands behind its option, in the same argument behind an equals
  sign or as the next one; the latter is looked at only when the next option comes, or the end.
-/
import TaintClient.CommandLine.Option

namespace TaintClient.CommandLine

open Text (Loose)

/-- What a command line asks for. -/
inductive Command
  | run (config : Config)
  | help (isLong : Bool)
  | version
deriving DecidableEq, Repr

/-- What stops the reading of a command line. -/
inductive Stop
  | help (isLong : Bool)
  | version
  | fault (f : Fault)
deriving DecidableEq, Repr

/-! ## Values -/

/-- The number with the digits `s` behind those of `n`. The first character that is no digit, or
with which the number gets too large, is the fault. -/
def readDigits (n : Nat) : List Char → Except NumberFault UInt64
  | [] => .ok (UInt64.ofNat n)
  | c :: s =>
    let more := n * 10 + (c.toNat - 48)
    if ¬ c.isDigit then .error .badDigit
    else if more < UInt64.size then readDigits more s
    else .error .tooLarge

/-- The number of a text: digits, with a plus sign before them or not. -/
def readNumber (s : List Char) : Except NumberFault UInt64 :=
  let digits := match s with
    | '+' :: t => t
    | _ => s
  if s.isEmpty then .error .empty
  else if digits.isEmpty then .error .badDigit
  else readDigits 0 digits

/-- A value that has to be text. -/
def readText (value : Loose) : Except Fault String :=
  match value.text? with
  | some s => .ok s
  | none => .error .notText

/-- A value that has to be the word for one of some things. -/
def readChoice {α : Type} (key : Key) (all : List α) (word : α → String) (value : Loose) :
    Except Fault α :=
  match value.text?.bind fun s => all.find? (word · = s) with
  | some a => .ok a
  | none => .error (if value.isEmpty then .valueMissing key else .badChoice key value.shown)

/-- The setting of an option by its value. -/
def readSetting (key : Key) (value : Loose) : Except Fault Setting :=
  match key with
  | .mode => (readChoice key Mode.all Mode.name value).map .mode
  | .code => (readText value).map .code
  | .codeFile => if value.isEmpty then .error (.valueMissing key) else .ok (.codeFile value)
  | .input => (readText value).map .input
  | .name => (readText value).map .name
  | .demo => .ok .demo
  | .endpoint => (readText value).map .endpoint
  | .timeoutSeconds => do
    let s ← readText value
    match readNumber s.toList with
    | .ok n => pure (.timeoutSeconds n)
    | .error why => throw (.badNumber key s why)
  | .output => (readChoice key OutputFormat.all OutputFormat.word value).map .output
  | .logLevel => (readChoice key Log.Level.all Log.Level.word value).map .logLevel
  | .logFormat => (readChoice key LogFormat.all LogFormat.word value).map .logFormat

/-! ## Arguments -/

/-- What was read of a command line: the settings, and the option whose value was not looked at
yet, with the value if it has come. -/
structure Draft where
  settings : List Setting := []
  pending : Option (Key × Option Loose) := none
deriving Repr

namespace Draft

/-- Whether an option was set. -/
def has (d : Draft) (key : Key) : Bool := d.settings.any (·.key = key)

/-- Sets an option, which can be done once. -/
def set (d : Draft) (key : Key) (value : Loose) : Except Fault Draft := do
  if d.has key then throw (.repeated key)
  let setting ← readSetting key value
  pure { d with settings := d.settings ++ [setting] }

/-- Looks at the value that was not looked at yet. -/
def settle (d : Draft) : Except Fault Draft :=
  match d.pending with
  | none => .ok d
  | some (key, none) => .error (.valueMissing key)
  | some (key, some value) => { d with pending := none }.set key value

/-- Looks at what is pending and stops with the answer. -/
def stop (d : Draft) (s : Stop) : Stop :=
  match d.settle with
  | .ok _ => s
  | .error f => .fault f

/-- Reads a word behind two hyphens, and the value behind its equals sign. -/
def readWord (d : Draft) (word : Loose) (value : Option Loose) : Except Stop Draft :=
  let fault {α : Type} : Except Fault α → Except Stop α := Except.mapError .fault
  let name := word.text?.getD ""
  match value, Key.ofWord? name with
  | some v, some key =>
    if key.takesValue then fault (d.settle.bind (·.set key v))
    else .error (.fault (.unneededValue name v.shown))
  | none, some key =>
    if key.takesValue then fault (d.settle.map ({ · with pending := some (key, none) }))
    else fault (d.settle.bind (·.set key []))
  | some v, none =>
    if name = "help" ∨ name = "version" then .error (.fault (.unneededValue name v.shown))
    else .error (.fault (.unknown ("--" ++ word.shown)))
  | none, none =>
    if name = "help" then .error (d.stop (.help true))
    else if name = "version" then .error (d.stop .version)
    else .error (.fault (.unknown ("--" ++ word.shown)))

/-- Reads letters behind one hyphen. Each of them stops the reading. -/
def readLetters (d : Draft) : Loose → Stop
  | some 'h' :: _ => d.stop (.help false)
  | some 'V' :: _ => d.stop .version
  | some c :: _ => .fault (.unknown (String.ofList ['-', c]))
  | letters => .fault (.unknown ("-" ++ letters.shown))

/-- Reads an argument that is no option: the value of the option before it. -/
def readValue (d : Draft) (value : Loose) : Except Stop Draft :=
  match d.pending with
  | some (key, none) => .ok { d with pending := some (key, some value) }
  | _ => .error (.fault (.unknown value.shown))

/-- Reads an argument. -/
def readArgument (d : Draft) (a : Loose) : Except Stop Draft :=
  match a with
  | some '-' :: some '-' :: rest =>
    let word := rest.takeWhile (· ≠ some '=')
    match rest.drop word.length with
    | _ :: value => d.readWord word (some value)
    | [] => d.readWord word none
  | some '-' :: letter :: letters => .error (d.readLetters (letter :: letters))
  | _ => d.readValue a

/-- Reads arguments. Behind two hyphens there are no options, and no place for anything else. -/
def readArguments (d : Draft) : List Loose → Except Stop Draft
  | [] => d.settle.mapError .fault
  | a :: rest =>
    if a = Loose.ofText "--" then
      match rest with
      | [] => d.settle.mapError .fault
      | b :: _ => .error (.fault (.unknown b.shown))
    else (d.readArgument a).bind (readArguments · rest)

end Draft

/-! ## Command lines -/

/-- The first option that cannot stand with others, and these, in the order in which they stand. -/
def conflict? (keys : List Key) : Option Fault :=
  keys.findSome? fun key =>
    match keys.filter key.conflicts with
    | [] => none
    | others => some (.conflict key others)

/-- A configuration with one more setting. -/
def Setting.apply (c : Config) : Setting → Config
  | .mode m => { c with mode := m }
  | .code s => { c with code := some s }
  | .codeFile path => { c with codeFile := some path }
  | .input s => { c with input := s }
  | .name s => { c with name := some s }
  | .demo => { c with demo := true }
  | .endpoint s => { c with endpoint := s }
  | .timeoutSeconds n => { c with timeoutSeconds := n }
  | .output f => { c with output := f }
  | .logLevel l => { c with logLevel := l }
  | .logFormat f => { c with logFormat := f }

/-- The configuration of settings. The environment may name another endpoint than the usual. -/
def configOf (environmentEndpoint : Option String) (settings : List Setting) : Config :=
  settings.foldl Setting.apply { endpoint := environmentEndpoint.getD defaultEndpoint }

/-- The endpoint that the environment names, if it names one, from what its variable holds. That has
to be text, but it is not looked at where an option names an endpoint. -/
def Draft.inheritedEndpoint (d : Draft) (held : Option Loose) : Except Fault (Option String) :=
  match held with
  | none => .ok none
  | some value => if d.has .endpoint then .ok none else (readText value).map some

/-- Reads a command line without the name of the program. `held` is what the variable of the
endpoint holds. -/
def read (held : Option Loose) (arguments : List Loose) : Except Fault Command :=
  match ({} : Draft).readArguments arguments with
  | .error (.help isLong) => .ok (.help isLong)
  | .error .version => .ok .version
  | .error (.fault f) => .error f
  | .ok d =>
    match d.inheritedEndpoint held, conflict? (d.settings.map Setting.key) with
    | .error f, _ => .error f
    | .ok _, some f => .error f
    | .ok environmentEndpoint, none => .ok (.run (configOf environmentEndpoint d.settings))

end TaintClient.CommandLine
