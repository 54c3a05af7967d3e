/-
  Reading URLs, alone or relative to another one, by the rules of the web: blanks around the text
  and line breaks in it do not count, signs are written by their octets where they have to be, and
  what can be made good is made good.
-/
import TaintClient.Url.Basic

namespace TaintClient.Url

/-- The characters of the text that count. -/
def significant (s : List Char) : List Char :=
  let isEdge (c : Char) : Bool := c.toNat ≤ 32
  let s := s.dropWhile isEdge
  let s := (s.reverse.dropWhile isEdge).reverse
  s.filter fun c => c ≠ '\t' && c ≠ '\n' && c ≠ '\r'

/-- Whether a character separates segments. -/
def isSolidus (special : Bool) (c : Char) : Bool := c = '/' || (special && c = '\\')

/-- Whether a character ends what stands before the path. -/
def endsAuthority (special : Bool) (c : Char) : Bool := isSolidus special c || c = '?' || c = '#'

/-! ## Scheme -/

/-- The scheme of a text and what follows its colon. -/
def readScheme? (s : List Char) : Option (String × List Char) :=
  let isPart (c : Char) : Bool := c.isAlphanum || c = '+' || c = '-' || c = '.'
  let name := s.takeWhile isPart
  match s.dropWhile isPart with
  | ':' :: rest =>
    if name.head?.any Char.isAlpha then some (String.ofList (name.map Char.toLower), rest) else none
  | _ => none

/-! ## Path, query and fragment -/

/-- Whether a segment means the one it is in. -/
def isSingleDot (s : List Char) : Bool := [".", "%2e"].contains (String.ofList (s.map Char.toLower))

/-- Whether a segment means the one before. -/
def isDoubleDot (s : List Char) : Bool :=
  ["..", ".%2e", "%2e.", "%2e%2e"].contains (String.ofList (s.map Char.toLower))

/-- Whether a segment names a drive. -/
def isDrive (s : List Char) : Bool :=
  match s with
  | [letter, sign] => letter.isAlpha && (sign = ':' || sign = '|')
  | _ => false

/-- Whether it does so with a colon. -/
def isPlainDrive (s : List Char) : Bool := isDrive s && s.getLast? = some ':'

/-- Whether a text begins with the name of a drive. -/
def startsWithDrive (s : List Char) : Bool :=
  isDrive (s.take 2) && (s.drop 2).head?.all (endsAuthority true)

/-- Segments without the last one. A drive stays. -/
def dropSegment (segments : List (List Char)) : List (List Char) :=
  if segments.getLast?.any isDrive then segments else segments.dropLast

/-- A segment as it stands in a path: the drive at the start of a file's path with a colon. -/
def segmentText (isFile isFirst : Bool) (s : List Char) : List Char :=
  if isFile ∧ isFirst ∧ isDrive s then s.take 1 ++ [':'] else percentEncode inPath s

/-- The segments of a path: `pieces` behind `segments`. -/
def addSegments (isFile : Bool) (segments : List (List Char)) :
    List (List Char) → List (List Char)
  | [] => segments
  | [last] =>
    if isDoubleDot last then dropSegment segments ++ [[]]
    else if isSingleDot last then segments ++ [[]]
    else segments ++ [segmentText isFile segments.isEmpty last]
  | piece :: pieces =>
    if isDoubleDot piece then addSegments isFile (dropSegment segments) pieces
    else if isSingleDot piece then addSegments isFile segments pieces
    else addSegments isFile (segments ++ [segmentText isFile segments.isEmpty piece]) pieces

/-- Segments without the empty ones at the start, except the last. -/
def dropEmpty : List (List Char) → List (List Char)
  | [] :: s :: rest => dropEmpty (s :: rest)
  | segments => segments

/-- The path that follows `segments`, behind a solidus. -/
def readPath (scheme : String) (segments : List (List Char)) (s : List Char) :
    List (List Char) :=
  let pieces := s.splitOnP (isSolidus (isSpecial scheme))
  let isFile := scheme = "file"
  let all := addSegments isFile segments pieces
  if isFile then dropEmpty all else all

/-- The part of a text that belongs to the path. -/
def pathPart (s : List Char) : List Char := s.takeWhile fun c => c ≠ '?' && c ≠ '#'

/-- The URL with the query and the fragment that follow the path in the text. -/
def withQuery (u : Url) (s : List Char) : Url :=
  let s := s.dropWhile fun c => c ≠ '?' && c ≠ '#'
  let encode := percentEncode (if isSpecial u.scheme then inSpecialQuery else inQuery)
  let query := match s with
    | '?' :: t => some (encode (t.takeWhile (· ≠ '#')))
    | _ => none
  let fragment := match s.dropWhile (· ≠ '#') with
    | '#' :: t => some (percentEncode inFragment t)
    | _ => none
  { u with query := query, fragment := fragment }

/-- The URL with the path and what follows it. -/
def withPath (u : Url) (segments : List (List Char)) (s : List Char) : Url :=
  withQuery { u with path := .rooted (readPath u.scheme segments (pathPart s)) } s

/-- The URL with the path that starts behind an authority. -/
def withPathStart (u : Url) (s : List Char) : Url :=
  match s with
  | c :: rest =>
    if isSolidus (isSpecial u.scheme) c then u.withPath [] rest
    else if ¬ isSpecial u.scheme ∧ (c = '?' ∨ c = '#') then
      withQuery { u with path := .rooted [] } s
    else u.withPath [] s
  | [] => if isSpecial u.scheme then u.withPath [] [] else { u with path := .rooted [] }

/-! ## Authority -/

/-- Where the host ends: at a colon outside brackets, or where the authority does. -/
def splitHost (special : Bool) : Bool → List Char → List Char × List Char
  | _, [] => ([], [])
  | bracketed, c :: cs =>
    if endsAuthority special c ∨ (c = ':' ∧ ¬ bracketed) then ([], c :: cs)
    else
      let (host, rest) :=
        splitHost special (if c = '[' then true else if c = ']' then false else bracketed) cs
      (c :: host, rest)

/-- Reads a port behind its colon. -/
def readPort (scheme : String) (s : List Char) : Except Fault (Option Nat × List Char) :=
  let digits := s.takeWhile Char.isDigit
  let rest := s.dropWhile Char.isDigit
  let n := digits.foldl (fun n c => n * 10 + (c.toNat - 48)) 0
  if 65535 < n ∨ ¬ rest.head?.all (endsAuthority true) then .error .port
  else .ok (if digits.isEmpty ∨ defaultPort? scheme = some n then none else some n, rest)

/-- Reads a host and a port. -/
def readHost (scheme : String) (s : List Char) :
    Except Fault (Host × Option Nat × List Char) := do
  let special := isSpecial scheme
  let (name, rest) := splitHost special false s
  if name.isEmpty ∧ (special ∨ rest.head? = some ':') then throw .emptyHost
  let host ← if special then Host.read name else Host.readPlain name
  match rest with
  | ':' :: t =>
    let (port, rest) ← readPort scheme t
    pure (host, port, rest)
  | _ => pure (host, none, rest)

/-- The user and the password in front of the last sign. -/
def readUserinfo (s : List Char) : List Char × List Char :=
  let encode := percentEncode inUserinfo
  (encode (s.takeWhile (· ≠ ':')), encode ((s.dropWhile (· ≠ ':')).drop 1))

/-- Reads what follows the two solidi behind a scheme. -/
def readAuthority (scheme : String) (s : List Char) : Except Fault Url := do
  let isEnd := endsAuthority (isSpecial scheme)
  let front := s.takeWhile (!isEnd ·)
  let host := (front.reverse.takeWhile (· ≠ '@')).reverse
  let userinfo := front.take (front.length - host.length - 1)
  let hasSign := host.length < front.length
  let rest := host ++ s.dropWhile (!isEnd ·)
  if hasSign ∧ userinfo.isEmpty ∧ rest.head?.any isEnd then throw .emptyHost
  let (username, password) := readUserinfo userinfo
  let (host, port, rest) ← readHost scheme rest
  if host = .empty ∧ ¬ (username.isEmpty ∧ password.isEmpty) then throw .emptyHost
  let u : Url := ⟨scheme, username, password, some host, port, .rooted [], none, none⟩
  pure (u.withPathStart rest)

/-! ## Files -/

/-- A file's URL without a path yet. -/
def fileUrl (host : Host) : Url := { scheme := "file", host := some host, path := .rooted [] }

/-- The URL of a file with its path. A path that starts with a drive belongs to no host. -/
def filePath (host : Host) (s : List Char) : Url :=
  let u := (fileUrl host).withPath [] s
  match u.path with
  | .rooted (first :: _) => if isPlainDrive first then { u with host := some .empty } else u
  | _ => u

/-- Reads what follows the two solidi of a file's URL. -/
def readFileHost (s : List Char) : Except Fault Url := do
  let isEnd := endsAuthority true
  let name := s.takeWhile (!isEnd ·)
  if isDrive name then pure ((fileUrl .empty).withPath [] s)
  else
    let rest := s.dropWhile (!isEnd ·)
    if name.isEmpty then pure ((fileUrl .empty).withPath [] rest)
    else
      let host ← Host.read name
      if host = .domain "localhost".toList then pure ((fileUrl .empty).withPath [] rest)
      else
        match rest with
        | c :: t => pure (filePath host (if isSolidus true c then t else rest))
        | [] => pure (filePath host [])

/-- The URL of a file relative to another one, by a path behind one solidus. -/
def fileFromRoot (base : Option Url) (s : List Char) : Url :=
  let blank := fileUrl .empty
  if startsWithDrive s then blank.withPath [] s
  else
    match base with
    | none => blank.withPath [] s
    | some b =>
      match b.path with
      | .rooted (first :: _) =>
        if isPlainDrive first then blank.withPath [first] s
        else (fileUrl (b.host.getD .empty)).withPath [] s
      | _ => (fileUrl (b.host.getD .empty)).withPath [] s

/-! ## Relative URLs -/

/-- The base with another fragment. -/
def withFragmentOf (base : Url) (s : List Char) : Url :=
  { base with fragment := some (percentEncode inFragment s) }

/-- The segments of a path. -/
def Path.segments : Path → List (List Char)
  | .rooted segments => segments
  | .rootless _ => []

/-- A text relative to a base, with no solidus at the start. -/
def readBeside (base : Url) (segments : List (List Char)) (s : List Char) : Url :=
  match s with
  | [] => { base with fragment := none }
  | '?' :: _ => base.withQuery s
  | '#' :: t => base.withFragmentOf t
  | _ => base.withPath segments s

/-- A text relative to a base of the same scheme. -/
def readRelative (base : Url) (s : List Char) : Except Fault Url :=
  match s with
  | c :: t =>
    if isSolidus true c then
      if t.head?.any (isSolidus true) then
        if "//".toList.isPrefixOf s then readAuthority base.scheme (s.drop 2)
        else readAuthority base.scheme (s.dropWhile (isSolidus true))
      else .ok (base.withPath [] t)
    else .ok (base.readBeside base.path.segments.dropLast s)
  | [] => .ok (base.readBeside [] [])

/-- The URL of a file behind the colon, or relative to another file. -/
def readFile (base : Option Url) (s : List Char) : Except Fault Url :=
  match s with
  | c :: d :: t =>
    if isSolidus true c then
      if isSolidus true d then readFileHost t else .ok (fileFromRoot base (d :: t))
    else .ok (beside base s)
  | [c] => .ok (if isSolidus true c then fileFromRoot base [] else beside base s)
  | [] => .ok (beside base s)
where
  /-- A text with no solidus at the start. -/
  beside (base : Option Url) (s : List Char) : Url :=
    match base with
    | none => (fileUrl .empty).withPath [] s
    | some b =>
      if startsWithDrive s then (fileUrl .empty).withPath [] s
      else b.readBeside (dropSegment b.path.segments) s

/-- Reads what follows a scheme. -/
def readBehindScheme (base : Option Url) (scheme : String) (s : List Char) : Except Fault Url :=
  let sameScheme := base.filter (·.scheme = scheme)
  if scheme = "file" then readFile sameScheme s
  else if isSpecial scheme then
    let solidi := s.takeWhile (isSolidus true)
    match sameScheme with
    | some b => if solidi.length < 2 then b.readRelative s else readAuthority scheme (s.drop solidi.length)
    | none => readAuthority scheme (s.drop solidi.length)
  else if "//".toList.isPrefixOf s then readAuthority scheme (s.drop 2)
  else
    let u : Url := { scheme := scheme, path := .rootless [] }
    match s with
    | '/' :: t => .ok (u.withPath [] t)
    | _ => .ok (withQuery { u with path := .rootless (percentEncode inHost (pathPart s)) } s)

/-- The URL of a text, relative to a base if there is one. -/
def readFrom (base : Option Url) (text : List Char) : Except Fault Url :=
  let s := significant text
  match readScheme? s with
  | some (scheme, rest) => readBehindScheme base scheme rest
  | none =>
    match base with
    | none => .error .relativeWithoutBase
    | some b =>
      match s, b.path with
      | '#' :: t, _ => .ok (b.withFragmentOf t)
      | _, .rootless _ => .error .relativeWithRootlessBase
      | _, .rooted _ => if b.scheme = "file" then readFile (some b) s else b.readRelative s

/-- The URL of a text. -/
def parse (s : String) : Except Fault Url := readFrom none s.toList

/-- The URL that a text stands for in a document at this URL. -/
def join (u : Url) (s : String) : Except Fault Url := readFrom (some u) s.toList

end TaintClient.Url
