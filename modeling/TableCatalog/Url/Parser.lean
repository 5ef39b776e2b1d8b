import TableCatalog.Diagnostic
import TableCatalog.Url.Host

/-!
# URLs and how they are read

A URL in its normalized parts, and its text. An absolute URL is read as the living URL standard lays
down: surrounding blanks and control characters are cut off, tabs and line ends inside are skipped,
and what follows the scheme depends on whether the scheme is `file`, another special one, or
unknown. The first defect from left to right counts.
-/

namespace TableCatalog

/-! ## URLs and their texts

A path is either opaque, for schemes that have no hierarchy, or a row of segments. A URL without a
host whose path begins with an empty segment is written with `/.` before the path, so that the path
is not taken for a host.
-/

inductive Url.Path where
  | opaquePath (text : String)
  | segments (segments : List String)
  deriving DecidableEq

structure Url where
  scheme : String
  username : String := ""
  password : Option String := none
  host : Option Url.Host := none
  /-- The port, if it is not the usual one of the scheme. -/
  port : Option UInt16 := none
  path : Url.Path
  query : Option String := none
  fragment : Option String := none
  deriving DecidableEq

namespace Url

def Path.text : Path → String
  | .opaquePath s => s
  | .segments ss => String.join (ss.map ("/" ++ ·))

def credentialText (u : Url) : String :=
  if u.username.isEmpty ∧ u.password.isNone then ""
  else u.username ++ (match u.password with
    | some p => ":" ++ p
    | none => "") ++ "@"

def authorityText (u : Url) : String :=
  match u.host with
  | some host => "//" ++ u.credentialText ++ host.text ++ (match u.port with
    | some p => ":" ++ toString p.toNat
    | none => "")
  | none =>
    match u.path with
    | .segments ("" :: _ :: _) => "/."
    | _ => ""

def text (u : Url) : String :=
  u.scheme ++ ":" ++ u.authorityText ++ u.path.text ++ (match u.query with
    | some q => "?" ++ q
    | none => "") ++ (match u.fragment with
    | some f => "#" ++ f
    | none => "")

/-- Whether no reference is resolved against the URL: its scheme is followed by no slash. -/
def isOpaque (u : Url) : Bool :=
  match u.host, u.path with
  | some _, _ => false
  | none, .segments ss => ss.isEmpty
  | none, .opaquePath _ => true

def Host.diagnostic : Host → Option Diagnostic
  | .empty => none
  | .name s => some (.wrapped "Domain" (.quoted s))
  | .ipv4 a => some (.wrapped "Ipv4" (.word (Ipv4.text a)))
  | .ipv6 a => some (.wrapped "Ipv6" (.word a.diagnosticText))

def diagnostic (u : Url) : Diagnostic :=
  .record "Url"
    [("scheme", .quoted u.scheme), ("cannot_be_a_base", .bool u.isOpaque),
      ("username", .quoted u.username), ("password", .optionalQuoted u.password),
      ("host", .option (u.host.bind Host.diagnostic)),
      ("port", .option (u.port.map fun p => .int p.toNat)), ("path", .quoted u.path.text),
      ("query", .optionalQuoted u.query), ("fragment", .optionalQuoted u.fragment)] true

/-! ## Reading URLs -/

inductive SchemeKind where
  | file
  /-- A scheme that addresses the network. -/
  | special
  | other
  deriving DecidableEq, Repr

def SchemeKind.of (scheme : String) : SchemeKind :=
  if scheme = "file" then .file
  else if scheme ∈ ["http", "https", "ws", "wss", "ftp"] then .special
  else .other

/-- Whether a backslash counts as a slash. -/
def SchemeKind.isSpecial : SchemeKind → Bool
  | .other => false
  | _ => true

def defaultPort? (scheme : String) : Option Nat :=
  if scheme ∈ ["http", "ws"] then some 80
  else if scheme ∈ ["https", "wss"] then some 443
  else if scheme = "ftp" then some 21
  else none

/-! ### Parts of a text -/

/-- A text without surrounding blanks and control characters and without tabs and line ends. -/
def cleaned (cs : List Char) : List Char :=
  let trimmed := ((cs.dropWhile (·.toNat ≤ 0x20)).reverse.dropWhile (·.toNat ≤ 0x20)).reverse
  trimmed.filter fun c => !(c = '\t' || c = '\n' || c = '\r')

def isSchemeChar (c : Char) : Bool := c.isAlphanum || c = '+' || c = '-' || c = '.'

/-- The scheme of a text in lower case, and what follows its colon. -/
def splitScheme? (cs : List Char) : Option (String × List Char) :=
  match cs with
  | c :: _ =>
    if c.isAlpha then
      match cs.dropWhile isSchemeChar with
      | ':' :: rest => some (String.ofList ((cs.takeWhile isSchemeChar).map Char.toLower), rest)
      | _ => none
    else none
  | [] => none

def isSlash (kind : SchemeKind) (c : Char) : Bool := c = '/' || (c = '\\' && kind.isSpecial)

/-- A character that ends user information and host. -/
def endsAuthority (kind : SchemeKind) (c : Char) : Bool := isSlash kind c || c = '?' || c = '#'

/-- The text before and after the last at sign, if there is one. -/
def splitUserinfo? (cs : List Char) : Option (List Char × List Char) :=
  if '@' ∈ cs then
    let host := (cs.reverse.takeWhile (· ≠ '@')).reverse
    some (cs.take (cs.length - host.length - 1), host)
  else none

/-- The host at the beginning of a text, which ends before a colon outside of brackets, and the
rest. -/
def splitHost (kind : SchemeKind) : Bool → List Char → List Char × List Char
  | _, [] => ([], [])
  | inside, c :: cs =>
    if (c = ':' ∧ ¬ inside) ∨ endsAuthority kind c then ([], c :: cs)
    else
      let inside := if c = '[' then true else if c = ']' then false else inside
      let (host, rest) := splitHost kind inside cs
      (c :: host, rest)

/-- User name and password, encoded. An empty password is none. -/
def credentials (cs : List Char) : String × Option String :=
  let username := cs.takeWhile (· ≠ ':')
  let password := (cs.dropWhile (· ≠ ':')).drop 1
  (percentEncode encodedInUserinfo username,
    if password.isEmpty then none else some (percentEncode encodedInUserinfo password))

/-- Whether a port can end before the given text. -/
def endsPort : List Char → Bool
  | [] => true
  | c :: _ => c = '/' || c = '\\' || c = '?' || c = '#'

/-- The port that digits write, and the rest behind them. -/
def portOf (scheme : String) (digits rest : List Char) :
    Except Defect (Option UInt16 × List Char) :=
  if 65536 ≤ Text.decimalValue digits ∨ endsPort rest = false then .error .invalidPort
  else if digits.isEmpty ∨ defaultPort? scheme = some (Text.decimalValue digits) then
    .ok (none, rest)
  else .ok (some (UInt16.ofNat (Text.decimalValue digits)), rest)

/-- The port behind a colon, and the rest. -/
def parsePort (scheme : String) (cs : List Char) :
    Except Defect (Option UInt16 × List Char) :=
  portOf scheme (cs.takeWhile Text.isDigit) (cs.dropWhile Text.isDigit)

/-! ### Paths -/

/-- A segment that stands for the directory itself. -/
def isSingleDot (s : List Char) : Bool :=
  s = ['.'] || s.map Char.toLower = ['%', '2', 'e']

/-- A segment that stands for the directory above. -/
def isDoubleDot (s : List Char) : Bool :=
  match s with
  | '.' :: rest => isSingleDot rest
  | '%' :: a :: b :: rest => isSingleDot ['%', a, b] && isSingleDot rest
  | _ => false

def isDriveLetter (s : List Char) : Bool :=
  match s with
  | [c, d] => c.isAlpha && (d = ':' || d = '|')
  | _ => false

/-- Whether a segment names a drive: a drive letter alone or before a backslash. -/
def namesDrive (s : List Char) : Bool :=
  isDriveLetter (s.take 2) && (s.length = 2 || s[2]? = some '\\')

/-- The path without its last segment. No dots lead out of a drive. -/
def shortened (path : List String) : List String :=
  if path.getLast?.any fun s => namesDrive s.toList then path else path.dropLast

/-- Adds segments to a path, resolving dots. A directory that is left by the last segment ends with
an empty one. The drive that a file begins with is written with a colon. -/
def addSegments (kind : SchemeKind) : List String → List (List Char) → List String
  | path, [] => path
  | path, s :: rest =>
    if isDoubleDot s then
      let path := shortened path
      addSegments kind (if rest.isEmpty then path ++ [""] else path) rest
    else if isSingleDot s then
      addSegments kind (if rest.isEmpty then path ++ [""] else path) rest
    else
      let s := if kind = .file ∧ path.isEmpty ∧ isDriveLetter s then s.take 1 ++ [':'] else s
      addSegments kind (path ++ [percentEncode encodedInPath s]) rest

def segmentsOf (kind : SchemeKind) (cs : List Char) : List String :=
  let cs := if kind.isSpecial then cs.map fun c => if c = '\\' then '/' else c else cs
  addSegments kind [] (cs.splitOn '/')

def afterSlash (kind : SchemeKind) (cs : List Char) : List Char :=
  if cs.head?.any (isSlash kind) then cs.tail else cs

/-- The path behind an authority. Only an unknown scheme has a path without segments. -/
def pathAfterAuthority (kind : SchemeKind) (cs : List Char) : List String :=
  if cs.isEmpty ∧ ¬ kind.isSpecial then [] else segmentsOf kind (afterSlash kind cs)

/-- The path of a file, which begins with no empty segment before another one. -/
def filePath (path : List String) : Path :=
  let path := path.dropWhile (·.isEmpty)
  .segments (if path.isEmpty then [""] else path)

def splitPath (cs : List Char) : List Char × List Char :=
  (cs.takeWhile fun c => c ≠ '?' ∧ c ≠ '#', cs.dropWhile fun c => c ≠ '?' ∧ c ≠ '#')

def queryAndFragment (kind : SchemeKind) (cs : List Char) : Option String × Option String :=
  let encoded := if kind.isSpecial then encodedInSpecialQuery else encodedInQuery
  let fragment (cs : List Char) : Option String :=
    match cs with
    | '#' :: rest => some (percentEncode encodedInFragment rest)
    | _ => none
  match cs with
  | '?' :: rest =>
    (some (percentEncode encoded (rest.takeWhile (· ≠ '#'))), fragment (rest.dropWhile (· ≠ '#')))
  | _ => (none, fragment cs)

def withRest (kind : SchemeKind) (u : Url) (rest : List Char) : Url :=
  let (query, fragment) := queryAndFragment kind rest
  { u with query, fragment }

/-! ### Whole URLs -/

/-- The host of a URL. One that addresses the network is not empty. -/
def hostOf (kind : SchemeKind) (cs : List Char) : Except Defect Host :=
  if kind = .special then
    if cs.isEmpty then .error .emptyHost else Host.parse cs
  else Host.parseOpaque cs

/-- The port behind a host, if one is given, and the rest. -/
def portBehind (scheme : String) : List Char → Except Defect (Option UInt16 × List Char)
  | ':' :: rest => parsePort scheme rest
  | rest => .ok (none, rest)

/-- What is read behind the credentials of an authority, if there are any. An empty host has neither
credentials nor a port. -/
def parseHost (scheme : String) (kind : SchemeKind) (credentials : String × Option String)
    (cs : List Char) : Except Defect Url := do
  let (hostText, rest) := splitHost kind false cs
  let host ← hostOf kind hostText
  if host = .empty ∧ rest.head? = some ':' then .error .emptyHost
  let (port, rest) ← portBehind scheme rest
  if host = .empty ∧ credentials ≠ ("", none) then .error .emptyHost
  let (path, rest) := splitPath rest
  return withRest kind
    { scheme, username := credentials.1, password := credentials.2, host := some host, port,
      path := .segments (pathAfterAuthority kind path) } rest

/-- What is read behind the two slashes before an authority. -/
def parseAuthority (scheme : String) (kind : SchemeKind) (cs : List Char) : Except Defect Url :=
  let authority := cs.takeWhile (!endsAuthority kind ·)
  let behind := cs.dropWhile (!endsAuthority kind ·)
  match splitUserinfo? authority with
  | none => parseHost scheme kind ("", none) cs
  | some (userinfo, host) =>
    if userinfo.isEmpty ∧ host.isEmpty ∧ ¬ behind.isEmpty then .error .emptyHost
    else parseHost scheme kind (credentials userinfo) (host ++ behind)

/-- What is read behind the two slashes of a file. A drive letter is no host, and a file whose path
begins with a drive has no host. Without a host all that follows is read behind one more slash. -/
def parseFileAuthority (cs : List Char) : Except Defect Url := do
  let hostText := cs.takeWhile (!endsAuthority .file ·)
  let (host, cs) ←
    if hostText.isEmpty ∨ isDriveLetter hostText then .ok (Host.empty, cs)
    else do
      let host ← Host.parse hostText
      .ok (if host = .name "localhost" then Host.empty else host,
        cs.dropWhile (!endsAuthority .file ·))
  let (path, rest) := splitPath cs
  let path := segmentsOf .file (if host = .empty then path else afterSlash .file path)
  let onDrive := path.head?.any fun s => isDriveLetter s.toList
  return withRest .file
    { scheme := "file", host := some (if onDrive then .empty else host), path := filePath path }
    rest

def fileWithoutAuthority (cs : List Char) : Url :=
  let (path, rest) := splitPath cs
  withRest .file
    { scheme := "file", host := some .empty,
      path := filePath (segmentsOf .file (afterSlash .file path)) } rest

def withoutAuthority (scheme : String) (cs : List Char) : Url :=
  let (path, rest) := splitPath cs
  let path := match path with
    | '/' :: path => Path.segments (segmentsOf .other path)
    | _ => .opaquePath (percentEncode isControl path)
  withRest .other { scheme, path } rest

/-- What is read behind a scheme and its colon. -/
def parseBehind (scheme : String) (cs : List Char) : Except Defect Url :=
  let kind := SchemeKind.of scheme
  match kind with
  | .special => parseAuthority scheme kind (cs.dropWhile (isSlash kind))
  | .file =>
    match cs with
    | c :: d :: rest =>
      if isSlash kind c ∧ isSlash kind d then parseFileAuthority rest
      else .ok (fileWithoutAuthority cs)
    | _ => .ok (fileWithoutAuthority cs)
  | .other =>
    match cs with
    | '/' :: '/' :: rest => parseAuthority scheme kind rest
    | _ => .ok (withoutAuthority scheme cs)

def parse (s : String) : Except Defect Url :=
  match splitScheme? (cleaned s.toList) with
  | none => .error .relative
  | some (scheme, cs) => parseBehind scheme cs

end Url

end TableCatalog
