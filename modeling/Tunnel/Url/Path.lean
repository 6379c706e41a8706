import Tunnel.Url.Percent

/-!
# Paths of URLs

A path is read segment by segment onto a path already there. A dot segment adds nothing and a double dot
takes a segment away, also where the dots are percent-encoded. The paths of files know drive letters,
which are not taken away.
-/
namespace Tunnel.UrlPath

/-- The kinds of schemes: files, the other well-known ones, and the rest. -/
inductive SchemeKind where
  | file
  | special
  | other
  deriving DecidableEq, Repr

def SchemeKind.of (scheme : String) : SchemeKind :=
  if scheme = "file" then .file
  else if ["http", "https", "ws", "wss", "ftp"].contains scheme then .special
  else .other

/-- Whether a scheme is well known; a backslash is then a slash. -/
def SchemeKind.isSpecial : SchemeKind → Bool
  | .other => false
  | _ => true

def isDrive (a b : Char) : Bool :=
  a.isAlpha && (b == ':' || b == '|')

def isDriveSegment : List Char → Bool
  | [a, b] => isDrive a b
  | _ => false

def isNormalDrive : List Char → Bool
  | [a, b] => a.isAlpha && b == ':'
  | _ => false

def startsWithDrive : List Char → Bool
  | [a, b] => isDrive a b
  | a :: b :: c :: _ => isDrive a b && ['/', '\\', '?', '#'].contains c
  | _ => false

/-- The part of a path after its last slash, and the path up to and with that slash. -/
def splitLast (path : List Char) : List Char × List Char :=
  let last := path.reverse.takeWhile (· ≠ '/')
  (path.take (path.length - last.length), last.reverse)

/-- A path without its last segment; the slash before it stays, and so does a drive letter. -/
def pop (kind : SchemeKind) (path : List Char) : List Char :=
  let (before, last) := splitLast path
  if kind = .file ∧ isNormalDrive last then path else before

/-- Whether the slash at the end of a path may go: it is not the first, and no drive letter stands
before it. -/
def endSlashMayGo (path : List Char) : Bool :=
  let before := path.dropLast
  if before.contains '/' then
    let segment := (splitLast before).2 ++ path.drop (path.length - 1)
    !startsWithDrive segment
  else false

def isDot (segment : List Char) : Bool :=
  [".", "%2e"].contains (String.ofList segment).toLower

def isDoubleDot (segment : List Char) : Bool :=
  ["..", "%2e%2e", "%2e.", ".%2e"].contains (String.ofList segment).toLower

def endsWithSlash (path : List Char) : Bool :=
  path.getLast? = some '/'

def withSlash (path : List Char) : List Char :=
  if endsWithSlash path then path else path ++ ['/']

/-- A path and whether its URL keeps its host: a drive letter takes the host away. -/
structure State where
  path : List Char
  hasHost : Bool

/-- Adds a segment to a path; `slash` says whether a slash follows it. -/
def addSegment (kind : SchemeKind) (s : State) (segment : List Char) (slash : Bool) : State :=
  let ending := if slash then ['/'] else []
  if isDoubleDot segment then
    let path := if endsWithSlash s.path && endSlashMayGo s.path then s.path.dropLast else s.path
    let path := pop kind path
    { s with path := if slash then withSlash path else path }
  else if isDot segment then { s with path := withSlash s.path }
  else if kind = .file ∧ s.path.length = 1 ∧ isDriveSegment segment then
    ⟨s.path ++ segment.take 1 ++ ':' :: ending, false⟩
  else { s with path := s.path ++ segment ++ ending }

/-- Whether a character ends a segment and, if a segment follows, is its slash. -/
def isSlash (kind : SchemeKind) (c : Char) : Bool :=
  c == '/' || (c == '\\' && kind.isSpecial)

def isEnd (c : Char) : Bool :=
  c == '?' || c == '#'

/-- Adds a segment as it was written. A drive letter at the end of the path is set apart from what
follows it. -/
def addRaw (kind : SchemeKind) (s : State) (raw : List Char) (slash : Bool) : State :=
  let s :=
    if kind = .file ∧ raw ≠ [] ∧ s.path ≠ [] ∧ isNormalDrive (s.path.drop 1) then
      { s with path := s.path ++ ['/'] }
    else s
  addSegment kind s (Percent.encode Percent.inPath raw) slash

/-- Reads segments up to a query, a fragment or the end. `raw` is the segment so far, last character
first. -/
def readSegments (kind : SchemeKind) : State → List Char → List Char → State × List Char
  | s, raw, [] => (addRaw kind s raw.reverse false, [])
  | s, raw, c :: rest =>
    if isSlash kind c then readSegments kind (addRaw kind s raw.reverse true) [] rest
    else if isEnd c then (addRaw kind s raw.reverse false, c :: rest)
    else readSegments kind s (c :: raw) rest

/-- Reads a path onto a path already there: the path, whether the host stays, and what follows. The
path of a file has one slash at its start. -/
def read (kind : SchemeKind) (hasHost : Bool) (path input : List Char) : State × List Char :=
  let (s, rest) := readSegments kind ⟨path, hasHost⟩ [] input
  if kind = .file then ({ s with path := '/' :: s.path.dropWhile (· = '/') }, rest) else (s, rest)

/-- Reads the path after an authority. The path of a well-known scheme is never empty. -/
def readAfterAuthority (kind : SchemeKind) (hasHost : Bool) (input : List Char) :
    State × List Char :=
  if kind.isSpecial then
    match input with
    | c :: rest =>
      if isSlash kind c then read kind hasHost ['/'] rest else read kind hasHost ['/'] input
    | [] => read kind hasHost ['/'] input
  else match input with
    | [] => (⟨[], hasHost⟩, [])
    | c :: _ =>
      if isEnd c then (⟨[], hasHost⟩, input)
      else if c = '/' then read kind hasHost [] input
      else read kind hasHost ['/'] input

end Tunnel.UrlPath
