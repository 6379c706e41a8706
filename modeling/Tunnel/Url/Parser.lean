import Tunnel.Url
import Tunnel.Url.Path

/-!
# Reading URLs

A text is a URL if it starts with a scheme; otherwise it is a reference and needs a base. Controls and
spaces around a text are ignored, and so are tabs and line ends within it. Each part is read by a
function that gives what follows it; files go their own way, since they have drive letters and a host
that may be left out.
-/
namespace Tunnel.Url

open UrlPath (SchemeKind)

def defaultPort? (scheme : String) : Option Nat :=
  match scheme with
  | "http" => some 80
  | "ws" => some 80
  | "https" => some 443
  | "wss" => some 443
  | "ftp" => some 21
  | _ => none

def isSchemeChar (c : Char) : Bool :=
  c.isAlphanum || c == '+' || c == '-' || c == '.'

def splitScheme (cs : List Char) : Option (String × List Char) :=
  match cs with
  | c :: _ =>
    let scheme := cs.takeWhile isSchemeChar
    match c.isAlpha, cs.drop scheme.length with
    | true, ':' :: rest => some ((String.ofList scheme).toLower, rest)
    | _, _ => none
  | [] => none

/-- Query and fragment of a text that starts with the mark of one of them or is empty. -/
def readQueryAndFragment (kind : SchemeKind) (cs : List Char) : Option String × Option String :=
  let query (cs : List Char) :=
    let isEncoded := if kind.isSpecial then Percent.inSpecialQuery else Percent.inQuery
    String.ofList (Percent.encode isEncoded cs)
  let fragment (cs : List Char) := String.ofList (Percent.encode Percent.inFragment cs)
  match cs with
  | '?' :: rest =>
    let q := rest.takeWhile (· ≠ '#')
    match rest.drop q.length with
    | _ :: f => (some (query q), some (fragment f))
    | [] => (some (query q), none)
  | '#' :: rest => (none, some (fragment rest))
  | _ => (none, none)

def withFragment (u : Url) (cs : List Char) : Url :=
  { u with fragment := (readQueryAndFragment .other cs).2 }

/-- Replaces path, query and fragment: `s` is the new path and `rest` what follows it. -/
def withPath (u : Url) (kind : SchemeKind) (s : List Char) (rest : List Char) : Url :=
  let (query, fragment) := readQueryAndFragment kind rest
  { u with path := String.ofList s, query, fragment }

def readUserInfo (kind : SchemeKind) (cs : List Char) :
    Except UrlError (String × Option String × List Char) :=
  let authority := cs.takeWhile fun c => !(UrlPath.isSlash kind c || UrlPath.isEnd c)
  let after := (authority.reverse.takeWhile (· ≠ '@')).length
  if authority.contains '@' then
    let info := authority.take (authority.length - after - 1)
    let rest := cs.drop (info.length + 1)
    if info.isEmpty then
      match rest with
      | c :: _ =>
        if UrlPath.isSlash kind c || UrlPath.isEnd c then .error .emptyHost
        else .ok ("", none, rest)
      | [] => .ok ("", none, rest)
    else
      let encode (cs : List Char) := String.ofList (Percent.encode Percent.inUserInfo cs)
      let name := info.takeWhile (· ≠ ':')
      let password := info.drop (name.length + 1)
      .ok (encode name, if password.isEmpty then none else some (encode password), rest)
  else .ok ("", none, cs)

/-- The text of a host and what follows it. A colon within brackets belongs to the host. -/
def splitHost (kind : SchemeKind) (bracket : Bool) : List Char → List Char × List Char
  | [] => ([], [])
  | c :: rest =>
    if UrlPath.isSlash kind c || UrlPath.isEnd c || (c == ':' && !bracket) then ([], c :: rest)
    else
      let bracket := if c = '[' then true else if c = ']' then false else bracket
      let (host, after) := splitHost kind bracket rest
      (c :: host, after)

/-- The port after a colon, unless it is the scheme's own. -/
def readPort (scheme : String) (cs : List Char) : Except UrlError (Option Nat × List Char) :=
  let digits := cs.takeWhile Char.isDigit
  let rest := cs.drop digits.length
  let n := digits.foldl (fun n c => n * 10 + (c.toNat - 48)) 0
  let ended : Bool := match rest with
    | [] => true
    | c :: _ => ['/', '\\', '?', '#'].contains c
  if 65535 < n ∨ !ended then .error .port
  else .ok (if digits.isEmpty ∨ defaultPort? scheme = some n then none else some n, rest)

def readAuthority (scheme : String) (cs : List Char) : Except UrlError Url := do
  let kind := SchemeKind.of scheme
  let (username, password, cs) ← readUserInfo kind cs
  let (hostText, cs) := splitHost kind false cs
  if hostText.isEmpty ∧ kind.isSpecial then throw .emptyHost
  let host ← if kind.isSpecial then Host.parse hostText else Host.parseOther hostText
  if host = .empty ∧ cs.head? = some ':' then throw .emptyHost
  let (port, cs) ← match cs with
    | ':' :: rest => readPort scheme rest
    | _ => pure (none, cs)
  if host = .empty ∧ (username ≠ "" ∨ password.isSome) then throw .emptyHost
  let (s, rest) := UrlPath.readAfterAuthority kind true cs
  let u : Url := ⟨scheme, some ⟨username, password, host, port⟩, "", none, none⟩
  return u.withPath kind s.path rest

def fileAuthority (host : Host) : Option Authority :=
  some ⟨"", none, host, none⟩

def emptyFile : Url := ⟨"file", fileAuthority .empty, "", none, none⟩

/-- The host after the double slash of a file and what follows it. A drive letter is no host, and
`localhost` is none either. -/
def readFileHost (cs : List Char) : Except UrlError (Host × List Char) :=
  let text := cs.takeWhile fun c => !(UrlPath.isSlash .file c || UrlPath.isEnd c)
  if text.isEmpty ∨ UrlPath.isDriveSegment text then .ok (.empty, cs)
  else do
    let host ← Host.parse text
    return (if host = .name "localhost" then .empty else host, cs.drop text.length)

def firstSegment (path : String) : List Char :=
  (path.toList.drop 1).takeWhile (· ≠ '/')

def readFilePath (u : Url) (path : List Char) (cs : List Char) : Url :=
  let (s, rest) := UrlPath.read .file false path cs
  u.withPath .file s.path rest

/-- Reads what follows the scheme of a file and starts with one slash. The drive letter or the host
of the base stays, unless a drive letter is given. -/
def readFileSlash (base : Option Url) (cs : List Char) : Url :=
  match base with
  | some b =>
    let first := firstSegment b.path
    if UrlPath.startsWithDrive (cs.drop 1) then readFilePath emptyFile [] cs
    else if UrlPath.isNormalDrive first then readFilePath emptyFile ('/' :: first) cs
    else readFilePath { emptyFile with authority := fileAuthority (b.host?.getD .empty) } [] cs
  | none => readFilePath emptyFile [] cs

def readFileRelative (base : Option Url) (cs : List Char) : Url :=
  match base, cs with
  | none, _ => readFilePath emptyFile ['/'] cs
  | some b, [] => { b with fragment := none }
  | some b, '?' :: _ =>
    let (query, fragment) := readQueryAndFragment .file cs
    { b with query, fragment }
  | some b, '#' :: _ => b.withFragment cs
  | some b, _ =>
    if UrlPath.startsWithDrive cs then readFilePath emptyFile ['/'] cs
    else
      let (s, rest) := UrlPath.read .file true (UrlPath.pop .file b.path.toList) cs
      b.withPath .file s.path rest

/-- Reads the URL of a file after its scheme, against the base if that is a file too. -/
def readFile (base : Option Url) (cs : List Char) : Except UrlError Url :=
  let slashes := cs.take 2 |>.takeWhile (UrlPath.isSlash .file)
  match slashes with
  | [] => .ok (readFileRelative base cs)
  | [_] => .ok (readFileSlash base cs)
  | _ => do
    let (host, rest) ← readFileHost (cs.drop 2)
    let (s, rest) :=
      if host = .empty then UrlPath.read .file false ['/'] rest
      else UrlPath.readAfterAuthority .file true rest
    let u := { emptyFile with authority := fileAuthority (if s.hasHost then host else .empty) }
    return u.withPath .file s.path rest

def readRelative (base : Url) (cs : List Char) : Except UrlError Url :=
  let kind := SchemeKind.of base.scheme
  match cs with
  | [] => .ok { base with fragment := none }
  | '?' :: _ =>
    let (query, fragment) := readQueryAndFragment kind cs
    .ok { base with query, fragment }
  | '#' :: _ => .ok (base.withFragment cs)
  | c :: rest =>
    if c = '/' ∨ c = '\\' then
      let slashes := cs.takeWhile fun c => c == '/' || c == '\\'
      if 2 ≤ slashes.length then
        match cs with
        | '/' :: '/' :: rest => readAuthority base.scheme rest
        | _ => readAuthority base.scheme (cs.drop slashes.length)
      else
        let (s, rest) := UrlPath.read kind true ['/'] rest
        .ok (base.withPath kind s.path rest)
    else
      let path := UrlPath.pop kind base.path.toList
      let path := if path.isEmpty then ['/'] else path
      let (s, rest) := UrlPath.read kind true path cs
      .ok (base.withPath kind s.path rest)

def readAfterScheme (base : Option Url) (scheme : String) (cs : List Char) : Except UrlError Url :=
  match SchemeKind.of scheme with
  | .file => readFile (base.filter fun b => b.scheme == "file") cs
  | .special =>
    let slashes := cs.takeWhile fun c => c == '/' || c == '\\'
    match base with
    | some b =>
      if slashes.length < 2 ∧ b.scheme = scheme then readRelative b cs
      else readAuthority scheme (cs.drop slashes.length)
    | none => readAuthority scheme (cs.drop slashes.length)
  | .other =>
    let u : Url := ⟨scheme, none, "", none, none⟩
    match cs with
    | '/' :: '/' :: rest => readAuthority scheme rest
    | '/' :: rest =>
      let (s, rest) := UrlPath.read .other false ['/'] rest
      .ok (u.withPath .other s.path rest)
    | cs =>
      let path := cs.takeWhile fun c => !UrlPath.isEnd c
      .ok (u.withPath .other (Percent.encode Percent.isControl path) (cs.drop path.length))

def clean (s : String) : List Char :=
  let outer := fun (c : Char) => c.toNat ≤ 32
  let trimmed := ((s.toList.dropWhile outer).reverse.dropWhile outer).reverse
  trimmed.filter fun c => !(c == '\t' || c == '\n' || c == '\r')

def read (base : Option Url) (text : String) : Except UrlError Url :=
  let cs := clean text
  match splitScheme cs with
  | some (scheme, rest) => readAfterScheme base scheme rest
  | none =>
    match base with
    | none => .error .noBase
    | some b =>
      if cs.head? = some '#' then .ok (b.withFragment cs)
      else if b.isOpaque then .error .opaqueBase
      else if b.scheme = "file" then readFile (some b) cs
      else readRelative b cs

def parse (text : String) : Except UrlError Url :=
  read none text

def join (base : Url) (text : String) : Except UrlError Url :=
  read (some base) text

end Tunnel.Url
