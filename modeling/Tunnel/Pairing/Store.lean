import Tunnel.Files.Tree
import Tunnel.Pairing.Document

/-!
# Pairing stores

A pairing is kept in memory or in a file. A file is replaced as a whole: the new document is written
beside it and then takes its name. A save that fails leaves what the steps before it did, so a new
document may be left beside the old one. A file that is missing holds an empty pairing.
-/
namespace Tunnel

inductive StoreError where
  | io (path : String) (error : FileError)
  | parse (path : String) (document : List Utf8.Glyph) (fault : Json.Fault)

def StoreError.message : StoreError → String
  | .io path error => s!"Failure accessing config file {Quoted.quote path}: {error.message}"
  | .parse path document fault =>
    s!"Config file {Quoted.quote path} is not a valid JSON object: {fault.message document}"

namespace FilePairing

def io {α : Type} (path : String) : Except FileError α → Except StoreError α
  | .ok a => .ok a
  | .error e => .error (.io path e)

/-- The object in a file; a missing file holds no members. -/
def readMembers (files : FileTree) (path : String) : Except StoreError Document.Members :=
  match files.read (.ofText path) with
  | .error .notFound => .ok []
  | .error e => .error (.io path e)
  | .ok bytes =>
    let gs := Utf8.glyphs bytes
    match Document.parse gs with
    | .ok ms => .ok ms
    | .error fault => .error (.parse path gs fault)

def load (files : FileTree) (path : String) : Except StoreError Pairing := do
  let ms ← readMembers files path
  match Document.pairing ms with
  | .ok p => return p
  | .error cause => throw (.parse path [] ⟨cause, none⟩)

/-- The path of the new document before it takes its name. -/
def staging (path : String) : FilePath :=
  (FilePath.ofText path).withExtension "json.tmp"

/-- Replaces the object in a file: makes its directory, writes beside it and renames. A step that
fails leaves what the steps before it did. -/
def writeMembers (files : FileTree) (path : String) (ms : Document.Members) :
    Except StoreError Unit × FileTree :=
  let p := FilePath.ofText path
  match files.makeParents p with
  | (.error e, files) => (.error (.io path e), files)
  | (.ok (), files) =>
    match files.write (staging path) (Utf8.encode (Document.render ms)) with
    | .error e => (.error (.io path e), files)
    | .ok files =>
      match files.rename (staging path) p with
      | .error e => (.error (.io path e), files)
      | .ok files => (.ok (), files)

def save (files : FileTree) (path : String) (u : PairingUpdate) :
    Except StoreError Unit × FileTree :=
  match readMembers files path with
  | .error e => (.error e, files)
  | .ok ms => writeMembers files path (Document.apply ms u)

end FilePairing

inductive PairingStore where
  | memory (pairing : Pairing)
  | file (files : FileTree) (path : String)

namespace PairingStore

def load : PairingStore → Except StoreError Pairing
  | .memory p => .ok p
  | .file files path => FilePairing.load files path

def save (s : PairingStore) (u : PairingUpdate) : Except StoreError Unit × PairingStore :=
  match s with
  | .memory p => (.ok (), .memory (p.apply u))
  | .file files path =>
    let (r, files) := FilePairing.save files path u
    (r, .file files path)

/-- Whether a complete pairing is kept; a store that cannot be read keeps none. -/
def isPaired (s : PairingStore) : Bool :=
  match s.load with
  | .ok p => p.isComplete
  | .error _ => false

def credentials (s : PairingStore) : Except PairingError Credentials :=
  match s.load with
  | .error e => .error (.unavailable e.message)
  | .ok p => do
    let c : Credentials := ⟨p.relayUrl, p.token⟩
    c.validate
    return c

end PairingStore

end Tunnel
