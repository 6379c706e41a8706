import Tunnel.Files.Path
import Tunnel.Text.Utf8

/-!
# File trees

A tree of files and directories with a working directory. An operation gives a new tree or an error, in
which case nothing has changed; but directories on the way to one that cannot be made are made. There
are no permissions and no links, a disk is never full, and a name has at most 255 bytes while a path may
be of any length.
-/
namespace Tunnel

inductive FileEntry where
  | file (bytes : List UInt8)
  | directory
  deriving DecidableEq, Repr

abbrev Location := List String

/-- Files and directories by location. The directories that the working directory is in exist
without an entry. -/
structure FileTree where
  working : Location
  entries : List (Location × FileEntry)

namespace FileTree

def empty : FileTree := ⟨["work"], []⟩

def get? (t : FileTree) (l : Location) : Option FileEntry :=
  if l.isPrefixOf t.working then some .directory
  else (t.entries.find? fun e => e.1 = l).map Prod.snd

def put (t : FileTree) (l : Location) (e : FileEntry) : FileTree :=
  { t with entries := (l, e) :: t.entries.filter fun f => f.1 ≠ l }

def erase (t : FileTree) (l : Location) : FileTree :=
  { t with entries := t.entries.filter fun f => f.1 ≠ l }

def follow (t : FileTree) (l : Location) (name : String) : Except FileError Location :=
  match t.get? l with
  | none => .error .notFound
  | some (.file _) => .error .notDirectory
  | some .directory =>
    if name = "." then .ok l
    else if name = ".." then .ok l.dropLast
    else if 255 < name.utf8ByteSize then .error .nameTooLong
    else .ok (l ++ [name])

def start (t : FileTree) (p : FilePath) : Location :=
  if p.absolute then [] else t.working

/-- The location of a path. Its directory exists; the location itself may be free. -/
def locate (t : FileTree) (p : FilePath) : Except FileError Location :=
  if p.names.any (·.toList.contains '\x00') then .error .nulByte
  else if p.names.isEmpty ∧ ¬ p.absolute then .error .notFound
  else p.names.foldlM t.follow (t.start p)

def read (t : FileTree) (p : FilePath) : Except FileError (List UInt8) := do
  match t.get? (← t.locate p) with
  | none => throw .notFound
  | some .directory => throw .isDirectory
  | some (.file bytes) => if p.slash then throw .notDirectory else return bytes

def write (t : FileTree) (p : FilePath) (bytes : List UInt8) : Except FileError FileTree := do
  let l ← t.locate p
  match t.get? l with
  | some .directory => throw .isDirectory
  | some (.file _) => if p.slash then throw .notDirectory else return t.put l (.file bytes)
  | none => if p.slash then throw .isDirectory else return t.put l (.file bytes)

def enter (s : FileTree × Location) (name : String) : Except FileError (FileTree × Location) := do
  let l ← s.1.follow s.2 name
  match s.1.get? l with
  | some .directory => return (s.1, l)
  | some (.file _) => throw .exists
  | none => return (s.1.put l .directory, l)

/-- Enters directories one after the other, making those that are missing. Where one cannot be
entered, those that were made before it stay. -/
def enterAll (t : FileTree) (l : Location) : List String → Except FileError Unit × FileTree
  | [] => (.ok (), t)
  | name :: names =>
    match enter (t, l) name with
    | .error e => (.error e, t)
    | .ok (t, l) => enterAll t l names

/-- Makes the directory that a path is in and those before it, as far as they are missing. -/
def makeParents (t : FileTree) (p : FilePath) : Except FileError Unit × FileTree :=
  enterAll t (t.start p) p.parent.names

def makeDirectories (t : FileTree) (p : FilePath) : Except FileError FileTree :=
  match enterAll t (t.start p) p.names with
  | (.ok (), t) => .ok t
  | (.error e, _) => .error e

def rename (t : FileTree) (source target : FilePath) : Except FileError FileTree := do
  let bytes ← t.read source
  let l ← t.locate target
  match t.get? l with
  | some .directory => throw .isDirectory
  | _ =>
    if target.slash then throw .notDirectory
    else return (t.erase (← t.locate source)).put l (.file bytes)

def remove (t : FileTree) (p : FilePath) : Except FileError FileTree := do
  let _ ← t.read p
  return t.erase (← t.locate p)

def listing (t : FileTree) : List (Location × FileEntry) :=
  t.entries.filterMap fun e =>
    if t.working.isPrefixOf e.1 ∧ e.1 ≠ t.working then some (e.1.drop t.working.length, e.2)
    else none

/-- A path from the working directory as text; that of a directory ends in a slash. -/
def shown (e : Location × FileEntry) : String :=
  String.intercalate "/" e.1 ++
    match e.2 with
    | .directory => "/"
    | .file _ => ""

def paths (t : FileTree) : List String :=
  (t.listing.map shown).mergeSort fun a b => !(b < a)

end FileTree

end Tunnel
