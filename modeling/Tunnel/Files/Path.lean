/-!
# File paths

A path is a list of names between slashes. What is done to a path is done to its names: `.` and a slash
at the end do not count when the last name is sought. `..` is a name like others here; where it leads
depends on the directories that are there.
-/
namespace Tunnel

inductive FileError where
  | notFound
  | exists
  | notDirectory
  | isDirectory
  | nameTooLong
  | nulByte
  deriving DecidableEq, Repr

def FileError.message : FileError → String
  | .notFound => "No such file or directory (os error 2)"
  | .exists => "File exists (os error 17)"
  | .notDirectory => "Not a directory (os error 20)"
  | .isDirectory => "Is a directory (os error 21)"
  | .nameTooLong => "File name too long (os error 36)"
  | .nulByte => "file name contained an unexpected NUL byte"

/-- A path: whether it starts at the root, its names, and whether a slash ends it. -/
structure FilePath where
  absolute : Bool
  names : List String
  slash : Bool
  deriving DecidableEq, Repr

namespace FilePath

/-- The names of a text between slashes; `name` is the one under way, last character first. -/
def namesOf (name : List Char) : List Char → List String
  | [] => if name.isEmpty then [] else [String.ofList name.reverse]
  | '/' :: rest =>
    if name.isEmpty then namesOf [] rest else String.ofList name.reverse :: namesOf [] rest
  | c :: rest => namesOf (c :: name) rest

def ofText (text : String) : FilePath :=
  let cs := text.toList
  let names := namesOf [] cs
  ⟨cs.head? = some '/', names, !names.isEmpty && cs.getLast? = some '/'⟩

def trimmedNames (p : FilePath) : List String :=
  (p.names.reverse.dropWhile (· = ".")).reverse

def parent (p : FilePath) : FilePath :=
  ⟨p.absolute, p.trimmedNames.dropLast, false⟩

/-- A file name up to its last dot, unless that is its first character. -/
def stem (name : String) : String :=
  let cs := name.toList.reverse
  let after := cs.takeWhile (· ≠ '.')
  match cs.drop after.length with
  | '.' :: c :: rest => String.ofList (c :: rest).reverse
  | _ => name

/-- The path with the extension of its last name replaced. A path without last name stays. -/
def withExtension (p : FilePath) (extension : String) : FilePath :=
  match p.trimmedNames.reverse with
  | [] => p
  | last :: before =>
    if last = ".." then p
    else ⟨p.absolute, before.reverse ++ [stem last ++ "." ++ extension], false⟩

end FilePath

end Tunnel
