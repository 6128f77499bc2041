import Foreman.Keyed

/-!
# Files

What the program reads from its files is text, and a file may refuse to be read. A `Files` is all the
program sees of a file system: for each path the text, or why there is none. `Files.ofFolder` is one
folder with files in it and nothing else around it.
-/

namespace Foreman

/-- Why a file cannot be read. -/
inductive FileError where
  | notFound
  | isDirectory
  /-- The path leads through something that is no directory. -/
  | notDirectory
  /-- The path holds a character that no path can hold. -/
  | nulInPath
  /-- Another reason, with its text. -/
  | other (reason : String)
deriving DecidableEq, Repr

/-- The wording of a reason. -/
def FileError.message : FileError → String
  | notFound => "No such file or directory (os error 2)"
  | isDirectory => "Is a directory (os error 21)"
  | notDirectory => "Not a directory (os error 20)"
  | nulInPath => "file name contained an unexpected NUL byte"
  | other reason => reason

/-- The files that can be read: for each path its text. -/
abbrev Files := String → Except FileError String

namespace Files

/-- Follows the parts of a path inside a folder. Empty parts and single points stay where they are; what
lies above the folder is not there. -/
def follow (entries : Keyed String) : List String → Except FileError String
  | [] => .error .isDirectory
  | part :: rest =>
    if part = "" || part = "." then follow entries rest
    else
      match Keyed.find? part entries with
      | some text => if rest = [] then .ok text else .error .notDirectory
      | none => .error .notFound

/-- A folder at a path, and the files in it by name. -/
def ofFolder (root : String) (entries : Keyed String) : Files := fun path ↦
  if path.contains (Char.ofNat 0) then .error .nulInPath
  else if path = root then .error .isDirectory
  else if (root ++ "/").isPrefixOf path then
    follow entries (((path.drop (root.length + 1)).copy).splitOn "/")
  else .error .notFound

end Files

end Foreman
