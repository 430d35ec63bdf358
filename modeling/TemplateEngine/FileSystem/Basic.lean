import TemplateEngine.Bindings
import TemplateEngine.FileSystem.Path

/-!
# File systems

A file system is a tree of directories and of files with a content and a time
of last change. A path starts at the root or in the working directory and is
followed piece by piece: each piece but the last has to lead to a directory, and
a slash at the end asks for a directory too.
-/

namespace TemplateEngine

/-- Seconds from the epoch, negative before it, and nanoseconds below one
second. -/
structure Timestamp where
  seconds : Int
  nanos : Nat
deriving DecidableEq, Inhabited

/-- Nanoseconds of a second and more are carried over. -/
def Timestamp.ofParts (seconds : Int) (nanos : Nat) : Timestamp :=
  ⟨seconds + nanos / 1000000000, nanos % 1000000000⟩

/-- Why an operation on a file failed. -/
inductive FileFault where
  | notFound
  | notDirectory
  | isDirectory
  | nameTooLong
  | nulInName
  | notText
  | failed (reason : String)
deriving DecidableEq

def FileFault.message : FileFault → String
  | notFound => "No such file or directory (os error 2)"
  | notDirectory => "Not a directory (os error 20)"
  | isDirectory => "Is a directory (os error 21)"
  | nameTooLong => "File name too long (os error 36)"
  | nulInName => "file name contained an unexpected NUL byte"
  | notText => "stream did not contain valid UTF-8"
  | failed reason => reason

inductive Entry where
  | file (content : List UInt8) (modified : Timestamp)
  | directory (entries : List (String × Entry))
deriving Inhabited

namespace Entry

/-- The longest name of an entry, in bytes. -/
def maxName : Nat := 255

/-- Follows the pieces of a path from a directory; `above` are the directories
around it, innermost first. Nothing is above the root. -/
def walk : List Entry → Entry → List String → Except FileFault Entry
  | _, here, [] => .ok here
  | _, file _ _, _ :: _ => .error .notDirectory
  | above, directory entries, segment :: rest =>
    if Path.isIdle segment then walk above (directory entries) rest
    else if segment = ".." then
      match above with
      | [] => walk [] (directory entries) rest
      | parent :: above => walk above parent rest
    else if maxName < segment.utf8ByteSize then .error .nameTooLong
    else
      match Bindings.get? segment entries with
      | none => .error .notFound
      | some entry => walk (directory entries :: above) entry rest

/-- Changes, adds or removes the entry that some names lead to. -/
def update (change : Option Entry → Except FileFault (Option Entry)) :
    List String → Entry → Except FileFault Entry
  | [], _ => .error .isDirectory
  | _ :: _, file _ _ => .error .notDirectory
  | [name], directory entries => do
    if maxName < name.utf8ByteSize then throw .nameTooLong
    match ← change (Bindings.get? name entries) with
    | some entry => return directory (Bindings.insert name entry entries)
    | none => return directory (Bindings.erase name entries)
  | name :: next :: rest, directory entries =>
    match Bindings.get? name entries with
    | none => .error .notFound
    | some entry => do
      let entry ← update change (next :: rest) entry
      return directory (Bindings.insert name entry entries)

/-- Makes sure that some names lead through directories to a directory. -/
def createDirectories : List String → Entry → Except FileFault Entry
  | _, file _ _ => .error .notDirectory
  | [], directory entries => .ok (directory entries)
  | name :: rest, directory entries => do
    if maxName < name.utf8ByteSize then throw .nameTooLong
    let entry := (Bindings.get? name entries).getD (directory [])
    let entry ← createDirectories rest entry
    return directory (Bindings.insert name entry entries)

end Entry

structure FileSystem where
  root : Entry
  /-- The names that lead from the root to the working directory. -/
  working : List String

namespace FileSystem

/-- An empty working directory and nothing else. -/
def empty : FileSystem := ⟨.directory [("work", .directory [])], ["work"]⟩

/-- The longest path, in bytes. -/
def maxPath : Nat := 4095

/-- Refuses what no entry is called. -/
def guardPath (path : String) : Except FileFault Unit :=
  if path.toList.contains '\x00' then .error .nulInName
  else if path = "" then .error .notFound
  else if maxPath < path.utf8ByteSize then .error .nameTooLong
  else .ok ()

variable (fs : FileSystem)

/-- The names that lead to the place where a path starts. -/
def base (path : String) : List String := if Path.isAbsolute path then [] else fs.working

/-- The names that lead to a path, if there are directories on the way. -/
def names (path : String) : List String := (Path.segments path).foldl Path.follow (fs.base path)

/-- The entry at a path. -/
def find (path : String) : Except FileFault Entry := do
  guardPath path
  Entry.walk [] fs.root (fs.base path ++ Path.segments path)

/-- The bytes of a file. -/
def read (path : String) : Except FileFault (List UInt8) := do
  match ← fs.find path with
  | .file content _ => return content
  | .directory _ => throw .isDirectory

/-- Changes, adds or removes the entry at a path. -/
def update (path : String) (change : Option Entry → Except FileFault (Option Entry)) :
    Except FileFault FileSystem := do
  guardPath path
  return { fs with root := ← fs.root.update change (fs.names path) }

/-- Puts a file at a path, in place of a file that is there. -/
def write (path : String) (content : List UInt8) (modified : Timestamp) :
    Except FileFault FileSystem :=
  fs.update path fun
    | some (.directory _) => .error .isDirectory
    | _ => .ok (some (.file content modified))

/-- Makes sure that each piece of a path leads to a directory. -/
def createDirectories (path : String) : Except FileFault FileSystem := do
  guardPath path
  let (root, _) ← (Path.segments path).foldlM (fun (root, place) segment => do
      let place := Path.follow place segment
      return (← root.createDirectories place, place)) (fs.root, fs.base path)
  return { fs with root := root }

/-- Puts a file at a path, with the directories that lead to it. -/
def install (path : String) (content : List UInt8) (modified : Timestamp) :
    Except FileFault FileSystem := do
  guardPath path
  let root ← fs.root.createDirectories (fs.names path).dropLast
  write { fs with root := root } path content modified

/-- Removes the file at a path. -/
def remove (path : String) : Except FileFault FileSystem :=
  fs.update path fun
    | some (.directory _) => .error .isDirectory
    | some (.file _ _) => .ok none
    | none => .error .notFound

/-- Removes what is at a path, also a directory with all that is in it. -/
def delete (path : String) : Except FileFault FileSystem := fs.update path fun _ => .ok none

/-- The names of the entries of a directory, in ascending order. -/
def list (path : String) : List String :=
  match fs.find path with
  | .ok (.directory entries) => entries.map Prod.fst
  | _ => []

end FileSystem
end TemplateEngine
