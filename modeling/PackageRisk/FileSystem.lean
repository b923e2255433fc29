import PackageRisk.FileSystem.Path

/-!
# File systems

A file system maps locations to entries, and paths lead to locations: through directories, over
symbolic links, and up again by double dots. Writing a file changes the entry of one location.
-/

namespace PackageRisk

/-- A place in a file system: the names from the root, innermost first. -/
abbrev Location := List String

/-- What stands at a location. -/
inductive Entry
  | file (content : ByteArray)
  | directory
  | link (target : String)

/-- Why a path cannot be used. -/
inductive PathError
  | notFound
  | notDirectory
  | isDirectory
  | nameTooLong
  | tooManyLinks
  | nulInName
  | notText
  deriving DecidableEq, Repr

/-- The text that the system gives for an error. -/
def PathError.message : PathError → String
  | .notFound => "No such file or directory (os error 2)"
  | .notDirectory => "Not a directory (os error 20)"
  | .isDirectory => "Is a directory (os error 21)"
  | .nameTooLong => "File name too long (os error 36)"
  | .tooManyLinks => "Too many levels of symbolic links (os error 40)"
  | .nulInName => "file name contained an unexpected NUL byte"
  | .notText => "stream did not contain valid UTF-8"

/-- The entries of all locations, and the location that relative paths start from. -/
structure FileSystem where
  entry : Location → Option Entry
  workingDirectory : Location

namespace FileSystem

/-- The file system with another entry at a location. -/
def set (fs : FileSystem) (location : Location) (entry : Option Entry) : FileSystem :=
  { fs with entry := fun other ↦ if other = location then entry else fs.entry other }

/-- Setting an entry shows at its location only. -/
@[simp] theorem entry_set (fs : FileSystem) (location other : Location) (entry : Option Entry) :
    (fs.set location entry).entry other = if other = location then entry else fs.entry other :=
  rfl

/-- A file system with nothing but an empty working directory and the directories above it. -/
def empty (workingDirectory : Location) : FileSystem where
  entry := fun location ↦ if location.isSuffixOf workingDirectory then some .directory else none
  workingDirectory := workingDirectory

/-- The greatest size of a name, in bytes. -/
def maxNameBytes : Nat := 255

/-- The size from which on a path is too long, in bytes. -/
def maxPathBytes : Nat := 4096

/-- How many links are followed on the way of one path. -/
def maxLinks : Nat := 40

/-- The steps of a path. A slash at the end is a step to the directory itself. -/
def steps (path : String) : List String :=
  (Path.pieces path).filter (· ≠ "") ++ if Path.endsWithSlash path then ["."] else []

/-- The location that a path starts from, with `base` for a relative one. -/
def start (base : Location) (path : String) : Location :=
  if Path.isAbsolute path then [] else base

/-- Walks the steps from a location. The last step may lead nowhere, and a link there is followed
only if `follow` says so; `onLink` goes on from the target of a link. -/
def walkFrom (fs : FileSystem) (follow : Bool)
    (onLink : Location → List String → Except PathError Location) :
    Location → List String → Except PathError Location
  | here, [] => .ok here
  | here, step :: rest =>
    match fs.entry here with
    | some .directory =>
      if step = "." then walkFrom fs follow onLink here rest
      else if step = ".." then walkFrom fs follow onLink here.tail rest
      else if maxNameBytes < step.utf8ByteSize then .error .nameTooLong
      else
        match fs.entry (step :: here) with
        | none => if rest.isEmpty then .ok (step :: here) else .error .notFound
        | some (.link target) =>
          if rest.isEmpty && !follow then .ok (step :: here)
          else if target = "" then .error .notFound
          else onLink (start here target) (steps target ++ rest)
        | some _ => walkFrom fs follow onLink (step :: here) rest
    | _ => .error .notDirectory

/-- Walks the steps from a location, following at most `links` links. -/
def walk (fs : FileSystem) (follow : Bool) :
    Nat → Location → List String → Except PathError Location
  | 0 => walkFrom fs follow fun _ _ ↦ .error .tooManyLinks
  | links + 1 => walkFrom fs follow (walk fs follow links)

/-- The fault of a path by itself. -/
def pathFault? (path : String) : Option PathError :=
  if path.toList.contains '\x00' then some .nulInName
  else if path = "" then some .notFound
  else if maxPathBytes ≤ path.utf8ByteSize then some .nameTooLong
  else none

/-- The location that a path leads to; the last step may lead nowhere. -/
def locate (fs : FileSystem) (follow : Bool) (path : String) : Except PathError Location :=
  match pathFault? path with
  | some fault => .error fault
  | none => fs.walk follow maxLinks (start fs.workingDirectory path) (steps path)

/-- The entry that a path leads to, the last link followed or not. -/
def lookup (fs : FileSystem) (follow : Bool) (path : String) : Except PathError Entry := do
  match fs.entry (← fs.locate follow path) with
  | none => .error .notFound
  | some entry => .ok entry

/-- The path leads to an entry, links followed. -/
def pathExists (fs : FileSystem) (path : String) : Bool := (fs.lookup true path).isOk

/-- The path leads to a directory, links followed. -/
def isDirectory (fs : FileSystem) (path : String) : Bool :=
  match fs.lookup true path with
  | .ok .directory => true
  | _ => false

/-- The text of the file that a path leads to. -/
def readText (fs : FileSystem) (path : String) : Except PathError String := do
  match ← fs.lookup true path with
  | .file content =>
    match String.fromUTF8? content with
    | none => .error .notText
    | some text => .ok text
  | _ => .error .isDirectory

/-- The file system after writing a file; one that was there before is replaced. -/
def write (fs : FileSystem) (path : String) (content : ByteArray) :
    Except PathError FileSystem :=
  match pathFault? path with
  | some fault => .error fault
  | none => do
    let names := (Path.pieces path).filter (· ≠ "")
    let location ← fs.walk true maxLinks (start fs.workingDirectory path) names
    if Path.endsWithSlash path then .error .isDirectory
    else
      match fs.entry location with
      | some .directory => .error .isDirectory
      | _ => .ok (fs.set location (some (.file content)))

end FileSystem

end PackageRisk
