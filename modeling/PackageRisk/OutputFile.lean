import PackageRisk.Failure
import PackageRisk.FileSystem

/-!
# Output files

A rendered report is written to a new file or replaces a regular one. It is never written through a
symbolic link, and a directory for it has to be there.
-/

namespace PackageRisk.OutputFile

/-- Why a path is refused. -/
inductive Fault
  | noParent (parent : String)
  | link
  | directory
  | noMetadata (error : PathError)
  | notWritten (error : PathError)
  deriving DecidableEq, Repr

/-- The message for a refused path. -/
def Fault.message : Fault → String
  | noParent parent => "Parent directory does not exist: " ++ parent
  | link =>
    "Security: Output path is a symbolic link. For security reasons, writing to symbolic links " ++
      "is not allowed."
  | directory => "Output path is a directory"
  | noMetadata error => "Failed to read file metadata: " ++ error.message
  | notWritten error => error.message

/-- Refuses a path whose parent is no directory. -/
def checkParent (fs : FileSystem) (path : String) : Except Fault Unit :=
  match Path.parent? path with
  | none => .ok ()
  | some parent =>
    if parent ≠ "" && !fs.isDirectory parent then .error (.noParent parent) else .ok ()

/-- Refuses a link and a directory; a path that leads nowhere is fine. -/
def checkTarget (fs : FileSystem) (path : String) : Except Fault Unit :=
  match fs.lookup false path with
  | .ok (.link _) => .error .link
  | .ok .directory => .error .directory
  | .ok (.file _) => .ok ()
  | .error .notFound => .ok ()
  | .error error => .error (.noMetadata error)

/-- The file system after writing a text to a path, or the reason to refuse. -/
def write (fs : FileSystem) (path content : String) : Except Fault FileSystem := do
  checkParent fs path
  checkTarget fs path
  (fs.write path content.toUTF8).mapError .notWritten

/-- The file system after writing a text to a path. -/
def present (fs : FileSystem) (path content : String) : Except Failure FileSystem :=
  (write fs path content).mapError fun fault ↦ .fileWrite path fault.message

end PackageRisk.OutputFile
