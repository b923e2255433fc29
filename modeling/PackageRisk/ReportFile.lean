import PackageRisk.FileSystem
import PackageRisk.Report.Resolution

/-!
# Report files

A report is read from a regular file of limited size. A symbolic link is refused even if it leads
to such a file.
-/

namespace PackageRisk.ReportFile

/-- The greatest size of a report file, in bytes. -/
def maxBytes : Nat := 16 * 1024 * 1024

/-- Why a file is not used. -/
inductive Fault
  | noMetadata (operation path : String) (error : PathError)
  | link (operation path : String)
  | noTargetMetadata (error : PathError)
  | notRegular (path : String)
  | tooLarge (path : String) (bytes max : Nat)
  deriving DecidableEq, Repr

/-- The message for a file that is not used. -/
def Fault.message : Fault → String
  | noMetadata operation path error =>
    "Failed to read metadata for " ++ operation ++ " operation on " ++ path ++ ": " ++ error.message
  | link operation path =>
    "Security: " ++ path ++ " is a symbolic link. For security reasons, " ++ operation ++
      " operations on symbolic links are not allowed."
  | noTargetMetadata error => "Failed to read report metadata: " ++ error.message
  | notRegular path => path ++ " is not a regular file"
  | tooLarge path bytes max =>
    "Security: " ++ path ++ " is too large (" ++ toString bytes ++
      " bytes). Maximum allowed size is " ++ toString max ++ " bytes."

/-- Refuses a path that is a symbolic link or leads nowhere. -/
def checkNotLink (fs : FileSystem) (path operation : String) : Except Fault Unit :=
  match fs.lookup false path with
  | .error error => .error (.noMetadata operation path error)
  | .ok (.link _) => .error (.link operation path)
  | .ok _ => .ok ()

/-- Refuses a path that is not a regular file of at most `max` bytes. -/
def check (fs : FileSystem) (path : String) (max : Nat) : Except Fault Unit := do
  checkNotLink fs path "read"
  match fs.lookup true path with
  | .error error => .error (.noTargetMetadata error)
  | .ok (.file content) =>
    if max < content.size then .error (.tooLarge path content.size max) else .ok ()
  | .ok _ => .error (.notRegular path)

/-- The text of a report file. -/
def readText (fs : FileSystem) (path : String) : Except Failure String := do
  if !fs.pathExists path then .error (.fileRead path "File does not exist")
  else
    (check fs path maxBytes).mapError fun fault ↦ .fileRead path fault.message
    (fs.readText path).mapError fun error ↦ .fileRead path error.message

/-- The report in a file. -/
def load (fs : FileSystem) (path : String) (order : RawReport.EntryOrder := .byKey) :
    Except Failure Report := do
  Report.parse (← readText fs path) path order

end PackageRisk.ReportFile
