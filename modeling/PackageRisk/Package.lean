import PackageRisk.Text.Alphanumeric

/-!
# Packages

A package is a name and a version of the npm registry. A name is plain or has the form
`@scope/name`; texts that break one of the rules for names and versions are refused with the first
rule that they break.
-/

namespace PackageRisk

/-- The rule that a name or a version breaks. -/
inductive PackageFault
  | nameEmpty
  | nameTooLong (bytes : Nat)
  | nameCharacter
  | nameScope (name : String)
  | versionEmpty
  | versionTooLong (bytes : Nat)
  | versionCharacter
  deriving DecidableEq, Repr

namespace PackageName

/-- The greatest size of a name in bytes. -/
def maxBytes : Nat := 214

/-- A character that names may hold. -/
def allows (c : Char) : Bool :=
  Text.isAlphanumeric c || c = '-' || c = '_' || c = '.' || c = '~' || c = '@' || c = '/'

/-- The form `@scope/name`, where the first slash ends the scope. -/
def isScoped : List Char → Bool
  | '@' :: text =>
    let scope := text.takeWhile (· != '/')
    match text.dropWhile (· != '/') with
    | [] => false
    | _ :: name => !scope.isEmpty && !name.isEmpty && !name.contains '/' && !name.contains '@'
  | _ => false

/-- The first rule that a text breaks as a name. -/
def fault? (text : String) : Option PackageFault :=
  let chars := text.toList
  if chars.isEmpty then some .nameEmpty
  else if maxBytes < text.utf8ByteSize then some (.nameTooLong text.utf8ByteSize)
  else if !chars.all allows then some .nameCharacter
  else if (chars.contains '@' || chars.contains '/') && !isScoped chars then
    some (.nameScope text)
  else none

end PackageName

namespace PackageVersion

/-- The greatest size of a version in bytes. -/
def maxBytes : Nat := 100

/-- A character that versions may hold. -/
def allows (c : Char) : Bool := Text.isAlphanumeric c || c = '.' || c = '-' || c = '+'

/-- The first rule that a text breaks as a version. -/
def fault? (text : String) : Option PackageFault :=
  let chars := text.toList
  if chars.isEmpty then some .versionEmpty
  else if maxBytes < text.utf8ByteSize then some (.versionTooLong text.utf8ByteSize)
  else if !chars.all allows then some .versionCharacter
  else none

end PackageVersion

/-- The message for a broken rule. -/
def PackageFault.message : PackageFault → String
  | .nameEmpty => "Package name cannot be empty"
  | .nameTooLong bytes =>
    "Package name is too long (" ++ toString bytes ++ " bytes). Maximum allowed: " ++
      toString PackageName.maxBytes ++ " bytes"
  | .nameCharacter =>
    "Package name contains invalid characters. Only alphanumeric, hyphens, underscores, dots, " ++
      "tildes and scope markers (@, /) are allowed."
  | .nameScope name =>
    "Package name '" ++ name ++ "' is not a valid scoped name. Expected the form @scope/name."
  | .versionEmpty => "Package version cannot be empty"
  | .versionTooLong bytes =>
    "Package version is too long (" ++ toString bytes ++ " bytes). Maximum allowed: " ++
      toString PackageVersion.maxBytes ++ " bytes"
  | .versionCharacter =>
    "Package version contains invalid characters. Only alphanumeric, dots, hyphens and plus are " ++
      "allowed."

/-- A version of a package, with a name and a version that break no rule. -/
structure Package where
  name : String
  version : String
  name_faultless : PackageName.fault? name = none
  version_faultless : PackageVersion.fault? version = none
  deriving DecidableEq, Repr

namespace Package

/-- The package of a name and a version; of two faults, that of the name is told. -/
def ofTexts (name version : String) : Except PackageFault Package :=
  match hname : PackageName.fault? name with
  | some fault => .error fault
  | none =>
    match hversion : PackageVersion.fault? version with
    | some fault => .error fault
    | none => .ok ⟨name, version, hname, hversion⟩

/-- The name and the version in one text. -/
def text (package : Package) : String := package.name ++ "@" ++ package.version

end Package

end PackageRisk
