import PackageRisk.CommandLine
import PackageRisk.ScoreSheet

/-!
# The program

What the program tells of itself: its name and version, the imprint of its sheets, and how it is
used.
-/

namespace PackageRisk.Program

/-- The name of the program. -/
def name : String := "depscore"

/-- The version of the program. -/
def version : String := "0.1.0"

/-- The answer to the question for the version. -/
def versionLine : String := name ++ " " ++ version ++ "\n"

/-- The imprint of a sheet that the program made. -/
def imprint (timestamp reportId : String) : Imprint := ⟨timestamp, name, version, reportId⟩

/-- The text of a byte: two hexadecimal digits. -/
def byteText (byte : UInt8) : List Char :=
  [Nat.digitChar (byte.toNat / 16), Nat.digitChar (byte.toNat % 16)]

/-- The identifier that 16 random bytes make; six of their bits say that they are random. -/
def reportId (bytes : List UInt8) : String :=
  let mark (index : Nat) (byte : UInt8) : UInt8 :=
    if index = 6 then byte &&& 0x0f ||| 0x40
    else if index = 8 then byte &&& 0x3f ||| 0x80
    else byte
  let write (index : Nat) (byte : UInt8) : List Char :=
    (if [4, 6, 8, 10].contains index then ['-'] else []) ++ byteText (mark index byte)
  "urn:uuid:" ++ String.ofList (bytes.mapIdx write).flatten

example : reportId (List.replicate 16 0) = "urn:uuid:00000000-0000-4000-8000-000000000000" := by
  decide +kernel

/-- What is told of a fault of the arguments. -/
def faultMessage : CommandLine.Fault → String
  | .unknownArgument => "error: unexpected argument found"
  | .emptyValue => "error: a value is required but none was supplied"
  | .unfitValue => "error: invalid value for an option"
  | .surplusValue => "error: unexpected value for an option without value"
  | .conflict => "error: an argument cannot be used with another one or multiple times"
  | .missingArgument => "error: the required arguments were not provided"

/-- The lines that tell how the program is used. -/
def usageLines : List String :=
  ["Risk score and grade for npm packages from dependency-scan reports",
    "",
    "Usage: " ++ name ++ " [OPTIONS] <REPORT|--package <PACKAGE>>",
    "",
    "Arguments:",
    "  [REPORT]  Path to a package report JSON file",
    "",
    "Options:",
    "  -p, --package <PACKAGE>          npm package name to fetch from the API",
    "      --package-version <VERSION>  Version of the package to fetch from the API",
    "      --api-url <URL>              Base URL of the scoring API",
    "  -f, --format <FORMAT>            Output format: json or markdown",
    "  -o, --output <OUTPUT>            Output file path",
    "      --breakdown                  Include the per-term score explanation",
    "      --aggregate                  Recompute totals from the nested reports",
    "      --min-grade <GRADE>          Exit with code 1 when the grade is worse (A-E)",
    "  -c, --config <FILE>              Path to a config file",
    "  -h, --help                       Print help",
    "  -V, --version                    Print version"]

/-- The answer to the question for help. -/
def usage : String := String.join (usageLines.map (· ++ "\n"))

end PackageRisk.Program
