import PackageRisk.Report.Resolution
import PackageRisk.Text.Encoding
import PackageRisk.Text.Percent

/-!
# The scoring service

The service answers one request per package version. Of its replies only one with status 200 holds a
report; the others are told as failures, and so is a service that cannot be reached.
-/

namespace PackageRisk.Service

/-- The service on the same machine. -/
def defaultUrl : String := "http://localhost:8000"

/-- The base without the slashes at its end. -/
def trimSlashes (base : String) : String :=
  String.ofList (base.toList.reverse.dropWhile (· = '/')).reverse

/-- The path of a request and the names and values of its query. -/
def requestPath (package : Package) : String :=
  "/api/v1/package?package_name=" ++ Text.Percent.encode package.name ++
    "&package_version=" ++ Text.Percent.encode package.version

/-- The URL of the report of a package. -/
def reportUrl (base : String) (package : Package) : String :=
  trimSlashes base ++ requestPath package

/-- What comes back from a request. -/
inductive Reply
  | response (status : Nat) (body : ByteArray)
  /-- No connection, for a reason that the system gives. -/
  | unreachable (reason : String)

/-- The failure of a request whose connection was not made. -/
def unreachableFailure (url reason : String) : Failure :=
  .context ("Failed to reach scoring API at " ++ url)
    ["error sending request for url (" ++ url ++ ")", "client error (Connect)",
      "tcp connect error", reason]

/-- The report in a reply to the request for a package. -/
def readReply (url : String) (package : Package) (reply : Reply)
    (order : RawReport.EntryOrder := .byKey) : Except Failure Report :=
  match reply with
  | .unreachable reason => .error (unreachableFailure url reason)
  | .response status body =>
    if status = 200 then Report.parse (Text.decodeBody body) url order
    else if status = 202 then .error (.reportPending package.name package.version)
    else if status = 404 then .error (.reportNotFound package.name package.version)
    else .error (.service status (Text.decodeBody body))

end PackageRisk.Service
