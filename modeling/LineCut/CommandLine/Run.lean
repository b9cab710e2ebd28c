/-
The command.

A run reads the plan, then makes sure that the file is one, then does what was asked.  What comes
out is one JSON value on several lines, which says whether the run succeeded, and an exit code:
0 if some region was found, 1 if none was or if a file could not be read or written, 2 if the plan
or an argument cannot be used, 3 if the text did not have the shape the plan speaks of.
-/
import LineCut.Apply
import LineCut.CommandLine.Arguments
import LineCut.Plan.Reader
import LineCut.Json.Printer

namespace LineCut.CommandLine

variable {m : Type → Type} [Monad m]

/-- What a run leaves behind: its exit code and its output. -/
structure Outcome where
  exit : Nat
  output : String
  deriving DecidableEq, Repr

/-- What surrounds a run. -/
structure Host (m : Type → Type) where
  disk : Disk m
  /-- The home directory, if there is one. -/
  home : Option String
  /-- Whether the input is what somebody types. -/
  terminal : Bool
  /-- All bytes of the input. -/
  input : m (Except DiskError ByteArray)

/-- What a run that has understood its arguments comes to: a report, or what went wrong. -/
inductive Result where
  | scanned (report : ScanReport)
  | applied (report : ApplyReport)
  | failed (fault : Fault)
  deriving DecidableEq, Repr

/-! ### The run -/

/-- The text of a plan: the input for a hyphen, a file's content for a name behind an at sign, and
otherwise the argument itself.  Nobody is waited for to type a plan. -/
def planText (host : Host m) (argument : String) : m (Except Fault String) := do
  if Text.trim argument.toList == ['-'] then
    if host.terminal then
      return .error
        (.invalidArgument "plan" "Cannot read plan from stdin when stdin is a TTY")
    else
      match ← host.input with
      | .error error => return .error (Disk.fault error.message "read stdin")
      | .ok bytes => return Disk.text bytes "read stdin"
  else
    match argument.toList with
    | '@' :: path =>
      let path := String.ofList path
      if Text.isBlank path then
        return .error
          (.invalidArgument "plan" "Invalid plan spec '@' (missing file path)")
      else
        match Path.resolve host.home path with
        | .error fault => return .error fault
        | .ok path => host.disk.readText path ("read " ++ path)
    | _ => return .ok argument

/-- The plan that an argument gives. -/
def loadPlan (host : Host m) (argument : String) : m (Except Fault Plan) := do
  match ← planText host argument with
  | .error fault => return .error fault
  | .ok text => return Plan.parse text

/-- The path that an argument gives, which has to lead to a file. -/
def targetFile (host : Host m) (argument : String) : m (Except Fault String) := do
  match Path.resolve host.home argument with
  | .error fault => return .error fault
  | .ok path =>
    if ← host.disk.isFile path then return .ok path
    else return .error (.invalidArgument "file" ("Not a file: " ++ path))

/-- The plan and the path of a command, in that order. -/
def operands (host : Host m) (file plan : String) : m (Except Fault (Plan × String)) := do
  match ← loadPlan host plan with
  | .error fault => return .error fault
  | .ok plan =>
    match ← targetFile host file with
    | .error fault => return .error fault
    | .ok path => return .ok (plan, path)

/-- Look at a file. -/
def scan (host : Host m) (file plan : String) : m Result := do
  match ← operands host file plan with
  | .error fault => return .failed fault
  | .ok (plan, path) =>
    match ← scanFile host.disk path plan with
    | .error fault => return .failed fault
    | .ok report => return .scanned report

/-- Act on a file. -/
def apply (host : Host m) (file plan : String) (write : Bool) : m Result := do
  match ← operands host file plan with
  | .error fault => return .failed fault
  | .ok (plan, path) =>
    match ← applyFile host.disk path plan write with
    | .error fault => return .failed fault
    | .ok report => return .applied report

/-! ### What comes out -/

/-- The exit code for a fault. -/
def Fault.exitCode (fault : Fault) : Nat :=
  match fault.family with
  | .region => 3
  | .config | .validation => 2
  | .internal => 1

/-- How many regions a run found. -/
def Result.regionsFound : Result → Nat
  | scanned report => report.regionsFound
  | applied report => report.regionsFound
  | failed _ => 0

/-- The exit code of a run. -/
def Result.exitCode : Result → Nat
  | failed fault => Fault.exitCode fault
  | result => if result.regionsFound = 0 then 1 else 0

/-- What is told about a fault. -/
def faultJson (fault : Fault) : Json :=
  .present [some ("code", .str fault.code), some ("message", .str fault.message),
    some ("details", fault.details.sorted),
    if fault.hints.isEmpty then none
    else some ("hints", .arr (fault.hints.map fun hint => .obj [("message", .str hint)]))]

/-- What is told about a success. -/
def dataJson (command : String) (members : List (String × Json)) : Json :=
  (Json.obj (("command", .str command) :: members)).sorted

/-- What is told about a run. -/
def Result.toJson : Result → Json
  | scanned report =>
    .obj [("success", .bool true), ("data", dataJson "scan" report.members)]
  | applied report =>
    .obj [("success", .bool true), ("data", dataJson "apply" report.members)]
  | failed fault => .obj [("success", .bool false), ("error", faultJson fault)]

/-- What a run leaves behind. -/
def Result.outcome (result : Result) : Outcome :=
  ⟨result.exitCode, result.toJson.pretty ++ "\n"⟩

/-- The name and the version. -/
def versionText : String := "excise 0.1.0\n"

/-- How the command is used. -/
def usage : String :=
  "Delete or replace line-delimited regions in source and markup files\n\n" ++
    "Usage: excise scan <FILE> --plan <PLAN>\n" ++
    "       excise apply <FILE> --plan <PLAN> [--write]\n\n" ++
    "The plan is inline JSON, @path/to/plan.json, or - for stdin.\n"

/-- Do what the arguments ask for.  Arguments that cannot be understood leave nothing behind but
an exit code. -/
def run (host : Host m) (arguments : List String) : m Outcome := do
  match Invocation.parse? arguments with
  | none => return ⟨2, ""⟩
  | some .version => return ⟨0, versionText⟩
  | some .help => return ⟨0, usage⟩
  | some (.scan file plan) => return (← scan host file plan).outcome
  | some (.apply file plan write) => return (← apply host file plan write).outcome

end LineCut.CommandLine
