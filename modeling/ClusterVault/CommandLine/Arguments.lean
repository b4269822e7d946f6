import ClusterVault.CommandLine.Settings

/-!
# Arguments

Settings are read from the arguments of the command line, and from variables of the environment for
what the arguments leave open.

## Main definitions

- `UsageError`: why arguments are refused, or what they ask for in place of a run
- `Flag`: one thing that can be set, with `Flag.all`
- `Settings.parse`: reads settings

## Design notes

The value of a flag is looked at when the next flag is met, so an argument that is not known is
reported before a bad value in front of it. Variables are looked at in the order of the flags.
-/

namespace ClusterVault

/-- Why arguments are refused, or what they ask for in place of a run. -/
inductive UsageError where
  /-- A value is missing, empty where it may not be, or not one of those allowed. -/
  | invalidValue
  /-- A value does not have the form it must have. -/
  | malformedValue
  | unknownArgument
  /-- A flag is given twice. -/
  | repeatedFlag
  /-- A flag that takes no value is given one. -/
  | unexpectedValue
  | helpWanted
  | versionWanted
  deriving DecidableEq, Repr

/-- The name of a usage error. -/
def UsageError.name : UsageError → String
  | invalidValue => "InvalidValue"
  | malformedValue => "ValueValidation"
  | unknownArgument => "UnknownArgument"
  | repeatedFlag => "ArgumentConflict"
  | unexpectedValue => "TooManyValues"
  | helpWanted => "DisplayHelp"
  | versionWanted => "DisplayVersion"

/-- One thing that can be set. -/
structure Flag where
  name : String
  /-- The variable of the environment that is looked at if the flag is not given. -/
  variableName : String
  takesValue : Bool := true
  /-- Reads a value. -/
  read : String → Settings → Except UsageError Settings

namespace Flag

/-- Reads a port. -/
def readPort (set : Nat → Settings → Settings) (value : String) (s : Settings) :
    Except UsageError Settings :=
  match Decimal.integer? value.toList with
  | some n => if 0 ≤ n && n < 0x10000 then .ok (set n.toNat s) else .error .malformedValue
  | none => .error .malformedValue

/-- Reads a path, which must not be empty. -/
def readPath (set : String → Settings → Settings) (value : String) (s : Settings) :
    Except UsageError Settings :=
  if value.isEmpty then .error .invalidValue else .ok (set value s)

/-- Reads any text. -/
def readText (set : String → Settings → Settings) (value : String) (s : Settings) :
    Except UsageError Settings :=
  .ok (set value s)

/-- Reads a truth value. -/
def readTruth (set : Bool → Settings → Settings) (value : String) (s : Settings) :
    Except UsageError Settings :=
  if value = "true" then .ok (set true s)
  else if value = "false" then .ok (set false s)
  else .error .invalidValue

/-- Reads a log level. -/
def readLogLevel (value : String) (s : Settings) : Except UsageError Settings :=
  match LogLevel.parse? value with
  | some logLevel => .ok { s with logLevel }
  | none => .error .malformedValue

/-- All flags. -/
def all : List Flag :=
  [{ name := "port", variableName := "SECRET_SERVICE_PORT"
     read := readPort fun port s => { s with port } },
   { name := "backend-port", variableName := "SECRET_SERVICE_BACKEND_PORT"
     read := readPort fun backendPort s => { s with backendPort } },
   { name := "health-port", variableName := "SECRET_SERVICE_HEALTH_PORT"
     read := readPort fun healthPort s => { s with healthPort } },
   { name := "etcd-server-cert", variableName := "SECRET_SERVICE_ETCD_SERVER_CERT"
     read := readPath fun serverCertificate s => { s with serverCertificate } },
   { name := "etcd-server-key", variableName := "SECRET_SERVICE_ETCD_SERVER_KEY"
     read := readPath fun serverKey s => { s with serverKey } },
   { name := "etcd-ca", variableName := "SECRET_SERVICE_ETCD_CA"
     read := readPath fun authority s => { s with authority } },
   { name := "data-dir", variableName := "SECRET_SERVICE_DATA_DIR"
     read := readPath fun dataDir s => { s with dataDir } },
   { name := "k8s-namespace", variableName := "SECRET_SERVICE_K8S_NAMESPACE"
     read := readText fun namespaceName s => { s with namespaceName } },
   { name := "stateful-set", variableName := "SECRET_SERVICE_STATEFUL_SET"
     read := readText fun statefulSet s => { s with statefulSet } },
   { name := "may-bootstrap", variableName := "SECRET_SERVICE_MAY_BOOTSTRAP", takesValue := false
     read := readTruth fun mayBootstrap s => { s with mayBootstrap } },
   { name := "pki-dir", variableName := "SECRET_SERVICE_PKI_DIR"
     read := readPath fun pkiDir s => { s with pkiDir := some pkiDir } },
   { name := "log-level", variableName := "SECRET_SERVICE_LOG_LEVEL", read := readLogLevel }]

/-- The flag with a name. -/
def find? (name : String) : Option Flag := all.find? (·.name = name)

end Flag

/-- What asks for something in place of a run: by its name, and by a letter. -/
def Flag.requests : List (String × Char × UsageError) :=
  [("help", 'h', .helpWanted), ("version", 'V', .versionWanted)]

namespace Settings

/-- How far the arguments have been read. -/
structure Progress where
  settings : Settings := {}
  /-- The names of the flags that have been read. -/
  given : List String := []
  /-- The last flag that takes a value, and the value if it has been met. -/
  pending : Option (Flag × Option String) := none

namespace Progress

/-- Sets what a flag says, which must not have been given before. -/
def assign (p : Progress) (flag : Flag) (value : String) : Except UsageError Progress := do
  if p.given.contains flag.name then throw .repeatedFlag
  return { p with settings := ← flag.read value p.settings, given := flag.name :: p.given }

/-- Sets what the last flag says. -/
def settle (p : Progress) : Except UsageError Progress :=
  match p.pending with
  | none => .ok p
  | some (_, none) => .error .invalidValue
  | some (flag, some value) => { p with pending := none }.assign flag value

/-- Reads a flag. -/
def readFlag (p : Progress) (flag : Flag) (value : Option String) : Except UsageError Progress := do
  if flag.takesValue then
    let p ← p.settle
    match value with
    | some value => p.assign flag value
    | none => return { p with pending := some (flag, none) }
  else if value.isSome then throw .unexpectedValue
  else (← p.settle).assign flag "true"

/-- Reads an argument that starts with two dashes: a name, which a value may follow behind an equals
    sign. -/
def readLong (p : Progress) (s : List Char) : Except UsageError Progress :=
  let name := String.ofList (s.takeWhile (· ≠ '='))
  let value : Option String := match s.dropWhile (· ≠ '=') with
    | [] => none
    | _ :: value => some (String.ofList value)
  match Flag.find? name with
  | some flag => p.readFlag flag value
  | none =>
    match Flag.requests.lookup name with
    | none => .error .unknownArgument
    | some (_, wanted) => do
      if value.isSome then throw .unexpectedValue
      let _ ← p.settle
      throw wanted

/-- Reads an argument that starts with one dash, by its first letter. -/
def readShort (p : Progress) (letter : Char) : Except UsageError Progress :=
  match (Flag.requests.map (·.2)).lookup letter with
  | none => .error .unknownArgument
  | some wanted => do
    let _ ← p.settle
    throw wanted

/-- Reads an argument that is no flag. -/
def readValue (p : Progress) (value : String) : Except UsageError Progress :=
  match p.pending with
  | some (flag, none) => .ok { p with pending := some (flag, some value) }
  | _ => .error .unknownArgument

/-- Reads an argument. -/
def readArgument (p : Progress) (argument : String) : Except UsageError Progress :=
  match argument.toList with
  | '-' :: '-' :: s => p.readLong s
  | '-' :: letter :: _ => p.readShort letter
  | _ => p.readValue argument

/-- Reads arguments. Behind two dashes alone there may be no other. -/
def readArguments (p : Progress) : List String → Except UsageError Progress
  | [] => p.settle
  | argument :: rest =>
    if argument = "--" then if rest.isEmpty then p.settle else .error .unknownArgument
    else do (← p.readArgument argument).readArguments rest

/-- Reads the variables of flags that have not been given. -/
def readVariables (p : Progress) (environment : String → Option String) (flags : List Flag) :
    Except UsageError Progress :=
  flags.foldlM (fun p flag =>
    if p.given.contains flag.name then .ok p
    else match environment flag.variableName with
      | some value => p.assign flag value
      | none => .ok p) p

end Progress

/-- Reads settings from arguments and variables of the environment. -/
def parse (arguments : List String) (environment : String → Option String) :
    Except UsageError Settings := do
  let p ← ({} : Progress).readArguments arguments
  return (← p.readVariables environment Flag.all).settings

end Settings

end ClusterVault
