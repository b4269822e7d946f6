import ClusterVault.Api.Service
import ClusterVault.CommandLine.Arguments

/-!
# The command line

A node of its own, whose store, files and network are in memory.

## Main definitions

- `main`: brings a node up and answers the requests in standard input

## Design notes

The certificate of the node is read from the file that the settings name. A request is a line with a
port, a method, a target and a body, with one space between each. An answer is a line with the
status and what follows from it.
-/

namespace ClusterVault.Program

/-- The usage of the program, a line for each flag. -/
def usage : String :=
  let line (flag : Flag) : String :=
    "  --" ++ flag.name ++ (if flag.takesValue then " <VALUE>" else "") ++
      "  [env: " ++ flag.variableName ++ "]"
  "\n".intercalate ("Usage: cluster-vault [OPTIONS]" :: Flag.all.map line)

/-- What is said of arguments that are refused, or in place of a run. -/
def report : UsageError → String
  | .helpWanted => usage
  | .versionWanted => "cluster-vault 0.1.0"
  | e => s!"error: {e.name}"

/-- The request that a line makes, and the port it goes to. -/
def readRequest? (line : String) : Option (Nat × HttpRequest) :=
  match Text.splitAtChar ' ' line.toList with
  | port :: method :: target :: body => do
    let request : HttpRequest :=
      { method := String.ofList method
        target := String.ofList target
        contentType := some "application/json"
        body := Bytes.ofString (String.ofList ([' '].intercalate body)) }
    return (← Decimal.natural? port, request)
  | _ => none

/-- The line that says what is answered. -/
def renderResponse (r : HttpResponse) : String :=
  let content := match r.content with
    | .empty => ""
    | .text s => " " ++ s
    | .failure message => " " ++ message
    | .credentials certificate _ _ =>
      match certificate.identity with
      | .ok name => " certificate for " ++ name
      | .error e => " " ++ e.message
  toString r.status.code ++ content

/-- A machine with one file. -/
def machineWith (path : String) (content : Bytes) : Machine :=
  let parent := ((FilePath.ofString path).parent?.map (·.parts)).getD []
  let directory := (if path.startsWith "/" then "/" else "") ++ "/".intercalate parent
  let (files, _) := ({} : FileSystem).makeDirectories directory
  { files := (files.write path 0o600 (.text content)).toOption.getD files, clock := 0 }

/-- The random numbers of networks, from a seed. -/
def stream (seed network k : Nat) : Nat :=
  (seed + (k + 1) * 0x9e3779b97f4a7c15 + (network + 1) * 0xbf58476d1ce4e5b9) % 0x10000000000000000

/-- The variables of the environment that flags look at. -/
def readVariables : IO (List (String × String)) := do
  let read (flag : Flag) : IO (Option (String × String)) := do
    return (← IO.getEnv flag.variableName).map (flag.variableName, ·)
  return (← Flag.all.mapM read).filterMap id

/-- The content of a file, or none if it cannot be read. -/
def readFile? (path : String) : IO (Option Bytes) := do
  try return some (Bytes.ofByteArray (← IO.FS.readBinFile path))
  catch _ => return none

/-- The name of this node. -/
def readHostname : IO String := do
  let system := (← readFile? "/etc/hostname").bind (·.text?)
  return hostname (← IO.getEnv "HOSTNAME") ((system.getD "").trimAscii.toString)

/-- Answers the requests in standard input. -/
partial def serve (s : Service) : IO Unit := do
  let line ← (← IO.getStdin).getLine
  if line.isEmpty then return
  let s := s.advanceTo (← IO.monoMsNow)
  match readRequest? line.trimAsciiEnd.toString with
  | none =>
    IO.println "malformed request"
    serve s
  | some (port, request) =>
    let (s, response) := s.answer port request
    IO.println ((response.map renderResponse).getD "connection refused")
    serve s

/-- Brings a node up under settings, and answers requests until there are no more. -/
def runNode (settings : Settings) : IO UInt32 := do
  let path := settings.serverCertificate
  let machine := match ← readFile? path with
    | some content => machineWith path content
    | none => { clock := 0 }
  let seed ← IO.rand 0 0x7fffffffffffffff
  match Service.start settings (← readHostname) { machine, streams := stream seed } with
  | .error e =>
    IO.eprintln e.message
    return 1
  | .ok s =>
    serve s
    return 0

end ClusterVault.Program

open ClusterVault in
/-- Brings a node up and answers the requests in standard input. -/
def main (arguments : List String) : IO UInt32 := do
  let environment ← Program.readVariables
  match Settings.parse arguments (environment.lookup ·) with
  | .ok settings => Program.runNode settings
  | .error e =>
    IO.println (Program.report e)
    return if e = .helpWanted || e = .versionWanted then 0 else 2
