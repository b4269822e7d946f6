import ClusterVault.Node.Names

/-!
# Settings

What a node is told when it is started.

## Main definitions

- `LogLevel`: how much is logged
- `Settings`: all that can be set
-/

namespace ClusterVault

/-- How much is logged. -/
inductive LogLevel where
  | error
  | warn
  | info
  | debug
  | trace
  deriving DecidableEq, Repr

namespace LogLevel

/-- All levels, in the order of their numbers from `1`. -/
def all : List LogLevel := [error, warn, info, debug, trace]

/-- The name of a level. -/
def name : LogLevel → String
  | error => "ERROR"
  | warn => "WARN"
  | info => "INFO"
  | debug => "DEBUG"
  | trace => "TRACE"

/-- The level with a number or a name in any case. -/
def parse? (s : String) : Option LogLevel :=
  match Decimal.natural? s.toList with
  | some n => if n = 0 then none else all[n - 1]?
  | none => all.find? fun level => s.toList.map Char.toUpper = level.name.toList

end LogLevel

/-- All that can be set. -/
structure Settings where
  /-- The port of the secrets interface. -/
  port : Nat := 3000
  /-- The port of the access interface. -/
  backendPort : Nat := 9000
  /-- The port of the health interface. -/
  healthPort : Nat := 9001
  serverCertificate : String := "/var/lib/secret-service/etcd/etcd.crt"
  serverKey : String := "/var/lib/secret-service/etcd/etcd.key"
  /-- The certificate of the authority that certificates of servers chain to. -/
  authority : String := "/var/lib/secret-service/etcd/ca.crt"
  dataDir : String := "/var/lib/secret-service/etcd/data"
  namespaceName : String := "default"
  statefulSet : String := ServiceNames.defaultStatefulSet
  /-- Whether the node may found a cluster. -/
  mayBootstrap : Bool := false
  /-- Where the node keeps a certificate authority, if it acts as one. -/
  pkiDir : Option String := none
  logLevel : LogLevel := .info
  deriving DecidableEq, Repr

/-- The names of nodes and services. -/
def Settings.names (s : Settings) : ServiceNames := ⟨s.statefulSet, s.namespaceName⟩

end ClusterVault
