import ClusterVault.Text.Decimal
import ClusterVault.Url.Parser

/-!
# Names of nodes and services

The nodes of a deployment are numbered, and the names of hosts follow from the numbers.

## Main definitions

- `ServiceNames`: the two names that all others are made of
- `ServiceNames.nodeName`, `ServiceNames.ordinal?`: the name of a node and its number
- `ServiceNames.peerUrl`, `ServiceNames.clientUrl`, `ServiceNames.serviceUrl`: where nodes are
  reached

## Design notes

Numbers are written without sign or leading zeros, so every node has one name only. Numbers have 32
bits.
-/

namespace ClusterVault

/-- The names that those of nodes and services are made of. -/
structure ServiceNames where
  statefulSet : String
  namespaceName : String
  deriving DecidableEq, Repr

namespace ServiceNames

/-- The port that servers answer clients at. -/
def clientPort : Nat := 2379

/-- The port that servers answer each other at. -/
def peerPort : Nat := 2380

/-- The usual name of the set of nodes. -/
def defaultStatefulSet : String := "secret-service"

/-- The domain of the nodes. -/
def headless (n : ServiceNames) : String :=
  s!"{n.statefulSet}-headless.{n.namespaceName}.svc.cluster.local"

/-- The host that stands for any node. -/
def internal (n : ServiceNames) : String :=
  s!"{n.statefulSet}-internal.{n.namespaceName}.svc.cluster.local"

/-- The name of the node with a number. -/
def nodeName (n : ServiceNames) (ordinal : Nat) : String := s!"{n.statefulSet}-{ordinal}"

/-- Whether a text is the usual decimal form of a number. -/
def isDecimal : List Char → Bool
  | [] => false
  | ['0'] => true
  | c :: rest => c ≠ '0' && (c :: rest).all Char.isDigit

/-- What follows a beginning of a text. -/
def dropBeginning? : (beginning text : List Char) → Option (List Char)
  | [], text => some text
  | _ :: _, [] => none
  | b :: beginning, c :: text => if b = c then dropBeginning? beginning text else none

/-- The number of the node with a name, if it is the name of a node. -/
def ordinal? (n : ServiceNames) (nodeName : String) : Option Nat := do
  let digits ← dropBeginning? (n.statefulSet.toList ++ ['-']) nodeName.toList
  let number := Decimal.value digits
  if isDecimal digits && number < 0x100000000 then some number else none

/-- Where other servers reach a node. -/
def peerUrl (n : ServiceNames) (nodeName : String) : Except Url.ParseError Url :=
  Url.parse s!"https://{nodeName}.{n.headless}:{peerPort}"

/-- Where clients reach a node. -/
def clientUrl (n : ServiceNames) (nodeName : String) : Except Url.ParseError Url :=
  Url.parse s!"https://{nodeName}.{n.headless}:{clientPort}"

/-- Where clients reach any node. -/
def serviceUrl (n : ServiceNames) : Except Url.ParseError Url :=
  Url.parse s!"https://{n.internal}:{clientPort}"

end ServiceNames

/-- The name of this node: the value of the variable `HOSTNAME` unless it is empty, and otherwise
    what the operating system says. -/
def hostname (fromEnvironment : Option String) (system : String) : String :=
  match fromEnvironment with
  | some name => if name.isEmpty then system else name
  | none => system

end ClusterVault
