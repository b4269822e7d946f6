import ClusterVault.Access.Permission
import ClusterVault.Cluster.Member
import ClusterVault.Pki.Error

/-!
# Refused requests

## Main definitions

- `ErrorKind`: the kinds of errors that callers tell apart
- `EngineError`: why the engine refuses a request, with `EngineError.message`,
  `EngineError.name` and `EngineError.kind`
- `EngineFault`: what callers need to know of any engine's errors

## Design notes

An error holds its cause, and the wording of every cause is in this module. Ids of members are
written in hexadecimal.
-/

namespace ClusterVault

/-- The kinds of errors that callers tell apart. -/
inductive ErrorKind where
  | alreadyExists
  | invalidArgument
  | notFound
  | permissionDenied
  | stopped
  | unavailable
  | other
  deriving DecidableEq, Repr

/-- The name of a kind of error. -/
def ErrorKind.name : ErrorKind → String
  | alreadyExists => "AlreadyExists"
  | invalidArgument => "InvalidArgument"
  | notFound => "NotFound"
  | permissionDenied => "PermissionDenied"
  | stopped => "Stopped"
  | unavailable => "Unavailable"
  | other => "Other"

/-- What callers need to know of an error of an engine. -/
class EngineFault (ε : Type) where
  kind : ε → ErrorKind
  message : ε → String

/-- Something that is missing, or that is there already. -/
inductive Subject where
  | role (name : String)
  | user (name : String)
  | lease (id : Int)
  | member (id : Nat)
  | memberAt (peerUrl : Url)
  /-- A member with one of the given URLs. -/
  | registration (peerUrls : List Url)
  /-- The member whose data is in a directory. -/
  | departed (id : Nat) (dataDir : String)
  | listener (url : Url)
  deriving DecidableEq, Repr

/-- A number in hexadecimal. -/
def hexadecimal (n : Nat) : String := String.ofList (Nat.toDigits 16 n)

/-- The wording of a subject. -/
def Subject.phrase : Subject → String
  | role name => s!"role {Quoted.text name}"
  | user name => s!"user {Quoted.text name}"
  | lease id => s!"lease {id}"
  | member id => s!"member {hexadecimal id}"
  | memberAt url => s!"member with peer URL {url.render}"
  | registration urls => s!"member advertising {Quoted.list (urls.map Url.render)}"
  | departed id dir =>
    s!"member {hexadecimal id} of {Quoted.path dir}, it was removed from its cluster"
  | listener url => s!"listener on {url.render}"

/-- What is wrong with a request. -/
inductive Problem where
  | emptyRoleName
  | emptyUserName
  | noEndpoints
  | memberWithoutPeerUrls
  | noAdvertisedPeerUrls (server : String)
  | tooManyOperations (limit : Nat)
  | leaseNotPositive (ttl : Int)
  | leaseTooLong (ttl : Int)
  | administratorMissing
  | administratorWithoutRole
  | notListed (server : String) (initial : InitialCluster)
  | notAdvertised (server : String) (url : Url)
  deriving DecidableEq, Repr

/-- The wording of a problem. -/
def Problem.phrase : Problem → String
  | emptyRoleName => "empty role name"
  | emptyUserName => "empty user name"
  | noEndpoints => "no endpoints"
  | memberWithoutPeerUrls => "member without peer URLs"
  | noAdvertisedPeerUrls server => s!"{server} advertises no peer URLs"
  | tooManyOperations limit => s!"too many operations in transaction (limit {limit})"
  | leaseNotPositive ttl => s!"lease TTL must be positive, got {ttl}"
  | leaseTooLong ttl => s!"lease TTL {ttl} is too large"
  | administratorMissing => "root user does not exist"
  | administratorWithoutRole => "root user does not hold the root role"
  | notListed server initial => s!"initial cluster {initial.render} does not list {server}"
  | notAdvertised server url => s!"{url.render} is not advertised by {server}"

/-- Why a user may not do what it asks for. -/
inductive Refusal where
  | unknownUser (user : String)
  | notAdministrator (user : String)
  | keyDenied (user : String) (access : Access) (key : Bytes)
  deriving DecidableEq, Repr

/-- The wording of a refusal. -/
def Refusal.phrase : Refusal → String
  | unknownUser user => s!"user {Quoted.text user} does not exist"
  | notAdministrator user => s!"user {Quoted.text user} does not hold the root role"
  | keyDenied user access key =>
    s!"user {Quoted.text user} may not {access.verb} {key.lossyText}"

/-- Why no server answers. -/
inductive Obstacle where
  | notJoined (server : String)
  | noPeerReachable (server : String) (initial : InitialCluster)
  | noServerReachable (endpoints : List Url)
  | connectionLost (server : String)
  deriving DecidableEq, Repr

/-- The wording of an obstacle. -/
def Obstacle.phrase : Obstacle → String
  | notJoined server => s!"{server} has not joined a cluster"
  | noPeerReachable server initial => s!"no peer of {server} reachable in {initial.render}"
  | noServerReachable endpoints =>
    s!"no server reachable at {Quoted.list (endpoints.map Url.render)}"
  | connectionLost server => s!"connection to {server} lost"

/-- Why the engine refuses a request. -/
inductive EngineError where
  | alreadyExists (subject : Subject)
  | clientCertificate (cause : PkiError)
  | invalidArgument (problem : Problem)
  | dataDirectory (fault : FileFault)
  | notFound (subject : Subject)
  | permissionDenied (refusal : Refusal)
  | stopped
  | unavailable (obstacle : Obstacle)
  deriving DecidableEq, Repr

namespace EngineError

/-- The wording of an error. -/
def message : EngineError → String
  | alreadyExists subject => s!"{subject.phrase} already exists"
  | clientCertificate cause => s!"client certificate: {cause.message}"
  | invalidArgument problem => s!"invalid argument: {problem.phrase}"
  | dataDirectory fault => s!"failed to create data directory: {fault.message}"
  | notFound subject => s!"{subject.phrase} not found"
  | permissionDenied refusal => s!"permission denied: {refusal.phrase}"
  | stopped => "server stopped"
  | unavailable obstacle => s!"unavailable: {obstacle.phrase}"

/-- The name of an error, without what it holds. -/
def name : EngineError → String
  | alreadyExists _ => "AlreadyExists"
  | clientCertificate _ => "ClientCertificate"
  | invalidArgument _ => "InvalidArgument"
  | dataDirectory _ => "Io"
  | notFound _ => "NotFound"
  | permissionDenied _ => "PermissionDenied"
  | stopped => "Stopped"
  | unavailable _ => "Unavailable"

/-- The kind of an error. -/
def kind : EngineError → ErrorKind
  | alreadyExists _ => .alreadyExists
  | clientCertificate _ => .permissionDenied
  | invalidArgument _ => .invalidArgument
  | dataDirectory _ => .other
  | notFound _ => .notFound
  | permissionDenied _ => .permissionDenied
  | stopped => .stopped
  | unavailable _ => .unavailable

instance : EngineFault EngineError := ⟨kind, message⟩

end EngineError

end ClusterVault
