import ClusterVault.Http.Message
import ClusterVault.Node.AuthSetup
import ClusterVault.Pki.Authority

/-!
# The access interface

Workloads get a certificate with which they may read secrets.

## Main definitions

- `AccessApi.answer`: answers a request

## Design notes

Documents are handed out as text, so one that is no text cannot be handed out. The certificate is
looked at first, then the key, then the certificate of the authority.
-/

namespace ClusterVault.AccessApi

/-- The path of the interface. -/
def path : String := "/v1/access-secrets"

/-- For how many seconds a certificate holds: workloads are replaced more often than once a year. -/
def validity : Nat := 365 * 24 * 60 * 60

/-- What the certificate of a workload says, asked of the node at a host. -/
def request (hostname : String) : CertificateRequest :=
  { commonName := clientPrincipal, dns := [hostname], validity }

/-- The first fault in the text of documents. -/
def firstFault? (documents : List Document) : Option Utf8.Fault :=
  documents.findSome? fun
    | .text content => match content.decode with
      | .ok _ => none
      | .error fault => some fault
    | _ => none

/-- Hands out a new certificate. -/
def issue (issuer : Issuer) (now unused : Nat) (hostname : String) : HttpResponse :=
  match issuer.issue now unused (request hostname) with
  | .error e => .failure .internalServerError s!"creating client certificate: {e.message}"
  | .ok pair =>
    match firstFault? [pair.certificate, pair.key, issuer.authority] with
    | some fault => .failure .internalServerError fault.message
    | none =>
      { status := .ok, content := .credentials pair.certificate pair.key issuer.authority }

/-- Answers a request of a workload, if there is an issuer. -/
def answer (issuer : Option Issuer) (now unused : Nat) (hostname : String) (r : HttpRequest) :
    HttpResponse :=
  Id.run <| r.route path
    [("POST", match issuer with
      | none => .failure .serviceUnavailable "no certificate authority configured"
      | some issuer => issue issuer now unused hostname)]

end ClusterVault.AccessApi
