import ClusterVault.Pki.Authority

/-!
# Certificates of members

Every node has a certificate for itself, which names the hosts it answers as.

## Main definitions

- `MemberKeyPair`: where the certificate and key of a node are kept
- `MemberKeyPair.request`: what the certificate of a node says
- `MemberKeyPair.renew`: issues a new pair and keeps it
-/

namespace ClusterVault

/-- Where the certificate and key of a node are kept. -/
structure MemberKeyPair where
  certificatePath : String
  keyPath : String
  certificate : Document
  deriving DecidableEq, Repr

namespace MemberKeyPair

/-- The name of the file with the certificate. -/
def certificateFile : String := "member.crt"

/-- The name of the file with the private key. -/
def keyFile : String := "member.key"

/-- The common name of every member: members act as the administrator. -/
def commonName : String := "root"

/-- For how many seconds the certificate holds. -/
def validity : Nat := 365 * 24 * 60 * 60

/-- The addresses every member answers at: all of its own, and itself. -/
def localAddresses : List IpAddress :=
  [.v4 [0, 0, 0, 0], .v4 [127, 0, 0, 1], .v6 (List.replicate 16 0),
   .v6 (List.replicate 15 0 ++ [1])]

/-- What the certificate of the node at a host says. -/
def request (host : String) : CertificateRequest :=
  match IpAddress.parse? host with
  | some ip =>
    { commonName, validity, dns := ["localhost"]
      ips := if localAddresses.contains ip then localAddresses else localAddresses ++ [ip] }
  | none => { commonName, validity, dns := ["localhost", host], ips := localAddresses }

/-- Issues a certificate for the node at a host and keeps it with its key in a directory, in place
    of any pair before. -/
def renew (m : Machine) (directory host : String) (issuer : Issuer) :
    Machine × Except PkiError MemberKeyPair :=
  match issuer.issue m.clock m.unused (request host) with
  | .error e => ({ m with unused := m.unused + 1 }, .error e)
  | .ok pair =>
    let certificatePath := FilePath.join directory certificateFile
    let keyPath := FilePath.join directory keyFile
    let (files, fault) := SaveStep.runAll m.files
      (.makeDirectory directory :: SaveStep.file certificatePath pair.certificate ++
        SaveStep.file keyPath pair.key)
    ({ m with files, unused := m.unused + 1 },
      match fault with
      | none => .ok ⟨certificatePath, keyPath, pair.certificate⟩
      | some fault => .error fault)

end MemberKeyPair

end ClusterVault
