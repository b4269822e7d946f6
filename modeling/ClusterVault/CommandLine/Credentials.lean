import ClusterVault.CommandLine.Settings
import ClusterVault.Pki.MemberPair

/-!
# Credentials of a node

The files a node secures its connections with. A node that acts as a certificate authority issues
its own.

## Main definitions

- `Credentials`: the files, and the authority if the node acts as one
- `Credentials.prepare`: makes them as the settings say
-/

namespace ClusterVault

/-- The files a node secures its connections with, and the authority if the node acts as one. -/
structure Credentials where
  certificateFile : String
  keyFile : String
  authorityFile : String
  authority : Option CertificateAuthority
  deriving DecidableEq, Repr

/-- Makes the credentials of a node as the settings say. -/
def Credentials.prepare (m : Machine) (s : Settings) (nodeName : String) :
    Machine × Except PkiError Credentials :=
  match s.pkiDir with
  | none => (m, .ok ⟨s.serverCertificate, s.serverKey, s.authority, none⟩)
  | some directory =>
    match CertificateAuthority.openIn m directory with
    | (m, .error e) => (m, .error e)
    | (m, .ok authority) =>
      let host := s!"{nodeName}.{s.names.headless}"
      match MemberKeyPair.renew m directory host authority.issuer with
      | (m, .error e) => (m, .error e)
      | (m, .ok pair) =>
        (m, .ok ⟨pair.certificatePath, pair.keyPath,
          FilePath.join directory CertificateAuthority.certificateFile, some authority⟩)

end ClusterVault
