import ClusterVault.Calendar
import ClusterVault.Pki.CertificateReader

/-!
# Certificate authorities

An authority signs certificates with a key of its own. It is kept in two files, the certificate and
the key.

## Main definitions

- `CertificateAuthority`: a certificate with the key that signs
- `CertificateAuthority.generate`, `CertificateAuthority.issue`: making certificates
- `Issuer`: whatever can issue certificates
- `Machine`: files, a clock and numbers for keys
- `CertificateAuthority.openIn`: the authority kept in a directory, made if there is none

## Design notes

A certificate starts to hold five minutes before it is issued, since clocks differ. Keys and serial
numbers are drawn from one count, so none is drawn twice.

The files of an authority are written in steps (`SaveStep`), the certificate before the key, and a
run may end between any two. An authority of which only one file is there is replaced.
-/

namespace ClusterVault

/-- A certificate with the key that signs. -/
structure CertificateAuthority where
  certificate : Certificate
  key : PrivateKey
  deriving DecidableEq, Repr

/-- What a certificate is to say. -/
structure CertificateRequest where
  commonName : String
  /-- Names of hosts; empty ones do not count. -/
  dns : List String := []
  ips : List IpAddress := []
  /-- For how many seconds it is to hold. -/
  validity : Nat
  deriving DecidableEq, Repr

/-- A certificate with its private key. -/
structure CertificateKeyPair where
  certificate : Document
  key : Document
  deriving DecidableEq, Repr

namespace CertificateAuthority

/-- The common name of every authority. -/
def commonName : String := "secret-service-root-ca"

/-- How long before its issue a certificate starts to hold, in seconds. -/
def clockSkew : Nat := 5 * 60

/-- The largest number of characters in a common name. -/
def longestCommonName : Nat := 64

/-- A new authority whose certificate it signs itself. The second argument is a number that no key
    has yet. -/
def generate (now : Nat) (unused : Nat) : CertificateAuthority :=
  let key : PrivateKey := ⟨unused⟩
  let name := [NameAttribute.commonName commonName]
  ⟨{ mark := .drawn unused, version := 3, subject := name, issuer := name
     notBefore := (now - clockSkew : Nat), notAfter := Calendar.lastSecond
     publicKey := .halfOf key, signer := some key, role := some .authority
     alternativeNames := none }, key⟩

/-- A new certificate and its key, signed by the authority. The third argument is a number that no
    key has yet. -/
def issue (a : CertificateAuthority) (now : Nat) (unused : Nat) (r : CertificateRequest) :
    Except PkiError CertificateKeyPair :=
  let notBefore := now - clockSkew
  let notAfter := notBefore + r.validity
  if r.commonName.isEmpty || r.commonName.length > longestCommonName then .error .rejected
  else if (notAfter : Int) > Calendar.lastSecond then .error .rejected
  else
    let key : PrivateKey := ⟨unused⟩
    let dns := r.dns.filter (!·.isEmpty)
    .ok ⟨.certificate {
        mark := .drawn unused, version := 3
        subject := [NameAttribute.commonName r.commonName], issuer := a.certificate.subject
        notBefore, notAfter, publicKey := .halfOf key, signer := some a.key
        role := some .endpoint
        alternativeNames := if dns.isEmpty && r.ips.isEmpty then none else some ⟨dns, r.ips⟩ },
      .privateKey key⟩

/-- The authority that two documents hold. The key need not belong to the certificate. -/
def ofDocuments (certificate key : Document) : Except PkiError CertificateAuthority := do
  let certificate ← Certificate.read certificate
  let key ← PrivateKey.read key
  return ⟨certificate, key⟩

end CertificateAuthority

/-- Whatever can issue certificates: given the time and a number that no key has yet, it answers a
    request. -/
structure Issuer where
  issue : Nat → Nat → CertificateRequest → Except PkiError CertificateKeyPair
  /-- The certificate that issued ones chain to. -/
  authority : Document

/-- An authority as an issuer. -/
def CertificateAuthority.issuer (a : CertificateAuthority) : Issuer :=
  ⟨a.issue, .certificate a.certificate⟩

/-- Files, a clock and numbers for keys. -/
structure Machine where
  files : FileSystem := {}
  /-- The seconds since the start of 1970. -/
  clock : Nat
  /-- A number above that of every key drawn so far. -/
  unused : Nat := 0

namespace CertificateAuthority

/-- The name of the file with the certificate. -/
def certificateFile : String := "ca.crt"

/-- The name of the file with the private key. -/
def keyFile : String := "ca.key"

/-- The mode of a file that only its owner may use. -/
def privateMode : Nat := 0o600

end CertificateAuthority

/-- One step of writing files. -/
inductive SaveStep where
  | makeDirectory (path : String)
  /-- Makes a file or empties the one there is. -/
  | clear (path : String)
  | fill (path : String) (content : Document)
  deriving DecidableEq, Repr

namespace SaveStep

/-- Takes a step. -/
def run (fs : FileSystem) : SaveStep → FileSystem × Option PkiError
  | makeDirectory path =>
    let (fs, fault) := fs.makeDirectories path
    (fs, fault.map (.file .creatingDirectory path))
  | clear path =>
    match fs.truncate path CertificateAuthority.privateMode with
    | .ok fs => (fs, none)
    | .error fault => (fs, some (.file .opening path fault))
  | fill path content => (fs.fill path content, none)

/-- Takes steps until one fails. -/
def runAll (fs : FileSystem) : List SaveStep → FileSystem × Option PkiError
  | [] => (fs, none)
  | step :: rest =>
    match step.run fs with
    | (fs, none) => runAll fs rest
    | (fs, some fault) => (fs, some fault)

/-- The steps of writing one file. -/
def file (path : String) (content : Document) : List SaveStep :=
  [clear path, fill path content]

end SaveStep

namespace CertificateAuthority

/-- The steps of keeping an authority in a directory. -/
def saveSteps (a : CertificateAuthority) (directory : String) : List SaveStep :=
  .makeDirectory directory ::
    SaveStep.file (FilePath.join directory certificateFile) (.certificate a.certificate) ++
    SaveStep.file (FilePath.join directory keyFile) (.privateKey a.key)

/-- The authority whose two files a directory has. -/
def load (fs : FileSystem) (directory : String) : Except PkiError CertificateAuthority := do
  let certificatePath := FilePath.join directory certificateFile
  let keyPath := FilePath.join directory keyFile
  let certificate ← (fs.read certificatePath).mapError
    (.file .readingAuthorityCertificate certificatePath)
  let key ← (fs.read keyPath).mapError (.file .readingAuthorityKey keyPath)
  ofDocuments certificate key

/-- Whether a directory has both files of an authority. -/
def isKept (fs : FileSystem) (directory : String) : Bool :=
  fs.pathExists (FilePath.join directory certificateFile) &&
    fs.pathExists (FilePath.join directory keyFile)

/-- The authority kept in a directory. If a file is missing, a new authority is made and kept. -/
def openIn (m : Machine) (directory : String) : Machine × Except PkiError CertificateAuthority :=
  if isKept m.files directory then (m, load m.files directory)
  else
    let a := generate m.clock m.unused
    let (files, fault) := SaveStep.runAll m.files (a.saveSteps directory)
    ({ m with files, unused := m.unused + 1 },
      match fault with
      | none => .ok a
      | some fault => .error fault)

end CertificateAuthority

end ClusterVault
