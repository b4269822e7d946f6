import ClusterVault.Url.Address

/-!
# Certificates and keys

A certificate binds a name to a public key, with the signature of whoever vouches for it.

## Main definitions

- `PrivateKey`, `PublicKey`: the two halves of a key
- `Certificate`: a certificate by what it says
- `Certificate.isSignedBy`: whether the key in another certificate made the signature
- `Document`: what a file can hold

## Design notes

Keys and signatures are symbols. A private key is known by a number that no other key has, its
public half names it, and a signature names the key it was made with, so a signature cannot be made
without the key. Two certificates are the same only if they bear the same mark: the serial number
drawn for them, or, if they come from elsewhere, their bytes.
-/

namespace ClusterVault

/-- A private key, known by a number that no other key has. -/
structure PrivateKey where
  number : Nat
  deriving DecidableEq, Repr

/-- A public key. -/
inductive PublicKey where
  /-- The public half of a private key. -/
  | halfOf (key : PrivateKey)
  /-- A key from elsewhere. -/
  | encoded (bits : Bytes)
  deriving DecidableEq, Repr

/-- One attribute of a name, such as the common name. -/
structure NameAttribute where
  /-- The object identifier of the kind of attribute. -/
  kind : List Nat
  content : Bytes
  deriving DecidableEq, Repr

namespace NameAttribute

/-- The object identifier of the common name. -/
def commonNameKind : List Nat := [2, 5, 4, 3]

/-- A common name. -/
def commonName (name : String) : NameAttribute := ⟨commonNameKind, Bytes.ofString name⟩

/-- Short names for the usual kinds of attributes. -/
def shortNames : List (List Nat × String) :=
  [([2, 5, 4, 3], "CN"), ([2, 5, 4, 4], "SN"), ([2, 5, 4, 5], "serialNumber"),
   ([2, 5, 4, 6], "C"), ([2, 5, 4, 7], "L"), ([2, 5, 4, 8], "ST"), ([2, 5, 4, 9], "street"),
   ([2, 5, 4, 10], "O"), ([2, 5, 4, 11], "OU"), ([2, 5, 4, 12], "title"), ([2, 5, 4, 42], "GN"),
   ([1, 2, 840, 113549, 1, 9, 1], "emailAddress"), ([0, 9, 2342, 19200300, 100, 1, 25], "DC"),
   ([0, 9, 2342, 19200300, 100, 1, 1], "UID")]

/-- The short name of the kind of attribute. -/
def shortName (a : NameAttribute) : String :=
  match shortNames.lookup a.kind with
  | some name => name
  | none => "UNDEF"

end NameAttribute

/-- What tells a certificate from all others. -/
inductive CertificateMark where
  /-- A serial number that was drawn for it. -/
  | drawn (serial : Nat)
  /-- Its bytes. -/
  | encoded (bytes : Bytes)
  deriving DecidableEq, Repr

/-- What the key of a certificate may be used for. -/
inductive CertificateRole where
  /-- To sign other certificates. -/
  | authority
  /-- To answer as a server and to connect as a client. -/
  | endpoint
  deriving DecidableEq, Repr

/-- A statement in a certificate about the use of its key. -/
structure CertificateExtension where
  name : String
  /-- Whether a reader who does not know the statement must refuse the certificate. -/
  critical : Bool
  text : String
  deriving DecidableEq, Repr

/-- The statements that come with a role. -/
def CertificateRole.extensions : CertificateRole → List CertificateExtension
  | .authority =>
    [⟨"Basic Constraints", true, "CA:TRUE"⟩,
     ⟨"Key Usage", true, "Digital Signature, Certificate Sign, CRL Sign"⟩,
     ⟨"Extended Key Usage", false,
       "TLS Web Server Authentication, TLS Web Client Authentication"⟩]
  | .endpoint =>
    [⟨"Basic Constraints", false, "CA:FALSE"⟩,
     ⟨"Key Usage", true, "Digital Signature, Key Encipherment"⟩,
     ⟨"Extended Key Usage", false,
       "TLS Web Server Authentication, TLS Web Client Authentication"⟩]

/-- The names of hosts a certificate is valid for. -/
structure AlternativeNames where
  dns : List String
  ips : List IpAddress
  deriving DecidableEq, Repr

/-- A certificate by what it says. -/
structure Certificate where
  mark : CertificateMark
  version : Nat
  subject : List NameAttribute
  issuer : List NameAttribute
  /-- The first second at which it holds, counted from the start of 1970. -/
  notBefore : Int
  /-- The last second at which it holds, counted from the start of 1970. -/
  notAfter : Int
  publicKey : PublicKey
  /-- The key that made the signature, if it is a known one. -/
  signer : Option PrivateKey
  role : Option CertificateRole
  alternativeNames : Option AlternativeNames
  deriving DecidableEq, Repr

namespace Certificate

/-- Whether the key in another certificate made the signature. -/
def isSignedBy (c authority : Certificate) : Bool :=
  match c.signer with
  | some key => authority.publicKey = .halfOf key
  | none => false

/-- Whether a private key belongs to the certificate. -/
def matchesKey (c : Certificate) (key : PrivateKey) : Bool := c.publicKey = .halfOf key

/-- The statements about the use of the key. -/
def extensions (c : Certificate) : List CertificateExtension :=
  match c.role with
  | some role => role.extensions
  | none => []

end Certificate

/-- What a file can hold. -/
inductive Document where
  | text (content : Bytes)
  | certificate (c : Certificate)
  | privateKey (key : PrivateKey)
  deriving DecidableEq, Repr

end ClusterVault
