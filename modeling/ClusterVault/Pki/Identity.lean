import ClusterVault.Pki.CertificateReader

/-!
# Identities

A node acts as the common name of its certificate.

## Main definitions

- `Certificate.identity`: the common name of a certificate
- `Document.identity`, `FileSystem.readIdentity`: that of a document or a file

## Design notes

Only the first common name of the subject counts. It must be text without null characters, since a
reader that stops at one would take it for another name.
-/

namespace ClusterVault

/-- The first common name of the subject. -/
def Certificate.identity (c : Certificate) : Except PkiError String :=
  match c.subject.find? (·.kind = NameAttribute.commonNameKind) with
  | none => .error .missingCommonName
  | some entry =>
    match entry.content.text? with
    | none => .error .invalidCommonName
    | some name =>
      if name.isEmpty then .error .missingCommonName
      else if name.toList.contains '\x00' then .error .invalidCommonName
      else .ok name

/-- The common name of the first certificate in a document. -/
def Document.identity (d : Document) : Except PkiError String :=
  (Certificate.read d).bind Certificate.identity

/-- The common name of the first certificate in a file. -/
def FileSystem.readIdentity (fs : FileSystem) (path : String) : Except PkiError String :=
  match fs.read path with
  | .error fault => .error (.file .readingCertificate path fault)
  | .ok content => content.identity

end ClusterVault
