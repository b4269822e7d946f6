import ClusterVault.Files.FileSystem
import ClusterVault.Text.Quoted

/-!
# Faults of certificates

Why a certificate cannot be read, issued or stored.

## Main definitions

- `FileAction`: what was being done to a file
- `PkiError`, `PkiError.name`, `PkiError.message`: the cause of a fault, and its wording
-/

namespace ClusterVault

/-- What was being done to a file. -/
inductive FileAction where
  | readingCertificate
  | readingAuthorityCertificate
  | readingAuthorityKey
  | creatingDirectory
  | opening
  | writing
  deriving DecidableEq, Repr

/-- The wording of an action. -/
def FileAction.phrase : FileAction → String
  | readingCertificate => "reading certificate"
  | readingAuthorityCertificate => "reading CA certificate"
  | readingAuthorityKey => "reading CA key"
  | creatingDirectory => "creating PKI directory"
  | opening => "opening"
  | writing => "writing"

/-- Why a certificate cannot be read, issued or stored. -/
inductive PkiError where
  /-- The subject has no common name, or an empty one. -/
  | missingCommonName
  /-- The common name is not text, or has a null character. -/
  | invalidCommonName
  /-- An operation on a file was refused. -/
  | file (action : FileAction) (path : String) (fault : FileFault)
  /-- A document is malformed, or a certificate cannot be made as asked. -/
  | rejected
  deriving DecidableEq, Repr

/-- The name of a fault, without what it holds. -/
def PkiError.name : PkiError → String
  | missingCommonName => "MissingCommonName"
  | invalidCommonName => "InvalidCommonName"
  | file .. => "Io"
  | rejected => "Rejected"

/-- The wording of a fault. -/
def PkiError.message : PkiError → String
  | missingCommonName => "certificate has no common name"
  | invalidCommonName => "certificate common name is not a valid name"
  | file action path fault => s!"{action.phrase} {Quoted.path path}: {fault.message}"
  | rejected => "certificate or key rejected"

end ClusterVault
