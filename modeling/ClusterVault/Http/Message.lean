import ClusterVault.Pki.Certificate

/-!
# Requests and answers

What is asked of an interface over HTTP, and what it answers.

## Main definitions

- `HttpRequest`: a request
- `HttpStatus`, `HttpContent`, `HttpResponse`: an answer
- `HttpRequest.route`: answers a request by its path and method

## Design notes

A path has to be matched exactly, and so has a method. What follows a question mark does not count,
and neither does the host in front of the path of a target that names one.
-/

namespace ClusterVault

/-- A request. -/
structure HttpRequest where
  method : String
  /-- The path and what may follow it. -/
  target : String
  contentType : Option String
  body : Bytes
  deriving DecidableEq, Repr

/-- How a request went. -/
inductive HttpStatus where
  | ok
  | noContent
  | badRequest
  | notFound
  | methodNotAllowed
  | conflict
  | contentTooLarge
  | unsupportedMediaType
  | unprocessableContent
  | internalServerError
  | serviceUnavailable
  deriving DecidableEq, Repr

/-- The number of a status. -/
def HttpStatus.code : HttpStatus → Nat
  | ok => 200
  | noContent => 204
  | badRequest => 400
  | notFound => 404
  | methodNotAllowed => 405
  | conflict => 409
  | contentTooLarge => 413
  | unsupportedMediaType => 415
  | unprocessableContent => 422
  | internalServerError => 500
  | serviceUnavailable => 503

/-- What an answer holds. -/
inductive HttpContent where
  | empty
  | text (s : String)
  /-- A JSON object with a message under `error`. -/
  | failure (message : String)
  /-- A JSON object with a certificate, its key and the certificate of who signed it. -/
  | credentials (certificate key authority : Document)
  deriving DecidableEq, Repr

/-- The members of the JSON object that an answer holds, if it holds one. -/
def HttpContent.members : HttpContent → List (String × Document)
  | failure message => [("error", .text (Bytes.ofString message))]
  | credentials certificate key authority =>
    [("cert", certificate), ("key", key), ("ca_cert", authority)]
  | _ => []

/-- An answer. -/
structure HttpResponse where
  status : HttpStatus
  /-- The methods that a path knows, if the answer names them. -/
  allow : List String := []
  content : HttpContent := .empty
  deriving DecidableEq, Repr

/-- An answer that says what went wrong. -/
def HttpResponse.failure (status : HttpStatus) (message : String) : HttpResponse :=
  { status, content := .failure message }

namespace HttpRequest

/-- What follows the mark between a scheme and a host, if there is one. -/
def afterScheme? : List Char → Option (List Char)
  | ':' :: '/' :: '/' :: rest => some rest
  | _ :: rest => afterScheme? rest
  | [] => none

/-- The path of a request. -/
def path (r : HttpRequest) : String :=
  let target := r.target.toList.takeWhile fun c => c ≠ '?' && c ≠ '#'
  match if target.head? = some '/' then none else afterScheme? target with
  | none => String.ofList target
  | some rest =>
    let path := rest.dropWhile (· ≠ '/')
    if path.isEmpty then "/" else String.ofList path

/-- Answers a request by its path and method, of which some are known. -/
def route {m : Type → Type} [Monad m] (r : HttpRequest) (path : String)
    (handlers : List (String × m HttpResponse)) : m HttpResponse :=
  if r.path ≠ path then return { status := .notFound }
  else match handlers.lookup r.method with
    | some handler => handler
    | none => return { status := .methodNotAllowed, allow := handlers.map (·.1) }

end HttpRequest

end ClusterVault
