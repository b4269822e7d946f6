import ClusterVault.Http.MediaType
import ClusterVault.Http.Message
import ClusterVault.Json.Value
import ClusterVault.Secrets.Store
import ClusterVault.Text.Base64

/-!
# The secrets interface

Users write and delete secrets.

## Main definitions

- `SecretsApi.WriteOrder`, `SecretsApi.DeleteOrder`: what can be asked for
- `SecretsApi.readBody`: reads the body of a request
- `SecretsApi.decodeSecrets`: the values of secrets, or what is wrong with them
- `SecretsApi.answer`: answers a request

## Design notes

A secret is a key for AES in base 64. Nothing is written unless all secrets are well, and an answer
names everything that is wrong with them. An order may also be given as a list of its members.
-/

namespace ClusterVault.SecretsApi

/-- Secrets to write. -/
structure WriteOrder where
  /-- The values in base 64, by id. -/
  secrets : Std.ExtTreeMap String String
  /-- After how many seconds they end, if that is positive. -/
  timeToLive : Int

/-- Secrets to delete. -/
structure DeleteOrder where
  ids : List String
  deriving DecidableEq, Repr

/-- Reads texts by name. Of two with one name the later counts. -/
def readTexts : Json.Reader (Std.ExtTreeMap String String) := do
  if (← Json.peekToken?) = some 0x7b then
    Json.members Json.quoted (fun name texts => do
      Json.colon
      return texts.insert name (← Json.text)) ∅
  else Json.refuse

/-- Reads a list of texts. -/
def readTextList : Json.Reader (List String) := do
  if (← Json.peekToken?) = some 0x5b then
    return (← Json.items (fun texts => return (← Json.text) :: texts) []).reverse
  else Json.refuse

/-- Reads the member of an order, which must not have been read before. -/
def readOnce {α : Type} (before : Option α) (reader : Json.Reader α) : Json.Reader (Option α) := do
  if before.isSome then Json.mismatched
  Json.colon
  return some (← reader)

/-- Passes over a member that does not count. -/
def skipMember {σ : Type} (state : σ) : Json.Reader σ := do
  Json.colon
  Json.skip
  return state

/-- A member that must be there. -/
def required {α : Type} : Option α → Json.Reader α
  | some a => pure a
  | none => Json.mismatched

/-- Reads the first item of a list, which must be there. -/
def readFirst {α : Type} (reader : Json.Reader α) : Json.Reader α := do
  Json.pass
  if ← Json.hasItem true then reader else Json.mismatched

/-- Reads an order to write. -/
def readWriteOrder : Json.Reader WriteOrder := do
  match ← Json.peekToken? with
  | some 0x5b =>
    let secrets ← readFirst readTexts
    let timeToLive ← if ← Json.hasItem false then Json.integer else pure 0
    Json.endList
    return ⟨secrets, timeToLive⟩
  | some 0x7b =>
    let (secrets, timeToLive) ← Json.members Json.quoted (fun name (secrets, timeToLive) =>
      if name = "secrets" then return (← readOnce secrets readTexts, timeToLive)
      else if name = "time_to_live" then return (secrets, ← readOnce timeToLive Json.integer)
      else skipMember (secrets, timeToLive)) (none, none)
    return ⟨← required secrets, timeToLive.getD 0⟩
  | _ => Json.refuse

/-- Reads an order to delete. -/
def readDeleteOrder : Json.Reader DeleteOrder := do
  match ← Json.peekToken? with
  | some 0x5b =>
    let ids ← readFirst readTextList
    Json.endList
    return ⟨ids⟩
  | some 0x7b =>
    let ids ← Json.members Json.quoted (fun name ids =>
      if name = "ids" then readOnce ids readTextList else skipMember ids) none
    return ⟨← required ids⟩
  | _ => Json.refuse

/-- The largest body that is read, in bytes. -/
def longestBody : Nat := 2 * 1024 * 1024

/-- Refuses a request whose body cannot be read. -/
def reject (status : HttpStatus) (reason : String) : HttpResponse :=
  { status, content := .text reason }

/-- Reads the body of a request, or refuses the request. -/
def readBody {α : Type} (reader : Json.Reader α) (r : HttpRequest) : Except HttpResponse α :=
  if !(r.contentType.bind MediaType.parse?).any (·.isJson) then
    .error (reject .unsupportedMediaType "expected a body of type application/json")
  else if r.body.length > longestBody then
    .error (reject .contentTooLarge "the body is too long")
  else match Json.read reader r.body with
    | .ok a => .ok a
    | .error .malformed => .error (reject .badRequest "the body is not JSON")
    | .error .mismatched =>
      .error (reject .unprocessableContent "the body is not of the expected form")

/-- The numbers of bytes that a secret may have. -/
def secretLengths : List Nat := [16, 24, 32]

/-- The value of a secret, or what is wrong with it. -/
def decodeSecret (id text : String) : Except String Bytes :=
  match Base64.decode (Bytes.ofString text) with
  | .error fault => .error s!"secret {Quoted.text id} is not valid base64: {fault.message}"
  | .ok value =>
    if secretLengths.contains value.length then .ok value
    else .error s!"secret {Quoted.text id} has invalid length: {value.length}"

/-- What is wrong with secrets. -/
def problems (entries : List (String × String)) : List String :=
  entries.filterMap fun (id, text) =>
    match decodeSecret id text with
    | .ok _ => none
    | .error problem => some problem

/-- The values of secrets. Those that are not well are left out. -/
def values (entries : List (String × String)) : Secrets :=
  entries.foldl (fun secrets (id, text) =>
    match decodeSecret id text with
    | .ok value => secrets.insert id value
    | .error _ => secrets) ∅

/-- The values of secrets, or what is wrong with them. -/
def decodeSecrets (texts : Std.ExtTreeMap String String) : Except (List String) Secrets :=
  match problems texts.toList with
  | [] => .ok (values texts.toList)
  | found => .error found

/-- The answer to an order with secrets that are not well. -/
def invalidSecrets (found : List String) : HttpResponse :=
  let rule := "secrets must be 16 (AES-128), 24 (AES-192), or 32 (AES-256) bytes long"
  .failure .badRequest ("invalid secret format: " ++ rule ++ ": " ++ "\n".intercalate found)

variable {ε : Type} [EngineFault ε]

/-- The answer to an order that failed. -/
def failure (e : NodeError ε) : HttpResponse :=
  let status : HttpStatus := match e with
    | .secretsExist _ => .conflict
    | .secretsMissing => .notFound
    | _ => .internalServerError
  .failure status e.message

/-- Carries out an order. -/
def carryOut (p : Procedure ε Unit) : Activity ε HttpResponse := do
  match ← p.run with
  | .ok _ => return { status := .noContent }
  | .error e => return failure e

/-- Writes the secrets that a request asks for. -/
def write (store : SecretStore) (r : HttpRequest) : Activity ε HttpResponse :=
  match readBody readWriteOrder r with
  | .error refusal => .done refusal
  | .ok order =>
    match decodeSecrets order.secrets with
    | .error found => .done (invalidSecrets found)
    | .ok secrets => carryOut (store.set secrets order.timeToLive)

/-- Deletes the secrets that a request asks for. -/
def delete (store : SecretStore) (r : HttpRequest) : Activity ε HttpResponse :=
  match readBody readDeleteOrder r with
  | .error refusal => .done refusal
  | .ok order => carryOut (store.delete order.ids)

/-- The path of the interface. -/
def path : String := "/v1/secrets"

/-- Answers a request of a user. -/
def answer (store : SecretStore) (r : HttpRequest) : Activity ε HttpResponse :=
  r.route path [("PUT", write store r), ("DELETE", delete store r)]

end ClusterVault.SecretsApi
