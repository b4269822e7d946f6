import ClusterVault.Secrets.Store

/-!
# An atomic vault

What stores of secrets are meant to look like to those who call them: one table of secrets, on which
every call acts at one instant and all at once.

## Main definitions

- `SecretCall`: a call on a store of secrets
- `Secret`, `Secret.isLive`: a value with the instant it ends at
- `Vault`: the table, the time and how far every call has come
- `Vault.write`, `Vault.delete`: what a call does to the table
- `Vault.advance`: what the next request of a call does
- `Vault.step`, `Vault.after`: what one event and what all events of a run leave

## Design notes

A call that writes secrets with a time to live makes two requests: the first fixes their deadline,
the second writes them. All else is done by a call in one request. The table knows nothing of leases,
keys or revisions. A secret stays in the table beyond its deadline, but nothing looks at it there.
-/

namespace ClusterVault

/-- A call on a store of secrets. -/
inductive SecretCall where
  /-- Writes all secrets, which end after `ttl` seconds if that is positive. -/
  | set (secrets : Secrets) (ttl : Int)
  | delete (ids : List String)
  | get (id : String)

/-- The number of ids that a call names. -/
def SecretCall.size : SecretCall → Nat
  | set secrets _ => secrets.size
  | delete ids => ids.length
  | get _ => 1

/-- A value with the instant it ends at, if it does. -/
structure Secret where
  value : Bytes
  deadline : Option Instant
  deriving DecidableEq, Repr

/-- Whether a secret has not ended at an instant. -/
def Secret.isLive (s : Secret) (now : Instant) : Bool := s.deadline.all (now < ·)

namespace Vault

/-- Why a call has done nothing. -/
inductive Refusal where
  /-- The clock does not reach the deadline. -/
  | leaseTooLong
  /-- The deadline passed before the secrets were written. -/
  | leaseExpired
  | secretsExist (ids : List String)
  | secretsMissing
  deriving DecidableEq, Repr

/-- What a call has come to. Only a call that reads shows a value. -/
abbrev Verdict := Except Refusal (Option Bytes)

/-- How far a call has come. -/
inductive Progress where
  | waiting (call : SecretCall)
  /-- The call may write its secrets with a deadline. -/
  | granted (secrets : Secrets) (deadline : Instant)
  | answered (verdict : Verdict)

/-- How far a call has come at its start. A call that names no ids is over at once. -/
def Progress.start (call : SecretCall) : Progress :=
  if call.size = 0 then .answered (.ok none) else .waiting call

/-- One thing that happens. -/
inductive Event where
  /-- Time passes. -/
  | wait (instant : Instant)
  /-- Someone makes a call. -/
  | call (call : SecretCall)
  /-- A call makes its next request. Calls are known by the order in which they were made. -/
  | request (i : Nat)
  /-- Something else happens. -/
  | others

end Vault

/-- The table of secrets, the time and how far every call has come. -/
structure Vault where
  now : Instant
  secrets : String → Option Secret := fun _ => none
  calls : List Vault.Progress := []

namespace Vault

/-- What is kept under an id and has not ended. -/
def live (v : Vault) (id : String) : Option Secret := (v.secrets id).filter (·.isLive v.now)

/-- Whether something is kept under an id and has not ended. -/
def has (v : Vault) (id : String) : Bool := (v.live id).isSome

/-- The table with secrets written over it. -/
def overwritten (v : Vault) (secrets : Secrets) (deadline : Option Instant) :
    String → Option Secret :=
  fun id => (secrets[id]?.map (⟨·, deadline⟩)).or (v.secrets id)

/-- Writes all secrets if none of them is there, and if their deadline has not passed. -/
def write (v : Vault) (secrets : Secrets) (deadline : Option Instant) :
    Verdict × (String → Option Secret) :=
  match secrets.keys.filter v.has with
  | [] =>
    if deadline.all (v.now < ·) then (.ok none, v.overwritten secrets deadline)
    else (.error .leaseExpired, v.secrets)
  | ids => (.error (.secretsExist ids), v.secrets)

/-- Deletes all secrets if every one is there. -/
def delete (v : Vault) (ids : List String) : Verdict × (String → Option Secret) :=
  if ids.all v.has then (.ok none, fun id => if id ∈ ids then none else v.secrets id)
  else (.error .secretsMissing, v.secrets)

/-- What the next request of a call does. -/
def advance (v : Vault) : Progress → Progress × (String → Option Secret)
  | .waiting (.set secrets ttl) =>
    if 0 < ttl then
      match v.now.ofSecondsAfter? ttl.toNat with
      | none => (.answered (.error .leaseTooLong), v.secrets)
      | some deadline => (.granted secrets deadline, v.secrets)
    else (v.write secrets none).map .answered id
  | .waiting (.delete ids) => (v.delete ids).map .answered id
  | .waiting (.get id) => (.answered (.ok ((v.live id).map (·.value))), v.secrets)
  | .granted secrets deadline => (v.write secrets (some deadline)).map .answered id
  | .answered verdict => (.answered verdict, v.secrets)

/-- Secrets are written if and only if none of them is there and their deadline has not passed. -/
theorem write_eq_ok_iff {v : Vault} {secrets : Secrets} {deadline : Option Instant} :
    (v.write secrets deadline).1 = .ok none ↔
      (∀ id ∈ secrets, v.live id = none) ∧ deadline.all (v.now < ·) := by
  have hnone : secrets.keys.filter v.has = [] ↔ ∀ id ∈ secrets, v.live id = none := by
    rw [List.filter_eq_nil_iff]
    simp only [Std.ExtTreeMap.mem_keys, has, Option.not_isSome_iff_eq_none]
  rw [← hnone, write]
  cases secrets.keys.filter v.has with
  | nil => by_cases hlasts : deadline.all (v.now < ·) <;> simp [hlasts]
  | cons id ids => simp

theorem write_of_error {v : Vault} {secrets : Secrets} {deadline : Option Instant}
    {refusal : Refusal} (h : (v.write secrets deadline).1 = .error refusal) :
    (v.write secrets deadline).2 = v.secrets := by
  rw [write] at h ⊢
  cases hfound : secrets.keys.filter v.has with
  | cons id ids => rfl
  | nil =>
    rw [hfound] at h
    by_cases hlasts : deadline.all (v.now < ·)
    · simp [hlasts] at h
    · simp [hlasts]

/-- A call that is refused changes nothing. -/
theorem advance_of_error {v : Vault} {progress : Progress} {refusal : Refusal}
    (h : (v.advance progress).1 = .answered (.error refusal)) :
    (v.advance progress).2 = v.secrets := by
  cases progress with
  | waiting call =>
    cases call with
    | set secrets ttl =>
      rw [advance] at h ⊢
      by_cases hpos : 0 < ttl
      · rw [if_pos hpos] at h ⊢
        cases v.now.ofSecondsAfter? ttl.toNat <;> rfl
      · rw [if_neg hpos] at h ⊢
        exact write_of_error (Progress.answered.inj h)
    | delete ids =>
      rw [advance, delete] at h ⊢
      by_cases hall : ids.all v.has
      · simp [hall] at h
      · simp [hall]
    | get id => rfl
  | granted secrets deadline => exact write_of_error (Progress.answered.inj h)
  | answered verdict => rfl

/-- What an event leaves. -/
def step (v : Vault) : Event → Vault
  | .wait instant => { v with now := instant }
  | .call call => { v with calls := v.calls ++ [.start call] }
  | .request i =>
    match v.calls[i]? with
    | none => v
    | some progress =>
      let (progress, secrets) := v.advance progress
      { v with secrets, calls := v.calls.set i progress }
  | .others => v

/-- What events leave. -/
def after (v : Vault) (events : List Event) : Vault := events.foldl step v

theorem step_request {v : Vault} {i : Nat} {progress : Progress} (h : v.calls[i]? = some progress) :
    v.step (.request i) =
      { v with
        secrets := (v.advance progress).2
        calls := v.calls.set i (v.advance progress).1 } := by
  simp only [step, h]

theorem after_concat (v : Vault) (events : List Event) (event : Event) :
    v.after (events ++ [event]) = (v.after events).step event := by
  rw [after, List.foldl_append]
  rfl

end Vault

end ClusterVault
