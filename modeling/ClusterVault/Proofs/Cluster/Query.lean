import ClusterVault.Proofs.Cluster.Transaction
import Mathlib.Control.Monad.Basic
import Mathlib.Data.Sigma.Basic

/-!
# What comes to a cluster

A cluster is asked things from four sides: through its servers, through clients, by servers that
join it and by servers that come back. In each case it looks at the clock and then answers. This
module takes the two apart and says once what an answer can do to the keyspace.

## Main definitions

- `Query`, `Query.Reply`, `Query.Answer`: what a cluster is asked, and what it answers
- `Cluster.ask`: the answer to a query at an instant
- `Cluster.respond`: the answer without the look at the clock
- `Query.Answer.operations`, `Query.Answer.Revokes`: what an answer tells of its effect

## Design notes

The operations that a transaction has run can be read off its answer, since the answer tells which
branch was taken.
-/

namespace ClusterVault

instance : (command : Command) → DecidableEq command.Reply
  | .transact _ => inferInstanceAs (DecidableEq Transaction.Result)
  | .grantLease _ => inferInstanceAs (DecidableEq LeaseId)
  | .authStatus => inferInstanceAs (DecidableEq Bool)
  | .revokeLease _ | .addRole _ | .grantPermission .. | .addUser .. | .grantRole .. | .enableAuth =>
    inferInstanceAs (DecidableEq Unit)

instance : (command : MemberCommand) → DecidableEq command.Reply
  | .add _ => inferInstanceAs (DecidableEq Member)
  | .list | .remove _ => inferInstanceAs (DecidableEq (List Member))

/-- What a cluster is asked. -/
inductive Query where
  | serve (user : String) (limit : Nat) (command : Command)
  | manage (user : String) (command : MemberCommand)
  /-- A server joins as the member that is registered under one of its URLs. -/
  | attach (name : String) (peerUrls clientUrls : List Url)
  /-- A server comes back, and asks if it is still a member. -/
  | lookUp (member : Nat)
  deriving DecidableEq

namespace Query

/-- What a query is answered with. -/
def Reply : Query → Type
  | serve _ _ command => Except EngineError command.Reply
  | manage _ command => Except EngineError command.Reply
  | attach .. => Except EngineError Nat
  | lookUp _ => Bool

instance : (q : Query) → DecidableEq q.Reply
  | .serve _ _ command => inferInstanceAs (DecidableEq (Except EngineError command.Reply))
  | .manage _ command => inferInstanceAs (DecidableEq (Except EngineError command.Reply))
  | .attach .. => inferInstanceAs (DecidableEq (Except EngineError Nat))
  | .lookUp _ => inferInstanceAs (DecidableEq Bool)

/-- The user who asks, if it is a user. -/
def user? : Query → Option String
  | serve user .. => some user
  | manage user _ => some user
  | _ => none

end Query

/-- A query with its answer. -/
abbrev Query.Answer := (q : Query) × q.Reply

namespace Query.Answer

/-- The operations that were run for an answer. -/
def operations : Query.Answer → List Operation
  | ⟨.serve _ _ (.transact t), .ok result⟩ => Cluster.ranOperations t result
  | _ => []

/-- The answer tells that a lease was revoked. -/
def Revokes (id : LeaseId) : Query.Answer → Prop
  | ⟨.serve _ _ (.revokeLease id'), .ok _⟩ => id' = id
  | _ => False

end Query.Answer

namespace Cluster

/-- The answer to a query at an instant, and what is left after it. -/
def ask (c : Cluster) (now : Instant) (ids : IdSource) : (q : Query) → q.Reply × IdSource × Cluster
  | .serve user limit command =>
    let (reply, c) := c.serve user now limit command
    (reply, ids, c)
  | .manage user command => c.manage user now ids command
  | .attach name peerUrls clientUrls =>
    let c := c.expire now
    match c.attachMember name peerUrls clientUrls with
    | .ok (member, c) => (.ok member, ids, c)
    | .error e => (.error e, ids, c)
  | .lookUp member =>
    let c := c.expire now
    (c.hasMember member, ids, c)

/-- The answer to a query of a cluster that does not look at the clock. The instant only decides when
    a new lease ends. -/
def respond (c : Cluster) (now : Instant) (ids : IdSource) :
    (q : Query) → q.Reply × IdSource × Cluster
  | .serve user limit command =>
    match c.handle user now limit command with
    | .ok (reply, c') => (.ok reply, ids, c')
    | .error e => (.error e, ids, c)
  | .manage user command => c.changeRegistry user ids command
  | .attach name peerUrls clientUrls =>
    match c.attachMember name peerUrls clientUrls with
    | .ok (member, c') => (.ok member, ids, c')
    | .error e => (.error e, ids, c)
  | .lookUp member => (c.hasMember member, ids, c)

variable {c c' : Cluster} {user : String} {now : Instant} {limit : Nat} {ids ids' : IdSource}
  {q : Query} {reply : q.Reply}

/-- To ask a cluster is to let it look at the clock and then answer. -/
theorem ask_eq_respond (c : Cluster) (now : Instant) (ids : IdSource) (q : Query) :
    c.ask now ids q = (c.expire now).respond now ids q := by
  cases q with
  | serve user limit command =>
    show (let (reply, c') := c.serve user now limit command; (reply, ids, c')) = _
    cases h : (c.expire now).handle user now limit command with
    | error e =>
      rw [serve_of_handle_eq_error h, respond, h]
      rfl
    | ok answer =>
      rw [serve_of_handle_eq_ok h, respond, h]
      rfl
  | manage user command => exact manage_eq_changeRegistry c user now ids command
  | attach name peerUrls clientUrls => rfl
  | lookUp member => rfl

theorem lt_of_grantLease_eq_ok {ttl : Int} {id : LeaseId}
    (h : c.grantLease user now ttl = .ok (id, c')) :
    ∃ deadline, now < deadline ∧ c' = { c with keyspace := c.keyspace.grantLease deadline } := by
  obtain ⟨deadline, hdeadline, -, hc'⟩ := grantLease_eq_ok h
  refine ⟨deadline, ?_, hc'⟩
  have hpos : 0 < ttl := by
    by_contra hnonpos
    have hle : ttl ≤ 0 := by omega
    obtain ⟨_, -, hgrant⟩ := bind_eq_ok.1 h
    rw [if_pos hle] at hgrant
    cases hgrant
  rw [Instant.ofSecondsAfter?] at hdeadline
  split at hdeadline
  · cases hdeadline
    have hmillis : 0 < ttl.toNat * 1000 := by omega
    exact Nat.lt_add_of_pos_right hmillis
  · cases hdeadline

theorem keyspace_attachMember {name : String} {peerUrls clientUrls : List Url} {member : Nat}
    (h : c.attachMember name peerUrls clientUrls = .ok (member, c')) : c'.keyspace = c.keyspace := by
  unfold attachMember at h
  split at h
  · cases h
  · cases h
    rfl

theorem operations_serve {command : Command} {reply : command.Reply}
    (h : c.handle user now limit command = .ok (reply, c')) :
    Query.Answer.operations ⟨.serve user limit command, .ok reply⟩ = c.operationsOf command := by
  cases command with
  | transact t =>
    obtain ⟨-, haccepted⟩ := transact_eq_ok h
    cases haccepted
    rfl
  | _ => rfl

/-- A request of a user is refused and changes nothing, or it is carried out. -/
theorem respond_serve_cases {command : Command} {reply : Except EngineError command.Reply}
    (h : c.respond now ids (.serve user limit command) = (reply, ids', c')) :
    (∃ e, reply = .error e ∧ c' = c) ∨
      ∃ result, reply = .ok result ∧ c.handle user now limit command = .ok (result, c') := by
  rw [respond] at h
  cases hhandle : c.handle user now limit command with
  | error e =>
    rw [hhandle] at h
    cases h
    exact .inl ⟨e, rfl, rfl⟩
  | ok answer =>
    rw [hhandle] at h
    cases h
    exact .inr ⟨answer.1, rfl, rfl⟩

/-- All that an answer can do to the keyspace, together with what it tells of that. -/
theorem keyspace_respond_cases (h : c.respond now ids q = (reply, ids', c')) :
    (∃ t, c.keyspace.LeasesExist (c.branch t) ∧ Query.Answer.operations ⟨q, reply⟩ = c.branch t ∧
      c'.keyspace = (c.keyspace.commit (c.branch t)).2) ∨
    (∃ deadline, now < deadline ∧ Query.Answer.operations ⟨q, reply⟩ = [] ∧
      c'.keyspace = c.keyspace.grantLease deadline) ∨
    (∃ id, Query.Answer.Revokes id ⟨q, reply⟩ ∧ Query.Answer.operations ⟨q, reply⟩ = [] ∧
      c'.keyspace = c.keyspace.dropLease id) ∨
    (Query.Answer.operations ⟨q, reply⟩ = [] ∧ c'.keyspace = c.keyspace) := by
  cases q with
  | serve user limit command =>
    rcases respond_serve_cases h with ⟨e, rfl, rfl⟩ | ⟨result, rfl, hhandle⟩
    · refine .inr (.inr (.inr ⟨?_, rfl⟩))
      cases command <;> rfl
    · have hops := operations_serve hhandle
      rcases handle_cases hhandle with ⟨t, rfl, hlease, heq⟩ | ⟨ttl, -, rfl, -⟩ | ⟨id, rfl, heq⟩ |
        ⟨hnone, heq⟩
      · exact .inl ⟨t, hlease, hops, heq⟩
      · obtain ⟨deadline, hlt, hc'⟩ := lt_of_grantLease_eq_ok hhandle
        rw [hc']
        exact .inr (.inl ⟨deadline, hlt, hops, rfl⟩)
      · exact .inr (.inr (.inl ⟨id, rfl, hops, heq⟩))
      · exact .inr (.inr (.inr ⟨hops.trans hnone, heq⟩))
  | manage user command =>
    -- the registry has nothing to do with the keys
    obtain ⟨members, hmembers⟩ := c.changeRegistry_eq user ids command
    have hc' : c' = { c with members } := (congrArg (·.2.2) h).symm.trans hmembers
    exact .inr (.inr (.inr ⟨rfl, by rw [hc']⟩))
  | attach name peerUrls clientUrls =>
    rw [respond] at h
    split at h
    · next hattach =>
      cases h
      exact .inr (.inr (.inr ⟨rfl, keyspace_attachMember hattach⟩))
    · cases h
      exact .inr (.inr (.inr ⟨rfl, rfl⟩))
  | lookUp member =>
    cases h
    exact .inr (.inr (.inr ⟨rfl, rfl⟩))

end Cluster

end ClusterVault
