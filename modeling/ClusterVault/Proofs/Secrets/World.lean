import ClusterVault.Proofs.Cluster.Trusted
import ClusterVault.Proofs.Secrets.Stored

/-!
# Stores of secrets at work

Any number of calls on stores of secrets, on their way through the servers of one cluster. Each call
is the activity that the store makes of it, and a step of the world answers one request of one call.

## Main definitions

- `SecretStore.perform`: the activity of a call
- `World`: the time, the network and the calls
- `World.request?`: answers the next request of a call
- `World.Admits`: when a call can make requests
- `World.Foreign`: what others may do to the cluster
- `World.Step`, `World.Run`: what happens, once and all in all
- `World.play?`: a run that is computed

## Design notes

Requests of different calls come in any order, and any time may pass between two of them. Others may
do to the network what they like, as long as they leave the secrets and the leases of the calls
alone. The lease that a call has got is kept beside its activity, for only the activity knows it.
-/

namespace ClusterVault

namespace SecretStore

/-- What a call comes back with. -/
abbrev Answer := Except (NodeError EngineError) (Option Bytes)

/-- The activity of a call. -/
def perform (s : SecretStore) : SecretCall → Activity EngineError Answer
  | .set secrets ttl => Activity.bind (s.set secrets ttl) fun result => .done (result.map fun _ => none)
  | .delete ids => Activity.bind (s.delete ids) fun result => .done (result.map fun _ => none)
  | .get id => s.get id

end SecretStore

/-- A request that writes no key of a secret and revokes none of the leases. -/
def Command.LeavesSecrets (leases : LeaseId → Prop) : Command → Prop
  | .transact t => ∀ op ∈ t.success ++ t.failure, ∀ id, op.effectOn? (SecretStore.key id) = none
  | .revokeLease lease => ¬leases lease
  | _ => True

namespace World

/-- A call on its way. -/
structure Call where
  store : SecretStore
  call : SecretCall
  /-- The lease it has got, if it has got one. -/
  lease : Option LeaseId := none
  rest : Activity EngineError SecretStore.Answer

namespace Call

/-- A call that has just been made. -/
def start (store : SecretStore) (call : SecretCall) : Call :=
  { store, call, rest := store.perform call }

/-- The lease that a reply grants. -/
def leaseOfReply : (command : Command) → Except EngineError command.Reply → Option LeaseId
  | .grantLease _, .ok id => some id
  | _, _ => none

/-- The call after the reply to a request. -/
def resume (call : Call) (command : Command) (reply : Except EngineError command.Reply)
    (rest : Activity EngineError SecretStore.Answer) : Call :=
  { call with lease := (leaseOfReply command reply).or call.lease, rest }

/-- Answers the request that a call waits for, if it waits for one. -/
def request? (call : Call) (net : Network) (now : Instant) : Option (Network × Call) :=
  match call.rest with
  | .ask (.serve server user command) _ _ next =>
    let (net, reply) := net.serve now server.id user command
    some (net, call.resume command reply (next (.reply reply)))
  | _ => none

end Call

end World

/-- The time, the network and the calls. -/
structure World where
  now : Instant
  network : Network
  calls : List World.Call

namespace World

/-- Answers the next request of a call. -/
def request? (w : World) (i : Nat) : Option World := do
  let call ← w.calls[i]?
  let (network, call) ← call.request? w.network w.now
  return { w with network, calls := w.calls.set i call }

/-- The server of a call runs in the cluster and takes transactions of the size of the call, and the
    cluster trusts its user. -/
def Admits (w : World) (k : ClusterId) (i : Nat) : Prop :=
  ∃ call ∈ w.calls[i]?, ∃ limit ∈ w.network.limitAt? call.store.server.id k,
    ∃ c ∈ w.network.clusters[k]?, call.call.size ≤ limit ∧ c.access.Trusts call.store.user

instance (w : World) (k : ClusterId) (i : Nat) : Decidable (w.Admits k i) :=
  inferInstanceAs (Decidable (∃ call ∈ w.calls[i]?,
    ∃ limit ∈ w.network.limitAt? call.store.server.id k,
      ∃ c ∈ w.network.clusters[k]?, call.call.size ≤ limit ∧ c.access.Trusts call.store.user))

/-- The lease is used for secrets, by a call or in the keyspace. -/
def UsesLease (w : World) (ks : Keyspace) (lease : LeaseId) : Prop :=
  (∃ call ∈ w.calls, call.lease = some lease) ∨ ks.Secures lease

/-- What others may do to the cluster. -/
inductive Foreign (w : World) (c : Cluster) : Cluster → Prop
  | nothing : Foreign w c c
  | serve (user : String) (limit : Nat) (command : Command)
    (h : command.LeavesSecrets (w.UsesLease c.keyspace)) :
    Foreign w c (c.serve user w.now limit command).2
  | manage (user : String) (ids : IdSource) (command : MemberCommand) :
    Foreign w c (c.manage user w.now ids command).2.2
  | register (members : List Member) : Foreign w c { c with members }

/-- One thing that happens. -/
inductive Step (k : ClusterId) : World → Vault.Event → World → Prop
  | wait {w : World} {instant : Instant} (h : w.now ≤ instant) :
    Step k w (.wait instant) { w with now := instant }
  | call (w : World) (store : SecretStore) (call : SecretCall) :
    Step k w (.call call) { w with calls := w.calls ++ [.start store call] }
  | request {w w' : World} {i : Nat} (hadmits : w.Admits k i) (h : w.request? i = some w') :
    Step k w (.request i) w'
  | others {w : World} {network : Network} {c c' : Cluster}
    (hc : w.network.clusters[k]? = some c) (hc' : network.clusters[k]? = some c')
    (h : w.Foreign c c') : Step k w .others { w with network }

/-- All that happens, in order. -/
inductive Run (k : ClusterId) : World → List Vault.Event → World → Prop
  | nil (w : World) : Run k w [] w
  | snoc {w w' w'' : World} {events : List Vault.Event} {event : Vault.Event} :
    Run k w events w' → Step k w' event w'' → Run k w (events ++ [event]) w''

variable {k : ClusterId} {store : SecretStore} {w w' w'' : World}
  {events events' : List Vault.Event} {event : Vault.Event}

theorem Run.trans (h : Run k w events w') (h' : Run k w' events' w'') :
    Run k w (events ++ events') w'' := by
  induction h' with
  | nil => simpa using h
  | snoc _ hstep ih =>
    rw [← List.append_assoc]
    exact ih.snoc hstep

/-! ## Playing runs -/

/-- What an event leaves that can happen now, with one store for all calls and without others. -/
def follow? (k : ClusterId) (store : SecretStore) (w : World) : Vault.Event → Option World
  | .wait instant => if w.now ≤ instant then some { w with now := instant } else none
  | .call call => some { w with calls := w.calls ++ [.start store call] }
  | .request i => if w.Admits k i then w.request? i else none
  | .others => none

/-- What events leave that can happen one after the other. -/
def play? (k : ClusterId) (store : SecretStore) (w : World) : List Vault.Event → Option World
  | [] => some w
  | event :: events => (w.follow? k store event).bind (play? k store · events)

theorem step_of_follow? (h : w.follow? k store event = some w') : Step k w event w' := by
  cases event with
  | wait instant =>
    rw [follow?] at h
    split at h
    · next hle =>
      cases h
      exact .wait hle
    · cases h
  | call call =>
    cases h
    exact .call w store call
  | request i =>
    rw [follow?] at h
    split at h
    · next hadmits => exact .request hadmits h
    · cases h
  | others => cases h

theorem run_of_play? (h : w.play? k store events = some w') : Run k w events w' := by
  induction events generalizing w with
  | nil =>
    cases h
    exact .nil _
  | cons event events ih =>
    obtain ⟨mid, hmid, hrest⟩ := Option.bind_eq_some_iff.1 h
    exact ((Run.nil w).snoc (step_of_follow? hmid)).trans (ih hrest)

end World

end ClusterVault
