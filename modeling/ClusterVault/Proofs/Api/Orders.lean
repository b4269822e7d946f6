import ClusterVault.Api.Secrets
import ClusterVault.Proofs.Secrets.Replies

/-!
# What becomes of an order

An order to write or to delete secrets is one transaction. Before it, a write may be granted a lease,
and after it the lease may be revoked. This module reads off these requests what becomes of the order,
whatever they are answered and whatever others do in between.

## Main definitions

- `SecretsApi.Order`: what can be ordered
- `SecretsApi.Order.Allows`: whether the secrets that there are allow an order
- `SecretsApi.Order.Ran`, `SecretsApi.Order.Refused`: what a request of an order has come to
- `SecretsApi.Order.Fulfilled`: what an order leaves that was carried out
- `SecretsApi.Order.Outcome`: what has become of an order
- `SecretsApi.Order.Course`: the requests of an order whose transaction was made

## Main statements

- `SecretsApi.Order.cluster_cases`: what the transaction of an order comes to
- `SecretsApi.Order.Outcome.of_course`: the reply to the transaction decides what becomes of an order
- `SecretsApi.Order.Outcome.untouched`: an order that fails changes no secrets
-/

namespace ClusterVault.SecretsApi

/-- What can be ordered. -/
inductive Order where
  /-- Writes all secrets, which end after `ttl` seconds if that is positive. -/
  | write (secrets : Secrets) (ttl : Int)
  | delete (ids : List String)

namespace Order

/-- What a store makes of an order. -/
def call : Order → SecretCall
  | write secrets ttl => .set secrets ttl
  | delete ids => .delete ids

/-- The order names an id. -/
def Names (o : Order) (id : String) : Prop :=
  match o with
  | write secrets _ => id ∈ secrets
  | delete ids => id ∈ ids

/-- The transaction of an order. Secrets that are written may end with a lease. -/
def transaction (o : Order) (lease : Option LeaseId) : Transaction :=
  match o with
  | write secrets _ => SecretStore.writing secrets.toList lease
  | delete ids => SecretStore.deleting ids

/-- Secrets are written only if none of them is there, and deleted only if all are. -/
def Allows (kept : String → Option Secret) : Order → Prop
  | write secrets _ => ∀ id ∈ secrets, kept id = none
  | delete ids => ∀ id ∈ ids, (kept id).isSome

/-- Why an order fails that is not allowed. -/
def obstacle (kept : String → Option Secret) : Order → NodeError EngineError
  | write secrets _ => .secretsExist (secrets.keys.filter fun id => (kept id).isSome)
  | delete _ => .secretsMissing

/-- The secrets that there are when an order was carried out. -/
def carriedOut (deadline : Option Instant) (kept : String → Option Secret) (id : String) :
    Order → Option Secret
  | write secrets _ => (secrets[id]?.map (⟨·, deadline⟩)).or (kept id)
  | delete ids => if id ∈ ids then none else kept id

/-- What a store makes of the reply to the transaction. -/
def verdict : Order → Except EngineError Transaction.Result → SecretStore.Answer
  | write secrets _, reply => (SecretStore.written secrets.toList reply).map fun _ => none
  | delete _, .error e => .error (.engine .writing e)
  | delete _, .ok result => if result.succeeded then .ok none else .error .secretsMissing

end Order

end SecretsApi

/-- The secrets that the server of a store has when a request is answered. -/
def Answer.kept (a : Answer) (site : Site) (s : SecretStore) (id : String) : Option Secret :=
  (a.before.network site.servers).secretAt s.server.id a.now id

namespace SecretsApi.Order

/-- The engine has run the transaction of an order. -/
def Ran (o : Order) (s : SecretStore) (a : Answer) : Prop :=
  ∃ lease result, a.Replies s (.transact (o.transaction lease)) (.ok result)

/-- A request without which an order cannot be carried out was refused. -/
def Refused (o : Order) (s : SecretStore) (a : Answer) (e : NodeError EngineError) : Prop :=
  (∃ lease cause, a.Replies s (.transact (o.transaction lease)) (.error cause) ∧
    e = .engine .writing cause) ∨
  ∃ secrets ttl cause, o = .write secrets ttl ∧ a.Replies s (.grantLease ttl) (.error cause) ∧
    e = .engine .creatingLease cause

/-- The deadline that an order asks for, counted from when the lease was granted. -/
def Due (o : Order) (s : SecretStore) (log : List Answer) (deadline : Option Instant) : Prop :=
  match o with
  | write _ ttl =>
    if 0 < ttl then ∃ g ∈ log, ∃ lease, g.Replies s (.grantLease ttl) (.ok lease) ∧
      deadline.isSome ∧ deadline = g.now.ofSecondsAfter? ttl.toNat
    else deadline = none
  | delete _ => deadline = none

/-- An order was carried out by the transaction that was answered so. -/
structure Fulfilled (o : Order) (site : Site) (s : SecretStore) (log : List Answer) (a : Answer)
    (deadline : Option Instant) : Prop where
  due : o.Due s log deadline
  kept : ∀ now id, (a.after.network site.servers).secretAt s.server.id now id =
    (o.carriedOut deadline (a.kept site s) id).filter (·.isLive now)
  reads : ∀ (d : Deployment), d.network site.servers = a.after.network site.servers →
    ∀ now id, o.Names id → d.Reads site s now id
      (((o.carriedOut deadline (a.kept site s) id).filter (·.isLive now)).map (·.value))

/-- What has become of an order. -/
structure Outcome (o : Order) (site : Site) (s : SecretStore) (log : List Answer)
    (answer : SecretStore.Answer) : Prop where
  given : ∀ a ∈ log, a.Given site ∧ (a.before.network site.servers).Rooted
  /-- Nothing is asked for but a lease, the transaction and the end of a lease. -/
  requests : ∀ a ∈ log, (∃ ttl reply, a.Replies s (.grantLease ttl) reply) ∨
    (∃ lease reply, a.Replies s (.transact (o.transaction lease)) reply) ∨
    ∃ lease reply, a.Replies s (.revokeLease lease) reply
  idle : o.call.size = 0 → log = [] ∧ answer = .ok none
  /-- Otherwise the engine has run the transaction, or something was refused. -/
  told : o.call.size ≠ 0 → (∃ a ∈ log, o.Ran s a) ∨ ∃ a ∈ log, ∃ e, o.Refused s a e
  ran : ∀ a ∈ log, o.Ran s a →
    (o.Allows (a.kept site s) ∧ answer = .ok none ∧ ∃ deadline, o.Fulfilled site s log a deadline) ∨
    (¬o.Allows (a.kept site s) ∧ answer = .error (o.obstacle (a.kept site s)) ∧
      Deployment.KeepsSecrets a.now a.before a.after)
  refused : ∀ a ∈ log, ∀ e, o.Refused s a e → answer = .error e
  /-- After an order was carried out, nothing more is asked for. -/
  last : ∀ a ∈ log, o.Ran s a → o.Allows (a.kept site s) → ∃ earlier, log = earlier ++ [a]
  /-- Only a lease is revoked that was granted for a transaction that has failed. -/
  revoked : ∀ r ∈ log, ∀ l ended, r.Replies s (.revokeLease l) ended →
    ∃ g a ttl reply, log = [g, a, r] ∧ g.Replies s (.grantLease ttl) (.ok l) ∧
      a.Replies s (.transact (o.transaction (some l))) reply ∧ o.verdict reply ≠ .ok none

variable {o : Order} {site : Site} {s : SecretStore} {d : Deployment} {log : List Answer}
  {answer : SecretStore.Answer} {a : Answer} {lease : Option LeaseId} {result : Transaction.Result}
  {secrets : Secrets} {ttl : Int}

open SecretStore (writing deleting written key)

theorem verdict_error (o : Order) (e : EngineError) :
    o.verdict (.error e) = .error (.engine .writing e) := by
  cases o <;> rfl

/-! ## The transaction of an order -/

theorem le_maxBranchLength (hsize : o.call.size ≠ 0) (lease : Option LeaseId) :
    1 ≤ (o.transaction lease).maxBranchLength := by
  cases o with
  | write secrets ttl =>
    show 1 ≤ (writing secrets.toList lease).maxBranchLength
    rw [Cluster.maxBranchLength_writing]
    exact Nat.one_le_iff_ne_zero.2 hsize
  | delete ids =>
    show 1 ≤ (deleting ids).maxBranchLength
    rw [Cluster.maxBranchLength_deleting]
    exact Nat.one_le_iff_ne_zero.2 hsize

/-- An order looks for the secrets that it names. -/
theorem mem_demands {id : String} (hid : o.Names id) (lease : Option LeaseId) :
    (.read, key id) ∈ Cluster.demands (o.transaction lease) := by
  refine List.mem_append_left _ (List.mem_map.2 ?_)
  cases o with
  | write secrets ttl =>
    have hmem : id ∈ secrets.toList.map (·.1) := by
      rw [Std.ExtTreeMap.map_fst_toList_eq_keys]
      exact Std.ExtTreeMap.mem_keys.2 hid
    obtain ⟨entry, hentry, rfl⟩ := List.mem_map.1 hmem
    exact ⟨_, List.mem_map_of_mem hentry, rfl⟩
  | delete ids => exact ⟨_, List.mem_map_of_mem hid, rfl⟩

/-- What a transaction comes to that was run: either the order is carried out, or it is not allowed and
    nothing changes. -/
theorem cluster_cases {c c' : Cluster} {user : String} {now : Instant} {limit : Nat}
    (hc : c.keyspace.Consistent) (hsize : o.call.size ≠ 0)
    (h : c.serve user now limit (.transact (o.transaction lease)) = (.ok result, c')) :
    (o.Allows (c.secretAt now) ∧ o.verdict (.ok result) = .ok none ∧
      (∀ secrets ttl l, o = .write secrets ttl → lease = some l →
        ((c.expire now).keyspace.deadline? l).isSome) ∧
      ∀ id, c'.keyspace.secret? id = o.carriedOut
        (lease.bind (c.expire now).keyspace.deadline?) (c.secretAt now) id) ∨
    (¬o.Allows (c.secretAt now) ∧ o.verdict (.ok result) = .error (o.obstacle (c.secretAt now)) ∧
      c' = c.expire now) := by
  cases o with
  | write secrets ttl =>
    rcases Cluster.writing_cases hc hsize h with
      ⟨found, rfl, hne, hwritten, hsame⟩ | ⟨hnone, hwritten, hexist, hkept⟩
    · refine .inr ⟨fun hallows => ?_, ?_, hsame⟩
      · obtain ⟨id, hid⟩ := List.exists_mem_of_ne_nil _ hne
        obtain ⟨hmem, hthere⟩ := List.mem_filter.1 hid
        rw [hallows id (Std.ExtTreeMap.mem_keys.1 hmem)] at hthere
        cases hthere
      · show (written secrets.toList (.ok result)).map _ = _
        rw [hwritten]
        rfl
    · refine .inl ⟨hnone, ?_, fun _ _ l _ hl => hexist l hl, hkept⟩
      show (written secrets.toList (.ok result)).map _ = _
      rw [hwritten]
      rfl
  | delete ids =>
    rcases Cluster.deleting_cases hc h with
      ⟨hfailed, ⟨id, hid, hnone⟩, hsame⟩ | ⟨hsucceeded, hall, hkept⟩
    · refine .inr ⟨fun hallows => ?_, by simp [verdict, hfailed, obstacle], hsame⟩
      have hthere := hallows id hid
      rw [hnone] at hthere
      cases hthere
    · exact .inl ⟨hall, by simp [verdict, hsucceeded], nofun, hkept⟩

/-- A deadline is that of the lease that secrets are written with, if there is one. -/
def Lasts (site : Site) (s : SecretStore) (a : Answer) (lease : Option LeaseId)
    (deadline : Option Instant) : Prop :=
  match lease with
  | none => deadline = none
  | some l =>
    deadline.isSome ∧ (a.before.network site.servers).deadlineAt s.server.id l = deadline

/-- What the request that runs an order does to the secrets of the server. -/
theorem answer_cases (hgiven : a.Given site) (hrooted : (a.before.network site.servers).Rooted)
    (hsize : o.call.size ≠ 0) (h : a.Replies s (.transact (o.transaction lease)) (.ok result)) :
    (o.Allows (a.kept site s) ∧ o.verdict (.ok result) = .ok none ∧
      ∃ deadline, (∀ secrets ttl, o = .write secrets ttl → Lasts site s a lease deadline) ∧
      ∀ now id, (a.after.network site.servers).secretAt s.server.id now id =
        (o.carriedOut deadline (a.kept site s) id).filter (·.isLive now)) ∨
    (¬o.Allows (a.kept site s) ∧ o.verdict (.ok result) = .error (o.obstacle (a.kept site s)) ∧
      Deployment.KeepsSecrets a.now a.before a.after) := by
  rcases h.cases hgiven with ⟨b, limit, c, c', -, hb, hc, hserve, hafter⟩ | ⟨⟨e, he⟩, -⟩
  · have hhome := Network.home?_of_membership? hb hc
    have hconsistent := hrooted.consistent_home? hhome
    have hkept : a.kept site s = c.secretAt a.now := by
      funext id
      rw [Answer.kept, Network.secretAt, hhome, Option.bind_some]
    rw [hkept]
    rcases cluster_cases hconsistent hsize hserve with
      ⟨hallows, hverdict, hexist, hresult⟩ | ⟨hallows, hverdict, hsame⟩
    · refine .inl ⟨hallows, hverdict, lease.bind (c.expire a.now).keyspace.deadline?, ?_,
        fun now id => ?_⟩
      · rintro secrets ttl ho
        cases lease with
        | none => rfl
        | some l =>
          have hthere := hexist secrets ttl l ho rfl
          refine ⟨hthere, ?_⟩
          -- a lease that is still there after a look at the clock has kept its deadline
          obtain ⟨deadline, hdeadline⟩ := Option.isSome_iff_exists.1 hthere
          rw [Option.bind_some, hdeadline]
          rw [Cluster.expire, Keyspace.deadline?_expire, Option.filter_eq_some_iff] at hdeadline
          rw [Network.deadlineAt, hhome, Option.bind_some, hdeadline.1]
      · rw [Network.secretAt, hafter, Network.home?_setCluster hb hc, Option.bind_some,
          Cluster.secretAt, hresult]
    · refine .inr ⟨hallows, hverdict, h.keepsSecrets hgiven ?_⟩
      intro c₀ c₁ limit' hc₀ hserve'
      rw [hhome] at hc₀
      cases hc₀
      -- the limit may be another one, but what there is to be told is not
      rcases cluster_cases hconsistent hsize hserve' with ⟨hallows', -⟩ | ⟨-, -, rfl⟩
      · exact absurd hallows' hallows
      · exact Cluster.keepsSecrets_expire hconsistent a.now
  · cases he

/-- An order whose secrets are as its transaction says was carried out. They are read so, too. -/
theorem Fulfilled.of_replies {deadline : Option Instant} (hgiven : a.Given site)
    (hrooted : (a.before.network site.servers).Rooted) (hsize : o.call.size ≠ 0)
    (h : a.Replies s (.transact (o.transaction lease)) (.ok result)) (hdue : o.Due s log deadline)
    (hkept : ∀ now id, (a.after.network site.servers).secretAt s.server.id now id =
      (o.carriedOut deadline (a.kept site s) id).filter (·.isLive now)) :
    o.Fulfilled site s log a deadline where
  due := hdue
  kept := hkept
  reads d hd now id hid := by
    rw [← hkept]
    exact h.reads hgiven hrooted (le_maxBranchLength hsize lease) (mem_demands hid lease) hd now

/-! ## The requests of an order -/

theorem not_ran_of_replies_grantLease {lease : Except EngineError LeaseId}
    (h : a.Replies s (.grantLease ttl) lease) : ¬o.Ran s a := by
  rintro ⟨lease', result, hran⟩
  cases h.unique hran

theorem not_ran_of_replies_revokeLease {l : LeaseId} {ended : Except EngineError Unit}
    (h : a.Replies s (.revokeLease l) ended) : ¬o.Ran s a := by
  rintro ⟨lease', result, hran⟩
  cases h.unique hran

theorem not_refused_of_granted {e : NodeError EngineError} {l : LeaseId}
    (h : a.Replies s (.grantLease ttl) (.ok l)) : ¬o.Refused s a e := by
  rintro (⟨lease, cause, hreplies, -⟩ | ⟨secrets, ttl', cause, -, hreplies, -⟩)
  · cases h.unique hreplies
  · cases h.unique hreplies

theorem not_refused_of_revokeLease {e : NodeError EngineError} {l : LeaseId}
    {ended : Except EngineError Unit} (h : a.Replies s (.revokeLease l) ended) :
    ¬o.Refused s a e := by
  rintro (⟨lease, cause, hreplies, -⟩ | ⟨secrets, ttl, cause, -, hreplies, -⟩)
  · cases h.unique hreplies
  · cases h.unique hreplies

/-- An order whose lease was refused has not been carried out. -/
theorem Outcome.of_not_granted {g : Answer} {cause : EngineError}
    (hgiven : g.Given site ∧ (g.before.network site.servers).Rooted)
    (hsize : secrets.size ≠ 0) (h : g.Replies s (.grantLease ttl) (.error cause)) :
    Outcome (.write secrets ttl) site s [g] (.error (.engine .creatingLease cause)) where
  given := List.forall_mem_singleton.2 hgiven
  requests := List.forall_mem_singleton.2 (.inl ⟨ttl, _, h⟩)
  idle hzero := absurd hzero hsize
  told _ := .inr ⟨g, List.mem_singleton_self g, _, .inr ⟨secrets, ttl, cause, rfl, h, rfl⟩⟩
  ran := List.forall_mem_singleton.2 fun hran => absurd hran (not_ran_of_replies_grantLease h)
  refused := by
    refine List.forall_mem_singleton.2 ?_
    rintro e (⟨lease, cause', hreplies, -⟩ | ⟨secrets', ttl', cause', -, hreplies, rfl⟩)
    · cases h.unique hreplies
    · cases h.unique hreplies
      rfl
  last := List.forall_mem_singleton.2 fun hran => absurd hran (not_ran_of_replies_grantLease h)
  revoked := List.forall_mem_singleton.2 fun _ _ hreplies => by cases h.unique hreplies

/-- The requests of an order whose transaction was made: a lease may have been granted before, and is
    revoked if the order fails. -/
inductive Course (o : Order) (s : SecretStore) (reply : Except EngineError Transaction.Result)
    (a : Answer) : Option LeaseId → List Answer → Prop
  | direct : Course o s reply a none [a]
  | granted {g : Answer} {ttl : Int} {l : LeaseId}
    (hgranted : g.Replies s (.grantLease ttl) (.ok l)) : Course o s reply a (some l) [g, a]
  | revoked {g r : Answer} {ttl : Int} {l : LeaseId} {ended : Except EngineError Unit}
    (hgranted : g.Replies s (.grantLease ttl) (.ok l)) (hfailed : o.verdict reply ≠ .ok none)
    (hrevoked : r.Replies s (.revokeLease l) ended) : Course o s reply a (some l) [g, a, r]

section Course

variable {b : Answer} {reply : Except EngineError Transaction.Result}
  (hcourse : Course o s reply a lease log)

include hcourse

theorem Course.mem : a ∈ log := by
  cases hcourse with
  | direct => exact List.mem_singleton_self a
  | granted | revoked => exact List.mem_cons_of_mem _ List.mem_cons_self

theorem Course.cases_of_mem (hb : b ∈ log) :
    b = a ∨ (∃ ttl l, b.Replies s (.grantLease ttl) (.ok l)) ∨
      ∃ l ended, b.Replies s (.revokeLease l) ended := by
  cases hcourse with
  | direct => exact .inl (List.mem_singleton.1 hb)
  | @granted g ttl l hgranted =>
    rcases List.mem_cons.1 hb with rfl | hb
    · exact .inr (.inl ⟨ttl, l, hgranted⟩)
    · exact .inl (List.mem_singleton.1 hb)
  | @revoked g r ttl l ended hgranted _ hrevoked =>
    rcases List.mem_cons.1 hb with rfl | hb
    · exact .inr (.inl ⟨ttl, l, hgranted⟩)
    · rcases List.mem_cons.1 hb with rfl | hb
      · exact .inl rfl
      · obtain rfl := List.mem_singleton.1 hb
        exact .inr (.inr ⟨l, ended, hrevoked⟩)

/-- Only the transaction itself can have run the order. -/
theorem Course.eq_of_ran (hb : b ∈ log) (hran : o.Ran s b) : b = a := by
  rcases hcourse.cases_of_mem hb with heq | ⟨ttl, l, hreplies⟩ | ⟨l, ended, hreplies⟩
  · exact heq
  · exact absurd hran (not_ran_of_replies_grantLease hreplies)
  · exact absurd hran (not_ran_of_replies_revokeLease hreplies)

theorem Course.eq_of_refused {e : NodeError EngineError} (hb : b ∈ log)
    (hrefused : o.Refused s b e) : b = a := by
  rcases hcourse.cases_of_mem hb with heq | ⟨ttl, l, hreplies⟩ | ⟨l, ended, hreplies⟩
  · exact heq
  · exact absurd hrefused (not_refused_of_granted hreplies)
  · exact absurd hrefused (not_refused_of_revokeLease hreplies)

/-- Nothing is asked for after a transaction that has carried out an order. -/
theorem Course.ends_of_verdict (hok : o.verdict reply = .ok none) :
    ∃ earlier, log = earlier ++ [a] := by
  cases hcourse with
  | direct => exact ⟨[], rfl⟩
  | @granted g _ _ _ => exact ⟨[g], rfl⟩
  | revoked _ hfailed _ => exact absurd hok hfailed

/-- Only the lease of a transaction that has failed is revoked. -/
theorem Course.eq_of_revoked (h : a.Replies s (.transact (o.transaction lease)) reply)
    {l : LeaseId} {ended : Except EngineError Unit} (hb : b ∈ log)
    (hreplies : b.Replies s (.revokeLease l) ended) :
    lease = some l ∧ o.verdict reply ≠ .ok none ∧
      ∃ g ttl, log = [g, a, b] ∧ g.Replies s (.grantLease ttl) (.ok l) := by
  cases hcourse with
  | direct =>
    obtain rfl := List.mem_singleton.1 hb
    cases h.unique hreplies
  | granted hgranted =>
    rcases List.mem_cons.1 hb with rfl | hb
    · cases hgranted.unique hreplies
    · obtain rfl := List.mem_singleton.1 hb
      cases h.unique hreplies
  | @revoked g r ttl l' ended' hgranted hfailed hrevoked =>
    rcases List.mem_cons.1 hb with rfl | hb
    · cases hgranted.unique hreplies
    · rcases List.mem_cons.1 hb with rfl | hb
      · cases h.unique hreplies
      · obtain rfl := List.mem_singleton.1 hb
        cases hreplies.unique hrevoked
        exact ⟨rfl, hfailed, g, ttl, rfl, hgranted⟩

/-- An order of which a transaction was made is what the reply to it says. -/
theorem Outcome.of_course
    (hgiven : ∀ b ∈ log, b.Given site ∧ (b.before.network site.servers).Rooted)
    (hsize : o.call.size ≠ 0) (h : a.Replies s (.transact (o.transaction lease)) reply)
    (hdue : ∀ secrets ttl deadline, o = .write secrets ttl → Lasts site s a lease deadline →
      o.Due s log deadline) :
    Outcome o site s log (o.verdict reply) := by
  obtain ⟨hagiven, hrooted⟩ := hgiven a hcourse.mem
  refine ⟨hgiven, ?requests, fun hzero => absurd hzero hsize, ?told, ?ran, ?refused, ?last, ?revoked⟩
  case requests =>
    intro b hb
    rcases hcourse.cases_of_mem hb with rfl | ⟨ttl, l, hreplies⟩ | hrevoked
    · exact .inr (.inl ⟨lease, reply, h⟩)
    · exact .inl ⟨ttl, _, hreplies⟩
    · exact .inr (.inr hrevoked)
  case told =>
    intro _
    cases reply with
    | error cause => exact .inr ⟨a, hcourse.mem, _, .inl ⟨lease, cause, h, rfl⟩⟩
    | ok result => exact .inl ⟨a, hcourse.mem, lease, result, h⟩
  case ran =>
    intro b hb hran
    obtain rfl := hcourse.eq_of_ran hb hran
    obtain ⟨lease', result, hreplies⟩ := hran
    obtain rfl := h.transact_unique hreplies
    rcases answer_cases hagiven hrooted hsize h with
      ⟨hallows, hverdict, deadline, hlasts, hkept⟩ | hnot
    · refine .inl ⟨hallows, hverdict, ?_⟩
      cases o with
      | write secrets ttl =>
        exact ⟨deadline, .of_replies hagiven hrooted hsize h
          (hdue secrets ttl deadline rfl (hlasts secrets ttl rfl)) hkept⟩
      -- what is deleted has no deadline
      | delete ids => exact ⟨none, .of_replies hagiven hrooted hsize h rfl hkept⟩
    · exact .inr hnot
  case refused =>
    intro b hb e hrefused
    obtain rfl := hcourse.eq_of_refused hb hrefused
    rcases hrefused with ⟨lease', cause, hreplies, rfl⟩ | ⟨secrets, ttl, cause, -, hreplies, -⟩
    · obtain rfl := h.transact_unique hreplies
      exact o.verdict_error cause
    · cases h.unique hreplies
  case last =>
    intro b hb hran hallows
    obtain rfl := hcourse.eq_of_ran hb hran
    obtain ⟨lease', result, hreplies⟩ := hran
    obtain rfl := h.transact_unique hreplies
    rcases answer_cases hagiven hrooted hsize h with ⟨-, hverdict, -⟩ | ⟨hnot, -⟩
    · exact hcourse.ends_of_verdict hverdict
    · exact absurd hallows hnot
  case revoked =>
    intro r hr l ended hreplies
    obtain ⟨rfl, hfailed, g, ttl, hlog, hgranted⟩ := hcourse.eq_of_revoked h hr hreplies
    exact ⟨g, a, ttl, reply, hlog, hgranted, h, hfailed⟩

end Course

/-- An order that has failed has changed no secrets, if no lease that was revoked had any. -/
theorem Outcome.untouched (h : o.Outcome site s log answer) (hfailed : answer ≠ .ok none)
    (ha : a ∈ log) (hfree : ∀ l ended, a.Replies s (.revokeLease l) ended →
      ¬(a.before.network site.servers).Secures s.server.id l) :
    Deployment.KeepsSecrets a.now a.before a.after := by
  obtain ⟨hgiven, hrooted⟩ := h.given a ha
  rcases h.requests a ha with ⟨ttl, reply, hreplies⟩ | ⟨lease, reply, hreplies⟩ |
    ⟨l, ended, hreplies⟩
  · refine hreplies.keepsSecrets hgiven fun c c' limit hhome hserve => ?_
    have hconsistent := hrooted.consistent_home? hhome
    cases reply with
    | error e => exact Cluster.keepsSecrets_of_refused hconsistent hserve
    | ok l =>
      obtain ⟨_, -, -, -, -, hkeeps⟩ := Cluster.grantLease_of_serve hconsistent hserve
      exact hkeeps
  · cases reply with
    | error e =>
      refine hreplies.keepsSecrets hgiven fun c c' limit hhome hserve => ?_
      exact Cluster.keepsSecrets_of_refused (hrooted.consistent_home? hhome) hserve
    | ok result =>
      rcases h.ran a ha ⟨lease, result, hreplies⟩ with ⟨-, hok, -⟩ | ⟨-, -, hkeeps⟩
      · exact absurd hok hfailed
      · exact hkeeps
  · refine hreplies.keepsSecrets hgiven fun c c' limit hhome hserve => ?_
    have hconsistent := hrooted.consistent_home? hhome
    exact Cluster.keepsSecrets_revokeLease hconsistent
      (fun hsecures => hfree l ended hreplies ⟨c, hhome, hsecures⟩) hserve

/-- A request that grants a lease grants one without secrets. -/
theorem not_secures_after_grantLease {l : LeaseId} (hgiven : a.Given site)
    (hrooted : (a.before.network site.servers).Rooted) (h : a.Replies s (.grantLease ttl) (.ok l)) :
    ¬(a.after.network site.servers).Secures s.server.id l := by
  rcases h.cases hgiven with ⟨b, limit, c, c', -, hb, hc, hserve, hafter⟩ | ⟨⟨e, he⟩, -⟩
  · have hconsistent := hrooted.consistent_home? (Network.home?_of_membership? hb hc)
    obtain ⟨_, -, -, -, hfree, -⟩ := Cluster.grantLease_of_serve hconsistent hserve
    rintro ⟨c₀, hc₀, hsecures⟩
    rw [hafter, Network.home?_setCluster hb hc] at hc₀
    cases hc₀
    exact hfree hsecures
  · cases he

/-- An order that fails puts no secret on a lease. -/
theorem not_secures_of_failed {l : LeaseId} {reply : Except EngineError Transaction.Result}
    (hgiven : a.Given site) (hrooted : (a.before.network site.servers).Rooted)
    (hsize : o.call.size ≠ 0) (h : a.Replies s (.transact (o.transaction lease)) reply)
    (hfailed : o.verdict reply ≠ .ok none)
    (hfree : ¬(a.before.network site.servers).Secures s.server.id l) :
    ¬(a.after.network site.servers).Secures s.server.id l := by
  rcases h.cases hgiven with ⟨b, limit, c, c', -, hb, hc, hserve, hafter⟩ | ⟨-, hafter⟩
  · have hhome := Network.home?_of_membership? hb hc
    have hconsistent := hrooted.consistent_home? hhome
    have hsame : c' = c.expire a.now := by
      cases reply with
      | error e => exact Cluster.eq_expire_of_serve_eq_error hserve
      | ok result =>
        rcases cluster_cases hconsistent hsize hserve with ⟨-, hverdict, -⟩ | ⟨-, -, hsame⟩
        · exact absurd hverdict hfailed
        · exact hsame
    rintro ⟨c₀, hc₀, hsecures⟩
    rw [hafter, Network.home?_setCluster hb hc] at hc₀
    cases hc₀
    rw [hsame] at hsecures
    exact hfree ⟨c, hhome, hconsistent.secures_expire hsecures⟩
  · rw [hafter]
    exact hfree

/-- If nobody else acts, a lease that is revoked has no secrets. -/
theorem Outcome.not_secures_of_linked {d' : Deployment} (h : o.Outcome site s log answer)
    (hlinked : d.Linked log d') (ha : a ∈ log) {l : LeaseId} {ended : Except EngineError Unit}
    (hreplies : a.Replies s (.revokeLease l) ended) :
    ¬(a.before.network site.servers).Secures s.server.id l := by
  have hsize : o.call.size ≠ 0 := by
    intro hzero
    rw [(h.idle hzero).1] at ha
    cases ha
  obtain ⟨g, b, ttl, reply, rfl, hgranted, hmade, hfailed⟩ := h.revoked a ha l ended hreplies
  obtain ⟨-, hb, ha, -⟩ := hlinked
  obtain ⟨hggiven, hgrooted⟩ := h.given g List.mem_cons_self
  obtain ⟨hbgiven, hbrooted⟩ := h.given b (List.mem_cons_of_mem _ List.mem_cons_self)
  rw [ha]
  refine not_secures_of_failed hbgiven hbrooted hsize hmade hfailed ?_
  rw [hb]
  exact not_secures_after_grantLease hggiven hgrooted hgranted

/-- If nobody else acts, an order that has failed leaves all secrets as they were. -/
theorem Outcome.keepsSecrets_of_linked {d' : Deployment} (h : o.Outcome site s log answer)
    (hlinked : d.Linked log d') (hfailed : answer ≠ .ok none) {now : Instant}
    (hle : ∀ a ∈ log, a.now ≤ now) : d.KeepsSecrets now d' :=
  .of_linked hlinked (fun _ ha => h.untouched hfailed ha fun _ _ hreplies =>
    h.not_secures_of_linked hlinked ha hreplies) hle

end SecretsApi.Order

end ClusterVault
