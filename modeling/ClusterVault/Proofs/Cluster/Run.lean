import ClusterVault.Cluster.Command
import ClusterVault.Proofs.Keyspace.Run

/-!
# Runs of a cluster

Whatever is asked of a cluster, by whom and when, its keyspace only ever makes the steps of
`Keyspace.Step`. This module takes requests apart and shows so, for single steps and for whole runs
from the founding of the cluster on.

## Main definitions

- `Cluster.branch`: the operations of a transaction that its conditions pick
- `Cluster.changeRegistry`: a request on the registry, without a look at the clock
- `Cluster.Step`, `Cluster.Run`: one thing that happens to a cluster and any number of them, with the
  operations that were run
- `Cluster.founded`: a cluster to which nothing has happened yet
- `Cluster.Reachable`: a state that some run from the founding ends in

## Design notes

A look at the clock is a step of its own and may come with any instant, so a run may end leases at
any time, also between a request and the next. A request that is refused leaves the state as it is
and is no step. The registry of members may change in any way.
-/

namespace ClusterVault.Cluster

/-- The operations of a transaction that its conditions pick. -/
def branch (c : Cluster) (t : Transaction) : List Operation :=
  if t.conditions.all c.keyspace.satisfies then t.success else t.failure

/-- The operations that are run for a command. -/
def operationsOf (c : Cluster) : Command → List Operation
  | .transact t => c.branch t
  | _ => []

theorem mem_of_mem_branch {c : Cluster} {t : Transaction} {op : Operation} (h : op ∈ c.branch t) :
    op ∈ t.success ++ t.failure := by
  unfold branch at h
  split at h
  · exact List.mem_append_left _ h
  · exact List.mem_append_right _ h

/-- One thing that happens to a cluster, with the operations that are run for it. -/
inductive Step : Cluster → List Operation → Cluster → Prop
  | expire (c : Cluster) (now : Instant) : Step c [] (c.expire now)
  | handle {c c' : Cluster} {user : String} {now : Instant} {limit : Nat} {command : Command}
    {reply : command.Reply} (h : c.handle user now limit command = .ok (reply, c')) :
    Step c (c.operationsOf command) c'
  | registry (c : Cluster) (members : List Member) : Step c [] { c with members }

/-- Any number of things that happen to a cluster, with all operations that are run in order. -/
inductive Run : Cluster → List Operation → Cluster → Prop
  | nil (c : Cluster) : Run c [] c
  | snoc {c c' c'' : Cluster} {ops ran : List Operation} :
    Run c ops c' → Step c' ran c'' → Run c (ops ++ ran) c''

/-- A cluster to which nothing has happened yet. -/
def founded (members : List Member) : Cluster := { members }

/-- Some run from the founding of the cluster ends in this state. -/
def Reachable (c : Cluster) : Prop := ∃ members ops, Run (founded members) ops c

variable {c c' c'' : Cluster} {ops ops' : List Operation} {user : String} {now : Instant}
  {limit : Nat} {t : Transaction}

theorem Step.run (h : Step c ops c') : Run c ops c' :=
  List.nil_append ops ▸ Run.snoc (Run.nil c) h

theorem Run.trans (h : Run c ops c') (h' : Run c' ops' c'') : Run c (ops ++ ops') c'' := by
  induction h' with
  | nil => simpa using h
  | snoc _ hstep ih =>
    rw [← List.append_assoc]
    exact ih.snoc hstep

theorem run_transact {result : Transaction.Result}
    (h : c.transact user limit t = .ok (result, c')) : Run c (c.branch t) c' := by
  have hhandle : c.handle user 0 limit (.transact t) = .ok (result, c') := h
  exact (Step.handle hhandle).run

theorem run_grantLease {ttl : Int} {id : LeaseId}
    (h : c.grantLease user now ttl = .ok (id, c')) : Run c [] c' := by
  have hhandle : c.handle user now 0 (.grantLease ttl) = .ok (id, c') := h
  exact (Step.handle hhandle).run

theorem Reachable.run (h : c.Reachable) (h' : Run c ops c') : c'.Reachable := by
  obtain ⟨members, first, hfirst⟩ := h
  exact ⟨members, first ++ ops, hfirst.trans h'⟩

/-! ## Requests taken apart -/

/-- What a transaction answers once it has passed all checks. -/
def accepted (c : Cluster) (t : Transaction) : Transaction.Result × Cluster :=
  let committed := c.keyspace.commit (c.branch t)
  (⟨t.conditions.all c.keyspace.satisfies, committed.2.revision, committed.1⟩,
    { c with keyspace := committed.2 })

/-- The checks on a transaction, in their order. -/
theorem transact_eq (c : Cluster) (user : String) (limit : Nat) (t : Transaction) :
    c.transact user limit t =
      if t.maxBranchLength ≤ limit ∧ t.conditions.length ≤ limit then
        match c.access.authorizeAll user (demands t) with
        | .error e => .error e
        | .ok _ =>
          match c.keyspace.missingLease? (c.branch t) with
          | some id => .error (.notFound (.lease id))
          | none => .ok (c.accepted t)
      else .error (.invalidArgument (.tooManyOperations limit)) := by
  -- a transaction is refused for its size if one of its two sizes is too large
  have hsize : (decide (t.maxBranchLength > limit) || decide (t.conditions.length > limit)) =
      !decide (t.maxBranchLength ≤ limit ∧ t.conditions.length ≤ limit) := by
    rw [Bool.decide_and, Bool.not_and, ← decide_not, ← decide_not]
    simp only [gt_iff_lt, Nat.not_le]
  rw [transact, hsize]
  by_cases hle : t.maxBranchLength ≤ limit ∧ t.conditions.length ≤ limit
  · simp only [hle, and_self, decide_true, Bool.not_true, Bool.false_eq_true, if_false, if_true,
      bind, Except.bind, pure, Except.pure]
    cases c.access.authorizeAll user (demands t) with
    | error e => rfl
    | ok _ =>
      show (match c.keyspace.missingLease? (c.branch t) with | some id => _ | none => _) = _
      cases c.keyspace.missingLease? (c.branch t) <;> rfl
  · simp only [hle, decide_false, Bool.not_false, if_true, if_false]
    rfl

/-- A transaction that is accepted has passed all checks. -/
theorem transact_eq_ok {result : Transaction.Result}
    (h : c.transact user limit t = .ok (result, c')) :
    c.keyspace.LeasesExist (c.branch t) ∧ (result, c') = c.accepted t := by
  rw [transact_eq] at h
  split at h
  · split at h
    · cases h
    · split at h
      · cases h
      · next hmissing =>
        exact ⟨Keyspace.missingLease?_eq_none.1 hmissing, (Except.ok.inj h).symm⟩
  · cases h

/-- A request made of two parts is accepted if both are. -/
theorem bind_eq_ok {α β : Type} {x : Except EngineError α} {f : α → Except EngineError β} {b : β} :
    (x >>= f) = .ok b ↔ ∃ a, x = .ok a ∧ f a = .ok b := by
  cases x with
  | error e => simp [bind, Except.bind]
  | ok a => simp [bind, Except.bind]

theorem grantLease_eq_ok {ttl : Int} {id : LeaseId}
    (h : c.grantLease user now ttl = .ok (id, c')) :
    ∃ deadline, now.ofSecondsAfter? ttl.toNat = some deadline ∧ id = c.keyspace.nextLease ∧
      c' = { c with keyspace := c.keyspace.grantLease deadline } := by
  obtain ⟨_, -, h⟩ := bind_eq_ok.1 h
  dsimp only at h
  split at h
  · obtain ⟨_, hthrow, -⟩ := bind_eq_ok.1 h
    cases hthrow
  · split at h
    · cases h
    · next deadline hdeadline =>
      cases h
      exact ⟨deadline, hdeadline, rfl, rfl⟩

theorem revokeLease_eq_ok {id : LeaseId} (h : c.revokeLease user id = .ok c') :
    c' = { c with keyspace := c.keyspace.dropLease id } := by
  unfold revokeLease at h
  split at h
  · cases h
  · obtain ⟨_, -, h⟩ := bind_eq_ok.1 h
    obtain ⟨_, -, h⟩ := bind_eq_ok.1 h
    cases h
    rfl

theorem administer_eq_ok {change : AccessControl → Except EngineError AccessControl}
    (h : c.administer user change = .ok c') : ∃ access, c' = { c with access } := by
  obtain ⟨_, -, h⟩ := bind_eq_ok.1 h
  obtain ⟨access, -, h⟩ := bind_eq_ok.1 h
  cases h
  exact ⟨access, rfl⟩

theorem enableAuth_eq_ok (h : c.enableAuth user = .ok c') : ∃ access, c' = { c with access } := by
  unfold enableAuth at h
  split at h
  · obtain ⟨_, -, h⟩ := bind_eq_ok.1 h
    cases h
    exact ⟨c.access, rfl⟩
  · obtain ⟨access, -, h⟩ := bind_eq_ok.1 h
    cases h
    exact ⟨access, rfl⟩

theorem plain_eq_ok {result : Except EngineError Cluster} {u : Unit}
    (h : plain result = .ok (u, c')) : result = .ok c' := by
  cases result with
  | error e => cases h
  | ok c => cases h; rfl

theorem addMember_eq_ok {ids ids' : IdSource} {peerUrls : List Url} {member : Member}
    (h : c.addMember user ids peerUrls = .ok (member, ids', c')) :
    ∃ members, c' = { c with members } := by
  obtain ⟨_, -, h⟩ := bind_eq_ok.1 h
  dsimp only at h
  split at h
  · obtain ⟨_, hthrow, -⟩ := bind_eq_ok.1 h
    cases hthrow
  · split at h
    · cases h
    · cases h
      exact ⟨_, rfl⟩

theorem removeMember_eq_ok {id : Nat} (h : c.removeMember user id = .ok c') :
    ∃ members, c' = { c with members } := by
  obtain ⟨_, -, h⟩ := bind_eq_ok.1 h
  split at h
  · cases h
    exact ⟨_, rfl⟩
  · cases h

/-- The answer to a request on the registry, without a look at the clock. -/
def changeRegistry (c : Cluster) (user : String) (ids : IdSource) :
    (command : MemberCommand) → Except EngineError command.Reply × IdSource × Cluster
  | .list => (c.listMembers user, ids, c)
  | .add peerUrls =>
    match c.addMember user ids peerUrls with
    | .ok (member, ids', c') => (.ok member, ids', c')
    | .error e => (.error e, ids, c)
  | .remove id =>
    match c.removeMember user id with
    | .ok c' => (.ok c'.members, ids, c')
    | .error e => (.error e, ids, c)

theorem manage_eq_changeRegistry (c : Cluster) (user : String) (now : Instant) (ids : IdSource)
    (command : MemberCommand) :
    c.manage user now ids command = (c.expire now).changeRegistry user ids command := by
  cases command <;> rfl

/-- A request on the registry changes nothing but the registry. -/
theorem changeRegistry_eq (c : Cluster) (user : String) (ids : IdSource)
    (command : MemberCommand) :
    ∃ members, (c.changeRegistry user ids command).2.2 = { c with members } := by
  cases command with
  | list => exact ⟨c.members, rfl⟩
  | add peerUrls =>
    cases h : c.addMember user ids peerUrls with
    | error e => exact ⟨c.members, by simp only [changeRegistry, h]⟩
    | ok answer =>
      obtain ⟨member, ids', c'⟩ := answer
      obtain ⟨members, rfl⟩ := addMember_eq_ok h
      exact ⟨members, by simp only [changeRegistry, h]⟩
  | remove id =>
    cases h : c.removeMember user id with
    | error e => exact ⟨c.members, by simp only [changeRegistry, h]⟩
    | ok c' =>
      obtain ⟨members, rfl⟩ := removeMember_eq_ok h
      exact ⟨members, by simp only [changeRegistry, h]⟩

theorem manage_eq (c : Cluster) (user : String) (now : Instant) (ids : IdSource)
    (command : MemberCommand) :
    ∃ members, (c.manage user now ids command).2.2 = { c.expire now with members } := by
  rw [manage_eq_changeRegistry]
  exact (c.expire now).changeRegistry_eq user ids command

theorem keyspace_manage (c : Cluster) (user : String) (now : Instant) (ids : IdSource)
    (command : MemberCommand) :
    (c.manage user now ids command).2.2.keyspace = c.keyspace.expire now := by
  obtain ⟨members, h⟩ := c.manage_eq user now ids command
  rw [h]
  rfl

/-- A request that is accepted does one of three things to the keyspace, or nothing. -/
theorem handle_cases {command : Command} {reply : command.Reply}
    (h : c.handle user now limit command = .ok (reply, c')) :
    (∃ t, command = .transact t ∧ c.keyspace.LeasesExist (c.branch t) ∧
      c'.keyspace = (c.keyspace.commit (c.branch t)).2) ∨
    (∃ ttl deadline, command = .grantLease ttl ∧
      c'.keyspace = c.keyspace.grantLease deadline) ∨
    (∃ id, command = .revokeLease id ∧ c'.keyspace = c.keyspace.dropLease id) ∨
    (c.operationsOf command = [] ∧ c'.keyspace = c.keyspace) := by
  cases command with
  | transact t =>
    obtain ⟨hlease, haccepted⟩ := transact_eq_ok h
    exact .inl ⟨t, rfl, hlease, congrArg (fun answer => answer.2.keyspace) haccepted⟩
  | grantLease ttl =>
    obtain ⟨deadline, -, -, rfl⟩ := grantLease_eq_ok h
    exact .inr (.inl ⟨ttl, deadline, rfl, rfl⟩)
  | revokeLease id =>
    rw [revokeLease_eq_ok (plain_eq_ok h)]
    exact .inr (.inr (.inl ⟨id, rfl, rfl⟩))
  | authStatus =>
    have hstatus : (c.authStatus user).map (·, c) = .ok (reply, c') := h
    cases hanswer : c.authStatus user with
    | error e => rw [hanswer] at hstatus; cases hstatus
    | ok enabled =>
      rw [hanswer] at hstatus
      cases hstatus
      exact .inr (.inr (.inr ⟨rfl, rfl⟩))
  | addRole | grantPermission | addUser | grantRole =>
    -- these change who may do what, and no key or lease
    obtain ⟨access, rfl⟩ := administer_eq_ok (plain_eq_ok h)
    exact .inr (.inr (.inr ⟨rfl, rfl⟩))
  | enableAuth =>
    obtain ⟨access, rfl⟩ := enableAuth_eq_ok (plain_eq_ok h)
    exact .inr (.inr (.inr ⟨rfl, rfl⟩))

/-! ## From clusters to keyspaces -/

theorem Step.keyspace (h : Step c ops c') : Keyspace.Run c.keyspace ops c'.keyspace := by
  cases h with
  | expire now => exact Keyspace.run_expire c.keyspace now
  | handle h =>
    rcases handle_cases h with ⟨t, rfl, hlease, heq⟩ | ⟨ttl, deadline, rfl, heq⟩ | ⟨id, rfl, heq⟩ |
      ⟨hops, heq⟩
    · rw [heq]
      exact (Keyspace.Step.commit hlease).run
    · rw [heq]
      exact (Keyspace.Step.grantLease deadline).run
    · rw [heq]
      exact (Keyspace.Step.dropLease id).run
    · rw [hops, heq]
      exact Keyspace.Run.nil c.keyspace
  | registry members => exact Keyspace.Run.nil c.keyspace

theorem Run.keyspace (h : Run c ops c') : Keyspace.Run c.keyspace ops c'.keyspace := by
  induction h with
  | nil => exact Keyspace.Run.nil c.keyspace
  | snoc _ hstep ih => exact ih.trans hstep.keyspace

theorem Reachable.consistent (h : c.Reachable) : c.keyspace.Consistent := by
  obtain ⟨members, ops, hrun⟩ := h
  exact hrun.keyspace.consistent Keyspace.consistent_empty

theorem serve_of_handle_eq_ok {command : Command} {reply : command.Reply}
    (h : (c.expire now).handle user now limit command = .ok (reply, c')) :
    c.serve user now limit command = (.ok reply, c') := by
  simp only [serve, h]

theorem serve_of_handle_eq_error {command : Command} {e : EngineError}
    (h : (c.expire now).handle user now limit command = .error e) :
    c.serve user now limit command = (.error e, c.expire now) := by
  simp only [serve, h]

/-- A request served at an instant is a look at the clock and then the request, if it is not
    refused. -/
theorem run_serve (c : Cluster) (user : String) (now : Instant) (limit : Nat) (command : Command) :
    ∃ ops, Run c ops (c.serve user now limit command).2 := by
  cases h : (c.expire now).handle user now limit command with
  | error e =>
    rw [serve_of_handle_eq_error h]
    exact ⟨[], (Step.expire c now).run⟩
  | ok answer =>
    rw [serve_of_handle_eq_ok h]
    exact ⟨_, (Step.expire c now).run.snoc (Step.handle h)⟩

/-- No request leads out of the reachable states. -/
theorem Reachable.serve (h : c.Reachable) (user : String) (now : Instant) (limit : Nat)
    (command : Command) : (c.serve user now limit command).2.Reachable := by
  obtain ⟨ops, hrun⟩ := c.run_serve user now limit command
  exact h.run hrun

theorem Reachable.foldl_serve (h : c.Reachable) (user : String) (now : Instant) (limit : Nat)
    (commands : List Command) :
    (commands.foldl (fun c command => (c.serve user now limit command).2) c).Reachable := by
  induction commands generalizing c with
  | nil => exact h
  | cons command commands ih => exact ih (h.serve user now limit command)

end ClusterVault.Cluster
