import ClusterVault.Proofs.Access.Checks
import ClusterVault.Proofs.Cluster.Clock

/-!
# Confinement

Users who are no administrators can neither change who may do what nor who is a member, and a key
that none of them may write is safe from all of them. There is an indirect way to remove a key, by
the lease it is attached to. This module shows that it leads nowhere: a lease is revoked only by
someone who may write all of its keys, and no request moves a deadline.

## Main definitions

- `Keyspace.tenure?`: the record under a key, and when it ends
- `Clocked.Spares`: what is under a key stays, unless its own deadline passes
-/

namespace ClusterVault

namespace Keyspace

/-- The record under a key, with the deadline of the lease that it is attached to. -/
def tenure? (ks : Keyspace) (key : Bytes) : Option (Record × Option Instant) :=
  ks.records[key]?.map fun r => (r, r.lease.bind ks.deadline?)

variable {ks ks' : Keyspace} {key : Bytes} {id : LeaseId} {ops : List Operation}

theorem tenure?_eq_none : ks.tenure? key = none ↔ ks.records[key]? = none := by
  simp [tenure?]

theorem tenure?_eq_some {r : Record} {deadline : Option Instant} :
    ks.tenure? key = some (r, deadline) ↔
      ks.records[key]? = some r ∧ r.lease.bind ks.deadline? = deadline := by
  simp [tenure?]

theorem tenure?_commit (h : ∀ op ∈ ops, op.effectOn? key = none) :
    (ks.commit ops).2.tenure? key = ks.tenure? key := by
  have hdeadlines : (ks.commit ops).2.deadline? = ks.deadline? := by
    funext id
    rw [commit_eq, deadline?_applyAll, deadline?_atRevisionOf]
  rw [tenure?, tenure?, getElem?_commit_of_effectOn?_eq_none h, hdeadlines]

namespace Consistent

theorem tenure?_grantLease (h : ks.Consistent) (deadline : Instant) :
    (ks.grantLease deadline).tenure? key = ks.tenure? key := by
  show ks.records[key]?.map _ = ks.records[key]?.map _
  cases hr : ks.records[key]? with
  | none => rfl
  | some r =>
    cases hl : r.lease with
    | none => simp [hl]
    | some id =>
      -- the lease of the record exists, so it is not the new one
      have hlease : ks.leaseOf key = some id := by rw [leaseOf, hr, Option.bind_some, hl]
      obtain ⟨d, hd⟩ := h.deadline?_of_leaseOf hlease
      have hne : ks.nextLease ≠ id := ne_of_gt (h.lease_lt_next id d hd).2
      simp [hl, deadline?_grantLease, hne]

/-- A key that is not attached to a lease does not notice its end. -/
theorem tenure?_dropLease (h : ks.Consistent) (hkey : key ∉ ks.keysOf id) :
    (ks.dropLease id).tenure? key = ks.tenure? key := by
  rw [tenure?, tenure?, Keyspace.getElem?_dropLease, if_neg hkey]
  cases hr : ks.records[key]? with
  | none => rfl
  | some r =>
    cases hl : r.lease with
    | none => simp [hl]
    | some id' =>
      have hne : id ≠ id' := by
        rintro rfl
        rw [h.mem_keysOf_iff, leaseOf, hr, Option.bind_some] at hkey
        exact hkey hl
      simp [hl, deadline?_dropLease, hne]

/-- A look at the clock takes a record away only if its own deadline has passed. -/
theorem tenure?_expire (h : ks.Consistent) (now : Instant) :
    (ks.expire now).tenure? key = (ks.tenure? key).filter fun held => held.2.all (now < ·) := by
  rw [tenure?, tenure?, h.getElem?_expire]
  cases hr : ks.records[key]? with
  | none => rfl
  | some r =>
    cases hl : r.lease with
    | none => simp [hl, lastsBeyond, Option.filter]
    | some id =>
      cases hd : ks.deadline? id with
      | none => simp [hl, hd, deadline?_expire, lastsBeyond, Option.filter]
      | some d =>
        by_cases hlt : now < d <;> simp [hl, hd, hlt, deadline?_expire, lastsBeyond, Option.filter]

end Consistent

end Keyspace

namespace Cluster

variable {c c' : Cluster} {user : String} {now : Instant} {limit : Nat} {ids ids' : IdSource}

theorem authorized_of_transact_eq_ok {t : Transaction} {result : Transaction.Result}
    (h : c.transact user limit t = .ok (result, c')) :
    ∀ op ∈ c.branch t, c.access.authorizeKey user (accessFor op) op.key = .ok () := by
  rw [transact_eq] at h
  split at h
  · split at h
    · cases h
    · next hauthorized =>
      intro op hop
      refine AccessControl.authorizeAll_eq_ok.1 hauthorized (accessFor op, op.key) ?_
      exact List.mem_append_right _ (List.mem_map_of_mem (mem_of_mem_branch hop))
  · cases h

theorem authorized_of_revokeLease_eq_ok {id : LeaseId} (h : c.revokeLease user id = .ok c') :
    ∀ key ∈ c.keyspace.keysOf id, c.access.authorizeKey user .write key = .ok () := by
  unfold revokeLease at h
  split at h
  · cases h
  · next lease hlease =>
    obtain ⟨_, -, h⟩ := bind_eq_ok.1 h
    obtain ⟨_, hauthorized, -⟩ := bind_eq_ok.1 h
    intro key hkey
    rw [Keyspace.keysOf, hlease] at hkey
    refine AccessControl.authorizeAll_eq_ok.1 hauthorized (.write, key) ?_
    exact List.mem_map_of_mem (Std.ExtTreeSet.mem_toList.2 hkey)

/-- An operation that leaves something under a key asks for the right to write the key. -/
theorem accessFor_of_effectOn? {op : Operation} {key : Bytes} (h : op.effectOn? key ≠ none) :
    accessFor op = .write ∧ op.key = key := by
  refine ⟨?_, ?_⟩
  · cases op with
    | put | delete => rfl
    | get => exact absurd rfl h
  · by_contra hne
    exact h (Operation.effectOn?_of_key_ne hne)

theorem enableAuth_of_enabled (hon : c.access.enabled) :
    c.enableAuth user = (c.access.authenticate user).map fun _ => c := by
  rw [enableAuth, if_pos hon]
  cases c.access.authenticate user <;> rfl

section Refused

variable {e : EngineError} (he : c.access.authorizeAdministrator user = .error e)

include he

theorem administer_of_error (change : AccessControl → Except EngineError AccessControl) :
    c.administer user change = .error e := by
  rw [administer, he]
  rfl

theorem changeRegistry_of_error (ids : IdSource) (command : MemberCommand) :
    c.changeRegistry user ids command = (.error e, ids, c) := by
  cases command with
  | list =>
    have hlist : c.listMembers user = .error e := by rw [listMembers, he]; rfl
    rw [changeRegistry, hlist]
    rfl
  | add peerUrls =>
    have hadd : c.addMember user ids peerUrls = .error e := by rw [addMember, he]; rfl
    simp only [changeRegistry, hadd]
  | remove id =>
    have hremove : c.removeMember user id = .error e := by rw [removeMember, he]; rfl
    simp only [changeRegistry, hremove]

end Refused

section User

variable (hon : c.access.enabled) (huser : ¬c.access.IsAdministrator user)

include hon huser

/-- All that a command can do of a user who is no administrator. -/
theorem handle_cases_of_not_isAdministrator {command : Command} {reply : command.Reply}
    (h : c.handle user now limit command = .ok (reply, c')) :
    (∃ ops, c.keyspace.LeasesExist ops ∧
      (∀ op ∈ ops, c.access.authorizeKey user (accessFor op) op.key = .ok ()) ∧
      c' = { c with keyspace := (c.keyspace.commit ops).2 }) ∨
    (∃ deadline, c' = { c with keyspace := c.keyspace.grantLease deadline }) ∨
    (∃ id, (∀ key ∈ c.keyspace.keysOf id, c.access.authorizeKey user .write key = .ok ()) ∧
      c' = { c with keyspace := c.keyspace.dropLease id }) ∨
    c' = c := by
  cases command with
  | transact t =>
    obtain ⟨hlease, haccepted⟩ := transact_eq_ok h
    exact .inl ⟨c.branch t, hlease, authorized_of_transact_eq_ok h, congrArg Prod.snd haccepted⟩
  | grantLease ttl =>
    obtain ⟨deadline, -, -, hc'⟩ := grantLease_eq_ok h
    exact .inr (.inl ⟨deadline, hc'⟩)
  | revokeLease id =>
    have hrevoke := plain_eq_ok h
    exact .inr (.inr (.inl ⟨id, authorized_of_revokeLease_eq_ok hrevoke, revokeLease_eq_ok hrevoke⟩))
  | authStatus =>
    have hstatus : (c.authStatus user).map (·, c) = .ok (reply, c') := h
    cases hanswer : c.authStatus user with
    | error e =>
      rw [hanswer] at hstatus
      cases hstatus
    | ok enabled =>
      rw [hanswer] at hstatus
      cases hstatus
      exact .inr (.inr (.inr rfl))
  | addRole | grantPermission | addUser | grantRole =>
    have hadminister := plain_eq_ok h
    obtain ⟨e, he⟩ := AccessControl.authorizeAdministrator_of_not_isAdministrator hon huser
    rw [administer_of_error he] at hadminister
    cases hadminister
  | enableAuth =>
    have henable := plain_eq_ok h
    rw [enableAuth_of_enabled hon] at henable
    cases hknown : c.access.authenticate user with
    | error e =>
      rw [hknown] at henable
      cases henable
    | ok u =>
      rw [hknown] at henable
      cases henable
      exact .inr (.inr (.inr rfl))

/-- All that an answer can do to a query of a user who is no administrator. -/
theorem respond_cases_of_not_isAdministrator {q : Query} {reply : q.Reply}
    (hq : q.user? = some user) (h : c.respond now ids q = (reply, ids', c')) :
    (∃ ops, c.keyspace.LeasesExist ops ∧
      (∀ op ∈ ops, c.access.authorizeKey user (accessFor op) op.key = .ok ()) ∧
      c' = { c with keyspace := (c.keyspace.commit ops).2 }) ∨
    (∃ deadline, c' = { c with keyspace := c.keyspace.grantLease deadline }) ∨
    (∃ id, (∀ key ∈ c.keyspace.keysOf id, c.access.authorizeKey user .write key = .ok ()) ∧
      c' = { c with keyspace := c.keyspace.dropLease id }) ∨
    c' = c := by
  cases q with
  | serve user' limit command =>
    cases hq
    rcases respond_serve_cases h with ⟨e, -, rfl⟩ | ⟨result, -, hhandle⟩
    · exact .inr (.inr (.inr rfl))
    · exact handle_cases_of_not_isAdministrator hon huser hhandle
  | manage user' command =>
    cases hq
    obtain ⟨e, he⟩ := AccessControl.authorizeAdministrator_of_not_isAdministrator hon huser
    rw [respond, changeRegistry_of_error he] at h
    cases h
    exact .inr (.inr (.inr rfl))
  | attach | lookUp => cases hq

end User

end Cluster

namespace Clocked

/-- What is under a key stays as it is, or it is gone because its deadline has passed. -/
def Spares (key : Bytes) (s s' : Clocked) : Prop :=
  s'.cluster.keyspace.tenure? key = s.cluster.keyspace.tenure? key ∨
    (s'.cluster.keyspace.tenure? key = none ∧ ∃ r deadline,
      s.cluster.keyspace.tenure? key = some (r, some deadline) ∧ deadline ≤ s'.now)

/-- Rights and members stay as they are, and so does what the users may not write. -/
structure Confines (users : Set String) (s s' : Clocked) : Prop where
  now_le : s.now ≤ s'.now
  access_eq : s'.cluster.access = s.cluster.access
  members_eq : s'.cluster.members = s.cluster.members
  spares : ∀ key, (∀ user ∈ users, s.cluster.access.authorizeKey user .write key ≠ .ok ()) →
    Spares key s s'

variable {s s' s'' : Clocked} {key : Bytes} {instant : Instant} {visits : List Visit}
  {answers : List Query.Answer} {q : Query} {user : String} {users : Set String}

theorem Spares.trans (h : Spares key s s') (h' : Spares key s' s'') (hle : s'.now ≤ s''.now) :
    Spares key s s'' := by
  rcases h with hsame | ⟨hgone, r, deadline, hheld, hended⟩
  · rw [Spares, hsame] at h'
    exact h'
  · -- what is gone stays gone
    refine .inr ⟨?_, r, deadline, hheld, Nat.le_trans hended hle⟩
    rcases h' with hsame | ⟨hgone', -⟩
    · rw [hsame, hgone]
    · exact hgone'

theorem Confines.refl (users : Set String) (s : Clocked) : Confines users s s :=
  ⟨Nat.le_refl _, rfl, rfl, fun _ _ => .inl rfl⟩

theorem Confines.trans (h : Confines users s s') (h' : Confines users s' s'') :
    Confines users s s'' where
  now_le := Nat.le_trans h.now_le h'.now_le
  access_eq := h'.access_eq.trans h.access_eq
  members_eq := h'.members_eq.trans h.members_eq
  spares key hkey := by
    have hkey' : ∀ user ∈ users, s'.cluster.access.authorizeKey user .write key ≠ .ok () := by
      rw [h.access_eq]
      exact hkey
    exact (h.spares key hkey).trans (h'.spares key hkey') h'.now_le

/-- The clock takes away only what has ended. -/
theorem Looks.confines (h : s.Looks instant s') (users : Set String)
    (hs : s.cluster.keyspace.Consistent) :
    Confines users s s' := by
  rw [h.eq_lookAt]
  refine ⟨h.1, rfl, rfl, ?_⟩
  intro key hkey
  have htenure : (s.lookAt instant).cluster.keyspace.tenure? key =
      (s.cluster.keyspace.tenure? key).filter fun held => held.2.all (instant < ·) :=
    hs.tenure?_expire instant
  rw [Spares, htenure]
  cases hheld : s.cluster.keyspace.tenure? key with
  | none => exact .inl rfl
  | some held =>
    obtain ⟨r, deadline⟩ := held
    cases deadline with
    | none => exact .inl rfl
    | some d =>
      rcases Nat.lt_or_ge instant d with hlt | hended
      · exact .inl (Option.filter_some_pos (by simpa using hlt))
      · exact .inr ⟨Option.filter_some_neg (by simpa using hended), r, d, rfl, hended⟩

/-- An answer confines the users if it changes the keyspace alone, and there no key that none of
    them may write. -/
theorem reply_confines_of_tenure? {ks : Keyspace}
    (heq : (s.reply q).2.cluster = { s.cluster with keyspace := ks })
    (hkeys : ∀ key, (∀ user ∈ users, s.cluster.access.authorizeKey user .write key ≠ .ok ()) →
      ks.tenure? key = s.cluster.keyspace.tenure? key) : Confines users s (s.reply q).2 := by
  refine ⟨Nat.le_refl _, by rw [heq], by rw [heq], ?_⟩
  intro key hkey
  rw [Spares, heq]
  exact .inl (hkeys key hkey)

/-- A user who is no administrator changes neither rights nor members, and no key that the user may
    not write. -/
theorem reply_confines (hon : s.cluster.access.enabled) (hs : s.cluster.keyspace.Consistent)
    (huser : user ∈ users) (hplain : ¬s.cluster.access.IsAdministrator user)
    (hq : q.user? = some user) : Confines users s (s.reply q).2 := by
  have hrespond : s.cluster.respond s.now s.ids q =
      ((s.reply q).1.2, (s.reply q).2.ids, (s.reply q).2.cluster) := rfl
  rcases Cluster.respond_cases_of_not_isAdministrator hon hplain hq hrespond with
    ⟨ops, -, hauthorized, heq⟩ | ⟨deadline, heq⟩ | ⟨id, hauthorized, heq⟩ | heq
  · refine reply_confines_of_tenure? heq fun key hkey => Keyspace.tenure?_commit ?_
    intro op hop
    by_contra heffect
    obtain ⟨hwrite, rfl⟩ := Cluster.accessFor_of_effectOn? heffect
    exact hkey user huser (hwrite ▸ hauthorized op hop)
  · exact reply_confines_of_tenure? heq fun key _ => hs.tenure?_grantLease deadline
  · refine reply_confines_of_tenure? heq fun key hkey => hs.tenure?_dropLease ?_
    -- whoever revokes a lease may write all of its keys
    intro hmem
    exact hkey user huser (hauthorized key hmem)
  · exact reply_confines_of_tenure? heq fun key _ => rfl

theorem Run.confines (h : Run s visits answers s') (hon : s.cluster.access.enabled)
    (hs : s.cluster.keyspace.Consistent)
    (husers : ∀ user ∈ users, ¬s.cluster.access.IsAdministrator user)
    (hvisits : ∀ v ∈ visits, ∃ user ∈ users, v.query.user? = some user) :
    Confines users s s' := by
  induction h with
  | nil s => exact .refl users s
  | look hlook _ ih =>
    have hfirst := hlook.confines users hs
    have hmid := hlook.keyspace.consistent hs
    rw [← hfirst.access_eq] at hon husers
    exact hfirst.trans (ih hon hmid husers hvisits)
  | @visit s mid last v visits answers hlook _ ih =>
    have hfirst := hlook.confines users hs
    have hmid := hlook.keyspace.consistent hs
    rw [← hfirst.access_eq] at hon husers
    -- the rights of the one who asks are those from before the run
    obtain ⟨user, huser, hq⟩ := hvisits v List.mem_cons_self
    have hsecond := reply_confines hon hmid huser (husers user huser) hq
    have hmid' := (keyspace_reply mid v.query).consistent hmid
    rw [← hsecond.access_eq] at hon husers
    have hrest : ∀ v' ∈ visits, ∃ user ∈ users, v'.query.user? = some user := by
      intro v' hv'
      exact hvisits v' (List.mem_cons_of_mem _ hv')
    exact hfirst.trans (hsecond.trans (ih hon hmid' husers hrest))

/-- Users none of whom is an administrator are confined to what they may write. Whatever they ask for
    in whatever order while time goes on, the checks stay on, users, roles and members stay as they
    are, and so does the record under a key that none of them may write. It is only ever gone if the
    lease it had from the start has reached its deadline. -/
theorem confinement (hreachable : s.cluster.Reachable) (hon : s.cluster.access.enabled)
    (husers : ∀ user ∈ users, ¬s.cluster.access.IsAdministrator user)
    (hvisits : ∀ v ∈ visits, ∃ user ∈ users, v.query.user? = some user)
    (h : Run s visits answers s') :
    s'.cluster.access = s.cluster.access ∧ s'.cluster.members = s.cluster.members ∧
    ∀ key : Bytes,
      (∀ user ∈ users, s.cluster.access.authorizeKey user .write key ≠ .ok ()) →
      s'.cluster.keyspace.records[key]? = s.cluster.keyspace.records[key]? ∨
      (s'.cluster.keyspace.records[key]? = none ∧ ∃ r id deadline,
        s.cluster.keyspace.records[key]? = some r ∧ r.lease = some id ∧
          s.cluster.keyspace.deadline? id = some deadline ∧ deadline ≤ s'.now) := by
  have hconfines := h.confines hon hreachable.consistent husers hvisits
  refine ⟨hconfines.access_eq, hconfines.members_eq, ?_⟩
  intro key hkey
  rcases hconfines.spares key hkey with hsame | ⟨hgone, r, deadline, hheld, hended⟩
  · have hrecords := congrArg (Option.map Prod.fst) hsame
    simp only [Keyspace.tenure?, Option.map_map, Function.comp_def, Option.map_id'] at hrecords
    exact .inl hrecords
  · obtain ⟨hr, hdeadline⟩ := Keyspace.tenure?_eq_some.1 hheld
    obtain ⟨id, hid, hd⟩ := Option.bind_eq_some_iff.1 hdeadline
    exact .inr ⟨Keyspace.tenure?_eq_none.1 hgone, r, id, deadline, hr, hid, hd, hended⟩

/-- A user attaches a key of its own to the lease of another, but cannot end that lease. -/
theorem confinement_foreign_lease :
    let setUp : List Command := [.grantLease 5,
      .transact { success := [.put [97] [1] (some 1)] }, .addUser "root" true,
      .grantRole "root" "root", .addUser "eve" true, .addRole "eve",
      .grantPermission "eve" (.startingWith [98] .readWrite), .grantRole "eve" "eve", .enableAuth]
    let c := setUp.foldl (fun c command => (c.serve "root" 0 1 command).2) (.founded [])
    let s : Clocked := { now := 0, cluster := c, ids := { draw := fun n => n } }
    let visits : List Visit :=
      [⟨0, .serve "eve" 1 (.transact { success := [.put [98] [2] (some 1)] })⟩,
        ⟨1, .serve "eve" 1 (.revokeLease 1)⟩, ⟨4999, .manage "eve" .list⟩]
    let s' := (answerAll visit s visits).2
    s'.cluster.access = s.cluster.access ∧
      s'.cluster.keyspace.records[([97] : Bytes)]? = some ⟨[97], [1], 2, 2, 1, some 1⟩ := by
  intro setUp c s visits s'
  have hfounded : (Cluster.founded []).Reachable := ⟨[], [], .nil _⟩
  have hreachable : s.cluster.Reachable := hfounded.foldl_serve "root" 0 1 setUp
  have hon : s.cluster.access.enabled := by decide +kernel
  have husers : ∀ user ∈ ({"eve"} : Set String), ¬s.cluster.access.IsAdministrator user := by
    rintro user rfl
    decide +kernel
  have hvisits : ∀ v ∈ visits, ∃ user ∈ ({"eve"} : Set String), v.query.user? = some user := by
    intro v hv
    refine ⟨"eve", rfl, ?_⟩
    revert v
    decide
  have horder : (s.now :: visits.map (·.instant)).IsChain (· ≤ ·) := by decide
  obtain ⟨haccess, -, hspares⟩ := confinement hreachable hon husers hvisits (run_answerAll horder)
  have hstored : s.cluster.keyspace.records[([97] : Bytes)]? =
      some ⟨[97], [1], 2, 2, 1, some 1⟩ := by decide +kernel
  have hdeadline : s.cluster.keyspace.deadline? 1 = some 5000 := by decide +kernel
  have hkey : ∀ user ∈ ({"eve"} : Set String),
      s.cluster.access.authorizeKey user .write [97] ≠ .ok () := by
    rintro user rfl
    decide +kernel
  refine ⟨haccess, ?_⟩
  rcases hspares [97] hkey with hsame | ⟨-, r, id, deadline, hr, hid, hd, hended⟩
  · exact hsame.trans hstored
  · -- the lease of the key ends only at 5000
    rw [hstored] at hr
    cases hr
    cases hid
    rw [hdeadline] at hd
    cases hd
    exact absurd hended (by decide)

end Clocked

end ClusterVault
