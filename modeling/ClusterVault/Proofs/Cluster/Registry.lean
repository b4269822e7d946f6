import ClusterVault.Proofs.Cluster.Run
import Mathlib.Data.List.Perm.Subperm

/-!
# The registry of members

What requests do to the registry. Only three of them change it: a server that joins names its entry,
a member is added, and a member is removed.

## Main statements

- `IdSource.isFree_fresh`: a new member gets an id that nobody has
- `Cluster.members_serve`: requests through a server leave the registry alone
- `Cluster.attachMember_eq_ok`, `Cluster.members_of_addMember_eq_ok`,
  `Cluster.members_of_removeMember_eq_ok`: what the three requests do
-/

namespace ClusterVault

namespace IdSource

variable {taken : List Nat} {s : IdSource}

theorem isFree_iff {id : Nat} : isFree taken id = true ↔ id ≠ 0 ∧ id ∉ taken := by
  simp [isFree]

/-- Of more numbers than are taken, one is free. -/
theorem isFree_leastFree (taken : List Nat) : isFree taken (leastFree taken) = true := by
  rw [leastFree]
  cases hfind : (List.range' 1 (taken.length + 1)).find? (isFree taken) with
  | some id => exact List.find?_some hfind
  | none =>
    have htaken : List.range' 1 (taken.length + 1) ⊆ taken := by
      intro id hid
      have hbusy : ¬isFree taken id = true := List.find?_eq_none.1 hfind id hid
      rw [isFree_iff] at hbusy
      have hpos : id ≠ 0 := by
        have := (List.mem_range'_1.1 hid).1
        omega
      by_contra hfree
      exact hbusy ⟨hpos, hfree⟩
    have hnodup : (List.range' 1 (taken.length + 1)).Nodup := List.nodup_range'
    have hlength := (hnodup.subperm htaken).length_le
    rw [List.length_range'] at hlength
    omega

theorem isFree_drawFree (tries : Nat) (s : IdSource) (taken : List Nat) :
    isFree taken (drawFree tries s taken).1 = true := by
  induction tries generalizing s with
  | zero => exact isFree_leastFree taken
  | succ tries ih =>
    rw [drawFree]
    split
    · next hfree => exact hfree
    · exact ih _

/-- A new member gets an id that nobody has. -/
theorem isFree_fresh (s : IdSource) (taken : List Nat) : isFree taken (s.fresh taken).1 = true :=
  isFree_drawFree patience s taken

end IdSource

namespace Cluster

variable {c c' : Cluster} {user name : String} {now : Instant} {limit id : Nat} {ids ids' : IdSource}
  {urls peerUrls clientUrls : List Url} {test : Member → Bool} {m member : Member}
  {members : List Member}

theorem hasMember_iff : c.hasMember id = true ↔ ∃ m ∈ c.members, m.id = id := by
  simp [hasMember]

theorem members_of_handle_eq_ok {command : Command} {reply : command.Reply}
    (h : c.handle user now limit command = .ok (reply, c')) : c'.members = c.members := by
  cases command with
  | transact t => exact congrArg (fun answer => answer.2.members) (transact_eq_ok h).2
  | grantLease ttl =>
    obtain ⟨deadline, -, -, rfl⟩ := grantLease_eq_ok h
    rfl
  | revokeLease id =>
    rw [revokeLease_eq_ok (plain_eq_ok h)]
  | authStatus =>
    have hstatus : (c.authStatus user).map (·, c) = .ok (reply, c') := h
    cases hanswer : c.authStatus user with
    | error e =>
      rw [hanswer] at hstatus
      cases hstatus
    | ok enabled =>
      rw [hanswer] at hstatus
      cases hstatus
      rfl
  | addRole | grantPermission | addUser | grantRole =>
    obtain ⟨access, rfl⟩ := administer_eq_ok (plain_eq_ok h)
    rfl
  | enableAuth =>
    obtain ⟨access, rfl⟩ := enableAuth_eq_ok (plain_eq_ok h)
    rfl

/-- Requests through a server leave the registry alone. -/
theorem members_serve (c : Cluster) (user : String) (now : Instant) (limit : Nat)
    (command : Command) : (c.serve user now limit command).2.members = c.members := by
  cases h : (c.expire now).handle user now limit command with
  | error e =>
    rw [serve_of_handle_eq_error h]
    rfl
  | ok answer =>
    rw [serve_of_handle_eq_ok h]
    exact (members_of_handle_eq_ok h).trans rfl

/-! ## Naming an entry -/

theorem map_nameFirst {α : Type} {f : Member → α}
    (hf : ∀ m, f { m with name, clientUrls } = f m) (members : List Member) :
    (nameFirst test name clientUrls members).map f = members.map f := by
  induction members with
  | nil => rfl
  | cons m members ih =>
    rw [nameFirst]
    split
    · rw [List.map_cons, List.map_cons, hf]
    · rw [List.map_cons, List.map_cons, ih]

theorem mem_nameFirst (h : m ∈ nameFirst test name clientUrls members) :
    m ∈ members ∨ ∃ m₀ ∈ members, members.find? test = some m₀ ∧
      m = { m₀ with name, clientUrls } := by
  induction members with
  | nil => exact .inl h
  | cons first rest ih =>
    rw [nameFirst] at h
    split at h
    · next hfirst =>
      rcases List.mem_cons.1 h with rfl | hrest
      · exact .inr ⟨first, List.mem_cons_self, List.find?_cons_of_pos hfirst, rfl⟩
      · exact .inl (List.mem_cons_of_mem _ hrest)
    · next hfirst =>
      rcases List.mem_cons.1 h with rfl | hrest
      · exact .inl List.mem_cons_self
      · rcases ih hrest with hold | ⟨m₀, hm₀, hfind, rfl⟩
        · exact .inl (List.mem_cons_of_mem _ hold)
        · refine .inr ⟨m₀, List.mem_cons_of_mem _ hm₀, ?_, rfl⟩
          rw [List.find?_cons_of_neg hfirst, hfind]

/-- A server that joins gives its name to the first entry under one of its URLs. -/
theorem attachMember_eq_ok (h : c.attachMember name peerUrls clientUrls = .ok (id, c')) :
    ∃ m, c.members.find? (isRegisteredAt peerUrls) = some m ∧ id = m.id ∧
      c' = { c with members := nameFirst (isRegisteredAt peerUrls) name clientUrls c.members } := by
  unfold attachMember at h
  split at h
  · cases h
  · next m hm =>
    cases h
    exact ⟨m, hm, rfl, rfl⟩

theorem hasMember_of_attachMember (h : c.attachMember name peerUrls clientUrls = .ok (id, c'))
    (member : Nat) : c'.hasMember member = c.hasMember member := by
  obtain ⟨m, -, -, rfl⟩ := attachMember_eq_ok h
  have hany (c : Cluster) : c.hasMember member = (c.members.map (·.id)).any (· = member) := by
    simp [hasMember, List.any_map, Function.comp_def]
  rw [hany, hany, map_nameFirst fun _ => rfl]

/-- The server is then the member of that entry. -/
theorem hasMember_attached (h : c.attachMember name peerUrls clientUrls = .ok (id, c')) :
    c'.hasMember id = true := by
  rw [hasMember_of_attachMember h]
  obtain ⟨m, hfind, rfl, -⟩ := attachMember_eq_ok h
  exact hasMember_iff.2 ⟨m, List.mem_of_find?_eq_some hfind, rfl⟩

/-- A server that joins under a URL that has just been registered gives that entry its name. -/
theorem attachMember_added {rest : List Member} {url : Url}
    (hmembers : c.members = rest ++ [⟨id, "", [url], []⟩]) (hfree : ∀ m ∈ rest, url ∉ m.peerUrls) :
    c.attachMember name [url] clientUrls =
      .ok (id, { c with members := rest ++ [⟨id, name, [url], clientUrls⟩] }) := by
  have hrest : ∀ m ∈ rest, isRegisteredAt [url] m = false := by
    intro m hm
    refine List.any_eq_false.2 fun other hother => ?_
    have hne : other ≠ url := fun heq => hfree m hm (heq ▸ hother)
    simpa using hne
  have hlast : isRegisteredAt [url] ⟨id, "", [url], []⟩ = true := by simp [isRegisteredAt]
  have hfind : c.members.find? (isRegisteredAt [url]) = some ⟨id, "", [url], []⟩ := by
    rw [hmembers, List.find?_append, List.find?_eq_none.2 fun m hm => by simp [hrest m hm]]
    exact List.find?_cons_of_pos hlast
  have hnamed : nameFirst (isRegisteredAt [url]) name clientUrls c.members =
      rest ++ [⟨id, name, [url], clientUrls⟩] := by
    rw [hmembers]
    clear hmembers hfree hfind
    induction rest with
    | nil => rw [List.nil_append, List.nil_append, nameFirst, if_pos hlast]
    | cons m rest ih =>
      rw [List.forall_mem_cons] at hrest
      rw [List.cons_append, nameFirst, hrest.1, if_neg Bool.false_ne_true, ih hrest.2,
        List.cons_append]
  rw [attachMember, hfind, hnamed]

/-! ## Adding and removing members -/

/-- A member that is added has not started, and shares no URL with another one. -/
theorem members_of_addMember_eq_ok (h : c.addMember user ids urls = .ok (member, ids', c')) :
    urls ≠ [] ∧ (∀ url ∈ urls, ∀ m ∈ c.members, url ∉ m.peerUrls) ∧
      ids.fresh (c.members.map (·.id)) = (member.id, ids') ∧
      member = { id := member.id, name := "", peerUrls := urls, clientUrls := [] } ∧
      c' = { c with members := c.members ++ [member] } := by
  obtain ⟨_, -, h⟩ := bind_eq_ok.1 h
  dsimp only at h
  split at h
  · obtain ⟨_, hthrow, -⟩ := bind_eq_ok.1 h
    cases hthrow
  · next hurls =>
    split at h
    · cases h
    · next hfind =>
      cases h
      refine ⟨by simpa using hurls, ?_, rfl, rfl, rfl⟩
      intro url hurl m hm hshared
      refine List.find?_eq_none.1 hfind url hurl ?_
      exact List.any_eq_true.2 ⟨m, hm, by simpa using hshared⟩

theorem members_of_removeMember_eq_ok (h : c.removeMember user id = .ok c') :
    c' = { c with members := c.members.eraseP (·.id = id) } := by
  obtain ⟨_, -, h⟩ := bind_eq_ok.1 h
  split at h
  · cases h
    rfl
  · cases h

/-- The entries of other members stay. -/
theorem hasMember_of_removeMember {other : Nat} (h : c.removeMember user id = .ok c')
    (hne : other ≠ id) : c'.hasMember other = c.hasMember other := by
  rw [members_of_removeMember_eq_ok h, Bool.eq_iff_iff, hasMember_iff, hasMember_iff]
  constructor
  · rintro ⟨m, hm, hid⟩
    exact ⟨m, List.mem_of_mem_eraseP hm, hid⟩
  · rintro ⟨m, hm, hid⟩
    refine ⟨m, (List.mem_eraseP_of_neg ?_).2 hm, hid⟩
    simpa [hid] using hne

end Cluster

end ClusterVault
