import ClusterVault.Proofs.Access.LastGrant
import ClusterVault.Proofs.Cluster.Authority
import Mathlib.Data.List.Induction

/-!
# Granting in any order

Permissions may be granted to roles by several administrators at once, so the grants may come in any
order and more than once. A grant that was accepted is accepted at any other time as well, and what
counts in the end is the last grant for each range of each role.

## Main definitions

- `Cluster.Grants`: grants that were accepted one after the other
- `AccessControl.SameDecisions`: the checks tell no difference

## Main statements

- `Cluster.Grants.exists_of_subset`: the same grants are accepted in any order
- `Cluster.last_grant_counts`: the permissions of roles are a map from ranges to the kinds of the last
  grants, and what users may do depends on nothing else of them
-/

namespace ClusterVault

namespace AccessControl

/-- Whatever anyone wants to do to a key, the answer is the same. -/
def SameDecisions (a a' : AccessControl) : Prop :=
  ∀ user access key, a'.authorizeKey user access key = a.authorizeKey user access key

/-- All that a grant asks of the rights is the same. -/
structure SameUsers (a a' : AccessControl) : Prop where
  enabled : a'.enabled = a.enabled
  users : a'.users = a.users
  roles : ∀ role, a'.roles.contains role = a.roles.contains role

variable {a a' a'' : AccessControl} {role user : String} {p : Permission}

theorem SameUsers.refl (a : AccessControl) : a.SameUsers a := ⟨rfl, rfl, fun _ => rfl⟩

theorem SameUsers.trans (h : a.SameUsers a') (h' : a'.SameUsers a'') : a.SameUsers a'' where
  enabled := h'.enabled.trans h.enabled
  users := h'.users.trans h.users
  roles role := (h'.roles role).trans (h.roles role)

theorem SameUsers.authorizeAdministrator (h : a.SameUsers a') :
    a'.authorizeAdministrator user = a.authorizeAdministrator user := by
  rw [AccessControl.authorizeAdministrator, AccessControl.authorizeAdministrator, h.enabled, h.users]

theorem sameUsers_grantPermission (h : a.grantPermission role p = .ok a') : a.SameUsers a' := by
  obtain ⟨permissions, hrole, rfl⟩ := grantPermission_eq_ok_iff.1 h
  refine ⟨rfl, rfl, fun other => ?_⟩
  rw [Std.ExtTreeMap.contains_eq_isSome_getElem?, Std.ExtTreeMap.contains_eq_isSome_getElem?,
    Std.ExtTreeMap.getElem?_insert]
  split
  · next hsame => rw [← Std.LawfulEqCmp.compare_eq_iff_eq.1 hsame, hrole, Option.isSome_some,
      Option.isSome_some]
  · rfl

theorem isOk_grantPermission (p : Permission) (h : a.roles.contains role) :
    ∃ a', a.grantPermission role p = .ok a' := by
  rw [Std.ExtTreeMap.contains_eq_isSome_getElem?] at h
  obtain ⟨permissions, hrole⟩ := Option.isSome_iff_exists.1 h
  exact ⟨_, grantPermission_eq_ok_iff.2 ⟨permissions, hrole, rfl⟩⟩

end AccessControl

namespace Cluster

/-- Grants that were accepted one after the other, whoever asked for them and whenever. -/
inductive Grants : Cluster → List Grant → Cluster → Prop
  | nil (c : Cluster) : Grants c [] c
  | snoc {c c' c'' : Cluster} {grants : List Grant} {g : Grant} {user : String} {now : Instant}
    {limit : Nat} (h : Grants c grants c')
    (hserve : c'.serve user now limit (.grantPermission g.role g.permission) = (.ok (), c'')) :
    Grants c (grants ++ [g]) c''

/-- Some user may grant the permission. -/
def Admits (c : Cluster) (g : Grant) : Prop :=
  (∃ user, c.access.authorizeAdministrator user = .ok ()) ∧ c.access.roles.contains g.role

variable {c c' c'' : Cluster} {grants grants' : List Grant} {g g' : Grant} {user role : String}
  {now : Instant} {limit : Nat} {p : Permission}

/-! ## One grant -/

/-- A grant is accepted from an administrator, for a role that exists. -/
theorem serve_grantPermission_eq_ok :
    c.serve user now limit (.grantPermission role p) = (.ok (), c') ↔
      c.access.authorizeAdministrator user = .ok () ∧
        ∃ access, c.access.grantPermission role p = .ok access ∧
          c' = { c.expire now with access } := by
  have hauthorize : (c.expire now).access.authorizeAdministrator user =
      c.access.authorizeAdministrator user := rfl
  have hgrant : (c.expire now).access.grantPermission role p = c.access.grantPermission role p := rfl
  rw [serve]
  simp only [handle, plain, administer, hauthorize, hgrant]
  cases c.access.authorizeAdministrator user with
  | error e => simp [bind, Except.bind, Except.map]
  | ok u =>
    cases c.access.grantPermission role p with
    | error e => simp [bind, Except.bind, Except.map]
    | ok access => simp [bind, Except.bind, Except.map, pure, Except.pure, eq_comm]

theorem Admits.of_sameUsers (h : c.Admits g) (hsame : c.access.SameUsers c'.access) :
    c'.Admits g := by
  obtain ⟨⟨user, huser⟩, hrole⟩ := h
  exact ⟨⟨user, hsame.authorizeAdministrator.trans huser⟩, (hsame.roles g.role).trans hrole⟩

theorem admits_of_serve
    (h : c.serve user now limit (.grantPermission g.role g.permission) = (.ok (), c')) :
    c.Admits g := by
  obtain ⟨huser, access, hgrant, -⟩ := serve_grantPermission_eq_ok.1 h
  obtain ⟨permissions, hrole, -⟩ := AccessControl.grantPermission_eq_ok_iff.1 hgrant
  refine ⟨⟨user, huser⟩, ?_⟩
  rw [Std.ExtTreeMap.contains_eq_isSome_getElem?, hrole]
  rfl

/-- A permission that a role has already is granted, or the grant is refused. Both change nothing. -/
theorem serve_grantPermission_of_kind? (h : c.access.kind? role p.range = some p.kind)
    (user : String) (now : Instant) (limit : Nat) :
    (c.serve user now limit (.grantPermission role p)).2 = c.expire now := by
  cases hhandle : (c.expire now).handle user now limit (.grantPermission role p) with
  | error e => rw [serve_of_handle_eq_error hhandle]
  | ok answer =>
    have haccepted : c.serve user now limit (.grantPermission role p) = (.ok (), answer.2) :=
      serve_of_handle_eq_ok hhandle
    obtain ⟨-, access, hgrant, heq⟩ := serve_grantPermission_eq_ok.1 haccepted
    rw [AccessControl.grantPermission_of_kind? h, Except.ok.injEq] at hgrant
    rw [haccepted, heq, ← hgrant]
    rfl

/-! ## Many grants -/

namespace Grants

theorem sameUsers (h : Grants c grants c') : c.access.SameUsers c'.access := by
  induction h with
  | nil => exact .refl _
  | snoc _ hserve ih =>
    obtain ⟨-, access, hgrant, rfl⟩ := serve_grantPermission_eq_ok.1 hserve
    exact ih.trans (AccessControl.sameUsers_grantPermission hgrant)

/-- The kind of access that a role has to a range is that of the last grant. -/
theorem kind?_eq (h : Grants c grants c') (role : String) (range : KeyRange) :
    c'.access.kind? role range =
      (Grant.lastKind? grants role range).or (c.access.kind? role range) := by
  induction h with
  | nil => rfl
  | snoc _ hserve ih =>
    obtain ⟨-, access, hgrant, rfl⟩ := serve_grantPermission_eq_ok.1 hserve
    rw [Grant.lastKind?_concat]
    refine (AccessControl.kind?_grantPermission hgrant role range).trans ?_
    split
    · rfl
    · exact ih

theorem onePerRange (h : Grants c grants c') (hc : c.access.OnePerRange) :
    c'.access.OnePerRange := by
  induction h with
  | nil => exact hc
  | snoc _ hserve ih =>
    obtain ⟨-, access, hgrant, rfl⟩ := serve_grantPermission_eq_ok.1 hserve
    exact ih.grantPermission hgrant

theorem admits (h : Grants c grants c') : ∀ g ∈ grants, c.Admits g := by
  induction h with
  | nil => exact nofun
  | snoc hbefore hserve ih =>
    intro g hg
    rcases List.mem_append.1 hg with hold | hnew
    · exact ih g hold
    · rw [List.mem_singleton.1 hnew]
      have hsame := hbefore.sameUsers
      obtain ⟨⟨user, huser⟩, hrole⟩ := admits_of_serve hserve
      exact ⟨⟨user, hsame.authorizeAdministrator.symm.trans huser⟩,
        (hsame.roles _).symm.trans hrole⟩

/-- Grants that may be made one by one may be made one after the other. -/
theorem exists_of_admits (h : ∀ g ∈ grants, c.Admits g) : ∃ c', Grants c grants c' := by
  induction grants using List.reverseRecOn with
  | nil => exact ⟨c, .nil c⟩
  | append_singleton grants g ih =>
    rw [List.forall_mem_append, List.forall_mem_singleton] at h
    obtain ⟨c', hgrants⟩ := ih h.1
    obtain ⟨⟨user, huser⟩, hrole⟩ := h.2.of_sameUsers hgrants.sameUsers
    obtain ⟨access, hgrant⟩ := AccessControl.isOk_grantPermission g.permission hrole
    have hserve : c'.serve user 0 0 (.grantPermission g.role g.permission) =
        (.ok (), { c'.expire 0 with access }) :=
      serve_grantPermission_eq_ok.2 ⟨huser, access, hgrant, rfl⟩
    exact ⟨_, hgrants.snoc hserve⟩

/-- Grants that were accepted are accepted in any other order, and any number of times. -/
theorem exists_of_subset (h : Grants c grants c') (hsub : ∀ g ∈ grants', g ∈ grants) :
    ∃ c'', Grants c grants' c'' :=
  exists_of_admits fun g hg => h.admits g (hsub g hg)

/-- It does not matter in which order and how often the permissions are granted, as long as the last
    grants are for the same kinds. -/
theorem sameDecisions (hc : c.access.OnePerRange) (h : Grants c grants c')
    (h' : Grants c grants' c'')
    (hlast : ∀ role range, Grant.lastKind? grants' role range = Grant.lastKind? grants role range) :
    c'.access.SameDecisions c''.access := by
  intro user access key
  have hkind (role : String) : c''.access.kind? role = c'.access.kind? role := by
    funext range
    rw [h'.kind?_eq, h.kind?_eq, hlast]
  refine AccessControl.authorizeKey_congr (h.onePerRange hc) (h'.onePerRange hc) ?_ ?_
    (fun role _ => hkind role) access key
  · rw [h'.sameUsers.enabled, h.sameUsers.enabled]
  · rw [h'.sameUsers.users, h.sameUsers.users]

end Grants

theorem Reachable.onePerRange (h : c.Reachable) : c.access.OnePerRange := by
  obtain ⟨members, ops, hrun⟩ := h
  exact hrun.access_induction (fun _ _ _ hcarried ha => ha.carryOut hcarried)
    AccessControl.onePerRange_empty

/-- The permissions of roles are a map from ranges to kinds of access, and the last grant counts. From
    any state of a cluster on, after any grants that were accepted: a role has at most one permission
    for a range, and its kind is that of the last grant. To repeat the latest grant of a range changes
    nothing. Grants for different ranges or roles may change places, and so may any others as long as
    the last ones are for the same kinds: they are accepted in the new order, and everybody may do
    what they might do before. What a user may do depends on the roles that they hold and on the kinds
    of access that these have: nothing is denied while the checks are off or to who holds the role of
    the administrator, and everyone else may do what some role of theirs has a range and a kind for. -/
theorem last_grant_counts (hreachable : c.Reachable) (h : Grants c grants c') :
    (∀ (role : String) (permissions : List Permission), c'.access.roles[role]? = some permissions →
      (permissions.map (·.range)).Nodup) ∧
    (∀ role range, c'.access.kind? role range =
      (Grant.lastKind? grants role range).or (c.access.kind? role range)) ∧
    (∀ role (p : Permission), c'.access.kind? role p.range = some p.kind → ∀ user now limit,
      (c'.serve user now limit (.grantPermission role p)).2 = c'.expire now) ∧
    (∀ front g g' back, grants = front ++ g :: g' :: back →
      g.role ≠ g'.role ∨ g.permission.range ≠ g'.permission.range →
      ∃ c'', Grants c (front ++ g' :: g :: back) c'' ∧ c'.access.SameDecisions c''.access) ∧
    (∀ grants', (∀ g ∈ grants', g ∈ grants) →
      (∀ role range, Grant.lastKind? grants' role range = Grant.lastKind? grants role range) →
      (∃ c'', Grants c grants' c'') ∧
        ∀ c'', Grants c grants' c'' → c'.access.SameDecisions c''.access) ∧
    (∀ user access key, c'.access.authorizeKey user access key = .ok () ↔
      c'.access.enabled = false ∨ c'.access.Holds user administrator ∨
        ∃ role, c'.access.Holds user role ∧ ∃ p : Permission,
          c'.access.kind? role p.range = some p.kind ∧ p.covers key ∧ p.allows access) ∧
    ∀ c₂ : Cluster, c₂.Reachable → c₂.access.enabled = c'.access.enabled →
      ∀ user : String, c₂.access.users[user]? = c'.access.users[user]? →
        (∀ role, c'.access.Holds user role → c₂.access.kind? role = c'.access.kind? role) →
        ∀ access key, c₂.access.authorizeKey user access key = c'.access.authorizeKey user access key := by
  have hbefore := hreachable.onePerRange
  have hafter := h.onePerRange hbefore
  refine ⟨hafter, h.kind?_eq, fun role p => serve_grantPermission_of_kind?, ?_, ?_,
    fun user access key => AccessControl.authorizeKey_iff_kind? hafter, ?_⟩
  · intro front g g' back heq hne
    obtain ⟨c'', h'⟩ : ∃ c'', Grants c (front ++ g' :: g :: back) c'' := by
      refine h.exists_of_subset fun other hother => ?_
      rw [heq]
      simp only [List.mem_append, List.mem_cons] at hother ⊢
      rwa [or_left_comm (a := other = g)]
    refine ⟨c'', h', h.sameDecisions hbefore h' fun role range => ?_⟩
    rw [heq, Grant.lastKind?_swap hne]
  · intro grants' hsub hlast
    exact ⟨h.exists_of_subset hsub, fun c'' h' => h.sameDecisions hbefore h' hlast⟩
  · intro c₂ hreachable₂ hon user husers hkind
    exact AccessControl.authorizeKey_congr hafter hreachable₂.onePerRange hon husers hkind

/-- A role is granted to read one range, to do anything with a range that overlaps it, and then only to
    write the first one. -/
theorem last_grant_counts_overlapping :
    let requests : List Command := [.addUser "root" true, .grantRole "root" "root", .addRole "team",
      .addUser "ann" true, .grantRole "ann" "team", .enableAuth]
    let c := requests.foldl (fun c command => (c.serve "root" 0 1 command).2) (founded [])
    let reading : Grant := ⟨"team", ⟨.read, [97], [99]⟩⟩
    let anything : Grant := ⟨"team", ⟨.readWrite, [98], [100]⟩⟩
    let writing : Grant := ⟨"team", ⟨.write, [97], [99]⟩⟩
    c.Reachable ∧ ∃ c', Grants c [reading, anything, writing] c' ∧
      c'.access.kind? "team" ([97], [99]) = some .write ∧
      c'.access.authorizeKey "ann" .write [97] = .ok () ∧
      (c'.serve "root" 1 1 (.grantPermission "team" ⟨.write, [97], [99]⟩)).2 = c'.expire 1 ∧
      ∃ c'', Grants c [anything, reading, writing] c'' ∧ c'.access.SameDecisions c''.access := by
  intro requests c reading anything writing
  have hfounded : (founded []).Reachable := ⟨[], [], .nil _⟩
  have hreachable : c.Reachable := hfounded.foldl_serve "root" 0 1 requests
  have hroot : c.access.authorizeAdministrator "root" = .ok () := by decide +kernel
  have hteam : c.access.roles.contains "team" := by decide +kernel
  obtain ⟨c', hgrants⟩ : ∃ c', Grants c [reading, anything, writing] c' := by
    refine Grants.exists_of_admits fun g hg => ⟨⟨"root", hroot⟩, ?_⟩
    simp only [List.mem_cons, List.not_mem_nil, or_false] at hg
    rcases hg with rfl | rfl | rfl <;> exact hteam
  obtain ⟨-, hkind, hrepeat, hswap, -, hallowed, -⟩ := last_grant_counts hreachable hgrants
  have hwriting : c'.access.kind? "team" ([97], [99]) = some .write := by
    rw [hkind]
    decide +kernel
  have hann : c'.access.Holds "ann" "team" := by
    rw [AccessControl.Holds, hgrants.sameUsers.users]
    decide +kernel
  refine ⟨hreachable, c', hgrants, hwriting, ?_, hrepeat "team" ⟨.write, [97], [99]⟩ hwriting "root" 1 1,
    hswap [] reading anything [writing] rfl (.inr (by decide))⟩
  exact (hallowed "ann" .write [97]).2
    (.inr (.inr ⟨"team", hann, ⟨.write, [97], [99]⟩, hwriting, by decide, rfl⟩))

end Cluster

end ClusterVault
