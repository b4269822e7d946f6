import ClusterVault.Proofs.Access.Sound
import ClusterVault.Proofs.Cluster.Query

/-!
# The administrator is never locked out

Before access control is switched on anyone may change users and roles, and afterwards whoever is an
administrator. This module shows that none of it, in whatever order, takes the administrator's
authority away, and that access control stays on once it is on.

## Main definitions

- `AccessControl.RolesExist`: the roles that users hold are there
- `EngineError.IsDenial`: a request is refused for want of rights

## Main statements

- `Cluster.Run.access_induction`: what no request on access control breaks holds along every run
- `Cluster.not_isDenial_of_serve_of_trusts`, `Cluster.not_isDenial_of_manage_of_trusts`: a trusted
  user is refused nothing for want of rights
- `Cluster.administrator_keeps_authority`: neither the checks nor the administrator's rights go away
-/

namespace ClusterVault

/-- A request is refused for want of rights. -/
def EngineError.IsDenial (e : EngineError) : Prop := e.kind = .permissionDenied

namespace AccessControl

/-- The roles that users hold are there. -/
def RolesExist (a : AccessControl) : Prop := ∀ user role, a.Holds user role → a.roles.contains role

variable {a a' : AccessControl} {command : Command} {name role user : String} {e : EngineError}

theorem rolesExist_empty : RolesExist {} := by
  rintro user role ⟨held, hheld, -⟩
  simp at hheld

/-- A user's set of roles may be replaced by one whose roles are there. -/
theorem RolesExist.insert_user (h : a.RolesExist) {held : Std.ExtTreeSet String}
    (hheld : ∀ role, held.contains role → a.roles.contains role) :
    RolesExist { a with users := a.users.insert name held } := by
  intro user role hholds
  obtain ⟨roles, hroles, hrole⟩ := hholds
  rw [Option.mem_def, Std.ExtTreeMap.getElem?_insert] at hroles
  split at hroles
  · cases hroles
    exact hheld role hrole
  · exact h user role ⟨roles, hroles, hrole⟩

theorem RolesExist.insert_role (h : a.RolesExist) (permissions : List Permission) :
    RolesExist { a with roles := a.roles.insert name permissions } := by
  intro user role hholds
  have hrole := h user role hholds
  simp [hrole]

/-- A role can only be given if it is there. -/
theorem RolesExist.carryOut (h : a.RolesExist) (hcarried : a.carryOut command = .ok a') :
    a'.RolesExist := by
  cases command with
  | transact | grantLease | revokeLease | authStatus =>
    cases hcarried
    exact h
  | addRole name =>
    obtain rfl := addRole_eq_ok hcarried
    exact h.insert_role []
  | grantPermission role p =>
    obtain ⟨permissions, rfl⟩ := grantPermission_eq_ok hcarried
    exact h.insert_role permissions
  | addUser name =>
    obtain ⟨-, rfl⟩ := addUser_eq_ok hcarried
    refine h.insert_user ?_
    intro role hrole
    simp at hrole
  | grantRole user role =>
    obtain ⟨hthere, held, hheld, rfl⟩ := grantRole_eq_ok hcarried
    refine h.insert_user ?_
    intro other hother
    by_cases hsame : other = role
    · subst hsame
      exact hthere
    · have hbefore : held.contains other := by simpa [Ne.symm hsame] using hother
      exact h user other ⟨held, hheld, hbefore⟩
  | enableAuth =>
    rw [AccessControl.carryOut] at hcarried
    split at hcarried
    · cases hcarried
      exact h
    · obtain ⟨-, rfl⟩ := enable_eq_ok hcarried
      exact h

/-! ## Refusals -/

theorem not_isDenial_of_carryOut (h : a.carryOut command = .error e) : ¬e.IsDenial := by
  cases command with
  | transact | grantLease | revokeLease | authStatus => cases h
  | addRole | grantPermission | addUser | grantRole =>
    grind [carryOut, addRole, grantPermission, addUser, grantRole, EngineError.IsDenial,
      EngineError.kind]
  | enableAuth => grind [carryOut, enable, EngineError.IsDenial, EngineError.kind]

end AccessControl

namespace Cluster

variable {c c' : Cluster} {ops ran : List Operation} {user : String} {now : Instant} {limit : Nat}
  {ids : IdSource} {e : EngineError}

theorem not_isDenial_of_transact_of_trusts (h : c.access.Trusts user) {t : Transaction}
    (he : c.transact user limit t = .error e) : ¬e.IsDenial := by
  rw [transact_eq, h.authorizeAll] at he
  split at he
  · dsimp only at he
    split at he
    · cases he
      exact nofun
    · cases he
  · cases he
    exact nofun

theorem not_isDenial_of_grantLease_of_trusts (h : c.access.Trusts user) {ttl : Int}
    (he : c.grantLease user now ttl = .error e) : ¬e.IsDenial := by
  by_cases hpos : 0 < ttl
  · rw [grantLease_of_trusts h hpos] at he
    split at he
    · cases he
      exact nofun
    · cases he
  · have hle : ttl ≤ 0 := by omega
    rw [grantLease, h.authenticate] at he
    simp only [bind, Except.bind, hle, if_true] at he
    cases he
    exact nofun

/-- What a trusted user asks for is never refused for want of rights. -/
theorem not_isDenial_of_handle_of_trusts (h : c.access.Trusts user) {command : Command}
    (he : c.handle user now limit command = .error e) : ¬e.IsDenial := by
  by_cases hconcerns : command.concernsAccess
  · rcases handle_cases_of_trusts h hconcerns now limit with ⟨e', hcarry, hhandle⟩ |
      ⟨reply, access, -, hhandle⟩
    · rw [hhandle] at he
      cases he
      exact AccessControl.not_isDenial_of_carryOut hcarry
    · rw [hhandle] at he
      cases he
  · cases command with
    | transact t => exact not_isDenial_of_transact_of_trusts h he
    | grantLease ttl => exact not_isDenial_of_grantLease_of_trusts h he
    | revokeLease id =>
      rw [handle, revokeLease_of_trusts h] at he
      split at he
      · cases he
      · cases he
        exact nofun
    | _ => exact absurd rfl hconcerns

theorem not_isDenial_of_serve_of_trusts (h : c.access.Trusts user) {command : Command}
    (he : (c.serve user now limit command).1 = .error e) : ¬e.IsDenial := by
  have hexpired : (c.expire now).access.Trusts user := h
  cases hhandle : (c.expire now).handle user now limit command with
  | error e' =>
    rw [serve_of_handle_eq_error hhandle] at he
    cases he
    exact not_isDenial_of_handle_of_trusts hexpired hhandle
  | ok answer =>
    rw [serve_of_handle_eq_ok hhandle] at he
    cases he

theorem not_isDenial_of_addMember_of_trusts (h : c.access.Trusts user) {urls : List Url}
    (he : c.addMember user ids urls = .error e) : ¬e.IsDenial := by
  rw [addMember, h.authorizeAdministrator] at he
  simp only [bind, Except.bind] at he
  split at he
  · cases he
    exact nofun
  · split at he
    · cases he
      exact nofun
    · cases he

theorem not_isDenial_of_removeMember_of_trusts (h : c.access.Trusts user) {id : Nat}
    (he : c.removeMember user id = .error e) : ¬e.IsDenial := by
  rw [removeMember, h.authorizeAdministrator] at he
  simp only [bind, Except.bind] at he
  split at he
  · cases he
  · cases he
    exact nofun

theorem not_isDenial_of_manage_of_trusts (h : c.access.Trusts user) {command : MemberCommand}
    (he : (c.manage user now ids command).1 = .error e) : ¬e.IsDenial := by
  have hexpired : (c.expire now).access.Trusts user := h
  cases command with
  | list =>
    simp only [manage, listMembers, hexpired.authorizeAdministrator] at he
    cases he
  | add urls =>
    rw [manage] at he
    cases hadd : (c.expire now).addMember user ids urls with
    | error e' =>
      simp only [hadd] at he
      cases he
      exact not_isDenial_of_addMember_of_trusts hexpired hadd
    | ok answer =>
      simp only [hadd] at he
      cases he
  | remove id =>
    rw [manage] at he
    cases hremove : (c.expire now).removeMember user id with
    | error e' =>
      simp only [hremove] at he
      cases he
      exact not_isDenial_of_removeMember_of_trusts hexpired hremove
    | ok c' =>
      simp only [hremove] at he
      cases he

/-! ## Runs -/

/-- What happens to a cluster does to its rights what some request on access control does. -/
theorem Step.carryOut (h : Step c ops c') :
    ∃ command, c.access.carryOut command = .ok c'.access := by
  cases h with
  | expire now => exact ⟨.authStatus, rfl⟩
  | @handle _ _ _ _ command _ hhandle => exact ⟨command, carryOut_of_handle_eq_ok hhandle⟩
  | registry members => exact ⟨.authStatus, rfl⟩

/-- What no request on access control breaks holds along every run. -/
theorem Run.access_induction {I : AccessControl → Prop}
    (hcarry : ∀ a a' command, a.carryOut command = .ok a' → I a → I a') (h : Run c ops c')
    (hc : I c.access) : I c'.access := by
  induction h with
  | nil => exact hc
  | snoc _ hstep ih =>
    obtain ⟨command, hcommand⟩ := hstep.carryOut
    exact hcarry _ _ command hcommand ih

theorem Run.sound (h : Run c ops c') (hc : c.access.Sound) : c'.access.Sound :=
  h.access_induction (fun _ _ _ hcarried ha => ha.carryOut hcarried) hc

theorem Run.rolesExist (h : Run c ops c') (hc : c.access.RolesExist) : c'.access.RolesExist :=
  h.access_induction (fun _ _ _ hcarried ha => ha.carryOut hcarried) hc

theorem Run.extends (h : Run c ops c') : c.access.Extends c'.access :=
  h.access_induction (I := c.access.Extends)
    (fun _ _ _ hcarried ha => ha.trans (AccessControl.extends_of_carryOut hcarried)) (.refl _)

theorem Reachable.sound (h : c.Reachable) : c.access.Sound := by
  obtain ⟨members, ops, hrun⟩ := h
  exact hrun.sound AccessControl.sound_empty

theorem Reachable.rolesExist (h : c.Reachable) : c.access.RolesExist := by
  obtain ⟨members, ops, hrun⟩ := h
  exact hrun.rolesExist AccessControl.rolesExist_empty

/-- Whatever has been asked of a cluster by whomever, and whatever else is asked of it, the role of
    the administrator and all roles that users hold are there, access control does not go off, and
    while it is on the administrator is a user who holds that role. So the administrator passes every
    check, and no request of theirs is refused for want of rights. -/
theorem administrator_keeps_authority (hreachable : c.Reachable) (h : Run c ops c') :
    c'.access.roles.contains administrator ∧
    (∀ user role, c'.access.Holds user role → c'.access.roles.contains role) ∧
    (c.access.enabled → c'.access.enabled) ∧
    (c'.access.enabled → c'.access.users.contains administrator ∧
      c'.access.Holds administrator administrator) ∧
    (c'.access.authenticate administrator = .ok () ∧
      c'.access.authorizeAdministrator administrator = .ok () ∧
      ∀ access key, c'.access.authorizeKey administrator access key = .ok ()) ∧
    (∀ now limit command e,
      (c'.serve administrator now limit command).1 = .error e → ¬e.IsDenial) ∧
    ∀ now ids command e, (c'.manage administrator now ids command).1 = .error e → ¬e.IsDenial := by
  have hreachable' : c'.Reachable := hreachable.run h
  have htrusts : c'.access.Trusts administrator := hreachable'.sound.trusts
  have hholds (hon : c'.access.enabled) : c'.access.Holds administrator administrator := by
    rcases htrusts with hoff | hholds
    · rw [hon] at hoff
      cases hoff
    · exact hholds
  refine ⟨hreachable'.sound.role, hreachable'.rolesExist, h.extends.enabled, ?_, ?_, ?_, ?_⟩
  · intro hon
    exact ⟨(hholds hon).contains, hholds hon⟩
  · exact ⟨htrusts.authenticate, htrusts.authorizeAdministrator, htrusts.authorizeKey⟩
  · intro now limit command e he
    exact not_isDenial_of_serve_of_trusts htrusts he
  · intro now ids command e he
    exact not_isDenial_of_manage_of_trusts htrusts he

/-- Someone who is nobody sets up access control while it is off, with the administrator's role given
    only to the administrator, and then wants more. -/
theorem administrator_keeps_authority_set_up_by_stranger :
    let requests : List Command := [.addUser "root" true, .enableAuth, .grantRole "root" "root",
      .addUser "adam" true, .enableAuth, .grantRole "adam" "root"]
    let c := requests.foldl (fun c command => (c.serve "eve" 0 1 command).2) (founded [])
    let c' := (c.serve "adam" 1 1 (.grantRole "adam" "root")).2
    c.access.enabled ∧ c'.access.enabled ∧ c'.access.Holds "root" "root" ∧
      c'.access.authorizeKey "root" .write [97] = .ok () ∧
      (c'.serve "root" 2 1 (.addUser "adam" true)).1 = .error (.alreadyExists (.user "adam")) ∧
      ¬(EngineError.alreadyExists (.user "adam")).IsDenial := by
  intro requests c c'
  have hfounded : (founded []).Reachable := ⟨[], [], .nil _⟩
  have hreachable : c.Reachable := hfounded.foldl_serve "eve" 0 1 requests
  obtain ⟨ops, hrun⟩ := c.run_serve "adam" 1 1 (.grantRole "adam" "root")
  obtain ⟨-, -, hstays, hholds, ⟨-, -, hkey⟩, hserve, -⟩ :=
    administrator_keeps_authority hreachable hrun
  have hon : c.access.enabled := by decide +kernel
  have hrefused : (c'.serve "root" 2 1 (.addUser "adam" true)).1 =
      .error (.alreadyExists (.user "adam")) := by decide +kernel
  exact ⟨hon, hstays hon, (hholds (hstays hon)).2, hkey .write [97], hrefused,
    hserve 2 1 (.addUser "adam" true) _ hrefused⟩

end Cluster

end ClusterVault
