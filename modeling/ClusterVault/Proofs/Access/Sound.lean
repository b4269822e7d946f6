import ClusterVault.Proofs.Access.SetUp

/-!
# Rights that can be set up

Anyone may change users and roles before access control is switched on, and administrators may
afterwards. Whatever they do, access control can still be set up: nothing is ever taken away, so what
one request has brought is there when a later one needs it.

## Main definitions

- `AccessControl.Holds`, `AccessControl.Extends`: rights, and more rights
- `AccessControl.Sound`: nobody has locked the administrator out

## Main statements

- `AccessControl.Sound.carryOut`: that stays so
- `AccessControl.Sound.setUp`: access control can be set up
- `Cluster.carryOut_of_handle_eq_ok`: a request that is accepted does to the rights what it says
-/

namespace ClusterVault

namespace AccessControl

/-- A user holds a role. -/
def Holds (a : AccessControl) (user role : String) : Prop :=
  ∃ held ∈ a.users[user]?, held.contains role

/-- All rights that there were are there still. -/
structure Extends (a a' : AccessControl) : Prop where
  enabled : a.enabled → a'.enabled
  roles : ∀ role, a.roles.contains role → a'.roles.contains role
  users : ∀ user, a.users.contains user → a'.users.contains user
  holds : ∀ user role, a.Holds user role → a'.Holds user role

/-- There are administrators, and the one named so is not locked out. -/
structure Sound (a : AccessControl) : Prop where
  role : a.roles.contains administrator
  trusts : a.Trusts administrator

variable {a a' a'' : AccessControl} {command : Command} {name role user : String} {p : Permission}

theorem Extends.refl (a : AccessControl) : a.Extends a :=
  ⟨id, fun _ => id, fun _ => id, fun _ _ => id⟩

theorem Extends.trans (h : a.Extends a') (h' : a'.Extends a'') : a.Extends a'' where
  enabled hon := h'.enabled (h.enabled hon)
  roles role hrole := h'.roles role (h.roles role hrole)
  users user huser := h'.users user (h.users user huser)
  holds user role hholds := h'.holds user role (h.holds user role hholds)

theorem Holds.contains (h : a.Holds user role) : a.users.contains user := by
  obtain ⟨held, hheld, -⟩ := h
  rw [Std.ExtTreeMap.contains_eq_isSome_getElem?, Option.mem_def.1 hheld]
  rfl

/-! ## Changes -/

theorem addRole_eq_ok (h : a.addRole name = .ok a') :
    a' = { a with roles := a.roles.insert name [] } := by
  unfold addRole at h
  split at h
  · cases h
  · split at h
    · cases h
    · cases h
      rfl

theorem grantPermission_eq_ok (h : a.grantPermission role p = .ok a') :
    ∃ permissions, a' = { a with roles := a.roles.insert role permissions } := by
  unfold grantPermission at h
  split at h
  · cases h
  · cases h
    exact ⟨_, rfl⟩

theorem addUser_eq_ok (h : a.addUser name = .ok a') :
    a.users.contains name = false ∧ a' = { a with users := a.users.insert name ∅ } := by
  unfold addUser at h
  split at h
  · cases h
  · split at h
    · cases h
    · next hnew =>
      cases h
      exact ⟨Bool.eq_false_iff.2 hnew, rfl⟩

theorem grantRole_eq_ok (h : a.grantRole user role = .ok a') :
    a.roles.contains role ∧
      ∃ held ∈ a.users[user]?, a' = { a with users := a.users.insert user (held.insert role) } := by
  unfold grantRole at h
  split at h
  · cases h
  · next hrole =>
    split at h
    · cases h
    · next held hheld =>
      cases h
      exact ⟨by simpa using hrole, held, hheld, rfl⟩

theorem enable_eq_ok (h : a.enable = .ok a') :
    a.Holds administrator administrator ∧ a' = { a with enabled := true } := by
  unfold enable at h
  split at h
  · cases h
  · next held hheld =>
    split at h
    · next hadministrator =>
      cases h
      exact ⟨⟨held, hheld, hadministrator⟩, rfl⟩
    · cases h

theorem extends_insert_role (a : AccessControl) (name : String) (permissions : List Permission) :
    a.Extends { a with roles := a.roles.insert name permissions } where
  enabled := id
  roles role hrole := by simp [hrole]
  users _ := id
  holds _ _ := id

/-- A user who gets a set of roles keeps those that it had. -/
theorem extends_insert_user {held : Std.ExtTreeSet String}
    (h : ∀ role, a.Holds user role → held.contains role) :
    a.Extends { a with users := a.users.insert user held } where
  enabled := id
  roles _ := id
  users other hother := by simp [hother]
  holds other role hholds := by
    by_cases hsame : other = user
    · subst hsame
      exact ⟨held, by simp, h role hholds⟩
    · obtain ⟨old, hold, hrole⟩ := hholds
      refine ⟨old, ?_, hrole⟩
      rw [Option.mem_def] at hold ⊢
      simp [Std.ExtTreeMap.getElem?_insert, hold, Ne.symm hsame]

/-- No request takes rights away. -/
theorem extends_of_carryOut (h : a.carryOut command = .ok a') : a.Extends a' := by
  cases command with
  | transact | grantLease | revokeLease | authStatus =>
    cases h
    exact .refl a
  | addRole name =>
    obtain rfl := addRole_eq_ok h
    exact extends_insert_role a name []
  | grantPermission role p =>
    obtain ⟨permissions, rfl⟩ := grantPermission_eq_ok h
    exact extends_insert_role a role permissions
  | addUser name =>
    obtain ⟨hnew, rfl⟩ := addUser_eq_ok h
    refine extends_insert_user fun role hholds => ?_
    rw [hholds.contains] at hnew
    cases hnew
  | grantRole user role =>
    obtain ⟨-, held, hheld, rfl⟩ := grantRole_eq_ok h
    refine extends_insert_user ?_
    rintro other ⟨old, hold, hother⟩
    cases (Option.mem_def.1 hheld).symm.trans hold
    simp [hother]
  | enableAuth =>
    rw [carryOut] at h
    split at h
    · cases h
      exact .refl a
    · obtain ⟨-, rfl⟩ := enable_eq_ok h
      exact ⟨fun _ => rfl, fun _ => id, fun _ => id, fun _ _ => id⟩

/-- Access control is switched on only if the administrator is there. -/
theorem holds_of_carryOut (h : a.carryOut command = .ok a') (hoff : a.enabled = false)
    (hon : a'.enabled) : a'.Holds administrator administrator := by
  cases command with
  | enableAuth =>
    rw [carryOut, hoff] at h
    obtain ⟨hholds, rfl⟩ := enable_eq_ok h
    exact hholds
  | transact | grantLease | revokeLease | authStatus =>
    cases h
    rw [hoff] at hon
    cases hon
  | addRole name =>
    obtain rfl := addRole_eq_ok h
    rw [hoff] at hon
    cases hon
  | grantPermission role p =>
    obtain ⟨permissions, rfl⟩ := grantPermission_eq_ok h
    rw [hoff] at hon
    cases hon
  | addUser name =>
    obtain ⟨-, rfl⟩ := addUser_eq_ok h
    rw [hoff] at hon
    cases hon
  | grantRole user role =>
    obtain ⟨-, held, -, rfl⟩ := grantRole_eq_ok h
    rw [hoff] at hon
    cases hon

theorem sound_empty : Sound {} := ⟨by decide +kernel, .inl rfl⟩

/-- No request locks the administrator out. -/
theorem Sound.carryOut (h : a.Sound) (hcarried : a.carryOut command = .ok a') : a'.Sound := by
  have hextends := extends_of_carryOut hcarried
  refine ⟨hextends.roles _ h.role, ?_⟩
  cases hon : a'.enabled with
  | false => exact .inl hon
  | true =>
    refine .inr ?_
    rcases h.trusts with hoff | hholds
    · exact holds_of_carryOut hcarried hoff hon
    · exact hextends.holds _ _ hholds

/-! ## Setting up -/

theorem extends_of_proceed? (h : a.proceed? command = some a') : a.Extends a' := by
  unfold proceed? at h
  split at h
  · next hcarried =>
    cases h
    exact extends_of_carryOut hcarried
  · split at h
    · cases h
      exact .refl a
    · cases h

theorem Sound.proceed? (h : a.Sound) (hproceed : a.proceed? command = some a') : a'.Sound := by
  unfold AccessControl.proceed? at hproceed
  split at hproceed
  · next hcarried =>
    cases hproceed
    exact h.carryOut hcarried
  · split at hproceed
    · cases hproceed
      exact h
    · cases hproceed

theorem proceed?_addRole (a : AccessControl) (hname : name.isEmpty = false) :
    ∃ a', a.proceed? (.addRole name) = some a' ∧ a'.roles.contains name := by
  rw [AccessControl.proceed?, AccessControl.carryOut, addRole, hname]
  cases hthere : a.roles.contains name with
  | true => exact ⟨a, rfl, hthere⟩
  | false => exact ⟨_, rfl, by simp⟩

theorem proceed?_grantPermission (p : Permission) (hrole : a.roles.contains role) :
    ∃ a', a.proceed? (.grantPermission role p) = some a' := by
  rw [Std.ExtTreeMap.contains_eq_isSome_getElem?, Option.isSome_iff_exists] at hrole
  obtain ⟨permissions, hpermissions⟩ := hrole
  rw [AccessControl.proceed?, AccessControl.carryOut, grantPermission, hpermissions]
  exact ⟨_, rfl⟩

theorem proceed?_addUser (a : AccessControl) (hname : name.isEmpty = false) (noPassword : Bool) :
    ∃ a', a.proceed? (.addUser name noPassword) = some a' ∧ a'.users.contains name := by
  rw [AccessControl.proceed?, AccessControl.carryOut, addUser, hname]
  cases hthere : a.users.contains name with
  | true => exact ⟨a, rfl, hthere⟩
  | false => exact ⟨_, rfl, by simp⟩

theorem proceed?_grantRole (hrole : a.roles.contains role) (huser : a.users.contains user) :
    ∃ a', a.proceed? (.grantRole user role) = some a' ∧ a'.Holds user role := by
  rw [Std.ExtTreeMap.contains_eq_isSome_getElem?, Option.isSome_iff_exists] at huser
  obtain ⟨held, hheld⟩ := huser
  rw [AccessControl.proceed?, AccessControl.carryOut, grantRole, hrole, hheld]
  exact ⟨_, rfl, held.insert role, by simp, by simp⟩

theorem proceed?_enableAuth (h : a.Holds administrator administrator) :
    ∃ a', a.proceed? .enableAuth = some a' ∧ a'.enabled := by
  obtain ⟨held, hheld, hadministrator⟩ := h
  rw [AccessControl.proceed?, AccessControl.carryOut, enable, Option.mem_def.1 hheld]
  cases hon : a.enabled with
  | true => exact ⟨a, rfl, hon⟩
  | false =>
    dsimp only
    rw [if_pos hadministrator]
    exact ⟨_, rfl, rfl⟩

/-- Access control can be set up, whatever has been set up before. -/
theorem Sound.setUp (h : a.Sound) :
    ∃ a', setUpCommands.foldlM AccessControl.proceed? a = some a' ∧ a'.enabled := by
  have hclient : clientPrincipal.isEmpty = false := by decide
  have hadministrator : administrator.isEmpty = false := by decide
  -- what one request brings stays for those that need it
  obtain ⟨a₁, h₁, hrole⟩ := proceed?_addRole a hclient
  obtain ⟨a₂, h₂⟩ := proceed?_grantPermission secretsPermission hrole
  obtain ⟨a₃, h₃, huser⟩ := proceed?_addUser a₂ hadministrator true
  have hextends := (extends_of_proceed? h₁).trans <| (extends_of_proceed? h₂).trans
    (extends_of_proceed? h₃)
  obtain ⟨a₄, h₄, hholds⟩ := proceed?_grantRole (hextends.roles _ h.role) huser
  obtain ⟨a₅, h₅, hclientUser⟩ := proceed?_addUser a₄ hclient true
  have hextends := (extends_of_proceed? h₂).trans <| (extends_of_proceed? h₃).trans <|
    (extends_of_proceed? h₄).trans (extends_of_proceed? h₅)
  obtain ⟨a₆, h₆, -⟩ := proceed?_grantRole (hextends.roles _ hrole) hclientUser
  have hextends := (extends_of_proceed? h₅).trans (extends_of_proceed? h₆)
  obtain ⟨a₇, h₇, hon⟩ := proceed?_enableAuth (hextends.holds _ _ hholds)
  refine ⟨a₇, ?_, hon⟩
  have hstatus : a.proceed? .authStatus = some a := rfl
  simp only [setUpCommands, List.foldlM_cons, List.foldlM_nil, Option.bind_eq_bind, hstatus,
    Option.bind_some, h₁, h₂, h₃, h₄, h₅, h₆, h₇, Option.pure_def]

end AccessControl

/-! ## Requests -/

namespace Cluster

variable {c c' : Cluster} {user : String} {now : Instant} {limit : Nat} {command : Command}

theorem carryOut_of_administer_eq_ok {change : AccessControl → Except EngineError AccessControl}
    (h : c.administer user change = .ok c') : change c.access = .ok c'.access := by
  obtain ⟨_, -, h⟩ := bind_eq_ok.1 h
  obtain ⟨access, hchange, h⟩ := bind_eq_ok.1 h
  cases h
  exact hchange

theorem carryOut_of_enableAuth_eq_ok (h : c.enableAuth user = .ok c') :
    c.access.carryOut .enableAuth = .ok c'.access := by
  rw [AccessControl.carryOut]
  unfold enableAuth at h
  split at h
  · next hon =>
    obtain ⟨_, -, h⟩ := bind_eq_ok.1 h
    cases h
    rw [if_pos hon]
  · next hoff =>
    obtain ⟨access, henable, h⟩ := bind_eq_ok.1 h
    cases h
    rw [if_neg hoff]
    exact henable

/-- A request of any user that is accepted does to the rights what it says. -/
theorem carryOut_of_handle_eq_ok {reply : command.Reply}
    (h : c.handle user now limit command = .ok (reply, c')) :
    c.access.carryOut command = .ok c'.access := by
  cases command with
  | transact t =>
    have haccess : c'.access = c.access := congrArg (·.2.access) (transact_eq_ok h).2
    rw [haccess]
    rfl
  | grantLease ttl =>
    obtain ⟨deadline, -, -, rfl⟩ := grantLease_eq_ok h
    rfl
  | revokeLease id =>
    rw [revokeLease_eq_ok (plain_eq_ok h)]
    rfl
  | authStatus =>
    have hstatus : (c.authStatus user).map (·, c) = .ok (reply, c') := h
    cases hanswer : c.authStatus user with
    | error e =>
      rw [hanswer] at hstatus
      cases hstatus
    | ok enabled =>
      rw [hanswer] at hstatus
      cases hstatus
      rfl
  | addRole | grantPermission | addUser | grantRole =>
    exact carryOut_of_administer_eq_ok (plain_eq_ok h)
  | enableAuth => exact carryOut_of_enableAuth_eq_ok (plain_eq_ok h)

end Cluster

end ClusterVault
