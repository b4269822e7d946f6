import ClusterVault.Proofs.Access.Checks
import ClusterVault.Proofs.Access.Sound
import Mathlib.Data.List.Nodup

/-!
# The last grant for a range counts

The permissions of a role are kept in the order in which their ranges were first granted, and a later
grant for the same range changes the kind of the permission where it stands. All that the checks see
of this list is which kind of access it gives to which range, and that is the kind of the last grant.

## Main definitions

- `Permission.range`: the range that a permission is for
- `Grant.lastKind?`: the kind of the last grant for a range of a role
- `AccessControl.kind?`: the kind of access that a role has to a range
- `AccessControl.OnePerRange`: no role has two permissions for one range

## Main statements

- `AccessControl.OnePerRange.carryOut`: that stays so whatever is asked for
- `AccessControl.kind?_grantPermission`: a grant sets the kind of one range of one role
- `AccessControl.authorizeKey_iff_kind?`: what a user may do, by the kinds of access of their roles
-/

namespace ClusterVault

/-- A range of keys, by its start and its end. -/
abbrev KeyRange := Bytes × Bytes

/-- The range that a permission is for. -/
def Permission.range (p : Permission) : KeyRange := (p.key, p.rangeEnd)

/-- A permission that is granted to a role. -/
structure Grant where
  role : String
  permission : Permission
  deriving DecidableEq, Repr

namespace Grant

/-- The grant is for a range of a role. -/
def isFor (role : String) (range : KeyRange) (g : Grant) : Bool :=
  g.role = role && g.permission.range = range

/-- The kind of the last grant for a range of a role. -/
def lastKind? (grants : List Grant) (role : String) (range : KeyRange) : Option AccessKind :=
  (grants.filter (isFor role range)).getLast?.map (·.permission.kind)

variable {grants front back : List Grant} {g g' : Grant} {role : String} {range : KeyRange}

theorem lastKind?_concat (grants : List Grant) (g : Grant) (role : String) (range : KeyRange) :
    lastKind? (grants ++ [g]) role range =
      if g.isFor role range then some g.permission.kind else lastKind? grants role range := by
  rw [lastKind?, List.filter_append]
  by_cases hfor : g.isFor role range
  · rw [List.filter_cons_of_pos hfor, List.filter_nil, List.getLast?_concat, if_pos hfor]
    rfl
  · rw [List.filter_cons_of_neg hfor, List.filter_nil, List.append_nil, if_neg hfor]
    rfl

/-- Two grants for different ranges or roles may change places. -/
theorem lastKind?_swap (h : g.role ≠ g'.role ∨ g.permission.range ≠ g'.permission.range)
    (front back : List Grant) (role : String) (range : KeyRange) :
    lastKind? (front ++ g' :: g :: back) role range =
      lastKind? (front ++ g :: g' :: back) role range := by
  have hboth : ¬(g.isFor role range = true ∧ g'.isFor role range = true) := by
    simp only [isFor, Bool.and_eq_true, decide_eq_true_eq]
    rintro ⟨⟨rfl, rfl⟩, hrole, hrange⟩
    exact h.elim (fun hne => hne hrole.symm) (fun hne => hne hrange.symm)
  rw [lastKind?, lastKind?, List.filter_append, List.filter_append]
  by_cases hg : g.isFor role range
  · have hg' : ¬g'.isFor role range = true := fun hg' => hboth ⟨hg, hg'⟩
    simp only [List.filter_cons_of_pos hg, List.filter_cons_of_neg hg']
  · by_cases hg' : g'.isFor role range
    · simp only [List.filter_cons_of_neg hg, List.filter_cons_of_pos hg']
    · simp only [List.filter_cons_of_neg hg, List.filter_cons_of_neg hg']

end Grant

namespace Permission

variable {p q : Permission}

theorem range_eq_range : q.range = p.range ↔ q.key = p.key ∧ q.rangeEnd = p.rangeEnd := by
  rw [range, range, Prod.mk.injEq]

/-- A permission is told by its range and its kind. -/
theorem eq_of_range_eq (hrange : q.range = p.range) (hkind : q.kind = p.kind) : q = p := by
  obtain ⟨hkey, hend⟩ := range_eq_range.1 hrange
  cases p
  cases q
  simp_all

end Permission

namespace AccessControl

/-- The kind of access that permissions give to a range. -/
def kindIn? (permissions : List Permission) (range : KeyRange) : Option AccessKind :=
  (permissions.find? (·.range = range)).map (·.kind)

/-- The kind of access that a role has to a range. -/
def kind? (a : AccessControl) (role : String) (range : KeyRange) : Option AccessKind :=
  a.roles[role]?.bind (kindIn? · range)

/-- No role has two permissions for one range. -/
def OnePerRange (a : AccessControl) : Prop :=
  ∀ (role : String) (permissions : List Permission), a.roles[role]? = some permissions →
    (permissions.map (·.range)).Nodup

variable {a a' : AccessControl} {command : Command} {role user : String}
  {permissions : List Permission} {p q : Permission} {range : KeyRange} {access : Access}
  {key : Bytes} {g : Grant}

/-! ## The permissions of a role -/

theorem grantInto_cons (p q : Permission) (permissions : List Permission) :
    grantInto p (q :: permissions) =
      if q.range = p.range then p :: permissions else q :: grantInto p permissions := by
  by_cases hsame : q.range = p.range
  · obtain ⟨hkey, hend⟩ := Permission.range_eq_range.1 hsame
    rw [grantInto, if_pos (by simp [hkey, hend]), if_pos hsame, hkey, hend]
  · rw [grantInto, if_neg (by simpa [Permission.range_eq_range] using hsame), if_neg hsame]

theorem kindIn?_cons (q : Permission) (permissions : List Permission) (range : KeyRange) :
    kindIn? (q :: permissions) range =
      if q.range = range then some q.kind else kindIn? permissions range := by
  by_cases hsame : q.range = range
  · rw [kindIn?, List.find?_cons_of_pos (by simpa using hsame), if_pos hsame]
    rfl
  · rw [kindIn?, List.find?_cons_of_neg (by simpa using hsame), if_neg hsame]
    rfl

/-- A grant sets the kind of its range and leaves all others. -/
theorem kindIn?_grantInto (p : Permission) (permissions : List Permission) (range : KeyRange) :
    kindIn? (grantInto p permissions) range =
      if p.range = range then some p.kind else kindIn? permissions range := by
  induction permissions with
  | nil => exact kindIn?_cons p [] range
  | cons q rest ih =>
    rw [grantInto_cons, kindIn?_cons q]
    by_cases hsame : q.range = p.range
    · rw [if_pos hsame, kindIn?_cons, hsame]
      split <;> rfl
    · rw [if_neg hsame, kindIn?_cons, ih]
      by_cases hq : q.range = range
      · have hp : ¬p.range = range := fun hp => hsame (hq.trans hp.symm)
        rw [if_pos hq, if_pos hq, if_neg hp]
      · rw [if_neg hq, if_neg hq]

theorem mem_ranges_grantInto :
    range ∈ (grantInto p permissions).map (·.range) ↔
      range = p.range ∨ range ∈ permissions.map (·.range) := by
  induction permissions with
  | nil => simp [grantInto]
  | cons q rest ih =>
    rw [grantInto_cons]
    split
    · next hsame => simp [hsame]
    · rw [List.map_cons, List.mem_cons, ih, List.map_cons, List.mem_cons, or_left_comm]

theorem nodup_grantInto (h : (permissions.map (·.range)).Nodup) (p : Permission) :
    ((grantInto p permissions).map (·.range)).Nodup := by
  induction permissions with
  | nil => exact List.nodup_singleton _
  | cons q rest ih =>
    rw [List.map_cons, List.nodup_cons] at h
    rw [grantInto_cons]
    split
    · next hsame =>
      rw [List.map_cons, ← hsame, List.nodup_cons]
      exact h
    · next hne =>
      rw [List.map_cons, List.nodup_cons, mem_ranges_grantInto, not_or]
      exact ⟨⟨hne, h.1⟩, ih h.2⟩

/-- Granting the kind that a range already has changes nothing. -/
theorem grantInto_of_kindIn? (h : kindIn? permissions p.range = some p.kind) :
    grantInto p permissions = permissions := by
  induction permissions with
  | nil => cases h
  | cons q rest ih =>
    rw [kindIn?_cons] at h
    rw [grantInto_cons]
    split
    · next hsame =>
      rw [if_pos hsame, Option.some.injEq] at h
      rw [Permission.eq_of_range_eq hsame h]
    · next hne =>
      rw [if_neg hne] at h
      rw [ih h]

/-- Where every range has one permission, the permissions are what the kinds say. -/
theorem mem_iff_kindIn? (h : (permissions.map (·.range)).Nodup) :
    p ∈ permissions ↔ kindIn? permissions p.range = some p.kind := by
  induction permissions with
  | nil => simp [kindIn?]
  | cons q rest ih =>
    rw [List.map_cons, List.nodup_cons] at h
    rw [List.mem_cons, kindIn?_cons, ih h.2]
    split
    · next hsame =>
      have hrest : kindIn? rest p.range ≠ some p.kind := by
        intro hkind
        exact h.1 (hsame ▸ List.mem_map_of_mem ((ih h.2).2 hkind))
      rw [Option.some.injEq, or_iff_left hrest]
      exact ⟨fun heq => heq ▸ rfl, fun hkind => (Permission.eq_of_range_eq hsame hkind).symm⟩
    · next hne =>
      have hother : p ≠ q := fun heq => hne (heq ▸ rfl)
      rw [or_iff_right hother]

/-! ## Grants -/

theorem onePerRange_empty : OnePerRange {} := by
  intro role permissions hrole
  have hnone : permissions = [] := by
    simp only [Std.ExtTreeMap.singleton_eq_insert, Std.ExtTreeMap.getElem?_insert,
      Std.ExtTreeMap.getElem?_empty] at hrole
    split at hrole
    · exact (Option.some.inj hrole).symm
    · cases hrole
  rw [hnone]
  exact List.nodup_nil

theorem OnePerRange.insert_role (h : a.OnePerRange)
    (hpermissions : (permissions.map (·.range)).Nodup) :
    OnePerRange { a with roles := a.roles.insert role permissions } := by
  intro other others hother
  rw [Std.ExtTreeMap.getElem?_insert] at hother
  split at hother
  · rw [← Option.some.inj hother]
    exact hpermissions
  · exact h other others hother

/-- What a grant that is accepted does. -/
theorem grantPermission_eq_ok_iff : a.grantPermission role p = .ok a' ↔
    ∃ permissions, a.roles[role]? = some permissions ∧
      a' = { a with roles := a.roles.insert role (grantInto p permissions) } := by
  rw [grantPermission]
  cases a.roles[role]? <;> simp [eq_comm]

theorem OnePerRange.grantPermission (h : a.OnePerRange)
    (hgrant : a.grantPermission role p = .ok a') : a'.OnePerRange := by
  obtain ⟨permissions, hrole, rfl⟩ := grantPermission_eq_ok_iff.1 hgrant
  exact h.insert_role (nodup_grantInto (h role permissions hrole) p)

/-- No role ever has two permissions for one range. -/
theorem OnePerRange.carryOut (h : a.OnePerRange) (hcarried : a.carryOut command = .ok a') :
    a'.OnePerRange := by
  cases command with
  | transact | grantLease | revokeLease | authStatus =>
    cases hcarried
    exact h
  | addRole name =>
    obtain rfl := addRole_eq_ok hcarried
    exact h.insert_role List.nodup_nil
  | grantPermission role p => exact h.grantPermission hcarried
  | addUser name =>
    obtain ⟨-, rfl⟩ := addUser_eq_ok hcarried
    exact h
  | grantRole user role =>
    obtain ⟨-, held, -, rfl⟩ := grantRole_eq_ok hcarried
    exact h
  | enableAuth =>
    rw [AccessControl.carryOut] at hcarried
    split at hcarried
    · cases hcarried
      exact h
    · obtain ⟨-, rfl⟩ := enable_eq_ok hcarried
      exact h

/-- A grant sets the kind of one range of one role. -/
theorem kind?_grantPermission (h : a.grantPermission g.role g.permission = .ok a') (role : String)
    (range : KeyRange) :
    a'.kind? role range = if g.isFor role range then some g.permission.kind else a.kind? role range := by
  obtain ⟨permissions, hrole, rfl⟩ := grantPermission_eq_ok_iff.1 h
  rw [kind?, kind?, Std.ExtTreeMap.getElem?_insert]
  by_cases hsame : g.role = role
  · subst hsame
    rw [if_pos (Std.LawfulEqCmp.compare_eq_iff_eq.2 rfl), hrole, Option.bind_some, Option.bind_some,
      kindIn?_grantInto]
    simp [Grant.isFor]
  · rw [if_neg (mt Std.LawfulEqCmp.compare_eq_iff_eq.1 hsame)]
    simp [Grant.isFor, hsame]

/-- Granting the kind of access that a role already has changes nothing. -/
theorem grantPermission_of_kind? (h : a.kind? role p.range = some p.kind) :
    a.grantPermission role p = .ok a := by
  obtain ⟨permissions, hrole, hkind⟩ := Option.bind_eq_some_iff.1 h
  rw [grantPermission, hrole]
  dsimp only
  rw [grantInto_of_kindIn? hkind]
  have hroles : a.roles.insert role permissions = a.roles := by
    refine Std.ExtTreeMap.ext_getElem? fun other => ?_
    rw [Std.ExtTreeMap.getElem?_insert]
    split
    · next hsame => rw [← Std.LawfulEqCmp.compare_eq_iff_eq.1 hsame, hrole]
    · rfl
  rw [hroles]

/-! ## Decisions -/

theorem roleAllows_iff_kind? (h : a.OnePerRange) :
    a.roleAllows role access key ↔
      ∃ p : Permission, a.kind? role p.range = some p.kind ∧ p.covers key ∧ p.allows access := by
  rw [roleAllows]
  cases hrole : a.roles[role]? with
  | none => simp [kind?, hrole]
  | some permissions =>
    have hmem (p : Permission) : p ∈ permissions ↔ a.kind? role p.range = some p.kind := by
      rw [mem_iff_kindIn? (h role permissions hrole), kind?, hrole, Option.bind_some]
    simp [hmem]

/-- What a user may do, by the kinds of access of the roles that they hold. -/
theorem authorizeKey_iff_kind? (h : a.OnePerRange) :
    a.authorizeKey user access key = .ok () ↔
      a.enabled = false ∨ a.Holds user administrator ∨ ∃ role, a.Holds user role ∧
        ∃ p : Permission, a.kind? role p.range = some p.kind ∧ p.covers key ∧ p.allows access := by
  rw [authorizeKey]
  simp only [Holds, ← roleAllows_iff_kind? h]
  cases a.enabled with
  | false => simp
  | true =>
    cases a.users[user]? with
    | none => simp
    | some held => simp [or_iff_not_imp_left]

/-- Of the roles only the kinds of access count that the user's own have. -/
theorem authorizeKey_congr (h : a.OnePerRange) (h' : a'.OnePerRange)
    (hon : a'.enabled = a.enabled) (husers : a'.users[user]? = a.users[user]?)
    (hkind : ∀ role, a.Holds user role → a'.kind? role = a.kind? role) (access : Access)
    (key : Bytes) : a'.authorizeKey user access key = a.authorizeKey user access key := by
  have hholds (role : String) : a'.Holds user role ↔ a.Holds user role := by
    rw [Holds, Holds, husers]
  have hok : a'.authorizeKey user access key = .ok () ↔ a.authorizeKey user access key = .ok () := by
    rw [authorizeKey_iff_kind? h', authorizeKey_iff_kind? h, hon, hholds]
    refine or_congr_right (or_congr_right (exists_congr fun role => ?_))
    rw [hholds]
    refine and_congr_right fun hheld => ?_
    rw [hkind role hheld]
  have hdenial : a'.denial user access key = a.denial user access key := by
    rw [denial, denial, Std.ExtTreeMap.contains_eq_isSome_getElem?, husers,
      ← Std.ExtTreeMap.contains_eq_isSome_getElem?]
  cases hresult : a.authorizeKey user access key with
  | ok u => exact hok.2 hresult
  | error e =>
    -- the reason depends on no role
    obtain ⟨hnot, rfl⟩ := authorizeKey_eq_error.1 hresult
    rw [← hdenial]
    exact authorizeKey_eq_error.2 ⟨fun hallowed => hnot (hok.1 hallowed), rfl⟩

end AccessControl

end ClusterVault
