import ClusterVault.Proofs.Access.Checks
import ClusterVault.Proofs.Access.Permission

/-!
# What a grant lets a role reach

A role that is granted the keys with a common beginning reaches these keys and no others by it. The
range of the permission may take either of two forms: it ends before some key, or it is open. The
second form is written with one of the two ends that are special, so it must be taken only where
every key from the beginning on has the beginning.

## Main definitions

- `Permission.OpenEnded`: every key from the first one on lies in the range
- `AccessControl.besides`: the permissions that a grant does not touch
- `AccessControl.Reach`: what permissions let their holder access

## Main statements

- `Permission.openEnded_startingWith_iff`: which beginnings have an open range
- `AccessControl.mem_grantInto`: the permissions of a role after a grant
- `AccessControl.reach_startingWith`: the keys of the range, its end, and what a role or a user
  reaches by it
-/

namespace ClusterVault

namespace Permission

/-- Every key from the first one on lies in the range. -/
def OpenEnded (p : Permission) : Prop := ∀ key, p.key ≤ key → p.covers key

/-- The other permission is for the same range. -/
def sameRange (p q : Permission) : Bool := q.key = p.key && q.rangeEnd = p.rangeEnd

variable {beginning e : Bytes} {kind : AccessKind} {p q : Permission}

/-- A byte string can be raised unless it consists of the largest byte. -/
theorem raised?_eq_none : raised? beginning = none ↔ ∀ b ∈ beginning, b = 0xff := by
  induction beginning with
  | nil => simp [raised?]
  | cons b rest ih =>
    rw [raised?, List.forall_mem_cons, ← ih]
    cases raised? rest with
    | some e => simp
    | none =>
      have hmax : ¬b < 0xff ↔ b = 0xff :=
        ⟨fun h => UInt8.le_antisymm (le_of_not_lt_max (by decide)) (UInt8.not_lt.1 h),
          fun h => h ▸ UInt8.lt_irrefl _⟩
      simp [← hmax]

theorem lt_raised (h : raised? beginning = some e) : beginning < e :=
  ((isPrefix_iff beginning beginning).1 (List.prefix_refl _)).2 e h

theorem rangeEnd_startingWith_ne_nil : (startingWith beginning kind).rangeEnd ≠ [] := by
  show endOfBeginning beginning ≠ []
  rw [endOfBeginning_eq]
  cases hr : raised? beginning with
  | none => exact List.cons_ne_nil _ _
  | some e => exact (raised?_not_special hr).1

theorem rangeEnd_startingWith_eq_zero :
    (startingWith beginning kind).rangeEnd = [0] ↔ raised? beginning = none := by
  show endOfBeginning beginning = [0] ↔ _
  rw [endOfBeginning_eq]
  cases hr : raised? beginning with
  | none => simp
  | some e => simpa using (raised?_not_special hr).2

/-- The range is open if and only if the beginning consists of the largest byte. -/
theorem openEnded_startingWith_iff :
    (startingWith beginning kind).OpenEnded ↔ raised? beginning = none := by
  constructor
  · intro hopen
    cases hr : raised? beginning with
    | none => rfl
    | some e =>
      -- the end of the range would lie in it
      have hcovers : (startingWith beginning kind).covers e := hopen e (List.le_of_lt (lt_raised hr))
      have hlt : e < e :=
        ((isPrefix_iff beginning e).1 ((covers_startingWith_iff _ _ _).1 hcovers)).2 e hr
      exact absurd hlt (List.lt_irrefl e)
  · intro hr key hle
    rw [covers_startingWith_iff, isPrefix_iff]
    refine ⟨hle, fun e he => ?_⟩
    rw [hr] at he
    cases he

end Permission

namespace AccessControl

/-- The permissions of a role that a grant for a range leaves as they are. -/
def besides (permissions : List Permission) (p : Permission) : List Permission :=
  permissions.eraseP p.sameRange

/-- One of the permissions lets its holder access a key. -/
def Reach (permissions : List Permission) (access : Access) (key : Bytes) : Prop :=
  ∃ q ∈ permissions, q.covers key ∧ q.allows access

variable {a : AccessControl} {role user : String} {permissions : List Permission} {p q : Permission}
  {access : Access} {key : Bytes}

/-- A grant takes the place of the permission for the same range. -/
theorem mem_grantInto : q ∈ grantInto p permissions ↔ q = p ∨ q ∈ besides permissions p := by
  induction permissions with
  | nil => simp [grantInto, besides]
  | cons r rest ih =>
    rw [besides] at ih ⊢
    by_cases hsame : p.sameRange r
    · have hkept : { r with kind := p.kind } = p := by
        obtain ⟨hkey, hend⟩ : r.key = p.key ∧ r.rangeEnd = p.rangeEnd := by
          simpa [Permission.sameRange] using hsame
        rw [hkey, hend]
      rw [List.eraseP_cons_of_pos hsame, grantInto, if_pos (by exact hsame), hkept, List.mem_cons]
    · rw [List.eraseP_cons_of_neg hsame, grantInto, if_neg (by exact hsame), List.mem_cons, ih,
        List.mem_cons, or_left_comm]

theorem roleAllows_iff (h : a.roles[role]? = some permissions) :
    a.roleAllows role access key ↔ Reach permissions access key := by
  rw [roleAllows, h, Reach]
  simp

/-- What a grant leaves of a role that exists. -/
theorem grantPermission_of_role (h : a.roles[role]? = some permissions) (p : Permission) :
    a.grantPermission role p =
      .ok { a with roles := a.roles.insert role (grantInto p permissions) } := by
  rw [grantPermission, h]

/-- After a grant a role reaches what the permission is for, and what it reached by others. -/
theorem roleAllows_of_grantPermission {a' : AccessControl} (h : a.roles[role]? = some permissions)
    (hgrant : a.grantPermission role p = .ok a') :
    a'.roleAllows role access key ↔
      (p.covers key ∧ p.allows access) ∨ Reach (besides permissions p) access key := by
  rw [grantPermission_of_role h, Except.ok.injEq] at hgrant
  subst hgrant
  rw [roleAllows_iff Std.ExtTreeMap.getElem?_insert_self, Reach, Reach]
  simp only [mem_grantInto, or_and_right, exists_or, exists_eq_left]

/-- Who holds a single role, and not that of the administrator, reaches what the role does. -/
theorem authorizeKey_of_single_role (hon : a.enabled) (hplain : role ≠ administrator)
    (huser : a.users[user]? = some {role}) :
    a.authorizeKey user access key = .ok () ↔ a.roleAllows role access key := by
  rw [authorizeKey, huser, hon]
  simp [hplain]

/-- Granting the keys with a common beginning lets a role reach these and no others: the range holds
    just them, its end is not the sign for a single key, and it is the sign for no end only where the
    range is open. A role that is granted them reaches them besides what its other permissions reach,
    and so does a user who holds no other role. -/
theorem reach_startingWith (beginning : Bytes) (kind : AccessKind) :
    (∀ key, (Permission.startingWith beginning kind).covers key ↔ beginning <+: key) ∧
      (Permission.startingWith beginning kind).rangeEnd ≠ [] ∧
      ((Permission.startingWith beginning kind).rangeEnd = [0] ↔
        (Permission.startingWith beginning kind).OpenEnded) ∧
      ((Permission.startingWith beginning kind).OpenEnded ↔ ∀ b ∈ beginning, b = 0xff) ∧
      ∀ (a : AccessControl) (role : String) (permissions : List Permission),
        a.roles[role]? = some permissions →
          ∃ a', a.grantPermission role (.startingWith beginning kind) = .ok a' ∧
            (∀ access key, a'.roleAllows role access key ↔
              (beginning <+: key ∧ kind.allows access) ∨
                Reach (besides permissions (.startingWith beginning kind)) access key) ∧
            ∀ user, a.enabled → role ≠ administrator → a.users[user]? = some {role} →
              ∀ access key, a'.authorizeKey user access key = .ok () ↔
                (beginning <+: key ∧ kind.allows access) ∨
                  Reach (besides permissions (.startingWith beginning kind)) access key := by
  refine ⟨fun key => Permission.covers_startingWith_iff beginning key kind,
    Permission.rangeEnd_startingWith_ne_nil, ?_, ?_, ?_⟩
  · rw [Permission.rangeEnd_startingWith_eq_zero, Permission.openEnded_startingWith_iff]
  · rw [Permission.openEnded_startingWith_iff, Permission.raised?_eq_none]
  · intro a role permissions hrole
    obtain ⟨a', hgrant⟩ : ∃ a', a.grantPermission role (.startingWith beginning kind) = .ok a' :=
      ⟨_, grantPermission_of_role hrole _⟩
    have hreach : ∀ access key, a'.roleAllows role access key ↔
        (beginning <+: key ∧ kind.allows access) ∨
          Reach (besides permissions (.startingWith beginning kind)) access key := by
      intro access key
      rw [roleAllows_of_grantPermission hrole hgrant, Permission.covers_startingWith_iff]
      rfl
    refine ⟨a', hgrant, hreach, fun user hon hplain huser access key => ?_⟩
    rw [← hreach]
    rw [grantPermission_of_role hrole, Except.ok.injEq] at hgrant
    subst hgrant
    exact authorizeKey_of_single_role hon hplain huser

/-- The largest byte at the end of a beginning does not count for the end of its range. Who may read
    what begins with it may read nothing else, and may write nothing. -/
theorem reach_startingWith_before_largest_byte :
    (Permission.startingWith [0x61, 0xff] .read).rangeEnd = [0x62] ∧
      ∃ a', ({ enabled := true, roles := {("reader", [])}, users := {("client", {"reader"})} } :
          AccessControl).grantPermission "reader" (.startingWith [0x61, 0xff] .read) = .ok a' ∧
        ∀ access key, a'.authorizeKey "client" access key = .ok () ↔
          [0x61, 0xff] <+: key ∧ access = .read := by
  refine ⟨by decide, ?_⟩
  obtain ⟨a', hgrant, -, huser⟩ := (reach_startingWith [0x61, 0xff] .read).2.2.2.2
    { enabled := true, roles := {("reader", [])}, users := {("client", {"reader"})} } "reader" []
    (by decide +kernel)
  refine ⟨a', hgrant, fun access key => ?_⟩
  rw [huser "client" rfl (by decide) (by decide +kernel)]
  cases access <;> simp [Reach, besides, AccessKind.allows]

end AccessControl

end ClusterVault
