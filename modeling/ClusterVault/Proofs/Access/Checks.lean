import ClusterVault.Access.Control

/-!
# What the checks tell

A check of access control that is passed tells what the user may do. This module reads that off each
of them.

## Main definitions

- `AccessControl.IsAdministrator`: the user holds the role of the administrator
- `AccessControl.meets`: the user may do what is demanded
- `AccessControl.denial`: why an access to a key is denied
-/

namespace ClusterVault.AccessControl

/-- The user holds the role of the administrator. -/
def IsAdministrator (a : AccessControl) (user : String) : Prop :=
  ∃ held ∈ a.users[user]?, held.contains administrator

instance (a : AccessControl) (user : String) : Decidable (a.IsAdministrator user) :=
  inferInstanceAs (Decidable (∃ held ∈ a.users[user]?, held.contains administrator))

/-- The user may do what is demanded. -/
def meets (a : AccessControl) (user : String) (demand : Access × Bytes) : Bool :=
  (a.authorizeKey user demand.1 demand.2).isOk

/-- Why an access to a key is denied. -/
def denial (a : AccessControl) (user : String) (access : Access) (key : Bytes) : EngineError :=
  .permissionDenied <|
    if a.users.contains user then .keyDenied user access key else .unknownUser user

variable {a : AccessControl} {user : String} {demands : List (Access × Bytes)} {access : Access}
  {key : Bytes} {e : EngineError}

/-- While the checks are on, only administrators pass as one. -/
theorem isAdministrator_of_authorizeAdministrator (hon : a.enabled)
    (h : a.authorizeAdministrator user = .ok ()) : a.IsAdministrator user := by
  rw [authorizeAdministrator, hon] at h
  split at h
  · contradiction
  · split at h
    · cases h
    · next held hheld =>
      split at h
      · next hrole => exact ⟨held, hheld, hrole⟩
      · cases h

theorem authorizeAdministrator_of_not_isAdministrator (hon : a.enabled)
    (huser : ¬a.IsAdministrator user) : ∃ e, a.authorizeAdministrator user = .error e := by
  cases h : a.authorizeAdministrator user with
  | error e => exact ⟨e, rfl⟩
  | ok u => exact absurd (isAdministrator_of_authorizeAdministrator hon h) huser

theorem meets_iff {demand : Access × Bytes} :
    a.meets user demand ↔ a.authorizeKey user demand.1 demand.2 = .ok () := by
  rw [meets]
  cases a.authorizeKey user demand.1 demand.2 <;> simp [Except.isOk, Except.toBool]

/-- An access that is not granted is denied, and there is one reason to give. -/
theorem authorizeKey_eq_error :
    a.authorizeKey user access key = .error e ↔
      a.authorizeKey user access key ≠ .ok () ∧ e = a.denial user access key := by
  rw [authorizeKey, denial, Std.ExtTreeMap.contains_eq_isSome_getElem?]
  cases a.enabled with
  | false => simp
  | true =>
    cases a.users[user]? with
    | none => simp [eq_comm]
    | some held =>
      simp only [Bool.not_true, Bool.false_eq_true, if_false, Option.isSome_some, if_true]
      split
      · simp
      · simp [eq_comm]

/-- All demands are met if each of them is. -/
theorem authorizeAll_eq_ok :
    a.authorizeAll user demands = .ok () ↔
      ∀ demand ∈ demands, a.authorizeKey user demand.1 demand.2 = .ok () := by
  induction demands with
  | nil => simp [authorizeAll]
  | cons demand demands ih =>
    obtain ⟨access, key⟩ := demand
    rw [authorizeAll, List.forall_mem_cons, ← ih]
    cases a.authorizeKey user access key <;> simp

/-- Some demands are refused at the first that is denied. -/
theorem authorizeAll_eq_error :
    a.authorizeAll user demands = .error e ↔
      ∃ before access key after, demands = before ++ (access, key) :: after ∧
        (∀ demand ∈ before, a.authorizeKey user demand.1 demand.2 = .ok ()) ∧
        a.authorizeKey user access key ≠ .ok () ∧ e = a.denial user access key := by
  have hfind : a.authorizeAll user demands = .error e ↔
      ∃ demand, demands.find? (!a.meets user ·) = some demand ∧
        a.authorizeKey user demand.1 demand.2 = .error e := by
    induction demands with
    | nil => simp [authorizeAll]
    | cons demand demands ih =>
      obtain ⟨access, key⟩ := demand
      rw [authorizeAll]
      cases hfirst : a.authorizeKey user access key with
      | error e' => simp [meets, hfirst, Except.isOk, Except.toBool]
      | ok u => simp [meets, hfirst, ih, Except.isOk, Except.toBool]
  rw [hfind]
  constructor
  · rintro ⟨⟨access, key⟩, hfirst, hdenied⟩
    obtain ⟨-, before, after, rfl, hbefore⟩ := List.find?_eq_some_iff_append.1 hfirst
    refine ⟨before, access, key, after, rfl, fun demand hdemand => ?_,
      authorizeKey_eq_error.1 hdenied⟩
    exact meets_iff.1 (by simpa using hbefore demand hdemand)
  · rintro ⟨before, access, key, after, rfl, hbefore, hdenied⟩
    refine ⟨(access, key), List.find?_eq_some_iff_append.2 ⟨?_, before, after, rfl, ?_⟩,
      authorizeKey_eq_error.2 hdenied⟩
    · have hnot : ¬a.meets user (access, key) := fun h => hdenied.1 (meets_iff.1 h)
      simpa using hnot
    · intro demand hdemand
      simpa using meets_iff.2 (hbefore demand hdemand)

end ClusterVault.AccessControl
