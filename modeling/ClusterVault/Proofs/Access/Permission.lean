import ClusterVault.Access.Permission

/-!
# Keys with a common beginning

The permission for all keys that begin with a byte string is stored as a half open range. This module
shows that the range holds just these keys, for every beginning, and that neither of the two special
ends gets in the way.

## Main definitions

- `Permission.raised?`: the least byte string above all that begin with a given one
-/

namespace ClusterVault.Permission

/-- The least byte string above all that begin with a given one, if there is one. It is found from
    the front, while the end of a range is computed from the back. -/
def raised? : Bytes → Option Bytes
  | [] => none
  | b :: rest =>
    match raised? rest with
    | some e => some (b :: e)
    | none => if b < 0xff then some [b + 1] else none

variable {beginning key e : Bytes} {b k : UInt8}

theorem lt_raised_byte (hb : b < 0xff) : k < b + 1 ↔ k ≤ b := by
  have hsucc : (b + 1).toNat = b.toNat + 1 := by
    rw [UInt8.lt_iff_toNat_lt] at hb
    rw [UInt8.toNat_add]
    have hmax : (0xff : UInt8).toNat = 255 := rfl
    have hone : (1 : UInt8).toNat = 1 := rfl
    omega
  rw [UInt8.lt_iff_toNat_lt, UInt8.le_iff_toNat_le, hsucc, Nat.lt_succ_iff]

theorem le_of_not_lt_max (hb : ¬b < 0xff) : k ≤ b := by
  have hmax : (0xff : UInt8).toNat = 255 := rfl
  have hk : k.toNat < 256 := k.toNat_lt
  rw [UInt8.lt_iff_toNat_lt] at hb
  rw [UInt8.le_iff_toNat_le]
  omega

theorem raiseLast_concat (l : Bytes) (b : UInt8) :
    raiseLast (l ++ [b]) =
      match raiseLast l with
      | some r => some (r ++ [b])
      | none => if b < 0xff then some [b + 1] else none := by
  induction l with
  | nil => rfl
  | cons a l ih =>
    rw [List.cons_append, raiseLast, raiseLast]
    split
    · rfl
    · exact ih

theorem raiseLast_reverse (beginning : Bytes) :
    (raiseLast beginning.reverse).map List.reverse = raised? beginning := by
  induction beginning with
  | nil => rfl
  | cons b rest ih =>
    rw [List.reverse_cons, raiseLast_concat, raised?, ← ih]
    cases raiseLast rest.reverse with
    | some r => simp
    | none =>
      show Option.map List.reverse (if b < 0xff then some [b + 1] else none) =
        if b < 0xff then some [b + 1] else none
      split <;> rfl

theorem endOfBeginning_eq (beginning : Bytes) :
    endOfBeginning beginning = (raised? beginning).getD [0] := by
  rw [endOfBeginning, ← raiseLast_reverse]
  cases raiseLast beginning.reverse <;> rfl

/-- The end of a range of keys is never the sign for a single key, nor that for no end at all. -/
theorem raised?_not_special (h : raised? beginning = some e) : e ≠ [] ∧ e ≠ [0] := by
  cases beginning with
  | nil => cases h
  | cons b rest =>
    rw [raised?] at h
    split at h
    · next r hr =>
      cases h
      -- what is raised further behind is not empty
      have hne : r ≠ [] := by
        cases rest with
        | nil => cases hr
        | cons b' rest =>
          rw [raised?] at hr
          split at hr
          · cases hr
            exact List.cons_ne_nil _ _
          · split at hr
            · cases hr
              exact List.cons_ne_nil _ _
            · cases hr
      simp [hne]
    · split at h
      · next hb =>
        cases h
        refine ⟨List.cons_ne_nil _ _, ?_⟩
        intro hzero
        have hwrap : b + 1 = 0 := List.head_eq_of_cons_eq hzero
        have hle : b < b + 1 := (lt_raised_byte hb).2 (UInt8.le_refl b)
        rw [hwrap] at hle
        exact absurd hle (by simp [UInt8.lt_iff_toNat_lt])
      · cases h

/-- Between a byte string and what it is raised to lie just those that begin with it. -/
theorem isPrefix_iff (beginning key : Bytes) :
    beginning <+: key ↔ beginning ≤ key ∧ ∀ e, raised? beginning = some e → key < e := by
  induction beginning generalizing key with
  | nil => simp [raised?]
  | cons b rest ih =>
    cases key with
    | nil => simp
    | cons k ks =>
      rw [List.cons_prefix_cons, ih, List.cons_le_cons_iff, raised?]
      cases hr : raised? rest with
      | some r =>
        simp only [Option.some.injEq, forall_eq', List.cons_lt_cons_iff]
        constructor
        · rintro ⟨rfl, hle, hlt⟩
          exact ⟨.inr ⟨rfl, hle⟩, .inr ⟨rfl, hlt⟩⟩
        · rintro ⟨hlt | ⟨rfl, hle⟩, hgt | ⟨heq, hbelow⟩⟩
          · exact absurd hlt (UInt8.lt_asymm hgt)
          · exact absurd hlt (heq ▸ UInt8.lt_irrefl _)
          · exact absurd hgt (UInt8.lt_irrefl _)
          · exact ⟨rfl, hle, hbelow⟩
      | none =>
        by_cases hb : b < 0xff
        · simp only [hb, if_true, Option.some.injEq, forall_eq', List.cons_lt_cons_iff,
            lt_raised_byte hb, List.not_lt_nil, and_false, or_false, reduceCtorEq,
            false_implies, implies_true, and_true]
          constructor
          · rintro ⟨rfl, hle⟩
            exact ⟨.inr ⟨rfl, hle⟩, UInt8.le_refl _⟩
          · rintro ⟨hlt | ⟨rfl, hle⟩, hge⟩
            · exact absurd hlt (UInt8.not_lt.2 hge)
            · exact ⟨rfl, hle⟩
        · simp only [hb, if_false, reduceCtorEq, false_implies, implies_true, and_true]
          constructor
          · rintro ⟨rfl, hle⟩
            exact .inr ⟨rfl, hle⟩
          · rintro (hlt | ⟨rfl, hle⟩)
            · exact absurd hlt (UInt8.not_lt.2 (le_of_not_lt_max hb))
            · exact ⟨rfl, hle⟩

/-- The permission covers a key if and only if the key has the beginning. -/
theorem covers_startingWith_iff (beginning key : Bytes) (kind : AccessKind) :
    (startingWith beginning kind).covers key ↔ beginning <+: key := by
  rw [isPrefix_iff, startingWith, covers, endOfBeginning_eq]
  cases hr : raised? beginning with
  | none => simp
  | some e =>
    -- so the end that is written down is read as the end of a range
    obtain ⟨hempty, hzero⟩ := raised?_not_special hr
    simp only [Option.getD_some, Option.some.injEq, forall_eq', Bool.and_eq_true,
      decide_eq_true_iff]

end ClusterVault.Permission
