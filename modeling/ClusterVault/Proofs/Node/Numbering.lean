import ClusterVault.Proofs.Node.Names
import Mathlib.Data.List.Induction
import Mathlib.Data.Nat.Digits.Defs

/-!
# Numbers of nodes

The number of a node is read off its name, and its name is made from its number. A second spelling
of one number would let two names claim one node, so no text but the usual decimal form is taken for
a number.

## Main definitions

- `Decimal.weighted`: the number that digits write, by the weight of each place
- `ServiceNames.Misnumbers`: why a text is not the number of a node

## Main statements

- `ServiceNames.toDigits_value`: the usual decimal form is the one that numbers are written in
- `ServiceNames.names_and_numbers_correspond`: names and numbers tell each other, and all other
  names are refused
-/

namespace ClusterVault

namespace Decimal

variable {digits : List Char} {c : Char}

/-- The number that digits write: each counts ten times as much as the next. -/
def weighted (digits : List Char) : Nat :=
  Nat.ofDigits 10 (digits.reverse.map fun c => c.toNat - '0'.toNat)

theorem value_concat (digits : List Char) (c : Char) :
    value (digits ++ [c]) = value digits * 10 + (c.toNat - '0'.toNat) := by
  rw [value, List.foldl_concat]
  rfl

theorem value_eq_weighted (digits : List Char) : value digits = weighted digits := by
  induction digits using List.reverseRecOn with
  | nil => rfl
  | append_singleton digits c ih =>
    rw [value_concat, ih, weighted, weighted, List.reverse_concat, List.map_cons, Nat.ofDigits_cons]
    omega

theorem toNat_lt_of_isDigit (h : c.isDigit) : c.toNat - '0'.toNat < 10 := by
  simp only [Char.isDigit, Bool.and_eq_true, decide_eq_true_eq] at h
  have hle : c.toNat ≤ '9'.toNat := h.2
  simp only [Char.reduceToNat] at hle ⊢
  omega

theorem digitChar_of_isDigit (h : c.isDigit) : Nat.digitChar (c.toNat - '0'.toNat) = c := by
  have hlt := toNat_lt_of_isDigit h
  simp only [Char.isDigit, Bool.and_eq_true, decide_eq_true_eq] at h
  have hle : '0'.toNat ≤ c.toNat := h.1
  rw [← Char.toNat_inj, Nat.toNat_digitChar_of_lt_ten hlt]
  simp only [Char.reduceToNat] at hle ⊢
  omega

end Decimal

namespace ServiceNames

open Decimal

variable {names : ServiceNames} {node : String} {ordinal : Nat} {digits text : List Char} {c : Char}

/-- Why a text behind the hyphen is not the number of a node. -/
inductive Misnumbers (text : List Char) : Prop
  | nothing (hempty : text = [])
  /-- A sign, or a digit of another script. -/
  | notDigit {c : Char} (hc : c ∈ text) (hdigit : ¬c.isDigit)
  | leadingZero {rest : List Char} (hrest : rest ≠ []) (hzero : text = '0' :: rest)
  /-- It does not have 32 bits. -/
  | tooLarge (hlarge : 0x100000000 ≤ weighted text)

/-! ## Decimal forms -/

theorem eq_of_head?_of_isDecimal (h : isDecimal digits) (hzero : digits.head? = some '0') :
    digits = ['0'] := by
  unfold isDecimal at h
  split at h
  · cases h
  · rfl
  · cases hzero
    simp at h

/-- The usual decimal form is the one that numbers are written in. -/
theorem toDigits_value (h : isDecimal digits) : Nat.toDigits 10 (value digits) = digits := by
  -- the last digit goes, and what is left does not start with a zero either
  induction digits using List.reverseRecOn with
  | nil => cases h
  | append_singleton front c ih =>
    obtain ⟨-, hdigits⟩ := isDecimal_iff h
    rw [List.forall_mem_append, List.forall_mem_singleton] at hdigits
    have hlt := toNat_lt_of_isDigit hdigits.2
    have hlast : Nat.toDigits 10 (c.toNat - '0'.toNat) = [c] := by
      rw [Nat.toDigits_of_lt_base hlt, digitChar_of_isDigit hdigits.2]
    by_cases hfront : front = []
    · subst hfront
      rw [value_concat]
      simpa [value] using hlast
    · have hhead : front.head? ≠ some '0' := by
        intro hzero
        have hwhole := eq_of_head?_of_isDecimal h (by rw [List.head?_append, hzero]; rfl)
        simp [List.append_eq_singleton_iff, hfront] at hwhole
      have hread := ih (isDecimal_of_digits hfront hdigits.1 fun hzero => absurd hzero hhead)
      have hpos : 0 < value front := by
        refine Nat.pos_of_ne_zero fun hvalue => hhead ?_
        rw [← hread, hvalue]
        rfl
      rw [value_concat, Nat.mul_comm, ← Nat.toDigits_append_toDigits (by decide) hpos hlt, hread,
        hlast]

/-- A text is the usual decimal form of a number of 32 bits, or it has a fault. -/
theorem misnumbers_iff : Misnumbers text ↔ ¬(isDecimal text ∧ value text < 0x100000000) := by
  rw [value_eq_weighted]
  constructor
  · rintro (rfl | ⟨hc, hdigit⟩ | ⟨hrest, rfl⟩ | hlarge) ⟨hdecimal, hlt⟩
    · cases hdecimal
    · exact hdigit ((isDecimal_iff hdecimal).2 _ hc)
    · exact hrest (List.cons.inj (eq_of_head?_of_isDecimal hdecimal rfl)).2
    · exact absurd hlt (Nat.not_lt_of_le hlarge)
  · intro hfault
    by_contra hsound
    refine hfault ⟨isDecimal_of_digits ?_ ?_ ?_, ?_⟩
    · exact fun hempty => hsound (.nothing hempty)
    · intro c hc
      by_contra hdigit
      exact hsound (.notDigit hc hdigit)
    · intro hzero
      obtain ⟨rest, rfl⟩ := List.head?_eq_some_iff.1 hzero
      by_contra hlong
      exact hsound (.leadingZero (fun hrest => hlong (by rw [hrest])) rfl)
    · exact Nat.lt_of_not_le fun hlarge => hsound (.tooLarge hlarge)

/-! ## Names -/

theorem eq_nodeName_of_ordinal? (h : names.ordinal? node = some ordinal) :
    node = names.nodeName ordinal := by
  obtain ⟨digits, htext, hdecimal, rfl, -⟩ := ordinal?_eq_some_iff_digits.1 h
  rw [← String.toList_inj, toList_nodeName, toDigits_value hdecimal, htext]

theorem ordinal?_eq_none_iff : names.ordinal? node = none ↔
    ∀ text, node.toList = names.statefulSet.toList ++ '-' :: text → Misnumbers text := by
  constructor
  · intro hnone text htext
    rw [misnumbers_iff]
    rintro ⟨hdecimal, hlt⟩
    have hsome := ordinal?_eq_some_iff_digits.2 ⟨text, htext, hdecimal, rfl, hlt⟩
    rw [hnone] at hsome
    cases hsome
  · intro hfaults
    rw [Option.eq_none_iff_forall_ne_some]
    intro ordinal hsome
    obtain ⟨digits, htext, hdecimal, rfl, hlt⟩ := ordinal?_eq_some_iff_digits.1 hsome
    exact misnumbers_iff.1 (hfaults digits htext) ⟨hdecimal, hlt⟩

/-- Names and numbers of 32 bits tell each other, whatever the set is called. A name is refused if
    and only if it does not start with the name of the set and a hyphen, or what follows is empty, has
    another character than a digit, a leading zero, or more than 32 bits. -/
theorem names_and_numbers_correspond (names : ServiceNames) (node : String) :
    (∀ ordinal, names.ordinal? node = some ordinal ↔
      ordinal < 0x100000000 ∧ node = names.nodeName ordinal) ∧
    (names.ordinal? node = none ↔
      ∀ text, node.toList = names.statefulSet.toList ++ '-' :: text → Misnumbers text) := by
  refine ⟨fun ordinal => ⟨fun h => ?_, ?_⟩, ordinal?_eq_none_iff⟩
  · exact ⟨lt_of_ordinal? h, eq_nodeName_of_ordinal? h⟩
  · rintro ⟨hlt, rfl⟩
    exact names.ordinal?_nodeName hlt

/-- The largest number of a node in a set whose name ends like that of a node, and four texts that
    are refused there: one number more, a leading zero, a sign, and a digit of another script. -/
theorem names_and_numbers_correspond_largest :
    let names : ServiceNames := ⟨"vault-1-", "prod"⟩
    names.ordinal? "vault-1--4294967295" = some 4294967295 ∧
      ∀ text ∈ ["4294967296", "01", "+1", "\uff11"],
        names.ordinal? ("vault-1--" ++ text) = none := by
  intro names
  have hrefused (text : String) (h : Misnumbers text.toList) :
      names.ordinal? ("vault-1--" ++ text) = none := by
    refine (names_and_numbers_correspond names _).2.2 fun rest hrest => ?_
    obtain rfl : text.toList = rest := by simpa [names] using hrest
    exact h
  refine ⟨((names_and_numbers_correspond names _).1 _).2 ⟨by decide, rfl⟩, ?_⟩
  simp only [List.forall_mem_cons]
  refine ⟨hrefused _ (.tooLarge ?_), hrefused _ (.leadingZero (List.cons_ne_nil '1' []) rfl),
    hrefused _ (.notDigit (c := '+') ?_ ?_), hrefused _ (.notDigit (c := '\uff11') ?_ ?_), nofun⟩
  · rw [← value_eq_weighted]
    decide
  · decide
  · decide
  · decide
  · decide

end ServiceNames

end ClusterVault
