import ClusterVault.Text.Bytes
import Mathlib.Data.String.Basic
import Std.Data.ExtTreeMap

/-!
# The order of texts

Texts are ordered character by character and their UTF-8 forms byte by byte. UTF-8 is made so that
this is the same order: the first byte of a character tells how many bytes it has, and a character
with more bytes comes later.

## Main statements

- `Bytes.ofString_lt_ofString`: texts are ordered as their UTF-8 forms are
- `Bytes.pairwise_ofString_keys`: so are the keys of a map
-/

namespace ClusterVault

namespace Utf8

open String (utf8EncodeChar)

variable {c d : Char} {a b : List Char}

/-- The forms of two characters are ordered as they are, whatever comes behind them. -/
theorem utf8EncodeChar_append_lt (h : c < d) (x y : Bytes) :
    utf8EncodeChar c ++ x < utf8EncodeChar d ++ y := by
  have hlt : c.val.toNat < d.val.toNat := h
  have hmax : d.val.toNat < 0x110000 := by
    rcases d.valid with hlow | ⟨-, hhigh⟩ <;> omega
  simp only [utf8EncodeChar]
  generalize c.val.toNat = v at hlt
  generalize d.val.toNat = w at hlt hmax
  -- the cases are the numbers of bytes of the two characters
  split_ifs
  all_goals
    simp only [List.cons_append, List.nil_append, List.cons_lt_cons_iff, UInt8.lt_iff_toNat_lt,
      ← UInt8.toNat_inj, UInt8.toNat_ofNat']
    simp (disch := omega) only [Nat.mod_eq_of_lt]
  all_goals omega

theorem flatMap_utf8EncodeChar_lt (h : a < b) :
    a.flatMap utf8EncodeChar < b.flatMap utf8EncodeChar := by
  induction a generalizing b with
  | nil =>
    cases b with
    | nil => exact absurd h (List.lt_irrefl [])
    | cons d b =>
      obtain ⟨byte, rest, hform⟩ : ∃ byte rest, utf8EncodeChar d = byte :: rest := by
        simp only [utf8EncodeChar]
        split_ifs
        all_goals exact ⟨_, _, rfl⟩
      rw [List.flatMap_cons, hform]
      exact List.nil_lt_cons _ _
  | cons c a ih =>
    cases b with
    | nil => exact absurd h (List.not_lt_nil _)
    | cons d b =>
      rw [List.flatMap_cons, List.flatMap_cons]
      rcases List.cons_lt_cons_iff.1 h with hlt | ⟨rfl, hrest⟩
      · exact utf8EncodeChar_append_lt hlt _ _
      · exact List.append_left_lt (ih hrest)

end Utf8

theorem Bytes.ofString_eq_flatMap (s : String) :
    Bytes.ofString s = s.toList.flatMap String.utf8EncodeChar := by
  rw [Bytes.ofString, ← String.utf8Encode_toList, List.utf8Encode]
  simp

/-- Texts are ordered as their UTF-8 forms are. -/
theorem Bytes.ofString_lt_ofString {s t : String} :
    Bytes.ofString s < Bytes.ofString t ↔ s < t := by
  have hmono {s t : String} (h : s < t) : Bytes.ofString s < Bytes.ofString t := by
    rw [ofString_eq_flatMap, ofString_eq_flatMap]
    exact Utf8.flatMap_utf8EncodeChar_lt (String.lt_iff.1 h)
  refine ⟨fun h => ?_, hmono⟩
  rcases lt_trichotomy s t with hlt | rfl | hgt
  · exact hlt
  · exact absurd h (List.lt_irrefl _)
  · exact absurd h (List.lt_asymm (hmono hgt))

/-- The keys of a map are listed in the order of their UTF-8 forms. -/
theorem Bytes.pairwise_ofString_keys {α : Type} (m : Std.ExtTreeMap String α) :
    m.keys.Pairwise fun s t => Bytes.ofString s < Bytes.ofString t :=
  Std.ExtTreeMap.ordered_keys.imp fun h => ofString_lt_ofString.2 (compare_lt_iff_lt.1 h)

end ClusterVault
