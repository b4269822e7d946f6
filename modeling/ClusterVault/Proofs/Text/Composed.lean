import ClusterVault.Text.Composition
import Mathlib.Data.Bool.AllAny

/-!
# Composed text of ASCII

A text of ASCII is composed as it is. No character of ASCII is a mark, stands for two others or
combines with the one in front. All of this is data of the standard, so it is read off the tables.

## Main statements

- `Composition.normalize_of_ascii`: a text of ASCII is its own composed form
-/

namespace ClusterVault

/-- What the reader of a table says of each row holds of the rows of lines with those characters. -/
theorem HexTable.forall_mem_rows {lines : List String} {p : List Nat → Bool}
    (h : ∀ line ∈ lines, ∃ chars, line = String.ofList chars ∧
      (chars.foldl Progress.read {}).endRow.rows.all p) :
    ∀ row ∈ lines.flatMap rows, p row := by
  intro row hrow
  obtain ⟨line, hline, hmem⟩ := List.mem_flatMap.1 hrow
  obtain ⟨chars, rfl, hall⟩ := h line hline
  rw [rows, String.toList_ofList, List.mem_reverse] at hmem
  exact List.all_eq_true.1 hall row hmem

namespace Composition

/-- Whether a row of `pairs` is about characters beyond ASCII, the first of a pair apart. -/
def isPairBeyondAscii : List Nat → Bool
  | [whole, _, second] => 0x80 ≤ whole && 0x80 ≤ second
  | _ => true

/-- Whether a row of `classes` is about characters beyond ASCII. -/
def isClassBeyondAscii : List Nat → Bool
  | [first, _, _] => 0x80 ≤ first
  | _ => true

variable {c d : Char} {s : List Char}

/-! ## The tables -/

-- the characters of a line come from its literal, because taking a text apart is slow in the kernel
theorem forall_mem_pairs : ∀ row ∈ pairs.flatMap HexTable.rows, isPairBeyondAscii row := by
  refine HexTable.forall_mem_rows ?_
  unfold pairs
  repeat refine List.forall_mem_cons.2 ⟨⟨_, rfl, by decide +kernel⟩, ?_⟩
  exact nofun

theorem forall_mem_classes : ∀ row ∈ classes.flatMap HexTable.rows, isClassBeyondAscii row := by
  refine HexTable.forall_mem_rows ?_
  unfold classes
  repeat refine List.forall_mem_cons.2 ⟨⟨_, rfl, by decide +kernel⟩, ?_⟩
  exact nofun

theorem le_of_mem_allPairs {p : Pair} (h : p ∈ allPairs) : 0x80 ≤ p.whole ∧ 0x80 ≤ p.second := by
  rw [allPairs, List.mem_toArray, List.mem_filterMap] at h
  obtain ⟨row, hrow, hpair⟩ := h
  have hbeyond := forall_mem_pairs row hrow
  unfold isPairBeyondAscii at hbeyond
  split at hpair
  · cases hpair
    simpa using hbeyond
  · cases hpair

theorem le_of_mem_classRanges {range : Nat × Nat × Nat} (h : range ∈ classRanges) :
    0x80 ≤ range.1 := by
  rw [classRanges, List.mem_toArray, List.mem_filterMap] at h
  obtain ⟨row, hrow, hrange⟩ := h
  have hbeyond := forall_mem_classes row hrow
  unfold isClassBeyondAscii at hbeyond
  split at hrange
  · cases hrange
    simpa using hbeyond
  · cases hrange

/-! ## Characters -/

theorem combiningClass_of_ascii (hc : c.toNat < 0x80) : combiningClass c = 0 := by
  rw [combiningClass, Array.find?_eq_none.2]
  · rfl
  · intro range hrange hin
    have hle := le_of_mem_classRanges hrange
    simp only [Bool.and_eq_true, decide_eq_true_eq] at hin
    omega

theorem pair?_of_ascii (hc : c.toNat < 0x80) : pair? c = none := by
  rw [pair?, Option.map_eq_none_iff, Array.find?_eq_none]
  intro p hp hwhole
  have hle := (le_of_mem_allPairs hp).1
  rw [decide_eq_true_eq] at hwhole
  omega

/-- A character of ASCII combines with nothing in front of it. -/
theorem join?_of_ascii (c : Char) (hd : d.toNat < 0x80) : join? c d = none := by
  have hhangul : Hangul.join? c d = none := by
    have hvowel : ¬ Hangul.vowelBase ≤ d.toNat := by
      unfold Hangul.vowelBase
      omega
    have htrail : ¬ Hangul.trailBase < d.toNat := by
      unfold Hangul.trailBase
      omega
    simp [Hangul.join?, hvowel, htrail]
  rw [join?, hhangul]
  dsimp only
  rw [Option.map_eq_none_iff, Array.find?_eq_none]
  intro p hp hpair
  have hle := (le_of_mem_allPairs hp).2
  simp only [Bool.and_eq_true, decide_eq_true_eq] at hpair
  omega

theorem decompose_of_ascii (hc : c.toNat < 0x80) : decompose c = [c] := by
  have hletters : Hangul.letters? c = none := by
    have hlt : c.toNat < Hangul.syllableBase := by
      unfold Hangul.syllableBase
      omega
    simp [Hangul.letters?, hlt]
  rw [decompose, deepestPair, decomposeWithin, hletters, pair?_of_ascii hc]
  rfl

/-! ## Texts -/

theorem reorder_of_ascii (h : ∀ c ∈ s, c.toNat < 0x80) : reorder s = s := by
  have hfold (before : List Char) :
      s.foldl (fun before c => if combiningClass c = 0 then c :: before else insertMark c before)
        before = s.reverse ++ before := by
    induction s generalizing before with
    | nil => rfl
    | cons c s ih =>
      rw [List.forall_mem_cons] at h
      rw [List.foldl_cons, if_pos (combiningClass_of_ascii h.1), ih h.2]
      simp
  rw [reorder, hfold, List.append_nil, List.reverse_reverse]

theorem Composer.text_take_of_ascii (p : Composer) (hc : c.toNat < 0x80) :
    (p.take c).text = c :: p.text := by
  have htake : p.take c = p.add c := by
    have hjoin : p.letter.bind (join? · c) = none := by
      cases p.letter with
      | none => rfl
      | some letter => exact join?_of_ascii letter hc
    rw [take, hjoin, ite_self]
  rw [htake, add, if_pos (combiningClass_of_ascii hc)]
  rfl

theorem compose_of_ascii (h : ∀ c ∈ s, c.toNat < 0x80) : compose s = s := by
  have hfold (p : Composer) : (s.foldl Composer.take p).text = s.reverse ++ p.text := by
    induction s generalizing p with
    | nil => rfl
    | cons c s ih =>
      rw [List.forall_mem_cons] at h
      rw [List.foldl_cons, ih h.2, p.text_take_of_ascii h.1]
      simp
  rw [compose, hfold]
  simp [Composer.text]

/-- A text of ASCII is its own composed form. -/
theorem normalize_of_ascii (h : ∀ c ∈ s, c.toNat < 0x80) : normalize s = s := by
  have hdecompose : s.flatMap decompose = s := by
    induction s with
    | nil => rfl
    | cons c s ih =>
      rw [List.forall_mem_cons] at h
      rw [List.flatMap_cons, decompose_of_ascii h.1, ih h.2, List.singleton_append]
  rw [normalize, hdecompose, reorder_of_ascii h, compose_of_ascii h]

end Composition

end ClusterVault
