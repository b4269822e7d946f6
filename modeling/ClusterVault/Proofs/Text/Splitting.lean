import ClusterVault.Text.Split

/-!
# Cutting text

How a text is cut at a character, and how it ends.

## Main statements

- `Text.splitAtChar_append_cons`: a separator cuts a text in two, each of which is cut on its own
- `Text.intercalate_splitAtChar`: the parts of a text, put together again, are the text
- `Text.endsWith_iff`: whether a text ends as another one says
-/

namespace ClusterVault.Text

variable {sep : Char} {text : List Char}

theorem splitAtChar_ne_nil (sep : Char) (text : List Char) : splitAtChar sep text ≠ [] := by
  cases text with
  | nil => exact List.cons_ne_nil _ _
  | cons c rest =>
    rw [splitAtChar]
    split
    · exact List.cons_ne_nil _ _
    · split
      · exact List.cons_ne_nil _ _
      · exact List.cons_ne_nil _ _

/-- A separator cuts a text in two, each of which is cut on its own. -/
theorem splitAtChar_append_cons (sep : Char) (text rest : List Char) :
    splitAtChar sep (text ++ sep :: rest) = splitAtChar sep text ++ splitAtChar sep rest := by
  induction text with
  | nil => simp [splitAtChar]
  | cons c text ih =>
    rw [List.cons_append, splitAtChar, splitAtChar, ih]
    split
    · rfl
    · cases hparts : splitAtChar sep text with
      | nil => exact absurd hparts (splitAtChar_ne_nil sep text)
      | cons part parts => rfl

theorem splitAtChar_of_not_mem (h : sep ∉ text) : splitAtChar sep text = [text] := by
  induction text with
  | nil => rfl
  | cons c text ih =>
    rw [List.mem_cons, not_or] at h
    rw [splitAtChar, if_neg (Ne.symm h.1), ih h.2]

theorem mem_of_mem_splitAtChar {part : List Char} {c : Char} (h : part ∈ splitAtChar sep text)
    (hc : c ∈ part) : c ∈ text := by
  induction text generalizing part with
  | nil =>
    rw [splitAtChar, List.mem_singleton] at h
    exact absurd hc (h ▸ List.not_mem_nil)
  | cons d rest ih =>
    rw [splitAtChar] at h
    split at h
    · rcases List.mem_cons.1 h with rfl | h
      · exact absurd hc List.not_mem_nil
      · exact List.mem_cons_of_mem _ (ih h hc)
    · cases hparts : splitAtChar sep rest with
      | nil => exact absurd hparts (splitAtChar_ne_nil sep rest)
      | cons first parts =>
        rw [hparts] at h ih
        rcases List.mem_cons.1 h with rfl | h
        · rcases List.mem_cons.1 hc with rfl | hc
          · exact List.mem_cons_self
          · exact List.mem_cons_of_mem _ (ih List.mem_cons_self hc)
        · exact List.mem_cons_of_mem _ (ih (List.mem_cons_of_mem _ h) hc)

theorem forall_mem_intercalate {P : Char → Prop} {parts : List (List Char)} (hsep : P sep)
    (h : ∀ part ∈ parts, ∀ c ∈ part, P c) : ∀ c ∈ [sep].intercalate parts, P c := by
  induction parts with
  | nil => exact nofun
  | cons part parts ih =>
    rw [List.forall_mem_cons] at h
    cases parts with
    | nil =>
      rw [List.intercalate_singleton]
      exact h.1
    | cons next parts =>
      rw [List.intercalate_cons_cons]
      exact List.forall_mem_append.2
        ⟨List.forall_mem_append.2 ⟨h.1, List.forall_mem_singleton.2 hsep⟩, ih h.2⟩

/-- The parts of a text, put together again, are the text. -/
theorem intercalate_splitAtChar (sep : Char) (text : List Char) :
    [sep].intercalate (splitAtChar sep text) = text := by
  induction text with
  | nil => rfl
  | cons c rest ih =>
    obtain ⟨first, parts, hparts⟩ := List.exists_cons_of_ne_nil (splitAtChar_ne_nil sep rest)
    rw [splitAtChar]
    rw [hparts] at ih ⊢
    split
    · next heq => rw [List.intercalate_cons_cons, ih, heq]; rfl
    · cases parts with
      | nil => rw [← ih]; simp
      | cons second parts =>
        rw [List.intercalate_cons_cons] at ih ⊢
        rw [← ih]
        simp

/-- Whether a text ends as another one says. -/
theorem endsWith_iff {text suffix : String} :
    text.endsWith suffix = true ↔ suffix.toList <:+ text.toList := by
  have h := @String.Slice.endsWith_string_iff suffix text.toSlice
  rwa [String.copy_toSlice] at h

end ClusterVault.Text
