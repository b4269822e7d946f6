import ClusterVault.Files.FileSystem
import ClusterVault.Proofs.Text.Splitting
import Mathlib.Data.List.Basic

/-!
# Paths of files in a directory

The text of a path is cut at its slashes. This module says what becomes of the text of a file in a
directory: whatever the text of the directory looks like, the parts of the file's path are those of
the directory and the name of the file.

## Main definitions

- `FilePath.IsFileName`: a text that names a file in any directory

## Main statements

- `FilePath.ofString_join`: the path of a file in a directory
- `FilePath.asksForDirectory_join`: the text of such a path does not ask for a directory
-/

namespace ClusterVault

namespace FilePath

variable {directory file : String}

/-- Whether a part of a path counts. -/
def counts (part : String) : Bool := part ≠ "" && part ≠ "."

/-- The parts of a text between its slashes. -/
def rawParts (text : List Char) : List String := (Text.splitAtChar '/' text).map String.ofList

/-- The path of which a text has the given parts. -/
def ofRawParts (absolute : Bool) (raw : List String) : FilePath :=
  if absolute then ⟨true, raw.filter counts⟩
  else match raw with
    | "." :: rest => ⟨false, "." :: rest.filter counts⟩
    | parts => ⟨false, parts.filter counts⟩

/-- A text that names a file in any directory. -/
structure IsFileName (file : String) : Prop where
  counts : FilePath.counts file
  not_parent : file ≠ ".."
  slash_not_mem : '/' ∉ file.toList
  null_not_mem : '\x00' ∉ file.toList
  short : file.utf8ByteSize ≤ FileSystem.longestName

theorem IsFileName.ne_empty (h : IsFileName file) : file ≠ "" := by
  rintro rfl
  exact absurd h.counts (by decide)

theorem IsFileName.ne_dot (h : IsFileName file) : file ≠ "." := by
  rintro rfl
  exact absurd h.counts (by decide)

theorem ofString_eq (s : String) : ofString s = ofRawParts (s.startsWith "/") (rawParts s.toList) :=
  rfl

theorem rawParts_ne_nil (text : List Char) : rawParts text ≠ [] := by
  rw [rawParts, ne_eq, List.map_eq_nil_iff]
  exact Text.splitAtChar_ne_nil _ _

theorem rawParts_append_cons (text rest : List Char) :
    rawParts (text ++ '/' :: rest) = rawParts text ++ rawParts rest := by
  rw [rawParts, rawParts, rawParts, Text.splitAtChar_append_cons, List.map_append]

theorem IsFileName.rawParts_eq (h : IsFileName file) : rawParts file.toList = [file] := by
  rw [rawParts, Text.splitAtChar_of_not_mem h.slash_not_mem, List.map_singleton,
    String.ofList_toList]

/-- What is behind the first part does not change how that one is read. -/
theorem ofRawParts_append {raw : List String} (hraw : raw ≠ []) (absolute : Bool)
    (more : List String) :
    ofRawParts absolute (raw ++ more) =
      { ofRawParts absolute raw with
        parts := (ofRawParts absolute raw).parts ++ more.filter counts } := by
  cases absolute with
  | true => simp only [ofRawParts, if_true, List.filter_append]
  | false =>
    obtain ⟨first, rest, rfl⟩ := List.exists_cons_of_ne_nil hraw
    by_cases hdot : first = "."
    · subst hdot
      simp [ofRawParts]
    · simp only [ofRawParts, Bool.false_eq_true, if_false, List.cons_append]
      split
      · next heq => exact absurd (List.cons.inj heq).1 hdot
      · split
        · next heq => exact absurd (List.cons.inj heq).1 hdot
        · rw [← List.cons_append, List.filter_append]

/-- The name of a file behind a slash adds a part. -/
theorem ofRawParts_join (h : IsFileName file) (absolute : Bool) (text : List Char) :
    ofRawParts absolute (rawParts (text ++ '/' :: file.toList)) =
      { ofRawParts absolute (rawParts text) with
        parts := (ofRawParts absolute (rawParts text)).parts ++ [file] } := by
  rw [rawParts_append_cons, h.rawParts_eq, ofRawParts_append (rawParts_ne_nil text),
    List.filter_singleton, h.counts]
  rfl

/-- A slash at the end of a text adds none. -/
theorem ofRawParts_slash (absolute : Bool) (text : List Char) :
    ofRawParts absolute (rawParts (text ++ ['/'])) = ofRawParts absolute (rawParts text) := by
  rw [rawParts_append_cons, ofRawParts_append (rawParts_ne_nil text)]
  have hnone : (rawParts []).filter counts = [] := by decide
  rw [hnone, List.append_nil]

theorem startsWith_slash_iff {s : String} : s.startsWith "/" = true ↔ s.toList.head? = some '/' := by
  rw [String.startsWith_string_iff]
  show ['/'] <+: s.toList ↔ _
  cases s.toList with
  | nil => simp
  | cons c rest => simp [List.cons_prefix_cons, eq_comm]

/-- The text of a path of a file in a directory, whose own text may end in a slash. -/
theorem exists_toList_join (file : String) (hne : directory ≠ "") :
    ∃ text, (join directory file).toList = text ++ '/' :: file.toList ∧
      (directory.toList = text ++ ['/'] ∨ directory.toList = text ∧ text ≠ []) := by
  rw [join]
  cases hslash : directory.endsWith "/" with
  | true =>
    obtain ⟨text, htext⟩ := Text.endsWith_iff.1 hslash
    refine ⟨text, ?_, .inl htext.symm⟩
    simp [← htext]
  | false => exact ⟨directory.toList, by simp [hne], .inr ⟨rfl, by simpa using hne⟩⟩

/-- The path of a file in a directory. -/
theorem ofString_join (h : IsFileName file) (directory : String) :
    ofString (join directory file) =
      { ofString directory with parts := (ofString directory).parts ++ [file] } := by
  by_cases hempty : directory = ""
  · subst hempty
    have hrelative : file.startsWith "/" = false := by
      rw [Bool.eq_false_iff, ne_eq, startsWith_slash_iff]
      exact fun hhead => h.slash_not_mem (List.mem_of_mem_head? hhead)
    have hjoin : join "" file = file := by simp [join]
    have hnone : ofString "" = ⟨false, []⟩ := by decide
    have hdot : ∀ rest, [file] ≠ "." :: rest := fun rest heq => h.ne_dot (List.cons.inj heq).1
    rw [hjoin, ofString_eq, hrelative, h.rawParts_eq, hnone, ofRawParts, if_neg Bool.false_ne_true,
      List.filter_singleton, h.counts]
    · rfl
    · exact hdot
  · obtain ⟨text, hjoin, hdirectory⟩ := exists_toList_join file hempty
    have hsame : ofRawParts (directory.startsWith "/") (rawParts directory.toList) =
        ofRawParts (directory.startsWith "/") (rawParts text) := by
      rcases hdirectory with hslash | ⟨hplain, -⟩
      · rw [hslash, ofRawParts_slash]
      · rw [hplain]
    have hstarts : (join directory file).startsWith "/" = directory.startsWith "/" := by
      rw [Bool.eq_iff_iff, startsWith_slash_iff, startsWith_slash_iff, hjoin]
      rcases hdirectory with hslash | ⟨hplain, hne⟩
      · rw [hslash, List.head?_append, List.head?_append]
        rfl
      · rw [hplain, List.head?_append_of_ne_nil _ hne]
    rw [ofString_eq, ofString_eq, hstarts, hjoin, ofRawParts_join h, hsame]

/-- The text of such a path ends in the name of the file. -/
theorem suffix_toList_join (directory file : String) :
    file.toList <:+ (join directory file).toList := by
  rw [join]
  split
  · exact ⟨directory.toList, by simp⟩
  · exact ⟨directory.toList ++ ['/'], by simp⟩

/-- The text of such a path does not ask for a directory. -/
theorem asksForDirectory_join (h : IsFileName file) (directory : String) :
    FileSystem.asksForDirectory (join directory file) = false := by
  have hempty : file.toList ≠ [] := by simpa using h.ne_empty
  have hdot : file.toList ≠ ['.'] := fun heq => h.ne_dot (String.toList_injective heq)
  -- a text that ends in both would be the name, or end in the name
  have hends {suffix : List Char} (hslash : '/' ∈ suffix)
      (hparts : ∀ part, part <:+ suffix → '/' ∈ part ∨ part = ['.'] ∨ part = []) :
      ¬suffix <:+ (join directory file).toList := by
    intro hsuffix
    rcases List.suffix_or_suffix_of_suffix hsuffix (suffix_toList_join directory file) with hin | hin
    · exact h.slash_not_mem (hin.subset hslash)
    · rcases hparts _ hin with hmem | heq | heq
      · exact h.slash_not_mem hmem
      · exact hdot heq
      · exact hempty heq
  rw [FileSystem.asksForDirectory, Bool.or_eq_false_iff, Bool.eq_false_iff, Bool.eq_false_iff, ne_eq,
    ne_eq, Text.endsWith_iff, Text.endsWith_iff]
  constructor
  · refine hends (by decide) fun part hpart => ?_
    obtain rfl | hnil := List.suffix_cons_iff.1 hpart
    · exact .inl List.mem_cons_self
    · exact .inr (.inr (List.suffix_nil.1 hnil))
  · refine hends (by decide) fun part hpart => ?_
    obtain rfl | hshorter := List.suffix_cons_iff.1 hpart
    · exact .inl List.mem_cons_self
    · obtain rfl | hnil := List.suffix_cons_iff.1 hshorter
      · exact .inr (.inl rfl)
      · exact .inr (.inr (List.suffix_nil.1 hnil))

end FilePath

end ClusterVault
