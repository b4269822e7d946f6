import ClusterVault.Files.FileSystem
import ClusterVault.Proofs.Files.Paths

/-!
# Files at their places

To write or remove a file changes what is at one place. Where paths lead does not change, since that
depends on directories only. This module says so for every operation on files.

## Main definitions

- `FileSystem.SameDirectories`: two trees have the same directories
- `FileSystem.Seats`: a path leads to a place at which a file may be
- `FileSystem.content?`: the content of the file at a place

## Main statements

- `FileSystem.SameDirectories.locate_eq_ok`: where paths lead depends on directories only
- `FileSystem.Seats.truncate`, `FileSystem.Seats.fill`, `FileSystem.Seats.remove`: what the operations
  do to a file
- `FileSystem.seats_join`: a file in a directory has a place
-/

namespace ClusterVault.FileSystem

variable {fs fs' : FileSystem} {place other : Place} {path : String} {content : Document} {mode : Nat}

/-! ## Following paths -/

/-- Two trees have the same directories, and relative paths start at the same one. -/
structure SameDirectories (fs fs' : FileSystem) : Prop where
  workingDirectory : fs'.workingDirectory = fs.workingDirectory
  entry?_iff : ∀ place, fs'.entry? place = some .directory ↔ fs.entry? place = some .directory

namespace SameDirectories

theorem follow_eq_ok (h : SameDirectories fs fs') {parts : List String} {current : Place}
    (hfollow : fs.follow current parts = .ok place) : fs'.follow current parts = .ok place := by
  induction parts generalizing current with
  | nil => exact hfollow
  | cons part rest ih =>
    rw [follow] at hfollow ⊢
    dsimp only at hfollow ⊢
    split
    · next hlong =>
      rw [if_pos hlong] at hfollow
      cases hfollow
    · next hlong =>
      rw [if_neg hlong] at hfollow
      generalize (if part = "." then current else _) = next at hfollow ⊢
      split
      · next hlast => rwa [if_pos hlast] at hfollow
      · next hlast =>
        rw [if_neg hlast] at hfollow
        split at hfollow
        · next hnext =>
          rw [(h.entry?_iff next).2 hnext]
          exact ih hfollow
        · cases hfollow
        · cases hfollow

/-- Where paths lead depends on directories only. -/
theorem locate_eq_ok (h : SameDirectories fs fs') {p : FilePath} (hlocate : fs.locate p = .ok place) :
    fs'.locate p = .ok place := by
  rw [locate, h.workingDirectory]
  exact h.follow_eq_ok hlocate

theorem isDirectory (h : SameDirectories fs fs') {p : FilePath} (hp : fs.isDirectory p) :
    fs'.isDirectory p := by
  unfold FileSystem.isDirectory at hp ⊢
  split at hp
  · next place hlocate =>
    rw [h.locate_eq_ok hlocate]
    exact decide_eq_true ((h.entry?_iff place).2 (of_decide_eq_true hp))
  · cases hp

end SameDirectories

/-- A path may go on from the directory that it leads to. -/
theorem follow_concat {parts : List String} {current : Place} {file : String}
    (h : fs.follow current parts = .ok place) (hplace : fs.entry? place = some .directory)
    (hfile : file ≠ "." ∧ file ≠ ".." ∧ file.utf8ByteSize ≤ longestName) :
    fs.follow current (parts ++ [file]) = .ok (place ++ [file]) := by
  obtain ⟨hdot, hdots, hshort⟩ := hfile
  induction parts generalizing current with
  | nil =>
    cases h
    simp [follow, hdot, hdots, Nat.not_lt.2 hshort]
  | cons part rest ih =>
    rw [List.cons_append]
    rw [follow] at h ⊢
    dsimp only at h ⊢
    split
    · next hlong =>
      rw [if_pos hlong] at h
      cases h
    · next hlong =>
      rw [if_neg hlong] at h
      generalize (if part = "." then current else _) = next at h ⊢
      have hmore : (rest ++ [file]).isEmpty = false := by simp
      rw [hmore, if_neg Bool.false_ne_true]
      split at h
      · next hlast =>
        cases h
        rw [hplace]
        exact ih (by rw [List.isEmpty_iff.1 hlast, follow])
      · split at h
        · exact ih h
        · cases h
        · cases h

/-! ## Changing what is at a place -/

/-- The content of the file at a place. -/
def content? (fs : FileSystem) (place : Place) : Option Document :=
  match fs.entry? place with
  | some (.file content _) => some content
  | _ => none

theorem entry?_put (hplace : place ≠ []) (entry : FileEntry) (other : Place) :
    entry? (fs.put place entry) other = if other = place then some entry else fs.entry? other := by
  by_cases hroot : other = []
  · subst hroot
    rw [if_neg (Ne.symm hplace)]
    rfl
  · have hother : other.isEmpty = false := by simpa using hroot
    rw [ entry?, entry?, hother, if_neg Bool.false_ne_true, if_neg Bool.false_ne_true, put,
      Std.ExtTreeMap.getElem?_insert]
    simp only [Std.LawfulEqCmp.compare_eq_iff_eq, @eq_comm _ other]

theorem entry?_erase (hplace : place ≠ []) (other : Place) :
    entry? { fs with entries := fs.entries.erase place } other =
      if other = place then none else fs.entry? other := by
  by_cases hroot : other = []
  · subst hroot
    rw [if_neg (Ne.symm hplace)]
    rfl
  · have hother : other.isEmpty = false := by simpa using hroot
    rw [ entry?, entry?, hother, if_neg Bool.false_ne_true, if_neg Bool.false_ne_true,
      Std.ExtTreeMap.getElem?_erase]
    simp only [Std.LawfulEqCmp.compare_eq_iff_eq, @eq_comm _ other]

/-- A path leads to a place at which a file may be: it does not ask for a directory, and there is
    none. -/
structure Seats (fs : FileSystem) (path : String) (place : Place) : Prop where
  locateText_eq : fs.locateText path = .ok place
  not_directory : fs.entry? place ≠ some .directory
  asks : asksForDirectory path = false

namespace Seats

theorem ne_nil (h : fs.Seats path place) : place ≠ [] := by
  rintro rfl
  exact h.not_directory rfl

theorem locateText_of_same (hsame : SameDirectories fs fs') (h : fs.locateText path = .ok place) :
    fs'.locateText path = .ok place := by
  unfold locateText at h ⊢
  split at h
  · cases h
  · next hnull =>
    rw [if_neg hnull]
    split at h
    · cases h
    · next hempty =>
      rw [if_neg hempty]
      split at h
      · cases h
      · next hlong =>
        rw [if_neg hlong]
        exact hsame.locate_eq_ok h

theorem of_same (h : fs.Seats path place) (hsame : SameDirectories fs fs') : fs'.Seats path place where
  locateText_eq := locateText_of_same hsame h.locateText_eq
  not_directory := fun hdirectory => h.not_directory ((hsame.entry?_iff place).1 hdirectory)
  asks := h.asks

/-- To put a file at such a place makes no directory and unmakes none. -/
theorem same_put (h : fs.Seats path place) (content : Document) (mode : Nat) :
    SameDirectories fs (fs.put place (.file content mode)) := by
  refine ⟨rfl, fun other => ?_⟩
  rw [entry?_put h.ne_nil]
  split
  · next heq =>
    subst heq
    exact ⟨nofun, fun hdirectory => absurd hdirectory h.not_directory⟩
  · exact Iff.rfl

theorem content?_put (h : fs.Seats path place) (content : Document) (mode : Nat) (other : Place) :
    (fs.put place (.file content mode)).content? other =
      if other = place then some content else fs.content? other := by
  simp only [content?, entry?_put h.ne_nil]
  by_cases heq : other = place
  · rw [if_pos heq, if_pos heq]
  · rw [if_neg heq, if_neg heq]

/-- Looking at such a place finds the file, if there is one. -/
theorem lookup_eq (h : fs.Seats path place) :
    fs.lookup path = match fs.entry? place with
      | some entry => .ok entry
      | none => .error .missing := by
  rw [lookup, h.locateText_eq]
  dsimp only
  cases hentry : fs.entry? place with
  | none => rfl
  | some entry =>
    cases entry with
    | directory => rfl
    | file content mode =>
      dsimp only
      rw [h.asks, if_neg Bool.false_ne_true]

theorem pathExists_eq (h : fs.Seats path place) :
    fs.pathExists path = (fs.content? place).isSome := by
  have hplace := h.not_directory
  rw [pathExists, h.lookup_eq, content?]
  cases hentry : fs.entry? place with
  | none => rfl
  | some entry =>
    cases entry with
    | directory => exact absurd hentry hplace
    | file content mode => rfl

theorem read_eq (h : fs.Seats path place) :
    fs.read path = (fs.content? place).elim (.error .missing) .ok := by
  have hplace := h.not_directory
  rw [read, h.lookup_eq, content?]
  cases hentry : fs.entry? place with
  | none => rfl
  | some entry =>
    cases entry with
    | directory => exact absurd hentry hplace
    | file content mode => rfl

/-- To empty a file, or to make one, puts a file there and changes nothing else. -/
theorem truncate (h : fs.Seats path place) (mode : Nat) :
    ∃ fs', fs.truncate path mode = .ok fs' ∧ SameDirectories fs fs' ∧
      ∀ other, fs'.content? other = if other = place then some (.text []) else fs.content? other := by
  have hplace := h.not_directory
  rw [FileSystem.truncate, h.locateText_eq]
  dsimp only
  cases hentry : fs.entry? place with
  | none =>
    dsimp only
    rw [h.asks]
    exact ⟨_, rfl, h.same_put _ _, h.content?_put _ _⟩
  | some entry =>
    cases entry with
    | directory => exact absurd hentry hplace
    | file content present =>
      dsimp only
      rw [h.asks]
      exact ⟨_, rfl, h.same_put _ _, h.content?_put _ _⟩

/-- To fill a file changes its content and nothing else. -/
theorem fill (h : fs.Seats path place) (hfile : (fs.content? place).isSome) (content : Document) :
    SameDirectories fs (fs.fill path content) ∧ ∀ other, (fs.fill path content).content? other =
      if other = place then some content else fs.content? other := by
  rw [FileSystem.fill, h.locateText_eq]
  dsimp only
  cases hentry : fs.entry? place with
  | none =>
    rw [content?, hentry] at hfile
    cases hfile
  | some entry =>
    cases entry with
    | directory => exact absurd hentry h.not_directory
    | file old mode => exact ⟨h.same_put _ _, h.content?_put _ _⟩

/-- To remove a file changes nothing else. -/
theorem remove (h : fs.Seats path place) (hremove : fs.remove path = .ok fs') :
    SameDirectories fs fs' ∧
      ∀ other, fs'.content? other = if other = place then none else fs.content? other := by
  have hplace := h.not_directory
  rw [FileSystem.remove, h.locateText_eq] at hremove
  dsimp only at hremove
  split at hremove
  · cases hremove
  · cases hremove
  · rw [h.asks] at hremove
    cases hremove
    refine ⟨⟨rfl, fun other => ?_⟩, fun other => ?_⟩
    · rw [entry?_erase h.ne_nil]
      split
      · next heq =>
        subst heq
        exact ⟨nofun, fun hdirectory => absurd hdirectory hplace⟩
      · exact Iff.rfl
    · simp only [content?, entry?_erase h.ne_nil]
      by_cases heq : other = place
      · rw [if_pos heq, if_pos heq]
      · rw [if_neg heq, if_neg heq]

end Seats

/-! ## Files in a directory -/

/-- Making a directory that is there leaves everything as it is. -/
theorem makeDirectories_of_isDirectory {directory : String}
    (h : fs.isDirectory (.ofString directory)) : (fs.makeDirectories directory).1 = fs := by
  unfold makeDirectories
  split
  · rfl
  · split
    · rfl
    · dsimp only
      rw [makeDirectoriesWithin]
      split
      · rfl
      · have hthere : fs.makeDirectory (.ofString directory) = .error .alreadyThere := by
          unfold isDirectory at h
          rw [makeDirectory]
          split at h
          · next place hlocate =>
            rw [hlocate]
            dsimp only
            rw [of_decide_eq_true h]
          · cases h
        rw [hthere]

/-- A text that a path may have. -/
structure IsPathText (path : String) : Prop where
  null_not_mem : '\x00' ∉ path.toList
  ne_empty : path ≠ ""
  short : path.utf8ByteSize ≤ longestPath

theorem isPathText_of_locateText (h : fs.locateText path = .ok place) : IsPathText path := by
  unfold locateText at h
  split at h
  · cases h
  · next hnull =>
    split at h
    · cases h
    · next hempty =>
      split at h
      · cases h
      · next hlong => exact ⟨by simpa using hnull, by simpa using hempty, Nat.not_lt.1 hlong⟩

theorem isPathText_of_pathExists (h : fs.pathExists path = true) : IsPathText path := by
  unfold pathExists lookup at h
  split at h
  · cases h
  · next hlocate => exact isPathText_of_locateText hlocate

theorem isPathText_of_truncate (h : fs.truncate path mode = .ok fs') : IsPathText path := by
  unfold truncate at h
  split at h
  · cases h
  · next hlocate => exact isPathText_of_locateText hlocate

theorem IsPathText.locateText_eq (h : IsPathText path) (fs : FileSystem) :
    fs.locateText path = fs.locate (.ofString path) := by
  have hnull : path.toList.contains '\x00' = false := by simpa using h.null_not_mem
  have hempty : path.isEmpty = false := by simpa using h.ne_empty
  rw [locateText, hnull, hempty, if_neg Bool.false_ne_true, if_neg Bool.false_ne_true,
    if_neg (Nat.not_lt.2 h.short)]

/-- A file in a directory has a place, unless there is a directory of its name. -/
theorem seats_join {directory file : String}
    (hdirectory : fs.locate (.ofString directory) = .ok place)
    (hplace : fs.entry? place = some .directory) (hname : FilePath.IsFileName file)
    (htext : IsPathText (FilePath.join directory file))
    (hfree : fs.pathExists (FilePath.join directory file) = false) :
    fs.Seats (FilePath.join directory file) (place ++ [file]) := by
  have hlocate : fs.locateText (FilePath.join directory file) = .ok (place ++ [file]) := by
    rw [htext.locateText_eq, FilePath.ofString_join hname]
    exact follow_concat hdirectory hplace ⟨hname.ne_dot, hname.not_parent, hname.short⟩
  refine ⟨hlocate, fun hthere => ?_, FilePath.asksForDirectory_join hname directory⟩
  rw [pathExists, lookup, hlocate] at hfree
  dsimp only at hfree
  rw [hthere] at hfree
  cases hfree

end ClusterVault.FileSystem
