import ClusterVault.Api.Secrets
import Mathlib.Data.List.Forall2
import Mathlib.Data.List.Induction

/-!
# The values of secrets in an order

All texts of an order are decoded before anything is asked of a store. Either all of them have a value,
or each that has none is named with what is wrong with it.

## Main definitions

- `SecretsApi.Decodes`: the value of a secret
- `SecretsApi.Complaint`: what is said of a secret that has no value
- `SecretsApi.HasValues`, `SecretsApi.HasFlaws`: what comes of the texts of an order

## Main statements

- `SecretsApi.decodeSecrets_cases`: either all secrets have values, or it is said what is wrong
-/

namespace ClusterVault.SecretsApi

/-- A text has a value, of a length that a secret may have. -/
def Decodes (text : String) (value : Bytes) : Prop :=
  Base64.decode (Bytes.ofString text) = .ok value ∧ value.length ∈ secretLengths

/-- What is said of a secret without a value. -/
inductive Complaint (id text : String) : String → Prop
  | undecodable {fault : Base64.Fault} (h : Base64.decode (Bytes.ofString text) = .error fault) :
    Complaint id text s!"secret {Quoted.text id} is not valid base64: {fault.message}"
  | length {value : Bytes} (h : Base64.decode (Bytes.ofString text) = .ok value)
    (hlength : value.length ∉ secretLengths) :
    Complaint id text s!"secret {Quoted.text id} has invalid length: {value.length}"

/-- All secrets of an order have values. -/
structure HasValues (texts : Std.ExtTreeMap String String) (secrets : Secrets) : Prop where
  exists_value : ∀ (id text : String), texts[id]? = some text → ∃ value, Decodes text value
  getElem?_eq_some : ∀ (id : String) (value : Bytes),
    secrets[id]? = some value ↔ ∃ text, texts[id]? = some text ∧ Decodes text value

/-- Some secrets of an order have no value, and each line says what is wrong with one of them. -/
structure HasFlaws (texts : Std.ExtTreeMap String String) (lines : List String) : Prop where
  exists_flaw : ∃ id text : String, texts[id]? = some text ∧ ¬∃ value, Decodes text value
  lines : ∃ flawed : List (String × String),
    (∀ id text : String,
      (id, text) ∈ flawed ↔ texts[id]? = some text ∧ ¬∃ value, Decodes text value) ∧
    flawed.Pairwise (fun entry other => compare entry.1 other.1 = .lt) ∧
    List.Forall₂ (fun entry line => Complaint entry.1 entry.2 line) flawed lines

variable {id text line : String} {value : Bytes} {entries : List (String × String)}
  {texts : Std.ExtTreeMap String String}

theorem decodeSecret_eq_ok (id : String) : decodeSecret id text = .ok value ↔ Decodes text value := by
  unfold decodeSecret Decodes
  cases hdecode : Base64.decode (Bytes.ofString text) with
  | error fault => simp
  | ok found =>
    dsimp only
    constructor
    · intro h
      split at h
      · next hlength =>
        cases h
        exact ⟨rfl, List.contains_iff_mem.1 hlength⟩
      · cases h
    · rintro ⟨hvalue, hlength⟩
      cases hvalue
      rw [if_pos (List.contains_iff_mem.2 hlength)]

theorem complaint_of_decodeSecret (h : decodeSecret id text = .error line) :
    Complaint id text line := by
  unfold decodeSecret at h
  cases hdecode : Base64.decode (Bytes.ofString text) with
  | error fault =>
    rw [hdecode] at h
    cases h
    exact .undecodable hdecode
  | ok found =>
    rw [hdecode] at h
    dsimp only at h
    split at h
    · cases h
    · next hlength =>
      cases h
      exact .length hdecode (mt List.contains_iff_mem.2 hlength)

/-- The secrets that have no value. -/
def offending (entries : List (String × String)) : List (String × String) :=
  entries.filter fun entry => (decodeSecret entry.1 entry.2).toOption.isNone

theorem isNone_decodeSecret :
    (decodeSecret id text).toOption.isNone = true ↔ ¬∃ value, Decodes text value := by
  rw [Option.isNone_iff_eq_none, Option.eq_none_iff_forall_ne_some, not_exists]
  refine forall_congr' fun value => not_congr ?_
  rw [← decodeSecret_eq_ok id]
  cases decodeSecret id text <;> simp [Except.toOption]

theorem mem_offending :
    (id, text) ∈ offending entries ↔ (id, text) ∈ entries ∧ ¬∃ value, Decodes text value := by
  rw [offending, List.mem_filter, isNone_decodeSecret]

/-- There is one line for each of them, in the same order. -/
theorem forall₂_problems (entries : List (String × String)) :
    List.Forall₂ (fun entry line => Complaint entry.1 entry.2 line) (offending entries)
      (problems entries) := by
  induction entries with
  | nil => exact .nil
  | cons entry entries ih =>
    obtain ⟨id, text⟩ := entry
    cases hdecode : decodeSecret id text with
    | ok value =>
      rw [offending, List.filter_cons_of_neg (by simp [hdecode, Except.toOption]), problems,
        List.filterMap_cons_none (by simp only [hdecode])]
      exact ih
    | error line =>
      rw [offending, List.filter_cons_of_pos (by simp [hdecode, Except.toOption]), problems,
        List.filterMap_cons_some (b := line) (by simp only [hdecode])]
      exact .cons (complaint_of_decodeSecret hdecode) ih

theorem values_concat (entries : List (String × String)) (id text : String) :
    values (entries ++ [(id, text)]) = match decodeSecret id text with
      | .ok value => (values entries).insert id value
      | .error _ => values entries := by
  rw [values, List.foldl_append]
  rfl

/-- Each value is that of the text with its id, if no two have the same. -/
theorem getElem?_values (hdistinct : entries.Pairwise fun entry other => entry.1 ≠ other.1) :
    (values entries)[id]? = some value ↔ ∃ text, (id, text) ∈ entries ∧ Decodes text value := by
  induction entries using List.reverseRecOn with
  | nil => simp [values]
  | append_singleton entries entry ih =>
    obtain ⟨id', text'⟩ := entry
    obtain ⟨hbefore, -, hlast⟩ := List.pairwise_append.1 hdistinct
    have hinsert : (values (entries ++ [(id', text')]))[id]? = some value ↔
        (id = id' ∧ Decodes text' value) ∨ ∃ text, (id, text) ∈ entries ∧ Decodes text value := by
      rw [values_concat]
      by_cases hid : id = id'
      · subst hid
        have hnew : ¬∃ text, (id, text) ∈ entries ∧ Decodes text value := by
          rintro ⟨text, hentry, -⟩
          exact hlast (id, text) hentry (id, text') (List.mem_singleton_self _) rfl
        rw [← decodeSecret_eq_ok id]
        cases decodeSecret id text' with
        | ok found => simp [hnew]
        | error line => simp [ih hbefore]
      · have hne : ¬compare id' id = .eq := fun heq => hid (Std.LawfulEqCmp.eq_of_compare heq).symm
        cases decodeSecret id' text' with
        | ok found => simp [Std.ExtTreeMap.getElem?_insert, hne, hid, ih hbefore]
        | error line => simp [hid, ih hbefore]
    rw [hinsert]
    simp only [List.mem_append, List.mem_singleton, Prod.mk.injEq, or_and_right, exists_or,
      and_assoc, exists_and_left, exists_eq_left]
    exact or_comm

/-- Either all secrets of an order have values, which are told, or it is told what is wrong. -/
theorem decodeSecrets_cases (texts : Std.ExtTreeMap String String) :
    (∃ secrets, decodeSecrets texts = .ok secrets ∧ HasValues texts secrets) ∨
      ∃ lines, decodeSecrets texts = .error lines ∧ HasFlaws texts lines := by
  have hmem (id text : String) : (id, text) ∈ offending texts.toList ↔
      texts[id]? = some text ∧ ¬∃ value, Decodes text value := by
    rw [mem_offending, Std.ExtTreeMap.mem_toList_iff_getElem?_eq_some]
  have hordered := Std.ExtTreeMap.ordered_keys_toList (t := texts)
  have hlines := forall₂_problems texts.toList
  unfold decodeSecrets
  cases hproblems : problems texts.toList with
  | nil =>
    rw [hproblems, List.forall₂_nil_right_iff] at hlines
    refine .inl ⟨_, rfl, fun id text htext => ?_, fun id value => ?_⟩
    · by_contra hnone
      have hflawed := (hmem id text).2 ⟨htext, hnone⟩
      rw [hlines] at hflawed
      cases hflawed
    · rw [getElem?_values (hordered.imp fun hlt heq => by simp [heq] at hlt)]
      simp only [Std.ExtTreeMap.mem_toList_iff_getElem?_eq_some]
  | cons line lines =>
    rw [hproblems] at hlines
    refine .inr ⟨_, rfl, ?_, offending texts.toList, hmem, hordered.filter _, hlines⟩
    obtain ⟨first, rest, -, -, hflawed⟩ := List.forall₂_cons_right_iff.1 hlines
    exact ⟨first.1, first.2, (hmem _ _).1 (hflawed ▸ List.mem_cons_self)⟩

end ClusterVault.SecretsApi
