import ClusterVault.Proofs.Text.Composed
import ClusterVault.Proofs.Text.Splitting
import ClusterVault.Proofs.Url.Punycode
import ClusterVault.Url.Idna

/-!
# Domain names of ASCII

A domain name of ASCII is its own ASCII form, letter case apart, or none at all. The hard case are
labels in Punycode, which are decoded, checked and encoded again.

## Main definitions

- `Idna.nameChars`: the characters that an ASCII form is made of

## Main statements

- `Idna.eq_map_toLower_of_toAscii?`: the ASCII form of a name of ASCII is the name in small letters
- `Idna.mem_nameChars_of_toAscii?`: an ASCII form holds nothing that a domain name may not hold
-/

namespace ClusterVault.Idna

variable {c : Char} {name label text out : List Char}

/-- The characters of ASCII that a domain name may hold. -/
def nameChars : List Char := ((List.range 0x80).map Char.ofNat).filter (!isForbidden ·)

theorem mem_nameChars : c ∈ nameChars ↔ isAscii c ∧ ¬ isForbidden c := by
  rw [nameChars, List.mem_filter, Bool.not_eq_true', Bool.not_eq_true, isAscii, decide_eq_true_eq]
  refine and_congr_left' ⟨fun h => ?_, fun h => ?_⟩
  · obtain ⟨k, hk, rfl⟩ := List.mem_map.1 h
    have hall : ∀ k < 0x80, (Char.ofNat k).toNat < 0x80 := by decide +kernel
    exact hall k (List.mem_range.1 hk)
  · exact List.mem_map.2 ⟨c.toNat, List.mem_range.2 h, Char.ofNat_toNat c⟩

theorem of_mem_nameChars {P : Char → Prop} [DecidablePred P]
    (h : nameChars.all fun c => decide (P c)) (hc : c ∈ nameChars) : P c :=
  of_decide_eq_true (List.all_eq_true.1 h c hc)

/-! ## Names in canonical form -/

theorem toLower_ascii (hc : c.toNat < 0x80) :
    c.toLower.toNat < 0x80 ∧ c.toLower.toLower = c.toLower := by
  have hall : ∀ k < 0x80, (Char.ofNat k).toLower.toNat < 0x80 ∧
      (Char.ofNat k).toLower.toLower = (Char.ofNat k).toLower := by decide +kernel
  have h := hall c.toNat hc
  rwa [Char.ofNat_toNat] at h

/-- A name of ASCII has a canonical form, which is the name in small letters. -/
theorem canonical?_of_ascii (h : ∀ c ∈ name, c.toNat < 0x80) :
    canonical? name = some (name.map Char.toLower) := by
  have hmap : name.mapM map? = some (name.map fun c => [c.toLower]) := by
    induction name with
    | nil => rfl
    | cons c name ih =>
      rw [List.forall_mem_cons] at h
      have hc : map? c = some [c.toLower] := if_pos (decide_eq_true h.1)
      rw [List.mapM_cons, hc, ih h.2]
      rfl
  have hflatten : (name.map fun c => [c.toLower]).flatten = name.map Char.toLower := by
    rw [← List.flatMap_def, List.map_eq_flatMap]
  have hlower : ∀ c ∈ name.map Char.toLower, c.toNat < 0x80 :=
    List.forall_mem_map.2 fun c hc => (toLower_ascii (h c hc)).1
  rw [canonical?, hmap, Option.map_some, hflatten, Composition.normalize_of_ascii hlower]

/-! ## Labels -/

/-- A label with all its characters is the label itself, or what is encoded behind the mark. -/
theorem of_toUnicode? (h : toUnicode? label = some text) :
    text = label ∨ ∃ encoded, label = punycodeMark ++ encoded ∧
      Punycode.decode? encoded = some text ∧ text.all isAscii = false := by
  rw [toUnicode?] at h
  by_cases hmark : punycodeMark.isPrefixOf label
  · obtain ⟨encoded, rfl⟩ := List.isPrefixOf_iff_prefix.1 hmark
    rw [if_pos hmark, List.drop_left] at h
    obtain ⟨decoded, hdecode, hrest⟩ := Option.bind_eq_some_iff.1 h
    obtain ⟨_, hchecked, hend⟩ := Option.bind_eq_some_iff.1 hrest
    rw [pure_bind] at hend
    obtain ⟨_, -, htext⟩ := Option.bind_eq_some_iff.1 hend
    cases htext
    refine .inr ⟨encoded, rfl, hdecode, ?_⟩
    by_contra hascii
    rw [Bool.not_eq_false] at hascii
    rw [hascii] at hchecked
    cases hchecked
  · rw [if_neg hmark, pure_bind] at h
    obtain ⟨_, -, htext⟩ := Option.bind_eq_some_iff.1 h
    cases htext
    exact .inl rfl

/-- A label of ASCII in small letters stays as it is, also if it is decoded and encoded again. -/
theorem eq_of_labelToAscii? (hascii : ∀ c ∈ label, c.toNat < 0x80)
    (hlower : ∀ c ∈ label, c.toLower = c) (htext : toUnicode? label = some text)
    (hout : labelToAscii? text = some out) : out = label := by
  rw [labelToAscii?] at hout
  split at hout
  · cases hout
  · rcases of_toUnicode? htext with rfl | ⟨encoded, rfl, hdecode, hbeyond⟩
    · have hall : text.all isAscii = true :=
        List.all_eq_true.2 fun c hc => decide_eq_true (hascii c hc)
      rw [if_pos hall] at hout
      cases hout
      rfl
    · rw [hbeyond] at hout
      cases hout
      rw [Punycode.encode_of_decode? hdecode (List.forall_mem_append.1 hlower).2]

/-- The ASCII form of a label holds nothing that a domain name may not hold. -/
theorem mem_nameChars_of_labelToAscii? (h : labelToAscii? label = some out) :
    ∀ c ∈ out, c ∈ nameChars := by
  rw [labelToAscii?] at h
  split at h
  · cases h
  · next hallowed =>
    have hlabel : ∀ c ∈ label, c.toNat < 0x80 → c ∈ nameChars := fun c hc hascii =>
      mem_nameChars.2 ⟨decide_eq_true hascii, fun hforbidden =>
        hallowed (List.any_eq_true.2 ⟨c, hc, hforbidden⟩)⟩
    split at h
    · next hascii =>
      cases h
      exact fun c hc => hlabel c hc (of_decide_eq_true (List.all_eq_true.1 hascii c hc))
    · cases h
      have hdigits : ∀ d < 36, isAscii (Punycode.digit d) ∧ ¬ isForbidden (Punycode.digit d) := by
        decide +kernel
      have hmark : ∀ c ∈ punycodeMark, isAscii c ∧ ¬ isForbidden c :=
        List.all_iff_forall_prop.1 (by decide +kernel)
      refine List.forall_mem_append.2 ⟨fun c hc => mem_nameChars.2 (hmark c hc), ?_⟩
      exact Punycode.mem_encode (fun d hd => mem_nameChars.2 (hdigits d hd))
        (mem_nameChars.2 (hmark '-' (by decide))) hlabel

/-! ## Names -/

theorem exists_of_mem_of_mapM {α β : Type} {f : α → Option β} {l : List α} {r : List β} {b : β}
    (h : l.mapM f = some r) (hb : b ∈ r) : ∃ a ∈ l, f a = some b := by
  induction l generalizing r with
  | nil =>
    cases h
    cases hb
  | cons a l ih =>
    rw [List.mapM_cons] at h
    simp only [Option.bind_eq_bind, Option.bind_eq_some_iff] at h
    obtain ⟨b', hb', r', hr', hr⟩ := h
    cases hr
    rcases List.mem_cons.1 hb with rfl | hb
    · exact ⟨a, List.mem_cons_self, hb'⟩
    · obtain ⟨a', ha', hfa'⟩ := ih hr' hb
      exact ⟨a', List.mem_cons_of_mem _ ha', hfa'⟩

/-- Labels of ASCII in small letters stay as they are. -/
theorem eq_of_mapM_labelToAscii? {labels texts outs : List (List Char)}
    (hascii : ∀ label ∈ labels, ∀ c ∈ label, c.toNat < 0x80)
    (hlower : ∀ label ∈ labels, ∀ c ∈ label, c.toLower = c)
    (htexts : labels.mapM toUnicode? = some texts) (houts : texts.mapM labelToAscii? = some outs) :
    outs = labels := by
  induction labels generalizing texts outs with
  | nil =>
    cases htexts
    cases houts
    rfl
  | cons label labels ih =>
    rw [List.forall_mem_cons] at hascii hlower
    rw [List.mapM_cons] at htexts
    simp only [Option.bind_eq_bind, Option.bind_eq_some_iff] at htexts
    obtain ⟨text, htext, texts', htexts', heq⟩ := htexts
    cases heq
    rw [List.mapM_cons] at houts
    simp only [Option.bind_eq_bind, Option.bind_eq_some_iff] at houts
    obtain ⟨out, hout, outs', houts', heq⟩ := houts
    cases heq
    rw [eq_of_labelToAscii? hascii.1 hlower.1 htext hout, ih hascii.2 hlower.2 htexts' houts']

/-- The ASCII form of a name is the name in small letters, or it is put together from the forms of
    the labels of its canonical form. -/
theorem of_toAscii? {name : String} (h : toAscii? name = some out) :
    (¬ name.toList.any isForbidden ∧ name.toList.all isAscii ∧
        out = name.toList.map Char.toLower) ∨
      ∃ canonical texts outs, canonical? name.toList = some canonical ∧
        (Text.splitAtChar '.' canonical).mapM toUnicode? = some texts ∧
        texts.mapM labelToAscii? = some outs ∧ out = ['.'].intercalate outs := by
  rw [toAscii?] at h
  by_cases hplain : isPlain name.toList
  · rw [if_pos hplain] at h
    split at h
    · cases h
    · next hallowed =>
      cases h
      rw [isPlain, Bool.and_eq_true] at hplain
      exact .inl ⟨hallowed, hplain.1, rfl⟩
  · rw [if_neg hplain] at h
    obtain ⟨canonical, hcanonical, hlabels⟩ := Option.bind_eq_some_iff.1 h
    obtain ⟨texts, htexts, hchecked⟩ := Option.bind_eq_some_iff.1 hlabels
    obtain ⟨_, -, hencoded⟩ := Option.bind_eq_some_iff.1 hchecked
    obtain ⟨outs, houts, heq⟩ := Option.bind_eq_some_iff.1 hencoded
    cases heq
    exact .inr ⟨canonical, texts, outs, hcanonical, htexts, houts, rfl⟩

/-- The ASCII form of a name of ASCII, if it has one, is the name in small letters. -/
theorem eq_map_toLower_of_toAscii? {name : String} (hascii : ∀ c ∈ name.toList, c.toNat < 0x80)
    (h : toAscii? name = some out) : out = name.toList.map Char.toLower := by
  rcases of_toAscii? h with ⟨-, -, hout⟩ | ⟨canonical, texts, outs, hcanonical, htexts, houts, hout⟩
  · exact hout
  · rw [canonical?_of_ascii hascii] at hcanonical
    cases hcanonical
    have hlower : ∀ c ∈ name.toList.map Char.toLower, c.toNat < 0x80 ∧ c.toLower = c :=
      List.forall_mem_map.2 fun c hc => toLower_ascii (hascii c hc)
    rw [hout, eq_of_mapM_labelToAscii?
      (fun label hlabel c hc => (hlower c (Text.mem_of_mem_splitAtChar hlabel hc)).1)
      (fun label hlabel c hc => (hlower c (Text.mem_of_mem_splitAtChar hlabel hc)).2) htexts houts,
      Text.intercalate_splitAtChar]

/-- A name without a label in Punycode is taken in small letters. -/
theorem toAscii?_of_isPlain (hname : ∀ c ∈ name, c ∈ nameChars) (hplain : isPlain name) :
    toAscii? (String.ofList name) = some (name.map Char.toLower) := by
  have hallowed : name.any isForbidden = false :=
    List.any_eq_false.2 fun c hc => (mem_nameChars.1 (hname c hc)).2
  rw [toAscii?, String.toList_ofList, if_pos hplain, hallowed]
  rfl

/-- An ASCII form holds nothing that a domain name may not hold. -/
theorem mem_nameChars_of_toAscii? {name : String} (h : toAscii? name = some out) :
    ∀ c ∈ out, c ∈ nameChars := by
  rcases of_toAscii? h with ⟨hallowed, hascii, rfl⟩ | ⟨_, texts, outs, -, -, houts, rfl⟩
  · refine List.forall_mem_map.2 fun c hc => ?_
    have hname : c ∈ nameChars :=
      mem_nameChars.2 ⟨List.all_eq_true.1 hascii c hc, fun hforbidden =>
        hallowed (List.any_eq_true.2 ⟨c, hc, hforbidden⟩)⟩
    exact mem_nameChars.2 <|
      of_mem_nameChars (P := fun c => isAscii c.toLower ∧ ¬ isForbidden c.toLower)
        (by decide +kernel) hname
  · have hlabels : ∀ label ∈ outs, ∀ c ∈ label, c ∈ nameChars := by
      intro label hlabel
      obtain ⟨text, -, htext⟩ := exists_of_mem_of_mapM houts hlabel
      exact mem_nameChars_of_labelToAscii? htext
    exact Text.forall_mem_intercalate (by decide +kernel) hlabels

end ClusterVault.Idna
