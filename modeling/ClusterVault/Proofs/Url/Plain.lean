import ClusterVault.Proofs.Url.Reading

/-!
# URLs of plain hosts

A host made of labels of lower-case letters, digits and hyphens comes out of the reading of a URL as
it is written.

## Main definitions

- `Host.plainChars`, `Host.IsPlainLabel`: what plain labels are made of

## Main statements

- `Host.parse_ofLabels`: a plain host is read as it is written
- `Url.parse_https`: so is the URL of a plain host in a local domain
-/

namespace ClusterVault

namespace Host

/-- The characters of plain labels. -/
def plainChars : List Char := "abcdefghijklmnopqrstuvwxyz0123456789-".toList

/-- A label of lower-case letters, digits and hyphens that is not an encoded one. -/
structure IsPlainLabel (label : List Char) : Prop where
  chars : ∀ c ∈ label, c ∈ plainChars
  unmarked : Idna.punycodeMark.isPrefixOf label = false

/-- The text of a host with the given labels. -/
def ofLabels (labels : List (List Char)) : List Char := ['.'].intercalate labels

variable {c : Char} {label : List Char} {labels : List (List Char)} {text : List Char}

/-! ## Characters -/

theorem of_mem_plainChars {P : Char → Prop} [DecidablePred P]
    (h : ('.' :: plainChars).all fun c => decide (P c)) (hc : c ∈ '.' :: plainChars) : P c :=
  of_decide_eq_true (List.all_eq_true.1 h c hc)

/-- A domain name may hold the characters of plain labels. -/
theorem mem_nameChars_of_plain (hc : c ∈ '.' :: plainChars) : c ∈ Idna.nameChars :=
  Idna.mem_nameChars.2 <|
    of_mem_plainChars (P := fun c => Idna.isAscii c ∧ ¬ Idna.isForbidden c) (by decide +kernel) hc

/-! ## Labels -/

theorem ofLabels_cons (label next : List Char) (labels : List (List Char)) :
    ofLabels (label :: next :: labels) = label ++ '.' :: ofLabels (next :: labels) := by
  simp [ofLabels]

/-- The labels of a host are what lies between its full stops. -/
theorem splitAtChar_ofLabels (hne : labels ≠ []) (h : ∀ label ∈ labels, '.' ∉ label) :
    Text.splitAtChar '.' (ofLabels labels) = labels := by
  induction labels with
  | nil => exact absurd rfl hne
  | cons label labels ih =>
    rw [List.forall_mem_cons] at h
    cases labels with
    | nil =>
      rw [ofLabels, List.intercalate_singleton]
      exact Text.splitAtChar_of_not_mem h.1
    | cons next labels =>
      rw [ofLabels_cons, Text.splitAtChar_append_cons, Text.splitAtChar_of_not_mem h.1,
        ih (List.cons_ne_nil _ _) h.2, List.singleton_append]

theorem mem_ofLabels (h : ∀ label ∈ labels, IsPlainLabel label) (hc : c ∈ ofLabels labels) :
    c ∈ '.' :: plainChars :=
  Text.forall_mem_intercalate List.mem_cons_self
    (fun label hlabel d hd => List.mem_cons_of_mem _ ((h label hlabel).chars d hd)) c hc

theorem IsPlainLabel.dot_not_mem (h : IsPlainLabel label) : '.' ∉ label :=
  fun hdot => absurd (h.chars '.' hdot) (by decide +kernel)

theorem map_toLower_plain (h : ∀ c ∈ text, c ∈ '.' :: plainChars) : text.map Char.toLower = text := by
  refine (List.map_congr_left fun c hc => ?_).trans (List.map_id text)
  exact of_mem_plainChars (P := fun c => c.toLower = c) (by decide +kernel) (h c hc)

section Plain

variable (hne : labels ≠ []) (hplain : ∀ label ∈ labels, IsPlainLabel label)

include hne hplain

theorem isPlain_ofLabels : Idna.isPlain (ofLabels labels) = true := by
  have hascii : (ofLabels labels).all Idna.isAscii = true :=
    List.all_eq_true.2 fun c hc =>
      of_mem_plainChars (P := fun c => Idna.isAscii c = true) (by decide +kernel)
        (mem_ofLabels hplain hc)
  rw [Idna.isPlain, hascii, Bool.true_and, Bool.not_eq_true', List.any_eq_false,
    splitAtChar_ofLabels hne fun label hlabel => (hplain label hlabel).dot_not_mem]
  intro label hlabel
  rw [map_toLower_plain fun c hc => List.mem_cons_of_mem _ ((hplain label hlabel).chars c hc),
    (hplain label hlabel).unmarked]
  exact Bool.false_ne_true

theorem toAscii?_ofLabels :
    Idna.toAscii? (String.ofList (ofLabels labels)) = some (ofLabels labels) := by
  rw [Idna.toAscii?_of_isPlain (fun c hc => mem_nameChars_of_plain (mem_ofLabels hplain hc))
    (isPlain_ofLabels hne hplain), map_toLower_plain fun c hc => mem_ofLabels hplain hc]

/-- A plain host is read as it is written, unless it is a number. -/
theorem parse_ofLabels (hnumber : IpAddress.endsInNumber (ofLabels labels) = false)
    (hempty : ofLabels labels ≠ []) :
    parse (ofLabels labels) = .ok (.domain (String.ofList (ofLabels labels))) := by
  have hname : ∀ c ∈ ofLabels labels, c ∈ Idna.nameChars :=
    fun c hc => mem_nameChars_of_plain (mem_ofLabels hplain hc)
  refine parse_of_toAscii? (head?_ne_of_mem_nameChars hname) ?_ hempty hnumber
  rw [decoded_of_mem_nameChars hname]
  exact toAscii?_ofLabels hne hplain

end Plain

end Host

/-! ## Hosts of a local domain -/

namespace Host

variable {front : List (List Char)}

theorem isPlainLabel_local : IsPlainLabel "local".toList :=
  ⟨List.all_iff_forall_prop.1 (by decide), by decide⟩

/-- A host whose last label is no number is no address. -/
theorem endsInNumber_local (hfront : ∀ label ∈ front, IsPlainLabel label) :
    IpAddress.endsInNumber (ofLabels (front ++ ["local".toList])) = false := by
  have hdots : ∀ label ∈ front ++ ["local".toList], '.' ∉ label := by
    refine List.forall_mem_append.2 ⟨fun label hlabel => (hfront label hlabel).dot_not_mem, ?_⟩
    exact List.forall_mem_singleton.2 isPlainLabel_local.dot_not_mem
  exact IpAddress.endsInNumber_of_local
    (splitAtChar_ofLabels (List.append_ne_nil_of_right_ne_nil _ (List.cons_ne_nil _ _)) hdots)

theorem ofLabels_ne_nil {label : List Char} {labels : List (List Char)} (h : label ≠ []) :
    ofLabels (label :: labels) ≠ [] := by
  cases labels with
  | nil =>
    rw [ofLabels, List.intercalate_singleton]
    exact h
  | cons next labels =>
    rw [ofLabels_cons]
    exact List.append_ne_nil_of_left_ne_nil h _

end Host

/-- The URL of a plain host in a local domain is read as it is written. -/
theorem Url.parse_https {label port : List Char} {front : List (List Char)} {n : Nat}
    (hne : label ≠ []) (hfront : ∀ l ∈ label :: front, Host.IsPlainLabel l)
    (hport : ∀ c ∈ port, c ∈ Host.plainChars)
    (hread : readPort "https" port = .ok (some n, [])) :
    let host := Host.ofLabels (label :: front ++ ["local".toList])
    parse (String.ofList ("https://".toList ++ (host ++ ':' :: port))) =
      .ok (https (String.ofList host) n) := by
  intro host
  have hplain : ∀ l ∈ label :: front ++ ["local".toList], Host.IsPlainLabel l := by
    rw [List.forall_mem_append, List.forall_mem_singleton]
    exact ⟨hfront, Host.isPlainLabel_local⟩
  have hhost : host ≠ [] := Host.ofLabels_ne_nil hne
  have hparse : Host.parse host = .ok (.domain (String.ofList host)) :=
    Host.parse_ofLabels (List.cons_ne_nil _ _) hplain (Host.endsInNumber_local hfront) hhost
  rw [parse_host_port (fun c hc => Host.mem_nameChars_of_plain (Host.mem_ofLabels hplain hc))
    (fun c hc => Host.mem_nameChars_of_plain (List.mem_cons_of_mem _ (hport c hc))) hhost hread,
    hparse]
  rfl

end ClusterVault
