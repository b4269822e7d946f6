import ClusterVault.Proofs.Url.Reading

/-!
# Hosts that a URL keeps

A URL holds its host in canonical form, so the host of a URL may be another text than the one that was
written. If it is the same text, it is made of characters of ASCII without capital letters, and every
host that is made of them is kept, if it is one at all.

## Main definitions

- `Host.IsLower`: a text of small letters and other characters that a domain name may hold

## Main statements

- `Url.isLower_of_hostText?`: a host in a local domain that is kept is such a text
- `Url.eq_https_of_isLower`: such a host is kept
- `Url.parse_of_isPlain`: a host without a label in Punycode comes out in small letters
-/

namespace ClusterVault

namespace Host

/-- A text of small letters and other characters that a domain name may hold. -/
def IsLower (text : List Char) : Prop := ∀ c ∈ text, c ∈ Idna.nameChars ∧ c.toLower = c

variable {host : Host} {front text : List Char}

theorem mem_render_v4 (octets : Bytes) :
    ∀ c ∈ (IpAddress.v4 octets).render.toList, c.isDigit ∨ c = '.' := by
  rw [IpAddress.render, String.toList_intercalate]
  refine Text.forall_mem_intercalate (.inr rfl) ?_
  rw [List.map_map]
  refine List.forall_mem_map.2 fun octet _ c hc => .inl ?_
  have hdigits : c ∈ Nat.toDigits 10 octet.toNat := by simpa [toString, Nat.toList_repr] using hc
  exact Nat.isDigit_of_mem_toDigits (by decide) (by decide) hdigits

/-- An address does not read as a name in a local domain. -/
theorem eq_domain_of_render (hlocal : text = front ++ ".local".toList)
    (h : host.render = String.ofList text) : host = .domain (String.ofList text) := by
  have htext := congrArg String.toList h
  rw [String.toList_ofList] at htext
  cases host with
  | domain name => rw [← h, render]
  | address ip =>
    exfalso
    cases ip with
    | v4 octets =>
      have hmem : 'l' ∈ text := hlocal ▸ List.mem_append_right _ (by decide)
      exact absurd (mem_render_v4 octets 'l' (htext ▸ hmem)) (by decide)
    | v6 octets =>
      have hend := congrArg List.getLast? htext
      rw [hlocal, render, String.toList_append, List.getLast?_append, List.getLast?_append] at hend
      have hlast : some ']' = some 'l' := hend
      exact absurd hlast (by decide)

/-- A name of small letters in a local domain is read as it is written, if it is a name at all. -/
theorem eq_domain_of_isLower (hlower : IsLower text) (hlocal : text = front ++ ".local".toList)
    (h : parse text = .ok host) : host = .domain (String.ofList text) := by
  have hname : ∀ c ∈ text, c ∈ Idna.nameChars := fun c hc => (hlower c hc).1
  have hbracket := head?_ne_of_mem_nameChars hname
  obtain ⟨name, hascii, hempty⟩ := exists_toAscii?_of_parse hbracket h
  have heq : name = text := by
    have htoLower : text.map Char.toLower = text :=
      (List.map_congr_left fun c hc => (hlower c hc).2).trans (List.map_id text)
    rw [decoded_of_mem_nameChars hname] at hascii
    rw [← htoLower, ← String.toList_ofList (l := text)]
    refine Idna.eq_map_toLower_of_toAscii? (fun c hc => ?_) hascii
    rw [String.toList_ofList] at hc
    exact of_decide_eq_true (Idna.mem_nameChars.1 (hname c hc)).1
  subst heq
  have hlabels : Text.splitAtChar '.' name = Text.splitAtChar '.' front ++ ["local".toList] := by
    rw [hlocal]
    exact Text.splitAtChar_append_cons '.' front "local".toList
  rw [parse_of_toAscii? hbracket hascii hempty (IpAddress.endsInNumber_of_local hlabels)] at h
  cases h
  rfl

/-- A name without a label in Punycode is read in small letters. -/
theorem parse_of_isPlain (hname : ∀ c ∈ text, c ∈ Idna.nameChars) (hplain : Idna.isPlain text)
    (hlocal : text = front ++ ".local".toList) :
    parse text = .ok (.domain (String.ofList (text.map Char.toLower))) := by
  have hascii := Idna.toAscii?_of_isPlain hname hplain
  rw [← decoded_of_mem_nameChars hname] at hascii
  have hlower : text.map Char.toLower = front.map Char.toLower ++ '.' :: "local".toList := by
    rw [hlocal, List.map_append]
    rfl
  have hlabels : Text.splitAtChar '.' (text.map Char.toLower) =
      Text.splitAtChar '.' (front.map Char.toLower) ++ ["local".toList] := by
    rw [hlower]
    exact Text.splitAtChar_append_cons '.' (front.map Char.toLower) "local".toList
  have hempty : text.map Char.toLower ≠ [] := by
    rw [hlower]
    exact List.append_ne_nil_of_right_ne_nil _ (List.cons_ne_nil _ _)
  exact parse_of_toAscii? (head?_ne_of_mem_nameChars hname) hascii hempty
    (IpAddress.endsInNumber_of_local hlabels)

end Host

namespace Url

variable {host front port : List Char} {n : Nat} {url : Url}

section Port

variable (hport : ∀ c ∈ port, c ∈ Idna.nameChars) (hread : readPort "https" port = .ok (some n, []))
  (hlocal : host = front ++ ".local".toList)

include hport hread hlocal

theorem parse_local (hname : ∀ c ∈ host, c ∈ Idna.nameChars) :
    parse (String.ofList ("https://".toList ++ (host ++ ':' :: port))) =
      (Host.parse host).map fun h =>
        { scheme := "https", authority := some { host := some h, port := some n }, path := "/" } := by
  refine parse_host_port hname hport ?_ hread
  rw [hlocal]
  exact List.append_ne_nil_of_right_ne_nil _ (by decide)

theorem exists_of_parse_local (hname : ∀ c ∈ host, c ∈ Idna.nameChars)
    (h : parse (String.ofList ("https://".toList ++ (host ++ ':' :: port))) = .ok url) :
    ∃ found, Host.parse host = .ok found ∧ url =
      { scheme := "https", authority := some { host := some found, port := some n }, path := "/" } := by
  rw [parse_local hport hread hlocal hname] at h
  cases hparse : Host.parse host with
  | error e =>
    rw [hparse] at h
    cases h
  | ok found =>
    rw [hparse] at h
    cases h
    exact ⟨found, rfl, rfl⟩

/-- A host without a label in Punycode comes out in small letters. -/
theorem parse_of_isPlain (hname : ∀ c ∈ host, c ∈ Idna.nameChars) (hplain : Idna.isPlain host) :
    parse (String.ofList ("https://".toList ++ (host ++ ':' :: port))) =
      .ok (https (String.ofList (host.map Char.toLower)) n) := by
  rw [parse_local hport hread hlocal hname, Host.parse_of_isPlain hname hplain hlocal]
  rfl

/-- A host of small letters is kept. -/
theorem eq_https_of_isLower
    (h : parse (String.ofList ("https://".toList ++ (host ++ ':' :: port))) = .ok url)
    (hlower : Host.IsLower host) : url = https (String.ofList host) n := by
  obtain ⟨found, hparse, rfl⟩ :=
    exists_of_parse_local hport hread hlocal (fun c hc => (hlower c hc).1) h
  rw [Host.eq_domain_of_isLower hlower hlocal hparse]
  rfl

/-- A host that is kept is made of small letters. -/
theorem isLower_of_hostText?
    (h : parse (String.ofList ("https://".toList ++ (host ++ ':' :: port))) = .ok url)
    (hkept : url.hostText? = some (String.ofList host)) : Host.IsLower host := by
  -- the host was read from some text, so it holds nothing that a domain name may not hold
  have hname : ∀ c ∈ host, c ∈ Idna.nameChars := by
    obtain ⟨text, found, hparse, hfound⟩ := exists_parse_host h
    rw [hkept, Option.some_inj] at hfound
    rw [Host.eq_domain_of_render hlocal hfound.symm] at hparse
    have hascii := Idna.mem_nameChars_of_toAscii? (Host.toAscii?_of_parse_domain hparse)
    rwa [String.toList_ofList] at hascii
  -- so it is read as a whole, and comes out in small letters
  obtain ⟨found, hparse, rfl⟩ := exists_of_parse_local hport hread hlocal hname h
  rw [Host.eq_domain_of_render hlocal (Option.some_inj.1 hkept)] at hparse
  have hascii := Host.toAscii?_of_parse_domain hparse
  rw [Host.decoded_of_mem_nameChars hname] at hascii
  have htoLower := Idna.eq_map_toLower_of_toAscii? (fun c hc => by
    rw [String.toList_ofList] at hc
    exact of_decide_eq_true (Idna.mem_nameChars.1 (hname c hc)).1) hascii
  rw [String.toList_ofList] at htoLower
  have hsame := List.map_inj_left.1 (htoLower.symm.trans (List.map_id host).symm)
  exact fun c hc => ⟨hname c hc, hsame c hc⟩

end Port

end Url

end ClusterVault
