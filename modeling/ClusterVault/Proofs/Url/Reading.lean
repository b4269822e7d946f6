import ClusterVault.Proofs.Text.ByteOrder
import ClusterVault.Proofs.Url.Idna
import ClusterVault.Url.Parser
import Mathlib.Data.Bool.AllAny
import Mathlib.Data.List.TakeDrop
import Mathlib.Data.List.TakeWhile

/-!
# URLs of a host and a port

Most of the reading of a URL is about characters that the name of a host may not hold. What is left
for a host without them is the reading of the host itself. The other way round, the host that comes
out of any URL was read from some part of it.

## Main definitions

- `Url.https`: the URL of a host and a port, and nothing else
- `Host.decoded`: a host with every encoded byte decoded

## Main statements

- `Host.parse_of_toAscii?`: a host is read as the ASCII form of its name
- `Url.parse_host_port`: the URL of a host and a port is read as its host is read
- `Url.exists_parse_host`: the host of a URL was read from some text
-/

namespace ClusterVault

/-- The URL of a host and a port. -/
def Url.https (host : String) (port : Nat) : Url :=
  { scheme := "https", authority := some { host := some (.domain host), port := some port },
    path := "/" }

/-- A host whose last label is no number is no address. -/
theorem IpAddress.endsInNumber_of_local {host : List Char} {front : List (List Char)}
    (h : Text.splitAtChar '.' host = front ++ ["local".toList]) : endsInNumber host = false := by
  rw [endsInNumber, h, List.reverse_append]
  rfl

namespace Host

open Idna (nameChars of_mem_nameChars)

variable {c : Char} {text name : List Char} {host : Host}

/-! ## Decoding -/

/-- A character of a name is one byte, which stands for itself. -/
theorem utf8EncodeChar_of_mem_nameChars (hc : c ∈ nameChars) :
    String.utf8EncodeChar c = [UInt8.ofNat c.toNat] ∧ UInt8.ofNat c.toNat ≠ 0x25 ∧
      UInt8.ofNat c.toNat < 0x80 ∧ Char.ofNat (UInt8.ofNat c.toNat).toNat = c :=
  of_mem_nameChars (P := fun c => String.utf8EncodeChar c = [UInt8.ofNat c.toNat] ∧
    UInt8.ofNat c.toNat ≠ 0x25 ∧ UInt8.ofNat c.toNat < 0x80 ∧
      Char.ofNat (UInt8.ofNat c.toNat).toNat = c) (by decide +kernel) hc

theorem decode_cons_of_ne {b : UInt8} (h : b ≠ 0x25) (rest : Bytes) :
    Percent.decode (b :: rest) = b :: Percent.decode rest := by
  rw [Percent.decode.eq_def]
  exact if_neg h

/-- The text of a host with every encoded byte decoded. -/
def decoded (text : List Char) : String :=
  (Percent.decode (Bytes.ofString (String.ofList text))).lossyText

/-- Nothing in a name is to be decoded. -/
theorem decoded_of_mem_nameChars (h : ∀ c ∈ text, c ∈ nameChars) :
    decoded text = String.ofList text := by
  rw [decoded, Bytes.ofString_eq_flatMap, String.toList_ofList, Bytes.lossyText]
  congr 1
  induction text with
  | nil => rfl
  | cons c text ih =>
    rw [List.forall_mem_cons] at h
    obtain ⟨hencode, hpercent, hascii, hchar⟩ := utf8EncodeChar_of_mem_nameChars h.1
    rw [List.flatMap_cons, hencode, List.singleton_append, decode_cons_of_ne hpercent, Utf8.pieces,
      if_pos hascii, List.map_cons, ih h.2]
    dsimp only
    rw [hchar]

/-! ## Reading a host -/

/-- A name does not look like an address in brackets. -/
theorem head?_ne_of_mem_nameChars (h : ∀ c ∈ text, c ∈ nameChars) : text.head? ≠ some '[' :=
  fun hhead => absurd (h '[' (List.mem_of_mem_head? hhead)) (by decide +kernel)

/-- A host is read as the ASCII form of its name, unless that is a number. -/
theorem parse_of_toAscii? (hbracket : text.head? ≠ some '[')
    (hname : Idna.toAscii? (decoded text) = some name) (hempty : name ≠ [])
    (hnumber : IpAddress.endsInNumber name = false) :
    parse text = .ok (.domain (String.ofList name)) := by
  rw [decoded] at hname
  rw [parse, if_neg hbracket]
  dsimp only
  rw [hname]
  obtain ⟨c, rest, rfl⟩ := List.exists_cons_of_ne_nil hempty
  dsimp only
  rw [hnumber]
  rfl

/-- What is no address in brackets is read only if it has an ASCII form. -/
theorem exists_toAscii?_of_parse (hbracket : text.head? ≠ some '[') (h : parse text = .ok host) :
    ∃ name, Idna.toAscii? (decoded text) = some name ∧ name ≠ [] := by
  rw [parse, if_neg hbracket] at h
  dsimp only at h
  split at h
  · cases h
  · cases h
  · next name hne hname => exact ⟨name, hname, hne⟩

/-- A domain name comes from the ASCII form of some name. -/
theorem toAscii?_of_parse_domain {name : String} (h : parse text = .ok (.domain name)) :
    Idna.toAscii? (decoded text) = some name.toList := by
  rw [parse] at h
  split at h
  · -- what stands in brackets is an address
    rw [parseBracketed] at h
    split at h
    · cases h
    · split at h
      · cases h
      · cases h
  · dsimp only at h
    split at h
    · cases h
    · cases h
    · next ascii _ hascii =>
      split at h
      · split at h
        · cases h
        · cases h
      · cases h
        rw [String.toList_ofList]
        exact hascii

theorem parse_ne_empty : parse text ≠ .ok (.domain "") := by
  intro h
  have hempty := toAscii?_of_parse_domain h
  have hbracket : text.head? ≠ some '[' := by
    intro hhead
    rw [parse, if_pos hhead, parseBracketed] at h
    split at h
    · cases h
    · split at h
      · cases h
      · cases h
  obtain ⟨name, hname, hne⟩ := exists_toAscii?_of_parse hbracket h
  rw [hempty] at hname
  cases hname
  exact hne rfl

end Host

namespace Url

open Idna (nameChars of_mem_nameChars)

variable {host port : List Char}

theorem span_eq_self {p : Char → Bool} {s : List Char} (h : ∀ c ∈ s, p c = true) :
    s.span p = (s, []) := by
  rw [List.span_eq_takeWhile_dropWhile, List.takeWhile_eq_self_iff.2 h, List.dropWhile_eq_nil_iff.2 h]

theorem dropWhile_eq_self {p : Char → Bool} {s : List Char} (h : ∀ c ∈ s, p c = false) :
    s.dropWhile p = s := by
  cases s with
  | nil => rfl
  | cons c s => rw [List.dropWhile_cons_of_neg (Bool.eq_false_iff.1 (h c List.mem_cons_self))]

theorem filter_blank_of_forall {s : List Char} (h : ∀ c ∈ s, 0x20 < c.toNat) :
    s.filter (fun c => c ≠ '\t' && c ≠ '\n' && c ≠ '\r') = s := by
  rw [List.filter_eq_self]
  intro c hc
  have hlarge := h c hc
  have htab : c ≠ '\t' := fun heq => absurd (heq ▸ hlarge) (by decide)
  have hline : c ≠ '\n' := fun heq => absurd (heq ▸ hlarge) (by decide)
  have hreturn : c ≠ '\r' := fun heq => absurd (heq ▸ hlarge) (by decide)
  simp [htab, hline, hreturn]

/-- A text without blanks stays as it is. -/
theorem clean_of_forall {s : List Char} (h : ∀ c ∈ s, 0x20 < c.toNat) :
    clean (String.ofList s) = s := by
  have hblank : ∀ c ∈ s, decide (c.toNat ≤ 0x20) = false :=
    fun c hc => decide_eq_false (Nat.not_le_of_lt (h c hc))
  have hreverse : ∀ c ∈ s.reverse, decide (c.toNat ≤ 0x20) = false :=
    fun c hc => hblank c (List.mem_reverse.1 hc)
  rw [clean, String.toList_ofList, dropWhile_eq_self hblank, dropWhile_eq_self hreverse,
    List.reverse_reverse]
  exact filter_blank_of_forall h

/-- The length of the host: up to the port. -/
theorem hostLength_append (h : ∀ c ∈ host, c ≠ ':' ∧ c ≠ '[' ∧ c ≠ ']') (rest : List Char) :
    hostLength false (host ++ ':' :: rest) = host.length := by
  induction host with
  | nil => rfl
  | cons c host ih =>
    rw [List.forall_mem_cons] at h
    obtain ⟨⟨hcolon, hopen, hclose⟩, hrest⟩ := h
    rw [List.cons_append, hostLength]
    simp [hcolon, hopen, hclose, ih hrest]

theorem splitUserinfo_of_not_mem {s : List Char} (h : '@' ∉ s) : splitUserinfo s = (none, s) := by
  have hall : ∀ c ∈ s.reverse, decide (c ≠ '@') = true := by
    intro c hc
    refine decide_eq_true fun heq => h ?_
    exact heq ▸ List.mem_reverse.1 hc
  rw [splitUserinfo, splitAtLastAt?, span_eq_self hall]

/-! ## A host and a port -/

section Name

variable (hhost : ∀ c ∈ host, c ∈ nameChars) (hport : ∀ c ∈ port, c ∈ nameChars)

include hhost hport

theorem of_mem_server {P : Char → Prop} [DecidablePred P] (hcolon : P ':')
    (h : nameChars.all fun c => decide (P c)) : ∀ c ∈ host ++ ':' :: port, P c :=
  List.forall_mem_append.2 ⟨fun c hc => of_mem_nameChars h (hhost c hc),
    List.forall_mem_cons.2 ⟨hcolon, fun c hc => of_mem_nameChars h (hport c hc)⟩⟩

/-- The part that names a server holds a host and a port. -/
theorem readAuthority_host_port {n : Nat} (hne : host ≠ [])
    (hread : readPort "https" port = .ok (some n, [])) :
    readAuthority "https" true (host ++ ':' :: port) =
      (Host.parse host).map fun h => ({ host := some h, port := some n }, []) := by
  have hall := of_mem_server hhost hport (P := fun c => (!endsAuthority true c) = true)
    (by decide) (by decide +kernel)
  have hat : '@' ∉ host ++ ':' :: port := fun hmem =>
    of_mem_server hhost hport (P := fun c => c ≠ '@') (by decide) (by decide +kernel) '@' hmem rfl
  have hlength : hostLength false (host ++ ':' :: port) = host.length :=
    hostLength_append (fun c hc => of_mem_nameChars
      (P := fun c => c ≠ ':' ∧ c ≠ '[' ∧ c ≠ ']') (by decide +kernel) (hhost c hc)) port
  have hempty : host.isEmpty = false := List.isEmpty_eq_false_iff.2 hne
  unfold readAuthority
  rw [span_eq_self hall]
  dsimp only
  rw [splitUserinfo_of_not_mem hat]
  dsimp only
  rw [hlength, List.take_left, List.drop_left, List.append_nil]
  -- the reading goes through `Except`, and only the reading of the host can fail
  have hbind {β γ : Type} (x : β) (f : β → Except ParseError γ) : (Except.ok x >>= f) = f x := rfl
  cases hparse : Host.parse host with
  | error e =>
    simp only [hempty, Bool.and_false, Bool.false_eq_true, if_false, if_true]
    rfl
  | ok h =>
    have hdomain : h ≠ .domain "" := fun heq => Host.parse_ne_empty (heq ▸ hparse)
    simp only [hempty, hread, hbind, hdomain, Bool.and_false, Bool.false_eq_true, if_false, if_true,
      Option.isNone_some, Bool.false_and]
    rfl

/-- The URL of a host and a port is read as its host is read. -/
theorem parse_host_port {n : Nat} (hne : host ≠ [])
    (hread : readPort "https" port = .ok (some n, [])) :
    parse (String.ofList ("https://".toList ++ (host ++ ':' :: port))) =
      (Host.parse host).map fun h =>
        { scheme := "https", authority := some { host := some h, port := some n }, path := "/" } := by
  have hserver := of_mem_server hhost hport (P := fun c => 0x20 < c.toNat) (by decide)
    (by decide +kernel)
  have hclean : clean (String.ofList ("https://".toList ++ (host ++ ':' :: port))) =
      "https://".toList ++ (host ++ ':' :: port) := by
    refine clean_of_forall (List.forall_mem_append.2 ⟨?_, hserver⟩)
    exact List.all_iff_forall_prop.1 (by decide)
  have hscheme : splitScheme? ("https://".toList ++ (host ++ ':' :: port)) =
      some ("https", '/' :: '/' :: (host ++ ':' :: port)) := rfl
  have hslashes : ('/' :: '/' :: (host ++ ':' :: port)).dropWhile isSlash = host ++ ':' :: port := by
    have hnone := of_mem_server hhost hport (P := fun c => isSlash c = false) (by decide)
      (by decide +kernel)
    exact dropWhile_eq_self hnone
  have hspecial : schemeKind "https" = .special := by decide
  rw [parse, hclean, hscheme]
  dsimp only
  rw [hspecial]
  dsimp only
  have hauthority := readAuthority_host_port hhost hport hne hread
  have hkind : decide (SchemeKind.special ≠ .other) = true := by decide
  rw [hslashes, readWithAuthority, hkind, hauthority]
  cases Host.parse host with
  | error e => rfl
  | ok h => rfl

end Name

/-! ## The host of a URL -/

/-- Blanks apart, a text begins as it is written. -/
theorem exists_clean_append (front : List Char) (hne : front ≠ [])
    (h : ∀ c ∈ front, 0x20 < c.toNat) (rest : List Char) :
    ∃ rest', clean (String.ofList (front ++ rest)) = front ++ rest' := by
  have hblank : ∀ c ∈ front, decide (c.toNat ≤ 0x20) = false :=
    fun c hc => decide_eq_false (Nat.not_le_of_lt (h c hc))
  have hstart : (front ++ rest).dropWhile (fun c => decide (c.toNat ≤ 0x20)) = front ++ rest := by
    obtain ⟨c, front, rfl⟩ := List.exists_cons_of_ne_nil hne
    exact List.dropWhile_cons_of_neg (Bool.eq_false_iff.1 (hblank c List.mem_cons_self))
  have hend : (front ++ rest).reverse.dropWhile (fun c => decide (c.toNat ≤ 0x20)) =
      rest.reverse.dropWhile (fun c => decide (c.toNat ≤ 0x20)) ++ front.reverse := by
    rw [List.reverse_append, List.dropWhile_append]
    split
    · next hempty =>
      rw [dropWhile_eq_self fun c hc => hblank c (List.mem_reverse.1 hc), List.isEmpty_iff.1 hempty,
        List.nil_append]
    · rfl
  rw [clean, String.toList_ofList, hstart, hend, List.reverse_append, List.reverse_reverse,
    List.filter_append, filter_blank_of_forall h]
  exact ⟨_, rfl⟩

theorem of_bind_pure {α β : Type} {x : Except ParseError α} {f : α → β} {P : β → Prop} {b : β}
    (hf : ∀ a, P (f a)) (h : (x >>= fun a => pure (f a)) = .ok b) : P b := by
  cases x with
  | error e => cases h
  | ok a =>
    cases h
    exact hf a

theorem exists_parse_of_readAuthority {scheme : String} {s : List Char} {a : Authority × List Char}
    (h : readAuthority scheme true s = .ok a) :
    ∃ text host, Host.parse text = .ok host ∧ a.1.host = some host := by
  rw [readAuthority] at h
  generalize (s.span fun c => !endsAuthority true c) = parts at h
  obtain ⟨front, after⟩ := parts
  dsimp only at h
  generalize splitUserinfo front = parts at h
  obtain ⟨userinfo, server⟩ := parts
  dsimp only at h
  generalize server.take (hostLength false server) = text at h
  generalize server.drop (hostLength false server) ++ after = rest at h
  -- whatever else is read, an error ends the reading
  have hbind {β γ : Type} (x : β) (f : β → Except ParseError γ) : (Except.ok x >>= f) = f x := rfl
  have herror {β γ : Type} (e : ParseError) (f : β → Except ParseError γ) :
      ((throw e : Except ParseError β) >>= f) = .error e := rfl
  have herror' {β γ : Type} (e : ParseError) (f : β → Except ParseError γ) :
      ((.error e : Except ParseError β) >>= f) = .error e := rfl
  refine ⟨text, ?_⟩
  cases hparse : Host.parse text with
  | error e =>
    simp only [hparse, herror, herror', if_true] at h
    split at h
    all_goals split_ifs at h
  | ok host =>
    have hdomain : host ≠ .domain "" := fun heq => Host.parse_ne_empty (heq ▸ hparse)
    refine ⟨host, rfl, ?_⟩
    simp only [hparse, herror, hbind, if_true, hdomain, if_false, Option.isNone_some,
      Bool.false_and, Bool.false_eq_true] at h
    split at h
    all_goals
      split_ifs at h
      split at h
      all_goals exact of_bind_pure (P := fun a => a.1.host = some host) (fun _ => rfl) h

/-- The host of a URL was read from some text. -/
theorem exists_parse_host {rest : List Char} {url : Url}
    (h : parse (String.ofList ("https://".toList ++ rest)) = .ok url) :
    ∃ text host, Host.parse text = .ok host ∧ url.hostText? = some host.render := by
  obtain ⟨rest', hclean⟩ := exists_clean_append "https://".toList (by decide)
    (List.all_iff_forall_prop.1 (by decide)) rest
  have hscheme : splitScheme? ("https://".toList ++ rest') = some ("https", '/' :: '/' :: rest') :=
    rfl
  have hspecial : schemeKind "https" = .special := by decide
  rw [parse, hclean, hscheme] at h
  dsimp only at h
  rw [hspecial] at h
  dsimp only at h
  have hkind : decide (SchemeKind.special ≠ .other) = true := by decide
  rw [readWithAuthority, hkind] at h
  cases hread : readAuthority "https" true (('/' :: '/' :: rest').dropWhile isSlash) with
  | error e =>
    rw [hread] at h
    cases h
  | ok a =>
    rw [hread] at h
    cases h
    obtain ⟨text, host, hparse, hhost⟩ := exists_parse_of_readAuthority hread
    refine ⟨text, host, hparse, ?_⟩
    show (a.1.host.map Host.render) = _
    rw [hhost]
    rfl

end Url

end ClusterVault
