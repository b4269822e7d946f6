import ClusterVault.Node.Names
import ClusterVault.Proofs.Url.Kept
import ClusterVault.Proofs.Url.Plain

/-!
# Names of nodes as they are written

All that nodes agree on is in their names, so the names have to come out of the reading of URLs as
they went in. Letters, digits and hyphens do.

## Main definitions

- `ServiceNames.IsNode`: the name of a node
- `ServiceNames.AsWritten`: URLs lead to the hosts that are written in them
- `ServiceNames.IsPlain`: names made of lower-case letters, digits and hyphens

## Main statements

- `ServiceNames.ordinal?_eq_some_iff_digits`: what the name of a node is made of
- `ServiceNames.ordinal?_nodeName`: every number of 32 bits is that of a node
- `ServiceNames.IsPlain.asWritten`: URLs of plain names lead to the hosts that are written in them
- `ServiceNames.AsWritten.peerUrl_injective`: nodes are told apart by their URLs
- `ServiceNames.eq_https_of_hostText?`: if the URL of the service holds its name as it is written, so
  does the URL of a node
-/

namespace ClusterVault.ServiceNames

/-- The name of a node. -/
def IsNode (names : ServiceNames) (node : String) : Prop := (names.ordinal? node).isSome

/-- The host of a node. -/
def host (names : ServiceNames) (node : String) : String := s!"{node}.{names.headless}"

/-- All URLs can be read, and they lead to the hosts that are written in them. -/
structure AsWritten (names : ServiceNames) : Prop where
  peerUrl : ∀ {node}, names.IsNode node →
    names.peerUrl node = .ok (.https (names.host node) peerPort)
  clientUrl : ∀ {node}, names.IsNode node →
    names.clientUrl node = .ok (.https (names.host node) clientPort)
  serviceUrl : names.serviceUrl = .ok (.https names.internal clientPort)

/-- The names are made of lower-case letters, digits and hyphens and do not look encoded. -/
structure IsPlain (names : ServiceNames) : Prop where
  statefulSet : ∀ c ∈ names.statefulSet.toList, c ∈ Host.plainChars
  unmarked : "xn-".toList.isPrefixOf names.statefulSet.toList = false
  namespaceName : Host.IsPlainLabel names.namespaceName.toList

variable {names : ServiceNames} {node node' : String} {digits rest text : List Char}

/-! ## Names -/

theorem dropBeginning?_eq_some {beginning : List Char}
    (h : dropBeginning? beginning text = some rest) : text = beginning ++ rest := by
  induction beginning generalizing text with
  | nil =>
    cases h
    rfl
  | cons b beginning ih =>
    cases text with
    | nil => cases h
    | cons c text =>
      rw [dropBeginning?] at h
      split at h
      · next heq => rw [heq, ih h, List.cons_append]
      · cases h

theorem dropBeginning?_append (beginning rest : List Char) :
    dropBeginning? beginning (beginning ++ rest) = some rest := by
  induction beginning with
  | nil => rfl
  | cons b beginning ih => rw [List.cons_append, dropBeginning?, if_pos rfl, ih]

/-- The number of a node is what the digits behind the hyphen write. -/
theorem ordinal?_eq_some_iff_digits {ordinal : Nat} : names.ordinal? node = some ordinal ↔
    ∃ digits, node.toList = names.statefulSet.toList ++ '-' :: digits ∧ isDecimal digits ∧
      Decimal.value digits = ordinal ∧ ordinal < 0x100000000 := by
  rw [ordinal?, Option.bind_eq_bind, Option.bind_eq_some_iff]
  dsimp only
  constructor
  · rintro ⟨digits, hdrop, hnumber⟩
    split at hnumber
    · next haccepted =>
      rw [Bool.and_eq_true, decide_eq_true_eq] at haccepted
      cases hnumber
      refine ⟨digits, ?_, haccepted.1, rfl, haccepted.2⟩
      rw [dropBeginning?_eq_some hdrop, List.append_assoc, List.singleton_append]
    · cases hnumber
  · rintro ⟨digits, htext, hdecimal, rfl, hlt⟩
    refine ⟨digits, ?_, ?_⟩
    · rw [htext, List.append_cons _ _ digits, dropBeginning?_append]
    · rw [hdecimal, decide_eq_true hlt]
      rfl

/-- A node is told by the number behind the hyphen. -/
theorem IsNode.exists_digits (h : names.IsNode node) :
    ∃ digits, node.toList = names.statefulSet.toList ++ '-' :: digits ∧ isDecimal digits := by
  obtain ⟨ordinal, hordinal⟩ := Option.isSome_iff_exists.1 h
  obtain ⟨digits, htext, hdecimal, -⟩ := ordinal?_eq_some_iff_digits.1 hordinal
  exact ⟨digits, htext, hdecimal⟩

theorem lt_of_ordinal? {ordinal : Nat} (h : names.ordinal? node = some ordinal) :
    ordinal < 0x100000000 := by
  obtain ⟨_, -, -, -, hlt⟩ := ordinal?_eq_some_iff_digits.1 h
  exact hlt

theorem IsNode.ne_empty (h : names.IsNode node) : node ≠ "" := by
  rintro rfl
  obtain ⟨digits, htext, -⟩ := h.exists_digits
  simp at htext

/-- Digits without a leading zero are the usual form of a number. -/
theorem isDecimal_of_digits (hne : digits ≠ []) (hdigits : ∀ c ∈ digits, c.isDigit)
    (hzero : digits.head? = some '0' → digits = ['0']) : isDecimal digits := by
  obtain ⟨c, rest, rfl⟩ := List.exists_cons_of_ne_nil hne
  by_cases hc : c = '0'
  · rw [hzero (congrArg some hc)]
    rfl
  · unfold isDecimal
    split
    · next heq => cases heq
    · rfl
    · next heq =>
      cases heq
      rw [Bool.and_eq_true]
      exact ⟨by simpa using hc, List.all_eq_true.2 hdigits⟩

/-- Only the number zero starts with a zero. -/
theorem head?_toDigits {n : Nat} (h : n ≠ 0) : (Nat.toDigits 10 n).head? ≠ some '0' := by
  induction n using Nat.strongRecOn with
  | ind n ih =>
    by_cases hlt : n < 10
    · rw [Nat.toDigits_of_lt_base hlt]
      simpa using h
    · have hle : 10 ≤ n := Nat.le_of_not_lt hlt
      obtain ⟨c, rest, hcons⟩ := List.exists_cons_of_ne_nil
        (Nat.toDigits_ne_nil (n := n / 10) (b := 10))
      have hfront := ih (n / 10) (by omega) (by omega)
      rw [Nat.toDigits_of_base_le (by decide) hle]
      rw [hcons] at hfront ⊢
      exact hfront

theorem isDecimal_toDigits (n : Nat) : isDecimal (Nat.toDigits 10 n) := by
  refine isDecimal_of_digits Nat.toDigits_ne_nil
    (fun c hc => Nat.isDigit_of_mem_toDigits (by decide) (by decide) hc) fun hzero => ?_
  by_cases hn : n = 0
  · subst hn
    rfl
  · exact absurd hzero (head?_toDigits hn)

theorem toList_nodeName (names : ServiceNames) (ordinal : Nat) : (names.nodeName ordinal).toList =
    names.statefulSet.toList ++ '-' :: Nat.toDigits 10 ordinal := by
  simp [nodeName, toString, Nat.toList_repr]

theorem value_toDigits (n : Nat) : Decimal.value (Nat.toDigits 10 n) = n := by
  have hread := Nat.ofDigitChars_ten_toDigits (n := n)
  rw [Nat.ofDigitChars_eq_foldl] at hread
  simpa [Decimal.value, Nat.mul_comm] using hread

/-- The name of the node with a number is the name of a node. -/
theorem ordinal?_nodeName (names : ServiceNames) {ordinal : Nat} (h : ordinal < 0x100000000) :
    names.ordinal? (names.nodeName ordinal) = some ordinal :=
  ordinal?_eq_some_iff_digits.2
    ⟨_, names.toList_nodeName ordinal, isDecimal_toDigits ordinal, value_toDigits ordinal, h⟩

theorem isNode_nodeName (names : ServiceNames) {ordinal : Nat} (h : ordinal < 0x100000000) :
    names.IsNode (names.nodeName ordinal) := by
  rw [IsNode, names.ordinal?_nodeName h]
  rfl

theorem host_injective (h : names.host node = names.host node') : node = node' := by
  have hlist := congrArg String.toList h
  simp only [host, String.toList_append, toString] at hlist
  rw [List.append_assoc, List.append_assoc, List.append_cancel_right_eq] at hlist
  exact String.toList_inj.1 hlist

/-- Nodes are told apart by their URLs. -/
theorem AsWritten.peerUrl_injective (h : names.AsWritten) (hnode : names.IsNode node)
    (hnode' : names.IsNode node') {url : Url} (hurl : names.peerUrl node = .ok url)
    (hurl' : names.peerUrl node' = .ok url) : node = node' := by
  rw [h.peerUrl hnode] at hurl
  rw [h.peerUrl hnode', ← hurl] at hurl'
  simp only [Url.https, Except.ok.injEq, Url.mk.injEq, Option.some.injEq, Authority.mk.injEq,
    Host.domain.injEq] at hurl'
  exact host_injective hurl'.2.1.2.2.1.symm

/-! ## Plain names -/

theorem mem_plainChars_of_isDigit {c : Char} (h : c.isDigit) : c ∈ Host.plainChars := by
  have hall : ∀ k < 0x80, (Char.ofNat k).isDigit → Char.ofNat k ∈ Host.plainChars := by decide +kernel
  have hlt : c.toNat < 0x80 := by
    simp only [Char.isDigit, Bool.and_eq_true, decide_eq_true_eq] at h
    have hle : c.toNat ≤ 57 := h.2
    omega
  rw [← Char.ofNat_toNat c] at h ⊢
  exact hall _ hlt h

theorem isDecimal_iff (h : isDecimal digits) : digits ≠ [] ∧ ∀ c ∈ digits, c.isDigit := by
  cases digits with
  | nil => cases h
  | cons c rest =>
    refine ⟨List.cons_ne_nil _ _, ?_⟩
    unfold isDecimal at h
    split at h
    · cases h
    · next heq =>
      cases heq
      exact List.forall_mem_singleton.2 (by decide)
    · next heq =>
      cases heq
      rw [Bool.and_eq_true] at h
      exact List.all_eq_true.1 h.2

/-- What is put behind the name of the set leaves it unmarked. -/
theorem IsPlain.isPlainLabel_append (h : names.IsPlain) (hne : rest ≠ [])
    (hhead : rest.head? ≠ some '-') (hrest : ∀ c ∈ rest, c ∈ Host.plainChars) :
    Host.IsPlainLabel (names.statefulSet.toList ++ '-' :: rest) := by
  constructor
  · refine List.forall_mem_append.2 ⟨h.statefulSet, List.forall_mem_cons.2 ⟨?_, hrest⟩⟩
    decide +kernel
  · have hunmarked := h.unmarked
    generalize names.statefulSet.toList = set at hunmarked
    obtain ⟨c, rest, rfl⟩ := List.exists_cons_of_ne_nil hne
    have hc : ¬ '-' = c := fun heq => hhead (heq ▸ rfl)
    -- at most three characters of the set meet the mark
    rcases set with _ | ⟨first, _ | ⟨second, _ | ⟨third, set⟩⟩⟩
    · simp [Idna.punycodeMark, List.isPrefixOf]
    · simp [Idna.punycodeMark, List.isPrefixOf]
    · simp [Idna.punycodeMark, List.isPrefixOf, hc]
    · simp [List.isPrefixOf] at hunmarked
      simp [Idna.punycodeMark, List.isPrefixOf]
      exact fun hfirst hsecond hthird => absurd hthird (hunmarked hfirst hsecond)

theorem IsPlain.nodeName (h : names.IsPlain) (hnode : names.IsNode node) :
    Host.IsPlainLabel node.toList := by
  obtain ⟨digits, htext, hdecimal⟩ := hnode.exists_digits
  obtain ⟨hne, hdigits⟩ := isDecimal_iff hdecimal
  have hhead : digits.head? ≠ some '-' := by
    intro hhead
    exact absurd (hdigits '-' (List.mem_of_mem_head? hhead)) (by decide)
  rw [htext]
  exact h.isPlainLabel_append hne hhead fun c hc => mem_plainChars_of_isDigit (hdigits c hc)

/-- The labels of the domain of a service behind the name of the set, without the last one. -/
def domainLabels (names : ServiceNames) (service : String) : List (List Char) :=
  [names.statefulSet.toList ++ '-' :: service.toList, names.namespaceName.toList, "svc".toList,
    "cluster".toList]

theorem IsPlain.domainLabels (h : names.IsPlain) (service : String)
    (hne : service.toList ≠ []) (hhead : service.toList.head? ≠ some '-')
    (hservice : ∀ c ∈ service.toList, c ∈ Host.plainChars) :
    ∀ label ∈ names.domainLabels service, Host.IsPlainLabel label := by
  simp only [ServiceNames.domainLabels, List.forall_mem_cons]
  exact ⟨h.isPlainLabel_append hne hhead hservice, h.namespaceName,
    ⟨List.all_iff_forall_prop.1 (by decide), by decide⟩,
    ⟨List.all_iff_forall_prop.1 (by decide), by decide⟩, nofun⟩

theorem host_eq (names : ServiceNames) (node : String) : names.host node = String.ofList
    (Host.ofLabels (node.toList :: names.domainLabels "headless" ++ ["local".toList])) := by
  rw [← String.toList_inj]
  simp [host, headless, domainLabels, Host.ofLabels, toString]

theorem internal_eq (names : ServiceNames) : names.internal = String.ofList
    (Host.ofLabels (names.domainLabels "internal" ++ ["local".toList])) := by
  rw [← String.toList_inj]
  simp [internal, domainLabels, Host.ofLabels, toString]

theorem mem_plainChars_of_port (port : Nat) : ∀ c ∈ (toString port).toList, c ∈ Host.plainChars := by
  intro c hc
  have hdigits : c ∈ Nat.toDigits 10 port := by simpa [toString, Nat.toList_repr] using hc
  exact mem_plainChars_of_isDigit (Nat.isDigit_of_mem_toDigits (by decide) (by decide) hdigits)

theorem peerUrl_eq (names : ServiceNames) (node : String) :
    names.peerUrl node = Url.parse s!"https://{names.host node}:{peerPort}" :=
  rfl

theorem clientUrl_eq (names : ServiceNames) (node : String) :
    names.clientUrl node = Url.parse s!"https://{names.host node}:{clientPort}" :=
  rfl

/-- The URL of a host and a port, taken apart. -/
theorem url_text (host : String) (port : Nat) : s!"https://{host}:{port}" =
    String.ofList ("https://".toList ++ (host.toList ++ ':' :: (toString port).toList)) := by
  rw [← String.toList_inj]
  simp [toString]

/-- The URL of a host with plain labels, at one of the ports of a server. -/
theorem parse_host {label : List Char} {front : List (List Char)} {host : String} {port : Nat}
    (hne : label ≠ []) (hplain : ∀ l ∈ label :: front, Host.IsPlainLabel l)
    (hhost : host = String.ofList (Host.ofLabels (label :: front ++ ["local".toList])))
    (hport : port = peerPort ∨ port = clientPort) :
    Url.parse s!"https://{host}:{port}" = .ok (.https host port) := by
  have hread : Url.readPort "https" (toString port).toList = .ok (some port, []) := by
    rcases hport with rfl | rfl
    · rfl
    · rfl
  have hlabels : host.toList = Host.ofLabels (label :: front ++ ["local".toList]) := by
    rw [hhost, String.toList_ofList]
  rw [url_text, hlabels, Url.parse_https hne hplain (mem_plainChars_of_port port) hread, hhost]

/-- URLs of plain names lead to the hosts that are written in them. -/
theorem IsPlain.asWritten (h : names.IsPlain) : names.AsWritten := by
  have hheadless := h.domainLabels "headless" (by decide) (by decide)
    (List.all_iff_forall_prop.1 (by decide +kernel))
  have hinternal := h.domainLabels "internal" (by decide) (by decide)
    (List.all_iff_forall_prop.1 (by decide +kernel))
  have hnode {node : String} {port : Nat} (hisNode : names.IsNode node)
      (hport : port = peerPort ∨ port = clientPort) :
      Url.parse s!"https://{names.host node}:{port}" = .ok (.https (names.host node) port) := by
    have hne : node.toList ≠ [] := fun hempty => hisNode.ne_empty (String.toList_inj.1 hempty)
    have hplain := List.forall_mem_cons.2 ⟨h.nodeName hisNode, hheadless⟩
    exact parse_host hne hplain (names.host_eq node) hport
  constructor
  · exact fun hisNode => (names.peerUrl_eq _).trans (hnode hisNode (.inl rfl))
  · exact fun hisNode => (names.clientUrl_eq _).trans (hnode hisNode (.inr rfl))
  · have hne := List.append_ne_nil_of_right_ne_nil names.statefulSet.toList
      (List.cons_ne_nil '-' "internal".toList)
    exact parse_host hne hinternal names.internal_eq (.inr rfl)

/-! ## Names that URLs keep -/

theorem internal_toList (names : ServiceNames) : names.internal.toList =
    (names.statefulSet.toList ++ ("-internal.".toList ++
      (names.namespaceName.toList ++ ".svc.cluster".toList))) ++ ".local".toList := by
  simp [internal, toString]

theorem host_toList (names : ServiceNames) (node : String) : (names.host node).toList =
    (node.toList ++ (".".toList ++ (names.statefulSet.toList ++ ("-headless.".toList ++
      (names.namespaceName.toList ++ ".svc.cluster".toList))))) ++ ".local".toList := by
  simp [host, headless, toString]

theorem isLower_plain {text : List Char} (h : ∀ c ∈ text, c ∈ '.' :: Host.plainChars) :
    Host.IsLower text := fun c hc =>
  ⟨Host.mem_nameChars_of_plain (h c hc),
    Host.of_mem_plainChars (P := fun c => c.toLower = c) (by decide +kernel) (h c hc)⟩

theorem mem_nameChars_of_port (port : Nat) : ∀ c ∈ (toString port).toList, c ∈ Idna.nameChars :=
  fun c hc => Host.mem_nameChars_of_plain (List.mem_cons_of_mem _ (mem_plainChars_of_port port c hc))

/-- What is put in front of the two names and between them is made of small letters. -/
theorem isLower_host (hnode : names.IsNode node) (h : Host.IsLower names.internal.toList) :
    Host.IsLower (names.host node).toList := by
  obtain ⟨digits, hdigits, hdecimal⟩ := hnode.exists_digits
  have hnumber : Host.IsLower digits := isLower_plain fun c hc =>
    List.mem_cons_of_mem _ (mem_plainChars_of_isDigit ((isDecimal_iff hdecimal).2 c hc))
  rw [internal_toList] at h
  rw [host_toList, hdigits]
  have hbetween : Host.IsLower ".-headless.".toList :=
    isLower_plain (List.all_iff_forall_prop.1 (by decide +kernel))
  simp only [Host.IsLower, List.forall_mem_append] at h ⊢
  obtain ⟨⟨hset, -, hnamespace, hdomain⟩, hlocal⟩ := h
  refine ⟨⟨⟨hset, List.forall_mem_cons.2 ⟨hbetween '-' (by decide), hnumber⟩⟩,
    fun c hc => hbetween c (List.mem_append_left _ hc), hset,
    fun c hc => hbetween c (List.mem_append_right ['.'] hc), hnamespace, hdomain⟩, hlocal⟩

/-- The URL of a host in a local domain without a label in Punycode holds it in small letters. -/
theorem parse_of_toLower {host small : String} {front : List Char} {port : Nat}
    (hlocal : host.toList = front ++ ".local".toList)
    (hread : Url.readPort "https" (toString port).toList = .ok (some port, []))
    (hname : host.toList.all fun c => Idna.isAscii c && !Idna.isForbidden c)
    (hplain : Idna.isPlain host.toList) (hsmall : host.toList.map Char.toLower = small.toList) :
    Url.parse s!"https://{host}:{port}" = .ok (.https small port) := by
  have hname : ∀ c ∈ host.toList, c ∈ Idna.nameChars := by
    intro c hc
    rw [Idna.mem_nameChars]
    simpa using List.all_eq_true.1 hname c hc
  rw [url_text, Url.parse_of_isPlain (mem_nameChars_of_port port) hread hlocal hname hplain, hsmall,
    String.ofList_toList]

/-- If the URL of the service holds its name as it is written, so does the URL of a node. -/
theorem eq_https_of_hostText? {serviceUrl clientUrl : Url} (hnode : names.IsNode node)
    (hservice : names.serviceUrl = .ok serviceUrl)
    (hclient : names.clientUrl node = .ok clientUrl)
    (hwritten : serviceUrl.hostText? = some names.internal) :
    serviceUrl = .https names.internal clientPort ∧
      clientUrl = .https (names.host node) clientPort := by
  rw [ServiceNames.serviceUrl, url_text] at hservice
  rw [clientUrl_eq, url_text] at hclient
  have hport := mem_nameChars_of_port clientPort
  have hinternal : Host.IsLower names.internal.toList := by
    refine Url.isLower_of_hostText? hport rfl names.internal_toList hservice ?_
    rw [hwritten, String.ofList_toList]
  have hhost := isLower_host hnode hinternal
  have hservice := Url.eq_https_of_isLower hport rfl names.internal_toList hservice hinternal
  have hclient := Url.eq_https_of_isLower hport rfl (names.host_toList node) hclient hhost
  rw [String.ofList_toList] at hservice hclient
  exact ⟨hservice, hclient⟩

end ClusterVault.ServiceNames
