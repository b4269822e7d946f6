import ClusterVault.Proofs.Node.Registration

/-!
# Peers that a node is told of

A node starts with the peers that it has seen and with those that it infers. Each of them is at the
URL that follows from its name, so whoever has been seen is reached under that name.

## Main definitions

- `Member.IsSeen`: a member counts as a peer
- `Repair.AtOwnUrls`: peers by name, where their names lead to
- `Repair.Adds`: peers with others that are inferred

## Main statements

- `Repair.observed_cons_cases`: a member is seen, or it changes nothing
- `Repair.adds_of_infer`, `Repair.exists_infer`: which peers are inferred, and that they can be
- `Repair.peersAfter_eq_ok`: the peers that a node starts with
-/

namespace ClusterVault

section Values

open Std

variable {α β : Type}

theorem foldr_value_eq_map (t : DTreeMap.Internal.Impl α fun _ => β) (rest : List (α × β)) :
    t.foldr (fun _ v values => v :: values) (rest.map (·.2)) =
      (t.foldr (fun k v entries => (k, v) :: entries) rest).map (·.2) := by
  induction t generalizing rest with
  | leaf => rfl
  | inner size k v left right ihl ihr =>
    show left.foldr _ (v :: right.foldr _ _) = _
    rw [ihr]
    exact ihl ((k, v) :: right.foldr (fun k v entries => (k, v) :: entries) rest)

/-- The values of a map are listed in the order of its keys. -/
theorem values_eq_map_toList (peers : ExtTreeMap String β) :
    peers.values = peers.toList.map (·.2) := by
  obtain ⟨⟨q⟩⟩ := peers
  induction q using Quotient.ind with
  | _ m => exact foldr_value_eq_map m.inner []

/-- The values of a map are those that its keys have. -/
theorem mem_values_iff {peers : ExtTreeMap String β} {value : β} :
    value ∈ peers.values ↔ ∃ key : String, peers[key]? = some value := by
  rw [values_eq_map_toList, List.mem_map]
  constructor
  · rintro ⟨⟨key, value⟩, hentry, rfl⟩
    exact ⟨key, ExtTreeMap.mem_toList_iff_getElem?_eq_some.1 hentry⟩
  · rintro ⟨key, hkey⟩
    exact ⟨(key, value), ExtTreeMap.mem_toList_iff_getElem?_eq_some.2 hkey, rfl⟩

end Values

/-- The member counts as a peer: it has started and has a URL. -/
def Member.IsSeen (m : Member) : Prop := m.isUnstarted = false ∧ m.peerUrls ≠ []

namespace Repair

/-- Each peer is under its name, at the URL that follows from it. -/
def AtOwnUrls (names : ServiceNames) (peers : Std.ExtTreeMap String Peer) : Prop :=
  ∀ name peer, peers[name]? = some peer →
    peer.name = name ∧ names.peerUrl name = .ok peer.peerUrl

variable {names : ServiceNames} {peers all : Std.ExtTreeMap String Peer} {own peer : Peer}
  {name : String} {members : List Member} {m : Member} {ordinals : List Nat} {url : Url}
  {urls : List Url}

theorem observed_cons_of_isSeen (hstarted : m.isUnstarted = false) (hurls : m.peerUrls = url :: urls)
    (rest : List Member) (peers : Std.ExtTreeMap String Peer) :
    observed (m :: rest) peers = observed rest (peers.insert m.name ⟨m.name, url, m.id⟩) := by
  rw [observed, hstarted, hurls, if_neg Bool.false_ne_true]

theorem observed_cons_of_not_isSeen (h : ¬m.IsSeen) (rest : List Member)
    (peers : Std.ExtTreeMap String Peer) : observed (m :: rest) peers = observed rest peers := by
  rw [observed]
  split
  · rfl
  · next hstarted =>
    split
    · rfl
    · next url urls hurls =>
      exact absurd ⟨Bool.eq_false_iff.2 hstarted, hurls ▸ List.cons_ne_nil url urls⟩ h

/-- A member is seen, and then at the first of its URLs, or it changes nothing. -/
theorem observed_cons_cases (m : Member) (rest : List Member) (peers : Std.ExtTreeMap String Peer) :
    (∃ url urls, m.IsSeen ∧ m.peerUrls = url :: urls ∧
      observed (m :: rest) peers = observed rest (peers.insert m.name ⟨m.name, url, m.id⟩)) ∨
    (¬m.IsSeen ∧ observed (m :: rest) peers = observed rest peers) := by
  by_cases h : m.IsSeen
  · obtain ⟨url, urls, hurls⟩ := List.exists_cons_of_ne_nil h.2
    exact .inl ⟨url, urls, h, hurls, observed_cons_of_isSeen h.1 hurls rest peers⟩
  · exact .inr ⟨h, observed_cons_of_not_isSeen h rest peers⟩

theorem AtOwnUrls.insert (h : AtOwnUrls names peers) (hname : peer.name = name)
    (hurl : names.peerUrl name = .ok peer.peerUrl) : AtOwnUrls names (peers.insert name peer) := by
  intro other found hfound
  rw [Std.ExtTreeMap.getElem?_insert] at hfound
  split at hfound
  · next heq =>
    cases hfound
    obtain rfl := Std.LawfulEqCmp.eq_of_compare heq
    exact ⟨hname, hurl⟩
  · exact h other found hfound

theorem AtOwnUrls.observed (h : AtOwnUrls names peers)
    (hmembers : ∀ m ∈ members, m.Conforms names) :
    AtOwnUrls names (Repair.observed members peers) := by
  induction members generalizing peers with
  | nil => exact h
  | cons m rest ih =>
    rw [List.forall_mem_cons] at hmembers
    rcases observed_cons_cases m rest peers with ⟨url, urls, hseen, hurls, heq⟩ | ⟨-, heq⟩
    · obtain ⟨node, ownUrl, -, hurl, hpeers, hname⟩ := hmembers.1
      obtain ⟨rfl, -⟩ : url = ownUrl ∧ urls = [] := List.cons.inj (hurls.symm.trans hpeers)
      have hnamed : m.name = node :=
        hname.resolve_left fun hempty => by simp [Member.IsSeen, Member.isUnstarted, hempty] at hseen
      rw [heq]
      exact ih (h.insert rfl (hnamed ▸ hurl)) hmembers.2
    · rw [heq]
      exact ih h hmembers.2

theorem contains_observed_of_contains (h : peers.contains name) :
    (Repair.observed members peers).contains name := by
  induction members generalizing peers with
  | nil => exact h
  | cons m rest ih =>
    rcases observed_cons_cases m rest peers with ⟨url, urls, -, -, heq⟩ | ⟨-, heq⟩
    · rw [heq]
      exact ih (by simp [h])
    · rw [heq]
      exact ih h

/-- Who has started is seen. -/
theorem contains_observed (hm : m ∈ members) (hstarted : m.isUnstarted = false)
    (hurls : m.peerUrls ≠ []) : (Repair.observed members peers).contains m.name := by
  induction members generalizing peers with
  | nil => cases hm
  | cons first rest ih =>
    rcases observed_cons_cases first rest peers with ⟨url, urls, -, -, heq⟩ | ⟨hunseen, heq⟩
    · rw [heq]
      rcases List.mem_cons.1 hm with rfl | hrest
      · exact contains_observed_of_contains (by simp)
      · exact ih hrest
    · rw [heq]
      rcases List.mem_cons.1 hm with rfl | hrest
      · exact absurd ⟨hstarted, hurls⟩ hunseen
      · exact ih hrest

theorem getElem?_insert_of_ne (peers : Std.ExtTreeMap String Peer) (h : name ≠ own.name) :
    (peers.insert own.name own)[name]? = peers[name]? := by
  rw [Std.ExtTreeMap.getElem?_insert, if_neg]
  exact fun heq => h (Std.LawfulEqCmp.eq_of_compare heq).symm

/-- Peers are added for numbers that have none, each at the URL that follows from its name. -/
structure Adds (names : ServiceNames) (ordinals : List Nat) (peers all : Std.ExtTreeMap String Peer) :
    Prop where
  kept : ∀ {name : String} {peer : Peer}, peers[name]? = some peer → all[name]? = some peer
  complete : ∀ k ∈ ordinals, ∃ peer, all[names.nodeName k]? = some peer
  added : ∀ {name : String} {peer : Peer}, peers[name]? = none → all[name]? = some peer →
    (∃ k ∈ ordinals, name = names.nodeName k) ∧ peer.name = name ∧ peer.id = 0 ∧
      names.peerUrl name = .ok peer.peerUrl

theorem adds_of_infer (h : infer names ordinals peers = .ok all) : Adds names ordinals peers all := by
  induction ordinals generalizing peers with
  | nil =>
    cases h
    exact ⟨id, List.forall_mem_nil _, fun hnone hsome => nomatch hnone.symm.trans hsome⟩
  | cons ordinal rest ih =>
    rw [infer] at h
    split at h
    · next hcontains =>
      rw [Std.ExtTreeMap.contains_eq_isSome_getElem?, Option.isSome_iff_exists] at hcontains
      obtain ⟨seen, hseen⟩ := hcontains
      obtain ⟨kept, complete, added⟩ := ih h
      refine ⟨kept, List.forall_mem_cons.2 ⟨⟨seen, kept hseen⟩, complete⟩, fun hnone hsome => ?_⟩
      obtain ⟨⟨k, hk, hname⟩, hadded⟩ := added hnone hsome
      exact ⟨⟨k, List.mem_cons_of_mem _ hk, hname⟩, hadded⟩
    · next hcontains =>
      split at h
      · cases h
      · next url hurl =>
        let inferred : Peer := ⟨names.nodeName ordinal, url, 0⟩
        have hself : (peers.insert inferred.name inferred)[inferred.name]? = some inferred :=
          Std.ExtTreeMap.getElem?_insert_self
        obtain ⟨kept, complete, added⟩ := ih h
        refine ⟨fun {name peer} hpeer => ?_, List.forall_mem_cons.2 ⟨⟨inferred, kept hself⟩, complete⟩,
          fun {name peer} hnone hsome => ?_⟩
        · have hne : name ≠ inferred.name := by
            rintro rfl
            rw [Std.ExtTreeMap.contains_eq_isSome_getElem?] at hcontains
            exact hcontains (by rw [hpeer]; rfl)
          exact kept ((getElem?_insert_of_ne peers hne).trans hpeer)
        · by_cases hname : name = inferred.name
          · subst hname
            obtain rfl : inferred = peer := Option.some.inj ((kept hself).symm.trans hsome)
            exact ⟨⟨ordinal, List.mem_cons_self, rfl⟩, rfl, rfl, hurl⟩
          · obtain ⟨⟨k, hk, hk'⟩, hadded⟩ :=
              added ((getElem?_insert_of_ne peers hname).trans hnone) hsome
            exact ⟨⟨k, List.mem_cons_of_mem _ hk, hk'⟩, hadded⟩

/-- Nothing fails if the URLs of those who are missing can be read. -/
theorem exists_infer (h : ∀ k ∈ ordinals, peers[names.nodeName k]? = none →
    ∃ url, names.peerUrl (names.nodeName k) = .ok url) :
    ∃ all, infer names ordinals peers = .ok all := by
  induction ordinals generalizing peers with
  | nil => exact ⟨peers, rfl⟩
  | cons ordinal rest ih =>
    rw [List.forall_mem_cons] at h
    rw [infer]
    split
    · exact ih h.2
    · next hcontains =>
      rw [Std.ExtTreeMap.contains_eq_isSome_getElem?, Option.not_isSome_iff_eq_none] at hcontains
      obtain ⟨url, hurl⟩ := h.1 hcontains
      rw [hurl]
      refine ih fun k hk hnone => h.2 k hk ?_
      rw [Std.ExtTreeMap.getElem?_insert] at hnone
      split at hnone
      · cases hnone
      · exact hnone

/-- Peers are inferred at the URLs that follow from their names, too. -/
theorem infer_eq_ok (hnames : names.AsWritten) (h : AtOwnUrls names peers)
    (hordinals : ∀ ordinal ∈ ordinals, ordinal < 0x100000000) :
    ∃ all, infer names ordinals peers = .ok all ∧ AtOwnUrls names all ∧
      ∀ name, peers.contains name → all.contains name := by
  obtain ⟨all, hall⟩ : ∃ all, infer names ordinals peers = .ok all :=
    exists_infer fun k hk _ => ⟨_, hnames.peerUrl (names.isNode_nodeName (hordinals k hk))⟩
  have hadds := adds_of_infer hall
  refine ⟨all, hall, fun name peer hpeer => ?_, fun name hname => ?_⟩
  · cases hseen : peers[name]? with
    | none =>
      obtain ⟨-, hnamed, -, hurl⟩ := hadds.added hseen hpeer
      exact ⟨hnamed, hurl⟩
    | some seen =>
      obtain rfl : seen = peer := Option.some.inj ((hadds.kept hseen).symm.trans hpeer)
      exact h name seen hseen
  · rw [Std.ExtTreeMap.contains_eq_isSome_getElem?, Option.isSome_iff_exists] at hname ⊢
    exact hname.imp fun _ => hadds.kept

/-- The peers that a node starts with are at the URLs that follow from their names, and all members
    that have started are among them. -/
theorem peersAfter_eq_ok {ordinal : Nat} {node : String} {url : Url} (hnames : names.AsWritten)
    (hordinal : names.ordinal? node = some ordinal) (hurl : names.peerUrl node = .ok url)
    (hmembers : ∀ m ∈ members, m.Conforms names) (id : Nat) :
    ∃ peers, peersAfter names ordinal ⟨node, url, id⟩ members = .ok peers ∧
      (∀ peer ∈ peers, names.peerUrl peer.name = .ok peer.peerUrl) ∧
      ∀ m ∈ members, m.isUnstarted = false → ∃ peer ∈ peers, peer.name = m.name := by
  have hseen : AtOwnUrls names (Repair.observed members ∅) :=
    AtOwnUrls.observed (by simp [AtOwnUrls]) hmembers
  have hown : AtOwnUrls names ((Repair.observed members ∅).insert node ⟨node, url, id⟩) :=
    hseen.insert rfl hurl
  have hlt : ∀ i ∈ List.range ordinal, i < 0x100000000 :=
    fun i hi => Nat.lt_trans (List.mem_range.1 hi) (ServiceNames.lt_of_ordinal? hordinal)
  obtain ⟨all, hall, hown, hkept⟩ := infer_eq_ok hnames hown hlt
  refine ⟨all.values, ?_, ?_, ?_⟩
  · rw [peersAfter]
    dsimp only
    rw [hall]
    rfl
  · intro peer hpeer
    obtain ⟨name, hname⟩ := mem_values_iff.1 hpeer
    obtain ⟨rfl, hat⟩ := hown name peer hname
    exact hat
  · intro m hm hstarted
    obtain ⟨_, _, -, -, hpeers, -⟩ := hmembers m hm
    have hcontains := hkept m.name (by
      simp [contains_observed hm hstarted (hpeers ▸ List.cons_ne_nil _ _)])
    rw [Std.ExtTreeMap.contains_eq_isSome_getElem?, Option.isSome_iff_exists] at hcontains
    obtain ⟨peer, hpeer⟩ := hcontains
    exact ⟨peer, mem_values_iff.2 ⟨_, hpeer⟩, (hown _ _ hpeer).1⟩

end Repair

end ClusterVault
