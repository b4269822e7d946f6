import ClusterVault.Proofs.Activity.Yields
import ClusterVault.Proofs.Node.Peers
import ClusterVault.Proofs.Text.ByteOrder
import Mathlib.Data.List.Sort

/-!
# Peers after a repair

A node that has repaired its membership starts with peers from three sources: itself under its new
registration, the members that it has seen, and a peer that it infers for every lower number. Names
may come from several sources at once. The node itself counts before what it has seen of itself, and
what it has seen counts before what it infers.

## Main definitions

- `Repair.AnsweredBy`: the answers on which a repair succeeds
- `Repair.Peers`: the peers that go together with them

## Main statements

- `Repair.Peers.unique`: there are no others
- `peers_of_repair`: a repair succeeds on these answers, and with these peers, whatever the registry
  holds
-/

namespace ClusterVault

open Std (ExtTreeMap)

namespace Repair

variable {names : ServiceNames} {ordinal : Nat} {own peer : Peer} {name : String} {url : Url}
  {urls : List Url} {members before after : List Member} {m : Member} {ordinals : List Nat}
  {peers all : ExtTreeMap String Peer}

/-! ## Peers by name -/

/-- Each peer is under its name. -/
def IsIndexed (peers : ExtTreeMap String Peer) : Prop :=
  ∀ (name : String) (peer : Peer), peers[name]? = some peer → peer.name = name

theorem IsIndexed.insert (h : IsIndexed peers) (peer : Peer) :
    IsIndexed (peers.insert peer.name peer) := by
  intro name found hfound
  rw [ExtTreeMap.getElem?_insert] at hfound
  split at hfound
  · next heq =>
    cases hfound
    exact Std.LawfulEqCmp.eq_of_compare heq
  · exact h name found hfound

/-- The list of the peers is in the order of their names. -/
theorem IsIndexed.pairwise_values (h : IsIndexed peers) :
    peers.values.Pairwise fun p q => Bytes.ofString p.name < Bytes.ofString q.name := by
  have hkeys : peers.values.map (·.name) = peers.keys := by
    rw [values_eq_map_toList, List.map_map, ← ExtTreeMap.map_fst_toList_eq_keys]
    exact List.map_congr_left fun entry hentry =>
      h entry.1 entry.2 (ExtTreeMap.mem_toList_iff_getElem?_eq_some.1 hentry)
  have hordered := Bytes.pairwise_ofString_keys peers
  rwa [← hkeys, List.pairwise_map] at hordered

theorem IsIndexed.exists_name_iff (h : IsIndexed peers) :
    (∃ peer ∈ peers.values, peer.name = name) ↔ ∃ peer, peers[name]? = some peer := by
  constructor
  · rintro ⟨peer, hpeer, rfl⟩
    obtain ⟨key, hkey⟩ := mem_values_iff.1 hpeer
    exact ⟨peer, h key peer hkey ▸ hkey⟩
  · rintro ⟨peer, hpeer⟩
    exact ⟨peer, mem_values_iff.2 ⟨name, hpeer⟩, h name peer hpeer⟩

/-! ## Peers that have been seen -/

theorem observed_append (before after : List Member) (peers : ExtTreeMap String Peer) :
    observed (before ++ after) peers = observed after (observed before peers) := by
  induction before generalizing peers with
  | nil => rfl
  | cons m rest ih =>
    rcases observed_cons_cases m (rest ++ after) peers with
      ⟨url, urls, hseen, hurls, heq⟩ | ⟨hunseen, heq⟩
    · rw [List.cons_append, heq, ih, observed_cons_of_isSeen hseen.1 hurls]
    · rw [List.cons_append, heq, ih, observed_cons_of_not_isSeen hunseen]

theorem IsIndexed.observed (h : IsIndexed peers) (members : List Member) :
    IsIndexed (observed members peers) := by
  induction members generalizing peers with
  | nil => exact h
  | cons m rest ih =>
    rcases observed_cons_cases m rest peers with ⟨url, urls, -, -, heq⟩ | ⟨-, heq⟩
    · rw [heq]
      exact ih (h.insert ⟨m.name, url, m.id⟩)
    · rw [heq]
      exact ih h

/-- Members under other names change nothing. -/
theorem getElem?_observed_of_forall_ne (h : ∀ m ∈ members, m.IsSeen → m.name ≠ name) :
    (observed members peers)[name]? = peers[name]? := by
  induction members generalizing peers with
  | nil => rfl
  | cons m rest ih =>
    rw [List.forall_mem_cons] at h
    rcases observed_cons_cases m rest peers with ⟨url, urls, hseen, -, heq⟩ | ⟨-, heq⟩
    · have hne : name ≠ Peer.name ⟨m.name, url, m.id⟩ := (h.1 hseen).symm
      rw [heq, ih h.2]
      exact getElem?_insert_of_ne peers hne
    · rw [heq, ih h.2]

/-- The last member of a name that is seen decides. -/
theorem getElem?_observed_of_last (hstarted : m.isUnstarted = false)
    (hurls : m.peerUrls = url :: urls) (hlast : ∀ later ∈ after, later.IsSeen → later.name ≠ m.name) :
    (observed (before ++ m :: after) peers)[m.name]? = some ⟨m.name, url, m.id⟩ := by
  rw [observed_append, observed_cons_of_isSeen hstarted hurls, getElem?_observed_of_forall_ne hlast,
    ExtTreeMap.getElem?_insert_self]

/-! ## Peers that are inferred -/

theorem Adds.isIndexed (h : Adds names ordinals peers all) (hpeers : IsIndexed peers) :
    IsIndexed all := by
  intro name peer hpeer
  cases hseen : peers[name]? with
  | none => exact (h.added hseen hpeer).2.1
  | some seen =>
    obtain rfl : seen = peer := Option.some.inj ((h.kept hseen).symm.trans hpeer)
    exact hpeers name seen hseen

/-! ## The peers after a repair -/

/-- The peers that go together with a registration of the node itself and with the members seen
    before: the node itself, the last member of each other name that is seen, at its first URL, and an
    inferred one for each lower number without any. -/
structure Peers (names : ServiceNames) (ordinal : Nat) (own : Peer) (members : List Member)
    (peers : List Peer) : Prop where
  ascending : peers.Pairwise fun p q => Bytes.ofString p.name < Bytes.ofString q.name
  exists_name_iff : ∀ name, (∃ peer ∈ peers, peer.name = name) ↔
    name = own.name ∨ (∃ k < ordinal, name = names.nodeName k) ∨
      ∃ m ∈ members, m.IsSeen ∧ m.name = name
  own_mem : own ∈ peers
  observed : ∀ before m after url urls, members = before ++ m :: after → m.isUnstarted = false →
    m.peerUrls = url :: urls → (∀ later ∈ after, later.IsSeen → later.name ≠ m.name) →
    m.name ≠ own.name → ⟨m.name, url, m.id⟩ ∈ peers
  inferred : ∀ peer ∈ peers, peer.name ≠ own.name →
    (∀ m ∈ members, m.IsSeen → m.name ≠ peer.name) →
    peer.id = 0 ∧ names.peerUrl peer.name = .ok peer.peerUrl

/-- Who has a peer before any is inferred. -/
theorem getElem?_known_eq_none_iff :
    ((observed members ∅).insert own.name own)[name]? = none ↔
      name ≠ own.name ∧ ∀ m ∈ members, m.IsSeen → m.name ≠ name := by
  constructor
  · intro hnone
    rw [← Option.not_isSome_iff_eq_none, ← ExtTreeMap.contains_eq_isSome_getElem?] at hnone
    refine ⟨?_, fun m hm hseen => ?_⟩
    · rintro rfl
      exact hnone ExtTreeMap.contains_insert_self
    · rintro rfl
      exact hnone (by simp [contains_observed hm hseen.1 hseen.2])
  · rintro ⟨hne, hmembers⟩
    rw [getElem?_insert_of_ne _ hne, getElem?_observed_of_forall_ne hmembers]
    simp

/-- The peers by name that those after a repair are listed from. -/
theorem peersAfter_eq_ok_iff_infer {result : List Peer} :
    peersAfter names ordinal own members = .ok result ↔ ∃ all,
      infer names (List.range ordinal) ((observed members ∅).insert own.name own) = .ok all ∧
        all.values = result := by
  rw [peersAfter]
  cases infer names (List.range ordinal) ((observed members ∅).insert own.name own) with
  | error e =>
    constructor
    · intro h
      cases h
    · rintro ⟨_, h, -⟩
      cases h
  | ok all =>
    constructor
    · rintro ⟨⟩
      exact ⟨all, rfl, rfl⟩
    · rintro ⟨_, ⟨⟩, rfl⟩
      rfl

theorem peers_of_infer
    (h : infer names (List.range ordinal) ((observed members ∅).insert own.name own) = .ok all) :
    Peers names ordinal own members all.values := by
  have hadds := adds_of_infer h
  have hempty : IsIndexed ∅ := by simp [IsIndexed]
  have hindexed := hadds.isIndexed ((hempty.observed members).insert own)
  have hown : all[own.name]? = some own := hadds.kept ExtTreeMap.getElem?_insert_self
  refine ⟨hindexed.pairwise_values, fun name => ?_, mem_values_iff.2 ⟨_, hown⟩, ?_, ?_⟩
  · rw [hindexed.exists_name_iff]
    constructor
    · rintro ⟨peer, hpeer⟩
      by_contra hnone
      simp only [not_or, not_exists, not_and] at hnone
      obtain ⟨hne, hinferred, hmembers⟩ := hnone
      obtain ⟨⟨k, hk, hname⟩, -⟩ :=
        hadds.added (getElem?_known_eq_none_iff.2 ⟨hne, hmembers⟩) hpeer
      exact hinferred k (List.mem_range.1 hk) hname
    · rintro (rfl | ⟨k, hk, rfl⟩ | ⟨m, hm, hseen, rfl⟩)
      · exact ⟨own, hown⟩
      · exact hadds.complete k (List.mem_range.2 hk)
      · have hknown : ((observed members ∅).insert own.name own)[m.name]? ≠ none := fun hnone =>
          (getElem?_known_eq_none_iff.1 hnone).2 m hm hseen rfl
        obtain ⟨peer, hpeer⟩ := Option.ne_none_iff_exists'.1 hknown
        exact ⟨peer, hadds.kept hpeer⟩
  · rintro before m after url urls rfl hstarted hurls hlast hne
    have hlookup := (getElem?_insert_of_ne (observed (before ++ m :: after) ∅) hne).trans
      (getElem?_observed_of_last hstarted hurls hlast)
    exact mem_values_iff.2 ⟨_, hadds.kept hlookup⟩
  · intro peer hpeer hne hmembers
    obtain ⟨name, hlookup⟩ := mem_values_iff.1 hpeer
    obtain rfl := hindexed name peer hlookup
    exact (hadds.added (getElem?_known_eq_none_iff.2 ⟨hne, hmembers⟩) hlookup).2.2

/-- Of the members of a name that are seen, one is the last. -/
theorem exists_last (h : ∃ m ∈ members, m.IsSeen ∧ m.name = name) :
    ∃ before m after url urls, members = before ++ m :: after ∧ m.isUnstarted = false ∧
      m.peerUrls = url :: urls ∧ m.name = name ∧
      ∀ later ∈ after, later.IsSeen → later.name ≠ name := by
  induction members with
  | nil => exact absurd h (by simp)
  | cons first rest ih =>
    by_cases hrest : ∃ m ∈ rest, m.IsSeen ∧ m.name = name
    · obtain ⟨before, m, after, url, urls, rfl, hlast⟩ := ih hrest
      exact ⟨first :: before, m, after, url, urls, rfl, hlast⟩
    · obtain ⟨m, hm, hseen, hname⟩ := h
      rcases List.mem_cons.1 hm with rfl | hm
      · obtain ⟨url, urls, hurls⟩ := List.exists_cons_of_ne_nil hseen.2
        exact ⟨[], m, rest, url, urls, rfl, hseen.1, hurls, hname,
          fun later hlater hseen' hname' => hrest ⟨later, hlater, hseen', hname'⟩⟩
      · exact absurd ⟨m, hm, hseen, hname⟩ hrest

namespace Peers

variable {result result' : List Peer}

theorem eq_of_name_eq (h : Peers names ordinal own members result) {p q : Peer} (hp : p ∈ result)
    (hq : q ∈ result) (hname : p.name = q.name) : p = q := by
  have hnodup : (result.map (·.name)).Nodup := by
    refine List.pairwise_map.2 (h.ascending.imp fun {a b} hlt hsame => ?_)
    rw [hsame] at hlt
    exact List.lt_irrefl _ hlt
  exact List.inj_on_of_nodup_map hnodup hp hq hname

/-- Where a peer comes from says all of it. -/
theorem mem_of_mem (h : Peers names ordinal own members result)
    (h' : Peers names ordinal own members result') (hpeer : peer ∈ result) : peer ∈ result' := by
  by_cases hown : peer.name = own.name
  · rw [h.eq_of_name_eq hpeer h.own_mem hown]
    exact h'.own_mem
  by_cases hseen : ∃ m ∈ members, m.IsSeen ∧ m.name = peer.name
  · obtain ⟨before, m, after, url, urls, hsplit, hstarted, hurls, hname, hlast⟩ := exists_last hseen
    rw [← hname] at hown hlast
    have hmem := h.observed before m after url urls hsplit hstarted hurls hlast hown
    rw [h.eq_of_name_eq hpeer hmem hname.symm]
    exact h'.observed before m after url urls hsplit hstarted hurls hlast hown
  · simp only [not_exists, not_and] at hseen
    obtain ⟨hid, hurl⟩ := h.inferred peer hpeer hown hseen
    obtain ⟨other, hother, hname⟩ :=
      (h'.exists_name_iff peer.name).2 ((h.exists_name_iff peer.name).1 ⟨peer, hpeer, rfl⟩)
    rw [← hname] at hown hseen hurl
    obtain ⟨hid', hurl'⟩ := h'.inferred other hother hown hseen
    have heq : peer = other := by
      cases peer
      cases other
      rw [Peer.mk.injEq]
      exact ⟨hname.symm, Except.ok.inj (hurl.symm.trans hurl'), hid.trans hid'.symm⟩
    rw [heq]
    exact hother

/-- There are no other peers that go together with a registration and with members. -/
theorem unique (h : Peers names ordinal own members result)
    (h' : Peers names ordinal own members result') : result = result' := by
  have : Std.Irrefl fun p q : Peer => Bytes.ofString p.name < Bytes.ofString q.name :=
    ⟨fun p => List.lt_irrefl _⟩
  have : Std.Antisymm fun p q : Peer => Bytes.ofString p.name < Bytes.ofString q.name :=
    ⟨fun p q hlt hgt => absurd hgt (List.lt_asymm hlt)⟩
  exact h.ascending.eq_of_mem_iff h'.ascending fun peer => ⟨h.mem_of_mem h', h'.mem_of_mem h⟩

end Peers

/-- The peers after a repair are those that go together with the registration and the members. -/
theorem peersAfter_eq_ok_iff {result : List Peer} :
    peersAfter names ordinal own members = .ok result ↔
      Peers names ordinal own members result := by
  rw [peersAfter_eq_ok_iff_infer]
  constructor
  · rintro ⟨all, hall, rfl⟩
    exact peers_of_infer hall
  · intro h
    -- the URLs of those who are missing can be read because they are among the peers
    obtain ⟨all, hall⟩ : ∃ all,
        infer names (List.range ordinal) ((observed members ∅).insert own.name own) = .ok all := by
      refine exists_infer fun k hk hnone => ?_
      obtain ⟨hne, hmembers⟩ := getElem?_known_eq_none_iff.1 hnone
      obtain ⟨peer, hpeer, hname⟩ :=
        (h.exists_name_iff (names.nodeName k)).2 (.inr (.inl ⟨k, List.mem_range.1 hk, rfl⟩))
      rw [← hname] at hne hmembers ⊢
      exact ⟨peer.peerUrl, (h.inferred peer hpeer hne hmembers).2⟩
    exact ⟨all, hall, (peers_of_infer hall).unique h⟩

end Repair

/-! ## Repairs -/

open Activity (yields_timeout_request)
open Procedure

variable {ε : Type} {o : LaunchOptions} {ownUrl : Url} {members : List Member} {added : Member}
  {log : List (Answered ε)} {peers : List Peer}

/-- The registry confirms the removal of a member. -/
def Answered.Removes (client : Connection) (m : Member) (answered : Answered ε) : Prop :=
  ∃ now left, answered = ⟨now, .manage client (.remove m.id), Except.ok left⟩

/-- The answers on which a repair succeeds: the client has connected and has seen the members of the
    registry, all that the node left behind is removed, and the node is registered anew. -/
inductive Repair.AnsweredBy (o : LaunchOptions) (ownUrl : Url) (members : List Member)
    (added : Member) : List (Answered ε) → Prop
  | intro {config : ClientConfig} {client : Connection} {removals : List (Answered ε)}
    (connected listed registered : Instant) (hconfig : o.clientConfig = .ok config)
    (hremovals : (members.filter (isStale o.nodeName ownUrl)).Forall₂ (Answered.Removes client)
      removals) :
    AnsweredBy o ownUrl members added
      (⟨connected, .connect config, Except.ok client⟩ ::
        ⟨listed, .manage client .list, Except.ok members⟩ ::
        (removals ++ [⟨registered, .manage client (.add [ownUrl]), Except.ok added⟩]))

theorem succeeds_removeMembers {bound : Duration} {client : Connection} :
    (removeMembers bound client members).Succeeds log () ↔
      members.Forall₂ (Answered.Removes client) log := by
  induction members generalizing log with
  | nil =>
    rw [removeMembers, succeeds_pure, List.forall₂_nil_left_iff]
    exact and_iff_left rfl
  | cons m rest ih =>
    rw [removeMembers, succeeds_bind, List.forall₂_cons_left_iff]
    constructor
    · rintro ⟨l₁, l₂, left, rfl, hremove, hrest⟩
      obtain ⟨now, rfl⟩ := yields_timeout_request.1 (succeeds_boundedCall.1 hremove)
      exact ⟨_, l₂, ⟨now, left, rfl⟩, ih.1 hrest, rfl⟩
    · rintro ⟨_, l₂, ⟨now, left, rfl⟩, hrest, rfl⟩
      exact ⟨[_], l₂, left, rfl,
        succeeds_boundedCall.2 (yields_timeout_request.2 ⟨now, rfl⟩), ih.2 hrest⟩

/-- A repair succeeds if the node knows its own number and URL and gets all answers in time. -/
theorem succeeds_repair {ordinal : Nat} (hordinal : o.names.ordinal? o.nodeName = some ordinal)
    (hurl : o.names.peerUrl o.nodeName = .ok ownUrl) :
    (repair o).Succeeds log peers ↔ ∃ members added, Repair.AnsweredBy o ownUrl members added log ∧
      Repair.peersAfter o.names ordinal ⟨o.nodeName, ownUrl, added.id⟩ members = .ok peers := by
  rw [repair, hordinal]
  constructor
  · intro h
    obtain ⟨_, _, url, rfl, hown, h₁⟩ := succeeds_bind.1 h
    obtain ⟨rfl, hread⟩ := succeeds_ofUrl.1 hown
    obtain rfl : ownUrl = url := Except.ok.inj (hurl.symm.trans hread)
    obtain ⟨_, _, config, rfl, hclient, h₂⟩ := succeeds_bind.1 h₁
    obtain ⟨rfl, hconfig⟩ := succeeds_ofUrl.1 hclient
    obtain ⟨_, _, client, rfl, hconnect, h₃⟩ := succeeds_bind.1 h₂
    obtain ⟨connected, rfl⟩ := yields_timeout_request.1 (succeeds_boundedCall.1 hconnect)
    obtain ⟨_, _, members, rfl, hlist, h₄⟩ := succeeds_bind.1 h₃
    obtain ⟨listed, rfl⟩ := yields_timeout_request.1 (succeeds_boundedCall.1 hlist)
    obtain ⟨removals, _, _, rfl, hremove, h₅⟩ := succeeds_bind.1 h₄
    obtain ⟨_, _, added, rfl, hadd, h₆⟩ := succeeds_bind.1 h₅
    obtain ⟨registered, rfl⟩ := yields_timeout_request.1 (succeeds_boundedCall.1 hadd)
    obtain ⟨rfl, hpeers⟩ := succeeds_ofUrl.1 h₆
    exact ⟨members, added,
      .intro connected listed registered hconfig (succeeds_removeMembers.1 hremove), hpeers⟩
  · rintro ⟨members, added, hanswers, hpeers⟩
    cases hanswers with
    | @intro config client removals connected listed registered hconfig hremovals =>
    refine succeeds_bind.2 ⟨[], _, ownUrl, rfl, succeeds_ofUrl.2 ⟨rfl, hurl⟩, ?_⟩
    refine succeeds_bind.2 ⟨[], _, config, rfl, succeeds_ofUrl.2 ⟨rfl, hconfig⟩, ?_⟩
    refine succeeds_bind.2 ⟨[_], _, client, rfl,
      succeeds_boundedCall.2 (yields_timeout_request.2 ⟨connected, rfl⟩), ?_⟩
    refine succeeds_bind.2 ⟨[_], _, members, rfl,
      succeeds_boundedCall.2 (yields_timeout_request.2 ⟨listed, rfl⟩), ?_⟩
    refine succeeds_bind.2 ⟨removals, _, (), rfl, succeeds_removeMembers.2 hremovals, ?_⟩
    refine succeeds_bind.2 ⟨[_], [], added, rfl,
      succeeds_boundedCall.2 (yields_timeout_request.2 ⟨registered, rfl⟩), ?_⟩
    exact succeeds_ofUrl.2 ⟨rfl, hpeers⟩

/-- A repair succeeds if the node knows its own number and URL and gets all answers in time. It ends
    with the peers that go together with them, whatever the registry holds. -/
theorem peers_of_repair : (repair o).Succeeds log peers ↔
    ∃ ordinal ownUrl members added, o.names.ordinal? o.nodeName = some ordinal ∧
      o.names.peerUrl o.nodeName = .ok ownUrl ∧
      Repair.AnsweredBy o ownUrl members added log ∧
      Repair.Peers o.names ordinal ⟨o.nodeName, ownUrl, added.id⟩ members peers := by
  constructor
  · intro h
    cases hordinal : o.names.ordinal? o.nodeName with
    | none =>
      rw [repair, hordinal] at h
      exact absurd h not_succeeds_throw
    | some ordinal =>
      cases hurl : o.names.peerUrl o.nodeName with
      | error e =>
        rw [repair, hordinal, hurl] at h
        obtain ⟨_, _, _, -, hown, -⟩ := succeeds_bind.1 h
        cases hown
      | ok ownUrl =>
        obtain ⟨members, added, hanswers, hpeers⟩ := (succeeds_repair hordinal hurl).1 h
        exact ⟨ordinal, ownUrl, members, added, rfl, rfl, hanswers,
          Repair.peersAfter_eq_ok_iff.1 hpeers⟩
  · rintro ⟨ordinal, ownUrl, members, added, hordinal, hurl, hanswers, hpeers⟩
    exact (succeeds_repair hordinal hurl).2
      ⟨members, added, hanswers, Repair.peersAfter_eq_ok_iff.2 hpeers⟩

/-! ## A crowded registry -/

namespace Trial

/-- What node `1` is launched with. -/
def newcomer : LaunchOptions := (launcher plain 1 "b").options

/-- The URL that a node of the trial is registered at. -/
def peerUrl (ordinal : Nat) : Url := .https (plain.host (plain.nodeName ordinal)) ServiceNames.peerPort

/-- A registry with a started member that has no URL, with stale entries of both kinds, and with three
    guests of one name. -/
def crowded : List Member :=
  [⟨1, plain.nodeName 0, [], []⟩, ⟨2, "", [peerUrl 1], []⟩,
    ⟨3, plain.nodeName 1, [.https "old" 2380], []⟩, ⟨4, "guest", [.https "first" 2380], []⟩,
    ⟨5, "guest", [.https "second" 2380, .https "third" 2380], []⟩, ⟨6, "guest", [], []⟩]

/-- How the newcomer repairs its membership there. -/
def repairAnswers : List (Answered EngineError) :=
  [⟨0, .connect
      ⟨[.https plain.internal ServiceNames.clientPort], newcomer.tls, newcomer.memberTimeout⟩,
      Except.ok ⟨0, administrator⟩⟩,
    ⟨0, .manage ⟨0, administrator⟩ .list, Except.ok crowded⟩,
    ⟨0, .manage ⟨0, administrator⟩ (.remove 2), Except.ok []⟩,
    ⟨0, .manage ⟨0, administrator⟩ (.remove 3), Except.ok []⟩,
    ⟨0, .manage ⟨0, administrator⟩ (.add [peerUrl 1]), Except.ok ⟨7, "", [peerUrl 1], []⟩⟩]

/-- The peers that it then starts with. -/
def repairedPeers : List Peer :=
  [⟨"guest", .https "second" 2380, 5⟩, ⟨plain.nodeName 0, peerUrl 0, 0⟩,
    ⟨plain.nodeName 1, peerUrl 1, 7⟩]

theorem peersAfter_crowded :
    Repair.peersAfter plain 1 ⟨plain.nodeName 1, peerUrl 1, 7⟩ crowded = .ok repairedPeers := by
  have hunseen : ¬((Repair.observed crowded ∅).insert (plain.nodeName 1)
      ⟨plain.nodeName 1, peerUrl 1, 7⟩).contains (plain.nodeName 0) := by
    decide +kernel
  have hinfer : Repair.infer plain (List.range 1) ((Repair.observed crowded ∅).insert
      (plain.nodeName 1) ⟨plain.nodeName 1, peerUrl 1, 7⟩) = .ok (((Repair.observed crowded ∅).insert
        (plain.nodeName 1) ⟨plain.nodeName 1, peerUrl 1, 7⟩).insert (plain.nodeName 0)
          ⟨plain.nodeName 0, peerUrl 0, 0⟩) := by
    rw [List.range_succ, List.range_zero, List.nil_append, Repair.infer, if_neg hunseen,
      asWritten_plain.peerUrl isNode_zero]
    rfl
  rw [Repair.peersAfter, hinfer]
  decide +kernel

theorem succeeds_crowded : (repair newcomer).Succeeds repairAnswers repairedPeers := by
  have hstale : crowded.filter (Repair.isStale (plain.nodeName 1) (peerUrl 1)) =
      [⟨2, "", [peerUrl 1], []⟩, ⟨3, plain.nodeName 1, [.https "old" 2380], []⟩] := by
    decide +kernel
  have hconfig : newcomer.clientConfig = .ok
      ⟨[.https plain.internal ServiceNames.clientPort], newcomer.tls, newcomer.memberTimeout⟩ := by
    rw [LaunchOptions.clientConfig, show newcomer.names = plain from rfl,
      asWritten_plain.serviceUrl]
    rfl
  have hremovals : (crowded.filter (Repair.isStale (plain.nodeName 1) (peerUrl 1))).Forall₂
      (Answered.Removes ⟨0, administrator⟩) ((repairAnswers.drop 2).take 2) :=
    hstale ▸ .cons ⟨0, [], rfl⟩ (.cons ⟨0, [], rfl⟩ .nil)
  have hordinal : newcomer.names.ordinal? newcomer.nodeName = some 1 := ordinal?_one
  have hurl : newcomer.names.peerUrl newcomer.nodeName = .ok (peerUrl 1) :=
    asWritten_plain.peerUrl isNode_one
  exact (succeeds_repair hordinal hurl).2
    ⟨crowded, ⟨7, "", [peerUrl 1], []⟩, .intro 0 0 0 hconfig hremovals, peersAfter_crowded⟩

end Trial

/-- The peers of a node that has found stale entries and guests. -/
theorem peers_of_repair_crowded :
    (repair Trial.newcomer).Succeeds Trial.repairAnswers Trial.repairedPeers ∧
      ∃ ordinal ownUrl members added,
        Trial.newcomer.names.ordinal? Trial.newcomer.nodeName = some ordinal ∧
        Trial.newcomer.names.peerUrl Trial.newcomer.nodeName = .ok ownUrl ∧
        Repair.AnsweredBy Trial.newcomer ownUrl members added Trial.repairAnswers ∧
        Repair.Peers Trial.newcomer.names ordinal ⟨Trial.newcomer.nodeName, ownUrl, added.id⟩
          members Trial.repairedPeers :=
  ⟨Trial.succeeds_crowded, peers_of_repair.1 Trial.succeeds_crowded⟩

end ClusterVault
