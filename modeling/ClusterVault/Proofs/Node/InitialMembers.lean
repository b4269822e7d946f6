import ClusterVault.Proofs.Network.FailedStart
import ClusterVault.Proofs.Node.Registration
import Mathlib.Data.List.Induction

/-!
# Members that a server is told of

A node tells its server of its peers and of itself. Peers may be named more than once, and one of
them may be the node itself at a URL that it has left. This module says what becomes of that:
everybody is listed once, and the node at its own URL, whatever its peers say. So the engine finds no
fault with the settings of a node.

## Main definitions

- `InitialCluster.names`: who is listed
- `InitialCluster.Gathers`: the members that a server is told of by a node and its peers

## Main statements

- `InitialCluster.names_insert`, `InitialCluster.get?_insert`: what one more entry does
- `LaunchOptions.gathers_initialCluster`: what all entries come to
- `Network.start_ne_invalidArgument`, `Network.exists_bootstrap`: whoever is told of itself at a URL
  that it advertises is refused for no fault of its settings
- `LaunchOptions.node_starts_under_own_url`: the settings of a node are of that kind, and without
  peers it founds a cluster of its own
-/

namespace ClusterVault

section Table

variable {α β : Type} [DecidableEq α] {key : α} {value : β} {table : List (α × β)}

theorem map_fst_setEntry (key : α) (value : β) (table : List (α × β)) :
    (setEntry key value table).map (·.1) =
      if key ∈ table.map (·.1) then table.map (·.1) else table.map (·.1) ++ [key] := by
  induction table with
  | nil => rfl
  | cons entry rest ih =>
    rw [setEntry]
    split
    · next hkey => simp [hkey]
    · next hkey =>
      rw [List.map_cons, List.map_cons, ih]
      by_cases hmem : key ∈ rest.map (·.1)
      · rw [if_pos hmem, if_pos (List.mem_cons_of_mem _ hmem)]
      · rw [if_neg hmem, if_neg (List.not_mem_cons_of_ne_of_not_mem (Ne.symm hkey) hmem),
          List.cons_append]

/-- Where no key occurs twice, the entries are those that are found. -/
theorem lookup_eq_some_iff_mem (h : (table.map (·.1)).Nodup) :
    table.lookup key = some value ↔ (key, value) ∈ table := by
  refine ⟨mem_of_lookup, fun hmem => ?_⟩
  obtain ⟨before, after, rfl⟩ := List.append_of_mem hmem
  refine List.lookup_eq_some_iff.2 ⟨before, after, rfl, fun entry hentry => ?_⟩
  rw [List.map_append, List.map_cons] at h
  have hne := (List.nodup_append.1 h).2.2 entry.1 (List.mem_map_of_mem hentry) key
    List.mem_cons_self
  simpa using Ne.symm hne

theorem eraseDups_concat (l : List α) (a : α) :
    (l ++ [a]).eraseDups = if a ∈ l then l.eraseDups else l.eraseDups ++ [a] := by
  rw [List.eraseDups_append]
  split
  · next hmem => simp [List.removeAll, hmem]
  · next hmem => simp [List.removeAll, hmem, List.eraseDups_cons]

end Table

/-! ## Initial clusters -/

namespace InitialCluster

variable {c : InitialCluster} {name own : String} {url ownUrl : Url} {peers : List Peer}

/-- The names of the members, in order. -/
def names (c : InitialCluster) : List String := c.entries.map (·.1)

theorem insertInto_eq_setEntry (name : String) (url : Url) (entries : List (String × Url)) :
    insertInto name url entries = setEntry name url entries := by
  induction entries with
  | nil => rfl
  | cons entry rest ih =>
    rw [insertInto, setEntry]
    split
    · next hname => rw [hname]
    · rw [ih]

theorem get?_insert (c : InitialCluster) (name : String) (url : Url) (other : String) :
    (c.insert name url).get? other = if other = name then some url else c.get? other := by
  rw [get?, insert, insertInto_eq_setEntry, lookup_setEntry]
  rfl

theorem names_insert (c : InitialCluster) (name : String) (url : Url) :
    (c.insert name url).names = if name ∈ c.names then c.names else c.names ++ [name] := by
  rw [names, insert, insertInto_eq_setEntry, map_fst_setEntry]
  rfl

theorem nodup_insert (h : c.names.Nodup) (name : String) (url : Url) :
    (c.insert name url).names.Nodup := by
  rw [names_insert]
  split
  · exact h
  · next hnew => exact List.concat_eq_append ▸ h.concat hnew

/-- One more peer. -/
def insertPeer (c : InitialCluster) (peer : Peer) : InitialCluster :=
  c.insert peer.name peer.peerUrl

/-- Everybody is listed once, where first named and at the URL that was last given. Only the node
    itself is at its own URL in any case. It stands behind its peers unless it is among them. -/
structure Gathers (c : InitialCluster) (peers : List Peer) (own : String) (ownUrl : Url) :
    Prop where
  nodup : c.names.Nodup
  order : c.names = (peers.map (·.name) ++ [own]).eraseDups
  own_mem_iff : ∀ url, (own, url) ∈ c.entries ↔ url = ownUrl
  mem_iff : ∀ name url, name ≠ own → ((name, url) ∈ c.entries ↔
    ∃ peer, peers.findRev? (·.name = name) = some peer ∧ peer.peerUrl = url)

theorem nodup_foldl_insertPeer (peers : List Peer) :
    (peers.foldl insertPeer empty).names.Nodup := by
  induction peers using List.reverseRecOn with
  | nil => exact List.nodup_nil
  | append_singleton peers peer ih =>
    rw [List.foldl_concat]
    exact nodup_insert ih _ _

/-- The first time that a peer is named decides on its place. -/
theorem names_foldl_insertPeer (peers : List Peer) :
    (peers.foldl insertPeer empty).names = (peers.map (·.name)).eraseDups := by
  induction peers using List.reverseRecOn with
  | nil => rfl
  | append_singleton peers peer ih =>
    rw [List.foldl_concat, insertPeer, names_insert, ih, List.map_append, List.map_singleton,
      eraseDups_concat]
    simp only [List.mem_eraseDups]

/-- The last time that a peer is named decides on its URL. -/
theorem get?_foldl_insertPeer (peers : List Peer) (name : String) :
    (peers.foldl insertPeer empty).get? name =
      (peers.findRev? (·.name = name)).map (·.peerUrl) := by
  induction peers using List.reverseRecOn with
  | nil => rfl
  | append_singleton peers peer ih =>
    rw [List.foldl_concat, insertPeer, get?_insert, ih]
    simp only [List.findRev?_eq_find?_reverse, List.reverse_concat, List.find?_cons]
    by_cases hname : name = peer.name
    · simp [hname]
    · simp [hname, Ne.symm hname]

end InitialCluster

namespace LaunchOptions

open InitialCluster

variable {o : LaunchOptions} {peers : List Peer} {own name : String} {ownUrl url : Url}
  {founding : Founding} {config : ServerConfig}

theorem initialCluster_eq (peers : List Peer) (own : String) (ownUrl : Url) :
    initialCluster peers own ownUrl = (peers.foldl insertPeer empty).insert own ownUrl :=
  rfl

theorem get?_initialCluster_eq (peers : List Peer) (own name : String) (ownUrl : Url) :
    (initialCluster peers own ownUrl).get? name =
      if name = own then some ownUrl else (peers.findRev? (·.name = name)).map (·.peerUrl) := by
  rw [initialCluster_eq, get?_insert, get?_foldl_insertPeer]

/-- A peer other than the node itself is listed at its URL. -/
theorem get?_initialCluster (hne : name ≠ own) (hpeer : ∃ peer ∈ peers, peer.name = name)
    (hurls : ∀ peer ∈ peers, peer.name = name → peer.peerUrl = url) :
    (initialCluster peers own ownUrl).get? name = some url := by
  rw [get?_initialCluster_eq, if_neg hne, List.findRev?_eq_find?_reverse]
  cases hfound : peers.reverse.find? (·.name = name) with
  | none =>
    obtain ⟨peer, hmem, hname⟩ := hpeer
    exact absurd hname (by simpa using List.find?_eq_none.1 hfound peer (List.mem_reverse.2 hmem))
  | some peer =>
    have hmem := List.mem_reverse.1 (List.mem_of_find?_eq_some hfound)
    rw [Option.map_some, hurls peer hmem (by simpa using List.find?_some hfound)]

/-- The members that a server is told of by a node and its peers. -/
theorem gathers_initialCluster (peers : List Peer) (own : String) (ownUrl : Url) :
    (initialCluster peers own ownUrl).Gathers peers own ownUrl := by
  have hnodup : (initialCluster peers own ownUrl).names.Nodup :=
    nodup_insert (nodup_foldl_insertPeer peers) own ownUrl
  have hmem (name : String) (url : Url) : (name, url) ∈ (initialCluster peers own ownUrl).entries ↔
      (if name = own then some ownUrl else (peers.findRev? (·.name = name)).map (·.peerUrl)) =
        some url := by
    rw [← lookup_eq_some_iff_mem hnodup, ← get?_initialCluster_eq]
    rfl
  refine ⟨hnodup, ?_, fun url => ?_, fun name url hne => ?_⟩
  · rw [initialCluster_eq, names_insert, names_foldl_insertPeer, eraseDups_concat]
    simp only [List.mem_eraseDups]
  · rw [hmem, if_pos rfl, Option.some.injEq, eq_comm]
  · rw [hmem, if_neg hne, Option.map_eq_some_iff]

end LaunchOptions

/-! ## Settings without fault -/

namespace Network

variable {net : Network} {config : ServerConfig} {url : Url}

/-- Whoever is told of itself, once and at a URL that it advertises, can found a cluster. Its members
    are those that the server is told of, and it is the one of its name and URL. -/
theorem exists_bootstrap (hnodup : config.initialCluster.names.Nodup)
    (hlisted : config.initialCluster.get? config.name = some url)
    (hadvertised : url ∈ config.advertisedPeerUrls) (net : Network) (id : NodeId) :
    ∃ (members : List Member) (ids : IdSource) (m : Member),
      net.bootstrap id config = .ok ({ net with
        ids
        clusters := net.clusters ++ [Cluster.founded members] }.attach id config.dataDir
          ⟨net.clusters.length, m.id⟩) ∧
      (members.map fun m => (m.name, m.peerUrls)) =
        config.initialCluster.entries.map (fun entry => (entry.1, [entry.2])) ∧
      m ∈ members ∧ m.name = config.name ∧ m.peerUrls = [url] := by
  obtain ⟨net', hfounded⟩ : ∃ net', net.bootstrap id config = .ok net' := by
    have hcontains : config.advertisedPeerUrls.contains url := by simpa using hadvertised
    rw [bootstrap, hlisted]
    simp only [hcontains, Bool.not_true, Bool.false_eq_true, if_false]
    exact ⟨_, rfl⟩
  obtain ⟨_, m, -, -, hm, hname, rfl⟩ := bootstrap_eq_ok hfounded
  obtain ⟨members, hmembers, hmap⟩ := foundingMembers_eq config.name config.advertisedClientUrls
    config.initialCluster.entries [] net.ids
  rw [List.nil_append] at hmembers
  rw [hmembers] at hm hfounded
  refine ⟨members, _, m, hfounded, hmap, hm, hname, ?_⟩
  -- no other entry has the name of the server
  have hentry := List.mem_map_of_mem (f := fun m => (m.name, m.peerUrls)) hm
  rw [hmap] at hentry
  obtain ⟨⟨_, url'⟩, hmem, heq⟩ := List.mem_map.1 hentry
  obtain ⟨rfl, hurls⟩ := Prod.mk.inj heq
  have hfound := (lookup_eq_some_iff_mem hnodup).2 hmem
  rw [hname, ← InitialCluster.get?, hlisted, Option.some.injEq] at hfound
  rw [← hurls, hfound]

/-- Nor is it refused for an invalid argument, however it is started. -/
theorem start_ne_invalidArgument (hlisted : config.initialCluster.get? config.name = some url)
    (hadvertised : url ∈ config.advertisedPeerUrls) (net : Network) (files : FileSystem)
    (now : Instant) (problem : Problem) :
    (net.start files now config).2.2 ≠ .error (.invalidArgument problem) := by
  have hsome : config.advertisedPeerUrls.isEmpty = false :=
    List.isEmpty_eq_false_iff.2 (List.ne_nil_of_mem hadvertised)
  intro hrefused
  simp only [start, hsome, Bool.false_eq_true, if_false] at hrefused
  split at hrefused
  · cases hrefused
  · split at hrefused
    · next hlisten =>
      obtain ⟨_, -, -, rfl⟩ := listen_eq_error hlisten
      cases hrefused
    · next taken hlisten =>
      have hcame := cameUp_comeUp taken now net.nodes.length config
      split at hrefused
      · cases hrefused
      · next hbarred =>
        rw [hbarred] at hcame
        cases hrefused
        -- of the four things that may bar a server, two are faults of its settings
        cases hcame with
        | barred clusters hbars =>
          cases hbars with
          | notListed _ _ hunlisted => cases hlisted.symm.trans hunlisted
          | notAdvertised _ _ hlisted' hhidden =>
            cases hlisted.symm.trans hlisted'
            exact hhidden hadvertised

end Network

/-- The settings of a node list its peers once each, and the node itself at its own URL, which is the
    only one that it advertises, whatever the peers say. So the engine never refuses them for an
    invalid argument, and the node can found a cluster, of which it is the only member if it has no
    peers. -/
theorem LaunchOptions.node_starts_under_own_url {o : LaunchOptions} {peers : List Peer}
    {founding : Founding} {config : ServerConfig} (h : o.serverConfig peers founding = .ok config) :
    ∃ ownUrl, o.names.peerUrl o.nodeName = .ok ownUrl ∧ config.name = o.nodeName ∧
      config.advertisedPeerUrls = [ownUrl] ∧
      config.initialCluster.Gathers peers o.nodeName ownUrl ∧
      (∀ (net : Network) files now problem,
        (net.start files now config).2.2 ≠ .error (.invalidArgument problem)) ∧
      ∀ (net : Network) id, ∃ (members : List Member) (ids : IdSource) (m : Member),
        net.bootstrap id config = .ok ({ net with
          ids
          clusters := net.clusters ++ [Cluster.founded members] }.attach id config.dataDir
            ⟨net.clusters.length, m.id⟩) ∧
        m ∈ members ∧ m.name = o.nodeName ∧ m.peerUrls = [ownUrl] ∧
        (peers = [] → members = [m]) := by
  obtain ⟨ownUrl, clientUrl, hurl, -, hconfig⟩ := serverConfig_eq_ok h
  have hinitial : config.initialCluster = initialCluster peers o.nodeName ownUrl := by
    rw [hconfig]
    rfl
  have hnamed : config.name = o.nodeName := by
    rw [hconfig]
    rfl
  have hadvertised : config.advertisedPeerUrls = [ownUrl] := by
    rw [hconfig]
    rfl
  have hgathers : config.initialCluster.Gathers peers o.nodeName ownUrl :=
    hinitial ▸ gathers_initialCluster peers o.nodeName ownUrl
  have hlisted : config.initialCluster.get? config.name = some ownUrl := by
    rw [hinitial, hnamed, get?_initialCluster_eq, if_pos rfl]
  have hmem : ownUrl ∈ config.advertisedPeerUrls := hadvertised ▸ List.mem_singleton_self ownUrl
  refine ⟨ownUrl, hurl, hnamed, hadvertised, hgathers,
    Network.start_ne_invalidArgument hlisted hmem, fun net id => ?_⟩
  obtain ⟨members, ids, m, hfounded, hmap, hm, hname, hurls⟩ :=
    Network.exists_bootstrap hgathers.nodup hlisted hmem net id
  refine ⟨members, ids, m, hfounded, hm, hname.trans hnamed, hurls, ?_⟩
  rintro rfl
  rw [hinitial] at hmap
  obtain ⟨only, rfl, -⟩ := List.map_eq_singleton_iff.1 hmap
  rw [List.mem_singleton.1 hm]

/-- What a node has heard: twice of one peer, first at a URL that is no longer its own, of a guest,
    and of itself at a URL that it has left. -/
def Trial.hearsay : List Peer :=
  [⟨plain.nodeName 0, .https "old" 2380, 4⟩, ⟨plain.nodeName 1, .https "left" 2380, 5⟩,
    ⟨"guest", .https "guest" 2380, 6⟩,
    ⟨plain.nodeName 0, .https (plain.host (plain.nodeName 0)) ServiceNames.peerPort, 0⟩]

open Trial in
/-- A node that has heard of itself starts at its own URL in the place at which it was named. -/
theorem LaunchOptions.node_starts_under_own_url_renamed :
    let url (ordinal : Nat) := Url.https (plain.host (plain.nodeName ordinal)) ServiceNames.peerPort
    ∃ config, (launcher plain 1 "b").options.serverConfig hearsay .existing = .ok config ∧
      config.initialCluster.entries =
        [(plain.nodeName 0, url 0), (plain.nodeName 1, url 1), ("guest", .https "guest" 2380)] ∧
      ∃ ownUrl, plain.peerUrl (plain.nodeName 1) = .ok ownUrl ∧
        config.advertisedPeerUrls = [ownUrl] ∧
        config.initialCluster.Gathers hearsay (plain.nodeName 1) ownUrl ∧
        ∀ (net : Network) files now problem,
          (net.start files now config).2.2 ≠ .error (.invalidArgument problem) := by
  intro url
  have hconfig := serverConfig_launcher asWritten_plain isNode_one "b" hearsay .existing
  obtain ⟨ownUrl, hurl, -, hadvertised, hgathers, hstart, -⟩ := node_starts_under_own_url hconfig
  exact ⟨_, hconfig, by decide +kernel, ownUrl, hurl, hadvertised, hgathers, hstart⟩

end ClusterVault
