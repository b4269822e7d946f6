import ClusterVault.Proofs.Network.Servers

/-!
# Listeners, servers and members

Who listens, who runs and who is a member is kept in three places, and each of them is changed by
other requests. This module shows that they agree after whatever happens on a network: at a URL
listens the server that runs and advertises it, and a server that runs as a member is listed. So a
server that was closed, or whose member was removed, is out of reach for good.

## Main definitions

- `Network.Orderly`: the three places agree
- `Network.Stops`: an event stops a server
- `Network.OutOfReach`: nobody gets to a server

## Main statements

- `Network.listeners_agree_with_servers`: the three places agree in every network that can come
  about, and a server that was stopped is out of reach for good
-/

namespace ClusterVault.Network

/-- Who listens, who runs and who is a member agree. -/
structure Orderly (net : Network) : Prop where
  /-- Who listens at a URL runs and advertises it. -/
  advertised : ∀ {url : Url} {id : NodeId}, (url, id) ∈ net.listeners →
    ∃ config, net.settings? id = some config ∧ url ∈ config.urls
  /-- Who runs listens at all of its URLs. -/
  owned : ∀ {id : NodeId} {config : ServerConfig}, net.settings? id = some config →
    ∀ url ∈ config.urls, net.listeners.lookup url = some id
  urls_ne_nil : ∀ {id : NodeId} {config : ServerConfig}, net.settings? id = some config →
    config.urls ≠ []
  /-- Who runs as a member is listed. -/
  listed : ∀ {id : NodeId} {a : Attachment}, net.attachment? id = some a → net.Lists a

/-- The server has been stopped, by whoever it was. -/
def IsShut (net : Network) (id : NodeId) : Prop :=
  id < net.nodes.length ∧ net.running? id = none

/-- An event stops a server: it is closed, or the member that it runs as is removed. -/
def Stops (net : Network) (id : NodeId) : Event → Prop
  | .close i => i = id ∧ id < net.nodes.length
  | .manage now client (.remove member) =>
    (net.manage now client (.remove member)).2.isOk ∧
      ∃ k, (net.nodes[client.server]?.bind fun n => n.cluster.toOption) = some k ∧
        net.nodes[id]?.bind (·.attachment) = some ⟨k, member⟩
  | _ => False

/-- No peer and no client gets to a server, and who still has a handle on it is told so. -/
structure OutOfReach (net : Network) (id : NodeId) : Prop where
  peers : ∀ url, net.listeners.lookup url ≠ some id
  clients : ∀ endpoint, id ∉ net.candidates endpoint
  connects : ∀ files config client, net.connect files config = .ok client → client.server ≠ id
  serve : ∀ now user command, net.serve now id user command = (net, .error .stopped)
  manage : ∀ now user command, ∃ node, net.nodes[id]? = some node ∧
    net.manage now ⟨id, user⟩ command =
      (net, .error (.unavailable (.connectionLost node.config.name)))
  close : net.close id = net

variable {event : Event} {events : List Event} {net net' : Network} {id i : NodeId}
  {node : ServerNode} {k : ClusterId} {c c' : Cluster} {a : Attachment} {config : ServerConfig}

namespace Orderly

theorem of_empty (ids : IdSource) : ({ ids } : Network).Orderly :=
  ⟨nofun, nofun, nofun, nofun⟩

/-- Moves that start and stop no server have only to look after the members. -/
theorem of_settings?_eq (h : net.Orderly) (hlisteners : net'.listeners = net.listeners)
    (hsettings : net'.settings? = net.settings?)
    (hlisted : ∀ {id a}, net'.attachment? id = some a → net'.Lists a) : net'.Orderly where
  advertised hentry := by
    rw [hlisteners] at hentry
    rw [hsettings]
    exact h.advertised hentry
  owned hid := by
    rw [hsettings] at hid
    rw [hlisteners]
    exact h.owned hid
  urls_ne_nil hid := by
    rw [hsettings] at hid
    exact h.urls_ne_nil hid
  listed := hlisted

/-- Servers that stop leave their URLs to nobody. -/
theorem of_stopped (h : net.Orderly) (stopped : List NodeId)
    (hrunning : ∀ i, net'.running? i = if i ∈ stopped then none else net.running? i)
    (hlisteners : net'.listeners = net.listeners.filter (!stopped.contains ·.2))
    (hlisted : ∀ {id a}, id ∉ stopped → net.attachment? id = some a → net'.Lists a) :
    net'.Orderly := by
  have hsettings (i : NodeId) :
      net'.settings? i = if i ∈ stopped then none else net.settings? i := by
    rw [settings?, hrunning]
    split <;> rfl
  have hold {i : NodeId} {config : ServerConfig} (hi : net'.settings? i = some config) :
      i ∉ stopped ∧ net.settings? i = some config := by
    rw [hsettings] at hi
    split at hi
    · cases hi
    · next hrest => exact ⟨hrest, hi⟩
  constructor
  · intro url i hentry
    rw [hlisteners, List.mem_filter] at hentry
    obtain ⟨hentry, hkept⟩ := hentry
    have hrest : i ∉ stopped := by simpa using hkept
    rw [hsettings, if_neg hrest]
    exact h.advertised hentry
  · intro i config hi url hurl
    obtain ⟨hrest, hi⟩ := hold hi
    rw [hlisteners]
    exact lookup_filter_of_lookup (!stopped.contains ·) (h.owned hi url hurl)
      (by simpa using hrest)
  · intro i config hi
    exact h.urls_ne_nil (hold hi).2
  · intro i a hi
    rw [attachment?, hrunning] at hi
    split at hi
    · cases hi
    · next hrest => exact hlisted hrest hi

theorem leave (h : net.Orderly) (id : NodeId) : (net.close id).Orderly := by
  cases hid : net.running? id with
  | none =>
    rw [close_of_running?_eq_none hid]
    exact h
  | some node =>
    refine h.of_stopped [id] ?_ ?_ ?_
    · intro i
      rw [running?_close]
      simp only [List.mem_singleton]
    · rw [close_eq (hid ▸ rfl)]
      refine List.filter_congr fun entry _ => ?_
      simp
    · intro i a _ hi
      rw [close_eq (hid ▸ rfl)]
      exact h.listed hi

/-- A server that takes its URLs takes them from nobody who runs. -/
theorem take (h : net.Orderly) (hpeers : config.advertisedPeerUrls ≠ [])
    (hlisten : { net with nodes := net.nodes ++ [({ config } : ServerNode)] }.listen net.nodes.length
      config.urls = .ok net') : net'.Orderly := by
  obtain ⟨heq, hrunning, hfree⟩ := take_eq_ok hlisten
  have hlisteners : net'.listeners = config.urls.foldl
      (fun table url => setEntry url net.nodes.length table) net.listeners := by rw [heq]
  have hsettings (i : NodeId) :
      net'.settings? i = if i = net.nodes.length then some config else net.settings? i := by
    rw [settings?, hrunning]
    split <;> rfl
  constructor
  · intro url i hentry
    rw [hlisteners] at hentry
    rw [hsettings]
    rcases mem_foldl_setEntry hentry with ⟨hurl, hi⟩ | hentry
    · exact ⟨config, if_pos hi, hurl⟩
    · obtain ⟨config', hi, hurl⟩ := h.advertised hentry
      have hold : i ≠ net.nodes.length := by
        rintro rfl
        rw [settings?, running?_length] at hi
        cases hi
      exact ⟨config', (if_neg hold).trans hi, hurl⟩
  · intro i config' hi url hurl
    rw [hlisteners, lookup_foldl_setEntry]
    rw [hsettings] at hi
    split at hi
    · next hnew =>
      cases hi
      rw [if_pos hurl, hnew]
    · -- the URL of a server that runs was not free
      have howned := h.owned hi url hurl
      have hnot : url ∉ config.urls := by
        intro hmem
        rw [settings?, hfree url hmem i howned] at hi
        cases hi
      rw [if_neg hnot, howned]
  · intro i config' hi
    rw [hsettings] at hi
    split at hi
    · cases hi
      simp [ServerConfig.urls, hpeers]
    · exact h.urls_ne_nil hi
  · intro i a hi
    have hlists : net.Lists a := by
      rw [attachment?, hrunning] at hi
      split at hi
      · cases hi
      · exact h.listed hi
    rw [heq]
    exact hlists

/-- A server becomes a member that is listed. -/
theorem attach (h : net.Orderly) (id : NodeId) (dataDir : String) (hlists : net.Lists a) :
    (net.attach id dataDir a).Orderly := by
  refine h.of_settings?_eq rfl (settings?_attach net id dataDir a) ?_
  intro i a' hi
  rw [attachment?_attach] at hi
  split at hi
  · obtain ⟨config, -, rfl⟩ := Option.map_eq_some_iff.1 hi
    exact hlists
  · exact h.listed hi

theorem setCluster (h : net.Orderly) (hc : net.clusters[k]? = some c)
    (hmembers : ∀ member, c.hasMember member → c'.hasMember member) : (net.setCluster k c').Orderly :=
  h.of_settings?_eq rfl rfl fun hi => (h.listed hi).setCluster hc fun _ => hmembers _

theorem setCluster_of_members_eq (h : net.Orderly) (hc : net.clusters[k]? = some c)
    (hmembers : c'.members = c.members) : (net.setCluster k c').Orderly :=
  h.of_settings?_eq rfl rfl fun hi => (h.listed hi).of_members_eq hc hmembers

/-- A server that runs as a member is found by its URLs. -/
theorem mem_runningAs (h : net.Orderly) (hi : net.running? i = some node)
    (ha : node.attachment = some a) : i ∈ net.runningAs a := by
  have hsettings : net.settings? i = some node.config := settings?_eq_some.2 ⟨node, hi, rfl⟩
  obtain ⟨url, hurl⟩ := List.exists_mem_of_ne_nil _ (h.urls_ne_nil hsettings)
  exact Network.mem_runningAs.2 ⟨⟨url, mem_of_lookup (h.owned hsettings url hurl)⟩, node,
    (running?_eq_some.1 hi).1, ha⟩

theorem remove {user : String} {member : Nat} (h : net.Orderly) (hc : net.clusters[k]? = some c)
    (hremove : c.removeMember user member = .ok c') :
    ((net.setCluster k c').stopMember ⟨k, member⟩).Orderly := by
  refine h.of_stopped _ (running?_stopMember _ _) rfl ?_
  intro i a hrest hi
  obtain ⟨node, hnode, ha⟩ := attachment?_eq_some.1 hi
  have hne : a ≠ ⟨k, member⟩ := by
    rintro rfl
    exact hrest (h.mem_runningAs hnode ha)
  have hlists : (net.setCluster k c').Lists a := by
    refine (h.listed hi).setCluster hc fun hk hlisted => ?_
    rw [Cluster.hasMember_of_removeMember hremove]
    · exact hlisted
    · rintro rfl
      exact hne (by rw [hk])
  obtain ⟨c₀, hc₀, hlisted⟩ := hlists
  exact ⟨c₀, by rw [clusters_stopMember, hc₀], hlisted⟩

/-- Every move keeps the three places in agreement. -/
theorem move (hmove : Move event net net') (h : net.Orderly) : net'.Orderly := by
  cases hmove with
  | route => exact h.of_settings?_eq rfl rfl h.listed
  | take hpeers hlisten => exact h.take hpeers hlisten
  | leave => exact h.leave _
  | wait =>
    refine h.of_settings?_eq rfl (settings?_updateNode (fun _ => rfl) fun _ => rfl) ?_
    intro i a hi
    rw [attachment?_wait] at hi
    exact h.listed hi
  | look hc now => exact h.setCluster_of_members_eq hc rfl
  | serve hc user now limit command =>
    exact h.setCluster_of_members_eq hc (Cluster.members_serve _ user now limit command)
  | found hnode hconfig hfounding hnew hfound =>
    obtain ⟨url, m, -, -, hm, -, rfl⟩ := bootstrap_eq_ok hfound
    refine attach ?_ _ _ ⟨_, List.getElem?_concat_length, Cluster.hasMember_iff.2 ⟨m, hm, rfl⟩⟩
    exact of_settings?_eq h rfl rfl fun hi => (h.listed hi).concat _ _
  | restore hnode hremembered hc hmember => exact h.attach _ _ ⟨_, hc, hmember⟩
  | join hnode hc hattach =>
    refine attach (h.setCluster hc fun member hlisted => ?_) _ _ ?_
    · rw [Cluster.hasMember_of_attachMember hattach]
      exact hlisted
    · exact ⟨_, clusters_setCluster hc _, Cluster.hasMember_attached hattach⟩
  | @add now client urls _ k c c' user member ids hc hadd =>
    obtain ⟨-, -, -, -, rfl⟩ := Cluster.members_of_addMember_eq_ok hadd
    have hadded : (net.setCluster k { c with members := c.members ++ [member] }).Orderly :=
      h.setCluster hc fun _ hlisted => by
        obtain ⟨m, hm, hid⟩ := Cluster.hasMember_iff.1 hlisted
        exact Cluster.hasMember_iff.2 ⟨m, List.mem_append_left _ hm, hid⟩
    exact hadded.of_settings?_eq rfl rfl hadded.listed
  | remove hc hremove => exact h.remove hc hremove

/-- The three places agree after whatever happens. -/
theorem afterAll (h : net.Orderly) (events : List Event) : (net.afterAll events).Orderly :=
  afterAll_of_moves (fun _ _ _ => move) h events

end Orderly

/-! ## Servers that were stopped -/

theorem length_updateNode (net : Network) (id : NodeId) (change : ServerNode → ServerNode) :
    (net.updateNode id change).nodes.length = net.nodes.length :=
  List.length_modify ..

theorem length_foldl_shut (ids : List NodeId) (net : Network) :
    (ids.foldl (fun net id => net.updateNode id fun n => { n with closed := true })
      net).nodes.length = net.nodes.length := by
  induction ids generalizing net with
  | nil => rfl
  | cons id ids ih => exact (ih _).trans (length_updateNode _ _ _)

theorem length_close (net : Network) (id : NodeId) :
    (net.close id).nodes.length = net.nodes.length := by
  unfold close
  split
  · rfl
  · exact length_updateNode _ _ _

namespace IsShut

theorem of_running?_eq (h : net.IsShut id) (hlength : net'.nodes.length = net.nodes.length)
    (hrunning : net.running? id = none → net'.running? id = none) : net'.IsShut id :=
  ⟨hlength ▸ h.1, hrunning h.2⟩

theorem updateNode (h : net.IsShut id) (i : NodeId) (hclosed : ∀ n, (change n).closed = n.closed) :
    (net.updateNode i change).IsShut id := by
  refine h.of_running?_eq (length_updateNode _ _ _) fun hnone => ?_
  rw [running?_updateNode hclosed, hnone]
  exact ite_self _

/-- A server that has been stopped does not run again. -/
theorem move (hmove : Move event net net') (h : net.IsShut id) : net'.IsShut id := by
  cases hmove with
  | route | look | serve | add => exact h
  | take _ hlisten =>
    obtain ⟨rfl, hrunning, -⟩ := take_eq_ok hlisten
    refine ⟨?_, ?_⟩
    · rw [List.length_append]
      exact Nat.lt_add_right _ h.1
    · rw [hrunning, if_neg (Nat.ne_of_lt h.1), h.2]
  | leave i =>
    refine h.of_running?_eq (length_close _ _) fun hnone => ?_
    rw [running?_close, hnone]
    exact ite_self _
  | wait => exact h.updateNode _ fun _ => rfl
  | found _ _ _ _ hfound =>
    obtain ⟨_, _, -, -, -, -, rfl⟩ := bootstrap_eq_ok hfound
    exact updateNode h _ fun _ => rfl
  | restore => exact updateNode h _ fun _ => rfl
  | join => exact updateNode h _ fun _ => rfl
  | remove =>
    refine h.of_running?_eq (length_foldl_shut _ _) fun hnone => ?_
    rw [running?_stopMember]
    split
    · rfl
    · exact hnone

theorem afterAll (h : net.IsShut id) (events : List Event) : (net.afterAll events).IsShut id :=
  afterAll_of_moves (fun _ _ _ => move) h events

/-- A server that has been stopped listens nowhere. -/
theorem not_mem_listeners (h : net.IsShut id) (horderly : net.Orderly) (url : Url) :
    (url, id) ∉ net.listeners := by
  intro hentry
  obtain ⟨config, hid, -⟩ := horderly.advertised hentry
  rw [settings?, h.2] at hid
  cases hid

theorem not_mem_candidates (h : net.IsShut id) (horderly : net.Orderly) (endpoint : Url) :
    id ∉ net.candidates endpoint := by
  have hlistener := h.not_mem_listeners horderly
  unfold candidates
  split
  · exact List.not_mem_nil
  · split
    · intro hmem
      obtain ⟨⟨url, i⟩, hentry, rfl⟩ := List.mem_map.1 hmem
      exact hlistener url (List.mem_of_mem_filter hentry)
    · split
      · exact List.not_mem_nil
      · next hlookup =>
        split
        · rw [List.mem_singleton]
          rintro rfl
          exact hlistener _ (mem_of_lookup hlookup)
        · exact List.not_mem_nil

theorem server_ne_of_connect {files : FileSystem} {config : ClientConfig} {client : Connection}
    (h : net.IsShut id) (horderly : net.Orderly)
    (hconnect : net.connect files config = .ok client) : client.server ≠ id := by
  rintro rfl
  unfold connect at hconnect
  split at hconnect
  · cases hconnect
  · split at hconnect
    · cases hconnect
    · split at hconnect
      · cases hconnect
      · next hfound =>
        cases hconnect
        obtain ⟨endpoint, -, hroute⟩ := List.exists_of_findSome?_eq_some hfound
        exact h.not_mem_candidates horderly endpoint (List.mem_of_getElem? hroute)

theorem getElem? (h : net.IsShut id) : ∃ node, net.nodes[id]? = some node ∧ node.closed := by
  obtain ⟨hlt, hnone⟩ := h
  have hnode : net.nodes[id]? = some net.nodes[id] := List.getElem?_eq_getElem hlt
  refine ⟨_, hnode, ?_⟩
  rw [running?, hnode, Option.filter_some] at hnone
  simpa using hnone

theorem outOfReach (h : net.IsShut id) (horderly : net.Orderly) : net.OutOfReach id := by
  obtain ⟨node, hnode, hclosed⟩ := h.getElem?
  have hcluster : node.cluster = .error .stopped := by rw [ServerNode.cluster, if_pos hclosed]
  constructor
  · exact fun url hlookup => h.not_mem_listeners horderly url (mem_of_lookup hlookup)
  · exact h.not_mem_candidates horderly
  · exact fun _ _ _ hconnect => h.server_ne_of_connect horderly hconnect
  · intro now user command
    simp only [Network.serve, hnode, hcluster]
  · intro now user command
    exact ⟨node, hnode, by simp only [Network.manage, hnode, hcluster]⟩
  · exact close_of_running?_eq_none h.2

end IsShut

/-- An event that stops a server leaves it stopped. -/
theorem Stops.isShut (hstops : net.Stops id event) (h : net.Orderly) :
    (net.after event).IsShut id := by
  cases event with
  | close i =>
    obtain ⟨rfl, hlt⟩ := hstops
    refine ⟨(length_close _ _).symm ▸ hlt, ?_⟩
    rw [after, running?_close, if_pos rfl]
  | manage now client command =>
    cases command with
    | remove member =>
      obtain ⟨hok, k, hclient, ha⟩ := hstops
      obtain ⟨node, hnode, ha⟩ := Option.bind_eq_some_iff.1 ha
      obtain ⟨left, hleft⟩ : ∃ left, (net.manage now client (.remove member)).2 = .ok left := by
        cases hreply : (net.manage now client (.remove member)).2 with
        | error e =>
          rw [hreply] at hok
          cases hok
        | ok left => exact ⟨left, rfl⟩
      obtain ⟨node', k', c, c', hnode', hk', hc, -, heq⟩ := manage_remove_eq_ok hleft
      obtain rfl : k' = k := by simpa [hnode', hk', Except.toOption] using hclient
      rw [after, heq]
      refine ⟨(length_foldl_shut _ _).symm ▸ (List.getElem?_eq_some_iff.1 hnode).1, ?_⟩
      rw [running?_stopMember]
      split
      · rfl
      · next hrest =>
        -- a server that runs would have been found by one of its URLs
        by_contra hrunning
        obtain ⟨node₁, hnode₁⟩ := Option.ne_none_iff_exists'.1 hrunning
        obtain rfl : node₁ = node :=
          Option.some.inj ((running?_eq_some.1 hnode₁).1.symm.trans hnode)
        exact hrest (h.mem_runningAs hnode₁ ha)
    | list | add => exact hstops.elim
  | bindService | route | start | retry | serve => exact hstops.elim

/-- In every network that can come about, at a URL listens the server that runs and advertises it,
    no two servers that run share a URL, and who runs as a member is listed. A server that was
    stopped stays out of reach whatever happens later. -/
theorem listeners_agree_with_servers (ids : IdSource) (events : List Event) :
    let net := ({ ids } : Network).afterAll events
    (∀ url id, (url, id) ∈ net.listeners →
      ∃ node, net.running? id = some node ∧ url ∈ node.config.urls) ∧
    (∀ id node, net.running? id = some node → ∀ url ∈ node.config.urls,
      net.listeners.lookup url = some id) ∧
    (∀ id id' node node', net.running? id = some node → net.running? id' = some node' →
      ∀ url ∈ node.config.urls, url ∈ node'.config.urls → id = id') ∧
    (∀ id node a, net.running? id = some node → node.attachment = some a →
      ∃ c, net.clusters[a.cluster]? = some c ∧ ∃ m ∈ c.members, m.id = a.member) ∧
    ∀ id event, net.Stops id event → ∀ later,
      ((net.after event).afterAll later).OutOfReach id := by
  intro net
  have h : net.Orderly := (Orderly.of_empty ids).afterAll events
  have howned (id : NodeId) (node : ServerNode) (hid : net.running? id = some node) :
      ∀ url ∈ node.config.urls, net.listeners.lookup url = some id :=
    h.owned (settings?_eq_some.2 ⟨node, hid, rfl⟩)
  refine ⟨fun url id hentry => ?_, howned, ?_, ?_, ?_⟩
  · obtain ⟨config, hid, hurl⟩ := h.advertised hentry
    obtain ⟨node, hnode, rfl⟩ := settings?_eq_some.1 hid
    exact ⟨node, hnode, hurl⟩
  · intro id id' node node' hid hid' url hurl hurl'
    have hsame := (howned id node hid url hurl).symm.trans (howned id' node' hid' url hurl')
    exact Option.some.inj hsame
  · intro id node a hid ha
    obtain ⟨c, hc, hmember⟩ := h.listed (attachment?_eq_some.2 ⟨node, hid, ha⟩)
    exact ⟨c, hc, Cluster.hasMember_iff.1 hmember⟩
  · intro id event hstops later
    have horderly : (net.after event).Orderly := h.afterAll [event]
    exact ((hstops.isShut h).afterAll later).outOfReach (horderly.afterAll later)

/-- A URL of a host. -/
def urlOf (host : String) : Url :=
  { scheme := "https", authority := some { host := some (.domain host) }, path := "/" }

/-- One server founds a cluster and registers another one, which joins. -/
def pairing (founder joiner : String) : List Event :=
  [ .start {} 0
      { name := founder, dataDir := founder, initialCluster := ⟨[(founder, urlOf founder)]⟩,
        advertisedPeerUrls := [urlOf founder] },
    .manage 0 ⟨0, administrator⟩ (.add [urlOf joiner]),
    .start {} 0
      { name := joiner, dataDir := joiner, initialCluster := ⟨[(founder, urlOf founder)]⟩,
        founding := .existing, advertisedPeerUrls := [urlOf joiner] } ]

/-- Two servers run, and one stops because its member is removed. -/
theorem listeners_agree_with_servers_removed_member :
    let net := ({ ids := { draw := (· + 1) } } : Network).afterAll (pairing "a" "b")
    let removal : Event := .manage 0 ⟨0, administrator⟩ (.remove 2)
    net.listeners.lookup (urlOf "b") = some 1 ∧ net.Stops 1 removal ∧
      (net.after removal).OutOfReach 1 := by
  intro net removal
  have hstops : net.Stops 1 removal := ⟨by decide +kernel, 0, by decide +kernel, by decide +kernel⟩
  obtain ⟨-, -, -, -, hreach⟩ :=
    listeners_agree_with_servers { draw := (· + 1) } (pairing "a" "b")
  exact ⟨by decide +kernel, hstops, hreach 1 removal hstops []⟩

end ClusterVault.Network
