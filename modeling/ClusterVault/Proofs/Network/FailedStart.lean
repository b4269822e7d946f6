import ClusterVault.Proofs.Network.Restart

/-!
# Starts that fail

A server takes its URLs before it is known whether it can come up. This module says what bars it from
coming up, that a server that was barred takes back whatever it did, and that one that was not is up.

## Main definitions

- `Network.Bars`, `Network.Prevents`: why a server cannot come up, and why it cannot start
- `Network.Untouched`: nothing is left of a start
- `Network.IsUp`: a server listens, and is a member or waits to become one

## Main statements

- `Network.start_all_or_nothing`: a start either leaves nothing or a server that is up, in every
  network that can come about

## Design notes

A cluster that a server has asked in vain has looked at the clock, so that leases may have ended in
it. Nothing else about it has changed.
-/

namespace ClusterVault.Network

/-- Why a server that has its URLs cannot come up. -/
inductive Bars (net : Network) (config : ServerConfig) : EngineError → Prop
  /-- Its member has been removed. -/
  | departed {r : Attachment} (hfounding : config.founding = .new)
    (hr : net.remembered? config.dataDir = some r) (hgone : ¬net.Lists r) :
    net.Bars config (.notFound (.departed r.member config.dataDir))
  | notListed (hfounding : config.founding = .new) (hnew : net.remembered? config.dataDir = none)
    (hunlisted : config.initialCluster.get? config.name = none) :
    net.Bars config (.invalidArgument (.notListed config.name config.initialCluster))
  | notAdvertised {url : Url} (hfounding : config.founding = .new)
    (hnew : net.remembered? config.dataDir = none)
    (hlisted : config.initialCluster.get? config.name = some url)
    (hhidden : url ∉ config.advertisedPeerUrls) :
    net.Bars config (.invalidArgument (.notAdvertised config.name url))
  /-- The cluster that it reaches lists no member at its URLs. -/
  | unregistered {k : ClusterId} {c : Cluster} (hfounding : config.founding = .existing)
    (hreached : net.reachableCluster? config = some k) (hc : net.clusters[k]? = some c)
    (hstrange : ∀ m ∈ c.members, ∀ url ∈ m.peerUrls, url ∉ config.advertisedPeerUrls) :
    net.Bars config (.notFound (.registration config.advertisedPeerUrls))

/-- Why a server cannot start. -/
inductive Prevents (net : Network) (files : FileSystem) (config : ServerConfig) :
    EngineError → Prop
  | noPeerUrls (hnone : config.advertisedPeerUrls = []) :
    net.Prevents files config (.invalidArgument (.noAdvertisedPeerUrls config.name))
  | directory {fault : FileFault} (hfault : (files.makeDirectories config.dataDir).2 = some fault) :
    net.Prevents files config (.dataDirectory fault)
  | urlTaken {url : Url} (hurl : url ∈ config.urls) (htaken : net.isListening url) :
    net.Prevents files config (.alreadyExists (.listener url))
  | barred {e : EngineError} (hbars : net.Bars config e) : net.Prevents files config e

/-- Nothing is left of a start but a server that is closed and waits for nothing, and no cluster has
    changed but by the time that has passed. -/
structure Untouched (net net' : Network) (now : Instant) (config : ServerConfig) : Prop where
  nodes : net'.nodes = net.nodes ∨ net'.nodes = net.nodes ++ [{ config, closed := true }]
  clusters : net'.clusters = net.clusters ∨
    ∃ k c, net.clusters[k]? = some c ∧ net'.clusters = net.clusters.set k (c.expire now)
  listeners : net'.listeners = net.listeners
  dataDirs : net'.dataDirs = net.dataDirs
  services : net'.services = net.services
  ids : net'.ids = net.ids
  turn : net'.turn = net.turn

/-- A server listens at all of its URLs. It is a member that its cluster lists, or it waits and
    tries again. -/
structure IsUp (net : Network) (now : Instant) (config : ServerConfig) (id : NodeId) : Prop where
  listens : ∀ url ∈ config.urls, net.listener? url = some id
  joinedOrWaits :
    (∃ a, net.running? id = some { config, attachment := some a } ∧ net.Lists a) ∨
      net.running? id = some { config, retryAt := some (now + retryInterval) }

variable {net net' taken : Network} {id i : NodeId} {k : ClusterId} {c : Cluster} {a : Attachment}
  {config : ServerConfig} {files : FileSystem} {now : Instant} {e : EngineError} {url : Url}

/-! ## What bars a server

A server is barred by one thing at a time: by its past, by its own settings, or by the cluster that
it reaches.
-/

theorem Bars.not_lists (h : net.Bars config e) (hfounding : config.founding = .new)
    (hr : net.remembered? config.dataDir = some a) : ¬net.Lists a := by
  rcases h with ⟨-, hr', hgone⟩ | ⟨-, hnew, -⟩ | ⟨-, hnew, -, -⟩ | ⟨hother, -, -, -⟩
  · rw [hr] at hr'
    cases hr'
    exact hgone
  · rw [hr] at hnew
    cases hnew
  · rw [hr] at hnew
    cases hnew
  · rw [hfounding] at hother
    cases hother

theorem Bars.not_mem_advertised (h : net.Bars config e) (hfounding : config.founding = .new)
    (hnew : net.remembered? config.dataDir = none)
    (hlisted : config.initialCluster.get? config.name = some url) :
    url ∉ config.advertisedPeerUrls := by
  rcases h with ⟨-, hr, -⟩ | ⟨-, -, hunlisted⟩ | ⟨-, -, hlisted', hhidden⟩ | ⟨hother, -, -, -⟩
  · rw [hnew] at hr
    cases hr
  · rw [hlisted] at hunlisted
    cases hunlisted
  · rw [hlisted] at hlisted'
    cases hlisted'
    exact hhidden
  · rw [hfounding] at hother
    cases hother

theorem Bars.exists_stranger (h : net.Bars config e) (hfounding : config.founding = .existing) :
    ∃ k c, net.reachableCluster? config = some k ∧ net.clusters[k]? = some c ∧
      ∀ m ∈ c.members, ∀ url ∈ m.peerUrls, url ∉ config.advertisedPeerUrls := by
  rcases h with ⟨hnew, -, -⟩ | ⟨hnew, -, -⟩ | ⟨hnew, -, -, -⟩ | ⟨-, hreached, hc, hstrange⟩
  · rw [hfounding] at hnew
    cases hnew
  · rw [hfounding] at hnew
    cases hnew
  · rw [hfounding] at hnew
    cases hnew
  · exact ⟨_, _, hreached, hc, hstrange⟩

/-! ## Coming up -/

/-- How coming up can end: a server is barred, becomes a member, or waits. -/
inductive CameUp (net : Network) (now : Instant) (id : NodeId) (config : ServerConfig) :
    Network × Except EngineError Unit → Prop
  | barred {e : EngineError} (clusters : List Cluster) (hbars : net.Bars config e)
    (hclusters : clusters = net.clusters ∨
      ∃ k c, net.clusters[k]? = some c ∧ clusters = net.clusters.set k (c.expire now)) :
    net.CameUp now id config ({ net with clusters }, .error e)
  | attached {before : Network} {a : Attachment} (hfree : ∀ e, ¬net.Bars config e)
    (hlists : before.Lists a) (hnodes : before.nodes = net.nodes)
    (hlisteners : before.listeners = net.listeners) :
    net.CameUp now id config (before.attach id config.dataDir a, .ok ())
  | waits (hfree : ∀ e, ¬net.Bars config e) :
    net.CameUp now id config
      (net.updateNode id fun n => { n with retryAt := some (now + retryInterval) }, .ok ())

theorem cameUp_restore (hfounding : config.founding = .new)
    (hr : net.remembered? config.dataDir = some a) (now : Instant) (id : NodeId) :
    net.CameUp now id config (net.restore now id config a) := by
  cases hc : net.clusters[a.cluster]? with
  | none =>
    have hgone : ¬net.Lists a := by
      rintro ⟨c, hc', -⟩
      rw [hc] at hc'
      cases hc'
    simp only [restore, hc]
    exact .barred net.clusters (.departed hfounding hr hgone) (.inl rfl)
  | some c =>
    rw [restore_eq hc]
    split
    · next hmember =>
      exact .attached (fun _ h => h.not_lists hfounding hr ⟨c, hc, hmember⟩)
        ⟨_, clusters_setCluster hc _, hmember⟩ rfl rfl
    · next hmember =>
      have hgone : ¬net.Lists a := by
        rintro ⟨c', hc', hlisted⟩
        rw [hc] at hc'
        cases hc'
        exact hmember hlisted
      exact .barred _ (.departed hfounding hr hgone) (.inr ⟨_, c, hc, rfl⟩)

theorem bars_of_bootstrap_eq_error (hfounding : config.founding = .new)
    (hnew : net.remembered? config.dataDir = none) (h : net.bootstrap id config = .error e) :
    net.Bars config e := by
  unfold bootstrap at h
  split at h
  · next hunlisted =>
    cases h
    exact .notListed hfounding hnew hunlisted
  · next hlisted =>
    split at h
    · next hhidden =>
      cases h
      exact .notAdvertised hfounding hnew hlisted (by simpa using hhidden)
    · cases h

/-- Whoever joins shares a URL with a member, or is not listed. -/
theorem attachMember_cases (c : Cluster) (name : String) (peerUrls clientUrls : List Url) :
    (c.attachMember name peerUrls clientUrls = .error (.notFound (.registration peerUrls)) ∧
      ∀ m ∈ c.members, ∀ url ∈ m.peerUrls, url ∉ peerUrls) ∨
    ∃ member c', c.attachMember name peerUrls clientUrls = .ok (member, c') ∧
      ∃ m ∈ c.members, ∃ url ∈ m.peerUrls, url ∈ peerUrls := by
  unfold Cluster.attachMember
  cases hfound : c.members.find? (Cluster.isRegisteredAt peerUrls) with
  | none =>
    refine .inl ⟨rfl, fun m hm url hurl hmem => ?_⟩
    refine List.find?_eq_none.1 hfound m hm (List.any_eq_true.2 ⟨url, hurl, ?_⟩)
    simpa using hmem
  | some m =>
    have hshared : Cluster.isRegisteredAt peerUrls m = true := List.find?_some hfound
    obtain ⟨url, hurl, hmem⟩ := List.any_eq_true.1 hshared
    exact .inr ⟨_, _, rfl, m, List.mem_of_find?_eq_some hfound, url, hurl, by simpa using hmem⟩

theorem cameUp_joinOrWait (hfounding : config.founding = .existing) (net : Network) (now : Instant)
    (id : NodeId) : net.CameUp now id config (net.joinOrWait now id config) := by
  unfold joinOrWait rejoin
  cases hreached : net.reachableCluster? config with
  | none =>
    refine .waits fun e h => ?_
    obtain ⟨k, c, hk, -, -⟩ := h.exists_stranger hfounding
    rw [hreached] at hk
    cases hk
  | some k =>
    dsimp only
    cases hc : net.clusters[k]? with
    | none =>
      refine .waits fun e h => ?_
      obtain ⟨k', c, hk, hc', -⟩ := h.exists_stranger hfounding
      rw [hreached] at hk
      cases hk
      rw [hc] at hc'
      cases hc'
    | some c =>
      dsimp only
      rcases attachMember_cases (c.expire now) config.name config.advertisedPeerUrls
          config.advertisedClientUrls with ⟨hattach, hstrange⟩ | ⟨member, c', hattach, hshared⟩
      · rw [hattach]
        exact .barred _ (.unregistered hfounding hreached hc hstrange) (.inr ⟨k, c, hc, rfl⟩)
      · rw [hattach]
        refine .attached (fun e h => ?_)
          ⟨c', clusters_setCluster hc c', Cluster.hasMember_attached hattach⟩ rfl rfl
        obtain ⟨k', c₀, hk, hc₀, hstrange⟩ := h.exists_stranger hfounding
        obtain ⟨m, hm, url, hurl, hmem⟩ := hshared
        rw [hreached] at hk
        cases hk
        rw [hc] at hc₀
        cases hc₀
        exact hstrange m hm url hurl hmem

theorem cameUp_comeUp (net : Network) (now : Instant) (id : NodeId) (config : ServerConfig) :
    net.CameUp now id config (net.comeUp now id config) := by
  unfold comeUp
  split
  · next hfounding => exact cameUp_joinOrWait hfounding net now id
  · next hfounding =>
    split
    · next hr => exact cameUp_restore hfounding hr now id
    · next hnew =>
      cases hfound : net.bootstrap id config with
      | ok net' =>
        obtain ⟨url, m, hurl, hadvertised, hm, -, rfl⟩ := bootstrap_eq_ok hfound
        exact .attached (fun _ h => h.not_mem_advertised hfounding hnew hurl hadvertised)
          ⟨_, List.getElem?_concat_length, Cluster.hasMember_iff.2 ⟨m, hm, rfl⟩⟩ rfl rfl
      | error e =>
        exact .barred net.clusters (bars_of_bootstrap_eq_error hfounding hnew hfound) (.inl rfl)

/-! ## Starting -/

theorem listen_eq_error {urls : List Url} (h : net.listen id urls = .error e) :
    ∃ url ∈ urls, net.isListening url ∧ e = .alreadyExists (.listener url) := by
  unfold listen at h
  split at h
  · next url hfound =>
    cases h
    exact ⟨url, List.mem_of_find?_eq_some hfound, List.find?_some hfound, rfl⟩
  · cases h

/-- A server that is still to take its URLs listens nowhere. -/
theorem Orderly.isListening_concat (h : net.Orderly) (config : ServerConfig) (url : Url) :
    isListening { net with nodes := net.nodes ++ [({ config } : ServerNode)] } url =
      net.isListening url := by
  rw [isListening, isListening, listener?, listener?]
  cases hlookup : net.listeners.lookup url with
  | none => rfl
  | some i =>
    have hne : i ≠ net.nodes.length :=
      Nat.ne_of_lt (h.lt_of_mem_listeners (mem_of_lookup hlookup))
    rw [Option.filter_some, Option.filter_some, running?_concat, if_neg hne]

/-- A server that has taken its URLs is told of the same clusters as before. -/
theorem Orderly.reachableCluster?_take (h : net.Orderly)
    (hlisten : { net with nodes := net.nodes ++ [({ config } : ServerNode)] }.listen
      net.nodes.length config.urls = .ok taken) :
    taken.reachableCluster? config = net.reachableCluster? config := by
  obtain ⟨rfl, -, hfree⟩ := take_eq_ok hlisten
  have hsame (url : Url) : clusterAt? { net with
      nodes := net.nodes ++ [({ config } : ServerNode)]
      listeners := config.urls.foldl (fun table url => setEntry url net.nodes.length table)
        net.listeners } url = net.clusterAt? url := by
    simp only [clusterAt?, lookup_foldl_setEntry]
    split
    · next hurl =>
      -- the server itself is no member yet, and nobody else had the URL
      have hnobody : net.listeners.lookup url = none := by
        rw [Option.eq_none_iff_forall_ne_some]
        intro i hi
        obtain ⟨config', hconfig', -⟩ := h.advertised (mem_of_lookup hi)
        rw [settings?, hfree url hurl i hi] at hconfig'
        cases hconfig'
      rw [hnobody, Option.bind_some, List.getElem?_concat_length]
      rfl
    · cases hlookup : net.listeners.lookup url with
      | none => rfl
      | some i =>
        rw [Option.bind_some, Option.bind_some,
          List.getElem?_append_left (h.lt_of_mem_listeners (mem_of_lookup hlookup))]
  simp only [reachableCluster?, hsame]

theorem Orderly.bars_take (h : net.Orderly)
    (hlisten : { net with nodes := net.nodes ++ [({ config } : ServerNode)] }.listen
      net.nodes.length config.urls = .ok taken) : taken.Bars config e ↔ net.Bars config e := by
  have hreached := h.reachableCluster?_take hlisten
  obtain ⟨heq, -, -⟩ := take_eq_ok hlisten
  have hclusters : taken.clusters = net.clusters := by rw [heq]
  have hremembered : taken.remembered? = net.remembered? := by rw [heq]; rfl
  have hlists : taken.Lists = net.Lists := by rw [heq]; rfl
  constructor
  · rintro (⟨hnew, hr, hgone⟩ | ⟨hnew, hr, hlisted⟩ | ⟨hnew, hr, hlisted, hhidden⟩ |
      ⟨hjoins, hk, hc, hstrange⟩)
    · exact .departed hnew (hremembered ▸ hr) (hlists ▸ hgone)
    · exact .notListed hnew (hremembered ▸ hr) hlisted
    · exact .notAdvertised hnew (hremembered ▸ hr) hlisted hhidden
    · exact .unregistered hjoins (hreached ▸ hk) (hclusters ▸ hc) hstrange
  · rintro (⟨hnew, hr, hgone⟩ | ⟨hnew, hr, hlisted⟩ | ⟨hnew, hr, hlisted, hhidden⟩ |
      ⟨hjoins, hk, hc, hstrange⟩)
    · exact .departed hnew (hremembered ▸ hr) (hlists ▸ hgone)
    · exact .notListed hnew (hremembered ▸ hr) hlisted
    · exact .notAdvertised hnew (hremembered ▸ hr) hlisted hhidden
    · exact .unregistered hjoins (hreached ▸ hk) (hclusters ▸ hc) hstrange

theorem running?_attach (net : Network) (id : NodeId) (dataDir : String) (a : Attachment) :
    (net.attach id dataDir a).running? id =
      (net.running? id).map fun n => { n with attachment := some a } := by
  rw [attach, running?_updateNode, if_pos rfl]
  · rfl
  · exact fun _ => rfl

/-- A start that got as far as taking URLs. -/
theorem Orderly.start_of_take (h : net.Orderly) {files' : FileSystem}
    (hpeers : config.advertisedPeerUrls ≠ [])
    (hdirectory : files.makeDirectories config.dataDir = (files', none))
    (hlisten : { net with nodes := net.nodes ++ [({ config } : ServerNode)] }.listen
      net.nodes.length config.urls = .ok taken) (now : Instant) :
    (∃ e, (net.start files now config).2.2 = .error e ∧ net.Bars config e ∧
        net.Untouched (net.start files now config).1 now config) ∨
      ((net.start files now config).2.2 = .ok net.nodes.length ∧ (∀ e, ¬net.Bars config e) ∧
        (net.start files now config).1.IsUp now config net.nodes.length) := by
  have hbars (e : EngineError) : taken.Bars config e ↔ net.Bars config e := h.bars_take hlisten
  have hclose := h.close_taken hlisten
  obtain ⟨heq, hrunning, -⟩ := take_eq_ok hlisten
  have hnew : taken.running? net.nodes.length = some { config } :=
    (hrunning _).trans (if_pos rfl)
  have hlookup : ∀ url ∈ config.urls, taken.listeners.lookup url = some net.nodes.length := by
    intro url hurl
    rw [heq, lookup_foldl_setEntry, if_pos hurl]
  -- a network that has the table of listeners and in which the server runs
  have hlistens {up : Network} {node : ServerNode} (htable : up.listeners = taken.listeners)
      (hup : up.running? net.nodes.length = some node) :
      ∀ url ∈ config.urls, up.listener? url = some net.nodes.length := by
    intro url hurl
    rw [listener?, htable, hlookup url hurl, Option.filter_some, hup]
    rfl
  rw [start_eq_of_take hpeers hdirectory hlisten]
  have hcame := cameUp_comeUp taken now net.nodes.length config
  generalize taken.comeUp now net.nodes.length config = result at hcame
  cases hcame with
  | @barred e clusters hbarred hclusters =>
    refine .inl ⟨e, rfl, (hbars e).1 hbarred, ?_⟩
    dsimp only
    rw [hclose clusters]
    rw [heq] at hclusters
    exact ⟨.inr rfl, hclusters, rfl, rfl, rfl, rfl, rfl⟩
  | @attached before a hfree hlists hnodes hlisteners =>
    have hup : (before.attach net.nodes.length config.dataDir a).running? net.nodes.length =
        some { config, attachment := some a } := by
      rw [running?_attach, running?_of_nodes_eq hnodes, hnew]
      rfl
    exact .inr ⟨rfl, fun e he => hfree e ((hbars e).2 he), hlistens hlisteners hup,
      .inl ⟨a, hup, hlists⟩⟩
  | waits hfree =>
    have hup : (taken.updateNode net.nodes.length fun n =>
        { n with retryAt := some (now + retryInterval) }).running? net.nodes.length =
          some { config, retryAt := some (now + retryInterval) } := by
      rw [running?_updateNode, if_pos rfl, hnew]
      · rfl
      · exact fun _ => rfl
    exact .inr ⟨rfl, fun e he => hfree e ((hbars e).2 he), hlistens rfl hup, .inr hup⟩

/-- A start that ends before there is a server leaves nothing. -/
theorem Prevents.refused (hprevents : net.Prevents files config e)
    (hstart : ∃ files', net.start files now config = (net, files', .error e)) :
    ∃ e, (net.start files now config).2.2 = .error e ∧ net.Prevents files config e ∧
      net.Untouched (net.start files now config).1 now config := by
  obtain ⟨files', hstart⟩ := hstart
  rw [hstart]
  exact ⟨e, rfl, hprevents, .inl rfl, .inl rfl, rfl, rfl, rfl, rfl, rfl⟩

/-- In every network that can come about, a start fails exactly if something prevents it. If it fails,
    it leaves the table of listeners, the data directories, the clusters and the other servers as they
    were, up to leases that have ended, and no server that is still at work. If it succeeds, the
    server listens at all of its URLs, and it is a member that is listed or waits to become one. -/
theorem start_all_or_nothing (ids : IdSource) (events : List Event) (files : FileSystem)
    (now : Instant) (config : ServerConfig) :
    let net := ({ ids } : Network).afterAll events
    let net' := (net.start files now config).1
    let result := (net.start files now config).2.2
    (∃ e, result = .error e ∧ net.Prevents files config e ∧ net.Untouched net' now config) ∨
      (result = .ok net.nodes.length ∧ (∀ e, ¬net.Prevents files config e) ∧
        net'.IsUp now config net.nodes.length) := by
  intro net net' result
  have h : net.Orderly := (Orderly.of_empty ids).afterAll events
  by_cases hpeers : config.advertisedPeerUrls = []
  · refine .inl ((Prevents.noPeerUrls hpeers).refused ⟨files, ?_⟩)
    rw [start, hpeers]
    rfl
  have hsome : config.advertisedPeerUrls.isEmpty = false := List.isEmpty_eq_false_iff.2 hpeers
  obtain ⟨files', fault, hdirectory⟩ : ∃ files' fault,
      files.makeDirectories config.dataDir = (files', fault) := ⟨_, _, rfl⟩
  cases fault with
  | some fault =>
    refine .inl ((Prevents.directory (by rw [hdirectory])).refused ⟨files', ?_⟩)
    simp only [start, hsome, hdirectory, Bool.false_eq_true, if_false]
  | none =>
    cases hlisten : { net with nodes := net.nodes ++ [({ config } : ServerNode)] }.listen
        net.nodes.length config.urls with
    | error e =>
      obtain ⟨url, hurl, htaken, rfl⟩ := listen_eq_error hlisten
      rw [h.isListening_concat] at htaken
      refine .inl ((Prevents.urlTaken hurl htaken).refused ⟨files', ?_⟩)
      simp only [start, hsome, hdirectory, hlisten, Bool.false_eq_true, if_false]
    | ok taken =>
      rcases h.start_of_take hpeers hdirectory hlisten now with hfailed | ⟨hok, hfree, hup⟩
      · obtain ⟨e, he, hbars, huntouched⟩ := hfailed
        exact .inl ⟨e, he, .barred hbars, huntouched⟩
      · refine .inr ⟨hok, ?_, hup⟩
        rintro e (hnone | hfault | ⟨hurl, htaken⟩ | hbars)
        · exact hpeers hnone
        · rw [hdirectory] at hfault
          cases hfault
        · rw [← h.isListening_concat config, (listen_eq_ok hlisten).1 _ hurl] at htaken
          cases htaken
        · exact hfree e hbars

end ClusterVault.Network
