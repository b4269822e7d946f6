import ClusterVault.Proofs.Node.Repairing

/-!
# Coming back

A node whose server is gone joins again, whatever it has left behind. It is led to the cluster by its
service, repairs the membership, starts a server that reaches the cluster through one of its peers, and
sets up access control. Each of these is answered at once, so an undisturbed launch has one course only,
and this module follows it to its end.

## Main definitions

- `Launcher.CanRejoin`: what a node needs to come back
- `ServiceNames.IsReadable`: lower-case names whose URLs can be read, though not always as they are
  written

## Main statements

- `Deployment.completes_rejoin`: the course of such a launch
- `Fleet.rejoin_succeeds`: a node comes back, and is registered as it should be
- `Fleet.rejoin_fails`: what keeps a node from it
-/

namespace ClusterVault

/-- A node whose own server is gone finds what it needs to come back: its certificate, a directory,
    and a server that runs in the only cluster and that the service leads to. -/
structure Launcher.CanRejoin (l : Launcher) (name : String) (d : Deployment) : Prop where
  identity : d.machine.files.readIdentity l.options.tls.certificate = .ok administrator
  directory : (d.machine.files.makeDirectories l.options.dataDir).2 = none
  bound : (d.network name).services.lookup l.options.names.internal = some l.options.names.headless
  single : (d.network name).clusters.length ≤ 1
  stopped : (d.network name).HasStopped l.options.nodeName
  others : ∃ node ∈ (d.network name).nodes, node.isAttached

instance (l : Launcher) (name : String) (d : Deployment) : Decidable (l.CanRejoin name d) :=
  decidable_of_iff
    (d.machine.files.readIdentity l.options.tls.certificate = .ok administrator ∧
      (d.machine.files.makeDirectories l.options.dataDir).2 = none ∧
      (d.network name).services.lookup l.options.names.internal =
        some l.options.names.headless ∧
      (d.network name).clusters.length ≤ 1 ∧
      (d.network name).HasStopped l.options.nodeName ∧
      ∃ node ∈ (d.network name).nodes, node.isAttached)
    ⟨fun ⟨h₁, h₂, h₃, h₄, h₅, h₆⟩ => ⟨h₁, h₂, h₃, h₄, h₅, h₆⟩,
      fun h => ⟨h.identity, h.directory, h.bound, h.single, h.stopped, h.others⟩⟩

namespace Launcher.CanRejoin

variable {l : Launcher} {name : String} {d : Deployment}

theorem exists_attachment? (h : l.CanRejoin name d) :
    ∃ i a, (d.network name).attachment? i = some a := by
  obtain ⟨node, hmem, hattached⟩ := h.others
  obtain ⟨i, hnode⟩ := List.getElem?_of_mem hmem
  rw [ServerNode.isAttached, Bool.and_eq_true, Bool.not_eq_true'] at hattached
  obtain ⟨a, ha⟩ := Option.isSome_iff_exists.1 hattached.2
  exact ⟨i, a, Network.attachment?_eq_some.2
    ⟨node, Network.running?_eq_some.2 ⟨hnode, hattached.1⟩, ha⟩⟩

/-- It does not matter where a service name leads to. -/
theorem route (h : l.CanRejoin name d) (turn : Nat) :
    l.CanRejoin name (d.setNetwork name { d.network name with turn }) := by
  have hnetwork := Deployment.network_setNetwork d name { d.network name with turn }
  constructor
  · exact h.identity
  · exact h.directory
  · rw [hnetwork]
    exact h.bound
  · rw [hnetwork]
    exact h.single
  · rw [hnetwork]
    exact h.stopped
  · rw [hnetwork]
    exact h.others

end Launcher.CanRejoin

namespace Network.Hosts

variable {names : ServiceNames} {net : Network} {c c' : Cluster} {node : String} {url : Url}
  {m : Member}

theorem route (h : net.Hosts names c) (turn : Nat) : Network.Hosts names { net with turn } c where
  orderly := h.orderly.of_settings?_eq rfl rfl h.orderly.listed
  registers := h.registers.of_configs_eq rfl rfl
  sound := h.sound
  clusters_eq := h.clusters_eq

/-- A new entry in place of the one that a node has left behind takes nothing from who runs. -/
theorem orderly_registered (h : net.Hosts names c)
    (hnobody : ∀ m ∈ c.members, m.isOf node url → ∀ i, net.attachment? i ≠ some ⟨0, m.id⟩)
    (hmembers : c'.members = c.members.filter (!·.isOf node url) ++ [m]) (ids : IdSource) :
    Orderly { net.setCluster 0 c' with ids } := by
  refine h.orderly.of_settings?_eq rfl rfl fun {i a} hi => ?_
  have hi : net.attachment? i = some a := hi
  obtain ⟨hzero, m', hm', hid⟩ := h.of_attachment? hi
  have ha : a = ⟨0, m'.id⟩ := by rw [← hzero, hid]
  have hother : (!m'.isOf node url) = true := by
    rw [Bool.not_eq_true', ← Bool.not_eq_true]
    exact fun hof => hnobody m' hm' hof i (ha ▸ hi)
  refine ⟨c', ?_, Cluster.hasMember_iff.2 ⟨m', ?_, hid⟩⟩
  · rw [hzero]
    exact clusters_setCluster h.getElem?_zero c'
  · rw [hmembers]
    exact List.mem_append_left _ (List.mem_filter.2 ⟨hm', hother⟩)

/-- A node that has been registered in place of what it has left behind starts and joins. -/
theorem exists_start {s : NodeId} {a : Attachment} {config other : ServerConfig}
    {clientUrl peerUrl : Url} {id : Nat} {files files' : FileSystem} (h : net.Hosts names c)
    (hnames : names.AsWritten) (hconfig : config.Conforms names)
    (hfounding : config.founding = .existing) (hurl : names.peerUrl config.name = .ok url)
    (hclientUrl : names.clientUrl config.name = .ok clientUrl)
    (hstopped : net.HasStopped config.name)
    (hnobody : ∀ m ∈ c.members, m.isOf config.name url → ∀ i, net.attachment? i ≠ some ⟨0, m.id⟩)
    (hmembers : c'.members = c.members.filter (!·.isOf config.name url) ++ [⟨id, "", [url], []⟩])
    (hdirectory : files.makeDirectories config.dataDir = (files', none))
    (hattached : net.attachment? s = some a) (hother : net.settings? s = some other)
    (hpeerUrl : peerUrl ∈ other.urls)
    (hlisted : config.initialCluster.get? other.name = some peerUrl) (ids : IdSource)
    (now : Instant) :
    ∃ net', { net.setCluster 0 c' with ids }.start files now config =
        (net', files', .ok net.nodes.length) ∧
      net'.clusters = [{ c'.expire now with
        members := c.members.filter (!·.isOf config.name url) ++
          [⟨id, config.name, [url], [clientUrl]⟩] }] ∧
      net'.settings? net.nodes.length = some config ∧
      net'.attachment? net.nodes.length = some ⟨0, id⟩ ∧
      ∀ i, i ≠ net.nodes.length → net'.attachment? i = net.attachment? i ∧
        net'.settings? i = net.settings? i := by
  obtain ⟨peer, hpeer, hpeers, -⟩ := hconfig.peerUrls
  obtain rfl : peer = url := Except.ok.inj (hpeer.symm.trans hurl)
  obtain ⟨client, hclient, hclients⟩ := hconfig.clientUrls
  obtain rfl : client = clientUrl := Except.ok.inj (hclient.symm.trans hclientUrl)
  have hfree : ∀ own ∈ config.urls, net.listeners.lookup own = none := by
    intro own hown
    rw [ServerConfig.urls, hpeers, hclients] at hown
    refine h.lookup_eq_none hnames hstopped ?_
    rw [hnames.peerUrl hconfig.isNode, Except.ok.injEq] at hpeer
    rw [hnames.clientUrl hconfig.isNode, Except.ok.injEq] at hclient
    rw [hpeer, hclient]
    simpa using hown
  have hattach : (c'.expire now).attachMember config.name config.advertisedPeerUrls
      config.advertisedClientUrls = .ok (id, { c'.expire now with
        members := c.members.filter (!·.isOf config.name peer) ++
          [⟨id, config.name, [peer], [client]⟩] }) := by
    rw [hpeers, hclients]
    refine Cluster.attachMember_added hmembers fun m hm hmem => ?_
    simpa [Member.isOf, hmem] using (List.mem_filter.1 hm).2
  exact (h.orderly_registered hnobody hmembers ids).exists_start hfounding
    (hpeers ▸ List.cons_ne_nil _ _) hdirectory hfree (clusters_setCluster_zero h.clusters_eq c')
    hlisted (hstopped.name_ne hother) hattached hother hpeerUrl hattach

end Network.Hosts

namespace Deployment

variable {names : ServiceNames} {d : Deployment} {name : String} {now : Instant} {c : Cluster}
  {url clientUrl : Url} {l : Launcher}

/-- A node whose server is gone comes back. It is registered anew, its server runs as that member,
    and otherwise nothing has changed but that the checks are on. -/
theorem completes_rejoin (h : (d.network name).Hosts names c) (hnames : names.AsWritten)
    (hl : l.Conforms names) (hself : (d.network name).RunAsThemselves) (hrejoin : l.CanRejoin name d)
    (hurl : names.peerUrl l.options.nodeName = .ok url)
    (hclientUrl : names.clientUrl l.options.nodeName = .ok clientUrl) (now : Instant) :
    ∃ d' c' member server config,
      Completes name now d (l.launch .join).run d' (.ok ⟨server, administrator⟩) ∧
      (d'.network name).clusters = [c'] ∧ c'.access.enabled ∧
      c'.members = c.members.filter (!·.isOf l.options.nodeName url) ++
        [⟨member, l.options.nodeName, [url], [clientUrl]⟩] ∧
      (d'.network name).attachment? server.id = some ⟨0, member⟩ ∧
      (d'.network name).settings? server.id = some config ∧ config.Conforms names ∧
      ∀ i config, (d.network name).settings? i = some config →
        (d'.network name).attachment? i = (d.network name).attachment? i ∧
        (d'.network name).settings? i = some config := by
  obtain ⟨i, a, hattached⟩ := hrejoin.exists_attachment?
  obtain ⟨d₁, c₁, id, ids, peers, hrepair, hmachine₁, hnetwork₁, haccess₁, hmembers₁, s, a', other,
      peerUrl, hs, hother, hpeerUrl, hlisted⟩ :=
    completes_repair (o := l.options) h hnames hl.names_eq hl.isNode hself hrejoin.stopped
      (hl.names_eq ▸ hrejoin.bound) hattached hrejoin.identity hurl now
  -- the server starts
  have hconfig : l.options.serverConfig peers .existing =
      .ok (l.options.settings peers .existing url clientUrl) :=
    LaunchOptions.serverConfig_eq (hl.names_eq ▸ hurl) (hl.names_eq ▸ hclientUrl) peers .existing
  have hadmits : l.options.Admits .join (.start _) := ⟨peers, .existing, hconfig, nofun⟩
  have hconforms := hl.conforms_config hadmits
  have hdirectory : d₁.machine.files.makeDirectories l.options.dataDir =
      ((d.machine.files.makeDirectories l.options.dataDir).1, none) := by
    rw [hmachine₁, ← hrejoin.directory]
  obtain ⟨net, hstart, hclusters, hsettings, hmember, hothers⟩ :=
    h.exists_start hnames hconforms rfl hurl hclientUrl hrejoin.stopped
      (fun _ => h.nobody_runs hnames hself hl.isNode hurl hrejoin.stopped) hmembers₁ hdirectory hs
      hother hpeerUrl hlisted ids now
  rw [← hnetwork₁] at hstart
  -- and becomes usable
  let server : ServerHandle := ⟨(d.network name).nodes.length, l.options.nodeName⟩
  generalize hd₂ : (d₁.setNetwork name net).setFiles
    (d.machine.files.makeDirectories l.options.dataDir).1 = d₂ at *
  have hnetwork₂ : d₂.network name = net := hd₂ ▸ network_setNetwork d₁ name net
  rw [← hnetwork₂] at hclusters hsettings hmember hothers
  have hready : (d₂.network name).isReady server.id := by
    obtain ⟨node, hnode, -, hattachment, -⟩ := Network.node_of_attachment? hmember
    exact Network.isReady_iff.2 ⟨node, hnode, hattachment ▸ rfl⟩
  obtain ⟨d', c', husable, -, hnetwork', hmembers', hon⟩ :=
    completes_makeUsable hl.user_eq hready (Network.limitAt?_of_attachment? hmember hsettings)
      (hclusters ▸ List.getElem?_cons_zero) (haccess₁ ▸ h.sound) now
  have hlaunch := completes_launch (completes_prepare_join hrepair hconfig) hstart (hd₂ ▸ husable)
  refine ⟨d', c', id, server, _, hl.user_eq ▸ hlaunch, ?_, hon, hmembers', ?_, ?_, hconforms, ?_⟩
  · rw [hnetwork']
    exact Network.clusters_setCluster_zero hclusters c'
  · rw [hnetwork']
    exact hmember
  · rw [hnetwork']
    exact hsettings
  · intro i config hi
    have hne : i ≠ (d.network name).nodes.length := by
      rintro rfl
      rw [Network.settings?, Network.running?_length] at hi
      cases hi
    rw [hnetwork']
    obtain ⟨hsame, hkept⟩ := hothers i hne
    exact ⟨hsame, hkept.trans hi⟩

end Deployment

/-! ## Rejoining -/

namespace Fleet

variable {names : ServiceNames} {name : String} {l : Launcher} {i : NodeId} {a : Attachment}
  {w : Fleet (Except (NodeError EngineError) SecretStore)}

theorem Reachable.exists_hosts (hnames : names.AsWritten)
    (h : w.Reachable name (launches names) Network.Event.IsForeign)
    (hsingle : (w.network name).clusters.length ≤ 1)
    (hattached : (w.network name).attachment? i = some a) : ∃ c, (w.network name).Hosts names c := by
  obtain ⟨ids, events, hevents, hnetwork⟩ := h.events
  have horderly : (w.network name).Orderly :=
    hnetwork ▸ (Network.Orderly.of_empty ids).afterAll events
  have hregisters : (w.network name).Registers names :=
    hnetwork ▸ Network.Registers.afterAll hnames.tellApart ids hevents
  have hsound : (w.network name).AccessSound := hnetwork ▸ Network.AccessSound.afterAll ids events
  obtain ⟨c, hc, -⟩ := horderly.listed hattached
  have hmem : c ∈ (w.network name).clusters := List.mem_of_getElem? hc
  have hone : (w.network name).clusters.length = 1 :=
    Nat.le_antisymm hsingle (List.length_pos_of_mem hmem)
  obtain ⟨c', hclusters⟩ := List.length_eq_one_iff.1 hone
  obtain rfl : c = c' := List.mem_singleton.1 (hclusters ▸ hmem)
  exact ⟨c, horderly, hregisters, hsound c hmem, hclusters⟩

/-- A node comes back. The servers of a network have come up by launches of nodes with common names, and
    there is one cluster, with at least one server that runs in it. Then a node whose own server is gone
    joins by a launch that nobody disturbs, whatever entry it has left behind and whichever server the
    service leads it to. Afterwards the node is listed once, under its name and its URL and as the
    member that its server runs as. The entries of other nodes are what they were, and the checks are on. Who
    ran in the cluster still does, and the new server answers like each of them. -/
theorem rejoin_succeeds (hnames : names.AsWritten)
    (h : w.Reachable name (launches names) Network.Event.IsForeign) (hl : l.Conforms names)
    (hrejoin : l.CanRejoin name w.deployment) (hself : (w.network name).RunAsThemselves) (turn : Nat)
    (now : Instant) :
    ∃ c url clientUrl d c' server member, (w.network name).clusters = [c] ∧
      names.peerUrl l.options.nodeName = .ok url ∧
      names.clientUrl l.options.nodeName = .ok clientUrl ∧
      Deployment.backend.advance ⟨name, name⟩ none now (l.launch .join).run
        (w.afterEvent name (.route turn)).deployment = (d, .ended (.ok ⟨server, administrator⟩)) ∧
      (d.network name).clusters = [c'] ∧
      c'.members.filter (·.isOf l.options.nodeName url) =
        [⟨member, l.options.nodeName, [url], [clientUrl]⟩] ∧
      c'.members.filter (!·.isOf l.options.nodeName url) =
        c.members.filter (!·.isOf l.options.nodeName url) ∧
      c'.access.enabled ∧
      (d.network name).attachment? server.id = some ⟨0, member⟩ ∧
      ∀ i a, (w.network name).attachment? i = some a → (d.network name).attachment? i = some a ∧
        ∀ now user command, (d.network name).serve now server.id user command =
          (d.network name).serve now i user command := by
  obtain ⟨i, a, hattached⟩ := hrejoin.exists_attachment?
  obtain ⟨c, hhosts⟩ := h.exists_hosts hnames hrejoin.single hattached
  have hurl := hnames.peerUrl hl.isNode
  have hclientUrl := hnames.clientUrl hl.isNode
  generalize Url.https (names.host l.options.nodeName) ServiceNames.peerPort = url at hurl
  generalize Url.https (names.host l.options.nodeName) ServiceNames.clientPort = clientUrl
    at hclientUrl
  let routed : Network := { w.network name with turn }
  have hrouted := Deployment.network_setNetwork w.deployment name routed
  have hhosts' : ((w.deployment.setNetwork name routed).network name).Hosts names c :=
    hrouted.symm ▸ hhosts.route turn
  have hself' : ((w.deployment.setNetwork name routed).network name).RunAsThemselves := by
    rw [hrouted]
    exact hself
  obtain ⟨d, c', member, server, config, hlaunch, hclusters, hon, hmembers, hmember, hsettings,
      hconforms, hothers⟩ :=
    Deployment.completes_rejoin hhosts' hnames hl hself' (hrejoin.route turn) hurl hclientUrl now
  rw [hrouted] at hothers
  have hnew : (⟨member, l.options.nodeName, [url], [clientUrl]⟩ : Member).isOf
      l.options.nodeName url = true := by simp [Member.isOf]
  have hgone (m : Member) : (m.isOf l.options.nodeName url && !m.isOf l.options.nodeName url) =
      false := Bool.and_not_self _
  refine ⟨c, url, clientUrl, d, c', server, member, hhosts.clusters_eq, hurl, hclientUrl,
    hlaunch.advance_eq, hclusters, ?_, ?_, hon, hmember, fun i a hi => ?_⟩
  · rw [hmembers, List.filter_append, List.filter_filter, List.filter_cons_of_pos hnew]
    simp [hgone]
  · rw [hmembers, List.filter_append, List.filter_filter]
    simp [hnew]
  · obtain ⟨node, -, -, -, -, hi'⟩ := Network.node_of_attachment? hi
    obtain ⟨hsame, hkept⟩ := hothers i node.config hi'
    have hi₁ : (d.network name).attachment? i = some a := hsame.trans hi
    refine ⟨hi₁, fun now user command => ?_⟩
    have hc' : (d.network name).clusters[0]? = some c' := by
      rw [hclusters, List.getElem?_cons_zero]
    have hlimit := Network.limitAt?_of_attachment? hi₁ hkept
    rw [(hhosts.of_attachment? hi).1, (hhosts.conforms_of_settings? hi').maxOperations,
      ← hconforms.maxOperations] at hlimit
    rw [Network.serve_of_limitAt? (Network.limitAt?_of_attachment? hmember hsettings) hc',
      Network.serve_of_limitAt? hlimit hc']

end Fleet

/-! ## Trials -/

namespace Trial

/-- Node `0` founds a cluster that node `1` joins and leaves without a word. -/
def leaving : List (Fleet.Act (Except (NodeError EngineError) SecretStore)) :=
  [.run ((launcher plain 0 "a").launch .bootstrap).run,
    .others (.bindService plain.internal plain.headless),
    .run ((launcher plain 1 "b").launch .join).run, .others (.close 1)]

theorem canRejoin_leaving : (start.play? "net" 0 leaving).any fun w =>
    decide ((launcher plain 1 "b").CanRejoin "net" w.deployment) &&
      decide (w.network "net").RunAsThemselves := by
  simp only [leaving, Launcher.launch, Launcher.prepare, Launcher.discover,
    repair_launcher asWritten_plain ordinal?_one, serverConfig_launcher asWritten_plain isNode_zero,
    serverConfig_launcher asWritten_plain isNode_one]
  decide +kernel

end Trial

/-- The node that has left without a word comes back. -/
theorem Fleet.rejoin_succeeds_after_leaving :
    ∃ w : Fleet (Except (NodeError EngineError) SecretStore), Trial.plain.AsWritten ∧
      w.Reachable "net" (launches Trial.plain) Network.Event.IsForeign ∧
      (Trial.launcher Trial.plain 1 "b").Conforms Trial.plain ∧
      (Trial.launcher Trial.plain 1 "b").CanRejoin "net" w.deployment ∧
      (w.network "net").RunAsThemselves ∧ ∃ d c' server,
        Deployment.backend.advance ⟨"net", "net"⟩ none 0
          ((Trial.launcher Trial.plain 1 "b").launch .join).run
          (w.afterEvent "net" (.route 7)).deployment = (d, .ended (.ok ⟨server, administrator⟩)) ∧
        (d.network "net").clusters = [c'] ∧ c'.access.enabled := by
  have hacts : ∀ act ∈ Trial.leaving,
      act.IsAdmitted (launches Trial.plain) Network.Event.IsForeign := by
    simp only [Trial.leaving, List.forall_mem_cons, Act.IsAdmitted]
    exact ⟨Trial.launches_launcher Trial.isNode_zero _ _, trivial,
      Trial.launches_launcher Trial.isNode_one _ _, trivial, List.forall_mem_nil _⟩
  obtain ⟨w, hreachable, hw⟩ :=
    (Trial.reachable_start _ _).exists_of_play? hacts Trial.canRejoin_leaving
  rw [Bool.and_eq_true, decide_eq_true_eq, decide_eq_true_eq] at hw
  obtain ⟨hrejoin, hself⟩ := hw
  have hconforms := Trial.conforms_launcher Trial.isNode_one "b"
  obtain ⟨_, _, _, d, c', server, _, -, -, -, hlaunch, hclusters, -, -, hon, -⟩ :=
    rejoin_succeeds Trial.asWritten_plain hreachable hconforms hrejoin hself 7 0
  exact ⟨w, Trial.asWritten_plain, hreachable, hconforms, hrejoin, hself, d, c', server, hlaunch,
    hclusters, hon⟩

/-! ### Nodes that do not come back -/

/-- Names in lower-case ASCII whose URLs can be read. -/
structure ServiceNames.IsReadable (names : ServiceNames) : Prop where
  lower : ∀ c ∈ names.statefulSet.toList ++ names.namespaceName.toList,
    c.toNat < 0x80 ∧ c.toLower = c
  peerUrl : ∀ {node}, names.IsNode node → (names.peerUrl node).isOk
  clientUrl : ∀ {node}, names.IsNode node → (names.clientUrl node).isOk
  serviceUrl : names.serviceUrl.isOk

theorem ServiceNames.AsWritten.isReadable {names : ServiceNames} (h : names.AsWritten)
    (hlower : ∀ c ∈ names.statefulSet.toList ++ names.namespaceName.toList,
      c.toNat < 0x80 ∧ c.toLower = c) : names.IsReadable where
  lower := hlower
  peerUrl hnode := by
    rw [h.peerUrl hnode]
    rfl
  clientUrl hnode := by
    rw [h.clientUrl hnode]
    rfl
  serviceUrl := by
    rw [h.serviceUrl]
    rfl

namespace Trial

/-- Names with a number sign, which ends the host of a URL. -/
def cut : ServiceNames := ⟨"a#", "test"⟩

/-- What a URL with a number sign behind its host `a` is read as. -/
def cutUrl (rest : List Char) : Url :=
  { scheme := "https", authority := some { host := some (.domain "a") }, path := "/"
    fragment := some (String.ofList (Percent.encode Percent.fragment rest)) }

theorem parse_cut {text : String} {rest : List Char}
    (htext : text.toList = "https://a#".toList ++ rest) (h : ∀ c ∈ rest, 0x20 < c.toNat) :
    Url.parse text = .ok (cutUrl rest) := by
  have hclean : Url.clean text = "https://a#".toList ++ rest := by
    rw [← String.ofList_toList (s := text), htext]
    refine Url.clean_of_forall (List.forall_mem_append.2 ⟨?_, h⟩)
    exact List.all_iff_forall_prop.1 (by decide)
  have hscheme : Url.splitScheme? ("https://a#".toList ++ rest) =
      some ("https", '/' :: '/' :: 'a' :: '#' :: rest) := rfl
  have hhost : Host.parse ['a'] = .ok (.domain "a") :=
    @Host.parse_ofLabels [['a']] (by decide)
      (List.forall_mem_singleton.2 ⟨List.all_iff_forall_prop.1 (by decide +kernel), by decide⟩)
      (by decide +kernel) (by decide)
  have hauthority : Url.readAuthority "https" true ('a' :: '#' :: rest) =
      .ok ({ host := some (.domain "a") }, '#' :: rest) := by
    show (Host.parse ['a'] >>= _) = _
    rw [hhost]
    rfl
  rw [Url.parse, hclean, hscheme]
  show (Url.readAuthority "https" true ('a' :: '#' :: rest) >>= _) = _
  rw [hauthority]
  rfl

theorem parse_cut_node {node : String} (hnode : cut.IsNode node) {port : Nat}
    (hport : port = ServiceNames.peerPort ∨ port = ServiceNames.clientPort) :
    Url.parse s!"https://{node}.{cut.headless}:{port}" = .ok (cutUrl
      (node.toList.drop 2 ++ '.' :: cut.headless.toList ++ ':' :: (toString port).toList)) := by
  obtain ⟨digits, hnode, hdecimal⟩ := hnode.exists_digits
  have hvisible : ∀ c ∈ node.toList.drop 2, 0x20 < c.toNat := by
    rw [hnode]
    refine List.forall_mem_cons.2 ⟨by decide, fun c hc => ?_⟩
    have hdigit := (ServiceNames.isDecimal_iff hdecimal).2 c hc
    exact Host.of_mem_plainChars (P := fun c => 0x20 < c.toNat) (by decide +kernel)
      (List.mem_cons_of_mem _ (ServiceNames.mem_plainChars_of_isDigit hdigit))
  have hport : ∀ c ∈ (toString port).toList, 0x20 < c.toNat := by
    rcases hport with rfl | rfl
    · exact List.all_iff_forall_prop.1 (by decide +kernel)
    · exact List.all_iff_forall_prop.1 (by decide +kernel)
  refine parse_cut ?_ ?_
  · simp [hnode, toString, cut]
  · rw [List.forall_mem_append, List.forall_mem_append, List.forall_mem_cons, List.forall_mem_cons]
    exact ⟨⟨hvisible, by decide, List.all_iff_forall_prop.1 (by decide +kernel)⟩, by decide, hport⟩

theorem serviceUrl_cut :
    cut.serviceUrl = .ok (cutUrl "-internal.test.svc.cluster.local:2379".toList) :=
  parse_cut (by decide +kernel) (List.all_iff_forall_prop.1 (by decide +kernel))

theorem isReadable_cut : cut.IsReadable where
  lower := List.all_iff_forall_prop.1 (by decide +kernel)
  peerUrl hnode := by
    rw [ServiceNames.peerUrl, parse_cut_node hnode (.inl rfl)]
    rfl
  clientUrl hnode := by
    rw [ServiceNames.clientUrl, parse_cut_node hnode (.inr rfl)]
    rfl
  serviceUrl := by
    rw [serviceUrl_cut]
    rfl

/-- A node gets to the end of a join with a failure. -/
def failsToJoin (l : Launcher) (d : Deployment) : Bool :=
  match Deployment.backend.advance ⟨"net", "net"⟩ none 0 (l.launch .join).run d with
  | (_, .ended (.error _)) => true
  | _ => false

theorem failsToJoin_iff {l : Launcher} {d : Deployment} : failsToJoin l d ↔ ∃ d' e,
    Deployment.backend.advance ⟨"net", "net"⟩ none 0 (l.launch .join).run d =
      (d', .ended (.error e)) := by
  unfold failsToJoin
  split
  · next heq => exact iff_of_true rfl ⟨_, _, heq⟩
  · next hother =>
    refine iff_of_false Bool.false_ne_true ?_
    rintro ⟨d', e, heq⟩
    exact hother d' e heq

/-- Node `0` founds a cluster and is closed. Node `1` comes up with the data directory of that
    node. -/
def sharing : List (Fleet.Act (Except (NodeError EngineError) SecretStore)) :=
  [.run ((launcher plain 0 "a").launch .bootstrap).run, .others (.close 0),
    .run ((launcher plain 1 "a").launch .bootstrap).run,
    .others (.bindService plain.internal plain.headless)]

/-- The server of node `1` runs as the member of node `0`, and stops when that member is removed. -/
theorem failsToJoin_sharing : (start.play? "net" 0 sharing).any fun w =>
    decide ((launcher plain 0 "b").CanRejoin "net" w.deployment) &&
      failsToJoin (launcher plain 0 "b") w.deployment := by
  simp only [sharing, failsToJoin, Launcher.launch, Launcher.prepare, Launcher.discover,
    repair_launcher asWritten_plain ordinal?_zero, serverConfig_launcher asWritten_plain isNode_zero,
    serverConfig_launcher asWritten_plain isNode_one]
  decide +kernel

/-- Node `0` founds a cluster. -/
def founding : List (Fleet.Act (Except (NodeError EngineError) SecretStore)) :=
  [.run ((launcher cut 0 "a").launch .bootstrap).run,
    .others (.bindService cut.internal cut.headless)]

/-- The host of the service is cut short, and no service has that name. -/
theorem failsToJoin_founding : (start.play? "net" 0 founding).any fun w =>
    decide ((launcher cut 1 "b").CanRejoin "net" w.deployment) &&
      decide (w.network "net").RunAsThemselves && failsToJoin (launcher cut 1 "b") w.deployment := by
  have hrepair := repair_eq (o := (launcher cut 1 "b").options)
    (cut.ordinal?_nodeName (by decide) : cut.ordinal? (cut.nodeName 1) = some 1)
    (parse_cut_node (cut.isNode_nodeName (by decide)) (.inl rfl)) serviceUrl_cut
  have hconfig (ordinal : Nat) (hlt : ordinal < 0x100000000) (dataDir : String) :=
    LaunchOptions.serverConfig_eq (o := (launcher cut ordinal dataDir).options)
      (parse_cut_node (cut.isNode_nodeName hlt) (.inl rfl))
      (parse_cut_node (cut.isNode_nodeName hlt) (.inr rfl))
  simp only [founding, failsToJoin, Launcher.launch, Launcher.prepare, Launcher.discover, hrepair,
    hconfig 0 (by decide), hconfig 1 (by decide)]
  decide +kernel

end Trial

/-- A node that finds what it needs does not come back if another one runs as the member that it has
    left behind, nor if the names do not come out of the reading of URLs as they went in. -/
theorem Fleet.rejoin_fails :
    (Trial.plain.IsReadable ∧ Trial.plain.AsWritten ∧
      ∃ w : Fleet (Except (NodeError EngineError) SecretStore),
        w.Reachable "net" (launches Trial.plain) Network.Event.IsForeign ∧
        (Trial.launcher Trial.plain 0 "b").Conforms Trial.plain ∧
        (Trial.launcher Trial.plain 0 "b").CanRejoin "net" w.deployment ∧
        ∃ d e, Deployment.backend.advance ⟨"net", "net"⟩ none 0
          ((Trial.launcher Trial.plain 0 "b").launch .join).run w.deployment =
            (d, .ended (.error e))) ∧
    (Trial.cut.IsReadable ∧ ∃ w : Fleet (Except (NodeError EngineError) SecretStore),
      w.Reachable "net" (launches Trial.cut) Network.Event.IsForeign ∧
      (Trial.launcher Trial.cut 1 "b").Conforms Trial.cut ∧
      (Trial.launcher Trial.cut 1 "b").CanRejoin "net" w.deployment ∧
      (w.network "net").RunAsThemselves ∧
      ∃ d e, Deployment.backend.advance ⟨"net", "net"⟩ none 0
        ((Trial.launcher Trial.cut 1 "b").launch .join).run w.deployment =
          (d, .ended (.error e))) := by
  constructor
  · have hacts : ∀ act ∈ Trial.sharing,
        act.IsAdmitted (launches Trial.plain) Network.Event.IsForeign := by
      simp only [Trial.sharing, List.forall_mem_cons, Act.IsAdmitted]
      exact ⟨Trial.launches_launcher Trial.isNode_zero _ _, trivial,
        Trial.launches_launcher Trial.isNode_one _ _, trivial, List.forall_mem_nil _⟩
    obtain ⟨w, hreachable, hw⟩ :=
      (Trial.reachable_start _ _).exists_of_play? hacts Trial.failsToJoin_sharing
    rw [Bool.and_eq_true, decide_eq_true_eq] at hw
    have hreadable := Trial.asWritten_plain.isReadable (List.all_iff_forall_prop.1 (by decide +kernel))
    exact ⟨hreadable, Trial.asWritten_plain, w, hreachable,
      Trial.conforms_launcher Trial.isNode_zero "b", hw.1, Trial.failsToJoin_iff.1 hw.2⟩
  · have hnode (ordinal : Nat) (hlt : ordinal < 0x100000000) := Trial.cut.isNode_nodeName hlt
    have hacts : ∀ act ∈ Trial.founding,
        act.IsAdmitted (launches Trial.cut) Network.Event.IsForeign := by
      simp only [Trial.founding, List.forall_mem_cons, Act.IsAdmitted]
      exact ⟨Trial.launches_launcher (hnode 0 (by decide)) _ _, trivial, List.forall_mem_nil _⟩
    obtain ⟨w, hreachable, hw⟩ :=
      (Trial.reachable_start _ _).exists_of_play? hacts Trial.failsToJoin_founding
    rw [Bool.and_eq_true, Bool.and_eq_true, decide_eq_true_eq, decide_eq_true_eq] at hw
    exact ⟨Trial.isReadable_cut, w, hreachable, Trial.conforms_launcher (hnode 1 (by decide)) "b",
      hw.1.1, hw.1.2, Trial.failsToJoin_iff.1 hw.2⟩

end ClusterVault
