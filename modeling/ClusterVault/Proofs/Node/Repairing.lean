import ClusterVault.Proofs.Network.Joining
import ClusterVault.Proofs.Network.Membership
import ClusterVault.Proofs.Node.Convergence
import ClusterVault.Proofs.Node.InitialMembers
import ClusterVault.Proofs.Node.Peers

/-!
# Repairing the membership

On a network with one cluster, a node whose server is gone gets to the registry by whichever server
its service leads to. It removes what it has left behind, registers anew and learns of its peers, and
nobody else notices.

## Main definitions

- `Member.isOf`: whether an entry is that of a node
- `Network.HasStopped`: no server of a node runs
- `Network.RunAsThemselves`: no server runs as the member of another node
- `Network.Hosts`: what is known of a network of nodes with one cluster

## Main statements

- `Network.AccessSound.afterAll`: nothing that happens locks the administrator out
- `Deployment.completes_repair`: what the repair of the membership comes to

## Design notes

A server that runs as the member that a node has left behind would be stopped by the repair, even if
it is that of another node. Two nodes with one data directory may come to that.
-/

namespace ClusterVault

/-- Whether an entry is that of a node, by its name or its URL. -/
def Member.isOf (node : String) (url : Url) (m : Member) : Bool :=
  m.name = node || m.peerUrls.contains url

namespace Network

/-- In no cluster the administrator is locked out. -/
def AccessSound (net : Network) : Prop := ∀ c ∈ net.clusters, c.access.Sound

/-- No server of a node runs. -/
def HasStopped (net : Network) (node : String) : Prop :=
  ∀ server ∈ net.nodes, server.closed = false → server.config.name ≠ node

instance (net : Network) (node : String) : Decidable (net.HasStopped node) :=
  inferInstanceAs (Decidable (∀ server ∈ net.nodes, _))

theorem HasStopped.name_ne {net : Network} {node : String} (h : net.HasStopped node) {i : NodeId}
    {config : ServerConfig} (hconfig : net.settings? i = some config) : config.name ≠ node := by
  obtain ⟨server, hrunning, rfl⟩ := settings?_eq_some.1 hconfig
  obtain ⟨hserver, hopen⟩ := running?_eq_some.1 hrunning
  exact h server (List.mem_of_getElem? hserver) hopen

/-- No server runs as the member of another node. -/
def RunAsThemselves (net : Network) : Prop :=
  ∀ node ∈ net.nodes, node.closed = false → ∀ a ∈ node.attachment, ∀ c ∈ net.clusters[a.cluster]?,
    ∀ m ∈ c.members, m.id = a.member → m.name = node.config.name

instance (net : Network) : Decidable net.RunAsThemselves :=
  inferInstanceAs (Decidable (∀ node ∈ net.nodes, _))

theorem RunAsThemselves.name_eq {net : Network} (h : net.RunAsThemselves) {i : NodeId}
    {config : ServerConfig} {a : Attachment} {c : Cluster} {m : Member}
    (hconfig : net.settings? i = some config) (hattached : net.attachment? i = some a)
    (hc : net.clusters[a.cluster]? = some c) (hm : m ∈ c.members) (hid : m.id = a.member) :
    m.name = config.name := by
  obtain ⟨node, hnode, hopen, hattachment, -, hsettings⟩ := node_of_attachment? hattached
  obtain rfl : node.config = config := Option.some.inj (hsettings.symm.trans hconfig)
  exact h node (List.mem_of_getElem? hnode) hopen a hattachment c hc m hm hid

/-- Nothing that happens locks the administrator out. -/
theorem AccessSound.afterAll (ids : IdSource) (events : List Event) :
    (({ ids } : Network).afterAll events).AccessSound :=
  fun c hc => (rooted_afterAll ids events c hc).sound

end Network

/-! ## A network of nodes with one cluster -/

theorem ServiceNames.inDomain_host (names : ServiceNames) (node : String) :
    Network.inDomain names.headless (names.host node) = true := by
  have hends := @String.Slice.endsWith_string_iff ("." ++ names.headless)
    (names.host node).toSlice
  rw [String.copy_toSlice] at hends
  have hsuffix : (names.host node).endsWith ("." ++ names.headless) = true :=
    hends.2 ⟨node.toList, by simp [host, toString]⟩
  rw [Network.inDomain, hsuffix, Bool.or_true]

/-- What is known of a network of nodes on which there is one cluster. -/
structure Network.Hosts (names : ServiceNames) (net : Network) (c : Cluster) : Prop where
  orderly : net.Orderly
  registers : net.Registers names
  sound : c.access.Sound
  clusters_eq : net.clusters = [c]

namespace Network.Hosts

variable {names : ServiceNames} {net : Network} {c : Cluster} {i : NodeId} {a : Attachment}
  {config : ServerConfig} {node : String} {url : Url}

theorem getElem?_zero (h : net.Hosts names c) : net.clusters[0]? = some c := by
  rw [h.clusters_eq, List.getElem?_cons_zero]

theorem cluster_registers (h : net.Hosts names c) : c.Registers names :=
  h.registers.clusters c (h.clusters_eq ▸ List.mem_singleton_self c)

theorem conforms_of_settings? (h : net.Hosts names c) (hconfig : net.settings? i = some config) :
    config.Conforms names := by
  obtain ⟨node, hrunning, rfl⟩ := settings?_eq_some.1 hconfig
  exact h.registers.configs _ (Registers.mem_configs (running?_eq_some.1 hrunning).1)

/-- Who runs as a member runs as one of the cluster. -/
theorem of_attachment? (h : net.Hosts names c) (hattached : net.attachment? i = some a) :
    a.cluster = 0 ∧ ∃ m ∈ c.members, m.id = a.member := by
  obtain ⟨c', hc', hlisted⟩ := h.orderly.listed hattached
  have hlt := (List.getElem?_eq_some_iff.1 hc').1
  rw [h.clusters_eq, List.length_singleton, Nat.lt_one_iff] at hlt
  rw [hlt, h.getElem?_zero, Option.some.injEq] at hc'
  exact ⟨hlt, Cluster.hasMember_iff.1 (hc' ▸ hlisted)⟩

/-- A node whose server is gone finds its URLs free. -/
theorem lookup_eq_none (h : net.Hosts names c) (hnames : names.AsWritten)
    (hstopped : net.HasStopped node)
    (hurl : url = .https (names.host node) ServiceNames.peerPort ∨
      url = .https (names.host node) ServiceNames.clientPort) :
    net.listeners.lookup url = none := by
  by_contra hsome
  obtain ⟨i, hi⟩ := Option.ne_none_iff_exists'.1 hsome
  obtain ⟨config, hconfig, hmem⟩ := h.orderly.advertised (mem_of_lookup hi)
  have hconforms := h.conforms_of_settings? hconfig
  obtain ⟨peerUrl, hpeer, hpeers, -⟩ := hconforms.peerUrls
  obtain ⟨clientUrl, hclient, hclients⟩ := hconforms.clientUrls
  rw [hnames.peerUrl hconforms.isNode, Except.ok.injEq] at hpeer
  rw [hnames.clientUrl hconforms.isNode, Except.ok.injEq] at hclient
  rw [ServerConfig.urls, hpeers, hclients, ← hpeer, ← hclient] at hmem
  have hhost : names.host config.name = names.host node := by
    simp only [List.cons_append, List.nil_append, List.mem_cons, List.not_mem_nil, or_false,
      Url.https] at hmem hurl
    rcases hurl with rfl | rfl <;> rcases hmem with heq | heq <;>
      simp only [Url.mk.injEq, Option.some.injEq, Authority.mk.injEq, Host.domain.injEq] at heq <;>
      exact heq.2.1.2.2.1.symm
  exact hstopped.name_ne hconfig (ServiceNames.host_injective hhost)

/-- The service leads to a server of the cluster. -/
theorem exists_connect (h : net.Hosts names c) (hnames : names.AsWritten)
    (hbound : net.services.lookup names.internal = some names.headless)
    (hattached : net.attachment? i = some a) {files : FileSystem} {tls : TlsFiles} {user : String}
    (hidentity : files.readIdentity tls.certificate = .ok user) (dialTimeout : Duration) :
    ∃ s a', net.attachment? s = some a' ∧
      net.connect files ⟨[.https names.internal ServiceNames.clientPort], tls, dialTimeout⟩ =
        .ok ⟨s, user⟩ := by
  obtain ⟨node, -, -, -, -, hsettings⟩ := node_of_attachment? hattached
  have hconforms := h.conforms_of_settings? hsettings
  obtain ⟨url, hurl, hadvertised⟩ := hconforms.clientUrls
  rw [hnames.clientUrl hconforms.isNode, Except.ok.injEq] at hurl
  subst hurl
  have hmem : Url.https (names.host node.config.name) ServiceNames.clientPort ∈
      node.config.advertisedClientUrls := by
    rw [hadvertised]
    exact List.mem_singleton_self _
  exact h.orderly.exists_connect hidentity rfl hbound hattached hsettings hmem rfl
    (names.inDomain_host node.config.name)

/-- A server that runs as its own node's member is listed under its name. -/
theorem exists_member (h : net.Hosts names c) (hself : net.RunAsThemselves)
    (hattached : net.attachment? i = some a) (hconfig : net.settings? i = some config) :
    ∃ m ∈ c.members, m.id = a.member ∧ m.name = config.name := by
  obtain ⟨hzero, m, hm, hid⟩ := h.of_attachment? hattached
  exact ⟨m, hm, hid, hself.name_eq hconfig hattached (hzero ▸ h.getElem?_zero) hm hid⟩

/-- Nobody runs as the member that a node has left behind. -/
theorem nobody_runs (h : net.Hosts names c) (hnames : names.AsWritten) (hself : net.RunAsThemselves)
    (hnode : names.IsNode node) (hurl : names.peerUrl node = .ok url)
    (hstopped : net.HasStopped node) {m : Member}
    (hm : m ∈ c.members) (hof : m.isOf node url) (i : NodeId) :
    net.attachment? i ≠ some ⟨0, m.id⟩ := by
  intro hattached
  obtain ⟨server, -, -, -, -, hconfig⟩ := node_of_attachment? hattached
  have hname := hself.name_eq hconfig hattached h.getElem?_zero hm rfl
  have hown : m.name = node ∨ url ∈ m.peerUrls := by simpa [Member.isOf] using hof
  obtain ⟨-, hnamed⟩ :=
    (h.cluster_registers.members m hm).of_node hnames.tellApart hnode hurl hown
  rcases hnamed with hempty | hnamed
  · exact (h.conforms_of_settings? hconfig).isNode.ne_empty (hname ▸ hempty)
  · exact hstopped.name_ne hconfig (hname ▸ hnamed)

/-- The repair takes the entries of a node for what they are. -/
theorem isStale_eq (h : net.Hosts names c) (hnames : names.AsWritten) (hnode : names.IsNode node)
    (hurl : names.peerUrl node = .ok url) {m : Member} (hm : m ∈ c.members) :
    Repair.isStale node url m = m.isOf node url := by
  have hiff := (h.cluster_registers.members m hm).isStale_iff hnames.tellApart hnode hurl
  rw [Bool.eq_iff_iff, hiff]
  simp [Member.isOf]

/-- Nobody stops for the entries of a node whose server is gone. -/
theorem shutMembers_stale (h : net.Hosts names c) (hnames : names.AsWritten)
    (hself : net.RunAsThemselves) (hnode : names.IsNode node) (hurl : names.peerUrl node = .ok url)
    (hstopped : net.HasStopped node) :
    (net.shutMembers fun b => b.cluster = 0 &&
      ((c.members.filter (Repair.isStale node url)).map (·.id)).contains b.member) = net := by
  refine h.orderly.shutMembers_eq_self fun i b hb => ?_
  rw [← Bool.not_eq_true, Bool.and_eq_true, decide_eq_true_eq, List.contains_iff_mem]
  rintro ⟨hcluster, hmem⟩
  obtain ⟨m, hm, hid⟩ := List.mem_map.1 hmem
  obtain ⟨hlisted, hstale⟩ := List.mem_filter.1 hm
  rw [h.isStale_eq hnames hnode hurl hlisted] at hstale
  have hsame : b = ⟨0, m.id⟩ := by rw [hid, ← hcluster]
  exact h.nobody_runs hnames hself hnode hurl hstopped hlisted hstale i (hsame ▸ hb)

end Network.Hosts

/-! ## Repairing the membership -/

namespace Deployment

variable {names : ServiceNames} {d : Deployment} {name : String} {c : Cluster} {a : Attachment}
  {url : Url} {o : LaunchOptions} {i : NodeId}

/-- The membership of a node is repaired: the node is registered anew and otherwise nothing has
    changed. Among the peers that it starts with is a server that runs in the cluster. -/
theorem completes_repair (h : (d.network name).Hosts names c) (hnames : names.AsWritten)
    (ho : o.names = names) (hnode : names.IsNode o.nodeName)
    (hself : (d.network name).RunAsThemselves)
    (hstopped : (d.network name).HasStopped o.nodeName)
    (hbound : (d.network name).services.lookup names.internal = some names.headless)
    (hattached : (d.network name).attachment? i = some a)
    (hidentity : d.machine.files.readIdentity o.tls.certificate = .ok administrator)
    (hurl : names.peerUrl o.nodeName = .ok url) (now : Instant) :
    ∃ d' c' id ids peers, Completes name now d (repair o).run d' (.ok peers) ∧
      d'.machine = d.machine ∧
      d'.network name = { (d.network name).setCluster 0 c' with ids } ∧ c'.access = c.access ∧
      c'.members = c.members.filter (!·.isOf o.nodeName url) ++ [⟨id, "", [url], []⟩] ∧
      ∃ s a' config peerUrl, (d.network name).attachment? s = some a' ∧
        (d.network name).settings? s = some config ∧ peerUrl ∈ config.urls ∧
        (LaunchOptions.initialCluster peers o.nodeName url).get? config.name = some peerUrl := by
  subst ho
  obtain ⟨ordinal, hordinal⟩ := Option.isSome_iff_exists.1 hnode
  have hat : Url.https (o.names.host o.nodeName) ServiceNames.peerPort = url :=
    Except.ok.inj ((hnames.peerUrl hnode).symm.trans hurl)
  obtain ⟨s, a', hs, hconnect⟩ := h.exists_connect hnames hbound hattached hidentity o.memberTimeout
  obtain ⟨hzero, -⟩ := h.of_attachment? hs
  have hreaches : d.Reaches name ⟨[.https o.names.internal ServiceNames.clientPort], o.tls,
      o.memberTimeout⟩ ⟨s, administrator⟩ a' c :=
    ⟨hconnect, rfl, hs, hzero ▸ h.getElem?_zero⟩
  have hstale (m : Member) (hm : m ∈ c.members) := h.isStale_eq hnames hnode hurl hm
  have hstays (m : Member) (hm : m ∈ c.members) (hof : Repair.isStale o.nodeName url m) :
      m.id ≠ a'.member := by
    intro hsame
    have ha : a' = ⟨0, m.id⟩ := by rw [hsame, ← hzero]
    exact h.nobody_runs hnames hself hnode hurl hstopped hm (hstale m hm ▸ hof) s (ha ▸ hs)
  have hfree (m : Member) (hm : m ∈ c.members) (hmem : url ∈ m.peerUrls) :
      Repair.isStale o.nodeName url m := by
    rw [hstale m hm]
    simp [Member.isOf, hmem]
  obtain ⟨peers, id, ids, -, -, hpeers, hcompletes⟩ :=
    completes_repair_of_free hreaches hstays h.orderly h.cluster_registers.ids_nodup h.sound.trusts
      (hat ▸ hnames.readsUrls hordinal) hfree now
  obtain ⟨peers', hpeers', hown, hseen⟩ :=
    Repair.peersAfter_eq_ok hnames hordinal hurl h.cluster_registers.members id
  obtain rfl : peers' = peers := Except.ok.inj (hpeers'.symm.trans hpeers)
  have hkept : c.members.filter (!Repair.isStale o.nodeName url ·) =
      c.members.filter (!·.isOf o.nodeName url) :=
    List.filter_congr fun m hm => congrArg _ (hstale m hm)
  rw [Network.repaired, hkept, hzero,
    h.shutMembers_stale hnames hself hnode hurl hstopped] at hcompletes
  refine ⟨_, _, id, ids, peers', hcompletes, rfl, network_setNetwork .., rfl, rfl, ?_⟩
  obtain ⟨server, -, -, -, -, hconfig⟩ := Network.node_of_attachment? hs
  have hconforms := h.conforms_of_settings? hconfig
  obtain ⟨peerUrl, hpeerUrl, hadvertised, -⟩ := hconforms.peerUrls
  have hmem : peerUrl ∈ server.config.urls := by
    rw [ServerConfig.urls, hadvertised]
    exact List.mem_append_left _ (List.mem_singleton_self _)
  obtain ⟨m, hm, -, hname⟩ := h.exists_member hself hs hconfig
  have hstarted : m.isUnstarted = false := by
    simpa [Member.isUnstarted, hname] using hconforms.isNode.ne_empty
  refine ⟨s, a', server.config, peerUrl, hs, hconfig, hmem, ?_⟩
  refine LaunchOptions.get?_initialCluster (hstopped.name_ne hconfig) (hname ▸ hseen m hm hstarted) ?_
  intro peer hpeer hpeerName
  have hat := hown peer hpeer
  rw [hpeerName, hpeerUrl, Except.ok.injEq] at hat
  exact hat.symm

end Deployment

end ClusterVault
