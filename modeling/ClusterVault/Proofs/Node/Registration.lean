import ClusterVault.Proofs.Node.Names
import ClusterVault.Proofs.Node.Requests
import Mathlib.Data.List.Nodup

/-!
# One registration per node

A node that comes back removes what it left behind and registers anew, step by step, while others do
the same. However that goes, a node is never listed twice: every entry of a registry is under the URL
of a node, no two are under the same, and none bears the name of another node. So a node that comes
back recognises its entry.

## Main definitions

- `ServerConfig.Conforms`, `Network.Event.Conforms`: settings and events that come from launches
- `Network.Registers`: the registries of a network hold each node once
- `Launcher.Conforms`, `launches`: the launches of nodes with common names

## Main statements

- `Fleet.one_registration_per_node`: the registries hold each node once, whatever has happened
-/

namespace ClusterVault

/-- The settings of the server of a node. It founds a cluster of itself only. -/
structure ServerConfig.Conforms (names : ServiceNames) (config : ServerConfig) : Prop where
  isNode : names.IsNode config.name
  peerUrls : ∃ url, names.peerUrl config.name = .ok url ∧ config.advertisedPeerUrls = [url] ∧
    (config.founding = .new → config.initialCluster.entries = [(config.name, url)])
  clientUrls : ∃ url, names.clientUrl config.name = .ok url ∧ config.advertisedClientUrls = [url]
  maxOperations : config.maxOperations = LaunchOptions.maxOperations

/-- An entry of the registry that is under the URL of a node, and bears its name or none. -/
def Member.Conforms (names : ServiceNames) (m : Member) : Prop :=
  ∃ node url, names.IsNode node ∧ names.peerUrl node = .ok url ∧ m.peerUrls = [url] ∧
    (m.name = "" ∨ m.name = node)

namespace Network

/-- An event that may come from a launch, or that starts nothing and registers nothing. -/
def Event.Conforms (names : ServiceNames) : Event → Prop
  | .start _ _ config => config.Conforms names
  | .manage _ _ (.add urls) =>
    ∃ node url, names.IsNode node ∧ names.peerUrl node = .ok url ∧ urls = [url]
  | _ => True

/-- An event that starts no server and registers no member. -/
def Event.IsForeign : Event → Prop
  | .start .. => False
  | .manage _ _ (.add _) => False
  | _ => True

end Network

/-- Each node is registered once, under an id of its own. -/
structure Cluster.Registers (names : ServiceNames) (c : Cluster) : Prop where
  members : ∀ m ∈ c.members, m.Conforms names
  urls_nodup : (c.members.map (·.peerUrls)).Nodup
  ids_nodup : (c.members.map (·.id)).Nodup

/-- All registries of a network hold each node once, and all servers are those of nodes. -/
structure Network.Registers (names : ServiceNames) (net : Network) : Prop where
  configs : ∀ config ∈ net.configs, config.Conforms names
  clusters : ∀ c ∈ net.clusters, c.Registers names

/-- Nodes are told apart by their URLs. -/
def ServiceNames.TellApart (names : ServiceNames) : Prop :=
  ∀ node node' url, names.IsNode node → names.IsNode node' → names.peerUrl node = .ok url →
    names.peerUrl node' = .ok url → node = node'

/-! ## Entries -/

section Entries

variable {names : ServiceNames} {c : Cluster} {m : Member} {node : String} {url : Url}

/-- An entry that bears a node's name or URL is under its URL, and bears its name or none. -/
theorem Member.Conforms.of_node (hnames : names.TellApart) (h : m.Conforms names)
    (hnode : names.IsNode node) (hurl : names.peerUrl node = .ok url)
    (hown : m.name = node ∨ url ∈ m.peerUrls) :
    m.peerUrls = [url] ∧ (m.name = "" ∨ m.name = node) := by
  obtain ⟨node', url', hnode', hurl', hpeers, hname⟩ := h
  have hsame : node' = node := by
    rcases hown with rfl | hmem
    · rcases hname with hempty | hname
      · exact absurd hempty hnode.ne_empty
      · exact hname.symm
    · rw [hpeers, List.mem_singleton] at hmem
      subst hmem
      exact hnames node' node url hnode' hnode hurl' hurl
  subst hsame
  rw [hurl, Except.ok.injEq] at hurl'
  exact ⟨hurl' ▸ hpeers, hname⟩

/-- A node recognises every entry that bears its name or URL. -/
theorem Member.Conforms.isStale_iff (hnames : names.TellApart) (h : m.Conforms names)
    (hnode : names.IsNode node) (hurl : names.peerUrl node = .ok url) :
    Repair.isStale node url m ↔ m.name = node ∨ url ∈ m.peerUrls := by
  have hempty : m.isUnstarted ↔ m.name = "" := by simp [Member.isUnstarted]
  rw [Repair.isStale]
  constructor
  · intro hstale
    split at hstale
    · exact .inr (by simpa using hstale)
    · exact .inl (by simpa using hstale)
  · intro hown
    obtain ⟨hpeers, hname⟩ := h.of_node hnames hnode hurl hown
    rcases hname with hunnamed | hnamed
    · rw [if_pos (hempty.2 hunnamed), hpeers]
      simp
    · have hstarted : ¬m.isUnstarted := fun hm => hnode.ne_empty (hnamed ▸ hempty.1 hm)
      rw [if_neg hstarted]
      exact decide_eq_true hnamed

/-- No more than one entry bears a node's name or URL. -/
theorem Cluster.Registers.length_filter_le_one (hnames : names.TellApart) (h : c.Registers names)
    (hnode : names.IsNode node) (hurl : names.peerUrl node = .ok url) :
    (c.members.filter fun m => m.name = node || m.peerUrls.contains url).length ≤ 1 := by
  let own := c.members.filter fun m => m.name = node || m.peerUrls.contains url
  have hurls : own.map (·.peerUrls) = List.replicate own.length [url] := by
    refine List.map_eq_replicate_iff.2 fun m hm => ?_
    obtain ⟨hmem, hown⟩ := List.mem_filter.1 hm
    exact ((h.members m hmem).of_node hnames hnode hurl (by simpa using hown)).1
  have hnodup : (own.map (·.peerUrls)).Nodup :=
    h.urls_nodup.sublist (List.filter_sublist.map Member.peerUrls)
  rw [hurls, List.nodup_replicate] at hnodup
  exact hnodup

/-- No two entries share a URL. -/
theorem Cluster.Registers.pairwise (h : c.Registers names) :
    c.members.Pairwise fun m m' => ∀ url ∈ m.peerUrls, url ∉ m'.peerUrls := by
  have hdistinct := List.pairwise_map.1 h.urls_nodup
  refine hdistinct.imp_of_mem fun hm hm' hne url hurl hurl' => hne ?_
  obtain ⟨_, _, -, -, hpeers, -⟩ := h.members _ hm
  obtain ⟨_, _, -, -, hpeers', -⟩ := h.members _ hm'
  rw [hpeers, List.mem_singleton] at hurl
  rw [hpeers', List.mem_singleton] at hurl'
  rw [hpeers, hpeers', ← hurl, ← hurl']

end Entries

/-! ## Registries -/

namespace Cluster.Registers

variable {names : ServiceNames} {c c' : Cluster} {config : ServerConfig} {id : Nat} {user : String}
  {urls : List Url} {member : Member} {ids ids' : IdSource}

theorem of_members_eq (h : c.Registers names) (hmembers : c'.members = c.members) :
    c'.Registers names := by
  constructor
  · rw [hmembers]
    exact h.members
  · rw [hmembers]
    exact h.urls_nodup
  · rw [hmembers]
    exact h.ids_nodup

/-- A cluster that a node founds holds that node only. -/
theorem founded (hconfig : config.Conforms names) (hfounding : config.founding = .new)
    (ids : IdSource) : (Cluster.founded (Network.foundingMembers config.name
      config.advertisedClientUrls config.initialCluster.entries [] ids).1).Registers names := by
  obtain ⟨url, hurl, -, hinitial⟩ := hconfig.peerUrls
  rw [hinitial hfounding]
  constructor
  · intro m hm
    obtain rfl := List.mem_singleton.1 hm
    exact ⟨config.name, url, hconfig.isNode, hurl, rfl, .inr rfl⟩
  · exact List.nodup_singleton _
  · exact List.nodup_singleton _

/-- A server that joins gives the entry under its URL its name. -/
theorem attach (hnames : names.TellApart) (h : c.Registers names) (hconfig : config.Conforms names)
    (hattach : c.attachMember config.name config.advertisedPeerUrls config.advertisedClientUrls =
      .ok (id, c')) : c'.Registers names := by
  obtain ⟨m, hfind, -, rfl⟩ := attachMember_eq_ok hattach
  obtain ⟨url, hurl, hadvertised, -⟩ := hconfig.peerUrls
  constructor
  · intro m' hm'
    rcases mem_nameFirst hm' with hold | ⟨m₀, hm₀, hfound, rfl⟩
    · exact h.members m' hold
    · -- the entry is under the URL of the server's node, so it is that node's
      obtain ⟨node, url', hnode, hurl', hpeers, -⟩ := h.members m₀ hm₀
      have hregistered := List.find?_some hfound
      simp only [isRegisteredAt, hpeers, hadvertised, List.any_cons, List.any_nil, Bool.or_false,
        List.contains_cons, List.contains_nil, beq_iff_eq] at hregistered
      subst hregistered
      have hsame := hnames node config.name url' hnode hconfig.isNode hurl' hurl
      exact ⟨node, url', hnode, hurl', hpeers, .inr hsame.symm⟩
  · rw [map_nameFirst fun _ => rfl]
    exact h.urls_nodup
  · rw [map_nameFirst fun _ => rfl]
    exact h.ids_nodup

theorem add (h : c.Registers names)
    (hurls : ∃ node url, names.IsNode node ∧ names.peerUrl node = .ok url ∧ urls = [url])
    (hadd : c.addMember user ids urls = .ok (member, ids', c')) : c'.Registers names := by
  obtain ⟨-, hfree, hfresh, hmember, rfl⟩ := members_of_addMember_eq_ok hadd
  obtain ⟨node, url, hnode, hurl, rfl⟩ := hurls
  have hpeers : member.peerUrls = [url] := by rw [hmember]
  have hname : member.name = "" := by rw [hmember]
  constructor
  · intro m hm
    rcases List.mem_append.1 hm with hold | hnew
    · exact h.members m hold
    · obtain rfl := List.mem_singleton.1 hnew
      exact ⟨node, url, hnode, hurl, hpeers, .inl hname⟩
  · rw [List.map_append, List.map_singleton, hpeers]
    refine List.nodup_append.2 ⟨h.urls_nodup, List.nodup_singleton _, ?_⟩
    -- an entry under the new URL would have been in the way
    intro shared hshared _ hnew heq
    obtain ⟨m, hm, hmurls⟩ := List.mem_map.1 hshared
    have hlisted : m.peerUrls = [url] := by rw [hmurls, heq, List.mem_singleton.1 hnew]
    exact hfree url List.mem_cons_self m hm (hlisted ▸ List.mem_cons_self)
  · have hid : IdSource.isFree (c.members.map (·.id)) member.id = true := by
      have hfree := IdSource.isFree_fresh ids (c.members.map (·.id))
      rwa [hfresh] at hfree
    rw [List.map_append, List.map_singleton]
    refine List.nodup_append.2 ⟨h.ids_nodup, List.nodup_singleton _, ?_⟩
    rintro other hother _ hnew rfl
    rw [List.mem_singleton.1 hnew] at hother
    exact (IdSource.isFree_iff.1 hid).2 hother

theorem remove (h : c.Registers names) (hremove : c.removeMember user id = .ok c') :
    c'.Registers names := by
  rw [members_of_removeMember_eq_ok hremove]
  constructor
  · exact fun m hm => h.members m (List.mem_of_mem_eraseP hm)
  · exact h.urls_nodup.sublist (List.Sublist.map _ List.eraseP_sublist)
  · exact h.ids_nodup.sublist (List.Sublist.map _ List.eraseP_sublist)

end Cluster.Registers

namespace Network.Registers

variable {names : ServiceNames} {net net' : Network} {event : Event} {k : ClusterId} {c : Cluster}

theorem setCluster (h : net.Registers names) (hc : c.Registers names) :
    (net.setCluster k c).Registers names where
  configs := h.configs
  clusters c' hc' := by
    rcases List.mem_or_eq_of_mem_set hc' with hold | rfl
    · exact h.clusters c' hold
    · exact hc

theorem of_configs_eq (h : net.Registers names) (hconfigs : net'.configs = net.configs)
    (hclusters : net'.clusters = net.clusters) : net'.Registers names := by
  constructor
  · rw [hconfigs]
    exact h.configs
  · rw [hclusters]
    exact h.clusters

theorem mem_configs {id : NodeId} {node : ServerNode} (hnode : net.nodes[id]? = some node) :
    node.config ∈ net.configs :=
  List.mem_map.2 ⟨node, List.mem_of_getElem? hnode, rfl⟩

/-- Every move keeps each node registered once. -/
theorem move (hnames : names.TellApart) (hevent : event.Conforms names)
    (hmove : Move event net net') (h : net.Registers names) : net'.Registers names := by
  have hcluster {k : ClusterId} {c : Cluster} (hc : net.clusters[k]? = some c) : c.Registers names :=
    h.clusters c (List.mem_of_getElem? hc)
  cases hmove with
  | route => exact h.of_configs_eq rfl rfl
  | @take _ _ config _ _ _ hlisten =>
    obtain ⟨rfl, -, -⟩ := take_eq_ok hlisten
    refine ⟨?_, h.clusters⟩
    intro config' hconfig'
    have hconcat : config' ∈ net.configs ++ [config] := configs_concat net config ▸ hconfig'
    rcases List.mem_append.1 hconcat with hold | hnew
    · exact h.configs config' hold
    · rw [List.mem_singleton.1 hnew]
      exact hevent
  | leave => exact h.of_configs_eq (map_nodes_close (fun _ => rfl) _ _) (clusters_close _ _)
  | wait => exact h.of_configs_eq (map_nodes_updateNode _ _ fun _ => rfl) rfl
  | look hc => exact h.setCluster ((hcluster hc).of_members_eq rfl)
  | serve hc user now limit command =>
    exact h.setCluster ((hcluster hc).of_members_eq (Cluster.members_serve _ user now limit command))
  | found hnode hconfig hfounding _ hfound =>
    obtain ⟨url, m, -, -, -, -, rfl⟩ := bootstrap_eq_ok hfound
    subst hconfig
    refine ⟨?_, List.forall_mem_append.2 ⟨h.clusters, List.forall_mem_singleton.2 ?_⟩⟩
    · rw [configs_attach]
      exact h.configs
    · exact .founded hevent hfounding _
  | restore => exact h.of_configs_eq (configs_attach _ _ _ _) rfl
  | join hnode hc hattach =>
    have hjoined := (hcluster hc).attach hnames (h.configs _ (mem_configs hnode)) hattach
    exact of_configs_eq (h.setCluster hjoined) (configs_attach _ _ _ _) rfl
  | add hc hadd =>
    exact of_configs_eq (h.setCluster ((hcluster hc).add hevent hadd)) rfl rfl
  | remove hc hremove =>
    exact of_configs_eq (h.setCluster ((hcluster hc).remove hremove))
      (map_nodes_stopMember (fun _ => rfl) _ _) (clusters_stopMember _ _)

end Network.Registers

/-! ## Launches -/

/-- The launcher of a node among those with common names, which acts as the administrator. -/
structure Launcher.Conforms (names : ServiceNames) (l : Launcher) : Prop where
  names_eq : l.options.names = names
  isNode : names.IsNode l.options.nodeName
  user_eq : l.user = administrator

/-- The launches of nodes with common names. -/
def launches (names : ServiceNames)
    (a : Activity EngineError (Except (NodeError EngineError) SecretStore)) : Prop :=
  ∃ l method, Launcher.Conforms names l ∧ a = (l.launch method).run

/-- What launches of nodes with common names may ask for. -/
def LaunchesAdmit (names : ServiceNames) (r : Request) : Prop :=
  ∃ l method, Launcher.Conforms names l ∧ l.options.Admits method r

section Launches

variable {names : ServiceNames} {l : Launcher} {method : JoinMethod} {config : ServerConfig}
  {name : String} {w : Fleet (Except (NodeError EngineError) SecretStore)}

theorem Launcher.Conforms.conforms_config (h : l.Conforms names)
    (hadmits : l.options.Admits method (.start config)) : config.Conforms names := by
  obtain ⟨peers, founding, hconfig, hnew⟩ := hadmits
  obtain ⟨peerUrl, clientUrl, hpeer, hclient, rfl⟩ := LaunchOptions.serverConfig_eq_ok hconfig
  rw [h.names_eq] at hpeer hclient
  refine ⟨h.isNode, ⟨peerUrl, hpeer, rfl, fun hfounding => ?_⟩, ⟨clientUrl, hclient, rfl⟩, rfl⟩
  obtain ⟨-, rfl⟩ := hnew hfounding
  rfl

/-- Launches let conforming events happen only. -/
theorem LaunchesAdmit.conforms {r : Request} (h : LaunchesAdmit names r) {files : FileSystem}
    {now : Instant} {event : Network.Event} (hevent : r.event? files now = some event) :
    event.Conforms names := by
  obtain ⟨l, method, hl, hadmits⟩ := h
  cases r with
  | start config =>
    cases hevent
    exact hl.conforms_config hadmits
  | manage client command =>
    cases hevent
    cases command with
    | add urls =>
      obtain ⟨url, hurl, heq⟩ := hadmits
      exact ⟨l.options.nodeName, url, hl.isNode, hl.names_eq ▸ hurl, heq⟩
    | list | remove => trivial
  | close | serve =>
    cases hevent
    trivial
  | connect | ready | idle => cases hevent

theorem Network.Event.IsForeign.conforms {event : Network.Event} (h : event.IsForeign)
    (names : ServiceNames) : event.Conforms names := by
  cases event with
  | start => exact h.elim
  | manage now client command =>
    cases command with
    | add => exact h.elim
    | list | remove => trivial
  | _ => trivial

/-- In a fleet of launches, the network has seen conforming events only. -/
theorem Fleet.Reachable.events (h : w.Reachable name (launches names) Network.Event.IsForeign) :
    ∃ ids events, (∀ event ∈ events, event.Conforms names) ∧
      w.network name = ({ ids } : Network).afterAll events := by
  have hsound : w.Sound name (LaunchesAdmit names) (·.Conforms names) fun _ _ => True := by
    refine h.sound ?_ ?_ ?_
    · exact fun r files now event hr hevent => hr.conforms hevent
    · exact fun event hevent => hevent.conforms names
    · rintro a ⟨l, method, hl, rfl⟩ joined
      have hlaunch := (l.obeys_launch method joined).run.imp fun _ _ => trivial
      exact hlaunch.weaken (fun r hr => ⟨l, method, hl, hr⟩) fun _ _ htells => htells
  exact hsound.events

/-- After conforming events, the registries hold each node once. -/
theorem Network.Registers.afterAll (hnames : names.TellApart) (ids : IdSource)
    {events : List Network.Event} (hevents : ∀ event ∈ events, event.Conforms names) :
    (({ ids } : Network).afterAll events).Registers names :=
  Network.afterAll_induction (fun _ _ _ hevent hmove => move hnames hevent hmove) hevents
    ⟨nofun, nofun⟩

/-- One registration per node. The servers of a network come up by launches of nodes with common
    names only, any number of launches of any nodes, founding or joining. They are interleaved at
    their requests with each other, with waiting servers that join in the background, and with others
    who close servers, remove members and use what is there, and they may be cancelled or fail
    anywhere. Then every entry of every registry is under the URL of a node and bears its name or
    none, and no two entries share a URL. So a node is never listed twice, and it recognises what it
    has left behind. -/
theorem Fleet.one_registration_per_node (hnames : names.TellApart)
    (h : w.Reachable name (launches names) Network.Event.IsForeign) :
    ∀ c ∈ (w.network name).clusters,
      (∀ m ∈ c.members, ∃ node url, names.IsNode node ∧ names.peerUrl node = .ok url ∧
        m.peerUrls = [url] ∧ (m.name = "" ∨ m.name = node)) ∧
      (c.members.Pairwise fun m m' => ∀ url ∈ m.peerUrls, url ∉ m'.peerUrls) ∧
      ∀ node url, names.IsNode node → names.peerUrl node = .ok url →
        (c.members.filter fun m => m.name = node || m.peerUrls.contains url).length ≤ 1 ∧
        ∀ m ∈ c.members, Repair.isStale node url m ↔ m.name = node ∨ url ∈ m.peerUrls := by
  intro c hc
  obtain ⟨ids, events, hevents, hnetwork⟩ := h.events
  have hregisters : c.Registers names :=
    (Network.Registers.afterAll hnames ids hevents).clusters c (hnetwork ▸ hc)
  refine ⟨hregisters.members, hregisters.pairwise, fun node url hnode hurl => ⟨?_, fun m hm => ?_⟩⟩
  · exact hregisters.length_filter_le_one hnames hnode hurl
  · exact (hregisters.members m hm).isStale_iff hnames hnode hurl

end Launches

/-! ## A trial

Some nodes to try things with.
-/

theorem ServiceNames.AsWritten.tellApart {names : ServiceNames} (h : names.AsWritten) :
    names.TellApart :=
  fun _ _ _ hnode hnode' hurl hurl' => h.peerUrl_injective hnode hnode' hurl hurl'

namespace Trial

def plain : ServiceNames := ⟨"secret-service", "test"⟩

theorem asWritten_plain : plain.AsWritten := by
  have hset : plain.statefulSet.toList.all fun c => decide (c ∈ Host.plainChars) := by
    decide +kernel
  have hnamespace : plain.namespaceName.toList.all fun c => decide (c ∈ Host.plainChars) := by
    decide +kernel
  exact ServiceNames.IsPlain.asWritten ⟨List.all_iff_forall_prop.1 hset, by decide,
    List.all_iff_forall_prop.1 hnamespace, by decide⟩

theorem ordinal?_zero : plain.ordinal? (plain.nodeName 0) = some 0 :=
  plain.ordinal?_nodeName (by decide)

theorem ordinal?_one : plain.ordinal? (plain.nodeName 1) = some 1 :=
  plain.ordinal?_nodeName (by decide)

theorem isNode_zero : plain.IsNode (plain.nodeName 0) := plain.isNode_nodeName (by decide)

theorem isNode_one : plain.IsNode (plain.nodeName 1) := plain.isNode_nodeName (by decide)

def certificate : Certificate where
  mark := .drawn 1
  version := 2
  subject := [.commonName administrator]
  issuer := []
  notBefore := 0
  notAfter := 0
  publicKey := .halfOf ⟨1⟩
  signer := none
  role := none
  alternativeNames := none

def files : FileSystem := { entries := {(["certificate"], .file (.certificate certificate) 0)} }

/-- A network on which nothing has happened. -/
def start : Fleet (Except (NodeError EngineError) SecretStore) :=
  ⟨{ machine := { files, clock := 0 }, streams := fun _ n => n + 1 }, []⟩

theorem reachable_start
    (begins : Activity EngineError (Except (NodeError EngineError) SecretStore) → Prop)
    (foreign : Network.Event → Prop) : start.Reachable "net" begins foreign :=
  ⟨_, _, rfl, .refl⟩

def launcher (names : ServiceNames) (ordinal : Nat) (dataDir : String) : Launcher where
  options :=
    { nodeName := names.nodeName ordinal, names, dataDir, tls := { certificate := "certificate" } }
  user := administrator

section Launcher

variable {names : ServiceNames} {ordinal : Nat}

theorem conforms_launcher (hnode : names.IsNode (names.nodeName ordinal)) (dataDir : String) :
    (launcher names ordinal dataDir).Conforms names :=
  ⟨rfl, hnode, rfl⟩

theorem launches_launcher (hnode : names.IsNode (names.nodeName ordinal)) (dataDir : String)
    (method : JoinMethod) : launches names ((launcher names ordinal dataDir).launch method).run :=
  ⟨launcher names ordinal dataDir, method, conforms_launcher hnode dataDir, rfl⟩

/-- The settings of a node, without the reading of URLs. -/
theorem serverConfig_launcher (hnames : names.AsWritten)
    (hnode : names.IsNode (names.nodeName ordinal)) (dataDir : String) (peers : List Peer)
    (founding : Founding) :
    (launcher names ordinal dataDir).options.serverConfig peers founding =
      .ok ((launcher names ordinal dataDir).options.settings peers founding
        (.https (names.host (names.nodeName ordinal)) ServiceNames.peerPort)
        (.https (names.host (names.nodeName ordinal)) ServiceNames.clientPort)) := by
  have hpeer := hnames.peerUrl hnode
  have hclient := hnames.clientUrl hnode
  generalize ho : (launcher names ordinal dataDir).options = o
  have hname : o.nodeName = names.nodeName ordinal := ho ▸ rfl
  have hnames : o.names = names := ho ▸ rfl
  rw [← hname, ← hnames] at hpeer hclient ⊢
  exact LaunchOptions.serverConfig_eq hpeer hclient peers founding

/-- The repair by a node, without the reading of URLs. -/
theorem repair_launcher (hnames : names.AsWritten)
    (hordinal : names.ordinal? (names.nodeName ordinal) = some ordinal) (dataDir : String) :
    let o := (launcher names ordinal dataDir).options
    let url := Url.https (names.host (names.nodeName ordinal)) ServiceNames.peerPort
    (repair o : Procedure EngineError (List Peer)) = (do
      let client ← Procedure.boundedCall .connecting o.memberTimeout
        (Activity.request (.connect
          ⟨[.https names.internal ServiceNames.clientPort], o.tls, o.memberTimeout⟩))
      let members : List Member ← Procedure.boundedCall .listingMembers o.memberTimeout
        (Activity.request (.manage client .list))
      removeMembers o.memberTimeout client (members.filter (Repair.isStale o.nodeName url))
      let added : Member ← Procedure.boundedCall .addingMember o.memberTimeout
        (Activity.request (.manage client (.add [url])))
      Procedure.ofUrl (Repair.peersAfter names ordinal ⟨o.nodeName, url, added.id⟩ members)) :=
  repair_eq hordinal (hnames.peerUrl (hordinal ▸ rfl : (names.ordinal? _).isSome)) hnames.serviceUrl

end Launcher

/-- Node `0` founds a cluster. Node `1` joins it, is closed and joins again. -/
def rejoining : List (Fleet.Act (Except (NodeError EngineError) SecretStore)) :=
  [.run ((launcher plain 0 "a").launch .bootstrap).run,
    .others (.bindService plain.internal plain.headless),
    .run ((launcher plain 1 "b").launch .join).run, .others (.close 1),
    .run ((launcher plain 1 "b").launch .join).run]

theorem members_rejoining : ((start.play? "net" 0 rejoining).map fun w =>
    (w.network "net").clusters.map (·.members.length)) = some [2] := by
  simp only [rejoining, Launcher.launch, Launcher.prepare, Launcher.discover,
    repair_launcher asWritten_plain ordinal?_one, serverConfig_launcher asWritten_plain isNode_zero,
    serverConfig_launcher asWritten_plain isNode_one]
  decide +kernel

end Trial

/-- A node that has come back is listed once. -/
theorem Fleet.one_registration_per_node_rejoined : Trial.plain.TellApart ∧
    ∃ w : Fleet (Except (NodeError EngineError) SecretStore),
      w.Reachable "net" (launches Trial.plain) Network.Event.IsForeign ∧
      ∃ c ∈ (w.network "net").clusters, c.members.length = 2 ∧
        ∀ node url, Trial.plain.IsNode node → Trial.plain.peerUrl node = .ok url →
          (c.members.filter fun m => m.name = node || m.peerUrls.contains url).length ≤ 1 := by
  have hnames := Trial.asWritten_plain.tellApart
  obtain ⟨w, hw, hmembers⟩ := Option.map_eq_some_iff.1 Trial.members_rejoining
  have hreachable : w.Reachable "net" (launches Trial.plain) Network.Event.IsForeign := by
    refine (Trial.reachable_start _ _).play? ?_ hw
    simp only [Trial.rejoining, List.forall_mem_cons, Act.IsAdmitted]
    exact ⟨Trial.launches_launcher Trial.isNode_zero _ _, trivial,
      Trial.launches_launcher Trial.isNode_one _ _, trivial,
      Trial.launches_launcher Trial.isNode_one _ _, List.forall_mem_nil _⟩
  obtain ⟨c, hc, hlength⟩ := List.map_eq_singleton_iff.1 hmembers
  have hmem : c ∈ (w.network "net").clusters := hc ▸ List.mem_singleton_self c
  obtain ⟨-, -, hunique⟩ := one_registration_per_node hnames hreachable c hmem
  exact ⟨hnames, w, hreachable, c, hmem, hlength,
    fun node url hnode hurl => (hunique node url hnode hurl).1⟩

end ClusterVault
