import ClusterVault.Proofs.Network.Listeners

/-!
# Reaching a cluster

Who gets to a server that runs in a cluster gets to the cluster, by whichever server. This module
says what the requests of an administrator on the registry come to then, and that a service leads to
a server that runs in a cluster if there is any in its domain.

## Main statements

- `Network.Orderly.mem_candidates`, `Network.of_mem_candidates`: the servers that a service leads to
- `Network.Orderly.exists_connect`: a client is led to a server that runs in a cluster
- `Network.manage_list`, `Network.manage_add`, `Network.manage_remove`: requests on the registry
-/

namespace ClusterVault.Network

variable {net : Network} {i : NodeId} {a : Attachment} {c : Cluster} {config : ServerConfig}
  {client : Connection} {url : Url}

/-! ## Servers that run in a cluster -/

theorem node_of_attachment? (h : net.attachment? i = some a) :
    ∃ node, net.nodes[i]? = some node ∧ node.closed = false ∧ node.attachment = some a ∧
      node.cluster = .ok a.cluster ∧ net.settings? i = some node.config := by
  obtain ⟨node, hrunning, hattachment⟩ := attachment?_eq_some.1 h
  obtain ⟨hnode, hopen⟩ := running?_eq_some.1 hrunning
  refine ⟨node, hnode, hopen, hattachment, ?_, settings?_eq_some.2 ⟨node, hrunning, rfl⟩⟩
  rw [ServerNode.cluster, hopen, hattachment]
  rfl

theorem limitAt?_of_attachment? (h : net.attachment? i = some a)
    (hconfig : net.settings? i = some config) :
    net.limitAt? i a.cluster = some config.maxOperations := by
  obtain ⟨node, hnode, -, -, hcluster, hsettings⟩ := node_of_attachment? h
  rw [hsettings, Option.some.injEq] at hconfig
  subst hconfig
  simp [limitAt?, hnode, hcluster, Option.filter, Except.toOption]

/-- A server in a cluster is reached at its URLs by its peers. -/
theorem Orderly.clusterAt?_eq (h : net.Orderly) (hattached : net.attachment? i = some a)
    (hconfig : net.settings? i = some config) (hurl : url ∈ config.urls) :
    net.clusterAt? url = some a.cluster := by
  obtain ⟨node, hnode, -, -, hcluster, -⟩ := node_of_attachment? hattached
  rw [clusterAt?, h.owned hconfig url hurl, Option.bind_some, hnode, Option.bind_some, hcluster]
  rfl

/-- Whatever is reached is a cluster that there is. -/
theorem Orderly.lt_of_clusterAt? (h : net.Orderly) {k : ClusterId}
    (hk : net.clusterAt? url = some k) : k < net.clusters.length := by
  obtain ⟨node, hbind, hcluster⟩ := Option.bind_eq_some_iff.1 hk
  obtain ⟨j, hlookup, hnode⟩ := Option.bind_eq_some_iff.1 hbind
  cases hopen : node.closed with
  | true =>
    rw [ServerNode.cluster, hopen] at hcluster
    cases hcluster
  | false =>
    cases hattachment : node.attachment with
    | none =>
      rw [ServerNode.cluster, hopen, hattachment] at hcluster
      cases hcluster
    | some a =>
      rw [ServerNode.cluster, hopen, hattachment] at hcluster
      cases hcluster
      have hattached : net.attachment? j = some a :=
        attachment?_eq_some.2 ⟨node, running?_eq_some.2 ⟨hnode, hopen⟩, hattachment⟩
      obtain ⟨c, hc, -⟩ := h.listed hattached
      exact (List.getElem?_eq_some_iff.1 hc).1

/-! ## The registry -/

section Manage

variable (hclient : net.attachment? client.server = some a)
  (hc : net.clusters[a.cluster]? = some c) (htrusts : c.access.Trusts client.user)

include hclient hc htrusts

theorem manage_list (now : Instant) : net.manage now client .list =
    (net.setCluster a.cluster (c.expire now), .ok c.members) := by
  obtain ⟨node, hnode, -, -, hcluster, -⟩ := node_of_attachment? hclient
  have hallowed : (c.expire now).access.authorizeAdministrator client.user = .ok () :=
    htrusts.authorizeAdministrator
  simp only [manage, hnode, hcluster, hc, Cluster.manage, Cluster.listMembers, hallowed]
  rfl

/-- A member may be added under a URL that no other one has. -/
theorem manage_add (now : Instant) (hfree : ∀ m ∈ c.members, url ∉ m.peerUrls) :
    ∃ id ids, id ≠ 0 ∧ id ∉ c.members.map (·.id) ∧ net.manage now client (.add [url]) =
      ({ net.setCluster a.cluster
          { c.expire now with members := c.members ++ [⟨id, "", [url], []⟩] } with ids },
        .ok (⟨id, "", [url], []⟩ : Member)) := by
  obtain ⟨node, hnode, -, -, hcluster, -⟩ := node_of_attachment? hclient
  have hallowed : (c.expire now).access.authorizeAdministrator client.user = .ok () :=
    htrusts.authorizeAdministrator
  have hnone : [url].find? (fun url => (c.expire now).members.any (·.peerUrls.contains url)) =
      none := by
    rw [List.find?_eq_none]
    intro other hother hany
    obtain ⟨m, hm, hshared⟩ := List.any_eq_true.1 hany
    rw [List.mem_singleton.1 hother] at hshared
    exact hfree m hm (by simpa using hshared)
  cases hfresh : net.ids.fresh ((c.expire now).members.map (·.id)) with
  | mk id ids =>
    have hnew := IdSource.isFree_fresh net.ids ((c.expire now).members.map (·.id))
    rw [hfresh] at hnew
    obtain ⟨hzero, hid⟩ := IdSource.isFree_iff.1 hnew
    refine ⟨id, ids, hzero, hid, ?_⟩
    have hadd : (c.expire now).addMember client.user net.ids [url] =
        .ok (⟨id, "", [url], []⟩, ids,
          { c.expire now with members := c.members ++ [⟨id, "", [url], []⟩] }) := by
      simp only [Cluster.addMember, hallowed, hnone, hfresh]
      rfl
    simp only [manage, hnode, hcluster, hc, Cluster.manage, hadd]

/-- No member may be added under the URL of another one. -/
theorem manage_add_of_taken (now : Instant) {m : Member} (hm : m ∈ c.members)
    (hurl : url ∈ m.peerUrls) : net.manage now client (.add [url]) =
      (net.setCluster a.cluster (c.expire now), .error (.alreadyExists (.memberAt url))) := by
  obtain ⟨node, hnode, -, -, hcluster, -⟩ := node_of_attachment? hclient
  have hallowed : (c.expire now).access.authorizeAdministrator client.user = .ok () :=
    htrusts.authorizeAdministrator
  have htaken : [url].find? (fun url => (c.expire now).members.any (·.peerUrls.contains url)) =
      some url :=
    List.find?_cons_of_pos (List.any_eq_true.2 ⟨m, hm, by simpa using hurl⟩)
  have hadd : (c.expire now).addMember client.user net.ids [url] =
      .error (.alreadyExists (.memberAt url)) := by
    simp only [Cluster.addMember, hallowed, htaken]
    rfl
  simp only [manage, hnode, hcluster, hc, Cluster.manage, hadd]
  rfl

/-- A member may be removed, and the servers that run as it stop. -/
theorem manage_remove (now : Instant) {id : Nat} (hid : id ∈ c.members.map (·.id)) :
    ∃ left, net.manage now client (.remove id) =
      ((net.setCluster a.cluster
        { c.expire now with members := c.members.eraseP (·.id = id) }).stopMember ⟨a.cluster, id⟩,
        .ok left) := by
  obtain ⟨node, hnode, -, -, hcluster, -⟩ := node_of_attachment? hclient
  have hallowed : (c.expire now).access.authorizeAdministrator client.user = .ok () :=
    htrusts.authorizeAdministrator
  have hmember : (c.expire now).hasMember id = true := by
    obtain ⟨m, hm, hmid⟩ := List.mem_map.1 hid
    exact Cluster.hasMember_iff.2 ⟨m, hm, hmid⟩
  have hremove : (c.expire now).removeMember client.user id =
      .ok { c.expire now with members := c.members.eraseP (·.id = id) } := by
    simp only [Cluster.removeMember, hallowed, hmember]
    rfl
  refine ⟨c.members.eraseP (·.id = id), ?_⟩
  simp only [manage, hnode, hcluster, hc, Cluster.manage, hremove]
  rfl

end Manage

/-! ## Services -/

section Service

variable {endpoint : Url} {host domain : String} {s : NodeId}

/-- The servers that a service leads to. -/
theorem candidates_of_service (hhost : endpoint.hostText? = some host)
    (hservice : net.services.lookup host = some domain) : net.candidates endpoint =
      (net.listeners.filter (net.isCandidate domain endpoint.portOrDefault?)).map (·.2) := by
  simp only [candidates, hhost, hservice]

/-- A server that runs in a cluster is one of them, if it has a client URL in the domain. -/
theorem Orderly.mem_candidates (h : net.Orderly) (hhost : endpoint.hostText? = some host)
    (hservice : net.services.lookup host = some domain) (hattached : net.attachment? i = some a)
    (hconfig : net.settings? i = some config) (hurl : url ∈ config.advertisedClientUrls)
    (hport : url.portOrDefault? = endpoint.portOrDefault?)
    (hdomain : url.hostText?.any (inDomain domain)) : i ∈ net.candidates endpoint := by
  obtain ⟨node, hnode, hopen, hattachment, -, hsettings⟩ := node_of_attachment? hattached
  rw [hsettings, Option.some.injEq] at hconfig
  subst hconfig
  have hlistens := mem_of_lookup (h.owned hsettings url (List.mem_append_right _ hurl))
  rw [candidates_of_service hhost hservice]
  refine List.mem_map.2 ⟨(url, i), List.mem_filter.2 ⟨hlistens, ?_⟩, rfl⟩
  simp [isCandidate, hnode, ServerNode.isAttached, hopen, hattachment, hurl, hport, hdomain]

/-- All of them are servers of that kind. -/
theorem of_mem_candidates (hhost : endpoint.hostText? = some host)
    (hservice : net.services.lookup host = some domain) (hs : s ∈ net.candidates endpoint) :
    ∃ a config, net.attachment? s = some a ∧ net.settings? s = some config ∧
      ∃ url ∈ config.advertisedClientUrls, url.portOrDefault? = endpoint.portOrDefault? ∧
        url.hostText?.any (inDomain domain) := by
  rw [candidates_of_service hhost hservice] at hs
  obtain ⟨⟨url, s⟩, hentry, rfl⟩ := List.mem_map.1 hs
  obtain ⟨-, hcandidate⟩ := List.mem_filter.1 hentry
  obtain ⟨node, hnode, hcandidate⟩ := (Option.any_eq_true _ _).1 hcandidate
  simp only [Bool.and_eq_true, ServerNode.isAttached, Bool.not_eq_true', decide_eq_true_eq]
    at hcandidate
  obtain ⟨⟨⟨⟨hopen, hattachment⟩, hurl⟩, hport⟩, hdomain⟩ := hcandidate
  obtain ⟨a, ha⟩ := Option.isSome_iff_exists.1 hattachment
  have hrunning : net.running? s = some node := running?_eq_some.2 ⟨hnode, hopen⟩
  exact ⟨a, node.config, attachment?_eq_some.2 ⟨node, hrunning, ha⟩,
    settings?_eq_some.2 ⟨node, hrunning, rfl⟩, url, by simpa using hurl, hport, hdomain⟩

/-- If there is any, one of them is picked. -/
theorem exists_route? (hi : i ∈ net.candidates endpoint) :
    ∃ s ∈ net.candidates endpoint, net.route? endpoint = some s := by
  have hpicked : net.turn % (net.candidates endpoint).length < (net.candidates endpoint).length :=
    Nat.mod_lt _ (List.length_pos_of_mem hi)
  exact ⟨_, List.getElem_mem hpicked, List.getElem?_eq_getElem hpicked⟩

/-- A service leads to a server that runs in a cluster, if one has a client URL in its domain. -/
theorem Orderly.exists_connect (h : net.Orderly) {files : FileSystem} {tls : TlsFiles}
    {dialTimeout : Duration} {user : String} (hidentity : files.readIdentity tls.certificate = .ok user)
    (hhost : endpoint.hostText? = some host) (hservice : net.services.lookup host = some domain)
    (hattached : net.attachment? i = some a) (hconfig : net.settings? i = some config)
    (hurl : url ∈ config.advertisedClientUrls)
    (hport : url.portOrDefault? = endpoint.portOrDefault?)
    (hdomain : url.hostText?.any (inDomain domain)) :
    ∃ s a', net.attachment? s = some a' ∧
      net.connect files ⟨[endpoint], tls, dialTimeout⟩ = .ok ⟨s, user⟩ := by
  obtain ⟨s, hs, hroute⟩ := exists_route?
    (h.mem_candidates hhost hservice hattached hconfig hurl hport hdomain)
  obtain ⟨a', -, hattached', -⟩ := of_mem_candidates hhost hservice hs
  refine ⟨s, a', hattached', ?_⟩
  simp [connect, hidentity, hroute]

end Service

end ClusterVault.Network
