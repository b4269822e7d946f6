import ClusterVault.Proofs.Network.Reaching
import ClusterVault.Proofs.Node.Repairing

/-!
# Where the name of the service leads

Clients reach a node by the name of the service, and the network stands it for the domain of the
nodes. The table of services holds both names as they are written, while a client asks for the host of
a URL, in canonical form. If the URL of the service holds its name as it is written, so does the URL
of a node, and the name of the service leads to the nodes and to nobody else. If it does not, the name
leads nowhere.

## Main statements

- `Network.service_leads_to_nodes`: the name of the service leads to servers in the domain of the
  nodes, in every network that can come about
- `Network.service_leads_nowhere`: a name with a capital letter leads nowhere
-/

namespace ClusterVault

namespace Network

/-- In every network that can come about and in which the service is bound to the domain of the nodes,
    its URL leads to a server that runs in a cluster, if one is reached at the URL of a node. All
    servers that it leads to run in a cluster, and clients reach them at hosts in that domain. -/
theorem service_leads_to_nodes (ids : IdSource) (events : List Event) (names : ServiceNames)
    (node : String) (hnode : names.IsNode node) {serviceUrl clientUrl : Url}
    (hservice : names.serviceUrl = .ok serviceUrl) (hclient : names.clientUrl node = .ok clientUrl)
    (hwritten : serviceUrl.hostText? = some names.internal) :
    let net := ({ ids } : Network).afterAll events
    net.services.lookup names.internal = some names.headless →
    (∃ i a config, net.attachment? i = some a ∧ net.settings? i = some config ∧
      clientUrl ∈ config.advertisedClientUrls) →
    (∃ s ∈ net.candidates serviceUrl, net.route? serviceUrl = some s) ∧
      ∀ s ∈ net.candidates serviceUrl, ∃ a config, net.attachment? s = some a ∧
        net.settings? s = some config ∧
        ∃ url ∈ config.advertisedClientUrls, url.hostText?.any (inDomain names.headless) := by
  intro net hbound ⟨i, a, config, hattached, hconfig, hurl⟩
  have horderly : net.Orderly := (Orderly.of_empty ids).afterAll events
  obtain ⟨hserviceUrl, hclientUrl⟩ :=
    ServiceNames.eq_https_of_hostText? hnode hservice hclient hwritten
  have hdomain : clientUrl.hostText?.any (inDomain names.headless) := by
    rw [hclientUrl]
    exact names.inDomain_host node
  have hport : clientUrl.portOrDefault? = serviceUrl.portOrDefault? := by
    rw [hclientUrl, hserviceUrl]
    rfl
  constructor
  · exact exists_route?
      (horderly.mem_candidates hwritten hbound hattached hconfig hurl hport hdomain)
  · intro s hs
    obtain ⟨a', config', hattached', hconfig', url, hurl', -, hdomain'⟩ :=
      of_mem_candidates hwritten hbound hs
    exact ⟨a', config', hattached', hconfig', url, hurl', hdomain'⟩

/-- The first node, at the given host. -/
def founder (names : ServiceNames) (host : String) : ServerConfig :=
  let peerUrl := Url.https host ServiceNames.peerPort
  { name := names.nodeName 0, dataDir := "a", initialCluster := ⟨[(names.nodeName 0, peerUrl)]⟩
    advertisedPeerUrls := [peerUrl]
    advertisedClientUrls := [.https host ServiceNames.clientPort] }

/-- The first node founds a cluster, and the service is bound to the domain of the nodes. -/
def foundedAndBound (names : ServiceNames) (host : String) : List Event :=
  [.start {} 0 (founder names host), .bindService names.internal names.headless]

/-- The name of a service without capital letters leads to the node. -/
theorem service_leads_to_nodes_founder :
    let names : ServiceNames := ⟨"store", "test"⟩
    let serviceUrl := Url.https names.internal ServiceNames.clientPort
    let net := ({ ids := { draw := (· + 1) } } : Network).afterAll
      (foundedAndBound names (names.host "store-0"))
    names.serviceUrl = .ok serviceUrl ∧
      ∃ s, net.route? serviceUrl = some s ∧ (net.attachment? s).isSome := by
  intro names serviceUrl net
  have hplain : names.IsPlain :=
    ⟨List.all_iff_forall_prop.1 (by decide +kernel), by decide,
      List.all_iff_forall_prop.1 (by decide +kernel), by decide⟩
  have hnode : names.IsNode "store-0" := by
    unfold ServiceNames.IsNode
    decide +kernel
  have hservice : names.serviceUrl = .ok serviceUrl := hplain.asWritten.serviceUrl
  have hbound : net.services.lookup names.internal = some names.headless := by decide +kernel
  have hattached : net.attachment? 0 = some ⟨0, 1⟩ := by decide +kernel
  have hsettings : net.settings? 0 = some (founder names (names.host "store-0")) := by decide +kernel
  have hreached := service_leads_to_nodes { draw := (· + 1) }
    (foundedAndBound names (names.host "store-0")) names "store-0" hnode hservice
    (hplain.asWritten.clientUrl hnode) rfl hbound
    ⟨0, ⟨0, 1⟩, _, hattached, hsettings, List.mem_singleton_self _⟩
  obtain ⟨⟨s, hs, hroute⟩, hall⟩ := hreached
  obtain ⟨a, -, hs, -⟩ := hall s hs
  exact ⟨hservice, s, hroute, Option.isSome_iff_exists.2 ⟨a, hs⟩⟩

/-- If the names have a capital letter, the URLs hold it as a small one. The name of the service then
    leads nowhere, although a node runs that is reached at its URL. -/
theorem service_leads_nowhere :
    let names : ServiceNames := ⟨"Store", "test"⟩
    let small : ServiceNames := ⟨"store", "test"⟩
    let host := small.host "store-0"
    let serviceUrl := Url.https small.internal ServiceNames.clientPort
    let net := ({ ids := { draw := (· + 1) } } : Network).afterAll (foundedAndBound names host)
    names.IsNode "Store-0" ∧
      names.peerUrl "Store-0" = .ok (.https host ServiceNames.peerPort) ∧
      names.clientUrl "Store-0" = .ok (.https host ServiceNames.clientPort) ∧
      names.serviceUrl = .ok serviceUrl ∧
      net.services.lookup names.internal = some names.headless ∧
      net.attachment? 0 = some ⟨0, 1⟩ ∧
      net.listener? (.https host ServiceNames.clientPort) = some 0 ∧
      net.route? serviceUrl = none := by
  intro names small host serviceUrl net
  have hnode : names.IsNode "Store-0" := by
    unfold ServiceNames.IsNode
    decide +kernel
  have hname : (names.host "Store-0").toList.all fun c => Idna.isAscii c && !Idna.isForbidden c := by
    rw [ServiceNames.host_toList]
    decide +kernel
  have hplain : Idna.isPlain (names.host "Store-0").toList := by
    rw [ServiceNames.host_toList]
    decide +kernel
  have hsmall : (names.host "Store-0").toList.map Char.toLower = host.toList := by
    rw [ServiceNames.host_toList, ServiceNames.host_toList]
    decide +kernel
  have hname' : names.internal.toList.all fun c => Idna.isAscii c && !Idna.isForbidden c := by
    rw [ServiceNames.internal_toList]
    decide +kernel
  have hplain' : Idna.isPlain names.internal.toList := by
    rw [ServiceNames.internal_toList]
    decide +kernel
  have hsmall' : names.internal.toList.map Char.toLower = small.internal.toList := by
    rw [ServiceNames.internal_toList, ServiceNames.internal_toList]
    decide +kernel
  exact ⟨hnode,
    (names.peerUrl_eq _).trans
      (ServiceNames.parse_of_toLower (names.host_toList _) rfl hname hplain hsmall),
    (names.clientUrl_eq _).trans
      (ServiceNames.parse_of_toLower (names.host_toList _) rfl hname hplain hsmall),
    ServiceNames.parse_of_toLower names.internal_toList rfl hname' hplain' hsmall',
    by decide +kernel, by decide +kernel, by decide +kernel, by decide +kernel⟩

end Network

end ClusterVault
