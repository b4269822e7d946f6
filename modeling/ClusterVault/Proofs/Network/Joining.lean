import ClusterVault.Proofs.Network.Reaching

/-!
# Joining a cluster

A server that is registered joins at once if it is told of a peer that runs in the cluster. It takes
its URLs, finds the cluster through the peer, and names the entry that it is registered under.

## Main statements

- `Network.Orderly.exists_start`: a registered server that is told of such a peer joins at once
-/

namespace ClusterVault.Network

variable {net net' : Network} {i s : NodeId} {a : Attachment} {c c' : Cluster}
  {config other : ServerConfig} {url : Url} {name : String} {now : Instant} {id : Nat}

/-- A server that is told of a peer in the only cluster finds that cluster. -/
theorem Orderly.reachableCluster?_eq (h : net.Orderly) (hclusters : net.clusters = [c])
    (hlisted : config.initialCluster.get? name = some url) (hne : name ≠ config.name)
    (hattached : net.attachment? s = some a) (hsettings : net.settings? s = some other)
    (hurl : url ∈ other.urls) : net.reachableCluster? config = some 0 := by
  have hentry : (name, url) ∈ config.initialCluster.entries.filter (·.1 ≠ config.name) :=
    List.mem_filter.2 ⟨mem_of_lookup hlisted, by simpa using hne⟩
  cases hreached : net.reachableCluster? config with
  | none =>
    have hunreached := List.findSome?_eq_none_iff.1 hreached (name, url) hentry
    rw [h.clusterAt?_eq hattached hsettings hurl] at hunreached
    cases hunreached
  | some k =>
    obtain ⟨entry, -, hk⟩ := List.exists_of_findSome?_eq_some hreached
    have hlt := h.lt_of_clusterAt? hk
    rw [hclusters, List.length_singleton, Nat.lt_one_iff] at hlt
    rw [hlt]

theorem attachment?_take (hrunning : ∀ i, net'.running? i =
      if i = net.nodes.length then some { config } else net.running? i) :
    (∀ i, net'.attachment? i = net.attachment? i) ∧
      net'.settings? net.nodes.length = some config ∧
      ∀ i, i ≠ net.nodes.length → net'.settings? i = net.settings? i := by
  refine ⟨fun i => ?_, ?_, fun i hi => ?_⟩
  · rw [attachment?, attachment?, hrunning]
    split
    · next hi =>
      rw [hi, running?_length]
      rfl
    · rfl
  · rw [settings?, hrunning, if_pos rfl]
    rfl
  · rw [settings?, settings?, hrunning, if_neg hi]

/-- A new server takes URLs at which nobody listens. -/
theorem exists_take (hfree : ∀ url ∈ config.urls, net.listeners.lookup url = none) :
    ∃ taken, { net with nodes := net.nodes ++ [({ config } : ServerNode)] }.listen net.nodes.length
      config.urls = .ok taken := by
  have hnone : config.urls.find?
      { net with nodes := net.nodes ++ [({ config } : ServerNode)] }.isListening = none := by
    refine List.find?_eq_none.2 fun url hurl => ?_
    rw [isListening, listener?, hfree url hurl]
    exact Bool.false_ne_true
  rw [listen, hnone]
  exact ⟨_, rfl⟩

/-- A server that has taken its URLs comes up, or is closed again. -/
theorem start_eq_of_take {files files' : FileSystem} {taken : Network}
    (hpeers : config.advertisedPeerUrls ≠ [])
    (hdirectory : files.makeDirectories config.dataDir = (files', none))
    (hlisten : { net with nodes := net.nodes ++ [({ config } : ServerNode)] }.listen
      net.nodes.length config.urls = .ok taken) :
    net.start files now config =
      match taken.comeUp now net.nodes.length config with
      | (net', .ok _) => (net', files', .ok net.nodes.length)
      | (net', .error e) => (net'.close net.nodes.length, files', .error e) := by
  have hstarted : config.advertisedPeerUrls.isEmpty = false := List.isEmpty_eq_false_iff.2 hpeers
  cases hup : taken.comeUp now net.nodes.length config with
  | mk net' result =>
    cases result with
    | ok _ => simp only [start, hstarted, hdirectory, hlisten, hup, Bool.false_eq_true, if_false]
    | error e => simp only [start, hstarted, hdirectory, hlisten, hup, Bool.false_eq_true, if_false]

/-- A registered server joins at once if it is told of a peer that runs in the only cluster. The
    other servers stay what they are. -/
theorem Orderly.exists_start (h : net.Orderly) {files files' : FileSystem}
    (hfounding : config.founding = .existing) (hpeers : config.advertisedPeerUrls ≠ [])
    (hdirectory : files.makeDirectories config.dataDir = (files', none))
    (hfree : ∀ url ∈ config.urls, net.listeners.lookup url = none) (hclusters : net.clusters = [c])
    (hlisted : config.initialCluster.get? name = some url) (hne : name ≠ config.name)
    (hattached : net.attachment? s = some a) (hsettings : net.settings? s = some other)
    (hurl : url ∈ other.urls)
    (hattach : (c.expire now).attachMember config.name config.advertisedPeerUrls
      config.advertisedClientUrls = .ok (id, c')) :
    ∃ net', net.start files now config = (net', files', .ok net.nodes.length) ∧
      net'.clusters = [c'] ∧ net'.settings? net.nodes.length = some config ∧
      net'.attachment? net.nodes.length = some ⟨0, id⟩ ∧
      ∀ i, i ≠ net.nodes.length → net'.attachment? i = net.attachment? i ∧
        net'.settings? i = net.settings? i := by
  obtain ⟨taken, hlisten⟩ := exists_take hfree
  have htaken := h.take hpeers hlisten
  obtain ⟨heq, hrunning, -⟩ := take_eq_ok hlisten
  obtain ⟨hattachments, hown, hothers⟩ := attachment?_take hrunning
  have htakenClusters : taken.clusters = [c] := by rw [heq, hclusters]
  have hs : s ≠ net.nodes.length := by
    rintro rfl
    rw [settings?, running?_length] at hsettings
    cases hsettings
  -- so the peer is still there
  have hreached : taken.reachableCluster? config = some 0 :=
    htaken.reachableCluster?_eq htakenClusters hlisted hne ((hattachments s).trans hattached)
      ((hothers s hs).trans hsettings) hurl
  have hc : taken.clusters[0]? = some c := by rw [htakenClusters, List.getElem?_cons_zero]
  have hrejoin : taken.rejoin now net.nodes.length config =
      ((taken.setCluster 0 c').attach net.nodes.length config.dataDir ⟨0, id⟩, .ok ()) := by
    simp only [rejoin, hreached, hc, hattach]
  refine ⟨(taken.setCluster 0 c').attach net.nodes.length config.dataDir ⟨0, id⟩, ?_, ?_, ?_, ?_,
    fun i hi => ⟨?_, ?_⟩⟩
  · rw [start_eq_of_take hpeers hdirectory hlisten]
    simp only [comeUp, hfounding, joinOrWait, hrejoin]
  · exact clusters_setCluster_zero htakenClusters c'
  · rw [settings?_attach]
    exact hown
  · have hsame : (taken.setCluster 0 c').settings? net.nodes.length = some config := hown
    rw [attachment?_attach, if_pos rfl, hsame, Option.map_some]
  · rw [attachment?_attach, if_neg hi]
    exact hattachments i
  · rw [settings?_attach]
    exact hothers i hi

end ClusterVault.Network
