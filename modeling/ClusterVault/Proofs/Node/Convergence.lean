import ClusterVault.Proofs.Network.Removing
import ClusterVault.Proofs.Node.Launching
import ClusterVault.Proofs.Node.RepairedPeers
import ClusterVault.Proofs.Node.Undertaking

/-!
# Repairs converge

Whatever a node has left behind in a cluster, one repair of the membership brings it into order: no
entry of the node is left but a new one, and nobody else notices. This module follows a repair in
memory from whatever state an earlier one, or anybody else, has left.

## Main definitions

- `Repair.IsTaken`: another node has started at the URL of a node
- `Network.repaired`: what a repair leaves of a network
- `LaunchOptions.ReadsUrls`, `Deployment.Reaches`: what a node needs to repair the membership

## Main statements

- `Deployment.completes_repair_of_adding`: a repair removes all that the node has left behind
- `Deployment.repair_converges`: a repair succeeds unless another node has the URL, and what it
  leaves is left by every later one
-/

namespace ClusterVault

variable {c c' : Cluster} {now later : Instant} {k : ClusterId} {id : Nat} {url endpoint : Url}
  {o : LaunchOptions} {ordinal : Nat} {client : Connection} {a : Attachment} {m : Member}
  {gone : List Member} {stale : Member → Bool}

/-- To remove the stale members by their ids is to remove those only. -/
theorem Cluster.without_map_filter (h : (c.members.map (·.id)).Nodup) (stale : Member → Bool) :
    c.without ((c.members.filter stale).map (·.id)) =
      { c with members := c.members.filter (!stale ·) } := by
  have hiff (m : Member) (hm : m ∈ c.members) :
      m.id ∈ (c.members.filter stale).map (·.id) ↔ stale m = true := by
    constructor
    · intro hid
      obtain ⟨other, hother, hid⟩ := List.mem_map.1 hid
      obtain ⟨hmem, hstale⟩ := List.mem_filter.1 hother
      rwa [List.inj_on_of_nodup_map h hmem hm hid] at hstale
    · exact fun hstale => List.mem_map.2 ⟨m, List.mem_filter.2 ⟨hm, hstale⟩, rfl⟩
  rw [Cluster.without]
  congr 1
  refine List.filter_congr fun m hm => ?_
  rw [Bool.eq_iff_iff, Bool.not_eq_true', Bool.not_eq_true', ← Bool.not_eq_true,
    ← Bool.not_eq_true, List.contains_iff_mem, hiff m hm]

/-- Another node has started at the URL of a node. -/
def Repair.IsTaken (node : String) (url : Url) (members : List Member) : Prop :=
  ∃ m ∈ members, m.isUnstarted = false ∧ m.name ≠ node ∧ url ∈ m.peerUrls

/-- Whoever has the URL is a stale entry unless another node has started at it. -/
theorem Repair.isStale_of_not_isTaken {node : String} (h : ¬IsTaken node url c.members)
    (hm : m ∈ c.members) (hurl : url ∈ m.peerUrls) : isStale node url m := by
  rw [isStale]
  split
  · simpa using hurl
  · next hstarted =>
    rw [decide_eq_true_eq]
    by_contra hname
    exact h ⟨m, hm, Bool.eq_false_iff.2 hstarted, hname, hurl⟩

/-- What a repair leaves of a network: the stale members of a cluster are gone and some have been
    added, and whoever ran as one of the former has stopped. -/
def Network.repaired (net : Network) (now : Instant) (k : ClusterId) (c : Cluster)
    (stale : Member → Bool) (added : List Member) (ids : IdSource) : Network :=
  { (net.shutMembers fun b =>
      b.cluster = k && ((c.members.filter stale).map (·.id)).contains b.member).setCluster k
        { c.expire now with members := c.members.filter (!stale ·) ++ added } with ids }

/-- To add a member after a repair without one is to add it in the repair. -/
theorem Network.setCluster_repaired (net : Network) (now : Instant) (k : ClusterId) (c : Cluster)
    (stale : Member → Bool) (ids ids' : IdSource) (members : List Member) :
    ({ (net.repaired now k c stale [] ids).setCluster k { ({ c.expire now with
        members := c.members.filter (!stale ·) ++ [] } : Cluster).expire now with
          members := c.members.filter (!stale ·) ++ members } with ids := ids' } : Network) =
      net.repaired now k c stale members ids' := by
  have hlooked : (c.expire now).keyspace.expire now = (c.expire now).keyspace :=
    c.keyspace.expire_expire (Nat.le_refl now)
  simp only [repaired, setCluster, List.set_set, Cluster.expire] at hlooked ⊢
  rw [hlooked]

/-- A node can read the URLs that it needs to repair the membership: its own, that of its service, and
    those of the nodes before it. -/
structure LaunchOptions.ReadsUrls (o : LaunchOptions) (ordinal : Nat) (url endpoint : Url) :
    Prop where
  ordinal_eq : o.names.ordinal? o.nodeName = some ordinal
  own : o.names.peerUrl o.nodeName = .ok url
  service : o.names.serviceUrl = .ok endpoint
  lower : ∀ k < ordinal, ∃ peerUrl, o.names.peerUrl (o.names.nodeName k) = .ok peerUrl

theorem ServiceNames.AsWritten.readsUrls (h : o.names.AsWritten)
    (hordinal : o.names.ordinal? o.nodeName = some ordinal) :
    o.ReadsUrls ordinal (.https (o.names.host o.nodeName) peerPort)
      (.https o.names.internal clientPort) where
  ordinal_eq := hordinal
  own := h.peerUrl (Option.isSome_iff_exists.2 ⟨ordinal, hordinal⟩)
  service := h.serviceUrl
  lower _ hk :=
    ⟨_, h.peerUrl (o.names.isNode_nodeName (Nat.lt_trans hk (lt_of_ordinal? hordinal)))⟩

/-- A node can tell the peers to start with. -/
theorem LaunchOptions.ReadsUrls.exists_peers (h : o.ReadsUrls ordinal url endpoint) (own : Peer)
    (members : List Member) :
    ∃ peers, Repair.peersAfter o.names ordinal own members = .ok peers := by
  have hinfer : ∃ all, Repair.infer o.names (List.range ordinal)
      ((Repair.observed members ∅).insert own.name own) = .ok all :=
    Repair.exists_infer fun k hk _ => h.lower k (List.mem_range.1 hk)
  obtain ⟨all, hall⟩ := hinfer
  exact ⟨_, Repair.peersAfter_eq_ok_iff_infer.2 ⟨all, hall, rfl⟩⟩

namespace Deployment

variable {d d' : Deployment} {name : String} {net : Network}

/-- An administrator's client is connected to a server that runs as a member of a cluster. -/
structure Reaches (d : Deployment) (name : String) (config : ClientConfig) (client : Connection)
    (a : Attachment) (c : Cluster) : Prop where
  connects : (d.network name).connect d.machine.files config = .ok client
  administers : client.user = administrator
  attached : (d.network name).attachment? client.server = some a
  cluster : (d.network name).clusters[a.cluster]? = some c

theorem HasPast.setNetwork (h : d.HasPast)
    (hnet : ∃ ids events, net = ({ ids } : Network).afterAll events) (name : String) :
    (d.setNetwork name net).HasPast := by
  intro other
  by_cases hne : other = name
  · rw [hne, network_setNetwork]
    exact hnet
  · have hlookup : (setEntry name net d.networks).lookup other = d.networks.lookup other := by
      rw [lookup_setEntry, if_neg hne]
    have hother := h other
    simp only [network, Deployment.setNetwork, hlookup] at hother ⊢
    cases hold : d.networks.lookup other with
    | none => exact ⟨_, [], rfl⟩
    | some net =>
      rw [hold] at hother
      exact hother

/-- The past of a deployment goes on with the requests that are made. -/
theorem HasPast.issue (h : d.HasPast) (name : String) (now : Instant) (r : Request) :
    (d.issue ⟨name, name⟩ now r).1.HasPast := by
  have hafter (event : Network.Event) :
      (d.setNetwork name ((d.network name).after event)).HasPast := by
    obtain ⟨ids, events, hnet⟩ := h name
    exact h.setNetwork ⟨ids, events ++ [event], by rw [Network.afterAll_concat, hnet]⟩ name
  cases r with
  | connect | ready | idle => exact h
  | manage client command => exact hafter (.manage now client command)
  | start config => exact hafter (.start d.machine.files now config)
  | close server => exact hafter (.close server.id)
  | serve server user command => exact hafter (.serve now server.id user command)

theorem HasPast.completes {α : Type} {x : Activity EngineError α} {y : α} (h : d.HasPast)
    (hrun : Completes name now d x d' y) : d'.HasPast := by
  induction hrun with
  | done => exact h
  | clock _ ih | either _ ih => exact ih h
  | @ask d d₁ _ r _ _ _ _ _ _ hissue _ _ ih =>
    have hissued := h.issue name now r
    have hsame : (d.issue ⟨name, name⟩ now r).1 = d₁ := congrArg Prod.fst hissue
    exact ih (hsame ▸ hissued)

theorem HasPast.hasIds (h : d.HasPast) (name : String) : (d.network name).HasIds := by
  obtain ⟨ids, events, hnet⟩ := h name
  rw [hnet]
  exact Network.hasIds_afterAll ids events

theorem Reaches.trusts {config : ClientConfig} (h : d.Reaches name config client a c)
    (hd : d.HasPast) : c.access.Trusts client.user := by
  rw [h.administers]
  exact (hd.rooted name c (List.mem_of_getElem? h.cluster)).sound.trusts

theorem completes_manage_setNetwork {net' : Network} {command : MemberCommand}
    {reply : Except EngineError command.Reply} (h : net.manage now client command = (net', reply))
    (d : Deployment) (name : String) :
    Completes name now (d.setNetwork name net) (Activity.request (.manage client command))
      (d.setNetwork name net') reply := by
  rw [← network_setNetwork d name net] at h
  have hmanaged := completes_manage h
  rwa [setNetwork_setNetwork] at hmanaged

/-- Members are removed one after the other, none of which is that of the client's server. -/
theorem completes_removeMembers (h : net.Orderly) (hids : (c.members.map (·.id)).Nodup)
    (hlooked : c.keyspace.expire now = c.keyspace)
    (hclient : net.attachment? client.server = some a) (hc : net.clusters[a.cluster]? = some c)
    (htrusts : c.access.Trusts client.user) (hgone : ∀ m ∈ gone, m ∈ c.members)
    (hnodup : (gone.map (·.id)).Nodup) (hstays : ∀ m ∈ gone, m.id ≠ a.member) (d : Deployment)
    (name : String) (bound : Duration) :
    Completes name now (d.setNetwork name net) (removeMembers bound client gone).run
      (d.setNetwork name (net.without a.cluster c (gone.map (·.id)))) (.ok ()) := by
  induction gone generalizing net c with
  | nil =>
    rw [List.map_nil, h.without_nil hc]
    exact .pure ()
  | cons m rest ih =>
    rw [List.forall_mem_cons] at hgone hstays
    rw [List.map_cons, List.nodup_cons] at hnodup
    obtain ⟨left, hremove⟩ :=
      h.manage_remove_eq hclient hc htrusts hids now (List.mem_map.2 ⟨m, hgone.1, rfl⟩)
    have hexpired : c.expire now = c := by rw [Cluster.expire, hlooked]
    rw [hexpired] at hremove
    -- the first one is removed
    have hremoved := completes_manage_setNetwork hremove d name
    -- and then the others, by a client that is still connected
    have horderly : (net.without a.cluster c [m.id]).Orderly := by
      have hafter := h.afterAll [.manage now client (.remove m.id)]
      rwa [Network.afterAll, List.foldl_cons, List.foldl_nil, Network.after, hremove] at hafter
    have hclient' : (net.without a.cluster c [m.id]).attachment? client.server = some a := by
      rw [Network.attachment?_without, hclient, Option.filter_some, if_pos]
      simpa using hstays.1.symm
    have hrest : ∀ other ∈ rest, other ∈ (c.without [m.id]).members := by
      intro other hother
      refine List.mem_filter.2 ⟨hgone.2 other hother, ?_⟩
      have hne : other.id ≠ m.id := fun heq =>
        hnodup.1 (List.mem_map.2 ⟨other, hother, heq⟩)
      simpa using hne
    have hkept : ((c.without [m.id]).members.map (·.id)).Nodup :=
      hids.sublist (List.filter_sublist.map _)
    have hmore := ih horderly hkept hlooked hclient' (Network.clusters_without hc c _) htrusts hrest
      hnodup.2 hstays.2
    rw [Network.without_without] at hmore
    exact (hremoved.boundedCall_ok _ bound).andThen hmore

section Repair

variable (hreaches : d.Reaches name ⟨[endpoint], o.tls, o.memberTimeout⟩ client a c)
  (hstays : ∀ m ∈ c.members, Repair.isStale o.nodeName url m → m.id ≠ a.member)

include hreaches hstays

/-- The client stays connected while the entries of the node are removed. -/
theorem attached_repaired (now : Instant) (ids : IdSource) :
    ((d.network name).repaired now a.cluster c (Repair.isStale o.nodeName url) []
      ids).attachment? client.server = some a := by
  refine (Network.attachment?_shutMembers _ _ _).trans ?_
  rw [hreaches.attached, Option.filter_some, if_pos]
  have hnot : a.member ∉ (c.members.filter (Repair.isStale o.nodeName url)).map (·.id) := by
    intro hmem
    obtain ⟨m, hm, hid⟩ := List.mem_map.1 hmem
    obtain ⟨hlisted, hstale⟩ := List.mem_filter.1 hm
    exact hstays m hlisted hstale hid
  rw [Bool.not_eq_true', Bool.and_eq_false_iff, ← Bool.not_eq_true (List.contains _ _),
    List.contains_iff_mem]
  exact .inr hnot

variable (hnet : (d.network name).Orderly) (hids : (c.members.map (·.id)).Nodup)
  (htrusts : c.access.Trusts client.user) (ho : o.ReadsUrls ordinal url endpoint)

include hnet hids htrusts ho

/-- A repair removes all that the node has left behind before it registers the node anew. -/
theorem completes_repair_of_adding {result : Except (NodeError EngineError) (List Peer)}
    (hadding : Completes name now
      (d.setNetwork name ((d.network name).repaired now a.cluster c
        (Repair.isStale o.nodeName url) [] (d.network name).ids))
      (do
        let added : Member ← Procedure.boundedCall .addingMember o.memberTimeout
          (Activity.request (.manage client (.add [url])))
        Procedure.ofUrl
          (Repair.peersAfter o.names ordinal ⟨o.nodeName, url, added.id⟩ c.members) :
        Procedure EngineError (List Peer)).run d' result) :
    Completes name now d (repair o).run d' result := by
  let stale := Repair.isStale o.nodeName url
  -- listing
  have hlist := Network.manage_list hreaches.attached hreaches.cluster htrusts now
  let looked := (d.network name).setCluster a.cluster (c.expire now)
  have horderly : looked.Orderly :=
    hnet.setCluster_of_members_eq hreaches.cluster rfl
  have hc : looked.clusters[a.cluster]? = some (c.expire now) :=
    Network.clusters_setCluster hreaches.cluster _
  have hlooked : (c.expire now).keyspace.expire now = (c.expire now).keyspace :=
    c.keyspace.expire_expire (Nat.le_refl now)
  -- removing
  have hgone : ∀ m ∈ c.members.filter stale, m ∈ (c.expire now).members ∧ m.id ≠ a.member := by
    intro m hm
    obtain ⟨hmem, hstale⟩ := List.mem_filter.1 hm
    exact ⟨hmem, hstays m hmem hstale⟩
  have hdistinct : ((c.expire now).members.map (·.id)).Nodup := hids
  have hremoved := completes_removeMembers horderly hdistinct hlooked hreaches.attached hc htrusts
    (fun m hm => (hgone m hm).1) (hids.sublist (List.filter_sublist.map _))
    (fun m hm => (hgone m hm).2) d name o.memberTimeout
  have hleft : looked.without a.cluster (c.expire now) ((c.members.filter stale).map (·.id)) =
      (d.network name).repaired now a.cluster c stale [] (d.network name).ids := by
    calc looked.without a.cluster (c.expire now) ((c.members.filter stale).map (·.id))
      _ = (((d.network name).shutMembers fun b => b.cluster = a.cluster &&
            ((c.members.filter stale).map (·.id)).contains b.member).setCluster a.cluster
            (c.expire now)).setCluster a.cluster
            ((c.expire now).without ((c.members.filter stale).map (·.id))) := rfl
      _ = (d.network name).repaired now a.cluster c stale [] (d.network name).ids := by
        rw [Network.setCluster_setCluster, Network.repaired, List.append_nil]
        exact congrArg _ ((c.expire now).without_map_filter hids stale)
  rw [hleft] at hremoved
  rw [repair_eq ho.ordinal_eq ho.own ho.service]
  refine ((completes_connect hreaches.connects).boundedCall_ok _ _).andThen ?_
  refine ((completes_manage hlist).boundedCall_ok _ _).andThen ?_
  exact hremoved.andThen hadding

/-- A repair succeeds if nobody who stays has the URL of the node. -/
theorem completes_repair_of_free
    (hfree : ∀ m ∈ c.members, url ∈ m.peerUrls → Repair.isStale o.nodeName url m) (now : Instant) :
    let stale := Repair.isStale o.nodeName url
    ∃ peers id ids, id ≠ 0 ∧ id ∉ (c.members.filter (!stale ·)).map (·.id) ∧
      Repair.peersAfter o.names ordinal ⟨o.nodeName, url, id⟩ c.members = .ok peers ∧
      Completes name now d (repair o).run
        (d.setNetwork name ((d.network name).repaired now a.cluster c stale
          [⟨id, "", [url], []⟩] ids)) (.ok peers) := by
  intro stale
  let kept : Cluster := { c.expire now with members := c.members.filter (!stale ·) ++ [] }
  let left := (d.network name).repaired now a.cluster c stale [] (d.network name).ids
  have hmembers : kept.members = c.members.filter (!stale ·) := List.append_nil _
  have hc : left.clusters[a.cluster]? = some kept :=
    Network.clusters_setCluster hreaches.cluster _
  have hunused : ∀ m ∈ kept.members, url ∉ m.peerUrls := by
    intro m hm hurl
    rw [hmembers] at hm
    obtain ⟨hlisted, hkept⟩ := List.mem_filter.1 hm
    rw [Bool.not_eq_true', ← Bool.not_eq_true] at hkept
    exact hkept (hfree m hlisted hurl)
  obtain ⟨id, ids, hzero, hid, hadd⟩ := Network.manage_add
    (attached_repaired hreaches hstays now _) hc htrusts now hunused
  obtain ⟨peers, hpeers⟩ := ho.exists_peers ⟨o.nodeName, url, id⟩ c.members
  rw [hmembers] at hid hadd
  rw [Network.setCluster_repaired] at hadd
  refine ⟨peers, id, ids, hzero, hid, hpeers, ?_⟩
  refine completes_repair_of_adding hreaches hstays hnet hids htrusts ho ?_
  refine ((completes_manage_setNetwork hadd d name).boundedCall_ok _ _).andThen ?_
  rw [hpeers]
  exact .ofExcept _

/-- A repair fails if somebody who stays has the URL of the node. -/
theorem completes_repair_of_taken (hm : m ∈ c.members) (hurl : url ∈ m.peerUrls)
    (hother : ¬Repair.isStale o.nodeName url m) (now : Instant) :
    let stale := Repair.isStale o.nodeName url
    Completes name now d (repair o).run
      (d.setNetwork name ((d.network name).repaired now a.cluster c stale [] (d.network name).ids))
      (.error (.engine .addingMember (.alreadyExists (.memberAt url)))) := by
  intro stale
  let kept : Cluster := { c.expire now with members := c.members.filter (!stale ·) ++ [] }
  let left := (d.network name).repaired now a.cluster c stale [] (d.network name).ids
  have hc : left.clusters[a.cluster]? = some kept :=
    Network.clusters_setCluster hreaches.cluster _
  have hkept : m ∈ kept.members :=
    List.mem_append_left _ (List.mem_filter.2 ⟨hm, by simpa using hother⟩)
  have hadd := Network.manage_add_of_taken (attached_repaired hreaches hstays now _) hc
    htrusts now hkept hurl
  have hlooked : kept.expire now = kept := by
    have hexpired : (c.expire now).keyspace.expire now = (c.expire now).keyspace :=
      c.keyspace.expire_expire (Nat.le_refl now)
    simp only [kept, Cluster.expire] at hexpired ⊢
    rw [hexpired]
  rw [hlooked, Network.setCluster_self hc] at hadd
  refine completes_repair_of_adding hreaches hstays hnet hids htrusts ho ?_
  exact ((completes_manage_setNetwork hadd d name).boundedCall_error _ _).andThen_error

end Repair

/-- Nobody runs as a member that a repair has just added. -/
theorem attachment?_repaired_ne (hnet : (d.network name).Orderly)
    (hc : (d.network name).clusters[k]? = some c)
    (hid : id ∉ (c.members.filter (!stale ·)).map (·.id)) (now : Instant) (added : List Member)
    (ids : IdSource) (i : NodeId) :
    ((d.network name).repaired now k c stale added ids).attachment? i ≠ some ⟨k, id⟩ := by
  intro hattached
  have hkept := Network.attachment?_shutMembers (d.network name) (fun b =>
    b.cluster = k && ((c.members.filter stale).map (·.id)).contains b.member) i
  obtain ⟨hold, hstays⟩ := Option.filter_eq_some_iff.1 (hkept.symm.trans hattached)
  obtain ⟨c', hc', hlisted⟩ := hnet.listed hold
  rw [hc] at hc'
  cases hc'
  obtain ⟨m, hm, rfl⟩ := Cluster.hasMember_iff.1 hlisted
  cases hstale : stale m with
  | true =>
    have hgone : m.id ∈ (c.members.filter stale).map (·.id) :=
      List.mem_map.2 ⟨m, List.mem_filter.2 ⟨hm, hstale⟩, rfl⟩
    rw [← List.contains_iff_mem] at hgone
    rw [hgone, decide_eq_true rfl] at hstays
    cases hstays
  | false => exact hid (List.mem_map.2 ⟨m, List.mem_filter.2 ⟨hm, by simp [hstale]⟩, rfl⟩)

/-- A repair after a repair leaves what a single one would have left. -/
theorem repaired_repaired (hnet : (d.network name).Orderly)
    (hc : (d.network name).clusters[k]? = some c) (hm : stale m)
    (hid : m.id ∉ (c.members.filter (!stale ·)).map (·.id)) (hle : now ≤ later) {ids : IdSource}
    (hleft : ((d.network name).repaired now k c stale [m] ids).Orderly) (added : List Member)
    (ids' : IdSource) :
    ((d.network name).repaired now k c stale [m] ids).repaired later k
        { c.expire now with members := c.members.filter (!stale ·) ++ [m] } stale added ids' =
      (d.network name).repaired later k c stale added ids' := by
  let c' : Cluster := { c.expire now with members := c.members.filter (!stale ·) ++ [m] }
  have hgone : c'.members.filter stale = [m] := by
    rw [List.filter_append, List.filter_filter]
    simp [hm]
  have hkept : c'.members.filter (!stale ·) = c.members.filter (!stale ·) := by
    rw [List.filter_append, List.filter_filter]
    simp [hm]
  have hexpired : ({ c'.expire later with members := c.members.filter (!stale ·) ++ added } :
      Cluster) = { c.expire later with members := c.members.filter (!stale ·) ++ added } :=
    congrArg (fun keyspace => (⟨keyspace, c.access, _⟩ : Cluster)) (c.keyspace.expire_expire hle)
  -- nobody runs as the only entry that the second one removes
  let left := (d.network name).repaired now k c stale [m] ids
  have hnobody : (left.shutMembers fun b =>
      b.cluster = k && ((c'.members.filter stale).map (·.id)).contains b.member) = left := by
    refine hleft.shutMembers_eq_self ?_
    rintro i ⟨cluster, member⟩ hb
    rw [hgone, Bool.and_eq_false_iff, decide_eq_false_iff_not]
    by_contra! hsame
    obtain ⟨rfl, hmember⟩ := hsame
    obtain rfl : member = m.id := by simpa using hmember
    exact attachment?_repaired_ne hnet hc hid now [m] ids i hb
  rw [Network.repaired, hnobody, hkept, hexpired]
  simp only [left, Network.repaired, Network.setCluster, List.set_set]

/-- The registration that a repair leaves is replaced by the next one. -/
theorem completes_repair_repaired (hnet : (d.network name).Orderly)
    (hc : (d.network name).clusters[k]? = some c) (ho : o.ReadsUrls ordinal url endpoint)
    (hfree : ∀ m ∈ c.members, url ∈ m.peerUrls → Repair.isStale o.nodeName url m)
    (hid : id ∉ (c.members.filter (!Repair.isStale o.nodeName url ·)).map (·.id))
    (hle : now ≤ later) {ids : IdSource}
    (hd' : d' = d.setNetwork name ((d.network name).repaired now k c
      (Repair.isStale o.nodeName url) [⟨id, "", [url], []⟩] ids)) (hpast : d'.HasPast)
    (hreaches : d'.Reaches name ⟨[endpoint], o.tls, o.memberTimeout⟩ client a c')
    (hk : a.cluster = k) :
    let stale := Repair.isStale o.nodeName url
    ∃ peers id' ids', id' ≠ 0 ∧ id' ∉ (c.members.filter (!stale ·)).map (·.id) ∧
      Completes name later d' (repair o).run (d.setNetwork name
        ((d.network name).repaired later k c stale [⟨id', "", [url], []⟩] ids')) (.ok peers) := by
  intro stale
  let own : Member := ⟨id, "", [url], []⟩
  have hown : stale own := by simp [stale, own, Repair.isStale, Member.isUnstarted]
  have hnetwork : d'.network name = (d.network name).repaired now k c stale [own] ids := by
    rw [hd', network_setNetwork]
  have hlisted : c' = { c.expire now with members := c.members.filter (!stale ·) ++ [own] } := by
    have hcluster := hreaches.cluster
    rw [hnetwork, hk] at hcluster
    exact Option.some.inj (hcluster.symm.trans (Network.clusters_setCluster hc _))
  have hmembers : ∀ m ∈ c'.members, m = own ∨ m ∈ c.members ∧ stale m = false := by
    intro m hm
    rw [hlisted] at hm
    rcases List.mem_append.1 hm with hkept | hm
    · obtain ⟨hm, hkept⟩ := List.mem_filter.1 hkept
      exact .inr ⟨hm, by simpa using hkept⟩
    · exact .inl (List.mem_singleton.1 hm)
  -- the only entry of the node is that of nobody who runs
  have hstays : ∀ m ∈ c'.members, Repair.isStale o.nodeName url m → m.id ≠ a.member := by
    intro m hm hstale hsame
    rcases hmembers m hm with rfl | ⟨-, hkept⟩
    · have hattached := hreaches.attached
      have ha : a = ⟨k, id⟩ := by rw [← hk, show id = a.member from hsame]
      rw [hnetwork, ha] at hattached
      exact attachment?_repaired_ne hnet hc hid now [own] ids client.server hattached
    · exact absurd hstale (Bool.eq_false_iff.1 hkept)
  have hfree' : ∀ m ∈ c'.members, url ∈ m.peerUrls → Repair.isStale o.nodeName url m := by
    intro m hm hurl
    rcases hmembers m hm with rfl | ⟨hm, -⟩
    · exact hown
    · exact hfree m hm hurl
  obtain ⟨peers, id', ids', hzero, hid', -, hrun⟩ :=
    completes_repair_of_free hreaches hstays (hpast.orderly name)
      (hpast.hasIds name c' (List.mem_of_getElem? hreaches.cluster)).nodup
      (hreaches.trusts hpast) ho hfree' later
  have hkept : c'.members.filter (!stale ·) = c.members.filter (!stale ·) := by
    rw [hlisted, List.filter_append, List.filter_filter]
    simp [hown]
  have hleft : ((d.network name).repaired now k c stale [own] ids).Orderly :=
    hnetwork ▸ hpast.orderly name
  refine ⟨peers, id', ids', hzero, hkept ▸ hid', ?_⟩
  rw [hnetwork, hk, hlisted, repaired_repaired hnet hc hown hid hle hleft, hd',
    setNetwork_setNetwork] at hrun
  rw [hd']
  exact hrun

/-- Repairs converge. Take any network that can come about, among them those that were left by
    repairs of the same node that got to any of their requests. If the node gets to a server that
    does not run as what it has left behind, then its repair succeeds unless another node has
    started at its URL. Its entries are gone and there is a new one with an id of its own. Nobody
    else's entry has changed, and only who ran as one of its entries has stopped. A repair after
    that leaves what the first one would have left, but for the id. -/
theorem repair_converges (hd : d.HasPast) (ho : o.ReadsUrls ordinal url endpoint)
    (hreaches : d.Reaches name ⟨[endpoint], o.tls, o.memberTimeout⟩ client a c)
    (hstays : ∀ m ∈ c.members, Repair.isStale o.nodeName url m → m.id ≠ a.member) (now : Instant) :
    let stale := Repair.isStale o.nodeName url
    let kept := c.members.filter (!stale ·)
    let repaired (now : Instant) := (d.network name).repaired now a.cluster c stale
    let run (now : Instant) := backend.advance ⟨name, name⟩ none now (repair o).run
    (Repair.IsTaken o.nodeName url c.members →
      run now d = (d.setNetwork name (repaired now [] (d.network name).ids),
        .ended (.error (.engine .addingMember (.alreadyExists (.memberAt url)))))) ∧
    (¬Repair.IsTaken o.nodeName url c.members → ∃ d' peers id ids,
      run now d = (d', .ended (.ok peers)) ∧
      d' = d.setNetwork name (repaired now [⟨id, "", [url], []⟩] ids) ∧
      id ≠ 0 ∧ id ∉ kept.map (·.id) ∧ d'.HasPast ∧
      ∀ client' a' c' later, now ≤ later →
        d'.Reaches name ⟨[endpoint], o.tls, o.memberTimeout⟩ client' a' c' →
        a'.cluster = a.cluster → ∃ peers' id' ids',
          run later d' = (d.setNetwork name (repaired later [⟨id', "", [url], []⟩] ids'),
            .ended (.ok peers')) ∧
          id' ≠ 0 ∧ id' ∉ kept.map (·.id)) := by
  intro stale kept repaired run
  have hnet := hd.orderly name
  have hids := (hd.hasIds name c (List.mem_of_getElem? hreaches.cluster)).nodup
  have htrusts := hreaches.trusts hd
  refine ⟨fun ⟨m, hm, hstarted, hname, hurl⟩ => ?_, fun hfree => ?_⟩
  · have hother : ¬Repair.isStale o.nodeName url m := by
      simpa [Repair.isStale, hstarted] using hname
    exact (completes_repair_of_taken hreaches hstays hnet hids htrusts ho hm hurl hother
      now).advance_eq
  · have hstale : ∀ m ∈ c.members, url ∈ m.peerUrls → stale m :=
      fun m hm hurl => Repair.isStale_of_not_isTaken hfree hm hurl
    obtain ⟨peers, id, ids, hzero, hid, -, hrun⟩ :=
      completes_repair_of_free hreaches hstays hnet hids htrusts ho hstale now
    have hpast := hd.completes hrun
    refine ⟨_, peers, id, ids, hrun.advance_eq, rfl, hzero, hid, hpast, ?_⟩
    intro client' a' c' later hle hreaches' hsame
    obtain ⟨peers', id', ids', hzero', hid', hrun'⟩ := completes_repair_repaired hnet
      hreaches.cluster ho hstale hid hle rfl hpast hreaches' hsame
    exact ⟨peers', id', ids', hrun'.advance_eq, hzero', hid'⟩

end Deployment

/-! ## A trial -/

namespace Trial

/-- A URL that node `1` had before. -/
def formerUrl : Url := .https "former" ServiceNames.peerPort

/-- What node `1` was started with there. -/
def former : ServerConfig where
  name := plain.nodeName 1
  dataDir := "b"
  initialCluster := ⟨[(plain.nodeName 0, peerUrl 0)]⟩
  founding := .existing
  advertisedPeerUrls := [formerUrl]

/-- The settings by which node `0` founds a cluster. -/
def founder : ServerConfig :=
  (launcher plain 0 "a").options.settings [] .new (peerUrl 0)
    (.https (plain.host (plain.nodeName 0)) ServiceNames.clientPort)

/-- Node `1` runs under a former URL and has been registered at its URL as well. -/
def halfRepaired : Deployment where
  machine := { files, clock := 0 }
  networks := [("net", ({ ids := { draw := (· + 1) } } : Network).afterAll
    [.start files 0 founder, .bindService plain.internal plain.headless,
      .manage 0 ⟨0, administrator⟩ (.add [formerUrl]), .start files 0 former,
      .manage 0 ⟨0, administrator⟩ (.add [peerUrl 1])])]
  streams := fun _ n => n + 1

theorem hasPast_halfRepaired : halfRepaired.HasPast := .of_networks_eq rfl

/-- The entry of node `0`. -/
def founderEntry : Member := ⟨1, founder.name, [peerUrl 0], founder.advertisedClientUrls⟩

/-- The registry with what node `1` has left behind. -/
def halfRegistry : Cluster := (halfRepaired.network "net").clusters[0]?.getD { members := [] }

theorem members_halfRegistry : halfRegistry.members =
    [founderEntry, ⟨2, plain.nodeName 1, [formerUrl], []⟩, ⟨3, "", [peerUrl 1], []⟩] := by
  decide +kernel

/-- How node `1` gets to the registry. -/
def toService : ClientConfig :=
  ⟨[.https plain.internal ServiceNames.clientPort], newcomer.tls, newcomer.memberTimeout⟩

theorem clusters_halfRepaired : (halfRepaired.network "net").clusters = [halfRegistry] := by
  have hlength : (halfRepaired.network "net").clusters.length = 1 := by decide +kernel
  obtain ⟨c, hc⟩ := List.length_eq_one_iff.1 hlength
  rw [halfRegistry, hc]
  rfl

theorem reaches_halfRepaired :
    halfRepaired.Reaches "net" toService ⟨0, administrator⟩ ⟨0, 1⟩ halfRegistry where
  connects := by decide +kernel
  administers := rfl
  attached := by decide +kernel
  cluster := by rw [clusters_halfRepaired]; rfl

/-- Whether an entry is one that node `1` has left behind. -/
def leftBehind : Member → Bool := Repair.isStale newcomer.nodeName (peerUrl 1)

theorem members_repaired (now : Instant) (added : List Member) (ids : IdSource) :
    ((halfRepaired.network "net").repaired now 0 halfRegistry leftBehind added
      ids).clusters.map (·.members) = [founderEntry :: added] := by
  have hkept : halfRegistry.members.filter (!leftBehind ·) = [founderEntry] := by decide +kernel
  have hclusters : ((halfRepaired.network "net").repaired now 0 halfRegistry leftBehind added
      ids).clusters = (halfRepaired.network "net").clusters.set 0 { halfRegistry.expire now with
        members := halfRegistry.members.filter (!leftBehind ·) ++ added } := rfl
  rw [hclusters, clusters_halfRepaired, hkept]
  rfl

/-- The client gets there again after the repair. -/
theorem reaches_repaired (added : List Member) (ids : IdSource) : ∃ c,
    (halfRepaired.setNetwork "net" ((halfRepaired.network "net").repaired 0 0 halfRegistry
      leftBehind added ids)).Reaches "net" toService ⟨0, administrator⟩ ⟨0, 1⟩ c := by
  have hconnects : ((halfRepaired.network "net").repaired 0 0 halfRegistry leftBehind []
      { draw := id }).connect files toService = .ok ⟨0, administrator⟩ := by
    decide +kernel
  have hattached : ((halfRepaired.network "net").repaired 0 0 halfRegistry leftBehind []
      { draw := id }).attachment? 0 = some ⟨0, 1⟩ := by
    decide +kernel
  refine ⟨{ halfRegistry.expire 0 with
    members := halfRegistry.members.filter (!leftBehind ·) ++ added }, ?_, rfl, ?_, ?_⟩
  · rw [Deployment.network_setNetwork]
    exact hconnects
  · rw [Deployment.network_setNetwork]
    exact hattached
  · rw [Deployment.network_setNetwork]
    exact Network.clusters_setCluster reaches_halfRepaired.cluster _

end Trial

/-- A repair of a membership that was repaired by half, and another one after it. -/
theorem Deployment.repair_converges_half_repaired :
    Trial.halfRegistry.members = [Trial.founderEntry,
        ⟨2, Trial.newcomer.nodeName, [Trial.formerUrl], []⟩, ⟨3, "", [Trial.peerUrl 1], []⟩] ∧
      Trial.halfRepaired.HasPast ∧
      Trial.newcomer.ReadsUrls 1 (Trial.peerUrl 1)
        (.https Trial.plain.internal ServiceNames.clientPort) ∧
      Trial.halfRepaired.Reaches "net" Trial.toService ⟨0, administrator⟩ ⟨0, 1⟩
        Trial.halfRegistry ∧
      (∀ m ∈ Trial.halfRegistry.members,
        Repair.isStale Trial.newcomer.nodeName (Trial.peerUrl 1) m → m.id ≠ 1) ∧
      ∃ d' peers id, backend.advance ⟨"net", "net"⟩ none 0 (repair Trial.newcomer).run
          Trial.halfRepaired = (d', .ended (.ok peers)) ∧
        (d'.network "net").clusters.map (·.members) =
          [[Trial.founderEntry, ⟨id, "", [Trial.peerUrl 1], []⟩]] ∧
        ∃ d'' peers' id', backend.advance ⟨"net", "net"⟩ none 1 (repair Trial.newcomer).run d' =
            (d'', .ended (.ok peers')) ∧
          (d''.network "net").clusters.map (·.members) =
            [[Trial.founderEntry, ⟨id', "", [Trial.peerUrl 1], []⟩]] := by
  have hreads := Trial.asWritten_plain.readsUrls (o := Trial.newcomer) Trial.ordinal?_one
  have hstays : ∀ m ∈ Trial.halfRegistry.members,
      Repair.isStale Trial.newcomer.nodeName (Trial.peerUrl 1) m → m.id ≠ 1 := by
    decide +kernel
  have hfree : ¬Repair.IsTaken Trial.newcomer.nodeName (Trial.peerUrl 1)
      Trial.halfRegistry.members := by
    simp only [Repair.IsTaken, not_exists, not_and]
    decide +kernel
  refine ⟨Trial.members_halfRegistry, Trial.hasPast_halfRepaired, hreads,
    Trial.reaches_halfRepaired, hstays, ?_⟩
  obtain ⟨-, hconverges⟩ := repair_converges Trial.hasPast_halfRepaired hreads
    Trial.reaches_halfRepaired hstays 0
  obtain ⟨d', peers, id, ids, hrun, rfl, -, -, -, hagain⟩ := hconverges hfree
  obtain ⟨c, hreaches⟩ := Trial.reaches_repaired [⟨id, "", [Trial.peerUrl 1], []⟩] ids
  obtain ⟨peers', id', ids', hrun', -⟩ := hagain _ _ c 1 (by decide) hreaches rfl
  refine ⟨_, peers, id, hrun, ?_, _, peers', id', hrun', ?_⟩
  · rw [network_setNetwork]
    exact Trial.members_repaired 0 _ ids
  · rw [network_setNetwork]
    exact Trial.members_repaired 1 _ ids'

end ClusterVault
