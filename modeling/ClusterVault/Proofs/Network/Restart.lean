import ClusterVault.Proofs.Network.Joining
import ClusterVault.Proofs.Network.Locality

/-!
# Coming back

A server that starts again on its data directory becomes the member that it was, in the cluster as
that has become in the meantime. All that decides is whether the cluster still lists the member. This
module shows that the directories remember every server that ever became a member, and that a server
that starts on one of them never founds a cluster.

## Main definitions

- `Network.WasAttached`: a server became a member, whether or not it still runs
- `Network.Recorded`: the data directories tell who became a member
- `Network.ComesBack`, `Network.TurnedAway`: the two ways in which a restart ends

## Main statements

- `Network.restart_on_data_directory`: how a restart ends, in every network that can come about

## Design notes

Servers of one cluster answer alike, up to the size of the transactions that each of them takes: that
limit belongs to the server, and a server may start again with another one.
-/

namespace ClusterVault

/-! ## Tables -/

theorem modify_length_concat {α : Type} (l : List α) (x : α) (f : α → α) :
    (l ++ [x]).modify l.length f = l ++ [f x] := by
  induction l with
  | nil => rfl
  | cons y l ih => exact congrArg (y :: ·) ih

section Table

variable {α β : Type} [DecidableEq α] [DecidableEq β] {key : α} {value : β} {table : List (α × β)}
  {keys : List α}

/-- What is set to a value goes when all entries with that value go. -/
theorem filter_setEntry (h : ∀ v, table.lookup key = some v → v = value) :
    (setEntry key value table).filter (·.2 ≠ value) = table.filter (·.2 ≠ value) := by
  induction table with
  | nil => simp [setEntry]
  | cons entry rest ih =>
    obtain ⟨k, v⟩ := entry
    rw [setEntry]
    by_cases hk : k = key
    · subst hk
      have hv : v = value := h v List.lookup_cons_self
      simp [hv]
    · have hrest : ∀ v, rest.lookup key = some v → v = value := by
        intro v hv
        refine h v ?_
        rw [List.lookup_cons, beq_eq_false_iff_ne.2 (Ne.symm hk)]
        exact hv
      rw [if_neg hk, List.filter_cons, List.filter_cons, ih hrest]

theorem filter_foldl_setEntry (h : ∀ key ∈ keys, ∀ v, table.lookup key = some v → v = value) :
    (keys.foldl (fun table key => setEntry key value table) table).filter (·.2 ≠ value) =
      table.filter (·.2 ≠ value) := by
  induction keys generalizing table with
  | nil => rfl
  | cons key keys ih =>
    rw [List.forall_mem_cons] at h
    rw [List.foldl_cons, ih, filter_setEntry h.1]
    intro key' hkey' v hv
    rw [lookup_setEntry] at hv
    split at hv
    · exact (Option.some.inj hv).symm
    · exact h.2 key' hkey' v hv

end Table

/-! ## Limits -/

/-- A request is not too large for a server that takes transactions up to a limit. -/
def Command.Fits (limit : Nat) : Command → Prop
  | .transact t => t.maxBranchLength ≤ limit ∧ t.conditions.length ≤ limit
  | _ => True

/-- The limit of a server says nothing but which transactions are too large. -/
theorem Cluster.handle_of_fits {command : Command} {limit limit' : Nat} (h : command.Fits limit)
    (h' : command.Fits limit') (c : Cluster) (user : String) (now : Instant) :
    c.handle user now limit command = c.handle user now limit' command := by
  cases command with
  | transact t =>
    have hsmall {limit : Nat} (hfits : t.maxBranchLength ≤ limit ∧ t.conditions.length ≤ limit) :
        (t.maxBranchLength > limit || t.conditions.length > limit) = false := by
      simpa using hfits
    show c.transact user limit t = c.transact user limit' t
    rw [Cluster.transact, Cluster.transact, hsmall h, hsmall h']
    rfl
  | _ => rfl

namespace Network

/-! ## What the data directories tell -/

/-- A server with a data directory became a member, whether or not it still runs. -/
def WasAttached (net : Network) (id : NodeId) (dir : FilePath) (a : Attachment) : Prop :=
  ∃ node, net.nodes[id]? = some node ∧ FilePath.ofString node.config.dataDir = dir ∧
    node.attachment = some a

/-- The data directories tell who became a member. -/
structure Recorded (net : Network) : Prop where
  /-- None of the servers that became a member is forgotten. -/
  remembers : ∀ {id : NodeId} {dir : FilePath} {a : Attachment}, net.WasAttached id dir a →
    ∃ r, net.dataDirs.lookup dir = some r
  /-- Whatever is remembered has been. -/
  witnessed : ∀ {dir : FilePath} {r : Attachment}, net.dataDirs.lookup dir = some r →
    ∃ id, net.WasAttached id dir r
  founded : ∀ {dir : FilePath} {r : Attachment}, net.dataDirs.lookup dir = some r →
    ∃ c, net.clusters[r.cluster]? = some c

variable {event : Event} {events : List Event} {net net' taken : Network} {id i j : NodeId}
  {node : ServerNode} {a b r : Attachment} {c : Cluster} {config other : ServerConfig}
  {now : Instant} {user : String} {dir : FilePath} {files files' : FileSystem}

/-- The data directory and the membership of a server. -/
def membership (n : ServerNode) : FilePath × Option Attachment :=
  (FilePath.ofString n.config.dataDir, n.attachment)

theorem wasAttached_iff : net.WasAttached id dir a ↔
    (net.nodes.map membership)[id]? = some (dir, some a) := by
  simp [WasAttached, membership, List.getElem?_map]

theorem wasAttached_attach (hnode : net.nodes[id]? = some node) :
    (net.attach id node.config.dataDir a).WasAttached i dir b ↔
      if i = id then FilePath.ofString node.config.dataDir = dir ∧ a = b
      else net.WasAttached i dir b := by
  rw [WasAttached, attach, getElem?_updateNode]
  split
  · next hi =>
    subst hi
    simp [hnode]
  · rfl

namespace Recorded

theorem of_empty (ids : IdSource) : ({ ids } : Network).Recorded where
  remembers := by
    rintro id dir a ⟨node, hnode, -⟩
    simp at hnode
  witnessed h := by cases h
  founded h := by cases h

/-- Whatever makes nobody a member leaves the records right. -/
theorem of_membership_eq (h : net.Recorded)
    (hnodes : net'.nodes.map membership = net.nodes.map membership)
    (hdirs : net'.dataDirs = net.dataDirs) (hclusters : net.clusters.length ≤ net'.clusters.length) :
    net'.Recorded where
  remembers hattached := by
    rw [wasAttached_iff, hnodes, ← wasAttached_iff] at hattached
    rw [hdirs]
    exact h.remembers hattached
  witnessed hr := by
    rw [hdirs] at hr
    obtain ⟨i, hattached⟩ := h.witnessed hr
    exact ⟨i, by rwa [wasAttached_iff, hnodes, ← wasAttached_iff]⟩
  founded hr := by
    rw [hdirs] at hr
    obtain ⟨c, hc⟩ := h.founded hr
    exact ⟨_, List.getElem?_eq_getElem
      (Nat.lt_of_lt_of_le (List.getElem?_eq_some_iff.1 hc).1 hclusters)⟩

theorem take (h : net.Recorded)
    (hlisten : { net with nodes := net.nodes ++ [({ config } : ServerNode)] }.listen net.nodes.length
      config.urls = .ok net') : net'.Recorded := by
  obtain ⟨rfl, -, -⟩ := take_eq_ok hlisten
  -- the new server is not a member yet
  have hsame (i : NodeId) (dir : FilePath) (a : Attachment) :
      ({ net with
        nodes := net.nodes ++ [({ config } : ServerNode)]
        listeners := config.urls.foldl (fun table url => setEntry url net.nodes.length table)
          net.listeners } : Network).WasAttached i dir a ↔ net.WasAttached i dir a := by
    simp only [WasAttached, List.getElem?_append]
    split
    · rfl
    · next hge =>
      rw [List.getElem?_eq_none (Nat.le_of_not_lt hge)]
      cases i - net.nodes.length <;> simp
  exact ⟨fun hattached => h.remembers ((hsame _ _ _).1 hattached),
    fun hr => (h.witnessed hr).imp fun i hattached => (hsame i _ _).2 hattached, h.founded⟩

theorem attach (h : net.Recorded) (hnode : net.nodes[id]? = some node)
    (hc : net.clusters[a.cluster]? = some c) :
    (net.attach id node.config.dataDir a).Recorded where
  remembers {i dir b} hattached := by
    rw [wasAttached_attach hnode] at hattached
    show ∃ r, (setEntry _ a net.dataDirs).lookup dir = some r
    rw [lookup_setEntry]
    split
    · exact ⟨a, rfl⟩
    · next hdir =>
      split at hattached
      · exact absurd hattached.1.symm hdir
      · exact h.remembers hattached
  witnessed {dir r} hr := by
    have hr : (setEntry _ a net.dataDirs).lookup dir = some r := hr
    rw [lookup_setEntry] at hr
    split at hr
    · next hdir => exact ⟨id, (wasAttached_attach hnode).2 (by simp [hdir, Option.some.inj hr])⟩
    · next hdir =>
      obtain ⟨i, hattached⟩ := h.witnessed hr
      have hi : i ≠ id := by
        rintro rfl
        obtain ⟨n, hn, rfl, -⟩ := hattached
        rw [hnode] at hn
        cases hn
        exact hdir rfl
      exact ⟨i, (wasAttached_attach hnode).2 (by simpa [hi] using hattached)⟩
  founded {dir r} hr := by
    have hr : (setEntry _ a net.dataDirs).lookup dir = some r := hr
    rw [lookup_setEntry] at hr
    split at hr
    · exact Option.some.inj hr ▸ ⟨c, hc⟩
    · exact h.founded hr

theorem setCluster (h : net.Recorded) (k : ClusterId) (c : Cluster) : (net.setCluster k c).Recorded :=
  h.of_membership_eq rfl rfl (Nat.le_of_eq (length_setCluster net k c).symm)

/-- Every move leaves the records right. -/
theorem move (hmove : Move event net net') (h : net.Recorded) : net'.Recorded := by
  cases hmove with
  | route => exact h.of_membership_eq rfl rfl (Nat.le_refl _)
  | take _ hlisten => exact h.take hlisten
  | leave =>
    exact h.of_membership_eq (map_nodes_close (fun _ => rfl) net _) (dataDirs_close net _)
      (Nat.le_of_eq (congrArg List.length (clusters_close net _).symm))
  | wait =>
    exact h.of_membership_eq (map_nodes_updateNode net _ fun _ => rfl) rfl (Nat.le_refl _)
  | look => exact h.setCluster _ _
  | serve => exact h.setCluster _ _
  | found hnode hconfig _ _ hfound =>
    subst hconfig
    obtain ⟨_, _, -, -, -, -, rfl⟩ := bootstrap_eq_ok hfound
    refine attach ?_ hnode List.getElem?_concat_length
    refine h.of_membership_eq rfl rfl ?_
    rw [List.length_append]
    exact Nat.le_add_right _ _
  | restore hnode _ hc _ => exact h.attach hnode hc
  | join hnode hc _ => exact (h.setCluster _ _).attach hnode (clusters_setCluster hc _)
  | add => exact (h.setCluster _ _).of_membership_eq rfl rfl (Nat.le_refl _)
  | remove =>
    refine (h.setCluster _ _).of_membership_eq (map_nodes_stopMember (fun _ => rfl) _ _)
      (dataDirs_stopMember _ _) (Nat.le_of_eq ?_)
    rw [clusters_stopMember]

/-- The records are right after whatever happens. -/
theorem afterAll (h : net.Recorded) (events : List Event) : (net.afterAll events).Recorded :=
  afterAll_of_moves (fun _ _ _ => move) h events

end Recorded

/-! ## Servers of one cluster -/

/-- Servers of one cluster answer alike, up to the size of the transactions they take. -/
theorem serve_eq_of_cluster_eq (hi : net.attachment? i = some a) (hj : net.attachment? j = some b)
    (hcluster : a.cluster = b.cluster) (hconfig : net.settings? i = some config)
    (hother : net.settings? j = some other) {command : Command}
    (hlimit : config.maxOperations = other.maxOperations ∨
      command.Fits config.maxOperations ∧ command.Fits other.maxOperations) :
    net.serve now i user command = net.serve now j user command := by
  obtain ⟨n, hn, -, -, hk, hsettings⟩ := node_of_attachment? hi
  obtain ⟨m, hm, -, -, hk', hsettings'⟩ := node_of_attachment? hj
  obtain rfl : n.config = config := Option.some.inj (hsettings.symm.trans hconfig)
  obtain rfl : m.config = other := Option.some.inj (hsettings'.symm.trans hother)
  have hserve (c : Cluster) : c.serve user now n.config.maxOperations command =
      c.serve user now m.config.maxOperations command := by
    rcases hlimit with hsame | ⟨hfits, hfits'⟩
    · rw [hsame]
    · rw [Cluster.serve, Cluster.serve, Cluster.handle_of_fits hfits hfits']
  simp only [serve, hn, hm, hk, hk', hcluster, hserve]

theorem manage_eq_of_cluster_eq (hi : net.attachment? i = some a)
    (hj : net.attachment? j = some b) (hcluster : a.cluster = b.cluster)
    (hc : net.clusters[a.cluster]? = some c) (command : MemberCommand) :
    net.manage now ⟨i, user⟩ command = net.manage now ⟨j, user⟩ command := by
  obtain ⟨n, hn, -, -, hk, -⟩ := node_of_attachment? hi
  obtain ⟨m, hm, -, -, hk', -⟩ := node_of_attachment? hj
  rw [hcluster] at hc hk
  simp only [manage, hn, hm, hk, hk', hc]

/-! ## Restarts -/

/-- A server came back as a member of a cluster, and is one of those that run it. -/
structure ComesBack (net net' : Network) (now : Instant) (id : NodeId) (config : ServerConfig)
    (r : Attachment) : Prop where
  ready : net'.isReady id
  attached : net'.attachment? id = some r
  settings : net'.settings? id = some config
  /-- There is no other cluster than before, and no other state than time has made of it. -/
  cluster : ∃ c, net.clusters[r.cluster]? = some c ∧
    net'.clusters = net.clusters.set r.cluster (c.expire now)
  serves : ∀ i a other, net'.attachment? i = some a → a.cluster = r.cluster →
    net'.settings? i = some other → ∀ instant user command,
      config.maxOperations = other.maxOperations ∨
        Command.Fits config.maxOperations command ∧ Command.Fits other.maxOperations command →
      net'.serve instant id user command = net'.serve instant i user command
  manages : ∀ i a, net'.attachment? i = some a → a.cluster = r.cluster →
    ∀ instant user command,
      net'.manage instant ⟨id, user⟩ command = net'.manage instant ⟨i, user⟩ command

/-- A server was not let in again, and nothing is left of it. -/
structure TurnedAway (net net' : Network) (now : Instant) (r : Attachment) : Prop where
  listeners : net'.listeners = net.listeners
  dataDirs : net'.dataDirs = net.dataDirs
  cluster : ∃ c, net.clusters[r.cluster]? = some c ∧
    net'.clusters = net.clusters.set r.cluster (c.expire now)

theorem restore_eq (hc : net.clusters[r.cluster]? = some c) :
    net.restore now id config r =
      if c.hasMember r.member then
        ((net.setCluster r.cluster (c.expire now)).attach id config.dataDir r, .ok ())
      else (net.setCluster r.cluster (c.expire now),
        .error (.notFound (.departed r.member config.dataDir))) := by
  have hmember : (c.expire now).hasMember r.member = c.hasMember r.member := rfl
  simp only [restore, hc, hmember]

/-- At a URL that is free, the table knows nobody. -/
theorem Orderly.lookup_eq_none (h : net.Orderly) {url : Url} (hfree : net.isListening url = false) :
    net.listeners.lookup url = none := by
  cases hlookup : net.listeners.lookup url with
  | none => rfl
  | some i =>
    obtain ⟨config, hconfig, -⟩ := h.advertised (mem_of_lookup hlookup)
    obtain ⟨node, hnode, -⟩ := settings?_eq_some.1 hconfig
    rw [isListening_of_lookup net hlookup (by rw [hnode]; rfl)] at hfree
    cases hfree

/-- Who is in the table is no server that is still to come. -/
theorem Orderly.lt_of_mem_listeners (h : net.Orderly) {url : Url}
    (hentry : (url, i) ∈ net.listeners) : i < net.nodes.length := by
  obtain ⟨config, hconfig, -⟩ := h.advertised hentry
  obtain ⟨node, hnode, -⟩ := settings?_eq_some.1 hconfig
  exact (List.getElem?_eq_some_iff.1 (running?_eq_some.1 hnode).1).1

/-- A server that is closed before it has come up leaves exactly the entries that it made. -/
theorem Orderly.close_taken (h : net.Orderly)
    (hlisten : { net with nodes := net.nodes ++ [({ config } : ServerNode)] }.listen
      net.nodes.length config.urls = .ok taken) (clusters : List Cluster) :
    { taken with clusters }.close net.nodes.length =
      { net with nodes := net.nodes ++ [{ config, closed := true }], clusters } := by
  obtain ⟨rfl, hrunning, hfree⟩ := take_eq_ok hlisten
  have hunknown : ∀ url ∈ config.urls, net.listeners.lookup url = none := by
    intro url hurl
    rw [Option.eq_none_iff_forall_ne_some]
    intro i hi
    obtain ⟨config', hconfig', -⟩ := h.advertised (mem_of_lookup hi)
    rw [settings?, hfree url hurl i hi] at hconfig'
    cases hconfig'
  have htable : (config.urls.foldl (fun table url => setEntry url net.nodes.length table)
      net.listeners).filter (·.2 ≠ net.nodes.length) = net.listeners := by
    rw [filter_foldl_setEntry]
    · refine List.filter_eq_self.2 fun entry hentry => ?_
      simpa using Nat.ne_of_lt (h.lt_of_mem_listeners hentry)
    · intro url hurl i hi
      rw [hunknown url hurl] at hi
      cases hi
  rw [close_eq]
  · simp only [updateNode, unlisten, modify_length_concat, htable]
  · exact Option.isSome_iff_exists.2 ⟨_, (hrunning _).trans (if_pos rfl)⟩

/-- A server that starts on a directory that remembers a member never founds a cluster, however the
    start ends. -/
theorem length_clusters_start_of_remembered (hr : net.remembered? config.dataDir = some r)
    (files : FileSystem) (now : Instant) :
    (net.start files now config).1.clusters.length = net.clusters.length := by
  refine (net.length_clusters_start files now config).resolve_right ?_
  rintro ⟨-, hnew, -⟩
  rw [hnew] at hr
  cases hr

section Restart

variable (h : net.Orderly) (hfounding : config.founding = .new)
  (hr : net.remembered? config.dataDir = some r) (hc : net.clusters[r.cluster]? = some c)
  (hpeers : config.advertisedPeerUrls ≠ [])
  (hdirectory : files.makeDirectories config.dataDir = (files', none))
  (hfree : ∀ url ∈ config.urls, net.isListening url = false)

include h hfounding hr hc hpeers hdirectory hfree

/-- A server comes back as the member that its data directory remembers, if that is still listed. -/
theorem exists_start_of_listed (hmember : c.hasMember r.member) (now : Instant) :
    ∃ net', net.start files now config = (net', files', .ok net.nodes.length) ∧
      net.ComesBack net' now net.nodes.length config r := by
  obtain ⟨taken, hlisten⟩ := exists_take fun url hurl => h.lookup_eq_none (hfree url hurl)
  obtain ⟨heq, hrunning, -⟩ := take_eq_ok hlisten
  obtain ⟨-, hown, -⟩ := attachment?_take hrunning
  have htakenClusters : taken.clusters = net.clusters := by rw [heq]
  have hremembered : taken.remembered? config.dataDir = some r := by rw [heq]; exact hr
  rw [← htakenClusters] at hc
  let net' := (taken.setCluster r.cluster (c.expire now)).attach net.nodes.length config.dataDir r
  have hstart : net.start files now config = (net', files', .ok net.nodes.length) := by
    rw [start_eq_of_take hpeers hdirectory hlisten]
    simp only [comeUp, hfounding, hremembered, restore_eq hc, hmember, if_true]
    rfl
  have hsettings : net'.settings? net.nodes.length = some config := by
    rw [settings?_attach]
    exact hown
  have hattached : net'.attachment? net.nodes.length = some r := by
    have hsame : (taken.setCluster r.cluster (c.expire now)).settings? net.nodes.length =
      some config := hown
    rw [attachment?_attach, if_pos rfl, hsame, Option.map_some]
  refine ⟨net', hstart, ?_, hattached, hsettings, ⟨c, htakenClusters ▸ hc, ?_⟩, ?_, ?_⟩
  · obtain ⟨node, hnode, -, hattachment, -⟩ := node_of_attachment? hattached
    simp [isReady, hnode, hattachment]
  · exact congrArg (·.set r.cluster (c.expire now)) htakenClusters
  · intro i a other hi hcluster hother instant user command hlimit
    exact serve_eq_of_cluster_eq hattached hi hcluster.symm hsettings hother hlimit
  · intro i a hi hcluster instant user command
    exact manage_eq_of_cluster_eq hattached hi hcluster.symm (clusters_setCluster hc _) command

/-- A server whose member has been removed is turned away, and leaves no trace. -/
theorem exists_start_of_not_listed (hmember : ¬c.hasMember r.member) (now : Instant) :
    ∃ net', net.start files now config =
        (net', files', .error (.notFound (.departed r.member config.dataDir))) ∧
      net.TurnedAway net' now r := by
  obtain ⟨taken, hlisten⟩ := exists_take fun url hurl => h.lookup_eq_none (hfree url hurl)
  obtain ⟨heq, -, -⟩ := take_eq_ok hlisten
  have htakenClusters : taken.clusters = net.clusters := by rw [heq]
  have hremembered : taken.remembered? config.dataDir = some r := by rw [heq]; exact hr
  rw [← htakenClusters] at hc
  have hstart : net.start files now config =
      ((taken.setCluster r.cluster (c.expire now)).close net.nodes.length, files',
        .error (.notFound (.departed r.member config.dataDir))) := by
    rw [start_eq_of_take hpeers hdirectory hlisten]
    simp only [comeUp, hfounding, hremembered, restore_eq hc, hmember]
    rfl
  have hclosed := h.close_taken hlisten (taken.clusters.set r.cluster (c.expire now))
  rw [htakenClusters] at hc
  refine ⟨_, hstart.trans (congrArg (·, _) hclosed), rfl, rfl, c, hc, ?_⟩
  rw [htakenClusters]

end Restart

/-- In every network that can come about, the data directory of a server that became a member
    remembers a member, which is that one unless another server became a member with the same
    directory. A server that starts on the directory to found a cluster never founds one. If its URLs
    are free and the directory can be made, it comes back as the member that is remembered, at once
    and in the cluster as that is by then, as long as the member is listed; and it is turned away
    without a trace if it is not. -/
theorem restart_on_data_directory (ids : IdSource) (events : List Event) (id : NodeId)
    (node : ServerNode) (a : Attachment) :
    let net := ({ ids } : Network).afterAll events
    net.nodes[id]? = some node → node.attachment = some a →
    ∃ r, net.remembered? node.config.dataDir = some r ∧
      (r = a ∨ ∃ j ≠ id, net.WasAttached j (FilePath.ofString node.config.dataDir) r) ∧
      ∀ files now config, config.founding = .new →
        FilePath.ofString config.dataDir = FilePath.ofString node.config.dataDir →
        (net.start files now config).1.clusters.length = net.clusters.length ∧
        (config.advertisedPeerUrls ≠ [] → (files.makeDirectories config.dataDir).2 = none →
          (∀ url ∈ config.urls, net.isListening url = false) →
          (net.Lists r ∧ (∃ net' files',
              net.start files now config = (net', files', .ok net.nodes.length) ∧
              net.ComesBack net' now net.nodes.length config r) ∨
            ¬net.Lists r ∧ ∃ net' files',
              net.start files now config =
                (net', files', .error (.notFound (.departed r.member config.dataDir))) ∧
              net.TurnedAway net' now r)) := by
  intro net hnode hattachment
  have horderly : net.Orderly := (Orderly.of_empty ids).afterAll events
  have hrecorded : net.Recorded := (Recorded.of_empty ids).afterAll events
  have hattached : net.WasAttached id (FilePath.ofString node.config.dataDir) a :=
    ⟨node, hnode, rfl, hattachment⟩
  obtain ⟨r, hr⟩ := hrecorded.remembers hattached
  refine ⟨r, hr, ?_, fun files now config hfounding hdir => ?_⟩
  · obtain ⟨j, hj⟩ := hrecorded.witnessed hr
    by_cases hsame : j = id
    · subst hsame
      rw [wasAttached_iff] at hattached hj
      have hboth := hattached.symm.trans hj
      exact .inl (by simpa using hboth.symm)
    · exact .inr ⟨j, hsame, hj⟩
  · have hremembered : net.remembered? config.dataDir = some r := by rw [remembered?, hdir]; exact hr
    refine ⟨length_clusters_start_of_remembered hremembered files now, ?_⟩
    intro hpeers hmade hfree
    have hdirectory : files.makeDirectories config.dataDir =
        ((files.makeDirectories config.dataDir).1, none) := Prod.ext rfl hmade
    obtain ⟨c, hc⟩ := hrecorded.founded hr
    by_cases hmember : c.hasMember r.member
    · obtain ⟨net', hstart, hback⟩ := exists_start_of_listed horderly hfounding hremembered hc hpeers
        hdirectory hfree hmember now
      exact .inl ⟨⟨c, hc, hmember⟩, net', _, hstart, hback⟩
    · obtain ⟨net', hstart, haway⟩ := exists_start_of_not_listed horderly hfounding hremembered hc
        hpeers hdirectory hfree hmember now
      refine .inr ⟨?_, net', _, hstart, haway⟩
      rintro ⟨c', hc', hlisted⟩
      rw [hc] at hc'
      cases hc'
      exact hmember hlisted

/-- The network on which a server joined another one and was stopped. -/
def afterStopping : Network :=
  ({ ids := { draw := (· + 1) } } : Network).afterAll (pairing "a" "b" ++ [.close 1])

/-- The server that was stopped. -/
def stopped : ServerNode where
  config :=
    { name := "b", dataDir := "b", initialCluster := ⟨[("a", urlOf "a")]⟩, founding := .existing,
      advertisedPeerUrls := [urlOf "b"] }
  attachment := some ⟨0, 2⟩
  closed := true

/-- The settings with which it starts again. -/
def restarting (maxOperations : Nat) : ServerConfig :=
  { name := "b", dataDir := "b/", advertisedPeerUrls := [urlOf "b"], maxOperations }

/-- A server that joined and was stopped comes back as the member that it was. -/
theorem restart_on_data_directory_joined :
    afterStopping.nodes[1]? = some stopped ∧ stopped.attachment = some ⟨0, 2⟩ ∧
      ∃ net' files', afterStopping.start {} 5 (restarting 128) =
          (net', files', .ok afterStopping.nodes.length) ∧
        afterStopping.ComesBack net' 5 afterStopping.nodes.length (restarting 128) ⟨0, 2⟩ := by
  have hstopped : afterStopping.nodes[1]? = some stopped := by decide +kernel
  obtain ⟨r, hr, -, hrestart⟩ := restart_on_data_directory { draw := (· + 1) }
    (pairing "a" "b" ++ [Event.close 1]) 1 stopped ⟨0, 2⟩ hstopped rfl
  obtain rfl : r = ⟨0, 2⟩ := by
    have hremembered : afterStopping.remembered? stopped.config.dataDir = some ⟨0, 2⟩ := by
      decide +kernel
    exact Option.some.inj (hr.symm.trans hremembered)
  have hlisted : afterStopping.Lists ⟨0, 2⟩ :=
    ⟨_, List.getElem?_eq_getElem (by decide +kernel), by decide +kernel⟩
  obtain ⟨-, hended⟩ := hrestart {} 5 (restarting 128) rfl (by decide +kernel)
  refine ⟨hstopped, rfl, ?_⟩
  rcases hended (by decide +kernel) (by decide +kernel) (by decide +kernel) with
    ⟨-, hback⟩ | ⟨hgone, -⟩
  · exact hback
  · exact absurd hlisted hgone

/-- A server that starts again with a smaller limit comes back, and refuses a transaction that the
    other server of its cluster takes. -/
theorem restart_with_smaller_limit :
    let net := (afterStopping.start {} 5 (restarting 1)).1
    let command : Command := .transact ⟨[], [.get [], .get []], []⟩
    afterStopping.remembered? "b" = some ⟨0, 2⟩ ∧
      net.attachment? 0 = some ⟨0, 1⟩ ∧ net.attachment? 2 = some ⟨0, 2⟩ ∧
      (net.serve 5 2 administrator command).2.isOk = false ∧
      (net.serve 5 0 administrator command).2.isOk = true := by
  decide +kernel

end Network

end ClusterVault
