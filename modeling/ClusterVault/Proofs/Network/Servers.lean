import ClusterVault.Proofs.Cluster.Registry
import ClusterVault.Proofs.Network.Moves

/-!
# Servers that run

What the operations on a network do to the servers that run, to the table of listeners and to the
lists of members. Later modules look at networks through these views.

## Main definitions

- `Network.settings?`: the settings of a server that runs
- `Network.attachment?`: the membership of a server that runs
- `Network.Lists`: a cluster lists a member
-/

namespace ClusterVault

/-! ## Tables -/

section Table

variable {α β : Type} [DecidableEq α] {key : α} {value : β} {table : List (α × β)} {entry : α × β}
  {keys : List α}

theorem lookup_setEntry (key : α) (value : β) (table : List (α × β)) (k : α) :
    (setEntry key value table).lookup k = if k = key then some value else table.lookup k := by
  have hbeq (k' : α) : (k == k') = decide (k = k') := rfl
  induction table with
  | nil =>
    by_cases hk : k = key
    · simp [setEntry, hk]
    · simp [setEntry, List.lookup_cons, hbeq, hk]
  | cons entry rest ih =>
    obtain ⟨k', v'⟩ := entry
    by_cases hkey : k' = key
    · subst hkey
      by_cases hk : k = k'
      · simp [setEntry, hk]
      · simp [setEntry, List.lookup_cons, hbeq, hk]
    · by_cases hk : k = k'
      · subst hk
        simp [setEntry, hkey]
      · simp [setEntry, List.lookup_cons, hkey, hbeq, hk, ih]

theorem mem_setEntry (h : entry ∈ setEntry key value table) :
    entry = (key, value) ∨ entry ∈ table := by
  induction table with
  | nil => exact .inl (List.mem_singleton.1 h)
  | cons first rest ih =>
    rw [setEntry] at h
    split at h
    · rcases List.mem_cons.1 h with hnew | hold
      · exact .inl hnew
      · exact .inr (List.mem_cons_of_mem _ hold)
    · rcases List.mem_cons.1 h with hfirst | hrest
      · exact .inr (hfirst ▸ List.mem_cons_self)
      · exact (ih hrest).imp_right (List.mem_cons_of_mem _)

/-- What is set last counts. -/
theorem setEntry_setEntry (key : α) (value value' : β) (table : List (α × β)) :
    setEntry key value' (setEntry key value table) = setEntry key value' table := by
  induction table with
  | nil => simp [setEntry]
  | cons entry rest ih =>
    by_cases hkey : entry.1 = key
    · simp [setEntry, hkey]
    · simp [setEntry, hkey, ih]

theorem lookup_foldl_setEntry (keys : List α) (value : β) (table : List (α × β)) (k : α) :
    (keys.foldl (fun table key => setEntry key value table) table).lookup k =
      if k ∈ keys then some value else table.lookup k := by
  induction keys generalizing table with
  | nil => simp
  | cons key keys ih =>
    rw [List.foldl_cons, ih, lookup_setEntry]
    by_cases hmem : k ∈ keys <;> by_cases hk : k = key <;> simp [hmem, hk]

theorem mem_foldl_setEntry
    (h : entry ∈ keys.foldl (fun table key => setEntry key value table) table) :
    (entry.1 ∈ keys ∧ entry.2 = value) ∨ entry ∈ table := by
  induction keys generalizing table with
  | nil => exact .inr h
  | cons key keys ih =>
    rcases ih h with ⟨hkey, hvalue⟩ | hset
    · exact .inl ⟨List.mem_cons_of_mem _ hkey, hvalue⟩
    · rcases mem_setEntry hset with rfl | hold
      · exact .inl ⟨List.mem_cons_self, rfl⟩
      · exact .inr hold

theorem mem_of_lookup (h : table.lookup key = some value) : (key, value) ∈ table := by
  induction table with
  | nil => cases h
  | cons first rest ih =>
    obtain ⟨k, v⟩ := first
    rw [List.lookup_cons] at h
    split at h
    · next hkey =>
      rw [beq_iff_eq] at hkey
      cases h
      exact hkey ▸ List.mem_cons_self
    · exact List.mem_cons_of_mem _ (ih h)

/-- An entry that is found is still found when others go. -/
theorem lookup_filter_of_lookup (keep : β → Bool) (h : table.lookup key = some value)
    (hkeep : keep value) : (table.filter fun entry => keep entry.2).lookup key = some value := by
  induction table with
  | nil => cases h
  | cons first rest ih =>
    obtain ⟨k, v⟩ := first
    rw [List.lookup_cons] at h
    rw [List.filter_cons]
    split at h
    · next hkey =>
      cases h
      simp [hkeep, List.lookup_cons, hkey]
    · next hkey =>
      split
      · simpa [List.lookup_cons, hkey] using ih h
      · exact ih h

end Table

namespace Network

variable {net net' : Network} {id i : NodeId} {node : ServerNode} {k : ClusterId} {c c' : Cluster}
  {a : Attachment} {config : ServerConfig} {change : ServerNode → ServerNode}

/-- The settings of a server that runs. -/
def settings? (net : Network) (id : NodeId) : Option ServerConfig :=
  (net.running? id).map (·.config)

/-- The membership of a server that runs. -/
def attachment? (net : Network) (id : NodeId) : Option Attachment :=
  (net.running? id).bind (·.attachment)

/-- A cluster lists a member. -/
def Lists (net : Network) (a : Attachment) : Prop :=
  ∃ c, net.clusters[a.cluster]? = some c ∧ c.hasMember a.member

theorem running?_eq_some : net.running? id = some node ↔
    net.nodes[id]? = some node ∧ node.closed = false := by
  simp [running?, Option.filter_eq_some_iff]

theorem settings?_eq_some : net.settings? id = some config ↔
    ∃ node, net.running? id = some node ∧ node.config = config :=
  Option.map_eq_some_iff

theorem attachment?_eq_some : net.attachment? id = some a ↔
    ∃ node, net.running? id = some node ∧ node.attachment = some a :=
  Option.bind_eq_some_iff

/-! ## One server changes -/

theorem getElem?_updateNode (net : Network) (id : NodeId) (change : ServerNode → ServerNode)
    (i : NodeId) :
    (net.updateNode id change).nodes[i]? =
      if i = id then net.nodes[i]?.map change else net.nodes[i]? := by
  rw [updateNode, List.getElem?_modify]
  by_cases h : i = id
  · simp [h]
  · simp [h, Ne.symm h]

theorem running?_updateNode (hclosed : ∀ n, (change n).closed = n.closed) :
    (net.updateNode id change).running? i =
      if i = id then (net.running? i).map change else net.running? i := by
  rw [running?, running?, getElem?_updateNode]
  split
  · cases net.nodes[i]? with
    | none => rfl
    | some n => cases h : n.closed <;> simp [Option.filter_some, hclosed, h]
  · rfl

theorem settings?_updateNode (hclosed : ∀ n, (change n).closed = n.closed)
    (hconfig : ∀ n, (change n).config = n.config) :
    (net.updateNode id change).settings? = net.settings? := by
  funext i
  rw [settings?, settings?, running?_updateNode hclosed]
  split
  · simp only [Option.map_map, Function.comp_def, hconfig]
  · rfl

theorem settings?_attach (net : Network) (id : NodeId) (dataDir : String) (a : Attachment) :
    (net.attach id dataDir a).settings? = net.settings? :=
  settings?_updateNode (fun _ => rfl) fun _ => rfl

theorem attachment?_attach (net : Network) (id : NodeId) (dataDir : String) (a : Attachment)
    (i : NodeId) : (net.attach id dataDir a).attachment? i =
      if i = id then (net.settings? i).map fun _ => a else net.attachment? i := by
  rw [attachment?, attach, running?_updateNode]
  · split
    · show ((net.running? i).map _).bind _ = _
      rw [settings?]
      cases net.running? i <;> rfl
    · rfl
  · exact fun _ => rfl

theorem attachment?_wait (net : Network) (id : NodeId) (retryAt : Option Instant) :
    (net.updateNode id fun n => { n with retryAt }).attachment? = net.attachment? := by
  funext i
  rw [attachment?, attachment?, running?_updateNode]
  · split
    · cases net.running? i <;> rfl
    · rfl
  · exact fun _ => rfl

/-! ## Servers start and stop -/

theorem running?_concat (net : Network) (config : ServerConfig) (i : NodeId) :
    ({ net with nodes := net.nodes ++ [({ config } : ServerNode)] }).running? i =
      if i = net.nodes.length then some { config } else net.running? i := by
  rw [running?, running?]
  split
  · next h =>
    rw [h, List.getElem?_concat_length]
    rfl
  · next h =>
    rw [List.getElem?_append]
    split
    · rfl
    · next hge =>
      have hlt : net.nodes.length < i := Nat.lt_of_le_of_ne (Nat.le_of_not_lt hge) (Ne.symm h)
      have hout : [({ config } : ServerNode)].length ≤ i - net.nodes.length := Nat.sub_pos_of_lt hlt
      rw [List.getElem?_eq_none hout, List.getElem?_eq_none (Nat.le_of_not_lt hge)]

theorem running?_of_nodes_eq (h : net'.nodes = net.nodes) (i : NodeId) :
    net'.running? i = net.running? i := by
  rw [running?, running?, h]

theorem running?_length (net : Network) : net.running? net.nodes.length = none := by
  rw [running?, List.getElem?_eq_none (Nat.le_refl _)]
  rfl

theorem running?_shut (net : Network) (id i : NodeId) :
    (net.updateNode id fun n => { n with closed := true }).running? i =
      if i = id then none else net.running? i := by
  rw [running?, getElem?_updateNode]
  split
  · cases net.nodes[i]? <;> rfl
  · rfl

/-- A server that is closed stops, and leaves its URLs. -/
theorem close_eq (hrunning : (net.running? id).isSome) :
    net.close id = (net.updateNode id fun n => { n with closed := true }).unlisten id := by
  obtain ⟨node, hnode⟩ := Option.isSome_iff_exists.1 hrunning
  rw [close, hnode]

theorem close_of_running?_eq_none (h : net.running? id = none) : net.close id = net := by
  rw [close, h]

theorem running?_close (net : Network) (id i : NodeId) :
    (net.close id).running? i = if i = id then none else net.running? i := by
  cases h : net.running? id with
  | none =>
    rw [close_of_running?_eq_none h]
    split
    · next hi => rw [hi, h]
    · rfl
  | some node =>
    rw [close_eq (h ▸ rfl)]
    exact running?_shut net id i

/-- The servers that listen as a member. -/
def runningAs (net : Network) (a : Attachment) : List NodeId :=
  net.listeners.map (·.2) |>.filter fun id => net.nodes[id]?.any (·.attachment = some a)

theorem mem_runningAs : i ∈ net.runningAs a ↔
    (∃ url, (url, i) ∈ net.listeners) ∧ ∃ node, net.nodes[i]? = some node ∧
      node.attachment = some a := by
  simp [runningAs, Option.any_eq_true]

theorem running?_foldl_shut (ids : List NodeId) (net : Network) (i : NodeId) :
    (ids.foldl (fun net id => net.updateNode id fun n => { n with closed := true }) net).running? i =
      if i ∈ ids then none else net.running? i := by
  induction ids generalizing net with
  | nil => simp
  | cons id ids ih =>
    rw [List.foldl_cons, ih, running?_shut]
    by_cases hmem : i ∈ ids <;> by_cases hi : i = id <;> simp [hmem, hi]

theorem stopMember_eq (net : Network) (a : Attachment) :
    net.stopMember a =
      { (net.runningAs a).foldl
          (fun net id => net.updateNode id fun n => { n with closed := true }) net with
        listeners := net.listeners.filter (!(net.runningAs a).contains ·.2) } := rfl

theorem running?_stopMember (net : Network) (a : Attachment) (i : NodeId) :
    (net.stopMember a).running? i = if i ∈ net.runningAs a then none else net.running? i :=
  running?_foldl_shut _ net i

theorem clusters_foldl_shut (ids : List NodeId) (net : Network) :
    (ids.foldl (fun net id => net.updateNode id fun n => { n with closed := true }) net).clusters =
      net.clusters := by
  induction ids generalizing net with
  | nil => rfl
  | cons id ids ih => exact ih _

theorem clusters_stopMember (net : Network) (a : Attachment) :
    (net.stopMember a).clusters = net.clusters :=
  clusters_foldl_shut _ net

/-! ## Listening -/

theorem listen_eq_ok {urls : List Url} (h : net.listen id urls = .ok net') :
    (∀ url ∈ urls, net.isListening url = false) ∧
      net' = { net with
        listeners := urls.foldl (fun table url => setEntry url id table) net.listeners } := by
  unfold listen at h
  split at h
  · cases h
  · next hfree =>
    cases h
    exact ⟨fun url hurl => Bool.eq_false_iff.2 (List.find?_eq_none.1 hfree url hurl), rfl⟩

theorem isListening_of_lookup (net : Network) {url : Url} (h : net.listeners.lookup url = some id)
    (hrunning : (net.running? id).isSome) : net.isListening url = true := by
  rw [isListening, listener?, h, Option.filter_some, if_pos hrunning]
  rfl

/-- A new server takes URLs that nobody has who runs, and comes behind all others. -/
theorem take_eq_ok (h : { net with nodes := net.nodes ++ [({ config } : ServerNode)] }.listen
      net.nodes.length config.urls = .ok net') :
    net' = { net with
      nodes := net.nodes ++ [({ config } : ServerNode)]
      listeners := config.urls.foldl (fun table url => setEntry url net.nodes.length table)
        net.listeners } ∧
    (∀ i, net'.running? i = if i = net.nodes.length then some { config } else net.running? i) ∧
    ∀ url ∈ config.urls, ∀ i, net.listeners.lookup url = some i → net.running? i = none := by
  obtain ⟨hfree, rfl⟩ := listen_eq_ok h
  refine ⟨rfl, fun i => ?_, ?_⟩
  · rw [← running?_concat]
    exact running?_of_nodes_eq rfl i
  · intro url hurl i hlookup
    by_contra hrunning
    have hold : i ≠ net.nodes.length := by
      rintro rfl
      exact hrunning (running?_length net)
    have hbusy := isListening_of_lookup
      { net with nodes := net.nodes ++ [({ config } : ServerNode)] } hlookup (by
        rw [running?_concat, if_neg hold]
        exact Option.isSome_iff_ne_none.2 hrunning)
    rw [hfree url hurl] at hbusy
    cases hbusy

/-! ## Members -/

theorem getElem?_setCluster (net : Network) (k : ClusterId) (c : Cluster) (k' : ClusterId) :
    (net.setCluster k c).clusters[k']? =
      if k' = k then net.clusters[k']?.map fun _ => c else net.clusters[k']? := by
  rw [setCluster, List.getElem?_set]
  by_cases h : k = k'
  · subst h
    by_cases hlt : k < net.clusters.length
    · simp [hlt]
    · simp [hlt]
  · simp [h, Ne.symm h]

theorem setCluster_self (hc : net.clusters[k]? = some c) : net.setCluster k c = net := by
  obtain ⟨hlt, rfl⟩ := List.getElem?_eq_some_iff.1 hc
  rw [setCluster, List.set_getElem_self]

theorem clusters_setCluster_zero (hclusters : net.clusters = [c]) (c' : Cluster) :
    (net.setCluster 0 c').clusters = [c'] := by
  rw [setCluster, hclusters, List.set_cons_zero]

theorem Lists.setCluster (h : net.Lists a) (hc : net.clusters[k]? = some c)
    (hmember : k = a.cluster → c.hasMember a.member → c'.hasMember a.member) :
    (net.setCluster k c').Lists a := by
  obtain ⟨c₀, hc₀, hlisted⟩ := h
  by_cases hk : a.cluster = k
  · rw [hk, hc] at hc₀
    cases hc₀
    exact ⟨c', hk ▸ clusters_setCluster hc c', hmember hk.symm hlisted⟩
  · refine ⟨c₀, ?_, hlisted⟩
    rw [getElem?_setCluster, if_neg hk, hc₀]

theorem Lists.of_members_eq (h : net.Lists a) (hc : net.clusters[k]? = some c)
    (hmembers : c'.members = c.members) : (net.setCluster k c').Lists a := by
  refine h.setCluster hc fun _ hlisted => ?_
  rw [Cluster.hasMember, hmembers]
  exact hlisted

/-- A member that was removed is off the list, and the servers that ran as it have stopped. -/
theorem manage_remove_eq_ok {now : Instant} {client : Connection} {member : Nat}
    {left : List Member} (h : (net.manage now client (.remove member)).2 = .ok left) :
    ∃ node k c c', net.nodes[client.server]? = some node ∧ node.cluster = .ok k ∧
      net.clusters[k]? = some c ∧ (c.expire now).removeMember client.user member = .ok c' ∧
      (net.manage now client (.remove member)).1 =
        (net.setCluster k c').stopMember ⟨k, member⟩ := by
  unfold manage at h ⊢
  split at h
  · cases h
  · next node hnode =>
    dsimp only at h ⊢
    split at h
    · cases h
    · next k hk =>
      split at h
      · cases h
      · next c hc =>
        simp only [Cluster.manage] at h ⊢
        cases hremove : (c.expire now).removeMember client.user member with
        | error e =>
          rw [hremove] at h
          cases h
        | ok c' =>
          exact ⟨node, k, c, c', hnode, hk, hc, hremove, rfl⟩

/-! ## What all servers keep -/

section Kept

variable {β : Type} {f : ServerNode → β}

theorem map_nodes_updateNode (net : Network) (id : NodeId) (hf : ∀ n, f (change n) = f n) :
    (net.updateNode id change).nodes.map f = net.nodes.map f := by
  refine List.ext_getElem? fun i => ?_
  rw [List.getElem?_map, List.getElem?_map, getElem?_updateNode]
  split
  · simp only [Option.map_map, Function.comp_def, hf]
  · rfl

variable (hf : ∀ n : ServerNode, f { n with closed := true } = f n)

include hf

theorem map_nodes_close (net : Network) (id : NodeId) :
    (net.close id).nodes.map f = net.nodes.map f := by
  unfold close
  split
  · rfl
  · exact map_nodes_updateNode net id hf

theorem map_nodes_stopMember (net : Network) (a : Attachment) :
    (net.stopMember a).nodes.map f = net.nodes.map f := by
  have hfold (ids : List NodeId) (net : Network) :
      (ids.foldl (fun net id => net.updateNode id fun n => { n with closed := true })
        net).nodes.map f = net.nodes.map f := by
    induction ids generalizing net with
    | nil => rfl
    | cons id ids ih => exact (ih _).trans (map_nodes_updateNode net id hf)
  exact hfold _ net

end Kept

theorem clusters_close (net : Network) (id : NodeId) : (net.close id).clusters = net.clusters := by
  unfold close
  split
  · rfl
  · rfl

theorem dataDirs_close (net : Network) (id : NodeId) : (net.close id).dataDirs = net.dataDirs := by
  unfold close
  split
  · rfl
  · rfl

theorem dataDirs_stopMember (net : Network) (a : Attachment) :
    (net.stopMember a).dataDirs = net.dataDirs := by
  have hfold (ids : List NodeId) (net : Network) :
      (ids.foldl (fun net id => net.updateNode id fun n => { n with closed := true })
        net).dataDirs = net.dataDirs := by
    induction ids generalizing net with
    | nil => rfl
    | cons id ids ih => exact ih _
  exact hfold _ net

theorem remembered?_attach (net : Network) (id : NodeId) (dir dataDir : String) (a : Attachment) :
    (net.attach id dir a).remembered? dataDir =
      if FilePath.ofString dataDir = FilePath.ofString dir then some a else net.remembered? dataDir :=
  lookup_setEntry _ _ _ _

/-- The settings of all servers there ever were. -/
def configs (net : Network) : List ServerConfig := net.nodes.map (·.config)

theorem configs_attach (net : Network) (id : NodeId) (dataDir : String) (a : Attachment) :
    (net.attach id dataDir a).configs = net.configs :=
  map_nodes_updateNode _ id fun _ => rfl

theorem configs_concat (net : Network) (config : ServerConfig) :
    ({ net with nodes := net.nodes ++ [({ config } : ServerNode)] }).configs =
      net.configs ++ [config] :=
  List.map_append

/-! ## Founding a cluster -/

/-- The members of a new cluster are those that the server was told of, in their order. -/
theorem foundingMembers_eq (own : String) (clientUrls : List Url) (entries : List (String × Url))
    (members : List Member) (ids : IdSource) :
    ∃ new, (foundingMembers own clientUrls entries members ids).1 = members ++ new ∧
      new.map (fun m => (m.name, m.peerUrls)) = entries.map fun entry => (entry.1, [entry.2]) := by
  induction entries generalizing members ids with
  | nil => exact ⟨[], (List.append_nil members).symm, rfl⟩
  | cons entry rest ih =>
    obtain ⟨name, url⟩ := entry
    rw [foundingMembers]
    obtain ⟨new, hnew, hmap⟩ := ih (members ++ [⟨_, name, [url], _⟩]) _
    refine ⟨_ :: new, hnew.trans (List.append_assoc _ _ _), ?_⟩
    rw [List.map_cons, List.map_cons, hmap]

/-- A server that founds a cluster is one of its members. -/
theorem bootstrap_eq_ok (h : net.bootstrap id config = .ok net') :
    ∃ url m, config.initialCluster.get? config.name = some url ∧
      url ∈ config.advertisedPeerUrls ∧
      let founding := foundingMembers config.name config.advertisedClientUrls
        config.initialCluster.entries [] net.ids
      m ∈ founding.1 ∧ m.name = config.name ∧
      net' = { net with
        ids := founding.2
        clusters := net.clusters ++ [Cluster.founded founding.1] }.attach id config.dataDir
          ⟨net.clusters.length, m.id⟩ := by
  unfold bootstrap at h
  split at h
  · cases h
  · next url hurl =>
    split at h
    · cases h
    · next hadvertised =>
      dsimp only at h
      -- the server is told of itself, so it is among the members
      obtain ⟨new, hnew, hmap⟩ := foundingMembers_eq config.name config.advertisedClientUrls
        config.initialCluster.entries [] net.ids
      have hlisted : (config.name, [url]) ∈ new.map fun m => (m.name, m.peerUrls) := by
        rw [hmap]
        exact List.mem_map.2 ⟨(config.name, url), mem_of_lookup hurl, rfl⟩
      obtain ⟨m₀, hm₀, hnamed⟩ := List.mem_map.1 hlisted
      rw [List.nil_append] at hnew
      split at h
      · next m hm =>
        cases h
        refine ⟨url, m, hurl, by simpa using hadvertised, List.mem_of_find?_eq_some hm,
          by simpa using List.find?_some hm, ?_⟩
        simp only [List.length_append, List.length_singleton, Nat.add_sub_cancel, Cluster.founded]
      · next hnone =>
        have hname : m₀.name = config.name := congrArg Prod.fst hnamed
        exact absurd (decide_eq_true hname) (List.find?_eq_none.1 hnone m₀ (hnew ▸ hm₀))

theorem Lists.concat (h : net.Lists a) (ids : IdSource) (c : Cluster) :
    Lists { net with ids, clusters := net.clusters ++ [c] } a := by
  obtain ⟨c₀, hc₀, hlisted⟩ := h
  refine ⟨c₀, ?_, hlisted⟩
  exact (List.getElem?_append_left (List.getElem?_eq_some_iff.1 hc₀).1).trans hc₀

end Network

end ClusterVault
