import ClusterVault.Proofs.Node.Registration

/-!
# A single cluster

The node that founds the cluster decides to do so after it has failed to join one, and by then others
may have come up, left or been removed. It may also come back with the data of a cluster that it was
removed from. None of that leads to a second cluster, since the directory with the data of the
founder remembers that there is one.

## Main definitions

- `Network.Event.FoundsIn`: an event that founds a cluster in one directory only
- `Network.HasOneCluster`: there is one cluster at most, and the directory remembers it
- `acquisitions`: what nodes do to acquire stores, with one directory for those that may found

## Main statements

- `Fleet.single_cluster`: there is one cluster at most, and all stores are served by it
-/

namespace ClusterVault

namespace Network

/-- An event that starts no server. -/
def Event.StartsNothing : Event → Prop
  | .start .. => False
  | _ => True

/-- An event that starts servers of nodes only, and founds a cluster only in the given directory. -/
def Event.FoundsIn (dataDir : String) : Event → Prop
  | .start _ _ config => config.maxOperations = LaunchOptions.maxOperations ∧
    (config.founding = .new → config.dataDir = dataDir)
  | _ => True

/-- There is one cluster at most, and then the directory remembers it. -/
structure HasOneCluster (dataDir : String) (net : Network) : Prop where
  remembered : net.clusters ≠ [] → (net.remembered? dataDir).isSome
  length_le_one : net.clusters.length ≤ 1
  attached : ∀ attachment ∈ net.nodes.map (·.attachment), ∀ a, attachment = some a →
    a.cluster < net.clusters.length
  limits : ∀ config ∈ net.configs, config.maxOperations = LaunchOptions.maxOperations

namespace HasOneCluster

variable {dataDir : String} {net net' : Network} {event : Event}

theorem of_empty (dataDir : String) (ids : IdSource) :
    ({ ids } : Network).HasOneCluster dataDir :=
  ⟨fun hne => absurd rfl hne, Nat.zero_le 1, nofun, nofun⟩

/-- Moves that found nothing and attach nobody leave things as they are. -/
theorem of_eq (h : net.HasOneCluster dataDir) (hdirs : net'.dataDirs = net.dataDirs)
    (hlength : net'.clusters.length = net.clusters.length)
    (hattachments : net'.nodes.map (·.attachment) = net.nodes.map (·.attachment))
    (hconfigs : net'.configs = net.configs) : net'.HasOneCluster dataDir := by
  constructor
  · intro hne
    rw [remembered?, hdirs]
    refine h.remembered fun hnil => hne ?_
    rwa [← List.length_eq_zero_iff, hlength, List.length_eq_zero_iff]
  · rw [hlength]
    exact h.length_le_one
  · rw [hattachments, hlength]
    exact h.attached
  · rw [hconfigs]
    exact h.limits

/-- Who is attached after one more server has become a member. -/
theorem mem_attachments_attach {net : Network} {id : NodeId} {dir : String} {a : Attachment}
    {attachment : Option Attachment}
    (h : attachment ∈ (net.attach id dir a).nodes.map (·.attachment)) :
    attachment = some a ∨ attachment ∈ net.nodes.map (·.attachment) := by
  obtain ⟨node, hnode, rfl⟩ := List.mem_map.1 h
  obtain ⟨i, hi⟩ := List.mem_iff_getElem?.1 hnode
  rw [Network.attach, getElem?_updateNode] at hi
  split at hi
  · obtain ⟨_, -, rfl⟩ := Option.map_eq_some_iff.1 hi
    exact .inl rfl
  · exact .inr (List.mem_map.2 ⟨node, List.mem_of_getElem? hi, rfl⟩)

/-- A server becomes a member of a cluster that there is. -/
theorem attach (h : net.HasOneCluster dataDir) (id : NodeId) (dir : String) {a : Attachment}
    (ha : a.cluster < net.clusters.length) : (net.attach id dir a).HasOneCluster dataDir where
  remembered hne := by
    rw [remembered?_attach]
    split
    · rfl
    · exact h.remembered hne
  length_le_one := h.length_le_one
  attached attachment hattachment a' ha' := by
    rcases mem_attachments_attach hattachment with hnew | hold
    · rw [hnew] at ha'
      cases ha'
      exact ha
    · exact h.attached attachment hold a' ha'
  limits := by
    rw [configs_attach]
    exact h.limits

/-- The first cluster is founded, and the directory remembers it from then on. -/
theorem found {config : ServerConfig} {id : NodeId} (h : net.HasOneCluster dataDir)
    (hdir : config.dataDir = dataDir) (hnew : net.remembered? config.dataDir = none)
    (hfound : net.bootstrap id config = .ok net') : net'.HasOneCluster dataDir := by
  obtain ⟨url, m, -, -, -, -, rfl⟩ := bootstrap_eq_ok hfound
  subst hdir
  have hempty : net.clusters = [] := by
    by_contra hne
    have hremembered := h.remembered hne
    rw [hnew] at hremembered
    cases hremembered
  constructor
  · intro _
    rw [remembered?_attach, if_pos rfl]
    rfl
  · show (net.clusters ++ [_]).length ≤ 1
    rw [hempty]
    exact Nat.le_refl 1
  · intro attachment hattachment a ha
    show a.cluster < (net.clusters ++ [_]).length
    rw [List.length_append]
    rcases mem_attachments_attach hattachment with hnew | hold
    · rw [hnew] at ha
      cases ha
      exact Nat.lt_succ_self _
    · exact Nat.lt_succ_of_lt (h.attached attachment hold a ha)
  · rw [configs_attach]
    exact h.limits

/-- A cluster is founded only if there is none yet. -/
theorem move (hevent : event.FoundsIn dataDir) (hmove : Move event net net')
    (h : net.HasOneCluster dataDir) : net'.HasOneCluster dataDir := by
  cases hmove with
  | route => exact h.of_eq rfl rfl rfl rfl
  | @take _ _ config _ _ _ hlisten =>
    obtain ⟨rfl, -, -⟩ := take_eq_ok hlisten
    refine ⟨h.remembered, h.length_le_one, ?_, ?_⟩
    · intro attachment hattachment a ha
      rw [List.map_append, List.mem_append] at hattachment
      rcases hattachment with hold | hnew
      · exact h.attached attachment hold a ha
      · rw [List.mem_singleton.1 hnew] at ha
        cases ha
    · have hall : ∀ other ∈ net.configs ++ [config],
          other.maxOperations = LaunchOptions.maxOperations :=
        List.forall_mem_append.2 ⟨h.limits, List.forall_mem_singleton.2 hevent.1⟩
      exact configs_concat net config ▸ hall
  | leave =>
    exact h.of_eq (dataDirs_close _ _) (congrArg _ (clusters_close _ _))
      (map_nodes_close (fun _ => rfl) _ _) (map_nodes_close (fun _ => rfl) _ _)
  | wait =>
    exact h.of_eq rfl rfl (map_nodes_updateNode _ _ fun _ => rfl)
      (map_nodes_updateNode _ _ fun _ => rfl)
  | look | serve | add => exact h.of_eq rfl (List.length_set ..) rfl rfl
  | found hnode hconfig hfounding hnew hfound => exact h.found (hevent.2 hfounding) hnew hfound
  | restore hnode hremembered hc hmember =>
    exact h.attach _ _ (List.getElem?_eq_some_iff.1 hc).1
  | @join _ _ _ _ k _ c' _ hnode hc hattach =>
    have hjoined : (net.setCluster k c').HasOneCluster dataDir :=
      h.of_eq rfl (List.length_set ..) rfl rfl
    exact hjoined.attach _ _ (List.getElem?_eq_some_iff.1 (clusters_setCluster hc _)).1
  | @remove _ _ k c c' _ member hc hremove =>
    have hremoved : (net.setCluster k c').HasOneCluster dataDir :=
      h.of_eq rfl (List.length_set ..) rfl rfl
    exact hremoved.of_eq (dataDirs_stopMember _ _) (congrArg _ (clusters_stopMember _ _))
      (map_nodes_stopMember (fun _ => rfl) _ _) (map_nodes_stopMember (fun _ => rfl) _ _)

theorem afterAll (dataDir : String) (ids : IdSource) {events : List Event}
    (hevents : ∀ event ∈ events, event.FoundsIn dataDir) :
    (({ ids } : Network).afterAll events).HasOneCluster dataDir :=
  afterAll_induction (fun _ _ _ hevent hmove => move hevent hmove) hevents (of_empty dataDir ids)

end HasOneCluster

end Network

/-! ## Acquiring stores -/

/-- What nodes do to acquire stores. Those that found a cluster if there is none to join have one data
    directory. -/
def acquisitions (dataDir : String)
    (a : Activity EngineError (Except (NodeError EngineError) SecretStore)) : Prop :=
  ∃ (l : Launcher) (o : AcquireOptions), (o.role = .bootstrapper → l.options.dataDir = dataDir) ∧
    a = (l.acquire o).run

/-- What nodes that acquire stores may ask for. -/
def AcquisitionsAdmit (dataDir : String) (r : Request) : Prop :=
  ∃ (l : Launcher) (o : AcquireOptions), (o.role = .bootstrapper → l.options.dataDir = dataDir) ∧
    l.AdmitsAcquiring o r

section Acquisitions

variable {dataDir name : String} {w : Fleet (Except (NodeError EngineError) SecretStore)}
  {store : SecretStore}

/-- Nodes that acquire stores found clusters in the one directory only. -/
theorem AcquisitionsAdmit.foundsIn {r : Request} (h : AcquisitionsAdmit dataDir r)
    {files : FileSystem} {now : Instant} {event : Network.Event}
    (hevent : r.event? files now = some event) : event.FoundsIn dataDir := by
  obtain ⟨l, o, hdir, hadmits⟩ := h
  cases r with
  | start config =>
    cases hevent
    have hstart {method : JoinMethod} (hadmits : l.options.Admits method (.start config)) :
        config.maxOperations = LaunchOptions.maxOperations ∧
          config.dataDir = l.options.dataDir ∧ (config.founding = .new → method = .bootstrap) := by
      obtain ⟨peers, founding, hconfig, hnew⟩ := hadmits
      obtain ⟨_, _, -, -, rfl⟩ := LaunchOptions.serverConfig_eq_ok hconfig
      exact ⟨rfl, rfl, fun hfounding => (hnew hfounding).1⟩
    rcases hadmits with hjoin | ⟨hrole, hbootstrap⟩
    · obtain ⟨hlimit, -, hnew⟩ := hstart hjoin
      exact ⟨hlimit, fun hfounding => nomatch hnew hfounding⟩
    · obtain ⟨hlimit, hsame, -⟩ := hstart hbootstrap
      exact ⟨hlimit, fun _ => hsame.trans (hdir hrole)⟩
  | manage | close | serve =>
    cases hevent
    trivial
  | connect | ready | idle => cases hevent

theorem Network.Event.StartsNothing.foundsIn {event : Network.Event} (h : event.StartsNothing)
    (dataDir : String) : event.FoundsIn dataDir := by
  cases event with
  | start => exact h.elim
  | _ => trivial

namespace Fleet.Reachable

variable (h : w.Reachable name (acquisitions dataDir) Network.Event.StartsNothing)

include h

theorem sound_acquisitions : w.Sound name (AcquisitionsAdmit dataDir) (·.FoundsIn dataDir)
    fun joined result => ∀ store, result = .ok store → joined store.server.id := by
  refine h.sound ?_ ?_ ?_
  · exact fun r files now event hr hevent => hr.foundsIn hevent
  · exact fun event hevent => hevent.foundsIn dataDir
  · rintro a ⟨l, o, hdir, ha⟩ joined
    have hacquire : (l.acquire o).Obeys (.joining (AcquisitionsAdmit dataDir) joined)
        fun store => joined store.server.id :=
      (l.obeys_acquire o joined).weaken (fun r hr => ⟨l, o, hdir, hr⟩) fun _ _ htells => htells
    -- the activity is not to be opened from here on
    generalize (l.acquire o : Procedure EngineError SecretStore) = p at ha hacquire
    rw [ha]
    exact hacquire.run

theorem hasOneCluster : (w.network name).HasOneCluster dataDir := by
  obtain ⟨ids, events, hevents, hnetwork⟩ := h.sound_acquisitions.events
  rw [hnetwork]
  exact .afterAll dataDir ids hevents

/-- The server of a store has joined the one cluster, for as long as there is the store. -/
theorem joined_of_store (hstore : .done (.ok store) ∈ w.courses) :
    ∃ c node member, (w.network name).clusters = [c] ∧
      (w.network name).nodes[store.server.id]? = some node ∧
      node.attachment = some ⟨0, member⟩ ∧
      node.config.maxOperations = LaunchOptions.maxOperations := by
  have hready : (w.network name).isReady store.server.id :=
    h.sound_acquisitions.obeys _ hstore ((w.network name).isReady ·) (fun _ hid => hid) store rfl
  obtain ⟨node, hnode, hattached⟩ := Network.isReady_iff.1 hready
  obtain ⟨⟨k, member⟩, ha⟩ := Option.isSome_iff_exists.1 hattached
  have hmem := List.mem_of_getElem? hnode
  have hk : k < (w.network name).clusters.length :=
    h.hasOneCluster.attached _ (List.mem_map.2 ⟨node, hmem, rfl⟩) _ ha
  obtain ⟨c, hc⟩ : ∃ c, (w.network name).clusters = [c] := by
    refine List.length_eq_one_iff.1 (Nat.le_antisymm h.hasOneCluster.length_le_one ?_)
    exact Nat.succ_le_of_lt (Nat.zero_lt_of_lt hk)
  obtain rfl : k = 0 := by
    rw [hc] at hk
    exact Nat.lt_one_iff.1 hk
  exact ⟨c, node, member, hc, hnode, ha, h.hasOneCluster.limits _ (List.mem_map.2 ⟨node, hmem, rfl⟩)⟩

end Fleet.Reachable

/-- A server that has joined the only cluster answers for it until it is closed. -/
theorem Network.serve_of_only_cluster {net : Network} {c : Cluster} {id : NodeId} {node : ServerNode}
    {member : Nat} (hclusters : net.clusters = [c]) (hnode : net.nodes[id]? = some node)
    (ha : node.attachment = some ⟨0, member⟩) (now : Instant) (user : String) (command : Command) :
    net.serve now id user command = if node.closed then (net, .error .stopped) else
      (net.setCluster 0 (c.serve user now node.config.maxOperations command).2,
        (c.serve user now node.config.maxOperations command).1) := by
  have hc : net.clusters[0]? = some c := by rw [hclusters, List.getElem?_cons_zero]
  rw [serve, hnode]
  cases hclosed : node.closed with
  | true => simp [ServerNode.cluster, hclosed]
  | false => simp [ServerNode.cluster, hclosed, ha, hc]

/-- A single cluster. Nodes acquire stores on one network, any number of them and any number of times,
    and those that found a cluster if there is none to join have one data directory. They are
    interleaved at their requests with each other, with waiting servers that join in the background,
    and with others who close servers, add and remove members and use what is there, and they may be
    cancelled or fail anywhere. Then there is one cluster at most, since clusters are never taken off
    the list. The server of every store is a member of it, and answers for it until it is closed. So
    all stores hold the same secrets. -/
theorem Fleet.single_cluster
    (h : w.Reachable name (acquisitions dataDir) Network.Event.StartsNothing) :
    (w.network name).clusters.length ≤ 1 ∧
    (∀ store, .done (.ok store) ∈ w.courses →
      ∃ c node member, (w.network name).clusters = [c] ∧
        (w.network name).nodes[store.server.id]? = some node ∧
        node.attachment = some ⟨0, member⟩ ∧
        ∀ now user command, (w.network name).serve now store.server.id user command =
          if node.closed then (w.network name, .error .stopped) else
            ((w.network name).setCluster 0
                (c.serve user now LaunchOptions.maxOperations command).2,
              (c.serve user now LaunchOptions.maxOperations command).1)) ∧
    ∀ store store', .done (.ok store) ∈ w.courses → .done (.ok store') ∈ w.courses →
      ((w.network name).running? store.server.id).isSome →
      ((w.network name).running? store'.server.id).isSome →
      ∀ now user command, (w.network name).serve now store.server.id user command =
        (w.network name).serve now store'.server.id user command := by
  refine ⟨h.hasOneCluster.length_le_one, fun store hstore => ?_, ?_⟩
  · obtain ⟨c, node, member, hclusters, hnode, ha, hlimit⟩ := h.joined_of_store hstore
    refine ⟨c, node, member, hclusters, hnode, ha, fun now user command => ?_⟩
    rw [Network.serve_of_only_cluster hclusters hnode ha, hlimit]
  · intro store store' hstore hstore' hrunning hrunning' now user command
    -- both answer for the same cluster, with the same limit
    obtain ⟨c, node, _, hclusters, hnode, ha, hlimit⟩ := h.joined_of_store hstore
    obtain ⟨c', node', _, hclusters', hnode', ha', hlimit'⟩ := h.joined_of_store hstore'
    obtain rfl : c = c' := by simpa using hclusters.symm.trans hclusters'
    have hopen {id : NodeId} {node : ServerNode} (hnode : (w.network name).nodes[id]? = some node)
        (hrunning : ((w.network name).running? id).isSome) : node.closed = false := by
      obtain ⟨other, hother⟩ := Option.isSome_iff_exists.1 hrunning
      obtain ⟨hsame, hopen⟩ := Network.running?_eq_some.1 hother
      rw [hnode] at hsame
      cases hsame
      exact hopen
    rw [Network.serve_of_only_cluster hclusters hnode ha,
      Network.serve_of_only_cluster hclusters hnode' ha', hopen hnode hrunning,
      hopen hnode' hrunning', hlimit, hlimit']

end Acquisitions

/-! ## A trial -/

namespace Trial

/-- Node `0` founds a cluster, since there is none, and node `1` finds it. -/
def acquiring : List (Fleet.Act (Except (NodeError EngineError) SecretStore)) :=
  [.others (.bindService plain.internal plain.headless),
    .run ((launcher plain 0 "a").acquire { role := .bootstrapper }).run,
    .run ((launcher plain 1 "b").acquire { role := .follower }).run]

/-- The store that an activity has ended with. -/
def store? : Activity EngineError (Except (NodeError EngineError) SecretStore) → Option SecretStore
  | .done (.ok store) => some store
  | _ => none

theorem eq_done_of_store? {a : Activity EngineError (Except (NodeError EngineError) SecretStore)}
    {store : SecretStore} (h : store? a = some store) : a = .done (.ok store) := by
  unfold store? at h
  split at h
  · cases h
    rfl
  · cases h

theorem stores_acquiring : ((start.play? "net" 0 acquiring).map fun w =>
    (w.courses.map store?, [0, 1].map fun id => ((w.network "net").running? id).isSome)) =
    some ([some ⟨⟨0, plain.nodeName 0⟩, administrator⟩,
      some ⟨⟨1, plain.nodeName 1⟩, administrator⟩], [true, true]) := by
  simp only [acquiring, Launcher.acquire, Launcher.launch, Launcher.prepare, Launcher.discover,
    repair_launcher asWritten_plain ordinal?_zero, repair_launcher asWritten_plain ordinal?_one,
    serverConfig_launcher asWritten_plain isNode_zero,
    serverConfig_launcher asWritten_plain isNode_one]
  decide +kernel

end Trial

/-- A founder and a follower have each a store, and both are served by the same cluster. -/
theorem Fleet.single_cluster_two_stores :
    ∃ (w : Fleet (Except (NodeError EngineError) SecretStore)) (store store' : SecretStore),
      w.Reachable "net" (acquisitions "a") Network.Event.StartsNothing ∧
      .done (.ok store) ∈ w.courses ∧ .done (.ok store') ∈ w.courses ∧
      store.server.id ≠ store'.server.id ∧ (w.network "net").clusters.length ≤ 1 ∧
      ∀ now user command, (w.network "net").serve now store.server.id user command =
        (w.network "net").serve now store'.server.id user command := by
  obtain ⟨w, hw, hstores⟩ := Option.map_eq_some_iff.1 Trial.stores_acquiring
  obtain ⟨hcourses, hrunning⟩ := Prod.mk.inj hstores
  obtain ⟨a, rest, hrest, ha, hfollower⟩ := List.map_eq_cons_iff.1 hcourses
  obtain ⟨a', rfl, ha'⟩ := List.map_eq_singleton_iff.1 hfollower
  have hreachable : w.Reachable "net" (acquisitions "a") Network.Event.StartsNothing := by
    refine (Trial.reachable_start _ _).play? ?_ hw
    simp only [Trial.acquiring, List.forall_mem_cons, Act.IsAdmitted]
    exact ⟨trivial, ⟨Trial.launcher Trial.plain 0 "a", { role := .bootstrapper }, fun _ => rfl, rfl⟩,
      ⟨Trial.launcher Trial.plain 1 "b", { role := .follower }, fun hrole => absurd hrole (by decide),
        rfl⟩, List.forall_mem_nil _⟩
  have hfounder : .done (.ok ⟨⟨0, _⟩, _⟩) ∈ w.courses :=
    Trial.eq_done_of_store? ha ▸ hrest ▸ List.mem_cons_self
  have hfollower : .done (.ok ⟨⟨1, _⟩, _⟩) ∈ w.courses :=
    Trial.eq_done_of_store? ha' ▸ hrest ▸ List.mem_cons_of_mem _ List.mem_cons_self
  obtain ⟨hlength, -, hsame⟩ := single_cluster hreachable
  obtain ⟨hzero, hrest⟩ := List.cons.inj hrunning
  obtain ⟨hone, -⟩ := List.cons.inj hrest
  exact ⟨w, _, _, hreachable, hfounder, hfollower, Nat.zero_ne_one, hlength,
    hsame _ _ hfounder hfollower hzero hone⟩

end ClusterVault
