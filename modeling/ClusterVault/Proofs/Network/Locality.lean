import ClusterVault.Proofs.Network.Listeners

/-!
# Who changes a server

Most of what happens on a network changes no more than one server. A server that starts changes only
itself, and so does one that tries to join. This module says which events change a given server: its
own attempts to join, and those that stop it.

## Main definitions

- `Network.ChangesOnly`: no server but one has changed

## Main statements

- `Network.start_cases`: how a start can end
- `Network.length_clusters_start`, `Network.length_clusters_after`: who founds a cluster
- `Network.nodes_after`: no other event changes a server
- `Network.settings?_after`: a server that nobody stops keeps running with its settings
- `Network.membership?_after`: only its own attempts to join make a server a member
-/

namespace ClusterVault.Network

variable {net mid net' : Network} {id i : NodeId} {a : Attachment} {config : ServerConfig}
  {now : Instant} {event : Event}

/-- The member that a server is, whether or not it still runs. -/
def membership? (net : Network) (id : NodeId) : Option Attachment :=
  net.nodes[id]?.bind (·.attachment)

/-! ## Changing one server -/

/-- No server but one has changed. -/
def ChangesOnly (net net' : Network) (id : NodeId) : Prop :=
  ∃ change, net'.nodes = net.nodes.modify id change

namespace ChangesOnly

theorem refl (net : Network) (id : NodeId) : net.ChangesOnly net id :=
  ⟨fun n => n, (List.modify_id id net.nodes).symm⟩

theorem of_updateNode (net : Network) (id : NodeId) (change : ServerNode → ServerNode) :
    net.ChangesOnly (net.updateNode id change) id := ⟨change, rfl⟩

theorem trans (h : net.ChangesOnly mid id) (h' : mid.ChangesOnly net' id) :
    net.ChangesOnly net' id := by
  obtain ⟨change, h⟩ := h
  obtain ⟨change', h'⟩ := h'
  exact ⟨change' ∘ change, by rw [h', h, List.modify_modify_eq]⟩

theorem getElem? (h : net.ChangesOnly net' id) (hne : i ≠ id) : net'.nodes[i]? = net.nodes[i]? := by
  obtain ⟨change, h⟩ := h
  rw [h]
  exact List.getElem?_modify_ne change net.nodes hne.symm

theorem length_eq (h : net.ChangesOnly net' id) : net'.nodes.length = net.nodes.length := by
  obtain ⟨change, h⟩ := h
  rw [h, List.length_modify]

end ChangesOnly

theorem changesOnly_attach (net : Network) (id : NodeId) (dataDir : String) (a : Attachment) :
    net.ChangesOnly (net.attach id dataDir a) id := ⟨_, rfl⟩

theorem changesOnly_restore (net : Network) (now : Instant) (id : NodeId) (config : ServerConfig)
    (a : Attachment) : net.ChangesOnly (net.restore now id config a).1 id := by
  unfold restore
  split
  · exact .refl net id
  · dsimp only
    split
    · exact changesOnly_attach (net.setCluster _ _) id _ _
    · exact .refl net id

theorem changesOnly_rejoin (net : Network) (now : Instant) (id : NodeId) (config : ServerConfig) :
    net.ChangesOnly (net.rejoin now id config).1 id := by
  unfold rejoin
  split
  · exact .refl net id
  · split
    · exact .refl net id
    · dsimp only
      split
      · exact .refl net id
      · exact changesOnly_attach (net.setCluster _ _) id _ _

theorem changesOnly_joinOrWait (net : Network) (now : Instant) (id : NodeId)
    (config : ServerConfig) : net.ChangesOnly (net.joinOrWait now id config).1 id := by
  have hrejoin := changesOnly_rejoin net now id config
  unfold joinOrWait
  split
  · next heq =>
    rw [heq] at hrejoin
    exact hrejoin.trans (.of_updateNode _ _ _)
  · exact hrejoin

theorem changesOnly_comeUp (net : Network) (now : Instant) (id : NodeId) (config : ServerConfig) :
    net.ChangesOnly (net.comeUp now id config).1 id := by
  unfold comeUp
  split
  · exact changesOnly_joinOrWait net now id config
  · split
    · exact changesOnly_restore net now id config _
    · split
      · next hfound =>
        obtain ⟨_, _, -, -, -, -, rfl⟩ := bootstrap_eq_ok hfound
        exact changesOnly_attach { net with ids := _, clusters := _ } id _ _
      · exact .refl net id

theorem changesOnly_close (net : Network) (id : NodeId) : net.ChangesOnly (net.close id) id := by
  unfold close
  split
  · exact .refl net id
  · exact .of_updateNode net id _

theorem changesOnly_retryJoin (net : Network) (now : Instant) (id : NodeId)
    (config : ServerConfig) : net.ChangesOnly (net.retryJoin now id config) id := by
  have hrejoin := changesOnly_rejoin net now id config
  unfold retryJoin
  split
  · next heq =>
    rw [heq] at hrejoin
    exact hrejoin.trans (.of_updateNode _ _ _)
  · next heq =>
    rw [heq] at hrejoin
    exact hrejoin.trans (.of_updateNode _ _ _)

theorem changesOnly_retry (net : Network) (now : Instant) (id : NodeId) (notice : Notice) :
    net.ChangesOnly (net.retry now id notice) id := by
  unfold retry
  split
  · exact .refl net id
  · split
    · exact .refl net id
    · split
      · exact .of_updateNode net id _
      · split
        · exact changesOnly_retryJoin net now id _
        · exact .refl net id

/-! ## Starting -/

/-- A start ends before there is a server, or with one more than before, which is up if the start
    succeeds and shut if it fails. -/
theorem start_cases (net : Network) (files : FileSystem) (now : Instant) (config : ServerConfig) :
    ((net.start files now config).1 = net ∧ ∃ e, (net.start files now config).2.2 = .error e) ∨
      ((net.start files now config).1.nodes.length = net.nodes.length + 1 ∧
        (∀ i < net.nodes.length, (net.start files now config).1.nodes[i]? = net.nodes[i]?) ∧
        ((net.start files now config).2.2 = .ok net.nodes.length ∨
          (∃ e, (net.start files now config).2.2 = .error e) ∧
            (net.start files now config).1.IsShut net.nodes.length)) := by
  unfold start
  split
  · exact .inl ⟨rfl, _, rfl⟩
  · split
    · exact .inl ⟨rfl, _, rfl⟩
    · dsimp only
      split
      · exact .inl ⟨rfl, _, rfl⟩
      · next taken hlisten =>
        obtain ⟨htaken, -, -⟩ := take_eq_ok hlisten
        -- the new server has taken its URLs, and coming up changes no other one
        have hup := changesOnly_comeUp taken now net.nodes.length config
        have hlength : (taken.comeUp now net.nodes.length config).1.nodes.length =
            net.nodes.length + 1 := by
          rw [hup.length_eq, htaken]
          exact List.length_append
        have hothers : ∀ i < net.nodes.length,
            (taken.comeUp now net.nodes.length config).1.nodes[i]? = net.nodes[i]? := by
          intro i hi
          rw [hup.getElem? (Nat.ne_of_lt hi), htaken]
          exact List.getElem?_append_left hi
        split
        · next heq =>
          rw [heq] at hlength hothers
          exact .inr ⟨hlength, hothers, .inl rfl⟩
        · next failed e heq =>
          rw [heq] at hlength hothers
          have hclose := changesOnly_close failed net.nodes.length
          refine .inr ⟨hclose.length_eq.trans hlength, fun i hi => ?_, .inr ⟨⟨e, rfl⟩, ?_, ?_⟩⟩
          · exact (hclose.getElem? (Nat.ne_of_lt hi)).trans (hothers i hi)
          · rw [hclose.length_eq, hlength]
            exact Nat.lt_succ_self _
          · rw [running?_close, if_pos rfl]

/-- A server that starts changes none of those that are there. -/
theorem nodes_start (h : i < net.nodes.length) (files : FileSystem) (now : Instant)
    (config : ServerConfig) : (net.start files now config).1.nodes[i]? = net.nodes[i]? := by
  rcases net.start_cases files now config with ⟨hsame, -⟩ | ⟨-, hothers, -⟩
  · rw [hsame]
  · exact hothers i h

/-! ## Founding

Clusters come about only by servers that found them. They are never taken off the list.
-/

theorem length_setCluster (net : Network) (k : ClusterId) (c : Cluster) :
    (net.setCluster k c).clusters.length = net.clusters.length :=
  List.length_set

theorem length_clusters_rejoin (net : Network) (now : Instant) (id : NodeId)
    (config : ServerConfig) :
    (net.rejoin now id config).1.clusters.length = net.clusters.length := by
  unfold rejoin
  split
  · rfl
  · split
    · rfl
    · dsimp only
      split <;> exact length_setCluster _ _ _

/-- A server that comes up founds a cluster only if it is to found one and its data directory is that
    of no member. -/
theorem length_clusters_comeUp (net : Network) (now : Instant) (id : NodeId)
    (config : ServerConfig) :
    (net.comeUp now id config).1.clusters.length = net.clusters.length ∨
      (config.founding = .new ∧ net.remembered? config.dataDir = none ∧
        (net.comeUp now id config).1.clusters.length = net.clusters.length + 1) := by
  unfold comeUp
  split
  · left
    have hrejoin := length_clusters_rejoin net now id config
    unfold joinOrWait
    split
    · next heq =>
      rw [heq] at hrejoin
      exact hrejoin
    · exact hrejoin
  · next hfounding =>
    split
    · left
      unfold restore
      split
      · rfl
      · dsimp only
        split <;> exact length_setCluster _ _ _
    · next hnew =>
      split
      · next hfound =>
        obtain ⟨_, _, -, -, -, -, rfl⟩ := bootstrap_eq_ok hfound
        exact .inr ⟨hfounding, hnew, List.length_append⟩
      · exact .inl rfl

theorem length_clusters_start (net : Network) (files : FileSystem) (now : Instant)
    (config : ServerConfig) :
    (net.start files now config).1.clusters.length = net.clusters.length ∨
      (config.founding = .new ∧ net.remembered? config.dataDir = none ∧
        (net.start files now config).1.clusters.length = net.clusters.length + 1) := by
  unfold start
  split
  · exact .inl rfl
  · split
    · exact .inl rfl
    · dsimp only
      split
      · exact .inl rfl
      · next taken hlisten =>
        obtain ⟨htaken, -, -⟩ := take_eq_ok hlisten
        have hup := length_clusters_comeUp taken now net.nodes.length config
        have hclusters : taken.clusters = net.clusters := by rw [htaken]
        have hremembered : taken.remembered? config.dataDir = net.remembered? config.dataDir := by
          rw [htaken]
          rfl
        rw [hclusters, hremembered] at hup
        split
        · next heq =>
          rw [heq] at hup
          exact hup
        · next heq =>
          rw [heq] at hup
          dsimp only
          rwa [clusters_close]

/-- Whoever starts no server founds no cluster. -/
theorem length_clusters_after (hstart : ∀ files now config, event ≠ .start files now config) :
    (net.after event).clusters.length = net.clusters.length := by
  refine after_induction (I := fun other => other.clusters.length = net.clusters.length) ?_ rfl
  intro net net' hmove h
  cases hmove with
  | route | wait | restore => exact h
  | take => exact absurd rfl (hstart _ _ _)
  | found => exact absurd rfl (hstart _ _ _)
  | leave => exact (congrArg List.length (clusters_close _ _)).trans h
  | look | serve | join | add => exact (length_setCluster _ _ _).trans h
  | remove =>
    exact (congrArg List.length (clusters_stopMember _ _)).trans ((length_setCluster _ _ _).trans h)

/-! ## Requests -/

theorem nodes_serve (net : Network) (now : Instant) (id : NodeId) (user : String)
    (command : Command) : (net.serve now id user command).1.nodes = net.nodes := by
  unfold serve
  split
  · rfl
  · split
    · rfl
    · split <;> rfl

theorem nodes_foldl_shut (ids : List NodeId) (net : Network) (h : i ∉ ids) :
    (ids.foldl (fun net id => net.updateNode id fun n => { n with closed := true })
      net).nodes[i]? = net.nodes[i]? := by
  induction ids generalizing net with
  | nil => rfl
  | cons id ids ih =>
    rw [List.mem_cons, not_or] at h
    exact (ih _ h.2).trans ((ChangesOnly.of_updateNode net id _).getElem? h.1)

/-- Requests on the registry leave the servers alone, unless a member is removed. -/
theorem nodes_manage (now : Instant) (client : Connection) {command : MemberCommand}
    (hstays : ¬net.Stops i (.manage now client command)) :
    (net.manage now client command).1.nodes[i]? = net.nodes[i]? := by
  unfold manage
  split
  · rfl
  · next node hnode =>
    dsimp only
    split
    · rfl
    · next k hk =>
      split
      · rfl
      · next c hc =>
        cases command with
        | list | add => rfl
        | remove member =>
          simp only [Cluster.manage]
          cases hremove : (c.expire now).removeMember client.user member with
          | error e => rfl
          | ok c' =>
            refine nodes_foldl_shut _ _ fun hrunning => hstays ⟨?_, k, ?_, ?_⟩
            · simp only [manage, hnode, hk, hc, Cluster.manage, hremove]
              rfl
            · rw [hnode, Option.bind_some, hk]
              rfl
            · obtain ⟨-, n, hn, ha⟩ := mem_runningAs.1 hrunning
              have hsame : net.nodes[i]? = some n := hn
              rw [hsame, Option.bind_some, ha]

/-! ## Events -/

theorem Move.length_le (hmove : Move event net net') : net.nodes.length ≤ net'.nodes.length := by
  cases hmove with
  | route | look | serve | add => exact Nat.le_refl _
  | take _ hlisten =>
    obtain ⟨rfl, -, -⟩ := take_eq_ok hlisten
    rw [List.length_append]
    exact Nat.le_add_right _ _
  | leave => exact Nat.le_of_eq (length_close _ _).symm
  | wait => exact Nat.le_of_eq (length_updateNode _ _ _).symm
  | found _ _ _ _ hfound =>
    obtain ⟨_, _, -, -, -, -, rfl⟩ := bootstrap_eq_ok hfound
    exact Nat.le_of_eq (length_updateNode _ _ _).symm
  | restore | join => exact Nat.le_of_eq (length_updateNode _ _ _).symm
  | @remove _ net k _ c' _ member =>
    exact Nat.le_of_eq (length_foldl_shut (runningAs _ _) (net.setCluster k c')).symm

/-- No server is ever forgotten. -/
theorem length_le_after (net : Network) (event : Event) :
    net.nodes.length ≤ (net.after event).nodes.length :=
  after_induction (I := fun other => net.nodes.length ≤ other.nodes.length)
    (fun _ _ hmove h => Nat.le_trans h hmove.length_le) (Nat.le_refl _)

/-- A server changes by its own attempts to join and by what stops it, and by nothing else. -/
theorem nodes_after (h : i < net.nodes.length) (hown : ∀ now notice, event ≠ .retry now i notice)
    (hstays : ¬net.Stops i event) : (net.after event).nodes[i]? = net.nodes[i]? := by
  cases event with
  | bindService | route => rfl
  | start files now config => exact nodes_start h files now config
  | retry now id notice =>
    have hne : i ≠ id := by
      rintro rfl
      exact hown now notice rfl
    exact (changesOnly_retry net now id notice).getElem? hne
  | close id =>
    have hne : i ≠ id := by
      rintro rfl
      exact hstays ⟨rfl, h⟩
    exact (changesOnly_close net id).getElem? hne
  | serve now id user command => exact congrArg (·[i]?) (nodes_serve net now id user command)
  | manage now client command => exact nodes_manage now client hstays

theorem settings?_rejoin (net : Network) (now : Instant) (id : NodeId) (config : ServerConfig) :
    (net.rejoin now id config).1.settings? = net.settings? := by
  unfold rejoin
  split
  · rfl
  · split
    · rfl
    · dsimp only
      split
      · rfl
      · exact settings?_attach _ _ _ _

/-- Whether a server runs, and with which settings, does not depend on its attempts to join. -/
theorem settings?_retry (net : Network) (now : Instant) (id : NodeId) (notice : Notice) :
    (net.retry now id notice).settings? = net.settings? := by
  have hwait (net : Network) (retryAt : Option Instant) :
      (net.updateNode id fun n => { n with retryAt }).settings? = net.settings? :=
    settings?_updateNode (fun _ => rfl) fun _ => rfl
  unfold retry
  split
  · rfl
  · next node _ =>
    split
    · rfl
    · split
      · exact hwait _ _
      · split
        · have hrejoin := settings?_rejoin net now id node.config
          unfold retryJoin
          split
          · next heq =>
            rw [heq] at hrejoin
            exact (hwait _ _).trans hrejoin
          · next heq =>
            rw [heq] at hrejoin
            exact (hwait _ _).trans hrejoin
        · rfl

/-- A server that nobody stops keeps running with its settings. -/
theorem settings?_after (h : net.settings? i = some config) (hstays : ¬net.Stops i event) :
    (net.after event).settings? i = some config := by
  by_cases hown : ∃ now notice, event = .retry now i notice
  · obtain ⟨now, notice, rfl⟩ := hown
    exact (congrFun (settings?_retry net now i notice) i).trans h
  · obtain ⟨node, hnode, hconfig⟩ := settings?_eq_some.1 h
    have hsame := nodes_after (List.getElem?_eq_some_iff.1 (running?_eq_some.1 hnode).1).1
      (fun now notice heq => hown ⟨now, notice, heq⟩) hstays
    rw [settings?, running?, hsame]
    exact h

theorem membership?_of_map_eq (h : net'.nodes.map (·.attachment) = net.nodes.map (·.attachment))
    (i : NodeId) : net'.membership? i = net.membership? i := by
  have hview (net : Network) : net.membership? i = ((net.nodes.map (·.attachment))[i]?).join := by
    rw [membership?, List.getElem?_map]
    cases net.nodes[i]? <;> rfl
  rw [hview, hview, h]

section View

variable {β : Type} {f : ServerNode → β} (hf : ∀ n : ServerNode, f { n with closed := true } = f n)

include hf

/-- Requests on the registry may stop servers and change nothing else about them. -/
theorem map_nodes_manage (net : Network) (now : Instant) (client : Connection)
    (command : MemberCommand) :
    (net.manage now client command).1.nodes.map f = net.nodes.map f := by
  unfold manage
  split
  · rfl
  · dsimp only
    split
    · rfl
    · split
      · rfl
      · next c _ =>
        cases command with
        | list | add => rfl
        | remove member =>
          simp only [Cluster.manage]
          cases (c.expire now).removeMember client.user member with
          | error e => rfl
          | ok c' => exact map_nodes_stopMember hf _ _

/-- Nothing about a server changes but that it may stop, except by its own attempts to join. -/
theorem map_node_after (h : i < net.nodes.length)
    (hown : ∀ now notice, event ≠ .retry now i notice) :
    (net.after event).nodes[i]?.map f = net.nodes[i]?.map f := by
  cases event with
  | close id =>
    rw [← List.getElem?_map, ← List.getElem?_map]
    exact congrArg (·[i]?) (map_nodes_close hf net id)
  | manage now client command =>
    rw [← List.getElem?_map, ← List.getElem?_map]
    exact congrArg (·[i]?) (map_nodes_manage hf net now client command)
  | bindService | route | start | retry | serve => rw [nodes_after h hown (fun hstops => hstops)]

end View

/-- Only a server's own attempts to join make it a member once it is there. -/
theorem membership?_after (h : i < net.nodes.length)
    (hown : ∀ now notice, event ≠ .retry now i notice) :
    (net.after event).membership? i = net.membership? i := by
  have hview := map_node_after (f := (·.attachment)) (fun _ => rfl) h hown
  have hjoin (net : Network) : net.membership? i = (net.nodes[i]?.map (·.attachment)).join := by
    rw [membership?]
    cases net.nodes[i]? <;> rfl
  rw [hjoin, hjoin, hview]

end ClusterVault.Network
