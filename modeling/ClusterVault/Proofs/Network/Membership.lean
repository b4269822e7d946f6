import ClusterVault.Proofs.Cluster.Authority
import ClusterVault.Proofs.Network.Locality

/-!
# A member stays the member it is

A server that waits to join tries again, and might become the member of another cluster. A server
that is a member waits for nothing, so it stays what it is, however often it is asked to try. Its
cluster stays what it is as well, but for the steps that clusters make.

## Main definitions

- `Network.Settled`: no member waits to join
- `Network.Runs`: a cluster has made steps only
- `Network.Rooted`: all clusters have come about from their founding

## Main statements

- `Network.Settled.afterAll`: that is so whatever happens
- `Network.Settled.membership?_after`: a member stays the member it is
- `Network.runs_after`, `Network.Rooted.after`: clusters are founded and make steps only
-/

namespace ClusterVault.Network

variable {net net' : Network} {id i : NodeId} {k : ClusterId} {c : Cluster} {config : ServerConfig}
  {a : Attachment} {event : Event}

/-- No member waits to join. -/
def Settled (net : Network) : Prop :=
  ∀ (i : NodeId) (n : ServerNode), net.nodes[i]? = some n → n.attachment.isSome → n.retryAt = none

theorem Settled.of_nodes_eq (h : net.Settled) (hnodes : net'.nodes = net.nodes) : net'.Settled := by
  intro i n hn
  rw [hnodes] at hn
  exact h i n hn

theorem Settled.of_map_eq (h : net.Settled)
    (hnodes : net'.nodes.map (fun n => (n.attachment, n.retryAt)) =
      net.nodes.map fun n => (n.attachment, n.retryAt)) : net'.Settled := by
  intro i n hn hattached
  have hview : net.nodes[i]?.map (fun n => (n.attachment, n.retryAt)) =
      some (n.attachment, n.retryAt) := by
    rw [← List.getElem?_map, ← hnodes, List.getElem?_map, hn, Option.map_some]
  obtain ⟨n', hn', hsame⟩ := Option.map_eq_some_iff.1 hview
  obtain ⟨hattachment, hretry⟩ := Prod.mk.inj hsame
  rw [← hattachment] at hattached
  exact hretry.symm.trans (h i n' hn' hattached)

theorem Settled.updateNode (h : net.Settled) {change : ServerNode → ServerNode}
    (hchange : ∀ n, net.nodes[id]? = some n → (change n).attachment.isSome →
      (change n).retryAt = none) : (net.updateNode id change).Settled := by
  intro i n hn
  rw [getElem?_updateNode] at hn
  split at hn
  · next heq =>
    subst heq
    obtain ⟨n', hn', rfl⟩ := Option.map_eq_some_iff.1 hn
    exact hchange n' hn'
  · exact h i n hn

/-- A server that has not waited may become a member. -/
theorem Settled.attach (h : net.Settled) (hid : ∀ n, net.nodes[id]? = some n → n.retryAt = none)
    (dataDir : String) (a : Attachment) : (net.attach id dataDir a).Settled := by
  have hdirs : Settled { net with dataDirs := setEntry (FilePath.ofString dataDir) a net.dataDirs } :=
    h.of_nodes_eq rfl
  refine hdirs.updateNode ?_
  intro n hn _
  exact hid n hn

/-! ## Attempts to join -/

/-- An attempt to join makes the server a member, or it fails and no server has changed. -/
theorem nodes_rejoin (net : Network) (now : Instant) (id : NodeId) (config : ServerConfig) :
    (∃ e, (net.rejoin now id config).2 = .error e ∧ (net.rejoin now id config).1.nodes = net.nodes) ∨
    ∃ a, (net.rejoin now id config).2 = .ok () ∧
      (net.rejoin now id config).1.nodes =
        net.nodes.modify id fun n => { n with attachment := some a } := by
  unfold rejoin
  split
  · exact .inl ⟨_, rfl, rfl⟩
  · split
    · exact .inl ⟨_, rfl, rfl⟩
    · dsimp only
      split
      · exact .inl ⟨_, rfl, rfl⟩
      · exact .inr ⟨_, rfl, rfl⟩

/-- A server that has come up is a member and does not wait, or waits and is no member. -/
theorem Settled.comeUp (h : net.Settled) (hid : net.nodes[id]? = some { config }) (now : Instant)
    (config' : ServerConfig) : (net.comeUp now id config').1.Settled := by
  have hnew (n : ServerNode) (hn : net.nodes[id]? = some n) : n = { config } :=
    Option.some.inj (hn.symm.trans hid)
  have hfresh (n : ServerNode) (hn : net.nodes[id]? = some n) : n.retryAt = none := by
    rw [hnew n hn]
  unfold Network.comeUp
  split
  · have hrejoin := nodes_rejoin net now id config'
    unfold joinOrWait
    split
    · next heq =>
      rw [heq] at hrejoin
      rcases hrejoin with ⟨e, -, hnodes⟩ | ⟨a, hok, -⟩
      · -- it begins to wait, and is no member
        refine (h.of_nodes_eq hnodes).updateNode fun n hn hattached => ?_
        rw [hnodes] at hn
        rw [hnew n hn] at hattached
        cases hattached
      · cases hok
    · rcases hrejoin with ⟨e, -, hnodes⟩ | ⟨a, -, hnodes⟩
      · exact h.of_nodes_eq hnodes
      · have hattached : (net.updateNode id fun n => { n with attachment := some a }).Settled :=
          h.updateNode fun n hn _ => hfresh n hn
        exact hattached.of_nodes_eq hnodes
  · split
    · unfold restore
      split
      · exact h
      · dsimp only
        split
        · have hlooked (k : ClusterId) (c : Cluster) : (net.setCluster k c).Settled :=
            h.of_nodes_eq rfl
          exact (hlooked _ _).attach hfresh config'.dataDir _
        · exact h.of_nodes_eq rfl
    · split
      · next hfound =>
        obtain ⟨_, _, -, -, -, -, rfl⟩ := bootstrap_eq_ok hfound
        have hfounded (ids : IdSource) (clusters : List Cluster) :
            Settled { net with ids, clusters } := h.of_nodes_eq rfl
        exact (hfounded _ _).attach hfresh config'.dataDir _
      · exact h

theorem Settled.retry (h : net.Settled) (now : Instant) (id : NodeId) (notice : Notice) :
    (net.retry now id notice).Settled := by
  have hgiveUp (net : Network) (h : net.Settled) :
      (net.updateNode id fun n => { n with retryAt := none }).Settled :=
    h.updateNode fun _ _ _ => rfl
  unfold Network.retry
  split
  · exact h
  · next node hnode =>
    split
    · exact h
    · next due hdue =>
      split
      · exact hgiveUp net h
      · split
        · have hrejoin := nodes_rejoin net now id node.config
          unfold retryJoin
          split
          · next heq =>
            rw [heq] at hrejoin
            rcases hrejoin with ⟨e, -, hnodes⟩ | ⟨a, hok, -⟩
            · -- whoever has waited is no member, and this attempt has not made it one
              refine (h.of_nodes_eq hnodes).updateNode fun n hn hattached => ?_
              rw [hnodes, hnode] at hn
              cases hn
              rw [h id node hnode hattached] at hdue
              cases hdue
            · cases hok
          · next heq =>
            rw [heq] at hrejoin
            intro i n hn
            rw [getElem?_updateNode] at hn
            split at hn
            · obtain ⟨n', -, rfl⟩ := Option.map_eq_some_iff.1 hn
              exact fun _ => rfl
            · next hne =>
              -- no other server has changed
              rcases hrejoin with ⟨e, -, hnodes⟩ | ⟨a, -, hnodes⟩
              · rw [hnodes] at hn
                exact h i n hn
              · rw [hnodes, List.getElem?_modify_ne _ _ (Ne.symm hne)] at hn
                exact h i n hn
        · exact h

/-! ## Events -/

theorem Settled.close (h : net.Settled) (id : NodeId) : (net.close id).Settled := by
  unfold Network.close
  split
  · exact h
  · have hclosed : (net.updateNode id fun n => { n with closed := true }).Settled :=
      h.updateNode fun n hn => h id n hn
    exact hclosed.of_nodes_eq rfl

theorem Settled.start (h : net.Settled) (files : FileSystem) (now : Instant) (config : ServerConfig) :
    (net.start files now config).1.Settled := by
  unfold Network.start
  split
  · exact h
  · split
    · exact h
    · dsimp only
      split
      · exact h
      · next taken hlisten =>
        obtain ⟨htaken, -, -⟩ := take_eq_ok hlisten
        have hnode : taken.nodes[net.nodes.length]? = some { config } := by
          rw [htaken]
          exact List.getElem?_concat_length
        have hsettled : taken.Settled := by
          intro i n hn
          rw [htaken] at hn
          rcases List.mem_append.1 (List.mem_of_getElem? hn) with hold | hnew
          · obtain ⟨j, hj⟩ := List.mem_iff_getElem?.1 hold
            exact h j n hj
          · rw [List.mem_singleton.1 hnew]
            exact nofun
        have hup := hsettled.comeUp hnode now config
        split
        · next heq =>
          rw [heq] at hup
          exact hup
        · next heq =>
          rw [heq] at hup
          exact hup.close _

/-- Members go on waiting for nothing, whatever happens. -/
theorem Settled.after (h : net.Settled) (event : Event) : (net.after event).Settled := by
  cases event with
  | bindService | route => exact h.of_nodes_eq rfl
  | start files now config => exact h.start files now config
  | retry now id notice => exact h.retry now id notice
  | close id => exact h.close id
  | serve now id user command => exact h.of_nodes_eq (nodes_serve net now id user command)
  | manage now client command =>
    have hview := map_nodes_manage (f := fun n => (n.attachment, n.retryAt)) (fun _ => rfl) net now
      client command
    exact h.of_map_eq hview

theorem Settled.afterAll (h : net.Settled) (events : List Event) : (net.afterAll events).Settled := by
  induction events generalizing net with
  | nil => exact h
  | cons event events ih => exact ih (h.after event)

theorem settled_of_empty (ids : IdSource) : ({ ids } : Network).Settled := nofun

/-- A member stays the member it is. -/
theorem Settled.membership?_after (h : net.Settled) (ha : net.membership? i = some a)
    (event : Event) : (net.after event).membership? i = some a := by
  obtain ⟨n, hn, hattached⟩ := Option.bind_eq_some_iff.1 ha
  by_cases hown : ∃ now notice, event = .retry now i notice
  · obtain ⟨now, notice, rfl⟩ := hown
    have hidle : n.retryAt = none := h i n hn (by simp [hattached])
    have hsame : net.after (.retry now i notice) = net := by
      simp only [Network.after, Network.retry, hn, hidle]
    rw [hsame]
    exact ha
  · have hlt : i < net.nodes.length := (List.getElem?_eq_some_iff.1 hn).1
    rw [Network.membership?_after hlt fun now notice heq => hown ⟨now, notice, heq⟩]
    exact ha

/-! ## Clusters -/

/-- The cluster under a number has made steps only. -/
def Runs (net net' : Network) (k : ClusterId) (c : Cluster) : Prop :=
  net.clusters[k]? = some c → ∃ c' ops, net'.clusters[k]? = some c' ∧ Cluster.Run c ops c'

theorem runs_of_eq (h : net'.clusters = net.clusters) : net.Runs net' k c := by
  intro hc
  exact ⟨c, [], h ▸ hc, .nil c⟩

theorem runs_setCluster {k' : ClusterId} {old new : Cluster} {ops : List Operation}
    (hold : net.clusters[k']? = some old) (hrun : Cluster.Run old ops new) :
    net.Runs (net.setCluster k' new) k c := by
  intro hc
  by_cases hsame : k = k'
  · subst hsame
    rw [hold] at hc
    cases hc
    exact ⟨new, ops, clusters_setCluster hold new, hrun⟩
  · refine ⟨c, [], ?_, .nil c⟩
    rw [getElem?_setCluster, if_neg hsame]
    exact hc

theorem Move.runs (hmove : Move event net net') : net.Runs net' k c := by
  cases hmove with
  | route | wait | restore => exact runs_of_eq rfl
  | take _ hlisten =>
    obtain ⟨rfl, -, -⟩ := take_eq_ok hlisten
    exact runs_of_eq rfl
  | leave id => exact runs_of_eq (clusters_close _ _)
  | look hold now => exact runs_setCluster hold (Cluster.Step.expire _ now).run
  | serve hold user now limit command =>
    obtain ⟨ops, hrun⟩ := Cluster.run_serve _ user now limit command
    exact runs_setCluster hold hrun
  | found _ _ _ _ hfound =>
    obtain ⟨_, _, -, -, -, -, rfl⟩ := bootstrap_eq_ok hfound
    intro hc
    refine ⟨c, [], ?_, .nil c⟩
    exact (List.getElem?_append_left (List.getElem?_eq_some_iff.1 hc).1).trans hc
  | join _ hold hattach =>
    obtain ⟨_, -, -, rfl⟩ := Cluster.attachMember_eq_ok hattach
    exact runs_setCluster hold (Cluster.Step.registry _ _).run
  | add hold hadd =>
    obtain ⟨-, -, -, -, rfl⟩ := Cluster.members_of_addMember_eq_ok hadd
    exact runs_setCluster hold (Cluster.Step.registry _ _).run
  | @remove _ net k' old new _ member hold hremove =>
    have hset : net.Runs (net.setCluster k' new) k c := by
      rw [Cluster.members_of_removeMember_eq_ok hremove]
      exact runs_setCluster hold (Cluster.Step.registry _ _).run
    intro hc
    obtain ⟨c', ops, hc', hrun⟩ := hset hc
    exact ⟨c', ops, by rw [clusters_stopMember]; exact hc', hrun⟩

/-- Whatever happens on a network, a cluster makes steps only. -/
theorem runs_after (net : Network) (event : Event) (k : ClusterId) (c : Cluster) :
    net.Runs (net.after event) k c := by
  refine after_induction (I := fun net' => net.Runs net' k c) ?_ (runs_of_eq rfl)
  intro mid net' hmove hmid hc
  obtain ⟨c', ops, hc', hrun⟩ := hmid hc
  obtain ⟨c'', ops', hc'', hrun'⟩ := hmove.runs hc'
  exact ⟨c'', ops ++ ops', hc'', hrun.trans hrun'⟩

/-- All clusters have come about from their founding. -/
def Rooted (net : Network) : Prop := ∀ c ∈ net.clusters, c.Reachable

theorem Rooted.setCluster (h : net.Rooted) {old new : Cluster} {ops : List Operation}
    (hold : net.clusters[k]? = some old) (hrun : Cluster.Run old ops new) :
    (net.setCluster k new).Rooted := by
  intro c hc
  rcases List.mem_or_eq_of_mem_set hc with hmem | rfl
  · exact h c hmem
  · exact (h old (List.mem_of_getElem? hold)).run hrun

theorem Rooted.move (h : net.Rooted) (hmove : Move event net net') : net'.Rooted := by
  cases hmove with
  | route | wait | restore => exact h
  | take _ hlisten =>
    obtain ⟨rfl, -, -⟩ := take_eq_ok hlisten
    exact h
  | leave id =>
    rw [Rooted, clusters_close]
    exact h
  | look hold now => exact h.setCluster hold (Cluster.Step.expire _ now).run
  | serve hold user now limit command =>
    obtain ⟨ops, hrun⟩ := Cluster.run_serve _ user now limit command
    exact h.setCluster hold hrun
  | found _ _ _ _ hfound =>
    obtain ⟨_, _, -, -, -, -, rfl⟩ := bootstrap_eq_ok hfound
    exact List.forall_mem_append.2 ⟨h, List.forall_mem_singleton.2 ⟨_, [], .nil _⟩⟩
  | join _ hold hattach =>
    obtain ⟨_, -, -, rfl⟩ := Cluster.attachMember_eq_ok hattach
    exact h.setCluster hold (Cluster.Step.registry _ _).run
  | add hold hadd =>
    obtain ⟨-, -, -, -, rfl⟩ := Cluster.members_of_addMember_eq_ok hadd
    exact h.setCluster hold (Cluster.Step.registry _ _).run
  | remove hold hremove =>
    rw [Rooted, clusters_stopMember, Cluster.members_of_removeMember_eq_ok hremove]
    exact h.setCluster hold (Cluster.Step.registry _ _).run

theorem Rooted.after (h : net.Rooted) (event : Event) : (net.after event).Rooted :=
  after_induction (fun _ _ hmove hnet => hnet.move hmove) h

theorem rooted_afterAll (ids : IdSource) (events : List Event) :
    (({ ids } : Network).afterAll events).Rooted := by
  have hempty : ({ ids } : Network).Rooted := nofun
  exact afterAll_of_moves (fun _ _ _ hmove hnet => hnet.move hmove) hempty events

end ClusterVault.Network
