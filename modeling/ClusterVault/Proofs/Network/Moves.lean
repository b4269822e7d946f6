import ClusterVault.Network.Start
import ClusterVault.Proofs.Cluster.Trusted
import Mathlib.Logic.Relation

/-!
# What happens on a network

Servers start, wait, are closed and answer, and members come and go. All of it is made up of a few
elementary moves. This module takes the requests apart into moves, so that a property of networks is
kept by whatever happens as soon as every move keeps it.

## Main definitions

- `Network.Event`, `Network.after`, `Network.afterAll`: something that happens, and what it leaves
- `Network.Move`: one elementary change, as a part of some event

## Design notes

Events come with any instants and in any order, and they may be about servers that do not exist. An
event stands beside each of its moves, for it tells with which settings a server starts and under
which URLs a member is added.
-/

namespace ClusterVault.Network

/-- Something that happens on a network. -/
inductive Event where
  | bindService (service domain : String)
  /-- A service name leads to another one of its servers from now on. -/
  | route (turn : Nat)
  | start (files : FileSystem) (now : Instant) (config : ServerConfig)
  | retry (now : Instant) (id : NodeId) (notice : Notice)
  | close (id : NodeId)
  | serve (now : Instant) (id : NodeId) (user : String) (command : Command)
  | manage (now : Instant) (client : Connection) (command : MemberCommand)

/-- What an event leaves. -/
def after (net : Network) : Event → Network
  | .bindService service domain => net.bindService service domain
  | .route turn => { net with turn }
  | .start files now config => (net.start files now config).1
  | .retry now id notice => net.retry now id notice
  | .close id => net.close id
  | .serve now id user command => (net.serve now id user command).1
  | .manage now client command => (net.manage now client command).1

/-- What events leave that happen one after the other. -/
def afterAll (net : Network) (events : List Event) : Network := events.foldl after net

/-- One elementary change, as a part of an event. -/
inductive Move : Event → Network → Network → Prop
  | route {event : Event} (net : Network) (services : List (String × String)) (turn : Nat) :
    Move event net { net with services, turn }
  /-- A server takes its URLs. -/
  | take {files : FileSystem} {now : Instant} {config : ServerConfig} {net net' : Network}
    (hpeers : config.advertisedPeerUrls ≠ [])
    (hlisten : { net with nodes := net.nodes ++ [({ config } : ServerNode)] }.listen
      net.nodes.length config.urls = .ok net') : Move (.start files now config) net net'
  | leave {event : Event} (net : Network) (id : NodeId) : Move event net (net.close id)
  | wait {event : Event} (net : Network) (id : NodeId) (retryAt : Option Instant) :
    Move event net (net.updateNode id fun n => { n with retryAt })
  /-- A cluster looks at the clock. -/
  | look {event : Event} {net : Network} {k : ClusterId} {c : Cluster}
    (hc : net.clusters[k]? = some c) (now : Instant) :
    Move event net (net.setCluster k (c.expire now))
  | serve {event : Event} {net : Network} {k : ClusterId} {c : Cluster}
    (hc : net.clusters[k]? = some c) (user : String) (now : Instant) (limit : Nat)
    (command : Command) :
    Move event net (net.setCluster k (c.serve user now limit command).2)
  /-- A server founds a cluster. -/
  | found {files : FileSystem} {now : Instant} {config : ServerConfig} {net net' : Network}
    {id : NodeId} {node : ServerNode} (hnode : net.nodes[id]? = some node)
    (hconfig : node.config = config) (hfounding : config.founding = .new)
    (hnew : net.remembered? config.dataDir = none) (hfound : net.bootstrap id config = .ok net') :
    Move (.start files now config) net net'
  /-- A server becomes the member that its data directory belongs to. -/
  | restore {event : Event} {net : Network} {id : NodeId} {node : ServerNode} {a : Attachment}
    {c : Cluster} (hnode : net.nodes[id]? = some node)
    (hremembered : net.remembered? node.config.dataDir = some a)
    (hc : net.clusters[a.cluster]? = some c) (hmember : c.hasMember a.member) :
    Move event net (net.attach id node.config.dataDir a)
  /-- A server becomes the member that is registered under one of its URLs. -/
  | join {event : Event} {net : Network} {id : NodeId} {node : ServerNode} {k : ClusterId}
    {c c' : Cluster} {member : Nat} (hnode : net.nodes[id]? = some node)
    (hc : net.clusters[k]? = some c)
    (hattach : c.attachMember node.config.name node.config.advertisedPeerUrls
      node.config.advertisedClientUrls = .ok (member, c')) :
    Move event net ((net.setCluster k c').attach id node.config.dataDir ⟨k, member⟩)
  | add {now : Instant} {client : Connection} {urls : List Url} {net : Network} {k : ClusterId}
    {c c' : Cluster} {user : String} {member : Member} {ids : IdSource}
    (hc : net.clusters[k]? = some c) (hadd : c.addMember user net.ids urls = .ok (member, ids, c')) :
    Move (.manage now client (.add urls)) net { net.setCluster k c' with ids }
  /-- A member is removed, and the servers that run as it stop. -/
  | remove {event : Event} {net : Network} {k : ClusterId} {c c' : Cluster} {user : String}
    {member : Nat} (hc : net.clusters[k]? = some c)
    (hremove : c.removeMember user member = .ok c') :
    Move event net ((net.setCluster k c').stopMember ⟨k, member⟩)

/-- Moves of one event, one after the other. -/
abbrev Moves (event : Event) : Network → Network → Prop := Relation.ReflTransGen (Move event)

variable {event : Event} {events : List Event} {net net' : Network} {id : NodeId} {node : ServerNode}
  {k : ClusterId} {c c' : Cluster} {now : Instant} {config : ServerConfig}

theorem afterAll_concat (net : Network) (events : List Event) (event : Event) :
    net.afterAll (events ++ [event]) = (net.afterAll events).after event := by
  rw [afterAll, List.foldl_append]
  rfl

theorem Move.moves (h : Move event net net') : Moves event net net' := .single h

theorem setCluster_setCluster (net : Network) (k : ClusterId) (c c' : Cluster) :
    (net.setCluster k c).setCluster k c' = net.setCluster k c' := by
  simp only [setCluster, List.set_set]

/-! ## Starting -/

theorem moves_restore (event : Event) (now : Instant) {a : Attachment}
    (hnode : net.nodes[id]? = some node)
    (hremembered : net.remembered? node.config.dataDir = some a) :
    Moves event net (net.restore now id node.config a).1 := by
  unfold restore
  split
  · exact .refl
  · next c hc =>
    have hlook : Move event net (net.setCluster a.cluster (c.expire now)) := .look hc now
    dsimp only
    split
    · next hmember =>
      exact hlook.moves.tail (.restore hnode hremembered (clusters_setCluster hc _) hmember)
    · exact hlook.moves

theorem moves_rejoin (event : Event) (net : Network) (now : Instant)
    (hnode : net.nodes[id]? = some node) : Moves event net (net.rejoin now id node.config).1 := by
  unfold rejoin
  split
  · exact .refl
  · next k hk =>
    split
    · exact .refl
    · next c hc =>
      have hlook : Move event net (net.setCluster k (c.expire now)) := .look hc now
      dsimp only
      split
      · exact hlook.moves
      · next member c' hattach =>
        rw [← setCluster_setCluster net k (c.expire now) c']
        exact hlook.moves.tail (.join hnode (clusters_setCluster hc _) hattach)

theorem moves_joinOrWait (event : Event) (net : Network) (now : Instant)
    (hnode : net.nodes[id]? = some node) :
    Moves event net (net.joinOrWait now id node.config).1 := by
  have hrejoin := moves_rejoin event net now hnode
  unfold joinOrWait
  split
  · next heq =>
    rw [heq] at hrejoin
    exact hrejoin.tail (.wait _ id _)
  · exact hrejoin

theorem moves_comeUp (files : FileSystem) (now : Instant) (hnode : net.nodes[id]? = some node) :
    Moves (.start files now node.config) net (net.comeUp now id node.config).1 := by
  unfold comeUp
  split
  · exact moves_joinOrWait _ net now hnode
  · next hfounding =>
    split
    · next a hremembered => exact moves_restore _ now hnode hremembered
    · next hnew =>
      split
      · next hfound => exact (Move.found hnode rfl hfounding hnew hfound).moves
      · exact .refl

theorem nodes_listen {urls : List Url} (h : net.listen id urls = .ok net') :
    net'.nodes = net.nodes := by
  unfold listen at h
  split at h
  · cases h
  · cases h
    rfl

theorem moves_start (net : Network) (files : FileSystem) (now : Instant) (config : ServerConfig) :
    Moves (.start files now config) net (net.start files now config).1 := by
  unfold start
  split
  · exact .refl
  · next hpeers =>
    split
    · exact .refl
    · next files' _ =>
      dsimp only
      split
      · exact .refl
      · next taken hlisten =>
        have htake : Move (.start files now config) net taken :=
          .take (by simpa using hpeers) hlisten
        -- the new server is the last one
        have hnode : taken.nodes[net.nodes.length]? = some { config } := by
          rw [nodes_listen hlisten]
          exact List.getElem?_concat_length
        have hup := moves_comeUp files now hnode
        dsimp only at hup
        split
        · next heq =>
          rw [heq] at hup
          exact htake.moves.trans hup
        · next heq =>
          rw [heq] at hup
          exact (htake.moves.trans hup).tail (.leave _ _)

/-! ## Other events -/

theorem moves_retry (event : Event) (net : Network) (now : Instant) (id : NodeId) (notice : Notice) :
    Moves event net (net.retry now id notice) := by
  unfold retry
  split
  · exact .refl
  · next node hnode =>
    split
    · exact .refl
    · split
      · exact (Move.wait _ _ _).moves
      · split
        · have hrejoin := moves_rejoin event net now hnode
          unfold retryJoin
          split
          · next heq =>
            rw [heq] at hrejoin
            exact hrejoin.tail (.wait _ _ _)
          · next heq =>
            rw [heq] at hrejoin
            exact hrejoin.tail (.wait _ _ _)
        · exact .refl

theorem moves_serve (event : Event) (net : Network) (now : Instant) (id : NodeId) (user : String)
    (command : Command) : Moves event net (net.serve now id user command).1 := by
  unfold serve
  split
  · exact .refl
  · split
    · exact .refl
    · split
      · exact .refl
      · next hc => exact (Move.serve hc user now _ command).moves

theorem moves_manage (net : Network) (now : Instant) (client : Connection) (command : MemberCommand) :
    Moves (.manage now client command) net (net.manage now client command).1 := by
  unfold manage
  split
  · exact .refl
  · dsimp only
    split
    · exact .refl
    · next k _ =>
      split
      · exact .refl
      · next c hc =>
        let event : Event := .manage now client command
        have hlook : Move event net (net.setCluster k (c.expire now)) := .look hc now
        have hexpired := clusters_setCluster hc (c.expire now)
        cases command with
        | list => exact hlook.moves
        | add urls =>
          simp only [Cluster.manage]
          cases hadd : (c.expire now).addMember client.user net.ids urls with
          | error e => exact hlook.moves
          | ok answer =>
            obtain ⟨member, ids, c'⟩ := answer
            dsimp only
            rw [← setCluster_setCluster net k (c.expire now) c']
            exact hlook.moves.tail (.add hexpired hadd)
        | remove member =>
          simp only [Cluster.manage]
          cases hremove : (c.expire now).removeMember client.user member with
          | error e => exact hlook.moves
          | ok c' =>
            dsimp only
            rw [← setCluster_setCluster net k (c.expire now) c']
            exact hlook.moves.tail (.remove hexpired hremove)

/-- Every event is made up of moves. -/
theorem moves_after (net : Network) (event : Event) : Moves event net (net.after event) := by
  cases event with
  | bindService service domain => exact (Move.route net _ _).moves
  | route turn => exact (Move.route net _ turn).moves
  | start files now config => exact moves_start net files now config
  | retry now id notice => exact moves_retry _ net now id notice
  | close id => exact (Move.leave net id).moves
  | serve now id user command => exact moves_serve _ net now id user command
  | manage now client command => exact moves_manage net now client command

/-- What every move of an event keeps is kept by the event. -/
theorem after_induction {I : Network → Prop}
    (hmove : ∀ net net', Move event net net' → I net → I net') (h : I net) :
    I (net.after event) := by
  have hmoves := moves_after net event
  generalize net.after event = mid at hmoves
  induction hmoves with
  | refl => exact h
  | tail _ hlast ih => exact hmove _ _ hlast ih

/-- What the moves of admitted events keep is kept as long as only such events happen. -/
theorem afterAll_induction {P : Event → Prop} {I : Network → Prop}
    (hmove : ∀ event net net', P event → Move event net net' → I net → I net')
    (hevents : ∀ event ∈ events, P event) (h : I net) : I (net.afterAll events) := by
  induction events generalizing net with
  | nil => exact h
  | cons event events ih =>
    rw [List.forall_mem_cons] at hevents
    exact ih hevents.2 (after_induction (fun net net' => hmove event net net' hevents.1) h)

/-- What every move keeps is kept by whatever happens. -/
theorem afterAll_of_moves {I : Network → Prop}
    (hmove : ∀ event net net', Move event net net' → I net → I net') (h : I net)
    (events : List Event) : I (net.afterAll events) :=
  afterAll_induction (P := fun _ => True) (fun event net net' _ => hmove event net net')
    (fun _ _ => trivial) h

end ClusterVault.Network
