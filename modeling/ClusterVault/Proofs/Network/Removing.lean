import ClusterVault.Proofs.Network.MemberIds
import ClusterVault.Proofs.Network.Reaching

/-!
# Removing members

Whoever removes a member stops the servers that run as it, and nobody else notices. This module says
what is left of a network after some of its members have been removed, one after the other.

## Main definitions

- `Network.shutMembers`: a network on which the servers of some members have stopped
- `Cluster.without`, `Network.without`: a cluster, and its network, without some of the members

## Main statements

- `Network.stopMember_eq_shutMembers`: to stop a member is to stop the servers that run as it
- `Network.Orderly.manage_remove_eq`: what the removal of a member leaves
-/

namespace ClusterVault

/-- A cluster without the members with some ids. -/
def Cluster.without (c : Cluster) (ids : List Nat) : Cluster :=
  { c with members := c.members.filter (!ids.contains ·.id) }

namespace Network

variable {net : Network} {k : ClusterId} {id : Nat} {ids : List Nat} {i : NodeId} {a : Attachment}
  {gone gone' : Attachment → Bool} {c c' : Cluster} {client : Connection} {now : Instant}

/-- A network on which the servers of some members have stopped and left their URLs. -/
def shutMembers (net : Network) (gone : Attachment → Bool) : Network :=
  { net with
    nodes := net.nodes.map fun n => if n.attachment.any gone then { n with closed := true } else n
    listeners := net.listeners.filter fun entry =>
      !net.nodes[entry.2]?.any (·.attachment.any gone) }

theorem shut_of_closed {n : ServerNode} (h : n.closed) : { n with closed := true } = n := by
  rw [← h]

theorem getElem?_shutMembers (net : Network) (gone : Attachment → Bool) (i : NodeId) :
    (net.shutMembers gone).nodes[i]? = net.nodes[i]?.map fun n =>
      if n.attachment.any gone then { n with closed := true } else n :=
  List.getElem?_map

/-- Who runs as another member keeps running. -/
theorem running?_shutMembers (net : Network) (gone : Attachment → Bool) (i : NodeId) :
    (net.shutMembers gone).running? i =
      (net.running? i).filter fun n => !n.attachment.any gone := by
  rw [running?, running?, getElem?_shutMembers]
  cases net.nodes[i]? with
  | none => rfl
  | some n =>
    cases hgone : n.attachment.any gone <;> cases hclosed : n.closed <;>
      simp [Option.filter_some, hgone, hclosed]

theorem attachment?_shutMembers (net : Network) (gone : Attachment → Bool) (i : NodeId) :
    (net.shutMembers gone).attachment? i = (net.attachment? i).filter (!gone ·) := by
  rw [attachment?, attachment?, running?_shutMembers]
  cases net.running? i with
  | none => rfl
  | some n =>
    cases ha : n.attachment with
    | none => simp [Option.filter_some, ha]
    | some a => cases hgone : gone a <;> simp [Option.filter_some, ha, hgone]

theorem shutMembers_shutMembers (net : Network) (gone gone' : Attachment → Bool) :
    (net.shutMembers gone).shutMembers gone' = net.shutMembers fun a => gone a || gone' a := by
  have hany (n : ServerNode) : (n.attachment.any fun a => gone a || gone' a) =
      (n.attachment.any gone || n.attachment.any gone') := by
    cases n.attachment <;> rfl
  have hkept (n : ServerNode) :
      (if n.attachment.any gone then { n with closed := true } else n).attachment = n.attachment := by
    split <;> rfl
  have hnodes (n : ServerNode) :
      (if (if n.attachment.any gone then { n with closed := true } else n).attachment.any gone' then
        { (if n.attachment.any gone then { n with closed := true } else n) with closed := true }
      else if n.attachment.any gone then { n with closed := true } else n) =
      if (n.attachment.any fun a => gone a || gone' a) then { n with closed := true } else n := by
    rw [hkept, hany]
    cases n.attachment.any gone <;> cases n.attachment.any gone' <;> rfl
  have hlisteners (i : NodeId) :
      (!(net.shutMembers gone).nodes[i]?.any (·.attachment.any gone') &&
        !net.nodes[i]?.any (·.attachment.any gone)) =
      !net.nodes[i]?.any fun n => n.attachment.any fun a => gone a || gone' a := by
    rw [getElem?_shutMembers]
    cases net.nodes[i]? with
    | none => rfl
    | some n =>
      rw [Option.map_some, Option.any_some, Option.any_some, Option.any_some, hkept, hany]
      cases n.attachment.any gone <;> cases n.attachment.any gone' <;> rfl
  rw [shutMembers, shutMembers]
  simp only [shutMembers, List.map_map, List.filter_filter, Function.comp_def, hnodes]
  congr 1
  exact List.filter_congr fun entry _ => hlisteners entry.2

theorem any_attachment_of_running? {node : ServerNode} (hnode : net.running? i = some node)
    (ha : node.attachment.any gone) : ∃ a, net.attachment? i = some a ∧ gone a := by
  obtain ⟨a, ha, hgone⟩ := (Option.any_eq_true _ _).1 ha
  exact ⟨a, attachment?_eq_some.2 ⟨node, hnode, ha⟩, hgone⟩

/-- Nobody stops if nobody runs as one of the members. -/
theorem Orderly.shutMembers_eq_self (h : net.Orderly)
    (hnobody : ∀ i a, net.attachment? i = some a → gone a = false) : net.shutMembers gone = net := by
  have hstays {i : NodeId} {node : ServerNode} (hnode : net.running? i = some node) :
      node.attachment.any gone = false := by
    rw [Bool.eq_false_iff]
    intro ha
    obtain ⟨a, ha, hgone⟩ := any_attachment_of_running? hnode ha
    rw [hnobody i a ha] at hgone
    cases hgone
  have hnodes : (net.nodes.map fun n =>
      if n.attachment.any gone then { n with closed := true } else n) = net.nodes := by
    refine List.ext_getElem? fun i => ?_
    rw [List.getElem?_map]
    cases hn : net.nodes[i]? with
    | none => rfl
    | some n =>
      rw [Option.map_some]
      split
      · next ha =>
        rw [shut_of_closed]
        by_contra hopen
        rw [hstays (running?_eq_some.2 ⟨hn, Bool.eq_false_iff.2 hopen⟩)] at ha
        cases ha
      · rfl
  have hlisteners : (net.listeners.filter fun entry =>
      !net.nodes[entry.2]?.any (·.attachment.any gone)) = net.listeners := by
    refine List.filter_eq_self.2 ?_
    rintro ⟨url, i⟩ hentry
    obtain ⟨config, hconfig, -⟩ := h.advertised hentry
    obtain ⟨node, hnode, -⟩ := settings?_eq_some.1 hconfig
    simp [(running?_eq_some.1 hnode).1, hstays hnode]
  rw [shutMembers, hnodes, hlisteners]

theorem getElem?_foldl_shut (ids : List NodeId) (net : Network) (i : NodeId) :
    (ids.foldl (fun net id => net.updateNode id fun n => { n with closed := true })
      net).nodes[i]? =
        if i ∈ ids then net.nodes[i]?.map fun n => { n with closed := true }
        else net.nodes[i]? := by
  induction ids generalizing net with
  | nil => simp
  | cons id ids ih =>
    rw [List.foldl_cons, ih, getElem?_updateNode]
    by_cases hi : i = id
    · subst hi
      cases net.nodes[i]? <;> simp
    · simp [hi]

theorem foldl_shut_eq (ids : List NodeId) (net : Network) :
    ids.foldl (fun net id => net.updateNode id fun n => { n with closed := true }) net =
      { net with
        nodes := (ids.foldl
          (fun net id => net.updateNode id fun n => { n with closed := true }) net).nodes } := by
  induction ids generalizing net with
  | nil => rfl
  | cons id ids ih => exact ih _

/-- To stop a member is to stop the servers that run as it, if all of them listen somewhere. -/
theorem stopMember_eq_shutMembers (h : ∀ i node, net.running? i = some node →
    node.attachment = some a → i ∈ net.runningAs a) :
    net.stopMember a = net.shutMembers (· = a) := by
  have hany (n : ServerNode) : n.attachment.any (· = a) = true ↔ n.attachment = some a := by
    simp [Option.any_eq_true]
  have hnodes : ((net.runningAs a).foldl
      (fun net id => net.updateNode id fun n => { n with closed := true }) net).nodes =
        net.nodes.map fun n => if n.attachment.any (· = a) then { n with closed := true } else n := by
    refine List.ext_getElem? fun i => ?_
    rw [getElem?_foldl_shut, List.getElem?_map]
    cases hn : net.nodes[i]? with
    | none => simp
    | some n =>
      rw [Option.map_some, Option.map_some]
      split
      · next hrunning =>
        obtain ⟨-, n', hn', ha⟩ := Network.mem_runningAs.1 hrunning
        rw [hn] at hn'
        cases hn'
        rw [if_pos ((hany n).2 ha)]
      · next hrest =>
        split
        · next ha =>
          -- whoever runs as the member would have been found, so this one has stopped already
          rw [shut_of_closed]
          by_contra hopen
          exact hrest (h i n (running?_eq_some.2 ⟨hn, Bool.eq_false_iff.2 hopen⟩) ((hany n).1 ha))
        · rfl
  have hlisteners : (net.listeners.filter fun entry => !(net.runningAs a).contains entry.2) =
      net.listeners.filter fun entry => !net.nodes[entry.2]?.any (·.attachment.any (· = a)) := by
    refine List.filter_congr ?_
    rintro ⟨url, i⟩ hentry
    have hiff : i ∈ net.runningAs a ↔ net.nodes[i]?.any (·.attachment.any (· = a)) = true := by
      rw [Network.mem_runningAs, Option.any_eq_true]
      simp only [hany]
      exact and_iff_right ⟨url, hentry⟩
    rw [Bool.eq_iff_iff, Bool.not_eq_true', Bool.not_eq_true', ← Bool.not_eq_true,
      ← Bool.not_eq_true, List.contains_iff_mem, hiff]
  rw [stopMember_eq, shutMembers, ← hnodes, ← hlisteners]
  exact congrArg (fun other : Network => { other with
    listeners := net.listeners.filter fun entry => !(net.runningAs a).contains entry.2 })
    (foldl_shut_eq (net.runningAs a) net)

/-- A network on which a cluster has lost the members with some ids. -/
def without (net : Network) (k : ClusterId) (c : Cluster) (ids : List Nat) : Network :=
  (net.shutMembers fun b => b.cluster = k && ids.contains b.member).setCluster k (c.without ids)

theorem Orderly.without_nil (h : net.Orderly) (hc : net.clusters[k]? = some c) :
    net.without k c [] = net := by
  have hself : net.shutMembers (fun b => b.cluster = k && ([] : List Nat).contains b.member) = net :=
    h.shutMembers_eq_self fun _ _ _ => Bool.and_false _
  have hall : c.without [] = c := by
    rw [Cluster.without, List.filter_eq_self.2]
    exact fun _ _ => rfl
  rw [without, hself, hall, setCluster_self hc]

theorem without_without (net : Network) (k : ClusterId) (c : Cluster) (ids ids' : List Nat) :
    (net.without k c ids).without k (c.without ids) ids' = net.without k c (ids ++ ids') := by
  let gone (ids : List Nat) (b : Attachment) : Bool := b.cluster = k && ids.contains b.member
  have hgone : (fun b => gone ids b || gone ids' b) = gone (ids ++ ids') := by
    funext b
    simp only [gone, ← Bool.and_or_distrib_left, List.contains_append]
  have hkept : (c.without ids).without ids' = c.without (ids ++ ids') := by
    simp only [Cluster.without, List.filter_filter, List.contains_append, Bool.not_or, Bool.and_comm]
  calc (net.without k c ids).without k (c.without ids) ids'
    _ = (((net.shutMembers (gone ids)).shutMembers (gone ids')).setCluster k
          (c.without ids)).setCluster k ((c.without ids).without ids') := rfl
    _ = (net.shutMembers (gone (ids ++ ids'))).setCluster k (c.without (ids ++ ids')) := by
      rw [setCluster_setCluster, shutMembers_shutMembers, hgone, hkept]

theorem clusters_without (hc : net.clusters[k]? = some c') (c : Cluster) (ids : List Nat) :
    (net.without k c ids).clusters[k]? = some (c.without ids) :=
  clusters_setCluster hc _

theorem attachment?_without (net : Network) (k : ClusterId) (c : Cluster) (ids : List Nat)
    (i : NodeId) : (net.without k c ids).attachment? i =
      (net.attachment? i).filter fun b => !(b.cluster = k && ids.contains b.member) :=
  attachment?_shutMembers net _ i

/-- The removal of a member leaves the other ones and stops the servers that run as it. -/
theorem Orderly.manage_remove_eq (h : net.Orderly) (hclient : net.attachment? client.server = some a)
    (hc : net.clusters[a.cluster]? = some c) (htrusts : c.access.Trusts client.user)
    (hnodup : (c.members.map (·.id)).Nodup) (now : Instant) (hid : id ∈ c.members.map (·.id)) :
    ∃ left, net.manage now client (.remove id) =
      (net.without a.cluster (c.expire now) [id], .ok left) := by
  obtain ⟨left, hremove⟩ := manage_remove hclient hc htrusts now hid
  refine ⟨left, ?_⟩
  have hstop (other : Cluster) : (net.setCluster a.cluster other).stopMember ⟨a.cluster, id⟩ =
      (net.shutMembers (· = ⟨a.cluster, id⟩)).setCluster a.cluster other :=
    stopMember_eq_shutMembers fun i node hnode ha => h.mem_runningAs hnode ha
  have hgone : (fun b : Attachment => decide (b = ⟨a.cluster, id⟩)) =
      fun b => b.cluster = a.cluster && [id].contains b.member := by
    funext ⟨k, member⟩
    simp
  have hkept : c.members.filter (·.id ≠ id) = c.members.filter (fun m => !([id].contains m.id)) :=
    List.filter_congr fun m _ => by simp
  rw [hremove, Member.eraseP_id_eq_filter hnodup, hstop, hgone, hkept]
  rfl

end Network

end ClusterVault
