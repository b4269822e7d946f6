import ClusterVault.Proofs.Network.Locality
import Mathlib.Data.List.Induction

/-!
# Servers that are closed while they wait to join

A server that reaches no peer stays up and tries again from time to time. If it is closed in the
meantime, it gives up as soon as it notices, and whatever else happens it is never made a member. But
it looks at the clock and at its closing in no particular order: if its time has come by then, it may
try once more, and it joins a cluster although nobody can reach it any more.

## Main definitions

- `Network.Notices`: a server that waits looks at its closing in time

## Main statements

- `Network.retry_eq_of_notices`: a closed server that notices does nothing but stop waiting
- `Network.closed_server_stays_out`: a closed server that notices never becomes a member
- `Network.closed_server_joins_late`: one that does not notice may still become one
-/

namespace ClusterVault.Network

variable {net : Network} {id : NodeId} {now : Instant} {notice : Notice}

/-- A server that waits to join looks at its closing in time: it does so before its time has come, or
    before it looks at the clock. -/
def Notices (net : Network) (id : NodeId) (now : Instant) (notice : Notice) : Prop :=
  ∀ node due, net.nodes[id]? = some node → node.retryAt = some due → now < due ∨ notice = .closing

/-- A closed server that notices does nothing but stop waiting. -/
theorem retry_eq_of_notices (h : net.IsShut id) (hnotices : net.Notices id now notice) :
    net.retry now id notice = net.updateNode id fun n => { n with retryAt := none } := by
  obtain ⟨node, hnode, hclosed⟩ := h.getElem?
  unfold retry
  simp only [hnode]
  split
  · next hwaits =>
    -- it did not wait in the first place
    have hsame : net.nodes.modify id (fun n => { n with retryAt := none }) = net.nodes := by
      refine List.ext_getElem? fun i => ?_
      rw [List.getElem?_modify]
      split
      · next hi =>
        subst hi
        simp [hnode, ← hwaits]
      · simp
    rw [updateNode, hsame]
  · next due hdue =>
    have hgivesUp : (node.closed && (now < due || notice = .closing)) = true := by
      simpa [hclosed] using hnotices node due hnode hdue
    rw [if_pos hgivesUp]

theorem membership?_wait (net : Network) (id : NodeId) (retryAt : Option Instant) :
    (net.updateNode id fun n => { n with retryAt }).membership? = net.membership? :=
  funext (membership?_of_map_eq (map_nodes_updateNode net id fun _ => rfl))

/-! ## Runs -/

/-- A closed server that notices its closing whenever its wait is over never becomes a member: all
    that it does is to stop waiting. It stays out of reach for good. -/
theorem closed_server_stays_out (ids : IdSource) (events later : List Event) (id : NodeId) :
    let net := ({ ids } : Network).afterAll events
    net.IsShut id →
    (∀ before now notice rest, later = before ++ .retry now id notice :: rest →
      (net.afterAll before).Notices id now notice) →
    (net.afterAll later).membership? id = net.membership? id ∧
      (net.afterAll later).OutOfReach id ∧
      ∀ before now notice rest, later = before ++ .retry now id notice :: rest →
        net.afterAll (before ++ [.retry now id notice]) =
          (net.afterAll before).updateNode id fun n => { n with retryAt := none } := by
  intro net hshut hnotices
  have horderly : net.Orderly := (Orderly.of_empty ids).afterAll events
  clear_value net
  refine ⟨?_, (hshut.afterAll later).outOfReach (horderly.afterAll later), ?_⟩
  · -- one event after the other, in the order in which they happen
    induction later using List.reverseRecOn with
    | nil => rfl
    | append_singleton before event ih =>
      have hbefore : (net.afterAll before).membership? id = net.membership? id := by
        refine ih fun before' now notice rest heq => ?_
        exact hnotices before' now notice (rest ++ [event]) (by rw [heq]; simp)
      have hshut' : (net.afterAll before).IsShut id := hshut.afterAll before
      rw [afterAll, List.foldl_concat]
      refine Eq.trans ?_ hbefore
      by_cases hown : ∃ now notice, event = .retry now id notice
      · obtain ⟨now, notice, rfl⟩ := hown
        have hnoticed := hnotices before now notice [] rfl
        show ((net.afterAll before).retry now id notice).membership? id = _
        rw [retry_eq_of_notices hshut' hnoticed, membership?_wait]
      · exact membership?_after hshut'.1 fun now notice heq => hown ⟨now, notice, heq⟩
  · intro before now notice rest heq
    rw [afterAll, List.foldl_concat]
    exact retry_eq_of_notices (hshut.afterAll before) (hnotices before now notice rest heq)

/-- A server waits for a peer, which comes up and registers it, and is closed before it tries again. -/
def closedWaiting : List Event :=
  [ .start {} 0
      { name := "b", dataDir := "b", initialCluster := ⟨[("a", urlOf "a")]⟩,
        founding := .existing, advertisedPeerUrls := [urlOf "b"] },
    .start {} 100
      { name := "a", dataDir := "a", initialCluster := ⟨[("a", urlOf "a")]⟩,
        advertisedPeerUrls := [urlOf "a"] },
    .manage 100 ⟨1, administrator⟩ (.add [urlOf "b"]),
    .close 0 ]

/-- A server that was closed before it noticed that its time had come is not a member. -/
theorem closed_server_stays_out_noticed :
    let net := ({ ids := { draw := (· + 1) } } : Network).afterAll closedWaiting
    (net.after (.retry 500 0 .closing)).membership? 0 = none ∧
      (net.after (.retry 500 0 .closing)).OutOfReach 0 := by
  intro net
  have hshut : net.IsShut 0 := ⟨by decide +kernel, by decide +kernel⟩
  obtain ⟨hmember, hreach, -⟩ := closed_server_stays_out { draw := (· + 1) } closedWaiting
    [.retry 500 0 .closing] 0 hshut (by
      intro before now notice rest heq node due _ _
      cases before with
      | nil =>
        cases heq
        exact .inr rfl
      | cons event before => simp at heq)
  exact ⟨hmember.trans (by decide +kernel), hreach⟩

/-- If its time comes at the instant at which the server is closed, it may look at the clock first. It
    then becomes a member after it was closed: the entry is named after it, and its data directory
    remembers the membership. -/
theorem closed_server_joins_late :
    let net := ({ ids := { draw := (· + 1) } } : Network).afterAll closedWaiting
    let late := net.after (.retry 500 0 .timeUp)
    net.running? 0 = none ∧ net.membership? 0 = none ∧ net.remembered? "b" = none ∧
      (net.clusters.map fun c => c.members.map (·.name)) = [["a", ""]] ∧
      late.membership? 0 = some ⟨0, 2⟩ ∧ late.remembered? "b" = some ⟨0, 2⟩ ∧
      (late.clusters.map fun c => c.members.map (·.name)) = [["a", "b"]] := by
  decide +kernel

end ClusterVault.Network
