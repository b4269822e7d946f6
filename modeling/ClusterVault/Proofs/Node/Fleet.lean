import ClusterVault.Proofs.Activity.Obeys
import ClusterVault.Proofs.Activity.Steps
import ClusterVault.Proofs.Network.Servers
import ClusterVault.Simulation.Deployment

/-!
# Fleets

Any number of activities on one network of a deployment, each of which may be anywhere in its course,
and others who act on the network beside them. All that happens on the network is then a sequence of
events, each one asked for by an activity or made by the others.

## Main definitions

- `Fleet`: a deployment with the activities under way
- `Fleet.Step`, `Fleet.Reachable`: what can happen, and what can come of it
- `Request.event?`: what a request does to the network
- `Rule.joining`: the rule of activities that learn which servers have joined a cluster

## Main statements

- `Fleet.Reachable.sound`: the network has seen admitted events only, and the activities keep their
  promises

## Design notes

An activity that is cancelled goes on with that, or it just takes no more steps. An activity may learn
that a server has become a member. That stays true, so a promise may speak of all servers that are
members, now or later.
-/

namespace ClusterVault

/-- What a request does to the network, on a machine with the given files. -/
def Request.event? (files : FileSystem) (now : Instant) : Request → Option Network.Event
  | .manage client command => some (.manage now client command)
  | .start config => some (.start files now config)
  | .close server => some (.close server.id)
  | .serve server user command => some (.serve now server.id user command)
  | .connect _ | .ready _ | .idle => none

/-- The rule of activities that learn of servers that they have joined a cluster. -/
def Rule.joining (admits : Request → Prop) (joined : NodeId → Prop) : Rule EngineError where
  admits := admits
  tells
    | .ready server, _ => joined server.id
    | _, _ => True

/-- A deployment with the activities under way. -/
structure Fleet (α : Type) where
  deployment : Deployment
  courses : List (Activity EngineError α) := []

namespace Fleet

variable {α : Type}

/-- The network with a name. -/
def network (w : Fleet α) (name : String) : Network := w.deployment.network name

/-- A fleet after an event on its network. -/
def afterEvent (w : Fleet α) (name : String) (event : Network.Event) : Fleet α :=
  { w with deployment := w.deployment.setNetwork name ((w.network name).after event) }

/-- One thing that happens: an activity begins or goes on, others act on the network, or the files of
    the machine change. -/
inductive Step (name : String) (begins : Activity EngineError α → Prop)
    (foreign : Network.Event → Prop) : Fleet α → Fleet α → Prop
  | begin {w : Fleet α} {a : Activity EngineError α} (h : begins a) :
    Step name begins foreign w { w with courses := w.courses ++ [a] }
  | course {w : Fleet α} {d : Deployment} {i : Nat} {a a' : Activity EngineError α}
    (hi : w.courses[i]? = some a)
    (h : Deployment.backend.Step ⟨name, name⟩ (w.deployment, a) (d, a')) :
    Step name begins foreign w ⟨d, w.courses.set i a'⟩
  | others {w : Fleet α} {event : Network.Event} (h : foreign event) :
    Step name begins foreign w (w.afterEvent name event)
  | machine (w : Fleet α) (machine : Machine) :
    Step name begins foreign w { w with deployment := { w.deployment with machine } }

/-- All that can come of a network on which nothing has happened yet. -/
def Reachable (name : String) (begins : Activity EngineError α → Prop)
    (foreign : Network.Event → Prop) (w : Fleet α) : Prop :=
  ∃ d ids, d.network name = { ids } ∧
    Relation.ReflTransGen (Step name begins foreign) ⟨d, []⟩ w

/-- An activity that runs alone, or an event. -/
inductive Act (α : Type) where
  | run (a : Activity EngineError α)
  | others (event : Network.Event)

/-- A fleet after some acts at an instant, if all activities get to their ends. -/
def play? (name : String) (now : Instant) (w : Fleet α) : List (Act α) → Option (Fleet α)
  | [] => some w
  | .run a :: acts =>
    match Deployment.backend.advance ⟨name, name⟩ none now a w.deployment with
    | (deployment, .ended x) => play? name now ⟨deployment, w.courses ++ [.done x]⟩ acts
    | _ => none
  | .others event :: acts => play? name now (w.afterEvent name event) acts

/-- What may begin or happen. -/
def Act.IsAdmitted (begins : Activity EngineError α → Prop) (foreign : Network.Event → Prop) :
    Act α → Prop
  | .run a => begins a
  | .others event => foreign event

section Reachable

variable {name : String} {begins : Activity EngineError α → Prop} {foreign : Network.Event → Prop}
  {w w' : Fleet α}

theorem Reachable.steps {d : Deployment} {i : Nat} {a a' : Activity EngineError α}
    (h : w.Reachable name begins foreign) (hi : w.courses[i]? = some a)
    (hsteps : Deployment.backend.Steps ⟨name, name⟩ (w.deployment, a) (d, a')) :
    Reachable name begins foreign ⟨d, w.courses.set i a'⟩ := by
  obtain ⟨d₀, ids, hstart, hrun⟩ := h
  obtain ⟨hlt, hget⟩ := List.getElem?_eq_some_iff.1 hi
  refine ⟨d₀, ids, hstart, hrun.trans ?_⟩
  generalize hend : (d, a') = last at hsteps
  induction hsteps generalizing d a' with
  | refl =>
    cases hend
    rw [← hget, List.set_getElem_self]
  | @tail mid last _ hstep ih =>
    obtain ⟨d', a''⟩ := mid
    subst hend
    have hcourse : (w.courses.set i a'')[i]? = some a'' := List.getElem?_set_self hlt
    have hlast : Step name begins foreign ⟨d', w.courses.set i a''⟩
        ⟨d, (w.courses.set i a'').set i a'⟩ := .course hcourse hstep
    rw [List.set_set] at hlast
    exact (ih rfl).tail hlast

theorem Reachable.run (h : w.Reachable name begins foreign) {a : Activity EngineError α} {x : α}
    (ha : begins a) {now : Instant} {d : Deployment}
    (hadvance : Deployment.backend.advance ⟨name, name⟩ none now a w.deployment = (d, .ended x)) :
    Reachable name begins foreign ⟨d, w.courses ++ [.done x]⟩ := by
  obtain ⟨d₀, ids, hstart, hrun⟩ := h
  have hbegun : Reachable name begins foreign { w with courses := w.courses ++ [a] } :=
    ⟨d₀, ids, hstart, hrun.tail (.begin ha)⟩
  have hlast := hbegun.steps List.getElem?_concat_length (Backend.steps_of_advance hadvance)
  rwa [List.set_append_right _ _ (Nat.le_refl _), Nat.sub_self] at hlast

/-- Acts are one way in which things may go. -/
theorem Reachable.play? (h : w.Reachable name begins foreign) {now : Instant} {acts : List (Act α)}
    (hacts : ∀ act ∈ acts, act.IsAdmitted begins foreign)
    (hplay : w.play? name now acts = some w') : w'.Reachable name begins foreign := by
  induction acts generalizing w with
  | nil =>
    cases hplay
    exact h
  | cons act acts ih =>
    rw [List.forall_mem_cons] at hacts
    cases act with
    | run a =>
      rw [Fleet.play?] at hplay
      split at hplay
      · next hadvance => exact ih (h.run hacts.1 hadvance) hacts.2 hplay
      · cases hplay
    | others event =>
      obtain ⟨d₀, ids, hstart, hrun⟩ := h
      exact ih ⟨d₀, ids, hstart, hrun.tail (.others hacts.1)⟩ hacts.2 hplay

/-- Acts lead to whatever they are found to lead to. -/
theorem Reachable.exists_of_play? (h : w.Reachable name begins foreign) {now : Instant}
    {acts : List (Act α)} (hacts : ∀ act ∈ acts, act.IsAdmitted begins foreign) {p : Fleet α → Bool}
    (hplay : (w.play? name now acts).any p) : ∃ w', w'.Reachable name begins foreign ∧ p w' := by
  obtain ⟨w', hw', hp⟩ := (Option.any_eq_true _ _).1 hplay
  exact ⟨w', h.play? hacts hw', hp⟩

end Reachable

end Fleet

/-! ## Requests on a deployment -/

namespace Deployment

variable {d d' : Deployment} {name : String} {now : Instant}

theorem network_setNetwork (d : Deployment) (name : String) (net : Network) :
    (d.setNetwork name net).network name = net := by
  rw [network, setNetwork, lookup_setEntry, if_pos rfl]

theorem setNetwork_setNetwork (d : Deployment) (name : String) (net net' : Network) :
    (d.setNetwork name net).setNetwork name net' = d.setNetwork name net' := by
  simp only [setNetwork, setEntry_setEntry]

theorem network_issue (name : String) (now : Instant) (d : Deployment) (r : Request) :
    (d.issue ⟨name, name⟩ now r).1.network name =
      ((r.event? d.machine.files now).map (d.network name).after).getD (d.network name) := by
  cases r with
  | connect | ready | idle => rfl
  | manage | close | serve => exact network_setNetwork _ _ _
  | start => exact network_setNetwork _ _ _

/-- A server that is said to be ready has joined a cluster. -/
theorem isReady_of_poll {r : Request} {flight : Flight Deployment (r.Reply EngineError)}
    {reply : r.Reply EngineError} (hissue : d.issue ⟨name, name⟩ now r = (d', flight))
    (hpoll : flight.poll now d' = some reply) {joined : NodeId → Prop} {admits : Request → Prop}
    (hjoined : ∀ id, (d'.network name).isReady id → joined id) :
    (Rule.joining admits joined).tells r reply := by
  cases r with
  | ready server =>
    cases hissue
    have hanswer : (if (d.network name).isReady server.id then some () else none) = some reply :=
      hpoll
    refine hjoined server.id ?_
    by_contra hready
    rw [if_neg hready] at hanswer
    cases hanswer
  | _ => trivial

end Deployment

namespace Network

variable {net net' : Network} {event : Event} {id : NodeId}

/-! ## Servers stay ready -/

theorem isReady_iff : net.isReady id ↔ ∃ node, net.nodes[id]? = some node ∧
    node.attachment.isSome := by
  simp [isReady, Option.any_eq_true]

theorem isReady_updateNode {change : ServerNode → ServerNode} {i : NodeId}
    (hattached : ∀ n, n.attachment.isSome → (change n).attachment.isSome) (h : net.isReady id) :
    (net.updateNode i change).isReady id := by
  obtain ⟨node, hnode, hready⟩ := isReady_iff.1 h
  rw [isReady_iff, getElem?_updateNode, hnode]
  split
  · exact ⟨_, rfl, hattached node hready⟩
  · exact ⟨_, rfl, hready⟩

theorem isReady_foldl_shut (ids : List NodeId) (h : net.isReady id) :
    (ids.foldl (fun net id => net.updateNode id fun n => { n with closed := true })
      net).isReady id := by
  induction ids generalizing net with
  | nil => exact h
  | cons i ids ih => exact ih (isReady_updateNode (fun _ hn => hn) h)

theorem isReady_attach {i : NodeId} {dataDir : String} {a : Attachment} (h : net.isReady id) :
    (net.attach i dataDir a).isReady id :=
  @isReady_updateNode { net with dataDirs := _ } id _ i (fun _ _ => rfl) h

/-- No event takes a server's membership from it; it only changes what the membership is worth. -/
theorem Move.isReady (hmove : Move event net net') (h : net.isReady id) : net'.isReady id := by
  cases hmove with
  | route | look | serve | add => exact h
  | take _ hlisten =>
    obtain ⟨rfl, -, -⟩ := take_eq_ok hlisten
    obtain ⟨node, hnode, hready⟩ := isReady_iff.1 h
    refine isReady_iff.2 ⟨node, ?_, hready⟩
    exact (List.getElem?_append_left (List.getElem?_eq_some_iff.1 hnode).1).trans hnode
  | leave i =>
    unfold close
    split
    · exact h
    · exact isReady_updateNode (fun _ hn => hn) h
  | wait => exact isReady_updateNode (fun _ hn => hn) h
  | found _ _ _ _ hfound =>
    obtain ⟨_, _, -, -, -, -, rfl⟩ := bootstrap_eq_ok hfound
    exact isReady_attach h
  | restore => exact isReady_attach h
  | join => exact isReady_attach h
  | remove => exact isReady_foldl_shut _ h

theorem isReady_after (event : Event) (h : net.isReady id) : (net.after event).isReady id :=
  after_induction (I := (·.isReady id)) (fun _ _ hmove => hmove.isReady) h

/-- One admitted event has happened on a network, or nothing. -/
def Sees (P : Event → Prop) (net net' : Network) : Prop :=
  net' = net ∨ ∃ event, P event ∧ net' = net.after event

theorem Sees.isReady {P : Event → Prop} (hsees : Sees P net net') (h : net.isReady id) :
    net'.isReady id := by
  rcases hsees with rfl | ⟨event, -, rfl⟩
  · exact h
  · exact isReady_after event h

end Network

/-! ## What happens in a fleet -/

namespace Fleet

variable {α : Type} {name : String} {begins : Activity EngineError α → Prop}
  {foreign P : Network.Event → Prop} {admits : Request → Prop} {post : (NodeId → Prop) → α → Prop}
  {w w' : Fleet α}

/-- The network has seen admitted events only, and the activities keep their promises about the
    servers that have joined. -/
structure Sound (name : String) (admits : Request → Prop) (P : Network.Event → Prop)
    (post : (NodeId → Prop) → α → Prop) (w : Fleet α) : Prop where
  events : ∃ ids events, (∀ event ∈ events, P event) ∧
    w.network name = ({ ids } : Network).afterAll events
  obeys : ∀ a ∈ w.courses, ∀ joined, (∀ id, (w.network name).isReady id → joined id) →
    a.Obeys (.joining admits joined) (post joined)

/-- While others act, an activity keeps its promise. -/
theorem Sound.of_sees (h : w.Sound name admits P post)
    (hsees : Network.Sees P (w.network name) (w'.network name))
    (hcourses : ∀ a ∈ w'.courses, a ∈ w.courses ∨
      ∀ joined, (∀ id, (w'.network name).isReady id → joined id) →
        a.Obeys (.joining admits joined) (post joined)) : w'.Sound name admits P post := by
  obtain ⟨ids, events, hevents, hnetwork⟩ := h.events
  constructor
  · rcases hsees with hsame | ⟨event, hevent, hafter⟩
    · exact ⟨ids, events, hevents, hsame.trans hnetwork⟩
    · refine ⟨ids, events ++ [event], ?_, ?_⟩
      · exact List.forall_mem_append.2 ⟨hevents, List.forall_mem_singleton.2 hevent⟩
      · rw [Network.afterAll_concat, hafter, hnetwork]
  · intro a ha joined hjoined
    rcases hcourses a ha with hold | hnew
    · exact h.obeys a hold joined fun id hid => hjoined id (hsees.isReady hid)
    · exact hnew joined hjoined

section Sound

variable
  (hadmits : ∀ r files now event, admits r → Request.event? files now r = some event → P event)

include hadmits

theorem sees_issue (name : String) {r : Request} (hr : admits r) (d : Deployment) (now : Instant) :
    Network.Sees P (d.network name) ((d.issue ⟨name, name⟩ now r).1.network name) := by
  have hissue := Deployment.network_issue name now d r
  cases hevent : r.event? d.machine.files now with
  | none =>
    rw [hevent] at hissue
    exact .inl hissue
  | some event =>
    rw [hevent] at hissue
    exact .inr ⟨event, hadmits r _ _ event hr hevent, hissue⟩

/-- An activity that goes on lets an admitted event happen on the network, or none, and keeps its
    promise. -/
theorem obeys_of_step {d d' : Deployment} {a a' : Activity EngineError α}
    (hstep : Deployment.backend.Step ⟨name, name⟩ (d, a) (d', a'))
    (hobeys : ∀ joined, (∀ id, (d.network name).isReady id → joined id) →
      a.Obeys (.joining admits joined) (post joined)) :
    Network.Sees P (d.network name) (d'.network name) ∧
      ∀ joined, (∀ id, (d'.network name).isReady id → joined id) →
        a'.Obeys (.joining admits joined) (post joined) := by
  -- what is asked for does not depend on who has joined
  have hall := hobeys (fun _ => True) fun _ _ => trivial
  cases hstep with
  | clock now => exact ⟨.inl rfl, fun joined hjoined => hobeys joined hjoined now⟩
  | first => exact ⟨.inl rfl, fun joined hjoined => (hobeys joined hjoined).1⟩
  | second => exact ⟨.inl rfl, fun joined hjoined => (hobeys joined hjoined).2⟩
  | withdraw => exact ⟨.inl rfl, fun joined hjoined => (hobeys joined hjoined).2 _ nofun⟩
  | @reply _ _ r _ _ _ flight reply now hissue hpoll =>
    have hanswer : d.issue ⟨name, name⟩ now r = (d', flight) := hissue
    have hsees : Network.Sees P (d.network name) (d'.network name) := by
      have hafter := sees_issue hadmits name hall.1 d now
      rwa [hanswer] at hafter
    refine ⟨hsees, fun joined hjoined => ?_⟩
    -- whoever had joined before still has, so the promise holds of them
    refine (hobeys joined fun id hid => hjoined id (hsees.isReady hid)).2 _ ?_
    rintro reply ⟨⟩
    exact Deployment.isReady_of_poll hanswer hpoll hjoined
  | late now =>
    -- nobody waits for the answer, but the request has been carried out
    have hsees := sees_issue hadmits name hall.1 d now
    refine ⟨hsees, fun joined hjoined => ?_⟩
    exact (hobeys joined fun id hid => hjoined id (hsees.isReady hid)).2 _ nofun
  | cancelled now =>
    have hsees := sees_issue hadmits name hall.1 d now
    refine ⟨hsees, fun joined hjoined => ?_⟩
    exact (hobeys joined fun id hid => hjoined id (hsees.isReady hid)).2 _ nofun

theorem Sound.step (hforeign : ∀ event, foreign event → P event)
    (hbegins : ∀ a, begins a → ∀ joined, a.Obeys (.joining admits joined) (post joined))
    (hstep : Step name begins foreign w w') (h : w.Sound name admits P post) :
    w'.Sound name admits P post := by
  cases hstep with
  | begin ha =>
    refine h.of_sees (.inl rfl) fun a' ha' => ?_
    rcases List.mem_append.1 ha' with hold | hnew
    · exact .inl hold
    · rw [List.mem_singleton.1 hnew]
      exact .inr fun joined _ => hbegins _ ha joined
  | @course d i a a' hi hcourse =>
    obtain ⟨hsees, hnext⟩ :=
      obeys_of_step hadmits hcourse (h.obeys a (List.mem_of_getElem? hi))
    refine h.of_sees hsees fun other hother => ?_
    rcases List.mem_or_eq_of_mem_set hother with hold | rfl
    · exact .inl hold
    · exact .inr hnext
  | @others event hevent =>
    refine h.of_sees (.inr ⟨event, hforeign event hevent, ?_⟩) fun _ ha => .inl ha
    exact Deployment.network_setNetwork _ _ _
  | machine => exact h.of_sees (.inl rfl) fun _ ha => .inl ha

/-- The network of a fleet has seen admitted events only, and all activities keep their promises. -/
theorem Reachable.sound (hforeign : ∀ event, foreign event → P event)
    (hbegins : ∀ a, begins a → ∀ joined, a.Obeys (.joining admits joined) (post joined))
    (h : Reachable name begins foreign w) : w.Sound name admits P post := by
  obtain ⟨d, ids, hstart, hrun⟩ := h
  induction hrun with
  | refl => exact ⟨⟨ids, [], nofun, hstart⟩, nofun⟩
  | tail _ hstep ih => exact ih.step hadmits hforeign hbegins hstep

end Sound

end Fleet

end ClusterVault
