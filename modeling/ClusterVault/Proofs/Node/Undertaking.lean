import ClusterVault.Proofs.Activity.Yields
import ClusterVault.Proofs.Network.Membership
import ClusterVault.Proofs.Node.Fleet

/-!
# One activity among others

An activity under way on a deployment, where others act on all networks between any two of its turns.
All that it was answered is kept in a log, together with the deployment before and after, so that one
can tell what the activity has brought about and what it has been told.

## Main definitions

- `Answer`, `Answer.Given`: a request that was answered, and that the deployment answers so
- `Deployment.Linked`: nothing has happened but the answers of a log
- `Undertaking`, `Undertaking.Run`: an activity with its log, and what can come of it
- `Undertaking.Started`: the servers that came about by it

## Main statements

- `Undertaking.Run.follows`: what a protocol and the answers keep holds whatever happens
- `Undertaking.Run.of_ask`: a run of an activity that waits for an answer
- `Undertaking.Run.of_bind`: a run of two activities, one after the other
- `Undertaking.Run.yields`: no run comes to another end than the activity yields

## Design notes

Servers and clients may be on two networks. Whoever waits for an answer has changed nothing yet: in
memory, a request is carried out when it is answered. A network that nobody has used yet has no
random numbers of its own, so it stays what it is up to these when another network is used first.
-/

namespace ClusterVault

/-! ## Deployments with several networks -/

/-- The network that a request goes to. -/
def Request.network (site : Site) : Request → String
  | .connect _ | .manage _ _ => site.clients
  | .start _ | .ready _ | .close _ | .serve _ _ _ | .idle => site.servers

/-- A request that was answered, with the deployment before and after. -/
structure Answer where
  before : Deployment
  now : Instant
  request : Request
  reply : request.Reply EngineError
  after : Deployment

/-- The members that an answer tells of. -/
def Answer.members : Answer → List Member
  | ⟨_, _, .manage _ .list, Except.ok members, _⟩ => members
  | _ => []

/-- What an answer does to a network. -/
def Answer.event? (a : Answer) (site : Site) (name : String) : Option Network.Event :=
  if name = a.request.network site then a.request.event? a.before.machine.files a.now else none

/-- The deployment answers the request so, at once. -/
def Answer.Given (a : Answer) (site : Site) : Prop :=
  ∃ flight, a.before.issue site a.now a.request = (a.after, flight) ∧
    flight.poll a.now a.after = some a.reply

/-- Only a request to start a server starts one. -/
theorem Answer.request_of_event?_start {a : Answer} {site : Site} {name : String}
    {files : FileSystem} {now : Instant} {config : ServerConfig}
    (h : a.event? site name = some (.start files now config)) :
    a.request = .start config ∧ name = site.servers := by
  obtain ⟨before, now, r, reply, after⟩ := a
  obtain ⟨hname, hevent⟩ := Option.ite_none_right_eq_some.1 h
  cases r with
  | start config' =>
    cases hevent
    exact ⟨rfl, hname⟩
  | connect | manage | ready | close | serve | idle => cases hevent

/-- The server came about by this answer. -/
def Answer.Starts (a : Answer) (site : Site) (id : NodeId) : Prop :=
  (∃ config, a.request = .start config) ∧
    (a.before.network site.servers).nodes.length ≤ id ∧
    id < (a.after.network site.servers).nodes.length

/-- A network has seen an event, or nothing. Its random numbers may be others. -/
def Network.Sees? (event? : Option Event) (net net' : Network) : Prop :=
  ∃ ids, net' = { (event?.map net.after).getD net with ids }

namespace Network.Sees?

variable {event? : Option Event} {net net' : Network} {id : NodeId} {config : ServerConfig}

/-- What does not depend on random numbers holds on if the event keeps it. -/
theorem keeps {P : Network → Prop} (h : Sees? event? net net')
    (hids : ∀ (net : Network) (ids : IdSource), P net → P { net with ids })
    (hevent : ∀ event ∈ event?, P net → P (net.after event)) (hP : P net) : P net' := by
  obtain ⟨ids, rfl⟩ := h
  refine hids _ ids ?_
  cases event? with
  | none => exact hP
  | some event => exact hevent event rfl hP

theorem orderly (h : Sees? event? net net') (hnet : net.Orderly) : net'.Orderly :=
  h.keeps (fun _ _ hnet => hnet.of_settings?_eq rfl rfl hnet.listed)
    (fun event _ hnet => hnet.afterAll [event]) hnet

theorem isShut (h : Sees? event? net net') (hshut : net.IsShut id) : net'.IsShut id :=
  h.keeps (P := (·.IsShut id)) (fun _ _ hshut => hshut)
    (fun event _ hshut => hshut.afterAll [event]) hshut

theorem isShut_of_stops {event : Event} (h : Sees? (some event) net net')
    (hstops : net.Stops id event) (hnet : net.Orderly) : net'.IsShut id := by
  obtain ⟨ids, rfl⟩ := h
  exact hstops.isShut hnet

theorem length_le (h : Sees? event? net net') : net.nodes.length ≤ net'.nodes.length :=
  h.keeps (P := fun other => net.nodes.length ≤ other.nodes.length) (fun _ _ hle => hle)
    (fun event _ _ => length_le_after net event) (Nat.le_refl _)

theorem clusters_eq (h : Sees? event? net net') :
    net'.clusters = ((event?.map net.after).getD net).clusters := by
  obtain ⟨ids, rfl⟩ := h
  rfl

theorem settings? (h : Sees? event? net net') (hstays : ∀ event ∈ event?, ¬net.Stops id event)
    (hid : net.settings? id = some config) : net'.settings? id = some config :=
  h.keeps (P := fun other => other.settings? id = some config) (fun _ _ hid => hid)
    (fun event hevent hid => settings?_after hid (hstays event hevent)) hid

end Network.Sees?

namespace Deployment

variable {d d' : Deployment} {site : Site} {now : Instant} {name other : String} {net : Network}

/-- All networks have come about from networks on which nothing had happened. -/
def HasPast (d : Deployment) : Prop :=
  ∀ name, ∃ ids events, d.network name = ({ ids } : Network).afterAll events

theorem HasPast.of_networks_eq {ids : IdSource} {events : List Network.Event}
    (h : d.networks = [(name, ({ ids } : Network).afterAll events)]) : d.HasPast := by
  intro other
  by_cases hother : other = name
  · subst hother
    exact ⟨ids, events, by simp [network, h]⟩
  · have hnone : d.networks.lookup other = none := by simp [h, hother]
    rw [network, hnone]
    exact ⟨_, [], rfl⟩

theorem HasPast.orderly (h : d.HasPast) (name : String) : (d.network name).Orderly := by
  obtain ⟨ids, events, hnet⟩ := h name
  rw [hnet]
  exact (Network.Orderly.of_empty ids).afterAll events

theorem HasPast.settled (h : d.HasPast) (name : String) : (d.network name).Settled := by
  obtain ⟨ids, events, hnet⟩ := h name
  rw [hnet]
  exact (Network.settled_of_empty ids).afterAll events

theorem HasPast.rooted (h : d.HasPast) (name : String) : (d.network name).Rooted := by
  obtain ⟨ids, events, hnet⟩ := h name
  rw [hnet]
  exact Network.rooted_afterAll ids events

/-- Another network stays what it is. -/
theorem network_setNetwork_of_ne (h : name ≠ other) (d : Deployment) (net : Network) :
    Network.Sees? none (d.network name) ((d.setNetwork other net).network name) := by
  have hlookup : (setEntry other net d.networks).lookup name = d.networks.lookup name := by
    rw [lookup_setEntry, if_neg h]
  simp only [network, setNetwork, hlookup]
  cases d.networks.lookup name with
  | some net => exact ⟨net.ids, rfl⟩
  | none => exact ⟨_, rfl⟩

theorem sees?_setNetwork (name other : String) (d : Deployment) (event? : Option Network.Event) :
    Network.Sees? (if name = other then event? else none) (d.network name)
      ((d.setNetwork other ((event?.map (d.network other).after).getD (d.network other))).network
        name) := by
  split
  · next h =>
    subst h
    rw [network_setNetwork]
    exact ⟨_, rfl⟩
  · next h => exact network_setNetwork_of_ne h d _

theorem sees?_after (name other : String) (d : Deployment) (event : Network.Event) :
    Network.Sees? (if name = other then some event else none) (d.network name)
      ((d.setNetwork other ((d.network other).after event)).network name) :=
  sees?_setNetwork name other d (some event)

theorem sees?_of_given {a : Answer} (h : a.Given site) (name : String) :
    Network.Sees? (a.event? site name) (a.before.network name) (a.after.network name) := by
  obtain ⟨before, now, r, reply, after⟩ := a
  obtain ⟨flight, hissue, -⟩ := h
  dsimp only [Answer.event?] at hissue ⊢
  obtain rfl : (before.issue site now r).1 = after := congrArg Prod.fst hissue
  cases r with
  | connect | ready | idle =>
    simp only [Request.event?, ite_self]
    exact ⟨_, rfl⟩
  | manage | close | serve => exact sees?_setNetwork _ _ _ (some _)
  | start => exact sees?_setNetwork _ _ _ (some _)

/-- The network that the request goes to sees what the request does. -/
theorem sees?_own {a : Answer} {event : Network.Event} (h : a.Given site)
    (hevent : a.request.event? a.before.machine.files a.now = some event) :
    Network.Sees? (some event) (a.before.network (a.request.network site))
      (a.after.network (a.request.network site)) := by
  have hsees := sees?_of_given h (a.request.network site)
  rwa [Answer.event?, if_pos rfl, hevent] at hsees

/-- Whoever waits for an answer has changed nothing yet. -/
theorem eq_of_poll_eq_none {r : Request} {flight : Flight Deployment (r.Reply EngineError)}
    (hissue : d.issue site now r = (d', flight)) (hpoll : flight.poll now d' = none) : d' = d := by
  cases r with
  | ready | idle =>
    cases hissue
    rfl
  | connect | manage | start | close | serve =>
    cases hissue
    cases hpoll

theorem start_of_given {before after : Deployment} {config : ServerConfig}
    {reply : (Request.start config).Reply EngineError}
    (h : Answer.Given ⟨before, now, .start config, reply, after⟩ site) :
    ∃ files result, (before.network site.servers).start before.machine.files now config =
        (after.network site.servers, files, result) ∧
      reply = result.map fun id => (⟨id, config.name⟩ : ServerHandle) := by
  obtain ⟨flight, hissue, hpoll⟩ := h
  dsimp only at hissue hpoll
  generalize hstart : (before.network site.servers).start before.machine.files now config = started
  obtain ⟨net, files, result⟩ := started
  rw [issue, hstart] at hissue
  cases hissue
  cases hpoll
  have hnet : ((before.setNetwork site.servers net).setFiles files).network site.servers = net :=
    network_setNetwork before site.servers net
  exact ⟨files, result, by rw [hnet], rfl⟩

theorem serve_of_given {before after : Deployment} {server : ServerHandle} {user : String}
    {command : Command} {reply : (Request.serve server user command).Reply EngineError}
    (h : Answer.Given ⟨before, now, .serve server user command, reply, after⟩ site) :
    (before.network site.servers).serve now server.id user command =
      (after.network site.servers, reply) := by
  obtain ⟨flight, hissue, hpoll⟩ := h
  dsimp only at hissue hpoll
  generalize hserve : (before.network site.servers).serve now server.id user command = served
  obtain ⟨net, result⟩ := served
  rw [issue, hserve] at hissue
  cases hissue
  cases hpoll
  exact congrArg (·, reply) (network_setNetwork before site.servers net).symm

theorem manage_of_given {before after : Deployment} {client : Connection} {command : MemberCommand}
    {reply : (Request.manage client command).Reply EngineError}
    (h : Answer.Given ⟨before, now, .manage client command, reply, after⟩ site) :
    ((before.network site.clients).manage now client command).2 = reply := by
  obtain ⟨flight, hissue, hpoll⟩ := h
  dsimp only at hissue hpoll
  generalize hmanage : (before.network site.clients).manage now client command = managed
  obtain ⟨net, result⟩ := managed
  rw [issue, hmanage] at hissue
  cases hissue
  exact Option.some.inj hpoll

theorem connect_of_given {before after : Deployment} {config : ClientConfig}
    {reply : (Request.connect config).Reply EngineError}
    (h : Answer.Given ⟨before, now, .connect config, reply, after⟩ site) :
    (before.network site.clients).connect before.machine.files config = reply := by
  obtain ⟨flight, hissue, hpoll⟩ := h
  cases hissue
  exact Option.some.inj hpoll

/-- Nothing has happened on the networks but the answers of a log, one after the other. -/
def Linked (d : Deployment) : List Answer → Deployment → Prop
  | [], d' => ∀ name, d'.network name = d.network name
  | a :: log, d' => (∀ name, a.before.network name = d.network name) ∧ a.after.Linked log d'

theorem Linked.of_network_eq {d'' : Deployment} {log : List Answer} (h : d.Linked log d')
    (heq : ∀ name, d''.network name = d'.network name) : d.Linked log d'' := by
  induction log generalizing d with
  | nil => exact fun name => (heq name).trans (h name)
  | cons a log ih => exact ⟨h.1, ih h.2⟩

theorem Linked.snoc {a : Answer} {log : List Answer} (h : d.Linked log a.before)
    (heq : ∀ name, d'.network name = a.after.network name) : d.Linked (log ++ [a]) d' := by
  induction log generalizing d with
  | nil => exact ⟨h, heq⟩
  | cons b log ih => exact ⟨h.1, ih h.2⟩

theorem Linked.network_eq_of_snoc {a : Answer} {log : List Answer} (h : d.Linked (log ++ [a]) d')
    (name : String) : d'.network name = a.after.network name := by
  induction log generalizing d with
  | nil => exact h.2 name
  | cons b log ih => exact ih h.2

end Deployment

/-! ## Undertakings -/

/-- An activity under way, with all that it was answered. -/
structure Undertaking (α : Type) where
  deployment : Deployment
  rest : Activity EngineError α
  log : List Answer := []

namespace Undertaking

variable {α β : Type} {site : Site} {foreign : String → Network → Network.Event → Prop}
  {u v : Undertaking α} {d : Deployment} {name : String}

/-- What happens next: the activity goes on, others act on a network, or the machine changes. -/
inductive Step (site : Site) (foreign : String → Network → Network.Event → Prop) :
    Undertaking α → Undertaking α → Prop
  | quiet {u : Undertaking α} {d : Deployment} {rest : Activity EngineError α}
    (h : Deployment.backend.Turn site (u.deployment, u.rest) none (d, rest)) :
    Step site foreign u { u with deployment := d, rest }
  | answer {u : Undertaking α} {d : Deployment} {rest : Activity EngineError α}
    {answered : Answered EngineError}
    (h : Deployment.backend.Turn site (u.deployment, u.rest) (some answered) (d, rest)) :
    Step site foreign u
      ⟨d, rest, u.log ++ [⟨u.deployment, answered.now, answered.request, answered.reply, d⟩]⟩
  | others {u : Undertaking α} {name : String} {event : Network.Event}
    (h : foreign name (u.deployment.network name) event) :
    Step site foreign u { u with
      deployment := u.deployment.setNetwork name ((u.deployment.network name).after event) }
  | machine (u : Undertaking α) (machine : Machine) :
    Step site foreign u { u with deployment := { u.deployment with machine } }

/-- All that can come of an undertaking. -/
abbrev Run (site : Site) (foreign : String → Network → Network.Event → Prop) :
    Undertaking α → Undertaking α → Prop :=
  Relation.ReflTransGen (Step site foreign)

/-- The server came about by a request of the activity. -/
def Started (site : Site) (u : Undertaking α) (id : NodeId) : Prop := ∃ a ∈ u.log, a.Starts site id

/-- A turn without an answer leaves the deployment as it is. -/
theorem deployment_of_quiet {a a' : Activity EngineError α} {d' : Deployment}
    (h : Deployment.backend.Turn site (d, a) none (d', a')) : d' = d := by
  cases h with
  | clock | first | second | withdraw => rfl
  | late now hissue hpoll => exact Deployment.eq_of_poll_eq_none hissue hpoll
  | cancelled now hissue hpoll => exact Deployment.eq_of_poll_eq_none hissue hpoll

/-- A turn with an answer is one that the deployment gives. -/
theorem given_of_turn {a a' : Activity EngineError α} {d' : Deployment}
    {answered : Answered EngineError}
    (h : Deployment.backend.Turn site (d, a) (some answered) (d', a')) :
    Answer.Given ⟨d, answered.now, answered.request, answered.reply, d'⟩ site := by
  cases h with
  | reply now hissue hpoll => exact ⟨_, hissue, hpoll⟩

/-- What is kept by all answers that a protocol admits, and by whatever else happens, holds as long
    as an activity that follows the protocol is under way. -/
theorem Run.follows {σ : Type} {p : Protocol EngineError σ} {inv : σ → Prop} {post : σ → α → Prop}
    {I : σ → Deployment → List Answer → Prop} {s : σ} (hrun : Run site foreign u v)
    (h : u.rest.Follows p inv post s) (hI : I s u.deployment u.log)
    (hlapse : ∀ s d log, I s d log → I (p.lapse s) d log)
    (hanswer : ∀ s log (a : Answer), a.Given site → p.admits s a.request → I s a.before log →
      I (p.after s a.request a.reply) a.after (log ++ [a]))
    (hothers : ∀ s d log name event, foreign name (d.network name) event → I s d log →
      I s (d.setNetwork name ((d.network name).after event)) log)
    (hmachine : ∀ s d log machine, I s d log → I s { d with machine } log) :
    ∃ s, v.rest.Follows p inv post s ∧ I s v.deployment v.log := by
  -- what the activity may still ask for and what has come about go together along the run
  induction hrun with
  | refl => exact ⟨s, h, hI⟩
  | tail _ hstep ih =>
    obtain ⟨s, h, hI⟩ := ih
    cases hstep with
    | quiet hturn =>
      obtain rfl := deployment_of_quiet hturn
      exact ⟨_, (h.turn hturn).1, hlapse _ _ _ hI⟩
    | answer hturn =>
      obtain ⟨hnext, hadmits⟩ := h.turn hturn
      exact ⟨_, hnext, hanswer s _ _ (given_of_turn hturn) (hadmits _ rfl) hI⟩
    | others hevent => exact ⟨s, h, hothers s _ _ _ _ hevent hI⟩
    | machine => exact ⟨s, h, hmachine s _ _ _ hI⟩

/-- What is kept by whatever happens on a network, and does not depend on random numbers, holds on. -/
theorem Run.keeps_networks {P : String → Network → Prop}
    (hids : ∀ name net ids, P name net → P name { net with ids })
    (hevent : ∀ name net event, P name net → P name (net.after event))
    (hrun : Run site foreign u v) (hu : ∀ name, P name (u.deployment.network name)) (name : String) :
    P name (v.deployment.network name) := by
  have hsees {d d' : Deployment} {event? : Option Network.Event}
      (h : Network.Sees? event? (d.network name) (d'.network name)) (hP : P name (d.network name)) :
      P name (d'.network name) :=
    h.keeps (P := P name) (hids name) (fun event _ => hevent name _ event) hP
  induction hrun with
  | refl => exact hu name
  | tail _ hstep ih =>
    cases hstep with
    | quiet hturn =>
      obtain rfl := deployment_of_quiet hturn
      exact ih
    | answer hturn => exact hsees (Deployment.sees?_of_given (given_of_turn hturn) name) ih
    | others => exact hsees (Deployment.sees?_after name _ _ _) ih
    | machine => exact ih

/-- What is kept by whatever happens on a network holds at every answer and in the end. -/
theorem Run.keeps {P : String → Network → Prop}
    (hids : ∀ name net ids, P name net → P name { net with ids })
    (hevent : ∀ name net event, P name net → P name (net.after event))
    (hrun : Run site foreign u v) (hu : ∀ name, P name (u.deployment.network name))
    (hlog : ∀ a ∈ u.log, a.Given site ∧ ∀ name, P name (a.before.network name)) :
    (∀ name, P name (v.deployment.network name)) ∧
      ∀ a ∈ v.log, a.Given site ∧ ∀ name, P name (a.before.network name) := by
  refine ⟨hrun.keeps_networks hids hevent hu, ?_⟩
  induction hrun with
  | refl => exact hlog
  | tail hmid hstep ih =>
    cases hstep with
    | answer hturn =>
      have hnetworks := Run.keeps_networks hids hevent hmid hu
      exact List.forall_mem_append.2
        ⟨ih, List.forall_mem_singleton.2 ⟨given_of_turn hturn, hnetworks⟩⟩
    | quiet | others | machine => exact ih

/-- If nobody else acts, nothing happens between the answers. -/
theorem Run.linked (hnobody : ∀ name net event, ¬foreign name net event)
    (hrun : Run site foreign u v) (hu : d.Linked u.log u.deployment) :
    d.Linked v.log v.deployment := by
  induction hrun with
  | refl => exact hu
  | tail _ hstep ih =>
    cases hstep with
    | quiet hturn =>
      obtain rfl := deployment_of_quiet hturn
      exact ih
    | answer => exact ih.snoc fun _ => rfl
    | others hevent => exact absurd hevent (hnobody _ _ _)
    | machine => exact ih.of_network_eq fun _ => rfl

/-- An activity that has come to its end asks for nothing more. -/
theorem Run.of_done {x : α} (hrun : Run site foreign u v) (hu : u.rest = .done x) :
    v.rest = .done x ∧ v.log = u.log := by
  induction hrun with
  | refl => exact ⟨hu, rfl⟩
  | tail _ hstep ih =>
    cases hstep with
    | quiet hturn | answer hturn =>
      rw [ih.1] at hturn
      cases hturn
    | others | machine => exact ih

/-- An activity that has come to its end yields that end, after the answers that it got. -/
theorem Run.yields {x : α} (hrun : Run site foreign u v) (hend : v.rest = .done x) :
    ∃ answers, v.log = u.log ++ answers ∧
      u.rest.Yields (answers.map fun a => ⟨a.now, a.request, a.reply⟩) x := by
  induction hrun using Relation.ReflTransGen.head_induction_on with
  | refl => exact ⟨[], v.log.append_nil.symm, hend ▸ .done x⟩
  | head hstep _ ih =>
    obtain ⟨answers, hlog, hyields⟩ := ih
    cases hstep with
    | quiet hturn => exact ⟨answers, hlog, hturn.yields hyields⟩
    | answer hturn => exact ⟨_, hlog.trans (List.append_assoc _ _ _), hturn.yields hyields⟩
    | others | machine => exact ⟨answers, hlog, hyields⟩

/-- An activity that waits for an answer as long as it takes, and has come to its end, was answered. -/
theorem Run.of_ask {r : Request} {next : Wake (r.Reply EngineError) → Activity EngineError α} {x : α}
    (hrun : Run site foreign u v) (hu : u.rest = .ask r none false next) (hend : v.rest = .done x) :
    ∃ (before : Deployment) (now : Instant) (reply : r.Reply EngineError) (after : Deployment),
      Run site foreign u { u with deployment := before } ∧
      Answer.Given ⟨before, now, r, reply, after⟩ site ∧
      Run site foreign
        ⟨after, next (.reply reply), u.log ++ [⟨before, now, r, reply, after⟩]⟩ v := by
  induction hrun using Relation.ReflTransGen.head_induction_on with
  | refl => cases hu.symm.trans hend
  | @head u w hstep hrest ih =>
    obtain ⟨d, rest, log⟩ := u
    dsimp only at hu
    subst hu
    cases hstep with
    | quiet hturn => cases hturn
    | answer hturn =>
      have hgiven := given_of_turn hturn
      cases hturn with
      | reply now => exact ⟨_, now, _, _, .refl, hgiven, hrest⟩
    | others hevent =>
      obtain ⟨before, now, reply, after, hwaited, hanswered⟩ := ih rfl
      exact ⟨before, now, reply, after, .head (.others hevent) hwaited, hanswered⟩
    | machine machine =>
      obtain ⟨before, now, reply, after, hwaited, hanswered⟩ := ih rfl
      exact ⟨before, now, reply, after, .head (.machine _ machine) hwaited, hanswered⟩

/-- Of two activities, one after the other, either the first is still under way or it has come to its
    end and the second has begun. -/
theorem Run.of_bind {a : Activity EngineError β} {f : β → Activity EngineError α}
    {log : List Answer} (hrun : Run site foreign ⟨d, a.bind f, log⟩ v) :
    ∃ u : Undertaking β, Run site foreign ⟨d, a, log⟩ u ∧
      (v = ⟨u.deployment, u.rest.bind f, u.log⟩ ∨
        ∃ x, u.rest = .done x ∧ Run site foreign ⟨u.deployment, f x, u.log⟩ v) := by
  -- the turn in which the first activity ends is its own, and the next one is of the second
  induction hrun with
  | refl => exact ⟨⟨d, a, log⟩, .refl, .inl rfl⟩
  | @tail _ w _ hstep ih =>
    obtain ⟨u, hu, rfl | ⟨x, hx, hrest⟩⟩ := ih
    · by_cases hdone : ∃ x, u.rest = .done x
      · obtain ⟨x, hx⟩ := hdone
        rw [hx] at hstep
        exact ⟨u, hu, .inr ⟨x, hx, .single hstep⟩⟩
      · rw [not_exists] at hdone
        cases hstep with
        | quiet hturn =>
          obtain ⟨rest, hrest, rfl⟩ := hturn.of_bind hdone
          exact ⟨_, hu.tail (.quiet hrest), .inl rfl⟩
        | answer hturn =>
          obtain ⟨rest, hrest, rfl⟩ := hturn.of_bind hdone
          exact ⟨_, hu.tail (.answer hrest), .inl rfl⟩
        | others hevent => exact ⟨_, hu.tail (.others hevent), .inl rfl⟩
        | machine => exact ⟨_, hu.tail (.machine _ _), .inl rfl⟩
    · exact ⟨u, hu, .inr ⟨x, hx, hrest.tail hstep⟩⟩

/-- An activity that gets to its end at an instant has taken every answer on its way, and has got all
    of them at that instant. -/
theorem Run.of_advance_now {cancelAt : Option Instant} {now : Instant} {a : Activity EngineError α}
    {d' : Deployment} {x : α} (foreign : String → Network → Network.Event → Prop) (log : List Answer)
    (h : Deployment.backend.advance site cancelAt now a d = (d', .ended x)) :
    ∃ answers, (∀ b ∈ answers, b.now = now) ∧
      Run site foreign ⟨d, a, log⟩ ⟨d', .done x, log ++ answers⟩ := by
  -- an advance takes the first of several that can go on, which is one of the turns of a run
  induction a generalizing d log with
  | done y =>
    cases h
    exact ⟨[], List.forall_mem_nil _, log.append_nil.symm ▸ .refl⟩
  | abort => cases h
  | clock next ih =>
    obtain ⟨answers, hnow, hrun⟩ := ih now log h
    exact ⟨answers, hnow, .head (.quiet (.clock now)) hrun⟩
  | either first second ih _ =>
    obtain ⟨answers, hnow, hrun⟩ := ih log h
    exact ⟨answers, hnow, .head (.quiet .first) hrun⟩
  | ask r limit heeds next ih =>
    rw [Backend.advance] at h
    split at h
    · next hcancelled =>
      rw [Bool.and_eq_true] at hcancelled
      obtain ⟨rfl, -⟩ := hcancelled
      obtain ⟨answers, hnow, hrun⟩ := ih _ log h
      exact ⟨answers, hnow, .head (.quiet .withdraw) hrun⟩
    · generalize hissue : Deployment.backend.issue site now d r = issued at h
      obtain ⟨mid, flight⟩ := issued
      dsimp only at h
      split at h
      · next reply hpoll =>
        obtain ⟨answers, hnow, hrun⟩ := ih _ (log ++ [⟨d, now, r, reply, mid⟩]) h
        rw [List.append_assoc] at hrun
        exact ⟨_, List.forall_mem_cons.2 ⟨rfl, hnow⟩,
          .head (.answer (.reply now hissue hpoll)) hrun⟩
      · next hpoll =>
        split at h
        · next hlimit =>
          obtain ⟨deadline, rfl, -⟩ := (Option.any_eq_true _ _).1 hlimit
          obtain ⟨answers, hnow, hrun⟩ := ih _ log h
          exact ⟨answers, hnow, .head (.quiet (.late now hissue hpoll)) hrun⟩
        · cases h

/-- An activity that gets to its end at an instant has taken every answer on its way. -/
theorem Run.of_advance {cancelAt : Option Instant} {now : Instant} {a : Activity EngineError α}
    {d' : Deployment} {x : α} (foreign : String → Network → Network.Event → Prop) (log : List Answer)
    (h : Deployment.backend.advance site cancelAt now a d = (d', .ended x)) :
    ∃ answers, Run site foreign ⟨d, a, log⟩ ⟨d', .done x, log ++ answers⟩ := by
  obtain ⟨answers, -, hrun⟩ := Run.of_advance_now foreign log h
  exact ⟨answers, hrun⟩

end Undertaking

end ClusterVault
