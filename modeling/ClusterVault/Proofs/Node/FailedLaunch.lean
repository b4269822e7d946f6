import ClusterVault.Proofs.Access.Sound
import ClusterVault.Proofs.Node.Protocol
import ClusterVault.Proofs.Node.Registration
import ClusterVault.Proofs.Node.Undertaking

/-!
# Launches that fail

A launch may fail anywhere: before its server has started, while it starts, while it waits for it and
while it sets up access control, and it may be cancelled at each of its requests. This module shows
that it leaves no server behind, however it fails and whatever others do meanwhile, and that it stops
no server of others.

## Main definitions

- `Network.InUse`: a server runs in a cluster whose access control is on
- `Answer.Retires`: a request that stops a server by removing what its node has left behind
- `LaunchKnowledge.Accounts`: what a launch knows of its server is so
- `LaunchKnowledge.Spares`: a server of others keeps running

## Main statements

- `Launcher.no_server_left_behind`: the servers of a launch that fails are out of reach for good, all
  others keep running, and a launch succeeds only with a server that is in use
-/

namespace ClusterVault

/-! ## Servers that answer -/

namespace Cluster

variable {c c' : Cluster} {user : String} {now : Instant} {limit : Nat} {command : Command}

theorem enabled_of_handle_eq_ok {reply : command.Reply}
    (h : c.handle user now limit command = .ok (reply, c')) (hon : command.leavesOn (.ok reply)) :
    c'.access.enabled := by
  cases command with
  | authStatus =>
    have hstatus : (c.authStatus user).map (·, c) = .ok (reply, c') := h
    cases hanswer : c.authStatus user with
    | error e =>
      rw [hanswer] at hstatus
      cases hstatus
    | ok enabled =>
      rw [hanswer] at hstatus
      cases hstatus
      obtain ⟨_, -, hsame⟩ := bind_eq_ok.1 hanswer
      cases hsame
      exact hon
  | enableAuth =>
    have hcarry := carryOut_of_enableAuth_eq_ok (plain_eq_ok h)
    rw [AccessControl.carryOut] at hcarry
    split at hcarry
    · next hold =>
      rw [Except.ok.injEq] at hcarry
      rw [← hcarry]
      exact hold
    · obtain ⟨-, heq⟩ := AccessControl.enable_eq_ok hcarry
      rw [heq]
  | _ => cases hon

/-- Only a cluster whose checks are on tells so, and they are on after they were switched on. -/
theorem enabled_of_leavesOn (hon : command.leavesOn (c.serve user now limit command).1) :
    (c.serve user now limit command).2.access.enabled := by
  cases h : (c.expire now).handle user now limit command with
  | error e =>
    rw [serve_of_handle_eq_error h] at hon
    cases command <;> cases hon
  | ok answer =>
    rw [serve_of_handle_eq_ok h] at hon ⊢
    exact enabled_of_handle_eq_ok h hon

end Cluster

/-- Who accepts a request runs as a member of a cluster. -/
theorem Network.serve_eq_ok {net net' : Network} {id : NodeId} {now : Instant} {user : String}
    {command : Command} {reply : command.Reply}
    (h : net.serve now id user command = (net', .ok reply)) :
    ∃ config a c, net.settings? id = some config ∧ net.attachment? id = some a ∧
      net.clusters[a.cluster]? = some c ∧
      (c.serve user now config.maxOperations command).1 = .ok reply ∧
      net' = net.setCluster a.cluster (c.serve user now config.maxOperations command).2 := by
  unfold serve at h
  split at h
  · cases h
  · next node hnode =>
    split at h
    · cases h
    · next k hk =>
      split at h
      · cases h
      · next c hc =>
        obtain ⟨hnet, hreply⟩ := Prod.mk.inj h
        unfold ServerNode.cluster at hk
        split at hk
        · cases hk
        · next hopen =>
          have hrunning : net.running? id = some node :=
            running?_eq_some.2 ⟨hnode, by simpa using hopen⟩
          split at hk
          · next a ha =>
            cases hk
            exact ⟨node.config, a, c, settings?_eq_some.2 ⟨node, hrunning, rfl⟩,
              attachment?_eq_some.2 ⟨node, hrunning, ha⟩, hc, hreply, hnet.symm⟩
          · cases hk

/-- A server runs, listens at all its URLs, and is a member of a cluster whose access control is
    on. -/
def Network.InUse (net : Network) (id : NodeId) : Prop :=
  ∃ config a c, net.settings? id = some config ∧
    (∀ url ∈ config.urls, net.listeners.lookup url = some id) ∧
    net.attachment? id = some a ∧ net.clusters[a.cluster]? = some c ∧ c.hasMember a.member ∧
    c.access.enabled

/-- The server through which access control is seen or switched on is in use. -/
theorem Network.Orderly.inUse {net net' : Network} {id : NodeId} {now : Instant} {user : String}
    {command : Command} {reply : Except EngineError command.Reply} (horderly : net'.Orderly)
    (h : net.serve now id user command = (net', reply)) (hon : command.leavesOn reply) :
    net'.InUse id := by
  cases reply with
  | error e => cases command <;> cases hon
  | ok reply =>
    obtain ⟨config, a, c, hconfig, ha, hc, hreply, rfl⟩ := serve_eq_ok h
    obtain ⟨c', hc', hmember⟩ := horderly.listed ha
    rw [clusters_setCluster hc] at hc'
    cases hc'
    rw [← hreply] at hon
    exact ⟨config, a, _, hconfig, horderly.owned hconfig, ha, clusters_setCluster hc _, hmember,
      Cluster.enabled_of_leavesOn hon⟩

/-! ## What a launch answers for -/

/-- A request that stops a server, since it removes a member that its node has left behind, as far as
    it was told by these answers. -/
def Answer.Retires (a : Answer) (o : LaunchOptions) (site : Site) (log : List Answer) (name : String)
    (id : NodeId) : Prop :=
  ∃ client m, a.request = .manage client (.remove m.id) ∧ name = site.clients ∧
    o.LeftBehind m ∧ (∃ b ∈ log, m ∈ b.members) ∧
    (a.before.network name).Stops id (.manage a.now client (.remove m.id))

theorem Answer.Retires.mono {a : Answer} {o : LaunchOptions} {site : Site} {log more : List Answer}
    {name : String} {id : NodeId} (h : a.Retires o site log name id) :
    a.Retires o site (log ++ more) name id := by
  obtain ⟨client, m, hrequest, hname, hleft, ⟨b, hb, hm⟩, hstops⟩ := h
  exact ⟨client, m, hrequest, hname, hleft, ⟨b, List.mem_append_left _ hb, hm⟩, hstops⟩

variable {site : Site} {o : LaunchOptions} {method : JoinMethod} {s : LaunchKnowledge}
  {d d' : Deployment} {log : List Answer} {a : Answer} {id : NodeId} {name : String}
  {config : ServerConfig}

theorem Answer.members_of_told {m : Member} (hm : m ∈ (s.learn a.request a.reply).told) :
    m ∈ s.told ∨ m ∈ a.members := by
  obtain ⟨before, now, r, reply, after⟩ := a
  cases r with
  | manage client command =>
    cases command with
    | list =>
      cases reply with
      | error e => exact .inl hm
      | ok members => exact List.mem_append.1 hm
    | add | remove => exact .inl hm
  | start => cases reply <;> exact .inl hm
  | connect | ready | close | serve | idle => exact .inl hm

namespace LaunchKnowledge

/-- What a launch knows of its server is so: of all that came about by its requests, it is the only one
    that may still run. -/
structure Accounts (site : Site) (s : LaunchKnowledge) (d : Deployment) (log : List Answer) :
    Prop where
  orderly : ∀ name, (d.network name).Orderly
  held : ∀ {id}, s.Holds id →
    id < (d.network site.servers).nodes.length ∧ ∃ a ∈ log, a.Starts site id
  started : ∀ {a id}, a ∈ log → a.Starts site id →
    (d.network site.servers).IsShut id ∨ s.Holds id
  told : ∀ {m}, m ∈ s.told → ∃ a ∈ log, m ∈ a.members

namespace Accounts

theorem of_empty (h : d.HasPast) : Accounts site {} d [] :=
  ⟨h.orderly, nofun, nofun, nofun⟩

theorem lapse (h : s.Accounts site d log) : s.lapse.Accounts site d log :=
  ⟨h.orderly, h.held, h.started, h.told⟩

/-- Whatever happens on the networks, the servers that were stopped stay so. -/
theorem of_sees (h : s.Accounts site d log)
    (hsees : ∀ name, ∃ event?, Network.Sees? event? (d.network name) (d'.network name)) :
    s.Accounts site d' log := by
  obtain ⟨event?, hservers⟩ := hsees site.servers
  refine ⟨fun name => ?_, fun hid => ?_, fun ha hid => ?_, h.told⟩
  · obtain ⟨event?, hname⟩ := hsees name
    exact hname.orderly (h.orderly name)
  · obtain ⟨hlt, hstarted⟩ := h.held hid
    exact ⟨Nat.lt_of_lt_of_le hlt hservers.length_le, hstarted⟩
  · exact (h.started ha hid).imp_left hservers.isShut

/-- An answer is accounted for if the launch still knows of every server that it may have. -/
theorem concat (h : s.Accounts site a.before log) (hgiven : a.Given site)
    (hheld : ∀ {id}, (s.learn a.request a.reply).Holds id → s.Holds id ∨ a.Starts site id)
    (hkept : ∀ {id}, s.Holds id → id < (a.before.network site.servers).nodes.length →
      (a.after.network site.servers).IsShut id ∨ (s.learn a.request a.reply).Holds id)
    (hstarts : ∀ {id}, a.Starts site id →
      (a.after.network site.servers).IsShut id ∨ (s.learn a.request a.reply).Holds id) :
    (s.learn a.request a.reply).Accounts site a.after (log ++ [a]) := by
  have hafter := h.of_sees fun name => ⟨_, Deployment.sees?_of_given hgiven name⟩
  -- each server is either one that was accounted for or one that this answer brought about
  refine ⟨hafter.orderly, fun hid => ?_, fun hb hid => ?_, fun hm => ?_⟩
  · rcases hheld hid with hold | hnew
    · obtain ⟨hlt, b, hb, hstarted⟩ := hafter.held hold
      exact ⟨hlt, b, List.mem_append_left _ hb, hstarted⟩
    · exact ⟨hnew.2.2, a, List.mem_append_right _ (List.mem_singleton_self a), hnew⟩
  · rcases List.mem_append.1 hb with hold | hnew
    · rcases hafter.started hold hid with hshut | hholds
      · exact .inl hshut
      · exact hkept hholds (h.held hholds).1
    · rw [List.mem_singleton.1 hnew] at hid
      exact hstarts hid
  · rcases Answer.members_of_told hm with hold | hnew
    · obtain ⟨b, hb, hmem⟩ := h.told hold
      exact ⟨b, List.mem_append_left _ hb, hmem⟩
    · exact ⟨a, List.mem_append_right _ (List.mem_singleton_self a), hnew⟩

end Accounts

/-- The server that a start brings about is known, or it has been stopped already. -/
theorem holds_of_starts (hgiven : a.Given site) (hid : a.Starts site id) :
    (a.after.network site.servers).IsShut id ∨ (s.learn a.request a.reply).Holds id := by
  obtain ⟨before, now, r, reply, after⟩ := a
  obtain ⟨⟨config, hconfig⟩, hle, hlt⟩ := hid
  dsimp only at hconfig hle hlt ⊢
  subst hconfig
  obtain ⟨files, result, hstart, rfl⟩ := Deployment.start_of_given hgiven
  have hcases := (before.network site.servers).start_cases before.machine.files now config
  rw [hstart] at hcases
  dsimp only at hcases
  rcases hcases with ⟨hsame, -⟩ | ⟨hlength, -, hresult⟩
  · rw [hsame] at hlt
    exact absurd hlt (Nat.not_lt_of_le hle)
  · rw [hlength] at hlt
    obtain rfl := Nat.le_antisymm hle (Nat.le_of_lt_succ hlt)
    rcases hresult with rfl | ⟨-, hshut⟩
    · exact .inr rfl
    · exact .inl hshut

/-- A launch comes to know only of servers that it has started. -/
theorem starts_of_holds (hgiven : a.Given site) (hid : (s.learn a.request a.reply).Holds id) :
    s.Holds id ∨ a.Starts site id := by
  obtain ⟨before, now, r, reply, after⟩ := a
  cases r with
  | start config =>
    obtain ⟨files, result, hstart, rfl⟩ := Deployment.start_of_given hgiven
    have hcases := (before.network site.servers).start_cases before.machine.files now config
    rw [hstart] at hcases
    dsimp only at hcases
    cases result with
    | error e => cases hid
    | ok new =>
      obtain rfl : new = id := LaunchPhase.serving.inj hid
      rcases hcases with ⟨-, e, herror⟩ | ⟨hlength, -, hok | ⟨⟨e, herror⟩, -⟩⟩
      · cases herror
      · obtain rfl := Except.ok.inj hok
        refine .inr ⟨⟨config, rfl⟩, Nat.le_refl _, ?_⟩
        dsimp only
        rw [hlength]
        exact Nat.lt_succ_self _
      · cases herror
  | close server => cases hid
  | connect | manage | ready | serve | idle =>
    refine .inl (Eq.trans ?_ hid)
    exact (s.phase_learn reply nofun nofun).symm

/-- What a launch may ask for leaves everything accounted for. -/
theorem Accounts.answer (h : s.Accounts site a.before log) (hgiven : a.Given site)
    (hadmits : (o.protocol method).admits s a.request) :
    (s.learn a.request a.reply).Accounts site a.after (log ++ [a]) := by
  refine h.concat hgiven (starts_of_holds hgiven) (fun hholds hlt => ?_) (holds_of_starts hgiven)
  obtain ⟨before, now, r, reply, after⟩ := a
  cases r with
  | start config => exact nomatch hadmits.1.symm.trans hholds
  | close server =>
    obtain rfl : server.id = _ := LaunchKnowledge.Holds.unique hadmits hholds
    exact .inl ((Deployment.sees?_own hgiven rfl).isShut_of_stops ⟨rfl, hlt⟩ (h.orderly _))
  | connect | manage | ready | serve | idle =>
    exact .inr ((s.phase_learn reply nofun nofun).trans hholds)

/-- A server that is not the launch's own keeps running, unless the launch retires it. -/
structure Spares (o : LaunchOptions) (site : Site) (name : String) (id : NodeId)
    (config : ServerConfig) (s : LaunchKnowledge) (d : Deployment) (log : List Answer) : Prop where
  accounts : s.Accounts site d log
  lt : id < (d.network name).nodes.length
  other : name = site.servers → ¬s.Holds id
  runs : (d.network name).settings? id = some config ∨ ∃ a ∈ log, a.Retires o site log name id

/-- A launch stops servers only by removing what its node has left behind. -/
theorem retires_of_stops {event : Network.Event} (h : s.Accounts site a.before log)
    (hadmits : (o.protocol method).admits s a.request) (hother : name = site.servers → ¬s.Holds id)
    (hevent : event ∈ a.event? site name) (hstops : (a.before.network name).Stops id event) :
    a.Retires o site log name id := by
  obtain ⟨before, now, r, reply, after⟩ := a
  obtain ⟨hname, hevent⟩ := Option.ite_none_right_eq_some.1 hevent
  cases r with
  | manage client command =>
    cases hevent
    cases command with
    | remove member =>
      obtain ⟨m, hm, rfl, hleft⟩ := hadmits
      exact ⟨client, m, rfl, hname, hleft, h.told hm, hstops⟩
    | list | add => exact hstops.elim
  | close server =>
    cases hevent
    obtain ⟨rfl, -⟩ := hstops
    exact absurd hadmits (hother hname)
  | start | serve =>
    cases hevent
    exact hstops.elim
  | connect | ready | idle => cases hevent

namespace Spares

variable {event : Network.Event}

theorem of_sees {event? : Option Network.Event} (h : s.Spares o site name id config d log)
    (haccounts : s.Accounts site d' log)
    (hsees : Network.Sees? event? (d.network name) (d'.network name))
    (hstays : ∀ event ∈ event?, ¬(d.network name).Stops id event) :
    s.Spares o site name id config d' log :=
  ⟨haccounts, Nat.lt_of_lt_of_le h.lt hsees.length_le, h.other,
    h.runs.imp_left (hsees.settings? hstays)⟩

theorem answer (h : s.Spares o site name id config a.before log) (hgiven : a.Given site)
    (hadmits : (o.protocol method).admits s a.request) :
    (s.learn a.request a.reply).Spares o site name id config a.after (log ++ [a]) := by
  have hsees := Deployment.sees?_of_given hgiven name
  refine ⟨h.accounts.answer hgiven hadmits, Nat.lt_of_lt_of_le h.lt hsees.length_le, ?_, ?_⟩
  · -- a server that starts has an id that no server had before
    rintro rfl hid
    rcases starts_of_holds hgiven hid with hold | hnew
    · exact h.other rfl hold
    · exact Nat.not_lt_of_le hnew.2.1 h.lt
  · rcases h.runs with hruns | ⟨b, hb, hretires⟩
    · by_cases hstops : ∃ event ∈ a.event? site name, (a.before.network name).Stops id event
      · obtain ⟨event, hevent, hstops⟩ := hstops
        refine .inr ⟨a, List.mem_append_right _ (List.mem_singleton_self a), ?_⟩
        exact (retires_of_stops h.accounts hadmits h.other hevent hstops).mono
      · rw [not_exists] at hstops
        exact .inl (hsees.settings? (fun event hevent hstop => hstops event ⟨hevent, hstop⟩) hruns)
    · exact .inr ⟨b, List.mem_append_left _ hb, hretires.mono⟩

theorem others {other : String} (h : s.Spares o site name id config d log)
    (hstays : name = other → ¬(d.network name).Stops id event) :
    s.Spares o site name id config
      (d.setNetwork other ((d.network other).after event)) log := by
  have hsees (name : String) := Deployment.sees?_after name other d event
  refine h.of_sees (h.accounts.of_sees fun name => ⟨_, hsees name⟩) (hsees name) ?_
  intro event' hevent
  obtain ⟨hname, heq⟩ := Option.ite_none_right_eq_some.1 hevent
  cases heq
  exact hstays hname

end Spares

end LaunchKnowledge

/-! ## Launches under way -/

section Launch

variable {l : Launcher} {foreign : String → Network → Network.Event → Prop}
  {u v : Undertaking (Except (NodeError EngineError) SecretStore)}

open Undertaking (Run)

theorem Undertaking.Run.accounts (hd : d.HasPast)
    (hrun : Run site foreign ⟨d, (l.launch method).run, []⟩ v) :
    ∃ s, v.rest.Follows (l.options.protocol method) (fun _ => True) LaunchKnowledge.Promise s ∧
      s.Accounts site v.deployment v.log := by
  refine hrun.follows (l.follows_launch method) (.of_empty hd) ?_ ?_ ?_ ?_
  · exact fun _ _ _ h => h.lapse
  · exact fun _ _ _ hgiven hadmits h => h.answer hgiven hadmits
  · exact fun _ _ _ _ _ _ h => h.of_sees fun other => ⟨_, Deployment.sees?_after other _ _ _⟩
  · exact fun _ _ _ _ h => ⟨h.orderly, h.held, h.started, h.told⟩

/-- The servers of a launch that failed have been stopped. -/
theorem Undertaking.Run.isShut_of_failed (hd : d.HasPast)
    (hrun : Run site foreign ⟨d, (l.launch method).run, []⟩ v) {e : NodeError EngineError}
    (hend : v.rest = .done (.error e)) (hid : v.Started site id) :
    (v.deployment.network site.servers).Orderly ∧
      (v.deployment.network site.servers).IsShut id := by
  obtain ⟨s, hfollows, haccounts⟩ := hrun.accounts hd
  rw [hend] at hfollows
  obtain ⟨a, ha, hstarts⟩ := hid
  exact ⟨haccounts.orderly _, (haccounts.started ha hstarts).resolve_right (hfollows.1 id)⟩

/-- A server that others leave alone keeps running, unless the launch retires it. -/
theorem Undertaking.Run.spares {s : LaunchKnowledge}
    (hforeign : ∀ net event, foreign name net event → ¬net.Stops id event)
    (hrun : Run site foreign u v)
    (hfollows : u.rest.Follows (l.options.protocol method) (fun _ => True)
      LaunchKnowledge.Promise s)
    (hspares : s.Spares l.options site name id config u.deployment u.log) :
    ((v.deployment.network name).settings? id = some config ∧
        ∀ url ∈ config.urls, (v.deployment.network name).listeners.lookup url = some id) ∨
      ∃ a ∈ v.log, a.Retires l.options site v.log name id := by
  obtain ⟨s, -, h⟩ := hrun.follows
    (I := fun s d log => s.Spares l.options site name id config d log) hfollows hspares
    (fun _ _ _ h => ⟨h.accounts.lapse, h.lt, h.other, h.runs⟩)
    (fun _ _ _ hgiven hadmits h => h.answer hgiven hadmits)
    (fun _ _ _ _ _ hevent h => h.others fun hname => hforeign _ _ (hname ▸ hevent))
    (fun _ _ _ _ h =>
      ⟨⟨h.accounts.orderly, h.accounts.held, h.accounts.started, h.accounts.told⟩, h.lt, h.other,
        h.runs⟩)
  exact h.runs.imp_left fun hruns => ⟨hruns, (h.accounts.orderly name).owned hruns⟩

theorem Activity.heeding_request {ε : Type} (r : Request) :
    (request r : Activity ε (r.Reply ε)).heeding = .ask r none true fun
      | .reply x => .done (some x)
      | .late => .abort
      | .cancelled => .done none := by
  rw [request, heeding, if_neg Bool.false_ne_true]
  exact congrArg (ask r none true) (funext fun wake => by cases wake <;> rfl)

theorem Activity.heeding_timeout_request {ε : Type} (r : Request) (bound : Duration) :
    ((request r : Activity ε (r.Reply ε)).timeout bound).heeding =
      .clock fun now => .ask r (some (now + bound)) true fun
        | .reply x => .done (some (some x))
        | .late => .done (some none)
        | .cancelled => .done none := by
  refine congrArg clock (funext fun now => ?_)
  show ((request r : Activity ε (r.Reply ε)).limited (now + bound)).heeding = _
  rw [request, limited, Option.any_none, if_neg Bool.false_ne_true, heeding,
    if_neg Bool.false_ne_true]
  exact congrArg (ask r _ true) (funext fun wake => by cases wake <;> rfl)

theorem Deployment.issue_start (site : Site) {now : Instant}
    (h : ((d.network site.servers).start d.machine.files now config).2.2 = .ok id) :
    d.issue site now (.start config) =
      ((d.issue site now (.start config)).1, .answered (.ok ⟨id, config.name⟩)) := by
  generalize hstarted : (d.network site.servers).start d.machine.files now config = started at h
  obtain ⟨net, files, result⟩ := started
  obtain rfl : result = .ok id := h
  rw [issue, hstarted]
  rfl

/-- A node that founds a cluster and is cancelled while it waits for its server closes it. -/
theorem Launcher.exists_launch_cancelled (foreign : String → Network → Network.Event → Prop)
    {now : Instant} {server : ServerHandle}
    (hconfig : l.options.serverConfig [] .new = .ok config)
    (hstart : d.issue site now (.start config) = (d', .answered (.ok server))) :
    ∃ v, Run site foreign ⟨d, (l.launch .bootstrap).run, []⟩ v ∧
      v.rest = .done (.error .cancelled) ∧ v.Started site server.id := by
  have hgiven : Answer.Given ⟨d, now, .start config, .ok server, d'⟩ site := ⟨_, hstart, rfl⟩
  have hstarts := (LaunchKnowledge.starts_of_holds (s := {}) hgiven rfl).resolve_left nofun
  have hprepare : (l.prepare .bootstrap : Procedure EngineError ServerConfig) =
      Procedure.ofExcept (.ok config) := by
    rw [prepare, hconfig]
    rfl
  obtain ⟨next, hlaunch, wait, hnext, give, hwait, close, hgive, hclose⟩ : ∃ next,
      (l.launch .bootstrap).run = .ask (.start config) none true next ∧
      ∃ wait, next (.reply (.ok server)) = .clock wait ∧
      ∃ give, wait now = .ask (.ready server) (some (now + l.options.readinessTimeout)) true give ∧
      ∃ close, give .cancelled = .ask (.close server) none false close ∧
        close (.reply ()) = .done (.error (.cancelled : NodeError EngineError)) := by
    rw [launch, hprepare]
    simp only [startServer, makeUsable, Procedure.uncancelled, Activity.heeding_request,
      Activity.heeding_timeout_request]
    exact ⟨_, rfl, _, rfl, _, rfl, _, rfl, rfl⟩
  refine ⟨⟨(d'.issue site now (.close server)).1, .done (.error .cancelled),
    [⟨d, now, .start config, .ok server, d'⟩,
      ⟨d', now, .close server, (), (d'.issue site now (.close server)).1⟩]⟩, ?_, rfl,
    _, List.mem_cons_self, hstarts⟩
  -- it starts, looks at the clock, is cancelled, and closes
  rw [hlaunch]
  refine .head (.answer (.reply now hstart rfl)) ?_
  rw [hnext]
  refine .head (.quiet (.clock now)) ?_
  rw [hwait]
  refine .head (.quiet .withdraw) ?_
  rw [hgive]
  refine .head (.answer (.reply now rfl rfl)) ?_
  rw [hclose]
  exact .refl

/-- No server is left behind. A launch, founding or joining, may be refused anything, may run out of time
    at any wait, and may be cancelled at any request, before it is sent or until it is answered. Others
    do meanwhile whatever they like, on all networks. If the launch fails, the servers that came about
    by it, also one that could not come up, run no longer, listen nowhere, and are out of reach
    whatever happens from then on. Every other server keeps running and listens at all its URLs if
    nobody else stops it, unless the launch has removed the member that it ran as, which its node had
    left behind as far as it was told. And when the launch succeeds, its server runs, listens, and is a
    member of a cluster whose access control is on. -/
theorem Launcher.no_server_left_behind (hd : d.HasPast)
    (hrun : Run site foreign ⟨d, (l.launch method).run, []⟩ v) :
    (∀ e, v.rest = .done (.error e) → ∀ id, v.Started site id →
      (v.deployment.network site.servers).running? id = none ∧
      (∀ url, (url, id) ∉ (v.deployment.network site.servers).listeners) ∧
      ∀ events, ((v.deployment.network site.servers).afterAll events).OutOfReach id) ∧
    (∀ u, Run site foreign ⟨d, (l.launch method).run, []⟩ u → Run site foreign u v →
      ∀ name id config, (u.deployment.network name).settings? id = some config →
        (name = site.servers → ¬u.Started site id) →
        (∀ net event, foreign name net event → ¬net.Stops id event) →
        ((v.deployment.network name).settings? id = some config ∧
          ∀ url ∈ config.urls, (v.deployment.network name).listeners.lookup url = some id) ∨
        ∃ a ∈ v.log, a.Retires l.options site v.log name id) ∧
    ∀ outcome d' store,
      Deployment.backend.Turn site (v.deployment, v.rest) outcome (d', .done (.ok store)) →
        v.Started site store.server.id ∧ (d'.network site.servers).InUse store.server.id := by
  obtain ⟨s, hfollows, haccounts⟩ := hrun.accounts hd
  refine ⟨fun e hend id hid => ?_, fun u hu huv name id config hruns hother hforeign => ?_,
    fun outcome d' store hturn => ?_⟩
  · obtain ⟨horderly, hshut⟩ := hrun.isShut_of_failed hd hend hid
    exact ⟨hshut.2, hshut.not_mem_listeners horderly,
      fun events => (hshut.afterAll events).outOfReach (horderly.afterAll events)⟩
  · obtain ⟨s, hfollows, haccounts⟩ := hu.accounts hd
    refine huv.spares hforeign hfollows ⟨haccounts, ?_, fun hname hholds => ?_, .inl hruns⟩
    · obtain ⟨node, hnode, -⟩ := Network.settings?_eq_some.1 hruns
      exact (List.getElem?_eq_some_iff.1 (Network.running?_eq_some.1 hnode).1).1
    · exact hother hname (haccounts.held hholds).2
  · obtain ⟨hend, hadmits⟩ := hfollows.turn hturn
    cases outcome with
    | none => cases hend.2
    | some answered =>
      have hgiven := Undertaking.given_of_turn hturn
      have hanswer := hadmits answered rfl
      obtain ⟨now, r, reply⟩ := answered
      obtain ⟨hholds, husable⟩ := hend
      obtain ⟨server, user, command, rfl⟩ := LaunchKnowledge.serve_of_usable_learn husable
      -- the last answer was that access control is on, so the server runs in such a cluster
      have horderly := (haccounts.answer hgiven hanswer).orderly site.servers
      have hserver : server.id = store.server.id := LaunchKnowledge.Holds.unique hanswer hholds
      rw [← hserver]
      exact ⟨(haccounts.held hanswer).2,
        horderly.inUse (Deployment.serve_of_given hgiven) husable⟩

end Launch

/-- A founder is cancelled while it waits for its server, and the server is out of reach. -/
theorem Launcher.no_server_left_behind_cancelled : Trial.start.deployment.HasPast ∧
    ∃ v, Undertaking.Run ⟨"net", "net"⟩ (fun _ _ _ => True)
        ⟨Trial.start.deployment, ((Trial.launcher Trial.plain 0 "a").launch .bootstrap).run, []⟩ v ∧
      v.rest = .done (.error .cancelled) ∧ v.Started ⟨"net", "net"⟩ 0 ∧
      ∀ events, ((v.deployment.network "net").afterAll events).OutOfReach 0 := by
  have hpast : Trial.start.deployment.HasPast := fun name => ⟨_, [], rfl⟩
  have hconfig := Trial.serverConfig_launcher Trial.asWritten_plain Trial.isNode_zero "a" [] .new
  have hresult : ((Trial.start.deployment.network "net").start Trial.files 0
      ((Trial.launcher Trial.plain 0 "a").options.settings [] .new
        (.https (Trial.plain.host (Trial.plain.nodeName 0)) ServiceNames.peerPort)
        (.https (Trial.plain.host (Trial.plain.nodeName 0)) ServiceNames.clientPort))).2.2 = .ok 0 := by
    decide +kernel
  have hstart := Deployment.issue_start ⟨"net", "net"⟩ hresult
  obtain ⟨v, hrun, hend, hstarted⟩ :=
    exists_launch_cancelled (fun _ _ _ => True) hconfig hstart
  exact ⟨hpast, v, hrun, hend, hstarted,
    ((no_server_left_behind hpast hrun).1 _ hend 0 hstarted).2.2⟩

end ClusterVault
