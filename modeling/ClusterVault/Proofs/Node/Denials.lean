import ClusterVault.Node.Launch
import ClusterVault.Proofs.Cluster.Authority
import ClusterVault.Proofs.Node.Undertaking

/-!
# Failures for want of rights

A node acts as one user, the one that its certificate names. It fails for want of rights only if it
was refused something for want of rights, and then it was a cluster that does not trust that user.

## Main definitions

- `NodeError.IsDenial`: a failure for want of rights
- `Agent`, `Agent.protocol`: whoever acts as one user, and what they may ask for
- `Dealings`: what an agent has been refused, and as whom it has been connected

## Main statements

- `Agent.exists_denial`: a failure for want of rights goes back to an answer
- `Network.not_trusts_of_serve`, `Network.not_trusts_of_manage`: such an answer comes from a cluster
  that does not trust the user
-/

namespace ClusterVault

/-- A node fails for want of rights. -/
def NodeError.IsDenial : NodeError EngineError → Prop
  | .engine _ e => e.IsDenial
  | .join cause => cause.IsDenial
  | _ => False

namespace Request

/-- Why a request was refused. -/
def refusal? : (r : Request) → r.Reply EngineError → Option EngineError
  | .connect _, Except.error e => some e
  | .manage _ _, Except.error e => some e
  | .start _, Except.error e => some e
  | .serve _ _ _, Except.error e => some e
  | _, _ => none

/-- Whom a client is connected as. -/
def connectedAs : (r : Request) → r.Reply EngineError → List String
  | .connect _, Except.ok (client : Connection) => [client.user]
  | _, _ => []

/-- The request was refused for want of rights. -/
def Denies (r : Request) (reply : r.Reply EngineError) : Prop :=
  ∃ e ∈ r.refusal? reply, e.IsDenial

end Request

/-! ## Networks -/

namespace Network

variable {net : Network} {now : Instant} {id : NodeId} {user : String} {e : EngineError}
  {config : ServerConfig}

theorem not_isDenial_of_cluster {n : ServerNode} (h : n.cluster = .error e) : ¬e.IsDenial := by
  unfold ServerNode.cluster at h
  split at h
  · cases h
    exact nofun
  · split at h
    · cases h
    · cases h
      exact nofun

theorem attachment_of_cluster {n : ServerNode} {k : ClusterId} (h : n.cluster = .ok k) :
    ∃ a, n.attachment = some a ∧ a.cluster = k := by
  unfold ServerNode.cluster at h
  split at h
  · cases h
  · split at h
    · next a ha =>
      cases h
      exact ⟨a, ha, rfl⟩
    · cases h

/-- It is the cluster of a server that refuses a request for want of rights. -/
theorem not_trusts_of_serve {command : Command} (h : (net.serve now id user command).2 = .error e)
    (he : e.IsDenial) :
    ∃ a c, net.membership? id = some a ∧ net.clusters[a.cluster]? = some c ∧
      ¬c.access.Trusts user := by
  unfold serve at h
  split at h
  · cases h
    cases he
  · next node hnode =>
    split at h
    · next hcluster =>
      cases h
      exact absurd he (not_isDenial_of_cluster hcluster)
    · next k hk =>
      split at h
      · cases h
        cases he
      · next c hc =>
        obtain ⟨a, ha, rfl⟩ := attachment_of_cluster hk
        refine ⟨a, c, ?_, hc, ?_⟩
        · rw [membership?, hnode]
          exact ha
        · intro htrusts
          exact Cluster.not_isDenial_of_serve_of_trusts htrusts h he

theorem not_trusts_of_manage {client : Connection} {command : MemberCommand}
    (h : (net.manage now client command).2 = .error e) (he : e.IsDenial) :
    ∃ (k : ClusterId) (c : Cluster), net.clusters[k]? = some c ∧ ¬c.access.Trusts client.user := by
  unfold manage at h
  split at h
  · cases h
    cases he
  · dsimp only at h
    split at h
    · cases h
      cases he
    · next k _ =>
      split at h
      · cases h
        cases he
      · next c hc =>
        refine ⟨k, c, hc, fun htrusts => ?_⟩
        have hreply : (c.manage client.user now net.ids command).1 = .error e := by
          generalize c.manage client.user now net.ids command = answer at h ⊢
          obtain ⟨reply, ids, c'⟩ := answer
          cases command with
          | list | add => exact h
          | remove member =>
            cases reply with
            | ok members => cases h
            | error e' => exact h
        exact Cluster.not_isDenial_of_manage_of_trusts htrusts hreply he

/-- A server that cannot come up does not want for rights. -/
theorem not_isDenial_of_comeUp (h : (net.comeUp now id config).2 = .error e) : ¬e.IsDenial := by
  unfold comeUp at h
  split at h
  · unfold joinOrWait at h
    split at h
    · cases h
    · next hnot =>
      unfold rejoin at h
      split at h
      · cases h
        exact nofun
      · split at h
        · cases h
          exact nofun
        · dsimp only at h
          split at h
          · next hattach =>
            cases h
            unfold Cluster.attachMember at hattach
            split at hattach
            · cases hattach
              exact nofun
            · cases hattach
          · cases h
  · split at h
    · unfold restore at h
      split at h
      · cases h
        exact nofun
      · dsimp only at h
        split at h
        · cases h
        · cases h
          exact nofun
    · split at h
      · cases h
      · next hfound =>
        cases h
        unfold bootstrap at hfound
        split at hfound
        · cases hfound
          exact nofun
        · split at hfound
          · cases hfound
            exact nofun
          · cases hfound

theorem not_isDenial_of_start {files : FileSystem}
    (h : (net.start files now config).2.2 = .error e) : ¬e.IsDenial := by
  unfold start at h
  split at h
  · cases h
    exact nofun
  · split at h
    · cases h
      exact nofun
    · dsimp only at h
      split at h
      · next hlisten =>
        cases h
        unfold listen at hlisten
        split at hlisten
        · cases hlisten
          exact nofun
        · cases hlisten
      · split at h
        · cases h
        · next heq =>
          cases h
          exact not_isDenial_of_comeUp (congrArg Prod.snd heq)

/-- A client whose certificate can be read is refused nothing for want of rights, and acts as the
    user that is named there. -/
theorem connect_cases (net : Network) {files : FileSystem} {config : ClientConfig} {user : String}
    (hidentity : files.readIdentity config.tls.certificate = .ok user) :
    (∃ e, net.connect files config = .error e ∧ ¬e.IsDenial) ∨
      ∃ server, net.connect files config = .ok ⟨server, user⟩ := by
  unfold connect
  split
  · exact .inl ⟨_, rfl, nofun⟩
  · rw [hidentity]
    dsimp only
    split
    · exact .inl ⟨_, rfl, nofun⟩
    · exact .inr ⟨_, rfl⟩

end Network

/-! ## Agents -/

/-- Whoever acts as one user through some servers, and maybe through clients. -/
structure Agent where
  user : String
  /-- The files that clients are connected with, if any are. -/
  tls? : Option TlsFiles
  uses : ServerHandle → Prop

/-- What an agent has learned: whether it was refused something for want of rights, and as whom it
    has been connected. -/
structure Dealings where
  denied : Prop := False
  users : List String := []

/-- A failure for want of rights was preceded by a refusal. -/
def Dealings.Explains (s : Dealings) (e : NodeError EngineError) : Prop := e.IsDenial → s.denied

/-- The request is one of the agent, made as its user. -/
def Agent.Asks (who : Agent) : Request → Prop
  | .connect config => who.tls? = some config.tls
  | .manage client _ => who.tls?.isSome ∧ client.user = who.user
  | .serve server user _ => who.uses server ∧ user = who.user
  | _ => True

/-- What an agent may ask for: it acts as its user only, and through clients as whom it has been
    connected. -/
def Agent.protocol (who : Agent) : Protocol EngineError Dealings where
  admits s
    | .manage client _ => client.user ∈ s.users
    | r => who.Asks r
  after s r reply := ⟨s.denied ∨ r.Denies reply, r.connectedAs reply ++ s.users⟩
  lapse s := s

section Procedures

variable {who : Agent} {s : Dealings} {server : ServerHandle}

open Procedure
open Activity (follows_request)

/-- A procedure that fails for want of rights was refused something. -/
abbrev Agent.Answers {α : Type} (who : Agent) (ok : Dealings → α → Prop) (p : Procedure EngineError α)
    (s : Dealings) : Prop :=
  p.Follows who.protocol (fun _ => True) ok Dealings.Explains s

theorem explains_of_not_isDenial {e : NodeError EngineError} (h : ¬e.IsDenial) : s.Explains e :=
  fun he => absurd he h

theorem follows_serve_of_uses (huses : who.uses server) (command : Command) :
    (Activity.request (.serve server who.user command) :
      Activity EngineError (Except EngineError command.Reply)).Follows who.protocol (fun _ => True)
      (fun s reply => ∀ e, reply = .error e → e.IsDenial → s.denied) s := by
  refine follows_request (r := .serve server who.user command) ⟨huses, rfl⟩ trivial ?_
  rintro reply e rfl he
  exact .inr ⟨e, rfl, he⟩

theorem answers_call (huses : who.uses server) (step : NodeStep) (command : Command) :
    who.Answers (fun _ _ => True)
      (call step (Activity.request (.serve server who.user command))) s := by
  refine follows_call ((follows_serve_of_uses huses command).imp (fun _ h => h) ?_)
  intro s reply hreply
  cases reply with
  | ok x => exact trivial
  | error e => exact hreply e rfl

theorem answers_boundedCall {α : Type} {answer : Activity EngineError (Except EngineError α)}
    {ok : Dealings → α → Prop} (step : NodeStep) (bound : Duration)
    (h : answer.Follows who.protocol (fun _ => True) (Procedure.Answers ok Dealings.Explains step) s) :
    who.Answers ok (boundedCall step bound answer) s :=
  follows_boundedCall h fun _ _ => explains_of_not_isDenial nofun

/-! ## Setting up access control -/

theorem answers_ensureAdded {answer : Activity EngineError (Except EngineError Unit)} (step : NodeStep)
    (h : answer.Follows who.protocol (fun _ => True)
      (fun s reply => ∀ e, reply = .error e → e.IsDenial → s.denied) s) :
    who.Answers (fun _ _ => True) (ensureAdded step answer) s := by
  refine follows_bind _ (follows_ofActivity h) fun s reply hreply => ?_
  cases reply with
  | ok _ => exact follows_pure trivial
  | error e =>
    dsimp only
    split
    · exact follows_pure trivial
    · exact follows_throw (hreply e rfl)

theorem answers_setUpUser (huses : who.uses server) (name : String) :
    who.Answers (fun _ _ => True) (setUpUser server who.user name) s :=
  follows_bind _ (answers_ensureAdded _ (follows_serve_of_uses huses (.addUser name true)))
    fun _ _ _ => answers_call huses _ (.grantRole name name)

theorem answers_setUpAuth (huses : who.uses server) :
    who.Answers (fun _ _ => True) (setUpAuth server who.user) s := by
  refine follows_bind _ (answers_call huses .checkingAuth .authStatus) fun s enabled _ => ?_
  cases enabled with
  | true => exact follows_pure trivial
  | false =>
    refine follows_bind _ (answers_ensureAdded _
      (follows_serve_of_uses huses (.addRole clientPrincipal))) fun s _ _ => ?_
    refine follows_bind _ (answers_call huses _ (.grantPermission clientPrincipal secretsPermission))
      fun s _ _ => ?_
    refine follows_bind _ (answers_setUpUser huses administrator) fun s _ _ => ?_
    refine follows_bind _ (answers_setUpUser huses clientPrincipal) fun s _ _ => ?_
    exact answers_call huses _ .enableAuth

/-! ## Launching -/

theorem tls_of_clientConfig {o : LaunchOptions} {config : ClientConfig}
    (h : o.clientConfig = .ok config) : config.tls = o.tls := by
  unfold LaunchOptions.clientConfig at h
  cases hurl : o.names.serviceUrl with
  | error e =>
    rw [hurl] at h
    cases h
  | ok url =>
    rw [hurl] at h
    cases h
    rfl

theorem answers_removeMembers (bound : Duration) {client : Connection} (members : List Member)
    (hclient : client.user ∈ s.users) :
    who.Answers (fun s _ => client.user ∈ s.users) (removeMembers bound client members) s := by
  induction members generalizing s with
  | nil => exact follows_pure hclient
  | cons m members ih =>
    refine follows_bind (fun s _ => client.user ∈ s.users)
      (answers_boundedCall _ _ (follows_request (r := .manage client (.remove m.id)) hclient trivial
        ?_)) fun s _ hclient => ih hclient
    rintro (e | left)
    · exact fun he => .inr ⟨e, rfl, he⟩
    · exact hclient

theorem answers_repair (o : LaunchOptions) (htls : who.tls? = some o.tls) :
    who.Answers (fun _ _ => True) (repair o) s := by
  unfold repair
  split
  · exact follows_throw (explains_of_not_isDenial nofun)
  · refine follows_bind (fun _ _ => True)
      (follows_ofUrl (fun _ _ => trivial) fun _ => explains_of_not_isDenial nofun) fun s ownUrl _ => ?_
    refine follows_bind (fun _ config => who.tls? = some config.tls)
      (follows_ofUrl (fun config hconfig => ?_) fun _ => explains_of_not_isDenial nofun)
      fun s config hconfig => ?_
    · rw [tls_of_clientConfig hconfig]
      exact htls
    refine follows_bind (fun s client => client.user ∈ s.users)
      (answers_boundedCall _ _ (follows_request (r := .connect config) hconfig trivial ?_))
      fun s client hclient => ?_
    · rintro (e | client)
      · exact fun he => .inr ⟨e, rfl, he⟩
      · exact List.mem_cons_self
    refine follows_bind (fun s _ => client.user ∈ s.users)
      (answers_boundedCall _ _ (follows_request (r := .manage client .list) hclient trivial ?_))
      fun s members hclient => ?_
    · rintro (e | members)
      · exact fun he => .inr ⟨e, rfl, he⟩
      · exact hclient
    refine follows_bind _ (answers_removeMembers _ _ hclient) fun s _ hclient => ?_
    refine follows_bind (fun _ _ => True)
      (answers_boundedCall _ _ (follows_request (r := .manage client (.add [ownUrl])) hclient trivial
        ?_)) fun s added _ => ?_
    · rintro (e | added)
      · exact fun he => .inr ⟨e, rfl, he⟩
      · exact trivial
    exact follows_ofUrl (fun _ _ => trivial) fun _ => explains_of_not_isDenial nofun

theorem answers_uncancelled {α : Type} {a : Activity EngineError α} {ok : Dealings → α → Prop}
    (h : a.Follows who.protocol (fun _ => True) ok s) : who.Answers ok (uncancelled a) s :=
  follows_uncancelled h fun _ _ => explains_of_not_isDenial nofun

theorem answers_prepare {l : Launcher} (htls : who.tls? = some l.options.tls) (method : JoinMethod) :
    who.Answers (fun _ _ => True) (l.prepare method) s := by
  cases method with
  | bootstrap => exact follows_ofUrl (fun _ _ => trivial) fun _ => explains_of_not_isDenial nofun
  | join =>
    refine follows_tryCatch Dealings.Explains ?_ fun s e hs => follows_throw ?_
    · refine follows_bind (fun _ _ => True) ?_ fun s peers _ =>
        follows_ofUrl (fun _ _ => trivial) fun _ => explains_of_not_isDenial nofun
      refine follows_bind _ (answers_uncancelled
        (Activity.follows_timeout _ (answers_repair l.options htls).run)) fun s result hresult => ?_
      cases result with
      | none => exact follows_throw (explains_of_not_isDenial nofun)
      | some result => exact follows_ofExcept hresult
    · cases e with
      | cancelled => exact nofun
      | _ => exact hs

theorem answers_startServer (method : JoinMethod) (config : ServerConfig) :
    who.Answers (fun _ _ => True) (Launcher.startServer method config) s := by
  refine follows_bind (fun s (reply : Except EngineError ServerHandle) =>
    ∀ e, reply = .error e → e.IsDenial → s.denied)
    (answers_uncancelled (follows_request (r := .start config) trivial trivial ?_))
    fun s result hs => ?_
  · rintro reply e rfl he
    exact .inr ⟨e, rfl, he⟩
  · cases result with
    | ok server => exact follows_pure trivial
    | error e => cases method <;> exact follows_throw (hs e rfl)

theorem answers_makeUsable {l : Launcher} (huser : l.user = who.user) (huses : who.uses server) :
    who.Answers (fun _ _ => True) (l.makeUsable server) s := by
  have hready : (Activity.request (.ready server) : Activity EngineError Unit).Follows who.protocol
      (fun _ => True) (fun _ _ => True) s := follows_request trivial trivial fun _ => trivial
  refine follows_bind _ (answers_uncancelled (Activity.follows_timeout _ hready))
    fun s result _ => ?_
  cases result with
  | none => exact follows_throw (explains_of_not_isDenial nofun)
  | some _ =>
    rw [huser]
    exact follows_bind _ (answers_uncancelled (answers_setUpAuth huses).run)
      fun s result hresult => follows_ofExcept hresult

/-- A launch that fails for want of rights was refused something, and the store of one that succeeds
    acts as the same user. -/
theorem answers_launch {l : Launcher} (huser : l.user = who.user) (htls : who.tls? = some l.options.tls)
    (huses : ∀ server, who.uses server) (method : JoinMethod) :
    who.Answers (fun _ store => store.user = l.user) (l.launch method) s := by
  refine follows_bind _ (answers_prepare htls method) fun s config _ => ?_
  refine follows_bind _ (answers_startServer method config) fun s server _ => ?_
  refine follows_bind (fun _ _ => True) (follows_orElse Dealings.Explains
    (answers_makeUsable huser (huses server)) fun s e he => ?_) fun s _ _ => follows_pure rfl
  exact follows_request (r := .close server) trivial trivial fun _ hdenial => .inl (he hdenial)

/-! ## Secrets -/

section Store

variable {store : SecretStore} (huser : store.user = who.user) (huses : who.uses store.server)

include huser huses

theorem answers_transact (step : NodeStep) (t : Transaction) :
    who.Answers (fun _ _ => True) (store.transact step t) s := by
  rw [SecretStore.transact, huser]
  exact answers_call huses step (.transact t)

theorem answers_write (entries : List (String × Bytes)) (lease : Option LeaseId) :
    who.Answers (fun _ _ => True) (store.write entries lease) s := by
  refine follows_bind _ (answers_transact huser huses _ _) fun s result _ => ?_
  split
  · exact follows_pure trivial
  · split
    · exact follows_throw (explains_of_not_isDenial nofun)
    · exact follows_throw (explains_of_not_isDenial nofun)

theorem answers_set (secrets : Secrets) (ttl : Int) :
    who.Answers (fun _ _ => True) (store.set secrets ttl) s := by
  unfold SecretStore.set
  dsimp only
  split
  · exact follows_pure trivial
  · split
    · rw [huser]
      refine follows_bind _ (answers_call huses _ (.grantLease ttl)) fun s lease _ => ?_
      refine follows_orElse Dealings.Explains (answers_write huser huses _ _) fun s e he => ?_
      -- whether the lease can be revoked does not matter
      have hrevoke : (Activity.request (.serve store.server store.user (.revokeLease lease)) :
          Activity EngineError (Except EngineError Unit)).Follows who.protocol (fun _ => True)
          (fun s _ => s.Explains e) s := by
        refine follows_request (r := .serve store.server store.user (.revokeLease lease))
          ⟨huses, huser⟩ trivial ?_
        exact fun _ hdenial => .inl (he hdenial)
      exact Activity.follows_bind _ hrevoke fun _ _ h => h
    · exact answers_write huser huses _ _

theorem answers_delete (ids : List String) :
    who.Answers (fun _ _ => True) (store.delete ids) s := by
  unfold SecretStore.delete
  split
  · exact follows_pure trivial
  · refine follows_bind _ (answers_transact huser huses _ _) fun s result _ => ?_
    split
    · exact follows_pure trivial
    · exact follows_throw (explains_of_not_isDenial nofun)

theorem answers_get (id : String) : who.Answers (fun _ _ => True) (store.get id) s :=
  follows_bind _ (answers_transact huser huses _ _) fun _ _ _ => follows_pure trivial

end Store

end Procedures

/-! ## Runs -/

section Run

variable {who : Agent} {site : Site} {foreign : String → Network → Network.Event → Prop}
  {d : Deployment} {a : Answer}

/-- The certificate of the agent's clients names the user that it acts as. -/
def Agent.Certifies (who : Agent) (files : FileSystem) : Prop :=
  ∀ tls ∈ who.tls?, files.readIdentity tls.certificate = .ok who.user

/-- A client of the agent is connected as its user. -/
theorem Agent.user_of_connectedAs (hgiven : a.Given site)
    (hcertifies : who.Certifies a.before.machine.files)
    (hasks : ∀ config, a.request = .connect config → who.tls? = some config.tls) {user : String}
    (huser : user ∈ a.request.connectedAs a.reply) : who.tls?.isSome ∧ user = who.user := by
  obtain ⟨before, now, r, reply, after⟩ := a
  cases r with
  | connect config =>
    have htls := hasks config rfl
    have hreply := Deployment.connect_of_given hgiven
    rcases Network.connect_cases (before.network site.clients) (hcertifies _ htls) with
      ⟨e, he, -⟩ | ⟨server, hserver⟩
    · rw [he] at hreply
      cases hreply
      cases huser
    · rw [hserver] at hreply
      cases hreply
      exact ⟨by rw [htls]; rfl, List.mem_singleton.1 huser⟩
  | manage | start | ready | close | serve | idle => cases huser

/-- What an agent knows of its dealings is so, as long as its certificate does not change. -/
def Agent.Records (who : Agent) (s : Dealings) (log : List Answer) : Prop :=
  (∀ a ∈ log, who.Certifies a.before.machine.files) →
    (∀ user ∈ s.users, who.tls?.isSome ∧ user = who.user) ∧
    (s.denied → ∃ a ∈ log, a.request.Denies a.reply ∧ who.Asks a.request)

theorem Agent.Records.answer {s : Dealings} {log : List Answer} (h : who.Records s log)
    (hgiven : a.Given site) (hadmits : who.protocol.admits s a.request) :
    who.Records (who.protocol.after s a.request a.reply) (log ++ [a]) := by
  intro hcertifies
  obtain ⟨hlog, hlast⟩ := List.forall_mem_append.1 hcertifies
  obtain ⟨husers, hdenied⟩ := h hlog
  -- what is asked through a client is asked as the user it was connected as
  have hasks : who.Asks a.request := by
    obtain ⟨before, now, r, reply, after⟩ := a
    cases r with
    | manage client command => exact husers _ hadmits
    | connect | start | ready | close | serve | idle => exact hadmits
  refine ⟨?_, ?_⟩
  · intro user huser
    rcases List.mem_append.1 huser with hnew | hold
    · refine Agent.user_of_connectedAs hgiven (hlast a (List.mem_singleton_self a)) ?_ hnew
      intro config hconfig
      rw [hconfig] at hasks
      exact hasks
    · exact husers user hold
  · rintro (hbefore | hnow)
    · obtain ⟨b, hb, hdenies⟩ := hdenied hbefore
      exact ⟨b, List.mem_append_left _ hb, hdenies⟩
    · exact ⟨a, List.mem_append_right _ (List.mem_singleton_self a), hnow, hasks⟩

/-- An agent whose certificate does not change fails for want of rights only if something that it has
    asked for as its user was refused so. -/
theorem Agent.exists_denial {α : Type} {q : Procedure EngineError α} {ok : Dealings → α → Prop}
    {v : Undertaking (Except (NodeError EngineError) α)} {e : NodeError EngineError}
    (h : who.Answers ok q {}) (hrun : Undertaking.Run site foreign ⟨d, q.run, []⟩ v)
    (hend : v.rest = .done (.error e)) (he : e.IsDenial)
    (hcertifies : ∀ a ∈ v.log, who.Certifies a.before.machine.files) :
    ∃ a ∈ v.log, a.request.Denies a.reply ∧ who.Asks a.request := by
  have hstart : who.Records {} [] := fun _ => ⟨nofun, nofun⟩
  obtain ⟨s, hfollows, hrecords⟩ := hrun.follows (I := fun s _ log => who.Records s log) h.run hstart
    (fun _ _ _ hrecords => hrecords)
    (fun _ _ _ hgiven hadmits hrecords => hrecords.answer hgiven hadmits)
    (fun _ _ _ _ _ _ hrecords => hrecords) (fun _ _ _ _ hrecords => hrecords)
  rw [hend] at hfollows
  exact (hrecords hcertifies).2 (hfollows he)

/-- Whoever is refused something through a server is not trusted by the cluster of the server. -/
theorem Answer.not_trusts_of_serve {server : ServerHandle} {user : String} {command : Command}
    {before after : Deployment} {now : Instant}
    {reply : (Request.serve server user command).Reply EngineError}
    (hgiven : Answer.Given ⟨before, now, .serve server user command, reply, after⟩ site)
    (hdenies : (Request.serve server user command).Denies reply) :
    ∃ a c, (before.network site.servers).membership? server.id = some a ∧
      (before.network site.servers).clusters[a.cluster]? = some c ∧ ¬c.access.Trusts user := by
  have hserve := Deployment.serve_of_given hgiven
  obtain ⟨e, hrefusal, he⟩ := hdenies
  cases reply with
  | ok x => cases hrefusal
  | error e' =>
    cases hrefusal
    exact Network.not_trusts_of_serve (congrArg Prod.snd hserve) he

/-- The cluster of a number is within reach: it is that of a server in use, or there are clients. -/
def Agent.Reaches (who : Agent) (site : Site) (d : Deployment) (name : String) (k : ClusterId) :
    Prop :=
  who.tls?.isSome ∨ name = site.servers ∧
    ∃ server b, who.uses server ∧ (d.network name).membership? server.id = some b ∧ b.cluster = k

/-- Whoever is refused something for want of rights is not trusted by a cluster within reach. -/
theorem Agent.exists_not_trusts (hgiven : a.Given site)
    (hcertifies : who.Certifies a.before.machine.files) (hdenies : a.request.Denies a.reply)
    (hasks : who.Asks a.request) :
    ∃ (name : String) (k : ClusterId) (c : Cluster), who.Reaches site a.before name k ∧
      (a.before.network name).clusters[k]? = some c ∧ ¬c.access.Trusts who.user := by
  obtain ⟨before, now, r, reply, after⟩ := a
  cases r with
  | serve server user command =>
    obtain ⟨huses, rfl⟩ := hasks
    obtain ⟨b, c, hb, hc, htrusts⟩ := Answer.not_trusts_of_serve hgiven hdenies
    exact ⟨_, _, c, .inr ⟨rfl, server, b, huses, hb, rfl⟩, hc, htrusts⟩
  | manage client command =>
    obtain ⟨e, hrefusal, he⟩ := hdenies
    obtain ⟨hclients, huser⟩ := hasks
    have hreply := Deployment.manage_of_given hgiven
    cases reply with
    | ok x => cases hrefusal
    | error e' =>
      cases hrefusal
      obtain ⟨k, c, hc, htrusts⟩ := Network.not_trusts_of_manage hreply he
      rw [huser] at htrusts
      exact ⟨_, k, c, .inl hclients, hc, htrusts⟩
  | connect config =>
    obtain ⟨e, hrefusal, he⟩ := hdenies
    have hreply := Deployment.connect_of_given hgiven
    rcases Network.connect_cases (before.network site.clients) (hcertifies _ hasks) with
      ⟨e', hfails, hnot⟩ | ⟨server, hserver⟩
    · rw [hfails] at hreply
      cases hreply
      cases hrefusal
      exact absurd he hnot
    · rw [hserver] at hreply
      cases hreply
      cases hrefusal
  | start config =>
    obtain ⟨e, hrefusal, he⟩ := hdenies
    obtain ⟨files, result, hstart, hreply⟩ := Deployment.start_of_given hgiven
    cases result with
    | ok id =>
      rw [hreply] at hrefusal
      cases hrefusal
    | error e' =>
      rw [hreply] at hrefusal
      cases hrefusal
      exact absurd he (Network.not_isDenial_of_start (congrArg (·.2.2) hstart))
  | ready | close | idle =>
    obtain ⟨e, hrefusal, -⟩ := hdenies
    cases hrefusal

end Run

end ClusterVault
