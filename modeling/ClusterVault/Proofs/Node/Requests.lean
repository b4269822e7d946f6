import ClusterVault.Node.Acquire
import ClusterVault.Proofs.Node.Fleet

/-!
# What launches ask for

A launch registers its node under the URL that follows from the node's name, and starts a server with
the settings that follow from its options. It founds a cluster only if it is told to. This module says
so for launches and for all that acquires a store by them.

## Main definitions

- `LaunchOptions.Admits`: what a launch may ask for
- `Launcher.AdmitsAcquiring`: what acquiring a store may ask for

## Main statements

- `Launcher.obeys_launch`, `Launcher.obeys_acquire`: nothing else is asked for, and the server of a
  store that they end with has joined a cluster
-/

namespace ClusterVault

/-- The settings of the node's server, given its URLs. -/
def LaunchOptions.settings (o : LaunchOptions) (peers : List Peer) (founding : Founding)
    (peerUrl clientUrl : Url) : ServerConfig where
  name := o.nodeName
  dataDir := o.dataDir
  initialCluster := initialCluster peers o.nodeName peerUrl
  founding := founding
  listenPeerUrls := [anyAddress ServiceNames.peerPort]
  listenClientUrls := [anyAddress ServiceNames.clientPort]
  advertisedPeerUrls := [peerUrl]
  advertisedClientUrls := [clientUrl]
  clientTls := { files := o.tls, requiresCertificate := true }
  peerTls := { files := o.tls, requiresCertificate := true, skipsNameCheck := true }
  snapshotInterval := snapshotInterval
  maxOperations := maxOperations

theorem LaunchOptions.serverConfig_eq {o : LaunchOptions} {peerUrl clientUrl : Url}
    (hpeer : o.names.peerUrl o.nodeName = .ok peerUrl)
    (hclient : o.names.clientUrl o.nodeName = .ok clientUrl) (peers : List Peer)
    (founding : Founding) :
    o.serverConfig peers founding = .ok (o.settings peers founding peerUrl clientUrl) := by
  rw [serverConfig, hpeer, hclient]
  rfl

theorem LaunchOptions.serverConfig_eq_ok {o : LaunchOptions} {peers : List Peer}
    {founding : Founding} {config : ServerConfig} (h : o.serverConfig peers founding = .ok config) :
    ∃ peerUrl clientUrl, o.names.peerUrl o.nodeName = .ok peerUrl ∧
      o.names.clientUrl o.nodeName = .ok clientUrl ∧
      config = o.settings peers founding peerUrl clientUrl := by
  cases hpeer : o.names.peerUrl o.nodeName with
  | error e =>
    rw [serverConfig, hpeer] at h
    cases h
  | ok peerUrl =>
    cases hclient : o.names.clientUrl o.nodeName with
    | error e =>
      rw [serverConfig, hpeer, hclient] at h
      cases h
    | ok clientUrl =>
      rw [serverConfig_eq hpeer hclient] at h
      cases h
      exact ⟨peerUrl, clientUrl, rfl, rfl, rfl⟩

/-- The repair of the membership, given the URLs. -/
theorem repair_eq {o : LaunchOptions} {ordinal : Nat} {ownUrl endpoint : Url}
    (hordinal : o.names.ordinal? o.nodeName = some ordinal)
    (hurl : o.names.peerUrl o.nodeName = .ok ownUrl) (hservice : o.names.serviceUrl = .ok endpoint) :
    (repair o : Procedure EngineError (List Peer)) = (do
      let client ← Procedure.boundedCall .connecting o.memberTimeout
        (Activity.request (.connect ⟨[endpoint], o.tls, o.memberTimeout⟩))
      let members : List Member ← Procedure.boundedCall .listingMembers o.memberTimeout
        (Activity.request (.manage client .list))
      removeMembers o.memberTimeout client (members.filter (Repair.isStale o.nodeName ownUrl))
      let added : Member ← Procedure.boundedCall .addingMember o.memberTimeout
        (Activity.request (.manage client (.add [ownUrl])))
      Procedure.ofUrl
        (Repair.peersAfter o.names ordinal ⟨o.nodeName, ownUrl, added.id⟩ members)) := by
  have hclient : o.clientConfig = .ok ⟨[endpoint], o.tls, o.memberTimeout⟩ := by
    rw [LaunchOptions.clientConfig, hservice]
    rfl
  rw [repair, hordinal, hurl, hclient]
  rfl

/-- What a launch may ask for. -/
def LaunchOptions.Admits (o : LaunchOptions) (method : JoinMethod) : Request → Prop
  | .manage _ (.add urls) => ∃ url, o.names.peerUrl o.nodeName = .ok url ∧ urls = [url]
  | .start config => ∃ peers founding, o.serverConfig peers founding = .ok config ∧
    (founding = .new → method = .bootstrap ∧ peers = [])
  | _ => True

/-- What acquiring a store may ask for. -/
def Launcher.AdmitsAcquiring (l : Launcher) (o : AcquireOptions) (r : Request) : Prop :=
  l.options.Admits .join r ∨ (o.role = .bootstrapper ∧ l.options.Admits .bootstrap r)

section Launch

variable {l : Launcher} {o : LaunchOptions} {method : JoinMethod} {joined : NodeId → Prop}
  {server : ServerHandle}

open Procedure
open Activity (asks_request)

theorem obeys_removeMembers (bound : Duration) (client : Connection) (members : List Member) :
    (removeMembers bound client members).Obeys (.joining (o.Admits method) joined)
      fun _ => True := by
  induction members with
  | nil => exact obeys_pure trivial
  | cons m rest ih =>
    exact obeys_andThen (obeys_boundedCall _ _
      (asks_request (r := .manage client (.remove m.id)) trivial)) fun _ => ih

/-- Repairing the membership registers no URL but the node's own. -/
theorem obeys_repair (o : LaunchOptions) (method : JoinMethod) (joined : NodeId → Prop) :
    (repair o).Obeys (.joining (o.Admits method) joined) fun _ => True := by
  unfold repair
  split
  · exact obeys_throw _
  · next ordinal _ =>
    refine obeys_bind (fun url => o.names.peerUrl o.nodeName = .ok url)
      (obeys_ofUrl fun _ h => h) fun ownUrl hown => ?_
    refine obeys_andThen (obeys_ofUrl fun _ _ => trivial) fun config => ?_
    refine obeys_andThen (obeys_boundedCall _ _ (asks_request (r := .connect config) trivial))
      fun client => ?_
    refine obeys_andThen (obeys_boundedCall _ _ (asks_request (r := .manage client .list) trivial))
      fun members => ?_
    refine obeys_andThen (obeys_removeMembers _ _ _) fun _ => ?_
    refine obeys_andThen (obeys_boundedCall _ _
      (asks_request (r := .manage client (.add [ownUrl])) ⟨ownUrl, hown, rfl⟩)) fun added => ?_
    exact obeys_ofUrl fun _ _ => trivial

namespace Launcher

theorem obeys_discover (l : Launcher) :
    l.discover.Obeys (.joining (l.options.Admits method) joined) fun _ => True := by
  have hrepair := obeys_repair l.options method joined
  refine obeys_andThen (obeys_uncancelled ?_) fun result => ?_
  · exact (Activity.obeys_timeout _ hrepair.run).imp fun _ _ => trivial
  · cases result with
    | none => exact obeys_throw _
    | some result => exact obeys_ofExcept fun _ _ => trivial

/-- The settings to start with follow from the options. -/
theorem obeys_prepare (l : Launcher) (method : JoinMethod) (joined : NodeId → Prop) :
    (l.prepare method).Obeys (.joining (l.options.Admits method) joined) fun config =>
      l.options.Admits method (.start config) := by
  cases method with
  | bootstrap => exact obeys_ofUrl fun config hconfig => ⟨[], .new, hconfig, fun _ => ⟨rfl, rfl⟩⟩
  | join =>
    refine obeys_tryCatch ?_ fun e => obeys_throw _
    refine obeys_andThen l.obeys_discover fun peers => ?_
    exact obeys_ofUrl fun config hconfig => ⟨peers, .existing, hconfig, nofun⟩

theorem obeys_startServer {config : ServerConfig} (h : o.Admits method (.start config)) :
    (startServer method config).Obeys (.joining (o.Admits method) joined) fun _ => True := by
  refine obeys_andThen (obeys_uncancelled (asks_request h)) fun reply => ?_
  cases reply with
  | ok server => exact obeys_pure trivial
  | error e =>
    cases method with
    | join => exact obeys_throw _
    | bootstrap => exact obeys_throw _

/-- Setting up access control is up to the server. -/
theorem obeys_ensureAdded {answer : Activity EngineError (Except EngineError Unit)}
    (step : NodeStep)
    (h : answer.Obeys (.joining (o.Admits method) joined) fun _ => True) :
    (ensureAdded step answer).Obeys (.joining (o.Admits method) joined) fun _ => True := by
  refine obeys_andThen (obeys_ofActivity h) fun reply => ?_
  cases reply with
  | ok _ => exact obeys_pure trivial
  | error e =>
    dsimp only
    split
    · exact obeys_pure trivial
    · exact obeys_throw _

theorem obeys_setUpUser (server : ServerHandle) (user name : String) :
    (setUpUser server user name).Obeys (.joining (o.Admits method) joined) fun _ => True :=
  obeys_andThen (obeys_ensureAdded _ (asks_request trivial)) fun _ =>
    obeys_call _ (asks_request trivial)

theorem obeys_setUpAuth (server : ServerHandle) (user : String) :
    (setUpAuth server user).Obeys (.joining (o.Admits method) joined) fun _ => True := by
  refine obeys_andThen (obeys_call _ (asks_request trivial)) fun enabled => ?_
  cases enabled with
  | true => exact obeys_pure trivial
  | false =>
    refine obeys_andThen (obeys_ensureAdded _ (asks_request trivial)) fun _ => ?_
    refine obeys_andThen (obeys_call _ (asks_request trivial)) fun _ => ?_
    refine obeys_andThen (obeys_setUpUser server user administrator) fun _ => ?_
    refine obeys_andThen (obeys_setUpUser server user clientPrincipal) fun _ => ?_
    exact obeys_call _ (asks_request trivial)

/-- A server is usable only once it has joined a cluster. -/
theorem obeys_makeUsable (l : Launcher) (server : ServerHandle) :
    (l.makeUsable server).Obeys (.joining (o.Admits method) joined) fun _ => joined server.id := by
  have hready : (Activity.request (.ready server) : Activity EngineError _).Obeys
      (.joining (o.Admits method) joined) fun _ => joined server.id :=
    Activity.obeys_request (r := .ready server) trivial
  have hauth : (setUpAuth server l.user).Obeys (.joining (o.Admits method) joined) fun _ => True :=
    obeys_setUpAuth server l.user
  unfold makeUsable
  refine obeys_bind _ (obeys_uncancelled (Activity.obeys_timeout _ hready)) fun answer hanswer => ?_
  cases answer with
  | none => exact obeys_bind (fun _ => False) (obeys_throw _) fun _ hfalse => hfalse.elim
  | some _ =>
    refine obeys_andThen (obeys_uncancelled (hauth.run.imp fun _ _ => trivial)) fun result => ?_
    exact obeys_ofExcept fun _ _ => hanswer _ rfl

theorem obeys_launch (l : Launcher) (method : JoinMethod) (joined : NodeId → Prop) :
    (l.launch method).Obeys (.joining (l.options.Admits method) joined) fun store =>
      joined store.server.id := by
  unfold launch
  refine obeys_bind _ (l.obeys_prepare method joined) fun config hconfig => ?_
  refine obeys_andThen (obeys_startServer hconfig) fun server => ?_
  have hclose : (Activity.request (.close server) : Activity EngineError _).Obeys
      (.joining (l.options.Admits method) joined) fun _ => True :=
    asks_request (r := .close server) trivial
  exact obeys_bind _ (obeys_orElse (l.obeys_makeUsable server) hclose) fun _ hjoined =>
    obeys_pure hjoined

end Launcher

end Launch

/-! ## Acquiring a store -/

section Acquire

variable {ε α : Type} {rule : Rule ε} {post : α → Prop} {attempt : Procedure ε α}

open Procedure

theorem obeys_pauseUntil (hidle : rule.admits .idle) (instant : Instant) :
    (pauseUntil instant).Obeys rule fun _ => True := by
  refine obeys_uncancelled ⟨hidle, fun wake _ => ?_⟩
  cases wake with
  | late => trivial
  | reply | cancelled => trivial

/-- Between attempts there is nothing but waiting. -/
theorem obeys_attemptRounds (o : AcquireOptions) (hidle : rule.admits .idle)
    (hattempt : attempt.Obeys rule post) (deadline : Instant) (rounds : Nat) (tick : Instant) :
    (attemptRounds o attempt deadline rounds tick).Obeys rule post := by
  induction rounds generalizing tick with
  | zero => exact obeys_andThen (obeys_pauseUntil hidle _) fun _ => obeys_throw _
  | succ rounds ih =>
    refine obeys_andThen (obeys_pauseUntil hidle _) fun _ => ?_
    refine obeys_andThen (obeys_ofActivity fun _ => trivial) fun now => ?_
    dsimp only
    split
    · split
      -- at the deadline there may or may not be one more attempt
      · refine ⟨(obeys_tryCatch hattempt fun e => ?_).run, (obeys_throw _).run⟩
        cases e with
        | cancelled => exact obeys_throw _
        | _ => exact ih _
      · refine obeys_tryCatch hattempt fun e => ?_
        cases e with
        | cancelled => exact obeys_throw _
        | _ => exact ih _
    · exact obeys_throw _

theorem obeys_waitForCluster (o : AcquireOptions) (rounds : Nat) (hidle : rule.admits .idle)
    (hattempt : attempt.Obeys rule post) : (waitForCluster o rounds attempt).Obeys rule post := by
  refine obeys_andThen (obeys_ofActivity fun _ => trivial) fun now => ?_
  split
  · exact obeys_ofActivity trivial
  · exact obeys_attemptRounds o hidle hattempt _ _ _

theorem Launcher.obeys_acquire (l : Launcher) (o : AcquireOptions) (joined : NodeId → Prop) :
    (l.acquire o).Obeys (.joining (l.AdmitsAcquiring o) joined) fun store =>
      joined store.server.id := by
  have hjoin : (l.launch .join).Obeys (.joining (l.AdmitsAcquiring o) joined) fun store =>
      joined store.server.id :=
    (l.obeys_launch .join joined).weaken (fun r hr => .inl hr) fun _ _ htells => htells
  refine obeys_tryCatch hjoin fun e => ?_
  cases e with
  | join cause =>
    dsimp only
    split
    · next hrole =>
      exact (l.obeys_launch .bootstrap joined).weaken (fun r hr => .inr ⟨hrole, hr⟩)
        fun _ _ htells => htells
    · exact obeys_waitForCluster o _ (.inl trivial) hjoin
  | _ => exact obeys_throw _

end Acquire

end ClusterVault
