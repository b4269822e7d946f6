import ClusterVault.Proofs.Access.Sound
import ClusterVault.Proofs.Node.AuthSetup
import ClusterVault.Proofs.Node.Requests

/-!
# Launches that are answered at once

Servers in memory answer at once, so a launch that nobody disturbs gets to its end within one instant.
This module follows it from one request to the next, and says what each of them leaves.

## Main definitions

- `Deployment.Completes`: an activity on one network that is answered at once

## Main statements

- `Deployment.completes_makeUsable`: a server that has joined a cluster becomes usable
- `Deployment.completes_launch`: so does the server that a launch starts, if it comes up
-/

namespace ClusterVault

namespace Deployment

/-- All that an activity asks for on a network is answered at once, and it ends with a value. -/
abbrev Completes {α : Type} (name : String) (now : Instant) :
    Deployment → Activity EngineError α → Deployment → α → Prop :=
  backend.Completes ⟨name, name⟩ now

variable {d d' : Deployment} {name : String} {now : Instant} {net : Network} {k : ClusterId}
  {c : Cluster} {limit : Nat} {server : ServerHandle}

/-! ## Requests -/

theorem completes_connect {config : ClientConfig} {client : Connection}
    (h : (d.network name).connect d.machine.files config = .ok client) :
    Completes name now d (Activity.request (.connect config)) d
      (.ok client : Except EngineError Connection) := by
  have hissue : d.issue ⟨name, name⟩ now (.connect config) = (d, .answered (.ok client)) := by
    rw [issue, h]
  exact .request hissue rfl

theorem completes_manage {client : Connection} {command : MemberCommand}
    {reply : Except EngineError command.Reply}
    (h : (d.network name).manage now client command = (net, reply)) :
    Completes name now d (Activity.request (.manage client command)) (d.setNetwork name net)
      reply := by
  have hissue : d.issue ⟨name, name⟩ now (.manage client command) =
      (d.setNetwork name net, .answered reply) := by
    rw [issue, h]
  exact .request hissue rfl

theorem completes_start {config : ServerConfig} {files : FileSystem} {id : NodeId}
    (h : (d.network name).start d.machine.files now config = (net, files, .ok id)) :
    Completes name now d (Activity.request (.start config))
      ((d.setNetwork name net).setFiles files)
      (.ok ⟨id, config.name⟩ : Except EngineError ServerHandle) := by
  have hissue : d.issue ⟨name, name⟩ now (.start config) =
      ((d.setNetwork name net).setFiles files, .answered (.ok ⟨id, config.name⟩)) := by
    rw [issue, h]
    rfl
  exact .request hissue rfl

theorem completes_ready (h : (d.network name).isReady server.id) :
    Completes name now d (Activity.request (.ready server)) d () :=
  .request rfl (if_pos h)

theorem issue_serve (now : Instant) (hlimit : (d.network name).limitAt? server.id k = some limit)
    (hc : (d.network name).clusters[k]? = some c) (user : String) (command : Command) :
    d.issue ⟨name, name⟩ now (.serve server user command) =
      (d.setNetwork name ((d.network name).setCluster k (c.serve user now limit command).2),
        .answered (c.serve user now limit command).1) := by
  rw [issue, Network.serve_of_limitAt? hlimit hc]

/-! ## Becoming usable -/

/-- What is left of setting up access control comes to its end, and the checks are on then. -/
theorem completes_of_setsUp {commands : List Command} {rest : Procedure EngineError Unit}
    {a : AccessControl} (h : SetsUp server commands rest)
    (hlimit : (d.network name).limitAt? server.id k = some limit)
    (hc : (d.network name).clusters[k]? = some c) (hsound : c.access.Sound)
    (hcommands : ∀ command ∈ commands, command.concernsAccess)
    (hproceed : commands.foldlM AccessControl.proceed? c.access = some a) (hon : a.enabled)
    (now : Instant) : ∃ d' c', Completes name now d rest.run d' (.ok ()) ∧ d'.machine = d.machine ∧
      d'.network name = (d.network name).setCluster k c' ∧ c'.members = c.members ∧
      c'.access.enabled := by
  induction commands generalizing rest d c with
  | nil =>
    subst h
    cases hproceed
    exact ⟨d, c, .done, rfl, (Network.setCluster_self hc).symm, rfl, hon⟩
  | cons command commands ih =>
    obtain ⟨next, rfl, hnext⟩ := h
    rw [List.forall_mem_cons] at hcommands
    obtain ⟨mid, hmid, hproceed⟩ := Option.bind_eq_some_iff.1 hproceed
    obtain ⟨haccepts, hafter⟩ :=
      Cluster.serve_of_proceed? hsound.trusts hcommands.1 hmid now limit
    obtain ⟨hdone, hmore⟩ := hnext _ haccepts
    have hissue := issue_serve now hlimit hc administrator command
    have hmembers := Cluster.members_serve c administrator now limit command
    have htold : command.tellsOn (c.serve administrator now limit command).1 → c.access.enabled :=
      Cluster.enabled_of_tellsOn hsound.trusts
    generalize c.serve administrator now limit command = served at *
    obtain ⟨reply, c₁⟩ := served
    have hserved := Network.clusters_setCluster hc c₁
    have hnetwork := network_setNetwork d name ((d.network name).setCluster k c₁)
    have hmachine : (d.setNetwork name ((d.network name).setCluster k c₁)).machine = d.machine := rfl
    generalize d.setNetwork name ((d.network name).setCluster k c₁) = d₁ at *
    dsimp only at *
    -- either the answer tells that the checks are on already, or the next command follows
    cases htells : command.tellsOn reply with
    | true =>
      refine ⟨d₁, c₁, .ask hissue rfl ?_, hmachine, hnetwork, hmembers, ?_⟩
      · rw [hdone htells]
        exact .done
      · rw [hafter]
        exact (AccessControl.extends_of_proceed? hmid).enabled (htold htells)
    | false =>
      subst hafter
      rw [← hnetwork] at hserved
      have hlimit : (d₁.network name).limitAt? server.id k = some limit := by
        rw [hnetwork]
        exact hlimit
      obtain ⟨d', c', hrest, hmachine', hlast, hkept, hon⟩ :=
        ih (hmore htells) hlimit hserved (hsound.proceed? hmid) hcommands.2 hproceed
      refine ⟨d', c', .ask hissue rfl hrest, hmachine'.trans hmachine, ?_, hkept.trans hmembers, hon⟩
      rw [hlast, hnetwork, Network.setCluster_setCluster]

/-- A server that runs in a cluster becomes usable, and the checks of the cluster are on then. -/
theorem completes_makeUsable {l : Launcher} (huser : l.user = administrator)
    (hready : (d.network name).isReady server.id)
    (hlimit : (d.network name).limitAt? server.id k = some limit)
    (hc : (d.network name).clusters[k]? = some c) (hsound : c.access.Sound) (now : Instant) :
    ∃ d' c', Completes name now d (l.makeUsable server).run d' (.ok ()) ∧
      d'.machine = d.machine ∧ d'.network name = (d.network name).setCluster k c' ∧
      c'.members = c.members ∧ c'.access.enabled := by
  obtain ⟨a, hproceed, hon⟩ := hsound.setUp
  obtain ⟨d', c', hauth, hkept⟩ := completes_of_setsUp (setsUp_setUpAuth server) hlimit hc hsound
    (by decide) hproceed hon now
  refine ⟨d', c', ?_, hkept⟩
  rw [Launcher.makeUsable, huser]
  exact ((completes_ready hready).timeout _).uncancelled.andThen <|
    hauth.uncancelled.andThen (.ofExcept _)

/-! ## Launching -/

theorem completes_startServer {config : ServerConfig} {files : FileSystem} {id : NodeId}
    (method : JoinMethod)
    (h : (d.network name).start d.machine.files now config = (net, files, .ok id)) :
    Completes name now d (Launcher.startServer method config).run
      ((d.setNetwork name net).setFiles files) (.ok ⟨id, config.name⟩) :=
  (completes_start h).uncancelled.andThen (.pure _)

/-- A launch ends with a store if its server comes up and becomes usable. -/
theorem completes_launch {l : Launcher} {method : JoinMethod} {config : ServerConfig}
    {files : FileSystem} {id : NodeId} {d₁ d₂ : Deployment}
    (hprepare : Completes name now d (l.prepare method).run d₁ (.ok config))
    (hstart : (d₁.network name).start d₁.machine.files now config = (net, files, .ok id))
    (husable : Completes name now ((d₁.setNetwork name net).setFiles files)
      (l.makeUsable ⟨id, config.name⟩).run d₂ (.ok ())) :
    Completes name now d (l.launch method).run d₂ (.ok ⟨⟨id, config.name⟩, l.user⟩) :=
  hprepare.andThen <| (completes_startServer method hstart).andThen <|
    husable.orElse_ok.andThen (.pure _)

/-- A node has the settings to join with once it has repaired the membership. -/
theorem completes_prepare_join {l : Launcher} {peers : List Peer} {config : ServerConfig}
    (hrepair : Completes name now d (repair l.options).run d' (.ok peers))
    (hconfig : l.options.serverConfig peers .existing = .ok config) :
    Completes name now d (l.prepare .join).run d' (.ok config) := by
  have hdiscover : Completes name now d l.discover.run d' (.ok peers) :=
    (hrepair.timeout _).uncancelled.andThen (.ofExcept _)
  refine (hdiscover.andThen ?_).tryCatch_ok
  rw [hconfig]
  exact .ofExcept _

end Deployment

end ClusterVault
