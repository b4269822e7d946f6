import ClusterVault.Proofs.Node.FailedLaunch
import ClusterVault.Proofs.Node.SingleCluster

/-!
# When a cluster is founded

A node that is to found a cluster if there is none to join takes every failure of its attempt to join
for that, as long as its own server has not come up. So it may found a second cluster beside one that
runs: all it takes is that it is not let in. This module shows that it founds one cluster at most, only
after its attempt has failed so and nothing is left of it, and never if its data directory is that of
a member.

## Main definitions

- `Answer.Founds`: a request of which a cluster came about
- `Answer.server?`: the server that was handed over

## Main statements

- `Launcher.founds_after_failed_attempt`: when a cluster is founded
- `Launcher.second_cluster_beside_running`: a cluster that is founded beside another one
-/

namespace ClusterVault

/-- A network has more clusters after the request than before. -/
def Answer.Founds (a : Answer) : Prop :=
  ∃ name, (a.before.network name).clusters.length < (a.after.network name).clusters.length

/-- The server that was started, if it has come up. -/
def Answer.server? : Answer → Option ServerHandle
  | ⟨_, _, .start _, Except.ok server, _⟩ => some server
  | _ => none

section Founding

variable {site : Site} {foreign : String → Network → Network.Event → Prop} {o : LaunchOptions}
  {l : Launcher} {method : JoinMethod} {s : LaunchKnowledge} {d : Deployment} {a : Answer}
  {log : List Answer} {u v : Undertaking (Except (NodeError EngineError) SecretStore)}

open Undertaking (Run)

/-- Only a server that is to found a cluster does so, and not on the data directory of a member. -/
theorem Answer.Founds.start (h : a.Founds) (hgiven : a.Given site) :
    ∃ config, a.request = .start config ∧ config.founding = .new ∧
      (a.before.network site.servers).remembered? config.dataDir = none := by
  obtain ⟨name, hlt⟩ := h
  rw [(Deployment.sees?_of_given hgiven name).clusters_eq] at hlt
  cases hevent : a.event? site name with
  | none =>
    rw [hevent] at hlt
    exact absurd hlt (Nat.lt_irrefl _)
  | some event =>
    have hgrown : (a.before.network name).clusters.length <
        ((a.before.network name).after event).clusters.length := by
      rw [hevent] at hlt
      exact hlt
    obtain ⟨files, now, config, rfl⟩ : ∃ files now config, event = .start files now config := by
      by_contra hnone
      have hsame : ((a.before.network name).after event).clusters.length =
          (a.before.network name).clusters.length :=
        Network.length_clusters_after fun files now config heq => hnone ⟨files, now, config, heq⟩
      exact absurd hsame (Nat.ne_of_gt hgrown)
    obtain ⟨hrequest, rfl⟩ := Answer.request_of_event?_start hevent
    rcases (a.before.network site.servers).length_clusters_start files now config with
      hsame | ⟨hfounding, hnew, -⟩
    · exact absurd hsame (Nat.ne_of_gt hgrown)
    · exact ⟨config, hrequest, hfounding, hnew⟩

/-! ## The attempt to join -/

/-- A launch that joins founds nothing. -/
theorem not_founds_of_join (hgiven : a.Given site)
    (hadmits : (o.protocol .join).admits s a.request) : ¬a.Founds := by
  intro hfounds
  obtain ⟨config, hrequest, hfounding, -⟩ := hfounds.start hgiven
  rw [hrequest] at hadmits
  obtain ⟨-, peers, founding, hconfig, hnew⟩ := hadmits
  obtain ⟨_, _, -, -, rfl⟩ := LaunchOptions.serverConfig_eq_ok hconfig
  exact nomatch (hnew hfounding).1

/-- A launch that has never had a server was handed over none. -/
theorem LaunchKnowledge.isWithout_of_learn (hadmits : (o.protocol method).admits s a.request)
    (h : (s.learn a.request a.reply).IsWithout) : s.IsWithout ∧ a.server? = none := by
  obtain ⟨before, now, r, reply, after⟩ := a
  cases r with
  | start config =>
    cases reply with
    | error e => exact ⟨.inl hadmits.1, rfl⟩
    | ok server => rcases h with h | h <;> cases h
  | close server => rcases h with h | h <;> cases h
  | connect | manage | ready | serve | idle =>
    rw [IsWithout, s.phase_learn reply nofun nofun] at h
    exact ⟨h, rfl⟩

/-- What a launch knows after an attempt to join. -/
theorem Undertaking.Run.not_founds (hrun : Run site foreign ⟨d, (l.launch .join).run, []⟩ v) :
    ∃ s, v.rest.Follows (l.options.protocol .join) (fun _ => True) LaunchKnowledge.Promise s ∧
      (∀ a ∈ v.log, ¬a.Founds) ∧ (s.IsWithout → ∀ a ∈ v.log, a.server? = none) := by
  refine hrun.follows (I := fun (s : LaunchKnowledge) _ log => (∀ a ∈ log, ¬a.Founds) ∧
    (s.IsWithout → ∀ a ∈ log, a.server? = none)) (l.follows_launch .join)
    ⟨List.forall_mem_nil _, fun _ => List.forall_mem_nil _⟩ (fun _ _ _ h => h) ?_
    (fun _ _ _ _ _ _ h => h) (fun _ _ _ _ h => h)
  rintro s log a hgiven hadmits ⟨hnone, hwithout⟩
  refine ⟨?_, fun h => ?_⟩
  · exact List.forall_mem_append.2
      ⟨hnone, List.forall_mem_singleton.2 (not_founds_of_join hgiven hadmits)⟩
  · obtain ⟨hs, hserver⟩ := LaunchKnowledge.isWithout_of_learn hadmits h
    exact List.forall_mem_append.2 ⟨hwithout hs, List.forall_mem_singleton.2 hserver⟩

/-! ## Founding -/

/-- Once a start was answered, there is no other one. -/
theorem LaunchKnowledge.idle_of_learn {r : Request} {reply : r.Reply EngineError}
    (h : (s.learn r reply).Idle) : s.Idle ∧ ∀ config, r ≠ .start config := by
  cases r with
  | start => cases reply <;> cases h
  | close => cases h
  | connect | manage | ready | serve | idle =>
    exact ⟨(s.phase_learn reply nofun nofun).symm.trans h, nofun⟩

/-- A launch founds one cluster at most, and none on the data directory of a member. -/
structure LaunchKnowledge.FoundsOnce (o : LaunchOptions) (site : Site) (later : List Answer)
    (s : LaunchKnowledge) : Prop where
  idle : s.Idle → ∀ a ∈ later, ¬a.Founds
  once : later.Pairwise fun a b => ¬(a.Founds ∧ b.Founds)
  unknown : ∀ a ∈ later, a.Founds →
    (a.before.network site.servers).remembered? o.dataDir = none

theorem LaunchKnowledge.FoundsOnce.answer {later : List Answer} (h : s.FoundsOnce o site later)
    (hgiven : a.Given site) (hadmits : (o.protocol method).admits s a.request) :
    (s.learn a.request a.reply).FoundsOnce o site (later ++ [a]) := by
  have hstart (hfounds : a.Founds) : s.Idle ∧
      (a.before.network site.servers).remembered? o.dataDir = none := by
    obtain ⟨config, hrequest, -, hnew⟩ := hfounds.start hgiven
    rw [hrequest] at hadmits
    obtain ⟨hidle, peers, founding, hconfig, -⟩ := hadmits
    obtain ⟨_, _, -, -, rfl⟩ := LaunchOptions.serverConfig_eq_ok hconfig
    exact ⟨hidle, hnew⟩
  refine ⟨fun hidle => ?_, ?_, ?_⟩
  · obtain ⟨hs, hother⟩ := idle_of_learn hidle
    refine List.forall_mem_append.2 ⟨h.idle hs, List.forall_mem_singleton.2 fun hfounds => ?_⟩
    obtain ⟨config, hrequest, -⟩ := hfounds.start hgiven
    exact hother config hrequest
  · refine List.pairwise_append.2 ⟨h.once, List.pairwise_singleton _ _, ?_⟩
    rintro b hb c hc ⟨hfounds, hfounds'⟩
    rw [List.mem_singleton.1 hc] at hfounds'
    exact h.idle (hstart hfounds').1 b hb hfounds
  · exact List.forall_mem_append.2
      ⟨h.unknown, List.forall_mem_singleton.2 fun hfounds => (hstart hfounds).2⟩

theorem Undertaking.Run.foundsOnce (hrun : Run site foreign ⟨d, (l.launch method).run, log⟩ v) :
    ∃ later, v.log = log ++ later ∧ later.Pairwise (fun a b => ¬(a.Founds ∧ b.Founds)) ∧
      ∀ a ∈ later, a.Founds →
        (a.before.network site.servers).remembered? l.options.dataDir = none := by
  obtain ⟨s, -, later, hlog, hfounds⟩ := hrun.follows
    (I := fun s _ all => ∃ later, all = log ++ later ∧ s.FoundsOnce l.options site later)
    (l.follows_launch method)
    ⟨[], (List.append_nil log).symm, fun _ => List.forall_mem_nil _, List.Pairwise.nil,
      List.forall_mem_nil _⟩
    (fun _ _ _ ⟨later, hlog, h⟩ => ⟨later, hlog, h.idle, h.once, h.unknown⟩)
    (fun s all a hgiven hadmits ⟨later, hlog, h⟩ =>
      ⟨later ++ [a], by rw [hlog, List.append_assoc], h.answer hgiven hadmits⟩)
    (fun _ _ _ _ _ _ h => h) (fun _ _ _ _ h => h)
  exact ⟨later, hlog, hfounds.once, hfounds.unknown⟩

/-- What a node does after its attempt to join if it is to found a cluster: it does so if joining
    failed, whatever the cause. -/
def Launcher.afterAttempt (l : Launcher) : Except (NodeError EngineError) SecretStore →
    Activity EngineError (Except (NodeError EngineError) SecretStore)
  | .error (.join _) => (l.launch .bootstrap).run
  | result => .done result

theorem Launcher.run_acquire (l : Launcher) {o : AcquireOptions} (hrole : o.role = .bootstrapper) :
    (l.acquire o).run = (l.launch .join).run.bind l.afterAttempt := by
  refine congrArg (Activity.bind _) (funext fun result => ?_)
  cases result with
  | ok store => rfl
  | error e =>
    cases e with
    | join cause =>
      dsimp only [afterAttempt]
      rw [hrole]
      rfl
    | _ => rfl

theorem Launcher.afterAttempt_of_ne {result : Except (NodeError EngineError) SecretStore}
    (h : ∀ cause, result ≠ .error (.join cause)) : l.afterAttempt result = .done result := by
  unfold afterAttempt
  split
  · exact absurd rfl (h _)
  · rfl

end Founding

/-! ## A trial -/

namespace Trial

/-- The first node founds a cluster, since there is none. -/
def firstNode : Activity EngineError (Except (NodeError EngineError) SecretStore) :=
  ((launcher plain 0 "a").acquire { role := .bootstrapper }).run

/-- A node whose certificate is that of no user. -/
def outsider : Launcher := { launcher plain 1 "b" with user := "outsider" }

/-- A fleet, seen from the machine of the outsider. -/
def seenByOutsider (w : Fleet (Except (NodeError EngineError) SecretStore)) :
    Fleet (Except (NodeError EngineError) SecretStore) :=
  { w with
    deployment := w.deployment.setFiles
      { entries := {(["certificate"],
          .file (.certificate { certificate with subject := [.commonName "outsider"] }) 0)} } }

/-- The settings with which the outsider looks for a cluster. -/
def lookingFor : ClientConfig where
  endpoints := [.https plain.internal ServiceNames.clientPort]
  tls := outsider.options.tls
  dialTimeout := outsider.options.memberTimeout

theorem clientConfig_outsider : outsider.options.clientConfig = .ok lookingFor := by
  have hservice : outsider.options.names.serviceUrl = _ := asWritten_plain.serviceUrl
  rw [LaunchOptions.clientConfig, hservice]
  rfl

/-- Whether a member of a cluster is reached. -/
def isReached (w : Fleet (Except (NodeError EngineError) SecretStore)) : Bool :=
  match (w.network "net").connect w.deployment.machine.files lookingFor with
  | .ok client => ((w.network "net").attachment? client.server).isSome
  | .error _ => false

theorem store_firstNode : (match Deployment.backend.advance ⟨"net", "net"⟩ none 0 firstNode
      start.deployment with
    | (d, .ended result) => some ((d.network "net").clusters.length, store? (.done result))
    | _ => none) = some (1, some ⟨⟨0, plain.nodeName 0⟩, administrator⟩) := by
  simp only [firstNode, Launcher.acquire, Launcher.launch, Launcher.prepare, Launcher.discover,
    repair_launcher asWritten_plain ordinal?_zero, serverConfig_launcher asWritten_plain isNode_zero]
  decide +kernel

theorem clusters_outsider : ((start.play? "net" 0
      [.others (.bindService plain.internal plain.headless), .run firstNode]).bind fun w =>
    ((seenByOutsider w).play? "net" 0
        [.run (outsider.acquire { role := .bootstrapper }).run]).map fun w' =>
      ((w.network "net").clusters.length, isReached (seenByOutsider w),
        (w'.network "net").clusters.length, w'.courses.map store?)) =
    some (1, true, 2, [some ⟨⟨0, plain.nodeName 0⟩, administrator⟩,
      some ⟨⟨1, plain.nodeName 1⟩, "outsider"⟩]) := by
  simp only [firstNode, outsider, Launcher.acquire, Launcher.launch, Launcher.prepare,
    Launcher.discover, repair_launcher asWritten_plain ordinal?_zero,
    repair_launcher asWritten_plain ordinal?_one, serverConfig_launcher asWritten_plain isNode_zero,
    serverConfig_launcher asWritten_plain isNode_one]
  decide +kernel

end Trial

section Founding

open Undertaking (Run)

/-- When a cluster is founded. A node that is to found a cluster if there is none to join acquires a
    store, while others do whatever they like on all networks. Its attempt to join founds nothing. If
    the attempt succeeds, is cancelled, or fails once its server has come up, this is how acquiring the
    store ends. The node goes on only if joining failed before that, for whatever other reason and
    whether or not there is a cluster. By then none of its servers has come up, and one that was
    refused is out of reach for good. What follows founds one cluster at most, and none if the data
    directory is that of a member. -/
theorem Launcher.founds_after_failed_attempt {site : Site}
    {foreign : String → Network → Network.Event → Prop} {l : Launcher} {o : AcquireOptions}
    {d : Deployment} {v : Undertaking (Except (NodeError EngineError) SecretStore)}
    (hrole : o.role = .bootstrapper) (hd : d.HasPast)
    (hrun : Run site foreign ⟨d, (l.acquire o).run, []⟩ v) :
    ∃ tried later, Run site foreign ⟨d, (l.launch .join).run, []⟩ tried ∧
      v.log = tried.log ++ later ∧ (∀ a ∈ tried.log, ¬a.Founds) ∧
      later.Pairwise (fun a b => ¬(a.Founds ∧ b.Founds)) ∧
      (∀ a ∈ later, a.Founds →
        (a.before.network site.servers).remembered? l.options.dataDir = none) ∧
      (later ≠ [] → ∃ cause, tried.rest = .done (.error (.join cause)) ∧ cause ≠ .cancelled ∧
        (∀ a ∈ tried.log, a.server? = none) ∧
        ∀ id, tried.Started site id → ∀ events,
          ((tried.deployment.network site.servers).afterAll events).OutOfReach id) ∧
      ∀ result, tried.rest = .done result → (∀ cause, result ≠ .error (.join cause)) →
        v.rest = .done result := by
  rw [l.run_acquire hrole] at hrun
  obtain ⟨tried, htried, hattempt⟩ := hrun.of_bind
  obtain ⟨s, hfollows, hnone, hwithout⟩ := htried.not_founds
  rcases hattempt with rfl | ⟨result, hresult, hrest⟩
  -- the attempt is still under way
  · refine ⟨tried, [], htried, (List.append_nil _).symm, hnone, List.Pairwise.nil,
      List.forall_mem_nil _, fun h => absurd rfl h, fun result hresult hother => ?_⟩
    dsimp only
    rw [hresult]
    exact l.afterAttempt_of_ne hother
  -- the attempt has ended, and only one kind of failure lets the node go on
  · by_cases hjoin : ∃ cause, result = .error (.join cause)
    · obtain ⟨cause, rfl⟩ := hjoin
      obtain ⟨later, hlog, honce, hunknown⟩ := Run.foundsOnce hrest
      rw [hresult] at hfollows
      obtain ⟨hs, hcause⟩ := hfollows.2 cause rfl
      refine ⟨tried, later, htried, hlog, hnone, honce, hunknown,
        fun _ => ⟨cause, hresult, hcause, hwithout hs, fun id hid events => ?_⟩,
        fun result hend hother => ?_⟩
      · obtain ⟨horderly, hshut⟩ := htried.isShut_of_failed hd hresult hid
        exact (hshut.afterAll events).outOfReach (horderly.afterAll events)
      · rw [hresult] at hend
        cases hend
        exact absurd rfl (hother cause)
    · rw [not_exists] at hjoin
      obtain ⟨hend, hlog⟩ := Run.of_done hrest (l.afterAttempt_of_ne hjoin)
      refine ⟨tried, [], htried, hlog.trans (List.append_nil _).symm, hnone, List.Pairwise.nil,
        List.forall_mem_nil _, fun h => absurd rfl h, fun result' hresult' _ => ?_⟩
      rw [hresult] at hresult'
      cases hresult'
      exact hend

/-- The first node to come up founds a cluster after its attempt to join has failed. -/
theorem Launcher.founds_after_failed_attempt_first : Trial.start.deployment.HasPast ∧
    ∃ (o : AcquireOptions) (v : Undertaking (Except (NodeError EngineError) SecretStore))
      (store : SecretStore), o.role = .bootstrapper ∧
      Run ⟨"net", "net"⟩ (fun _ _ _ => False)
        ⟨Trial.start.deployment, ((Trial.launcher Trial.plain 0 "a").acquire o).run, []⟩ v ∧
      v.rest = .done (.ok store) ∧ (v.deployment.network "net").clusters.length = 1 ∧
      ∃ tried later, Run ⟨"net", "net"⟩ (fun _ _ _ => False)
          ⟨Trial.start.deployment, ((Trial.launcher Trial.plain 0 "a").launch .join).run, []⟩ tried ∧
        v.log = tried.log ++ later ∧ (∀ a ∈ tried.log, ¬a.Founds) ∧
        later.Pairwise fun a b => ¬(a.Founds ∧ b.Founds) := by
  have hpast : Trial.start.deployment.HasPast := fun name => ⟨_, [], rfl⟩
  have hstore := Trial.store_firstNode
  split at hstore
  · next d result hadvance =>
    obtain ⟨hlength, hresult⟩ := Prod.mk.inj (Option.some.inj hstore)
    have hok := Trial.eq_done_of_store? hresult
    obtain ⟨answers, hrun⟩ := Run.of_advance (fun _ _ _ => False) [] hadvance
    obtain ⟨tried, later, htried, hlog, hnone, honce, -⟩ :=
      founds_after_failed_attempt rfl hpast hrun
    exact ⟨hpast, _, _, _, rfl, hrun, hok, hlength, tried, later, htried, hlog, hnone, honce⟩
  · cases hstore

/-- A cluster runs and a member of it is reached at the common URL. A node whose certificate is that of
    no user is not let in, and founds another one. -/
theorem Launcher.second_cluster_beside_running :
    ∃ (w w' : Fleet (Except (NodeError EngineError) SecretStore)) (config : ClientConfig)
      (client : Connection), Trial.start.play? "net" 0
        [.others (.bindService Trial.plain.internal Trial.plain.headless), .run Trial.firstNode] =
        some w ∧
      (w.network "net").clusters.length = 1 ∧
      Trial.outsider.options.clientConfig = .ok config ∧
      (w.network "net").connect (Trial.seenByOutsider w).deployment.machine.files config =
        .ok client ∧
      ((w.network "net").attachment? client.server).isSome ∧
      (Trial.seenByOutsider w).play? "net" 0
        [.run (Trial.outsider.acquire { role := .bootstrapper }).run] = some w' ∧
      (w'.network "net").clusters.length = 2 := by
  obtain ⟨w, hw, hplay⟩ := Option.bind_eq_some_iff.1 Trial.clusters_outsider
  obtain ⟨w', hw', hfound⟩ := Option.map_eq_some_iff.1 hplay
  obtain ⟨hone, hreached, htwo, -⟩ := by simpa only [Prod.mk.injEq] using hfound
  unfold Trial.isReached at hreached
  split at hreached
  · next client hclient =>
    exact ⟨w, w', Trial.lookingFor, client, hw, hone, Trial.clientConfig_outsider, hclient, hreached,
      hw', htwo⟩
  · cases hreached

end Founding

end ClusterVault
