import ClusterVault.Node.Acquire
import ClusterVault.Proofs.Activity.Follows
import ClusterVault.Proofs.Node.Requests

/-!
# What a launch knows

A launch starts one server at most. From then on it uses and closes that server and no other one, and
before that it removes no members but those that its node has left behind, as far as it was told. It
fails only if it has no server, and succeeds only right after it was told that access control is on.

## Main definitions

- `LaunchKnowledge`: what a launch has learned from its answers
- `LaunchOptions.protocol`: what a launch may ask for, given what it knows

## Main statements

- `Launcher.follows_launch`: a launch follows the protocol
-/

namespace ClusterVault

/-- Whether access control is on once a server has answered so. -/
def Command.leavesOn : (command : Command) → Except EngineError command.Reply → Bool
  | .authStatus, .ok on => on
  | .enableAuth, .ok _ => true
  | _, _ => false

/-- How far a launch has got with its server. -/
inductive LaunchPhase where
  /-- No start was answered. -/
  | before
  /-- The server could not come up. -/
  | refused
  | serving (id : NodeId)
  | closed

/-- What a launch has learned from its answers. -/
structure LaunchKnowledge where
  phase : LaunchPhase := .before
  /-- Whether the last answer was that access control is on. -/
  usable : Bool := false
  /-- The members that there were. -/
  told : List Member := []

namespace LaunchKnowledge

/-- What is still known after some time. -/
def lapse (s : LaunchKnowledge) : LaunchKnowledge := { s with usable := false }

/-- What is known after an answer. -/
def learn (s : LaunchKnowledge) : (r : Request) → r.Reply EngineError → LaunchKnowledge
  | .start _, Except.ok server => { s.lapse with phase := .serving server.id }
  | .start _, Except.error _ => { s.lapse with phase := .refused }
  | .close _, _ => { s.lapse with phase := .closed }
  | .serve _ _ command, reply => { s with usable := command.leavesOn reply }
  | .manage _ .list, Except.ok (members : List Member) =>
    { s.lapse with told := s.told ++ members }
  | _, _ => s.lapse

/-- There is no server yet. -/
def Idle (s : LaunchKnowledge) : Prop := s.phase = .before

/-- There is a server, and it is this one. -/
def Holds (id : NodeId) (s : LaunchKnowledge) : Prop := s.phase = .serving id

/-- There is no server, and there has not been one. -/
def IsWithout (s : LaunchKnowledge) : Prop := s.phase = .before ∨ s.phase = .refused

/-- What a launch promises: if it succeeds it has just been told that access control is on. If it fails
    it has no server any more, and if it calls that a failure to join it never had one and was not
    cancelled. -/
def Promise (s : LaunchKnowledge) : Except (NodeError EngineError) SecretStore → Prop
  | .ok store => s.Holds store.server.id ∧ s.usable
  | .error e => (∀ id, ¬s.Holds id) ∧ ∀ cause, e = .join cause → s.IsWithout ∧ cause ≠ .cancelled

/-- How a launch fails that never had a server. -/
def FailsWithout (s : LaunchKnowledge) (e : NodeError EngineError) : Prop :=
  s.IsWithout ∧ e ≠ .join .cancelled

/-- How a launch fails while it has a server. -/
def FailsWith (id : NodeId) (s : LaunchKnowledge) (e : NodeError EngineError) : Prop :=
  s.Holds id ∧ ∀ cause, e ≠ .join cause

theorem Holds.unique {s : LaunchKnowledge} {id id' : NodeId} (h : s.Holds id) (h' : s.Holds id') :
    id = id' :=
  LaunchPhase.serving.inj (h.symm.trans h')

theorem IsWithout.not_holds {s : LaunchKnowledge} (h : s.IsWithout) (id : NodeId) : ¬s.Holds id := by
  intro hid
  rcases h with hbefore | hrefused
  · exact nomatch hbefore.symm.trans hid
  · exact nomatch hrefused.symm.trans hid

theorem FailsWithout.promise {s : LaunchKnowledge} {e : NodeError EngineError}
    (h : s.FailsWithout e) : s.Promise (.error e) := by
  refine ⟨h.1.not_holds, fun cause hcause => ⟨h.1, ?_⟩⟩
  rintro rfl
  exact h.2 hcause

/-- Only what is answered to a start or to a close tells of the server. -/
theorem phase_learn (s : LaunchKnowledge) {r : Request} (reply : r.Reply EngineError)
    (hstart : ∀ config, r ≠ .start config) (hclose : ∀ server, r ≠ .close server) :
    (s.learn r reply).phase = s.phase := by
  cases r with
  | start config => exact absurd rfl (hstart config)
  | close server => exact absurd rfl (hclose server)
  | manage client command =>
    cases command with
    | list => cases reply <;> rfl
    | add | remove => rfl
  | connect | ready | serve | idle => rfl

/-- Only what a server is asked tells whether access control is on. -/
theorem serve_of_usable_learn {s : LaunchKnowledge} {r : Request} {reply : r.Reply EngineError}
    (h : (s.learn r reply).usable) : ∃ server user command, r = .serve server user command := by
  cases r with
  | serve server user command => exact ⟨server, user, command, rfl⟩
  | manage client command =>
    cases command with
    | list => cases reply <;> cases h
    | add | remove => cases h
  | start => cases reply <;> cases h
  | connect | ready | close | idle => cases h

end LaunchKnowledge

/-- The node left the member behind, if it is as it was told. -/
def LaunchOptions.LeftBehind (o : LaunchOptions) (m : Member) : Prop :=
  ∃ url, o.names.peerUrl o.nodeName = .ok url ∧ Repair.isStale o.nodeName url m

/-- What a launch may ask for, given what it knows. -/
def LaunchOptions.protocol (o : LaunchOptions) (method : JoinMethod) :
    Protocol EngineError LaunchKnowledge where
  admits s
    | .start config => s.Idle ∧ o.Admits method (.start config)
    | .close server | .serve server _ _ => s.Holds server.id
    | .manage _ (.remove id) => ∃ m ∈ s.told, m.id = id ∧ o.LeftBehind m
    | _ => True
  after := LaunchKnowledge.learn
  lapse := LaunchKnowledge.lapse

section Launch

variable {o : LaunchOptions} {method : JoinMethod} {s : LaunchKnowledge} {l : Launcher}
  {server : ServerHandle} {user : String}

open Procedure
open Activity (follows_request)

/-! ## Before the server has started -/

theorem follows_removeMembers (bound : Duration) (client : Connection) {members : List Member}
    (hs : s.Idle) (hmembers : ∀ m ∈ members, m ∈ s.told ∧ o.LeftBehind m) :
    (removeMembers bound client members).Follows (o.protocol method) LaunchKnowledge.Idle
      (fun s _ => s.Idle) (fun s _ => s.Idle) s := by
  -- what there is left to remove was told before, and stays told
  induction members generalizing s with
  | nil => exact follows_pure hs
  | cons m rest ih =>
    rw [List.forall_mem_cons] at hmembers
    obtain ⟨⟨htold, hleft⟩, hrest⟩ := hmembers
    refine follows_bind (fun s _ => s.Idle ∧ ∀ m ∈ rest, m ∈ s.told ∧ o.LeftBehind m)
      (follows_boundedCall (follows_request ⟨m, htold, rfl, hleft⟩ hs ?_)
        fun _ hidle => hidle) fun s _ hs => ih hs.1 hs.2
    intro reply
    cases reply with
    | ok left => exact ⟨hs, hrest⟩
    | error e => exact hs

theorem follows_repair (o : LaunchOptions) (hs : s.Idle) :
    (repair o).Follows (o.protocol method) LaunchKnowledge.Idle (fun s _ => s.Idle)
      (fun s _ => s.Idle) s := by
  unfold repair
  split
  · exact follows_throw hs
  · refine follows_bind (fun s url => s.Idle ∧ o.names.peerUrl o.nodeName = .ok url)
      (follows_ofUrl (fun _ hurl => ⟨hs, hurl⟩) fun _ => hs) fun s ownUrl hs => ?_
    obtain ⟨hs, hown⟩ := hs
    refine follows_bind (fun s _ => s.Idle)
      (follows_ofUrl (fun _ _ => hs) fun _ => hs) fun s config hs => ?_
    refine follows_bind (fun s _ => s.Idle)
      (follows_boundedCall (follows_request (r := .connect config) trivial hs ?_)
        fun _ hidle => hidle) fun s client hs => ?_
    · rintro (_ | _) <;> exact hs
    refine follows_bind (fun s members => s.Idle ∧ ∀ m ∈ members, m ∈ s.told)
      (follows_boundedCall (follows_request (r := .manage client .list) trivial hs ?_)
        fun _ hidle => hidle) fun s members hs => ?_
    · rintro (_ | members)
      · exact hs
      · exact ⟨hs, fun m hm => List.mem_append_right _ hm⟩
    obtain ⟨hs, htold⟩ := hs
    refine follows_bind (fun s _ => s.Idle) (follows_removeMembers _ client hs ?_) fun s _ hs => ?_
    · intro m hm
      obtain ⟨hmem, hstale⟩ := List.mem_filter.1 hm
      exact ⟨htold m hmem, ownUrl, hown, hstale⟩
    refine follows_bind (fun s _ => s.Idle)
      (follows_boundedCall (follows_request (r := .manage client (.add [ownUrl])) trivial
        hs ?_) fun _ hidle => hidle) fun s added hs => ?_
    · rintro (_ | _) <;> exact hs
    exact follows_ofUrl (fun _ _ => hs) fun _ => hs

namespace Launcher

theorem follows_discover (l : Launcher) (hs : s.Idle) :
    l.discover.Follows (l.options.protocol method) LaunchKnowledge.Idle (fun s _ => s.Idle)
      (fun s _ => s.Idle) s := by
  have hlapse : s.lapse.Idle := hs
  refine follows_bind (fun s _ => s.Idle)
    (follows_uncancelled ((Activity.follows_timeout _ (follows_repair l.options hlapse).run).imp
      (fun _ hidle => hidle) ?_) fun _ hidle => hidle) fun s result hs => ?_
  · rintro s (_ | _ | _) hend <;> exact hend
  · cases result with
    | none => exact follows_throw hs
    | some result =>
      refine follows_ofExcept ?_
      cases result <;> exact hs

theorem follows_prepare (l : Launcher) (method : JoinMethod) (hs : s.Idle) :
    (l.prepare method).Follows (l.options.protocol method) LaunchKnowledge.Idle
      (fun s config => s.Idle ∧ l.options.Admits method (.start config))
      LaunchKnowledge.FailsWithout s := by
  cases method with
  | bootstrap =>
    exact follows_ofUrl (fun config hconfig => ⟨hs, [], .new, hconfig, fun _ => ⟨rfl, rfl⟩⟩)
      fun _ => ⟨.inl hs, nofun⟩
  | join =>
    refine follows_tryCatch (fun s _ => s.Idle) ?_ fun s e hs => follows_throw ⟨.inl hs, ?_⟩
    · refine follows_bind (fun s _ => s.Idle) (l.follows_discover hs) fun s peers hs => ?_
      exact follows_ofUrl (fun config hconfig => ⟨hs, peers, .existing, hconfig, nofun⟩)
        fun _ => hs
    · cases e <;> nofun

theorem follows_startServer (hs : s.Idle) {config : ServerConfig}
    (hconfig : o.Admits method (.start config)) :
    (startServer method config).Follows (o.protocol method) LaunchKnowledge.Idle
      (fun s server => s.Holds server.id) LaunchKnowledge.FailsWithout s := by
  refine follows_bind (fun s (result : Except EngineError ServerHandle) => match result with
    | .ok server => s.Holds server.id
    | .error _ => s.IsWithout)
    (follows_uncancelled (follows_request (r := .start config) ⟨hs, hconfig⟩ hs ?_)
      fun _ hidle => ⟨.inl hidle, nofun⟩) fun s result hs => ?_
  · rintro (_ | server)
    · exact .inr rfl
    · exact rfl
  · cases result with
    | ok server => exact follows_pure hs
    | error e => cases method <;> exact follows_throw ⟨hs, nofun⟩

end Launcher

/-! ## While there is a server -/

theorem follows_serve (hs : s.Holds server.id) (command : Command) :
    (Activity.request (.serve server user command)).Follows (o.protocol method)
      (LaunchKnowledge.Holds server.id) (fun s _ => s.Holds server.id) s :=
  follows_request hs hs fun _ => hs

theorem follows_callServer (hs : s.Holds server.id) (step : NodeStep) (command : Command) :
    (call step (Activity.request (.serve server user command))).Follows (o.protocol method)
      (LaunchKnowledge.Holds server.id) (fun s _ => s.Holds server.id)
      (LaunchKnowledge.FailsWith server.id) s := by
  refine follows_call ((follows_serve hs command).imp (fun _ hs => hs) fun s reply hs => ?_)
  cases reply with
  | ok _ => exact hs
  | error _ => exact ⟨hs, nofun⟩

theorem follows_ensureAdded {answer : Activity EngineError (Except EngineError Unit)}
    (h : answer.Follows (o.protocol method) (LaunchKnowledge.Holds server.id)
      (fun s _ => s.Holds server.id) s) (step : NodeStep) :
    (ensureAdded step answer).Follows (o.protocol method) (LaunchKnowledge.Holds server.id)
      (fun s _ => s.Holds server.id) (LaunchKnowledge.FailsWith server.id) s := by
  refine follows_bind (fun s _ => s.Holds server.id) (follows_ofActivity h) fun s reply hs => ?_
  cases reply with
  | ok _ => exact follows_pure hs
  | error e =>
    dsimp only
    split
    · exact follows_pure hs
    · exact follows_throw ⟨hs, nofun⟩

theorem follows_setUpUser (hs : s.Holds server.id) (name : String) :
    (setUpUser server user name).Follows (o.protocol method) (LaunchKnowledge.Holds server.id)
      (fun s _ => s.Holds server.id) (LaunchKnowledge.FailsWith server.id) s :=
  follows_bind (fun s _ => s.Holds server.id)
    (follows_ensureAdded (follows_serve hs (.addUser name true)) _)
    fun _ _ hs => follows_callServer hs _ (.grantRole name name)

/-- Setting up access control ends when it is told that it is on. -/
theorem follows_setUpAuth (hs : s.Holds server.id) :
    (setUpAuth server user).Follows (o.protocol method) (LaunchKnowledge.Holds server.id)
      (fun s _ => s.Holds server.id ∧ s.usable) (LaunchKnowledge.FailsWith server.id) s := by
  refine follows_bind (fun s enabled => s.Holds server.id ∧ s.usable = enabled)
    (follows_call (follows_request (r := .serve server user .authStatus) hs hs ?_))
    fun s enabled hs => ?_
  · rintro (_ | on)
    · exact ⟨hs, nofun⟩
    · exact ⟨hs, rfl⟩
  obtain ⟨hs, husable⟩ := hs
  cases enabled with
  | true => exact follows_pure ⟨hs, husable⟩
  | false =>
    refine follows_bind (fun s _ => s.Holds server.id)
      (follows_ensureAdded (follows_serve hs (.addRole clientPrincipal)) _) fun s _ hs => ?_
    refine follows_bind (fun s _ => s.Holds server.id)
      (follows_callServer hs _ (.grantPermission clientPrincipal secretsPermission))
      fun s _ hs => ?_
    refine follows_bind (fun s _ => s.Holds server.id) (follows_setUpUser hs administrator)
      fun s _ hs => ?_
    refine follows_bind (fun s _ => s.Holds server.id) (follows_setUpUser hs clientPrincipal)
      fun s _ hs => ?_
    refine follows_call (follows_request (r := .serve server user .enableAuth) hs hs ?_)
    rintro (_ | _)
    · exact ⟨hs, nofun⟩
    · exact ⟨hs, rfl⟩

namespace Launcher

theorem follows_makeUsable (l : Launcher) (hs : s.Holds server.id) :
    (l.makeUsable server).Follows (o.protocol method) (LaunchKnowledge.Holds server.id)
      (fun s _ => s.Holds server.id ∧ s.usable) (LaunchKnowledge.FailsWith server.id) s := by
  have hready : (Activity.request (.ready server) : Activity EngineError Unit).Follows
      (o.protocol method) (LaunchKnowledge.Holds server.id) (fun s _ => s.Holds server.id) s.lapse :=
    follows_request trivial hs fun _ => hs
  refine follows_bind (fun s _ => s.Holds server.id)
    (follows_uncancelled ((Activity.follows_timeout _ hready).imp (fun _ hs => hs) ?_)
      fun _ hs => ⟨hs, nofun⟩) fun s result hs => ?_
  · rintro s (_ | _) hs <;> exact hs
  · cases result with
    | none => exact follows_throw ⟨hs, nofun⟩
    | some _ =>
      exact follows_bind _ (follows_uncancelled (follows_setUpAuth hs).run fun _ hs => ⟨hs, nofun⟩)
        fun s result hresult => follows_ofExcept hresult

/-- A launch keeps to its protocol and its promise. -/
theorem follows_launch (l : Launcher) (method : JoinMethod) :
    (l.launch method).run.Follows (l.options.protocol method) (fun _ => True)
      LaunchKnowledge.Promise {} := by
  have hlaunch : (l.launch method).Follows (l.options.protocol method) (fun _ => True)
      (fun s store => s.Promise (.ok store)) (fun s e => s.Promise (.error e)) {} := by
    refine follows_bind (fun s config => s.Idle ∧ l.options.Admits method (.start config))
      ((l.follows_prepare (s := {}) method rfl).imp (fun _ _ => trivial) (fun _ _ h => h)
        fun _ _ h => h.promise) fun s config hs => ?_
    obtain ⟨hs, hconfig⟩ := hs
    refine follows_bind (fun s server => s.Holds server.id)
      ((follows_startServer hs hconfig).imp (fun _ _ => trivial) (fun _ _ h => h)
        fun _ _ h => h.promise) fun s server hs => ?_
    refine follows_bind (fun (s : LaunchKnowledge) _ => s.Promise (.ok ⟨server, l.user⟩))
      (follows_orElse (LaunchKnowledge.FailsWith server.id)
        ((l.follows_makeUsable hs).imp (fun _ _ => trivial) (fun _ _ h => h) fun _ _ h => h)
        fun s e hs => ?_) fun s _ hs => follows_pure hs
    exact follows_request (r := .close server) hs.1 trivial fun _ =>
      ⟨nofun, fun cause hcause => absurd hcause (hs.2 cause)⟩
  refine hlaunch.run.imp (fun _ _ => trivial) fun s result hresult => ?_
  cases result <;> exact hresult

end Launcher

end Launch

end ClusterVault
