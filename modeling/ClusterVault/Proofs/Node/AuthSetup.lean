import ClusterVault.Proofs.Access.SetUp
import ClusterVault.Proofs.Cluster.Confinement
import Mathlib.Logic.Relation

/-!
# Setting up access control again and again

Any number of nodes may set up access control of one cluster at the same time, and any of them may
stop at any point. This module shows that this does no harm: every attempt that goes on succeeds, and
one success leaves the rights that a single undisturbed attempt would have left.

## Main definitions

- `SetsUp`: the requests that are left of an attempt
- `SetUpAttempt`, `SetUp`: attempts on their way, with the network they go through
- `SetUp.Step`: what can happen, in any order
- `SetUp.AtStage`: the invariant, with the stage that the rights are at
- `Cluster.RestrictsClient`: what the client may do in the end

## Main statements

- `SetUp.setUpAuth_converges`: every attempt that goes on succeeds, and the rights are complete after
  the first success
- `SetUp.client_switches_checks_on`: one request for administrators that the client is not refused

## Design notes

An attempt that is given up just makes no more requests, so nothing has to be said about it. The rights
may be further than an attempt knows. What it asks for then has been done before, by another attempt
or by an earlier one of the same node.
-/

namespace ClusterVault

/-- Whether a reply tells that the checks are on. -/
def Command.tellsOn : (command : Command) → Except EngineError command.Reply → Bool
  | .authStatus, .ok on => on
  | _, _ => false

/-- What is left of setting up access control: to make these requests one after the other, each after
    a reply to the one before it that is accepted, or to stop when a reply tells that the checks are
    on. -/
def SetsUp (server : ServerHandle) : List Command → Procedure EngineError Unit → Prop
  | [], rest => rest = pure ()
  | command :: commands, rest =>
    ∃ next : Wake ((Request.serve server administrator command).Reply EngineError) →
        Procedure EngineError Unit,
      rest = ExceptT.mk (.ask (.serve server administrator command) none false next) ∧
      ∀ reply, command.Accepts reply →
        (command.tellsOn reply = true → next (.reply reply) = pure ()) ∧
        (command.tellsOn reply = false → SetsUp server commands (next (.reply reply)))

variable {server : ServerHandle} {commands : List Command} {step : NodeStep}

theorem setsUp_call {command : Command} {f : command.Reply → Procedure EngineError Unit}
    (hbears : ∀ e, command.bears e = false) (htells : ∀ reply, command.tellsOn reply = false)
    (hf : ∀ r, SetsUp server commands (f r)) :
    SetsUp server (command :: commands)
      (Procedure.call step (Activity.request (.serve server administrator command)) >>= f) := by
  refine ⟨_, rfl, ?_⟩
  intro reply haccepts
  refine ⟨fun hon => ?_, fun _ => ?_⟩
  · rw [htells] at hon
    cases hon
  · cases reply with
    | ok r => exact hf r
    | error e =>
      have hborne : command.bears e = true := haccepts
      rw [hbears] at hborne
      cases hborne

/-- What is there already is not added, and that is as good. -/
theorem ensured_bind {e : EngineError} (step : NodeStep) (f : Unit → Procedure EngineError Unit)
    (hkind : e.kind = .alreadyExists) :
    Activity.bind (if EngineFault.kind e = .alreadyExists then pure () else throw (.engine step e) :
      Procedure EngineError Unit) (ExceptT.bindCont f) = f () := by
  have hfault : EngineFault.kind e = .alreadyExists := hkind
  rw [if_pos hfault]
  rfl

theorem setsUp_addRole {name : String} {f : Unit → Procedure EngineError Unit}
    (hf : SetsUp server commands (f ())) :
    SetsUp server (.addRole name :: commands)
      (ensureAdded step (Activity.request (.serve server administrator (.addRole name))) >>= f) := by
  refine ⟨_, rfl, ?_⟩
  intro reply haccepts
  refine ⟨nofun, fun _ => ?_⟩
  cases reply with
  | ok r => exact hf
  | error e =>
    have hensured := ensured_bind step f (of_decide_eq_true haccepts)
    exact hensured ▸ hf

theorem setsUp_setUpUser {name : String} {f : Unit → Procedure EngineError Unit}
    (hf : SetsUp server commands (f ())) :
    SetsUp server (.addUser name true :: .grantRole name name :: commands)
      (setUpUser server administrator name >>= f) := by
  let grant : Unit → Procedure EngineError Unit := fun _ => Procedure.call .grantingRole
    (Activity.request (.serve server administrator (.grantRole name name)))
  have hgrant : SetsUp server (.grantRole name name :: commands) (grant () >>= f) :=
    setsUp_call (fun _ => rfl) (fun _ => rfl) fun _ => hf
  refine ⟨_, rfl, ?_⟩
  intro reply haccepts
  refine ⟨nofun, fun _ => ?_⟩
  cases reply with
  | ok r => exact hgrant
  | error e =>
    have hensured := ensured_bind .addingUser grant (of_decide_eq_true haccepts)
    rw [← hensured] at hgrant
    exact hgrant

theorem setsUp_setUpAuth (server : ServerHandle) :
    SetsUp server setUpCommands (setUpAuth server administrator) := by
  refine ⟨_, rfl, ?_⟩
  intro reply haccepts
  cases reply with
  | error e => cases haccepts
  | ok on =>
    refine ⟨fun hon => ?_, fun hoff => ?_⟩
    · cases on with
      | true => rfl
      | false => cases hon
    · cases on with
      | true => cases hoff
      | false =>
        refine setsUp_addRole ?_
        refine setsUp_call (fun _ => rfl) (fun _ => rfl) fun _ => ?_
        refine setsUp_setUpUser ?_
        refine setsUp_setUpUser ?_
        refine ⟨_, rfl, ?_⟩
        intro reply haccepts
        refine ⟨nofun, fun _ => ?_⟩
        cases reply with
        | ok r => rfl
        | error e => cases haccepts

/-- An attempt to set up access control. -/
structure SetUpAttempt where
  server : ServerHandle
  /-- How many of its requests have been answered. -/
  answered : Nat := 0
  rest : Procedure EngineError Unit

namespace SetUpAttempt

/-- An attempt that begins. -/
def start (server : ServerHandle) : SetUpAttempt :=
  { server, rest := setUpAuth server administrator }

/-- Answers the request that the attempt waits for, if it waits for one. -/
def request? (attempt : SetUpAttempt) (net : Network) (now : Instant) :
    Option (Network × SetUpAttempt) :=
  match attempt.rest.run with
  | .ask (.serve server user command) _ _ next =>
    let (net, reply) := net.serve now server.id user command
    some (net, { attempt with
      answered := attempt.answered + 1
      rest := ExceptT.mk (next (.reply reply)) })
  | _ => none

/-- While the rights are at a stage, the attempt can have got this far: it is not ahead of them, and
    if it is done then so are they. -/
def Fits (n : Nat) (attempt : SetUpAttempt) : Prop :=
  (attempt.answered ≤ n ∧ attempt.answered < 8 ∧
    SetsUp attempt.server (setUpCommands.drop attempt.answered) attempt.rest) ∨
  (n = 8 ∧ attempt.rest = pure ())

end SetUpAttempt

/-- The time, the network and the attempts. -/
structure SetUp where
  now : Instant
  network : Network
  attempts : List SetUpAttempt

namespace SetUp

/-- Answers the next request of an attempt whose server runs in the cluster. -/
def request? (k : ClusterId) (w : SetUp) (i : Nat) : Option SetUp := do
  let attempt ← w.attempts[i]?
  let _ ← w.network.limitAt? attempt.server.id k
  let (network, attempt) ← attempt.request? w.network w.now
  return { w with network, attempts := w.attempts.set i attempt }

/-- One thing that happens. Others may do anything but change the rights in the cluster. -/
inductive Step (k : ClusterId) : SetUp → SetUp → Prop
  | wait {w : SetUp} {instant : Instant} (h : w.now ≤ instant) :
    Step k w { w with now := instant }
  | start (w : SetUp) (server : ServerHandle) :
    Step k w { w with attempts := w.attempts ++ [.start server] }
  | request {w w' : SetUp} {i : Nat} (h : w.request? k i = some w') : Step k w w'
  | others {w : SetUp} {network : Network} {c c' : Cluster}
    (hc : w.network.clusters[k]? = some c) (hc' : network.clusters[k]? = some c')
    (haccess : c'.access = c.access) : Step k w { w with network }

/-- The rights in the cluster are at a stage, and all attempts fit to it. -/
structure AtStage (k : ClusterId) (w : SetUp) (n : Nat) : Prop where
  le_eight : n ≤ 8
  access_eq : ∃ c, w.network.clusters[k]? = some c ∧ c.access = .stage n
  fits : ∀ attempt ∈ w.attempts, attempt.Fits n

end SetUp

section Steps

variable {k : ClusterId} {w w' : SetUp} {attempt attempt' : SetUpAttempt} {net net' : Network}
  {c : Cluster} {now : Instant} {i n n' : Nat}

theorem SetUpAttempt.Fits.mono (h : attempt.Fits n) (hle : n ≤ n') (hn' : n' ≤ 8) :
    attempt.Fits n' := by
  rcases h with ⟨hanswered, hlt, hrest⟩ | ⟨rfl, hdone⟩
  · exact .inl ⟨Nat.le_trans hanswered hle, hlt, hrest⟩
  · exact .inr ⟨Nat.le_antisymm hn' hle, hdone⟩

theorem SetUpAttempt.fits_start (server : ServerHandle) (n : Nat) : (start server).Fits n :=
  .inl ⟨Nat.zero_le n, Nat.zero_lt_succ 7, setsUp_setUpAuth server⟩

/-- Only a cluster whose checks are on tells so. -/
theorem Cluster.enabled_of_tellsOn {user : String} {limit : Nat} {command : Command}
    (h : c.access.Trusts user)
    (htells : command.tellsOn (c.serve user now limit command).1 = true) :
    c.access.enabled = true := by
  cases command with
  | authStatus =>
    rw [Cluster.serve_authStatus_of_trusts h] at htells
    exact htells
  | _ => cases htells

/-- An attempt that is not done waits for the answer to the next of its requests. -/
theorem SetUpAttempt.Fits.awaits (h : attempt.Fits n) :
    attempt.rest = pure () ∨ ∃ command next, attempt.answered < 8 ∧ attempt.answered ≤ n ∧
      setUpCommands[attempt.answered]? = some command ∧
      attempt.rest =
        ExceptT.mk (.ask (.serve attempt.server administrator command) none false next) ∧
      ∀ reply, command.Accepts reply →
        (command.tellsOn reply = true → next (.reply reply) = (pure () : Procedure _ _)) ∧
        (command.tellsOn reply = false → SetsUp attempt.server
          (setUpCommands.drop (attempt.answered + 1)) (next (.reply reply))) := by
  rcases h with ⟨hanswered, hlt, hrest⟩ | ⟨-, hdone⟩
  · have hlength : attempt.answered < setUpCommands.length := hlt
    rw [List.drop_eq_getElem_cons hlength] at hrest
    obtain ⟨next, hask, hnext⟩ := hrest
    exact .inr ⟨_, next, hlt, hanswered, List.getElem?_eq_getElem hlength, hask, hnext⟩
  · exact .inl hdone

/-- An attempt that is done asks for nothing, and so the rights are complete. -/
theorem SetUpAttempt.Fits.stage_eq (h : attempt.Fits n) (hdone : attempt.rest = pure ()) :
    n = 8 := by
  rcases h with ⟨-, hlt, hrest⟩ | ⟨rfl, -⟩
  · have hlength : attempt.answered < setUpCommands.length := hlt
    rw [hdone, List.drop_eq_getElem_cons hlength] at hrest
    obtain ⟨next, hask, -⟩ := hrest
    cases hask
  · rfl

theorem SetUpAttempt.Fits.done (h : attempt.Fits n) (hanswered : 8 ≤ attempt.answered) :
    n = 8 ∧ attempt.rest = pure () := by
  rcases h with ⟨-, hlt, -⟩ | hdone
  · exact absurd hlt (Nat.not_lt.2 hanswered)
  · exact hdone

theorem SetUpAttempt.Fits.progress (h : attempt.Fits n) (net : Network) (now : Instant) :
    attempt.rest = pure () ∨ (attempt.answered < 8 ∧ ∃ net' attempt',
      attempt.request? net now = some (net', attempt') ∧
        attempt'.answered = attempt.answered + 1) := by
  rcases h.awaits with hdone | ⟨command, next, hlt, -, -, hask, -⟩
  · exact .inl hdone
  · refine .inr ⟨hlt, ?_⟩
    rw [request?, hask]
    exact ⟨_, _, rfl, rfl⟩

/-- An answer leads the rights to the stage that the attempt asked for, if they were not there yet,
    and the attempt to what it asks for next. -/
theorem SetUpAttempt.Fits.request (h : attempt.Fits n) (hn : n ≤ 8)
    (hserver : (net.limitAt? attempt.server.id k).isSome) (hc : net.clusters[k]? = some c)
    (haccess : c.access = .stage n) (hrequest : attempt.request? net now = some (net', attempt')) :
    ∃ n', n ≤ n' ∧ n' ≤ 8 ∧ attempt'.Fits n' ∧
      ∃ c', net'.clusters[k]? = some c' ∧ c'.access = .stage n' := by
  obtain ⟨limit, hlimit⟩ := Option.isSome_iff_exists.1 hserver
  rcases h.awaits with hdone | ⟨command, next, hlt, hle, hcommand, hask, hnext⟩
  · rw [request?, hdone] at hrequest
    cases hrequest
  · have htrusts : c.access.Trusts administrator := by
      rw [haccess]
      exact AccessControl.trusts_stage hn
    have hconcerns : command.concernsAccess := by
      have hall : ∀ command ∈ setUpCommands, command.concernsAccess := by decide
      exact hall command (List.mem_of_getElem? hcommand)
    have hproceed : c.access.proceed? command =
        some (.stage (max n (attempt.answered + 1))) := by
      rw [haccess]
      exact AccessControl.proceed?_stage hn hle hcommand
    obtain ⟨haccepts, hafter⟩ :=
      Cluster.serve_of_proceed? htrusts hconcerns hproceed now limit
    obtain ⟨hon, hoff⟩ := hnext _ haccepts
    rw [request?, hask] at hrequest
    dsimp only [ExceptT.run_mk] at hrequest
    rw [Network.serve_of_limitAt? hlimit hc] at hrequest
    cases hrequest
    have hbound : max n (attempt.answered + 1) ≤ 8 := by omega
    refine ⟨max n (attempt.answered + 1), Nat.le_max_left _ _, hbound, ?_, _,
      Network.clusters_setCluster hc _, hafter⟩
    cases htells : command.tellsOn (c.serve administrator now limit command).1 with
    | true =>
      -- the checks are switched on last
      have henabled := Cluster.enabled_of_tellsOn htrusts htells
      rw [haccess, AccessControl.enabled_stage hn, decide_eq_true_iff] at henabled
      exact .inr ⟨by omega, hon htells⟩
    | false =>
      have hrest := hoff htells
      by_cases hlast : attempt.answered + 1 = 8
      · rw [hlast] at hrest
        exact .inr ⟨by omega, hrest⟩
      · exact .inl ⟨Nat.le_max_right _ _, by dsimp only; omega, hrest⟩

theorem SetUp.request?_eq_some (h : w.request? k i = some w') :
    ∃ attempt network attempt', w.attempts[i]? = some attempt ∧
      (w.network.limitAt? attempt.server.id k).isSome ∧
      attempt.request? w.network w.now = some (network, attempt') ∧
      w' = { w with network, attempts := w.attempts.set i attempt' } := by
  obtain ⟨attempt, hattempt, h⟩ := Option.bind_eq_some_iff.1 h
  obtain ⟨limit, hlimit, h⟩ := Option.bind_eq_some_iff.1 h
  obtain ⟨⟨network, attempt'⟩, hrequest, h⟩ := Option.bind_eq_some_iff.1 h
  cases h
  exact ⟨attempt, network, attempt', hattempt, Option.isSome_of_mem hlimit, hrequest, rfl⟩

/-- An attempt that is not done gets on, and it is done after eight answers at the latest. -/
theorem SetUp.AtStage.progress (h : w.AtStage k n) (hattempt : w.attempts[i]? = some attempt)
    (hserver : (w.network.limitAt? attempt.server.id k).isSome) :
    attempt.rest = pure () ∨ (attempt.answered < 8 ∧ ∃ w' attempt', w.request? k i = some w' ∧
      w'.attempts[i]? = some attempt' ∧ attempt'.answered = attempt.answered + 1) := by
  obtain ⟨limit, hlimit⟩ := Option.isSome_iff_exists.1 hserver
  rcases (h.fits attempt (List.mem_of_getElem? hattempt)).progress w.network w.now with
    hdone | ⟨hlt, network, attempt', hrequest, hanswered⟩
  · exact .inl hdone
  · have hstep : w.request? k i =
        some { w with network, attempts := w.attempts.set i attempt' } := by
      simp only [request?, hattempt, hlimit, hrequest, Option.bind_eq_bind, Option.bind_some,
        Option.pure_def]
    have hbound : i < w.attempts.length := (List.getElem?_eq_some_iff.1 hattempt).1
    exact .inr ⟨hlt, _, attempt', hstep, List.getElem?_set_self hbound, hanswered⟩

/-- The rights never fall back to an earlier stage. -/
theorem SetUp.Step.atStage (hstep : Step k w w') (h : w.AtStage k n) :
    ∃ n', n ≤ n' ∧ w'.AtStage k n' := by
  obtain ⟨c, hc, haccess⟩ := h.access_eq
  cases hstep with
  | wait hle => exact ⟨n, Nat.le_refl n, h.le_eight, ⟨c, hc, haccess⟩, h.fits⟩
  | start server =>
    refine ⟨n, Nat.le_refl n, h.le_eight, ⟨c, hc, haccess⟩, ?_⟩
    intro attempt hattempt
    rcases List.mem_append.1 hattempt with hold | hnew
    · exact h.fits attempt hold
    · rw [List.mem_singleton.1 hnew]
      exact SetUpAttempt.fits_start server n
  | request hrequest =>
    obtain ⟨attempt, network, attempt', hattempt, hserver, hanswer, rfl⟩ :=
      request?_eq_some hrequest
    obtain ⟨n', hle, hn', hfits, hafter⟩ := (h.fits attempt (List.mem_of_getElem? hattempt)).request
      h.le_eight hserver hc haccess hanswer
    refine ⟨n', hle, hn', hafter, ?_⟩
    intro other hother
    rcases List.mem_or_eq_of_mem_set hother with hold | rfl
    · exact (h.fits other hold).mono hle hn'
    · exact hfits
  | others hc' hnetwork hsame =>
    rw [hc] at hc'
    cases hc'
    exact ⟨n, Nat.le_refl n, h.le_eight, ⟨_, hnetwork, hsame.trans haccess⟩, h.fits⟩

theorem SetUp.atStage_of_run (hrun : Relation.ReflTransGen (Step k) w w') (h : w.AtStage k n) :
    ∃ n', n ≤ n' ∧ w'.AtStage k n' := by
  induction hrun with
  | refl => exact ⟨n, Nat.le_refl n, h⟩
  | tail _ hstep ih =>
    obtain ⟨mid, hle, hmid⟩ := ih
    obtain ⟨n', hle', hlast⟩ := hstep.atStage hmid
    exact ⟨n', Nat.le_trans hle hle', hlast⟩

end Steps

/-! ## The rights in the end -/

namespace Cluster

variable {c : Cluster} {user : String}

/-- Whoever is no administrator is refused all changes of users and roles. -/
theorem serve_of_administers {e : EngineError} {command : Command}
    (he : c.access.authorizeAdministrator user = .error e) (hcommand : command.administers)
    (now : Instant) (limit : Nat) :
    c.serve user now limit command = (.error e, c.expire now) := by
  have herror : (c.expire now).access.authorizeAdministrator user = .error e := he
  apply serve_of_handle_eq_error
  cases command with
  | addRole | grantPermission | addUser | grantRole =>
    show plain ((c.expire now).administer user _) = _
    rw [administer_of_error herror]
    rfl
  | _ => cases hcommand

/-- Whoever is known may switch the checks on when they are on. It does nothing. -/
theorem serve_enableAuth_of_enabled (hon : c.access.enabled)
    (hknown : c.access.authenticate user = .ok ()) (now : Instant) (limit : Nat) :
    c.serve user now limit .enableAuth = (.ok (), c.expire now) := by
  apply serve_of_handle_eq_ok
  have henable : (c.expire now).enableAuth user =
      (c.access.authenticate user).map fun _ => c.expire now := enableAuth_of_enabled hon
  rw [hknown] at henable
  show plain ((c.expire now).enableAuth user) = _
  rw [henable]
  rfl

/-- The client may read what begins like a secret and write nothing. It is refused every change of users
    and roles and every request on the registry, but not to switch on the checks, which are on. -/
structure RestrictsClient (c : Cluster) : Prop where
  reads : ∀ key, c.access.authorizeKey clientPrincipal .read key = .ok () ↔
    Bytes.ofString secretPrefix <+: key
  writes : ∀ key, c.access.authorizeKey clientPrincipal .write key ≠ .ok ()
  administers : ∀ now limit (command : Command), command.administers →
    c.serve clientPrincipal now limit command =
      (.error (.permissionDenied (.notAdministrator clientPrincipal)), c.expire now)
  manages : ∀ now ids command, c.manage clientPrincipal now ids command =
    (.error (.permissionDenied (.notAdministrator clientPrincipal)), ids, c.expire now)
  /-- Once the checks are on, whoever is known may switch them on. It has no effect. -/
  enables : ∀ now limit,
    c.serve clientPrincipal now limit .enableAuth = (.ok (), c.expire now)

theorem restrictsClient_of_complete (h : c.access = .complete) : c.RestrictsClient := by
  have hrefused : c.access.authorizeAdministrator clientPrincipal =
      .error (.permissionDenied (.notAdministrator clientPrincipal)) := by
    rw [h]
    exact AccessControl.authorizeAdministrator_complete
  have hknown : c.access.authenticate clientPrincipal = .ok () := by
    rw [h]
    exact AccessControl.authenticate_complete
  have hon : c.access.enabled = true := by
    rw [h]
    rfl
  refine ⟨?_, ?_, ?_, ?_, ?_⟩
  · intro key
    rw [h]
    exact AccessControl.authorizeKey_read_complete
  · intro key
    rw [h]
    exact AccessControl.authorizeKey_write_complete
  · intro now limit command hcommand
    exact serve_of_administers hrefused hcommand now limit
  · intro now ids command
    have hexpired : (c.expire now).access.authorizeAdministrator clientPrincipal =
        .error (.permissionDenied (.notAdministrator clientPrincipal)) := hrefused
    rw [manage_eq_changeRegistry, changeRegistry_of_error hexpired]
  · intro now limit
    exact serve_enableAuth_of_enabled hon hknown now limit

end Cluster

namespace SetUp

variable {k : ClusterId} {w : SetUp} {net : Network} {c : Cluster}

/-- Setting up access control converges. Any number of attempts are made through the servers of a
    cluster in which nothing is set up yet, their requests mix in any order, and each may be given up
    after any of them. Then an attempt that is not done gets an answer after which it goes on, and
    eight answers are enough. Once one attempt is done the rights are complete, and nothing that any
    attempt does later changes them. The client may then read the secrets and write nothing. It is
    refused every change of users and roles and every request on the registry, and to switch on the
    checks, which is answered, changes nothing. -/
theorem setUpAuth_converges (hc : net.clusters[k]? = some c) (hfresh : c.access = {})
    (now : Instant)
    (hrun : Relation.ReflTransGen (Step k) { now, network := net, attempts := [] } w) :
    (∀ i attempt, w.attempts[i]? = some attempt →
      (w.network.limitAt? attempt.server.id k).isSome →
      attempt.rest = pure () ∨ (attempt.answered < 8 ∧ ∃ w' attempt', w.request? k i = some w' ∧
        w'.attempts[i]? = some attempt' ∧ attempt'.answered = attempt.answered + 1)) ∧
    ((∃ attempt ∈ w.attempts, attempt.rest = pure ()) →
      ∀ w', Relation.ReflTransGen (Step k) w w' →
        ∃ c', w'.network.clusters[k]? = some c' ∧ c'.access = .complete) ∧
    ∀ c' : Cluster, c'.access = .complete → c'.RestrictsClient := by
  have hstart : AtStage k { now, network := net, attempts := [] } 0 := by
    refine ⟨Nat.zero_le 8, ⟨c, hc, hfresh⟩, ?_⟩
    intro attempt hattempt
    cases hattempt
  obtain ⟨n, -, hw⟩ := atStage_of_run hrun hstart
  refine ⟨?_, ?_, fun c' => Cluster.restrictsClient_of_complete⟩
  · intro i attempt hattempt hserver
    exact hw.progress hattempt hserver
  · rintro ⟨attempt, hattempt, hdone⟩ w' hrun'
    have hlast : n = 8 := (hw.fits attempt hattempt).stage_eq hdone
    obtain ⟨n', hle, hw'⟩ := atStage_of_run hrun' hw
    have hstage : n' = 8 := Nat.le_antisymm hw'.le_eight (hlast ▸ hle)
    obtain ⟨c', hc', haccess⟩ := hw'.access_eq
    rw [hstage, AccessControl.stage_eight] at haccess
    exact ⟨c', hc', haccess⟩

/-- Answers requests of attempts in an order. -/
def requestAll? (k : ClusterId) (w : SetUp) : List Nat → Option SetUp
  | [] => some w
  | i :: order => (w.request? k i).bind fun w' => w'.requestAll? k order

theorem run_of_requestAll? {w' : SetUp} {order : List Nat} (h : w.requestAll? k order = some w') :
    Relation.ReflTransGen (Step k) w w' := by
  induction order generalizing w with
  | nil =>
    cases h
    exact .refl
  | cons i order ih =>
    obtain ⟨mid, hrequest, hrest⟩ := Option.bind_eq_some_iff.1 h
    exact .head (.request hrequest) (ih hrest)

/-- Two attempts on a server that runs alone, with nothing set up before. -/
def two : SetUp where
  now := 0
  network :=
    { nodes := [{ config := { name := "a", dataDir := "a" }, attachment := some ⟨0, 1⟩ }]
      clusters := [Cluster.founded []]
      ids := { draw := id } }
  attempts := [.start ⟨0, "a"⟩, .start ⟨0, "a"⟩]

theorem atStage_two : two.AtStage 0 0 := by
  refine ⟨Nat.zero_le 8, ⟨_, rfl, rfl⟩, ?_⟩
  have hfits : SetUpAttempt.Fits 0 (.start ⟨0, "a"⟩) := SetUpAttempt.fits_start _ 0
  exact List.forall_mem_cons.2 ⟨hfits, List.forall_mem_singleton.2 hfits⟩

/-- Not all that is for administrators is refused. An attempt goes through, and when the client then
    asks for the checks to be switched on, the answer is that they are. -/
theorem client_switches_checks_on : ∃ w attempt c,
    two.requestAll? 0 (List.replicate 8 0) = some w ∧ w.attempts[0]? = some attempt ∧
      attempt.rest = pure () ∧ w.network.clusters[0]? = some c ∧ c.access = .complete ∧
      (w.network.serve 0 0 clientPrincipal .enableAuth).2 = .ok () := by
  have hplay : ((two.requestAll? 0 (List.replicate 8 0)).bind fun w =>
      w.attempts[0]?.map fun attempt => (attempt.answered, w.network.limitAt? 0 0)) =
        some (8, some 128) := by
    decide +kernel
  obtain ⟨w, hw, hfirst⟩ := Option.bind_eq_some_iff.1 hplay
  obtain ⟨attempt, hattempt, heq⟩ := Option.map_eq_some_iff.1 hfirst
  obtain ⟨hanswered, hlimit⟩ := Prod.mk.inj heq
  obtain ⟨n, -, hstage⟩ := atStage_of_run (run_of_requestAll? hw) atStage_two
  obtain ⟨rfl, hdone⟩ :=
    (hstage.fits attempt (List.mem_of_getElem? hattempt)).done (Nat.le_of_eq hanswered.symm)
  obtain ⟨c, hc, haccess⟩ := hstage.access_eq
  rw [AccessControl.stage_eight] at haccess
  have hclient := (Cluster.restrictsClient_of_complete haccess).enables 0 128
  refine ⟨w, attempt, c, hw, hattempt, hdone, hc, haccess, ?_⟩
  rw [Network.serve_of_limitAt? hlimit hc, hclient]

/-- Two attempts mix, and the first is given up halfway. The second is done all the same. -/
theorem setUpAuth_converges_one_given_up : ∃ w c,
    two.requestAll? 0 [0, 1, 1, 0, 0, 1, 1, 1, 0, 1, 1, 1] = some w ∧
      w.network.clusters[0]? = some c ∧ c.access = .complete ∧ c.RestrictsClient := by
  have hplay : ((two.requestAll? 0 [0, 1, 1, 0, 0, 1, 1, 1, 0, 1, 1, 1]).bind fun w =>
      w.attempts[1]?.map fun attempt =>
        (attempt.answered, (w.network.limitAt? attempt.server.id 0).isSome)) = some (8, true) := by
    decide +kernel
  obtain ⟨w, hw, hsecond⟩ := Option.bind_eq_some_iff.1 hplay
  obtain ⟨attempt, hattempt, heq⟩ := Option.map_eq_some_iff.1 hsecond
  obtain ⟨hanswered, hserver⟩ := Prod.mk.inj heq
  have hbegin : Relation.ReflTransGen (Step 0) { two with attempts := [] } two :=
    .tail (.tail .refl (.start _ ⟨0, "a"⟩)) (.start _ ⟨0, "a"⟩)
  have hrun := hbegin.trans (run_of_requestAll? hw)
  obtain ⟨hprogress, hcomplete, hrestricts⟩ :=
    setUpAuth_converges (k := 0) (c := Cluster.founded []) rfl rfl 0 hrun
  have hdone : attempt.rest = pure () := by
    rcases hprogress 1 attempt hattempt hserver with hdone | ⟨hlt, -⟩
    · exact hdone
    · omega
  obtain ⟨c, hc, haccess⟩ := hcomplete ⟨attempt, List.mem_of_getElem? hattempt, hdone⟩ w .refl
  exact ⟨w, c, hw, hc, haccess, hrestricts c haccess⟩

end SetUp

end ClusterVault
