import ClusterVault.Proofs.Node.Peers
import ClusterVault.Proofs.Node.Waiting

/-!
# Acquiring a store

A node that acquires a store makes one attempt after the other. A failure to join is the only one that
does not end this: after it the bootstrapper founds a cluster, and a follower tries again at its next
tick.

## Main definitions

- `Procedure.NeverFailsToJoin`, `Attempt.FailsToJoin`: what is a failure to join, and what is none
- `Attempt.EndIn`: attempts up to the first that does not fail to join
- `Attempt.due`, `Attempt.AtTicks`: when the attempts of a follower begin
- `Launcher.Tries`: the attempts of a node that acquires a store

## Main statements

- `Launcher.neverFailsToJoin_bootstrap`: whoever founds a cluster does not fail to join one
- `Polls.ends`, `Attempt.AtTicks.polls`: which attempts make up a wait
- `Launcher.acquire_returns_first_other`: acquiring a store ends with the first attempt that does not
  fail to join

## Design notes

A follower that waits takes every failure for one to join. An attempt whose server has started but
does not become usable fails otherwise, and only the first attempt of a node tells the two apart. So
it is supposed of a waiting follower that its attempts do not fail otherwise.
-/

namespace ClusterVault

variable {ε α β : Type}

/-! ## Failures of a procedure -/

/-- Whatever a procedure is answered, it does not fail to join. -/
def Procedure.NeverFailsToJoin (q : Procedure ε α) : Prop :=
  q.Follows .free (fun _ => True) (fun _ _ => True) (fun _ e => ∀ cause, e ≠ .join cause) ()

/-- A procedure that never fails to join does not yield such a failure. -/
theorem Procedure.NeverFailsToJoin.ne_join {q : Procedure ε α} {log : List (Answered ε)}
    {e : NodeError ε} (h : q.NeverFailsToJoin) (hyields : Activity.Yields q.run log (.error e)) :
    ∀ cause, e ≠ .join cause := by
  obtain ⟨_, hend⟩ := Activity.Follows.of_yields (Procedure.Follows.run h) hyields
  exact hend

section NeverFailsToJoin

open Procedure

theorem neverFailsToJoin_bind {q : Procedure ε β} {f : β → Procedure ε α} (h : q.NeverFailsToJoin)
    (hf : ∀ x, (f x).NeverFailsToJoin) : (q >>= f).NeverFailsToJoin :=
  follows_bind _ h fun _ x _ => hf x

theorem neverFailsToJoin_pure (x : α) : (pure x : Procedure ε α).NeverFailsToJoin :=
  follows_pure trivial

theorem neverFailsToJoin_ofActivity (a : Activity ε α) : (ofActivity a).NeverFailsToJoin :=
  follows_ofActivity (Activity.follows_free (fun _ => trivial) a)

theorem neverFailsToJoin_uncancelled (a : Activity ε α) : (uncancelled a).NeverFailsToJoin :=
  follows_uncancelled (Activity.follows_free (fun _ => trivial) a) fun _ _ => nofun

theorem neverFailsToJoin_call (step : NodeStep) (answer : Activity ε (Except ε α)) :
    (call step answer).NeverFailsToJoin := by
  refine neverFailsToJoin_bind (neverFailsToJoin_ofActivity _) fun reply => ?_
  cases reply with
  | error e => exact follows_throw nofun
  | ok x => exact neverFailsToJoin_pure x

variable [EngineFault ε]

theorem neverFailsToJoin_ensureAdded (step : NodeStep) (answer : Activity ε (Except ε Unit)) :
    (ensureAdded step answer).NeverFailsToJoin := by
  refine neverFailsToJoin_bind (neverFailsToJoin_ofActivity _) fun reply => ?_
  cases reply with
  | ok _ => exact neverFailsToJoin_pure ()
  | error e =>
    dsimp only
    split
    · exact neverFailsToJoin_pure ()
    · exact follows_throw nofun

theorem neverFailsToJoin_setUpUser (server : ServerHandle) (user name : String) :
    (setUpUser server user name : Procedure ε Unit).NeverFailsToJoin :=
  neverFailsToJoin_bind (neverFailsToJoin_ensureAdded ..) fun _ => neverFailsToJoin_call ..

theorem neverFailsToJoin_setUpAuth (server : ServerHandle) (user : String) :
    (setUpAuth server user : Procedure ε Unit).NeverFailsToJoin := by
  refine neverFailsToJoin_bind (neverFailsToJoin_call ..) fun enabled => ?_
  cases enabled with
  | true => exact neverFailsToJoin_pure ()
  | false =>
    refine neverFailsToJoin_bind (neverFailsToJoin_ensureAdded ..) fun _ => ?_
    refine neverFailsToJoin_bind (neverFailsToJoin_call ..) fun _ => ?_
    refine neverFailsToJoin_bind (neverFailsToJoin_setUpUser ..) fun _ => ?_
    refine neverFailsToJoin_bind (neverFailsToJoin_setUpUser ..) fun _ => ?_
    exact neverFailsToJoin_call ..

namespace Launcher

theorem neverFailsToJoin_makeUsable (l : Launcher) (server : ServerHandle) :
    (l.makeUsable server : Procedure ε Unit).NeverFailsToJoin := by
  refine neverFailsToJoin_bind (neverFailsToJoin_uncancelled _) fun answer => ?_
  cases answer with
  | none => exact follows_throw nofun
  | some _ =>
    exact follows_bind _
      (follows_uncancelled (neverFailsToJoin_setUpAuth server l.user).run fun _ _ => nofun)
      fun _ _ hresult => follows_ofExcept hresult

/-- Whoever founds a cluster does not fail to join one. -/
theorem neverFailsToJoin_bootstrap (l : Launcher) :
    (l.launch .bootstrap : Procedure ε SecretStore).NeverFailsToJoin := by
  refine neverFailsToJoin_bind (follows_ofUrl (fun _ _ => trivial) fun _ => nofun) fun config => ?_
  refine neverFailsToJoin_bind ?_ fun server => neverFailsToJoin_bind ?_ fun _ =>
    neverFailsToJoin_pure _
  · refine neverFailsToJoin_bind (neverFailsToJoin_uncancelled _) fun reply => ?_
    cases reply with
    | ok server => exact neverFailsToJoin_pure server
    | error e => exact follows_throw nofun
  · exact follows_orElse _ (l.neverFailsToJoin_makeUsable server) fun _ _ he =>
      Activity.follows_free (fun _ => he) _

end Launcher

end NeverFailsToJoin

/-! ## Attempts -/

namespace Attempt

/-- The attempt has failed to join. -/
def FailsToJoin (a : Attempt ε α) : Prop := ∃ cause, a.outcome = .error (.join cause)

/-- The attempts succeed or fail to join. -/
def OnlyFailToJoin (attempts : List (Attempt ε α)) : Prop :=
  ∀ a ∈ attempts, ∀ e, a.outcome = .error e → a.FailsToJoin

/-- The last of the attempts is the first that does not fail to join. -/
def EndIn (attempts : List (Attempt ε α)) (last : Attempt ε α) : Prop :=
  ∃ before, attempts = before ++ [last] ∧ (∀ a ∈ before, a.FailsToJoin) ∧ ¬last.FailsToJoin

/-- When the next attempt of a follower begins, after those that it has made since its first tick was
    due: at its tick, or when the one before has ended if that is later. -/
def due (interval : Duration) : Instant → Instant → List (Attempt ε α) → Instant
  | tick, now, [] => max now tick
  | tick, _, a :: rest => due interval (nextTick interval tick a.start) a.finish rest

/-- The attempts of a follower begin when they are due. -/
def AtTicks (interval : Duration) : Instant → Instant → List (Attempt ε α) → Prop
  | _, _, [] => True
  | tick, now, a :: rest =>
    a.start = max now tick ∧ AtTicks interval (nextTick interval tick a.start) a.finish rest

end Attempt

section Polls

variable {ways : Way → Prop} {o : AcquireOptions} {attempt : Procedure ε α}
  {deadline tick now later : Instant} {result : Except (NodeError ε) α}
  {attempts before : List (Attempt ε α)} {last : Attempt ε α} {rounds : Nat}

/-- Whoever has got to its tick began when that was due. -/
theorem max_eq_of_tick_le (h : tick ≤ max now (min deadline tick)) :
    max now (min deadline tick) = max now tick := by
  delta Instant at *
  omega

theorem Polls.atTicks (h : Polls ways none o attempt deadline tick now attempts later result) :
    Attempt.AtTicks o.pollInterval tick now attempts := by
  induction h with
  | cancelled | gaveUp => trivial
  | last _ hstart htick =>
    exact ⟨hstart.trans (max_eq_of_tick_le (hstart ▸ htick)), trivial⟩
  | again _ hstart htick _ _ _ _ _ ih =>
    exact ⟨hstart.trans (max_eq_of_tick_le (hstart ▸ htick)), ih⟩

/-- A wait that nobody cancels ends with its last attempt, or it is given up after failures only. -/
theorem Polls.ends (h : Polls ways none o attempt deadline tick now attempts later result) :
    (∃ before last, attempts = before ++ [last] ∧ (∀ a ∈ before, ∃ e, a.outcome = .error e) ∧
      last.IsLast ∧ later = last.finish ∧ result = last.outcome) ∨
    (∀ a ∈ attempts, ∃ e, a.outcome = .error e) ∧
      deadline ≤ Attempt.due o.pollInterval tick now attempts ∧ deadline ≤ later ∧
      result = .error (.waitDeadline o.waitDeadline) := by
  induction h with
  | cancelled hcancel => cases hcancel
  | gaveUp _ hdeadline =>
    refine .inr ⟨nofun, Nat.le_trans hdeadline ?_, hdeadline, rfl⟩
    exact Nat.max_le.2 ⟨Nat.le_max_left .., Nat.le_trans (Nat.min_le_right ..) (Nat.le_max_right ..)⟩
  | last _ _ _ _ _ hlast => exact .inl ⟨[], _, rfl, nofun, hlast, rfl, rfl⟩
  | @again _ _ _ a _ _ _ _ _ _ _ _ hfails _ _ ih =>
    rcases ih with ⟨before, last, rfl, hbefore, hlast⟩ | ⟨hall, hend⟩
    · exact .inl ⟨a :: before, last, rfl, List.forall_mem_cons.2 ⟨⟨_, hfails⟩, hbefore⟩, hlast⟩
    · exact .inr ⟨List.forall_mem_cons.2 ⟨⟨_, hfails⟩, hall⟩, hend⟩

namespace Attempt.AtTicks

/-- No more attempts are due before a deadline than the bound allows. -/
theorem length_le (h : AtTicks o.pollInterval tick now attempts)
    (hstart : ∀ a ∈ attempts, a.start < deadline)
    (hrounds : deadline ≤ tick + rounds * o.pollInterval) : attempts.length ≤ rounds := by
  induction attempts generalizing tick now rounds with
  | nil => exact Nat.zero_le _
  | cons a rest ih =>
    obtain ⟨hdue, hrest⟩ := h
    rw [List.forall_mem_cons] at hstart
    have htick : tick ≤ a.start := hdue ▸ Nat.le_max_right ..
    cases rounds with
    | zero =>
      rw [Nat.zero_mul] at hrounds
      exact absurd (Nat.lt_of_le_of_lt htick hstart.1) (Nat.not_lt_of_le hrounds)
    | succ rounds =>
      exact Nat.succ_le_succ (ih hrest hstart.2 (deadline_le_nextTick htick hrounds))

/-- Attempts that begin when they are due, and before the deadline, make up a wait. -/
theorem polls (h : AtTicks o.pollInterval tick now (before ++ [last]))
    (hstart : ∀ a ∈ before ++ [last], a.start < deadline)
    (hmade : ∀ a ∈ before ++ [last], a.Made ways none attempt)
    (hbefore : ∀ a ∈ before, ∃ e, a.outcome = .error e ∧ e ≠ .cancelled) (hlast : last.IsLast) :
    Polls ways none o attempt deadline tick now (before ++ [last]) last.finish last.outcome := by
  have hdue {a : Attempt ε α} {tick now : Instant} (hdue : a.start = max now tick)
      (hlt : a.start < deadline) : a.start = max now (min deadline tick) ∧ tick ≤ a.start := by
    have htick : tick ≤ a.start := hdue ▸ Nat.le_max_right ..
    rw [Nat.min_eq_right (Nat.le_of_lt (Nat.lt_of_le_of_lt htick hlt))]
    exact ⟨hdue, htick⟩
  induction before generalizing tick now with
  | nil =>
    obtain ⟨hlastDue, htick⟩ := hdue h.1 (hstart last List.mem_cons_self)
    exact .last Activity.allows_none hlastDue htick
      (fun hle => absurd hle (Nat.not_le_of_lt (hstart last List.mem_cons_self)))
      (hmade last List.mem_cons_self) hlast
  | cons a before ih =>
    rw [List.cons_append, List.forall_mem_cons] at hstart hmade
    rw [List.forall_mem_cons] at hbefore
    obtain ⟨e, hfails, he⟩ := hbefore.1
    obtain ⟨haDue, htick⟩ := hdue h.1 hstart.1
    exact .again Activity.allows_none haDue htick
      (fun hle => absurd hle (Nat.not_le_of_lt hstart.1)) hmade.1 hfails he
      (ih h.2 hstart.2 hmade.2 hbefore.2)

end Attempt.AtTicks

end Polls

namespace Launcher

variable [EngineFault ε] {l : Launcher} {o : AcquireOptions} {start finish : Instant}
  {log : List (Answered ε)} {result : Except (NodeError ε) SecretStore}
  {first : Attempt ε SecretStore} {later : List (Attempt ε SecretStore)}

/-- What a node does after its first attempt has failed to join. -/
def goOn (l : Launcher) (o : AcquireOptions) : Procedure ε SecretStore :=
  match o.role with
  | .bootstrapper => l.launch .bootstrap
  | .follower => waitForCluster o o.maxRounds (l.launch .join)

/-- The attempts of a node that acquires a store, if nobody cancels it. The first one is to join.
    After it the bootstrapper may make one to found a cluster, and a follower may make others to join,
    at its ticks. -/
def Tries (l : Launcher) (o : AcquireOptions) (start : Instant) (first : Attempt ε SecretStore)
    (later : List (Attempt ε SecretStore)) : Prop :=
  first.start = start ∧ first.Made (fun _ => True) none (l.launch .join) ∧
    match o.role with
    | .bootstrapper => later.length ≤ 1 ∧
      ∀ a ∈ later, a.start = first.finish ∧ a.Made (fun _ => True) none (l.launch .bootstrap)
    | .follower =>
      Attempt.AtTicks o.pollInterval (first.finish + o.pollInterval) first.finish later ∧
        ∀ a ∈ later, a.Made (fun _ => True) none (l.launch .join)

/-- Acquiring a store goes on after its first attempt only if that has failed to join. -/
theorem takes_acquire {ways : Way → Prop} {cancelAt : Option Instant} :
    Activity.Takes ways cancelAt (l.acquire o).run start log finish result ↔
      ∃ first : Attempt ε SecretStore, first.start = start ∧
        first.Made ways cancelAt (l.launch .join) ∧
        (¬first.FailsToJoin ∧ log = first.log ∧ finish = first.finish ∧ result = first.outcome ∨
          first.FailsToJoin ∧ ∃ rest, log = first.log ++ rest ∧
            Activity.Takes ways cancelAt (l.goOn o).run first.finish rest finish result) := by
  refine (@takes_recover ε SecretStore ways cancelAt (l.launch .join) start finish log result _
    (l.goOn o) (fun e => ∀ cause, e ≠ .join cause) (fun e he => ?_) fun e he => ?_).trans ?_
  · cases e with
    | join cause => exact absurd rfl (he cause)
    | _ => rfl
  · obtain ⟨cause, rfl⟩ : ∃ cause, e = .join cause := by simpa using he
    rfl
  · refine exists_congr fun first => and_congr_right fun _ => and_congr_right fun _ => ?_
    refine or_congr (and_congr_left fun _ => ?_) ⟨?_, ?_⟩
    · exact ⟨fun h ⟨cause, hcause⟩ => h _ hcause cause rfl, fun h e he cause hcause =>
        h ⟨cause, hcause ▸ he⟩⟩
    · rintro ⟨e, rest, hfails, he, hrest⟩
      obtain ⟨cause, rfl⟩ : ∃ cause, e = .join cause := by simpa using he
      exact ⟨⟨cause, hfails⟩, rest, hrest⟩
    · rintro ⟨⟨cause, hfails⟩, rest, hrest⟩
      exact ⟨_, rest, hfails, fun he => he cause rfl, hrest⟩

/-- An attempt to found a cluster does not fail to join. -/
theorem not_failsToJoin_of_bootstrap {ways : Way → Prop} {cancelAt : Option Instant}
    {a : Attempt ε SecretStore} (h : a.Made ways cancelAt (l.launch .bootstrap)) :
    ¬a.FailsToJoin := by
  rintro ⟨cause, hcause⟩
  have hyields : Activity.Yields (l.launch .bootstrap).run a.log (.error (.join cause)) :=
    hcause ▸ Activity.Takes.yields h
  exact l.neverFailsToJoin_bootstrap.ne_join hyields cause rfl

/-- Acquiring a store ends with the first attempt that does not fail to join. Take either role, any
    interval and any deadline, and let nobody cancel it. However it goes, the node makes one attempt
    after the other. They end with the first that does not fail to join, and with its outcome, or a
    follower has failed to join until its deadline and gives up. The other way round, attempts of the
    node that end like this are all that it makes if those of a follower begin before the deadline. It
    is supposed that a waiting follower does not fail but to join. -/
theorem acquire_returns_first_other (l : Launcher) {o : AcquireOptions} (hpoll : 0 < o.pollInterval)
    (start : Instant) :
    (∀ (log : List (Answered ε)) finish result,
      Activity.Takes (fun _ => True) none (l.acquire o).run start log finish result →
      ∃ (first : Attempt ε SecretStore) (later : List (Attempt ε SecretStore)),
        l.Tries o start first later ∧ log = (first :: later).flatMap (·.log) ∧
        ((o.role = .follower → Attempt.OnlyFailToJoin later) →
          (∃ last, Attempt.EndIn (first :: later) last ∧ finish = last.finish ∧
            result = last.outcome) ∨
          let deadline := first.finish + o.waitDeadline
          let tick := first.finish + o.pollInterval
          o.role = .follower ∧ (∀ a ∈ first :: later, a.FailsToJoin) ∧
            deadline ≤ Attempt.due o.pollInterval tick first.finish later ∧ deadline ≤ finish ∧
            result = .error (.waitDeadline o.waitDeadline))) ∧
    ∀ (first last : Attempt ε SecretStore) later, l.Tries o start first later →
      Attempt.EndIn (first :: later) last →
      (o.role = .follower → Attempt.OnlyFailToJoin later ∧
        ∀ a ∈ later, a.start < first.finish + o.waitDeadline) →
      Activity.Takes (fun _ => True) none (l.acquire o).run start
        ((first :: later).flatMap (·.log)) last.finish last.outcome := by
  have hbound (now : Instant) :
      now + o.waitDeadline ≤ now + o.pollInterval + o.maxRounds * o.pollInterval :=
    o.deadline_le_of_maxRounds_le hpoll (Nat.le_refl _) now
  constructor
  · intro log finish result h
    obtain ⟨first, hstart, hmade, ⟨hlast, rfl, rfl, rfl⟩ | ⟨hfails, rest, rfl, hrest⟩⟩ :=
      takes_acquire.1 h
    · refine ⟨first, [], ⟨hstart, hmade, ?_⟩, by simp, fun _ => .inl
        ⟨first, ⟨[], rfl, nofun, hlast⟩, rfl, rfl⟩⟩
      split
      · exact ⟨Nat.zero_le _, nofun⟩
      · exact ⟨trivial, nofun⟩
    cases hrole : o.role with
    | bootstrapper =>
      rw [goOn, hrole] at hrest
      have hlast : ¬(⟨first.finish, finish, rest, result⟩ : Attempt ε SecretStore).FailsToJoin :=
        not_failsToJoin_of_bootstrap hrest
      refine ⟨first, [⟨first.finish, finish, rest, result⟩], ⟨hstart, hmade, ?_⟩, by simp,
        fun _ => .inl ⟨_, ⟨[first], rfl, ?_, hlast⟩, rfl, rfl⟩⟩
      · rw [hrole]
        exact ⟨Nat.le_refl _, List.forall_mem_singleton.2 ⟨rfl, hrest⟩⟩
      · exact List.forall_mem_singleton.2 hfails
    | follower =>
      rw [goOn, hrole] at hrest
      obtain ⟨later, -, rfl, hpolls⟩ :=
        polls_of_takes (hbound _) ((takes_waitForCluster hpoll).1 hrest)
      refine ⟨first, later, ⟨hstart, hmade, ?_⟩, rfl, fun honly => ?_⟩
      · rw [hrole]
        exact ⟨hpolls.atTicks, hpolls.made⟩
      have hjoins {a : Attempt ε SecretStore} (ha : a ∈ later) (h : ∃ e, a.outcome = .error e) :
          a.FailsToJoin :=
        h.elim (honly rfl a ha)
      rcases hpolls.ends with ⟨before, last, rfl, hbefore, hlast, hend⟩ | ⟨hall, hdue, hend⟩
      · refine .inl ⟨last, ⟨first :: before, rfl, List.forall_mem_cons.2 ⟨hfails, fun a ha => ?_⟩,
          ?_⟩, hend⟩
        · exact hjoins (List.mem_append_left _ ha) (hbefore a ha)
        · rintro ⟨cause, hcause⟩
          cases hlast _ hcause
      · exact .inr ⟨rfl, List.forall_mem_cons.2 ⟨hfails, fun a ha => hjoins ha (hall a ha)⟩, hdue,
          hend⟩
  · rintro first last later ⟨hstart, hmade, htries⟩ ⟨before, hsplit, hbefore, hlast⟩ hfollower
    cases before with
    | nil =>
      obtain ⟨rfl, rfl⟩ := List.cons.inj hsplit
      exact takes_acquire.2 ⟨first, hstart, hmade, .inl ⟨hlast, by simp, rfl, rfl⟩⟩
    | cons _ before =>
      rw [List.cons_append] at hsplit
      obtain ⟨rfl, rfl⟩ := List.cons.inj hsplit
      rw [List.forall_mem_cons] at hbefore
      obtain ⟨hfails, hbefore⟩ := hbefore
      refine takes_acquire.2 ⟨first, hstart, hmade, .inr
        ⟨hfails, (before ++ [last]).flatMap (·.log), rfl, ?_⟩⟩
      rw [goOn]
      cases hrole : o.role with
      | bootstrapper =>
        rw [hrole] at htries
        obtain ⟨hlength, hfound⟩ := htries
        obtain rfl : before = [] := List.length_eq_zero_iff.1 (by simpa using hlength)
        obtain ⟨hlastStart, hlastMade⟩ := hfound last List.mem_cons_self
        rw [← hlastStart, List.nil_append, List.flatMap_singleton]
        exact hlastMade
      | follower =>
        rw [hrole] at htries
        obtain ⟨hticks, hlaterMade⟩ := htries
        obtain ⟨honly, hstarts⟩ := hfollower hrole
        have hends : last.IsLast := fun e he =>
          absurd (honly last (List.mem_append_right _ List.mem_cons_self) e he) hlast
        have hpolls := hticks.polls hstarts hlaterMade (fun a ha => ?_) hends
        · have hlength := hticks.length_le hstarts (hbound _)
          exact (takes_waitForCluster hpoll).2 (hpolls.takes trivial (hbound _) hlength)
        · obtain ⟨cause, hcause⟩ := hbefore a ha
          exact ⟨_, hcause, nofun⟩

end Launcher

/-! ## A trial -/

namespace Trial

open Procedure
open Activity (takes_request)

/-- What the node comes to whose server has started. -/
def arrived : SecretStore := ⟨⟨1, plain.nodeName 1⟩, administrator⟩

/-- A registry in which nobody is listed leaves the node with the peers that it infers. -/
theorem takes_repair (ways : Way → Prop) (now : Instant) :
    ∃ log peers, Activity.Takes ways none (repair lonely.options : Procedure EngineError _).run now
      log now (.ok peers) := by
  have hnobody : ∀ m ∈ ([] : List Member), m.Conforms plain := nofun
  obtain ⟨peers, hpeers, -⟩ := Repair.peersAfter_eq_ok asWritten_plain ordinal?_one
    (asWritten_plain.peerUrl isNode_one) hnobody 1
  let client : Connection := ⟨0, administrator⟩
  let entry : Member := ⟨1, "", [.https (plain.host (plain.nodeName 1)) ServiceNames.peerPort], []⟩
  have hcall {α : Type} {answer : Activity EngineError (Except EngineError α)}
      {log : List (Answered EngineError)} {x : α} (step : NodeStep)
      (h : answer.Takes ways none now log now (.ok x)) :
      Activity.Takes ways none (boundedCall step lonely.options.memberTimeout answer).run now log now
        (.ok x) :=
    takes_boundedCall step h (Nat.le_add_right ..)
  have hconnect (config : ClientConfig) :=
    hcall .connecting (takes_request (r := .connect config) (.ok client) now)
  have hlist := hcall .listingMembers (takes_request (r := .manage client .list) (.ok []) now)
  have hadd := hcall .addingMember
    (takes_request (r := .manage client (.add entry.peerUrls)) (.ok entry) now)
  have hread : Activity.Takes ways none (ofUrl (Repair.peersAfter plain 1
      ⟨plain.nodeName 1, .https (plain.host (plain.nodeName 1)) ServiceNames.peerPort, entry.id⟩
      []) : Procedure EngineError (List Peer)).run now [] now (.ok peers) := by
    rw [hpeers]
    exact .done ..
  rw [lonely, repair_launcher asWritten_plain ordinal?_one]
  exact ⟨_, peers, takes_andThen (hconnect _) (takes_andThen hlist (takes_andThen (.done ..)
    (takes_andThen hadd hread)))⟩

theorem takes_prepare (ways : Way → Prop) (now : Instant) :
    ∃ log config, Activity.Takes ways none (lonely.prepare .join : Procedure EngineError _).run now
      log now (.ok config) := by
  obtain ⟨log, peers, hrepair⟩ := takes_repair ways now
  obtain ⟨config, hconfig⟩ : ∃ config, lonely.options.serverConfig peers .existing = .ok config :=
    ⟨_, serverConfig_launcher asWritten_plain isNode_one "b" peers .existing⟩
  have hdiscover : Activity.Takes ways none (lonely.discover : Procedure EngineError _).run now
      (log ++ []) now (.ok peers) :=
    takes_andThen (takes_uncancelled (hrepair.timeout (Nat.le_add_right ..))) (.done ..)
  have hread : Activity.Takes ways none
      (ofUrl (lonely.options.serverConfig peers .existing) : Procedure EngineError _).run now [] now
      (.ok config) := by
    rw [hconfig]
    exact .done ..
  exact ⟨_, config, takes_tryCatch.2 (.inl ⟨config, rfl, takes_andThen hdiscover hread⟩)⟩

/-- Access control is on, or the node is refused to know. -/
theorem exists_takes_setUpAuth (ways : Way → Prop) (refusal : Option EngineError) (now : Instant) :
    ∃ log, Activity.Takes ways none (setUpAuth arrived.server administrator).run now log now
      (refusal.elim (.ok ()) fun e => .error (.engine .checkingAuth e)) := by
  cases refusal with
  | none =>
    exact ⟨_, takes_andThen (takes_call _
      (takes_request (r := .serve arrived.server administrator .authStatus) (.ok true) now))
      (.done ..)⟩
  | some e =>
    exact ⟨_, takes_bind.2 (.inl ⟨_, rfl, takes_call _
      (takes_request (r := .serve arrived.server administrator .authStatus) (.error e) now)⟩)⟩

/-- What comes of an attempt of the node whose server has started, if access control is on or the node
    is refused to know. -/
def outcome (refusal : Option EngineError) : Except (NodeError EngineError) SecretStore :=
  refusal.elim (.ok arrived) fun e => .error (.engine .checkingAuth e)

/-- There is such an attempt, at any time. -/
theorem exists_attempt (ways : Way → Prop) (refusal : Option EngineError) (now : Instant) :
    ∃ a : Attempt EngineError SecretStore, a.start = now ∧ a.finish = now ∧
      a.outcome = outcome refusal ∧ a.Made ways none (lonely.launch .join) := by
  obtain ⟨prepared, config, hprepare⟩ := takes_prepare ways now
  obtain ⟨started, hstart⟩ : ∃ log, Activity.Takes ways none
      (Launcher.startServer .join config : Procedure EngineError _).run now log now
      (.ok arrived.server) :=
    ⟨_, takes_andThen (takes_uncancelled
      (takes_request (r := .start config) (.ok arrived.server) now)) (.done ..)⟩
  obtain ⟨checked, hsetUp⟩ := exists_takes_setUpAuth ways refusal now
  obtain ⟨used, husable⟩ : ∃ log, Activity.Takes ways none
      (lonely.makeUsable arrived.server : Procedure EngineError Unit).run now log now
      (refusal.elim (.ok ()) fun e => .error (.engine .checkingAuth e)) := by
    have hready := @takes_request EngineError ways none (.ready arrived.server) () now
    exact ⟨_, takes_andThen (takes_uncancelled (hready.timeout (Nat.le_add_right ..)))
      (takes_andThen (takes_uncancelled hsetUp) (.done ..))⟩
  obtain ⟨closed, hused⟩ : ∃ log, Activity.Takes ways none
      ((lonely.makeUsable arrived.server).orElse (Activity.request (.close arrived.server)) :
        Procedure EngineError Unit).run now log now
      (refusal.elim (.ok ()) fun e => .error (.engine .checkingAuth e)) := by
    cases refusal with
    | none => exact ⟨_, takes_tryCatch.2 (.inl ⟨_, rfl, husable⟩)⟩
    | some e =>
      exact ⟨_, takes_tryCatch.2 (.inr ⟨_, _, _, _, rfl, husable, takes_andThen (takes_ofActivity
        (takes_request (r := .close arrived.server) () now)) (.done ..)⟩)⟩
  cases refusal with
  | none =>
    exact ⟨⟨now, now, _, _⟩, rfl, rfl, rfl,
      takes_andThen hprepare (takes_andThen hstart (takes_andThen hused (.done ..)))⟩
  | some e =>
    exact ⟨⟨now, now, _, _⟩, rfl, rfl, rfl,
      takes_andThen hprepare (takes_andThen hstart (takes_bind.2 (.inl ⟨_, rfl, hused⟩)))⟩

/-- A follower that takes its time. -/
def patient : AcquireOptions where
  role := .follower

theorem failsToJoin_hanging (start : Instant) : (hanging start).FailsToJoin := ⟨_, rfl⟩

theorem not_failsToJoin {a : Attempt EngineError SecretStore} {refusal : Option EngineError}
    (h : a.outcome = outcome refusal) : ¬a.FailsToJoin := by
  rintro ⟨cause, hcause⟩
  rw [h] at hcause
  cases refusal <;> cases hcause

end Trial

namespace Launcher

open Trial

/-- A follower whose first attempt fails to join comes to the outcome of its second one. -/
theorem acquire_returns_first_other_arrived : 0 < patient.pollInterval ∧
    ∃ (first second : Attempt EngineError SecretStore) (log : List (Answered EngineError)),
      lonely.Tries patient 0 first [second] ∧ Attempt.EndIn [first, second] second ∧
        Activity.Takes (fun _ => True) none (lonely.acquire patient).run 0 log 20000
          (.ok arrived) := by
  have hpoll : 0 < patient.pollInterval := by decide
  obtain ⟨second, hstart, hfinish, hok, hmade⟩ := exists_attempt (fun _ => True) none 20000
  have htries : lonely.Tries patient 0 (hanging 0) [second] :=
    ⟨rfl, made_hanging _ _, ⟨hstart, trivial⟩, List.forall_mem_singleton.2 hmade⟩
  have hend : Attempt.EndIn [hanging 0, second] second :=
    ⟨[hanging 0], rfl, List.forall_mem_singleton.2 (failsToJoin_hanging 0), not_failsToJoin hok⟩
  have honly : Attempt.OnlyFailToJoin [second] :=
    List.forall_mem_singleton.2 fun e he => nomatch hok.symm.trans he
  have hbefore : ∀ a ∈ [second], a.start < (hanging 0).finish + patient.waitDeadline :=
    List.forall_mem_singleton.2 (hstart ▸ by decide)
  obtain ⟨-, htakes⟩ := acquire_returns_first_other (ε := EngineError) lonely hpoll 0
  have hrun := htakes (hanging 0) second [second] htries hend fun _ => ⟨honly, hbefore⟩
  rw [hfinish, hok] at hrun
  exact ⟨hpoll, _, _, _, htries, hend, hrun⟩

/-- A follower that waits goes on after any failure. Here its first attempt fails to join, and its
    second one, long before the deadline, because the node is refused to know whether access control
    is on. It makes a third one and comes to the outcome of that. -/
theorem acquire_goes_on_after_other_failure :
    ∃ first second third : Attempt EngineError SecretStore,
      lonely.Tries patient 0 first [second, third] ∧ Attempt.EndIn [first, second] second ∧
        second.outcome = .error (.engine .checkingAuth (.permissionDenied (.unknownUser "root"))) ∧
        second.start = 20000 ∧ first.finish + patient.waitDeadline = 130000 ∧
        Activity.Takes (fun _ => True) none (lonely.acquire patient).run 0
          ([first, second, third].flatMap (·.log)) 30000 (.ok arrived) := by
  let denied : EngineError := .permissionDenied (.unknownUser "root")
  obtain ⟨second, hstart, hfinish, hdenied, hmade⟩ :=
    exists_attempt (fun _ => True) (some denied) 20000
  obtain ⟨third, hstart', hfinish', hok, hmade'⟩ := exists_attempt (fun _ => True) none 30000
  have hticks : Attempt.AtTicks patient.pollInterval 20000 10000 ([second] ++ [third]) := by
    refine ⟨hstart, ?_, trivial⟩
    rw [hstart, hfinish, hstart']
    decide
  have hmades : ∀ a ∈ [second] ++ [third], a.Made (fun _ => True) none (lonely.launch .join) :=
    List.forall_mem_cons.2 ⟨hmade, List.forall_mem_singleton.2 hmade'⟩
  have hend : Attempt.EndIn [hanging 0, second] second :=
    ⟨[hanging 0], rfl, List.forall_mem_singleton.2 (failsToJoin_hanging 0), not_failsToJoin hdenied⟩
  -- the wait takes the failure of the second attempt for one to join
  have hpolls : Polls (fun _ => True) none patient (lonely.launch .join) 130000 20000 10000
      ([second] ++ [third]) third.finish third.outcome := by
    refine hticks.polls (List.forall_mem_cons.2 ⟨?_, List.forall_mem_singleton.2 ?_⟩) hmades
      (List.forall_mem_singleton.2 ⟨_, hdenied, nofun⟩) fun e he => nomatch hok.symm.trans he
    · exact hstart ▸ by decide
    · exact hstart' ▸ by decide
  rw [hfinish', hok] at hpolls
  have hlength : 2 ≤ patient.maxRounds := by decide
  have hwait := (takes_waitForCluster (by decide)).2 (hpolls.takes trivial (by decide) hlength)
  refine ⟨hanging 0, second, third, ⟨rfl, made_hanging _ _, hticks, hmades⟩, hend, hdenied, hstart,
    rfl, ?_⟩
  exact takes_acquire.2 ⟨hanging 0, rfl, made_hanging _ _,
    .inr ⟨failsToJoin_hanging 0, _, rfl, hwait⟩⟩

end Launcher

end ClusterVault
