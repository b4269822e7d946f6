import ClusterVault.Proofs.Activity.Timed
import ClusterVault.Proofs.Node.Registration

/-!
# Waiting for a cluster

A follower tries to join at every tick until an attempt ends the wait or the deadline has passed.

## Main definitions

- `Attempt`, `Attempt.Made`: an attempt, and that a procedure makes it
- `Polls`: the attempts of a wait, one after the other

## Main statements

- `polls_of_takes`: a wait is made up of its attempts and of pauses
- `waitForCluster_gives_up_in_time`: when the attempts of a wait begin, and when it is given up

## Design notes

If the next attempt is due and the deadline has passed, either may count. What holds if it is always
the deadline is stated for activities that only go the second of two ways.
-/

namespace ClusterVault

open Activity (Allows)

variable {ε α : Type}

/-- An attempt at something, from its beginning to its end. -/
structure Attempt (ε α : Type) where
  start : Instant
  finish : Instant
  /-- What was answered on the way. -/
  log : List (Answered ε)
  outcome : Except (NodeError ε) α

namespace Attempt

/-- A procedure makes the attempt. -/
def Made (ways : Way → Prop) (cancelAt : Option Instant) (p : Procedure ε α) (a : Attempt ε α) :
    Prop :=
  Activity.Takes ways cancelAt p.run a.start a.log a.finish a.outcome

/-- The attempt ends a wait: it has succeeded or was cancelled. -/
def IsLast (a : Attempt ε α) : Prop := ∀ e, a.outcome = .error e → e = .cancelled

theorem Made.le {ways : Way → Prop} {cancelAt : Option Instant} {p : Procedure ε α}
    {a : Attempt ε α} (h : a.Made ways cancelAt p) : a.start ≤ a.finish :=
  Activity.Takes.le h

end Attempt

/-- The attempts of a wait with a deadline that goes on at an instant when the next attempt is due at
    `tick`, and the instant and the outcome of its end. At the first of the deadline and the tick it
    goes on with what it has got to. -/
inductive Polls (ways : Way → Prop) (cancelAt : Option Instant) (o : AcquireOptions)
    (attempt : Procedure ε α) (deadline : Instant) :
    Instant → Instant → List (Attempt ε α) → Instant → Except (NodeError ε) α → Prop
  | cancelled {tick now instant : Instant} (hcancel : instant ∈ cancelAt)
    (hle : max now instant ≤ max now (min deadline tick)) :
    Polls ways cancelAt o attempt deadline tick now [] (max now instant) (.error .cancelled)
  | gaveUp {tick now : Instant} (hallows : Allows cancelAt now (max now (min deadline tick)))
    (hdeadline : deadline ≤ max now (min deadline tick)) :
    Polls ways cancelAt o attempt deadline tick now [] (max now (min deadline tick))
      (.error (.waitDeadline o.waitDeadline))
  | last {tick now : Instant} {a : Attempt ε α}
    (hallows : Allows cancelAt now (max now (min deadline tick)))
    (hstart : a.start = max now (min deadline tick)) (htick : tick ≤ a.start)
    (hway : deadline ≤ a.start → ways .first) (hmade : a.Made ways cancelAt attempt)
    (hlast : a.IsLast) :
    Polls ways cancelAt o attempt deadline tick now [a] a.finish a.outcome
  | again {tick now later : Instant} {a : Attempt ε α} {rest : List (Attempt ε α)}
    {result : Except (NodeError ε) α} {e : NodeError ε}
    (hallows : Allows cancelAt now (max now (min deadline tick)))
    (hstart : a.start = max now (min deadline tick)) (htick : tick ≤ a.start)
    (hway : deadline ≤ a.start → ways .first) (hmade : a.Made ways cancelAt attempt)
    (hfails : a.outcome = .error e) (he : e ≠ .cancelled)
    (h : Polls ways cancelAt o attempt deadline (nextTick o.pollInterval tick a.start) a.finish rest
      later result) :
    Polls ways cancelAt o attempt deadline tick now (a :: rest) later result

variable {ways : Way → Prop} {cancelAt : Option Instant} {o : AcquireOptions}
  {attempt : Procedure ε α} {deadline tick now start later finish : Instant} {rounds : Nat}
  {log : List (Answered ε)} {result : Except (NodeError ε) α} {attempts : List (Attempt ε α)}

/-- Ticks are at least an interval apart. -/
theorem add_le_nextTick (hle : tick ≤ now) (interval : Duration) :
    tick + interval ≤ nextTick interval tick now := by
  rw [nextTick]
  split
  · exact Nat.add_le_add_right hle _
  · exact Nat.le_refl _

/-- Every attempt that is made leaves fewer that can still be due before the deadline. -/
theorem deadline_le_nextTick {interval : Duration} (htick : tick ≤ now)
    (hrounds : deadline ≤ tick + (rounds + 1) * interval) :
    deadline ≤ nextTick interval tick now + rounds * interval := by
  refine Nat.le_trans hrounds ?_
  rw [Nat.succ_mul, Nat.add_comm (rounds * interval), ← Nat.add_assoc]
  exact Nat.add_le_add_right (add_le_nextTick htick interval) _

/-- At the first of the deadline and the tick, one of them has come. -/
theorem deadline_le_of_not_tick_le (h : ¬tick ≤ max now (min deadline tick)) :
    deadline ≤ max now (min deadline tick) := by
  rcases Nat.le_total deadline tick with hle | hle
  · rw [Nat.min_eq_left hle]
    exact Nat.le_max_right ..
  · rw [Nat.min_eq_right hle] at h
    exact absurd (Nat.le_max_right ..) h

/-- What a follower does at the first of the deadline and the tick. -/
theorem takes_round : Activity.Takes ways cancelAt
    (attemptRounds o attempt deadline (rounds + 1) tick).run now log later result ↔
      (log = [] ∧ result = .error .cancelled ∧
        ∃ c ∈ cancelAt, later = max now c ∧ max now c ≤ max now (min deadline tick)) ∨
      ∃ t, t = max now (min deadline tick) ∧ Allows cancelAt now t ∧
        ((deadline ≤ t ∧ (tick ≤ t → ways .second) ∧ log = [] ∧ later = t ∧
            result = .error (.waitDeadline o.waitDeadline)) ∨
          tick ≤ t ∧ (deadline ≤ t → ways .first) ∧ Activity.Takes ways cancelAt
            (tryCatch attempt (unlessCancelled (attemptRounds o attempt deadline rounds
              (nextTick o.pollInterval tick t)))).run t log later result) := by
  rw [attemptRounds, Procedure.takes_pauseUntil]
  refine or_congr_right ⟨fun ⟨hallows, h⟩ => ⟨_, rfl, hallows, ?_⟩, ?_⟩
  · rw [Procedure.takes_now] at h
    dsimp only at h
    split at h
    · next htick =>
      split at h
      · next hdeadline =>
        cases h with
        | first hway h => exact .inr ⟨htick, fun _ => hway, h⟩
        | second hway h =>
          obtain ⟨rfl, rfl, rfl⟩ := Procedure.takes_throw.1 h
          exact .inl ⟨hdeadline, fun _ => hway, rfl, rfl, rfl⟩
      · next hdeadline => exact .inr ⟨htick, fun hle => absurd hle hdeadline, h⟩
    · next htick =>
      obtain ⟨rfl, rfl, rfl⟩ := Procedure.takes_throw.1 h
      exact .inl ⟨deadline_le_of_not_tick_le htick, fun hle => absurd hle htick, rfl, rfl, rfl⟩
  · rintro ⟨t, rfl, hallows, hnext⟩
    refine ⟨hallows, ?_⟩
    rw [Procedure.takes_now]
    dsimp only
    rcases hnext with ⟨hdeadline, hway, rfl, rfl, rfl⟩ | ⟨htick, hway, h⟩
    · have hgiveUp : Activity.Takes ways cancelAt (giveUp o.waitDeadline : Procedure ε α).run
          (max now (min deadline tick)) [] (max now (min deadline tick)) _ := .done ..
      split
      · next htick => exact .second (hway htick) hgiveUp
      · exact hgiveUp
    · rw [if_pos htick]
      split
      · next hdeadline => exact .first (hway hdeadline) h
      · exact h

/-- An attempt is made, and its failure is dealt with. Some failures are final, and after all others
    it goes on in the same way. -/
theorem takes_recover {handle : NodeError ε → Procedure ε α} {rest : Procedure ε α}
    {isFinal : NodeError ε → Prop} (hfinal : ∀ e, isFinal e → handle e = throw e)
    (hrest : ∀ e, ¬isFinal e → handle e = rest) :
    Activity.Takes ways cancelAt (tryCatch attempt handle).run now log later result ↔
      ∃ a : Attempt ε α, a.start = now ∧ a.Made ways cancelAt attempt ∧
        ((∀ e, a.outcome = .error e → isFinal e) ∧ log = a.log ∧ later = a.finish ∧
            result = a.outcome ∨
          ∃ e l, a.outcome = .error e ∧ ¬isFinal e ∧ log = a.log ++ l ∧
            Activity.Takes ways cancelAt rest.run a.finish l later result) := by
  rw [Procedure.takes_tryCatch]
  constructor
  · rintro (⟨x, rfl, hmade⟩ | ⟨l₁, l₂, mid, e, rfl, hmade, hgoes⟩)
    · exact ⟨⟨now, later, log, .ok x⟩, rfl, hmade, .inl ⟨nofun, rfl, rfl, rfl⟩⟩
    refine ⟨⟨now, mid, l₁, .error e⟩, rfl, hmade, ?_⟩
    by_cases he : isFinal e
    · rw [hfinal e he] at hgoes
      obtain ⟨rfl, rfl, rfl⟩ := Procedure.takes_throw.1 hgoes
      refine .inl ⟨?_, l₁.append_nil, rfl, rfl⟩
      rintro e ⟨⟩
      exact he
    · rw [hrest e he] at hgoes
      exact .inr ⟨e, l₂, rfl, he, rfl, hgoes⟩
  · rintro ⟨⟨start, finish, made, outcome⟩, rfl, hmade, ⟨hlast, rfl, rfl, rfl⟩ |
      ⟨e, l, rfl, he, rfl, hgoes⟩⟩
    · cases result with
      | ok x => exact .inl ⟨x, rfl, hmade⟩
      | error e =>
        rw [← log.append_nil]
        exact .inr ⟨log, [], later, e, rfl, hmade, hfinal e (hlast e rfl) ▸ .done ..⟩
    · exact .inr ⟨made, l, finish, e, rfl, hmade, (hrest e he).symm ▸ hgoes⟩

/-- What a follower does whose next attempt is due. -/
theorem takes_again {rest : Procedure ε α} :
    Activity.Takes ways cancelAt (tryCatch attempt (unlessCancelled rest)).run now log later result ↔
      ∃ a : Attempt ε α, a.start = now ∧ a.Made ways cancelAt attempt ∧
        (a.IsLast ∧ log = a.log ∧ later = a.finish ∧ result = a.outcome ∨
          ∃ e l, a.outcome = .error e ∧ e ≠ .cancelled ∧ log = a.log ++ l ∧
            Activity.Takes ways cancelAt rest.run a.finish l later result) := by
  refine takes_recover (fun e he => ?_) fun e he => ?_
  · rw [he]
    rfl
  · cases e with
    | cancelled => exact absurd rfl he
    | _ => rfl

/-- A wait is made up of its attempts and of pauses. -/
theorem polls_of_takes (hrounds : deadline ≤ tick + rounds * o.pollInterval)
    (h : Activity.Takes ways cancelAt (attemptRounds o attempt deadline rounds tick).run now log later
      result) :
    ∃ attempts, attempts.length ≤ rounds ∧ log = attempts.flatMap (·.log) ∧
      Polls ways cancelAt o attempt deadline tick now attempts later result := by
  induction rounds generalizing tick now log with
  | zero =>
    -- there is no attempt left, but none is due before the deadline either
    have hmin : min deadline tick = deadline := by
      rw [Nat.zero_mul] at hrounds
      exact Nat.min_eq_left hrounds
    rcases Procedure.takes_pauseUntil.1 h with ⟨rfl, rfl, c, hc, rfl, hle⟩ | ⟨hallows, h⟩
    · exact ⟨[], Nat.le_refl _, rfl, .cancelled hc (hmin.symm ▸ hle)⟩
    · obtain ⟨rfl, rfl, rfl⟩ := Procedure.takes_throw.1 h
      have hend : Polls ways cancelAt o attempt deadline tick now [] _ _ :=
        .gaveUp (hmin.symm ▸ hallows) (hmin.symm ▸ Nat.le_max_right ..)
      rw [hmin] at hend
      exact ⟨[], Nat.le_refl _, rfl, hend⟩
  | succ rounds ih =>
    rcases takes_round.1 h with ⟨rfl, rfl, c, hc, rfl, hle⟩ | ⟨t, rfl, hallows, h⟩
    · exact ⟨[], Nat.zero_le _, rfl, .cancelled hc hle⟩
    rcases h with ⟨hdeadline, -, rfl, rfl, rfl⟩ | ⟨htick, hway, h⟩
    · exact ⟨[], Nat.zero_le _, rfl, .gaveUp hallows hdeadline⟩
    obtain ⟨a, hstart, hmade, ⟨hlast, rfl, rfl, rfl⟩ | ⟨e, l, he, hgoes, rfl, hrest⟩⟩ :=
      takes_again.1 h
    · refine ⟨[a], by simp, by simp, .last hallows hstart ?_ ?_ hmade hlast⟩
      · exact hstart ▸ htick
      · exact hstart ▸ hway
    · rw [← hstart] at hrest htick hway
      obtain ⟨attempts, hlength, rfl, hpolls⟩ := ih (deadline_le_nextTick htick hrounds) hrest
      exact ⟨a :: attempts, Nat.succ_le_succ hlength, rfl,
        .again hallows hstart htick hway hmade he hgoes hpolls⟩

/-- Any attempts of a wait make it up, if there are not too many. -/
theorem Polls.takes (hsecond : ways .second) (hrounds : deadline ≤ tick + rounds * o.pollInterval)
    (hlength : attempts.length ≤ rounds)
    (h : Polls ways cancelAt o attempt deadline tick now attempts later result) :
    Activity.Takes ways cancelAt (attemptRounds o attempt deadline rounds tick).run now
      (attempts.flatMap (·.log)) later result := by
  induction rounds generalizing tick now attempts with
  | zero =>
    have hmin : min deadline tick = deadline := by
      rw [Nat.zero_mul] at hrounds
      exact Nat.min_eq_left hrounds
    cases h with
    | cancelled hcancel hle =>
      exact Procedure.takes_pauseUntil.2 (.inl ⟨rfl, rfl, _, hcancel, rfl, hmin ▸ hle⟩)
    | gaveUp hallows hdeadline =>
      rw [hmin] at hallows ⊢
      exact Procedure.takes_pauseUntil.2 (.inr ⟨hallows, .done ..⟩)
    | last | again => exact absurd hlength (Nat.not_succ_le_zero _)
  | succ rounds ih =>
    refine takes_round.2 ?_
    cases h with
    | cancelled hcancel hle => exact .inl ⟨rfl, rfl, _, hcancel, rfl, hle⟩
    | gaveUp hallows hdeadline =>
      exact .inr ⟨_, rfl, hallows, .inl ⟨hdeadline, fun _ => hsecond, rfl, rfl, rfl⟩⟩
    | @last _ _ a hallows hstart htick hway hmade hlast =>
      rw [← hstart] at hallows
      exact .inr ⟨_, hstart, hallows, .inr ⟨htick, hway, takes_again.2
        ⟨a, rfl, hmade, .inl ⟨hlast, by simp, rfl, rfl⟩⟩⟩⟩
    | @again _ _ _ a rest _ e hallows hstart htick hway hmade hfails he h =>
      rw [← hstart] at hallows
      have hrest := ih (deadline_le_nextTick htick hrounds) (Nat.le_of_succ_le_succ hlength) h
      exact .inr ⟨_, hstart, hallows, .inr ⟨htick, hway, takes_again.2
        ⟨a, rfl, hmade, .inr ⟨e, _, hfails, he, rfl, hrest⟩⟩⟩⟩

namespace Polls

/-- No attempt begins before it is due. -/
theorem tick_le_start (h : Polls ways cancelAt o attempt deadline tick now attempts later result) :
    ∀ a ∈ attempts, tick ≤ a.start := by
  induction h with
  | cancelled | gaveUp => nofun
  | last _ _ htick => simpa using htick
  | @again _ _ _ a _ _ _ _ _ htick _ _ _ _ _ ih =>
    refine List.forall_mem_cons.2 ⟨htick, fun b hb => ?_⟩
    exact Nat.le_trans (Nat.le_trans (Nat.le_add_right ..) (add_le_nextTick htick _)) (ih b hb)

theorem now_le_start (h : Polls ways cancelAt o attempt deadline tick now attempts later result) :
    ∀ a ∈ attempts, now ≤ a.start := by
  induction h with
  | cancelled | gaveUp => nofun
  | last _ hstart =>
    rw [List.forall_mem_singleton, hstart]
    exact Nat.le_max_left ..
  | again _ hstart _ _ hmade _ _ _ ih =>
    have hle := hmade.le
    rw [hstart] at hle
    refine List.forall_mem_cons.2 ⟨hstart ▸ Nat.le_max_left .., fun b hb => ?_⟩
    exact Nat.le_trans (Nat.le_max_left ..) (Nat.le_trans hle (ih b hb))

/-- An attempt begins after the one before has ended. -/
theorem pairwise (h : Polls ways cancelAt o attempt deadline tick now attempts later result) :
    attempts.Pairwise fun a b => a.finish ≤ b.start := by
  induction h with
  | cancelled | gaveUp => exact .nil
  | last => exact List.pairwise_singleton ..
  | again _ _ _ _ _ _ _ h ih => exact .cons h.now_le_start ih

theorem made (h : Polls ways cancelAt o attempt deadline tick now attempts later result) :
    ∀ a ∈ attempts, a.Made ways cancelAt attempt := by
  induction h with
  | cancelled | gaveUp => nofun
  | last _ _ _ _ hmade => simpa using hmade
  | again _ _ _ _ hmade _ _ _ ih => exact List.forall_mem_cons.2 ⟨hmade, ih⟩

/-- If the deadline always counts, no attempt begins once it has passed. -/
theorem start_lt (hfirst : ¬ways .first)
    (h : Polls ways cancelAt o attempt deadline tick now attempts later result) :
    ∀ a ∈ attempts, a.start < deadline := by
  induction h with
  | cancelled | gaveUp => nofun
  | last _ _ _ hway =>
    rw [List.forall_mem_singleton]
    exact Nat.lt_of_not_le fun hle => hfirst (hway hle)
  | again _ _ _ hway _ _ _ _ ih =>
    exact List.forall_mem_cons.2 ⟨Nat.lt_of_not_le fun hle => hfirst (hway hle), ih⟩

/-- A wait is given up at its deadline, or at the end of its last attempt if that is later. -/
theorem eq_max (h : Polls ways cancelAt o attempt deadline tick now attempts later result)
    (hresult : result = .error (.waitDeadline o.waitDeadline)) :
    later = max deadline ((attempts.getLast?.map (·.finish)).getD now) := by
  induction h with
  | cancelled => cases hresult
  | @gaveUp tick now _ hdeadline =>
    rw [List.getLast?_nil, Option.map_none, Option.getD_none]
    delta Instant at *
    omega
  | last _ _ _ _ _ hlast => exact nomatch hlast _ hresult
  | @again _ _ _ a rest _ _ _ _ _ _ _ _ _ _ ih =>
    rw [ih hresult, List.getLast?_cons, Option.map_some, Option.getD_some]
    cases rest.getLast? <;> rfl

theorem eq_or_of_waitDeadline (hle : now ≤ deadline)
    (h : Polls ways cancelAt o attempt deadline tick now attempts later result)
    (hresult : result = .error (.waitDeadline o.waitDeadline)) :
    later = deadline ∨ ∃ a ∈ attempts.getLast?, deadline < later ∧ later = a.finish := by
  have hmax := h.eq_max hresult
  cases hlast : attempts.getLast? with
  | none =>
    rw [hlast] at hmax
    exact .inl (hmax.trans (Nat.max_eq_left hle))
  | some a =>
    rw [hlast, Option.map_some, Option.getD_some] at hmax
    rcases Nat.lt_or_ge deadline a.finish with hlt | hge
    · rw [Nat.max_eq_right (Nat.le_of_lt hlt)] at hmax
      exact .inr ⟨a, rfl, hmax ▸ hlt, hmax⟩
    · exact .inl (hmax.trans (Nat.max_eq_left hge))

end Polls

/-- The bound on attempts leaves room for all that can be due before the deadline. -/
theorem AcquireOptions.deadline_le_of_maxRounds_le (o : AcquireOptions) (hpoll : 0 < o.pollInterval)
    (hrounds : o.maxRounds ≤ rounds) (start : Instant) :
    start + o.waitDeadline ≤ start + o.pollInterval + rounds * o.pollInterval := by
  rw [Nat.add_assoc]
  refine Nat.add_le_add_left (Nat.le_trans ?_ (Nat.le_add_left ..)) start
  calc o.waitDeadline
    _ ≤ (o.waitDeadline / o.pollInterval + 1) * o.pollInterval :=
      Nat.le_of_lt (Nat.lt_mul_of_div_lt (Nat.lt_succ_self _) hpoll)
    _ ≤ rounds * o.pollInterval := Nat.mul_le_mul_right _ (Nat.le_trans (Nat.le_succ _) hrounds)

/-- Whatever attempts take and however they fail, a wait comes to its end. -/
theorem exists_polls (hrounds : deadline ≤ tick + rounds * o.pollInterval)
    {pattern : Instant → Attempt ε α} (hstart : ∀ t, (pattern t).start = t)
    (hmade : ∀ t, (pattern t).Made ways none attempt)
    (hfails : ∀ t, ∃ e, (pattern t).outcome = .error e ∧ e ≠ .cancelled) :
    ∃ attempts later, attempts.length ≤ rounds ∧ (∀ a ∈ attempts, a = pattern a.start) ∧
      Polls ways none o attempt deadline tick now attempts later
        (.error (.waitDeadline o.waitDeadline)) := by
  have hgiveUp {tick now : Instant} (hdeadline : deadline ≤ max now (min deadline tick)) :
      Polls ways none o attempt deadline tick now [] (max now (min deadline tick))
        (.error (.waitDeadline o.waitDeadline)) :=
    .gaveUp Activity.allows_none hdeadline
  induction rounds generalizing tick now with
  | zero =>
    have hmin : min deadline tick = deadline := by
      rw [Nat.zero_mul] at hrounds
      exact Nat.min_eq_left hrounds
    exact ⟨[], _, Nat.le_refl _, nofun, hgiveUp (hmin.symm ▸ Nat.le_max_right ..)⟩
  | succ rounds ih =>
    by_cases hdeadline : deadline ≤ max now (min deadline tick)
    · exact ⟨[], _, Nat.zero_le _, nofun, hgiveUp hdeadline⟩
    -- the deadline has not passed, so the next attempt is due
    have htick : tick ≤ max now (min deadline tick) :=
      Decidable.byContradiction fun hlate => hdeadline (deadline_le_of_not_tick_le hlate)
    generalize ht : max now (min deadline tick) = t at hdeadline htick
    obtain ⟨e, hfailed, he⟩ := hfails t
    obtain ⟨rest, later, hlength, hrest, hpolls⟩ :=
      @ih _ (pattern t).finish (deadline_le_nextTick htick hrounds)
    refine ⟨pattern t :: rest, later, Nat.succ_le_succ hlength,
      List.forall_mem_cons.2 ⟨by rw [hstart], hrest⟩, ?_⟩
    refine .again Activity.allows_none ((hstart t).trans ht.symm) ?_ ?_ (hmade t) hfailed he ?_
    · rwa [hstart]
    · rw [hstart]
      exact fun hle => absurd hle hdeadline
    · rwa [hstart]

theorem takes_waitForCluster (hpoll : 0 < o.pollInterval) :
    Activity.Takes ways cancelAt (waitForCluster o rounds attempt).run start log finish result ↔
      Activity.Takes ways cancelAt (attemptRounds o attempt (start + o.waitDeadline) rounds
        (start + o.pollInterval)).run start log finish result := by
  rw [waitForCluster, Procedure.takes_now, if_neg (Nat.ne_of_gt hpoll)]

/-- A follower waits no longer than it should. Take any interval between attempts, any deadline, and
    any attempts. No attempt begins before an interval has passed, and the wait is given up at its
    deadline, or at the end of its last attempt if that is later, and never before. If the deadline
    counts whenever it has passed, no attempt begins after it, so the last one was under way when the
    deadline passed. And whatever attempts take and however they fail, the wait is given up. -/
theorem waitForCluster_gives_up_in_time (hpoll : 0 < o.pollInterval)
    (hrounds : o.maxRounds ≤ rounds) (hsecond : ways .second) (start : Instant) :
    let deadline := start + o.waitDeadline
    let timedOut : Except (NodeError ε) α := .error (.waitDeadline o.waitDeadline)
    (∀ log finish result, Activity.Takes ways cancelAt (waitForCluster o rounds attempt).run start log
        finish result →
      ∃ attempts : List (Attempt ε α), log = attempts.flatMap (·.log) ∧
        (∀ a ∈ attempts, a.Made ways cancelAt attempt) ∧
        (attempts.Pairwise fun a b => a.finish ≤ b.start) ∧
        (∀ a ∈ attempts, start + o.pollInterval ≤ a.start) ∧
        (result = timedOut → deadline ≤ finish ∧
          (finish = deadline ∨ ∃ a ∈ attempts.getLast?, finish = a.finish)) ∧
        (¬ways .first → (∀ a ∈ attempts, a.start < deadline) ∧
          (result = timedOut → finish = deadline ∨
            ∃ a ∈ attempts.getLast?, a.start < deadline ∧ deadline < finish ∧ finish = a.finish))) ∧
    ∀ pattern : Instant → Attempt ε α, (∀ t, (pattern t).start = t) →
      (∀ t, (pattern t).Made ways none attempt) →
      (∀ t, ∃ e, (pattern t).outcome = .error e ∧ e ≠ .cancelled) →
      ∃ (attempts : List (Attempt ε α)) (finish : Instant), (∀ a ∈ attempts, a = pattern a.start) ∧
        Activity.Takes ways none (waitForCluster o rounds attempt).run start
          (attempts.flatMap (·.log)) finish timedOut := by
  intro deadline timedOut
  have hbound : deadline ≤ start + o.pollInterval + rounds * o.pollInterval :=
    o.deadline_le_of_maxRounds_le hpoll hrounds start
  refine ⟨fun log finish result h => ?_, fun pattern hstart hmade hfails => ?_⟩
  · obtain ⟨attempts, -, hlog, h⟩ := polls_of_takes hbound ((takes_waitForCluster hpoll).1 h)
    refine ⟨attempts, hlog, h.made, h.pairwise, h.tick_le_start, fun hresult => ?_, fun hfirst =>
      ⟨h.start_lt hfirst, fun hresult => ?_⟩⟩
    · refine ⟨h.eq_max hresult ▸ Nat.le_max_left .., ?_⟩
      rcases h.eq_or_of_waitDeadline (Nat.le_add_right ..) hresult with heq | ⟨a, ha, -, heq⟩
      · exact .inl heq
      · exact .inr ⟨a, ha, heq⟩
    · rcases h.eq_or_of_waitDeadline (Nat.le_add_right ..) hresult with heq | ⟨a, ha, hlt, heq⟩
      · exact .inl heq
      · exact .inr ⟨a, ha, h.start_lt hfirst a (List.mem_of_getLast? ha), hlt, heq⟩
  · obtain ⟨attempts, finish, hlength, hpattern, h⟩ :=
      exists_polls hbound hstart hmade hfails
    refine ⟨attempts, finish, hpattern, (takes_waitForCluster hpoll).2 ?_⟩
    exact h.takes hsecond hbound hlength

/-! ## A trial -/

namespace Trial

/-- A node that nobody answers. -/
def lonely : Launcher := launcher plain 1 "b"

/-- Its attempt to join: it waits for a connection for as long as it may. -/
def hanging (start : Instant) : Attempt EngineError SecretStore where
  start
  finish := start + Duration.ofSeconds 10
  log := []
  outcome := .error (.join (.timeout .connecting (.ofSeconds 10)))

theorem made_hanging (ways : Way → Prop) (start : Instant) :
    (hanging start).Made ways none (lonely.launch .join) := by
  have hrepair : Activity.Takes ways none
      (repair lonely.options : Procedure EngineError _).run start [] (start + Duration.ofSeconds 10)
      (.error (.timeout .connecting (.ofSeconds 10))) := by
    rw [lonely, repair_launcher asWritten_plain ordinal?_one]
    exact Procedure.takes_bind.2 (.inl ⟨_, rfl, Procedure.takes_boundedCall_late
      (Activity.takes_timeout_late ..)⟩)
  have hdiscover : Activity.Takes ways none (lonely.discover : Procedure EngineError _).run start []
      (start + Duration.ofSeconds 10) (.error (.timeout .connecting (.ofSeconds 10))) :=
    Procedure.takes_bind.2 (.inr ⟨[], [], _, _, rfl,
      Procedure.takes_uncancelled (hrepair.timeout (Nat.le_refl _)), .done ..⟩)
  have hprepare : Activity.Takes ways none
      (lonely.prepare .join : Procedure EngineError _).run start [] (start + Duration.ofSeconds 10)
      (.error (.join (.timeout .connecting (.ofSeconds 10)))) :=
    Procedure.takes_tryCatch.2 (.inr ⟨[], [], _, _, rfl,
      Procedure.takes_bind.2 (.inl ⟨_, rfl, hdiscover⟩), .done ..⟩)
  exact Procedure.takes_bind.2 (.inl ⟨_, rfl, hprepare⟩)

/-- A follower that waits for one and a half intervals. -/
def impatient : AcquireOptions where
  role := .follower
  pollInterval := .ofSeconds 10
  waitDeadline := .ofSeconds 15

/-- What the follower comes to. -/
def timedOut : Except (NodeError EngineError) SecretStore :=
  .error (.waitDeadline impatient.waitDeadline)

end Trial

/-- A follower that nobody answers gives up in time, if the deadline always counts. -/
theorem waitForCluster_gives_up_in_time_hanging :
    0 < Trial.impatient.pollInterval ∧
      ∃ log finish, Activity.Takes (· = .second) none
          (waitForCluster Trial.impatient Trial.impatient.maxRounds (Trial.lonely.launch .join)).run 0
          log finish Trial.timedOut ∧
        (finish = 15000 ∨ ∃ a : Attempt EngineError SecretStore,
          a.Made (· = .second) none (Trial.lonely.launch .join) ∧ a.start < 15000 ∧
            finish = a.finish) := by
  have hpoll : 0 < Trial.impatient.pollInterval := by decide
  obtain ⟨hruns, hends⟩ := @waitForCluster_gives_up_in_time EngineError SecretStore (· = .second) none
    Trial.impatient (Trial.lonely.launch .join) Trial.impatient.maxRounds hpoll (Nat.le_refl _) rfl 0
  obtain ⟨attempts, finish, -, hrun⟩ := hends Trial.hanging (fun _ => rfl) (Trial.made_hanging _)
    fun _ => ⟨_, rfl, nofun⟩
  obtain ⟨made, -, hmade, -, -, -, hsecond⟩ := hruns _ _ _ hrun
  refine ⟨hpoll, _, finish, hrun, ?_⟩
  rcases (hsecond nofun).2 rfl with heq | ⟨a, ha, hstart, -, heq⟩
  · exact .inl (heq.trans (by decide))
  · exact .inr ⟨a, hmade a (List.mem_of_getLast? ha), Nat.lt_of_lt_of_le hstart (by decide), heq⟩

/-- If the deadline has passed and the next attempt is due, there may be one more attempt. Here it
    begins at `20` seconds after a deadline at `15` seconds, and the wait ends with it. -/
theorem waitForCluster_attempts_after_deadline :
    Polls (fun _ => True) none Trial.impatient (Trial.lonely.launch .join) 15000 10000 0
        [Trial.hanging 10000, Trial.hanging 20000] 30000 Trial.timedOut ∧
      Activity.Takes (fun _ => True) none
        (waitForCluster Trial.impatient Trial.impatient.maxRounds (Trial.lonely.launch .join)).run 0 []
        30000 Trial.timedOut := by
  have hpolls : Polls (fun _ => True) none Trial.impatient (Trial.lonely.launch .join) 15000 10000 0
      [Trial.hanging 10000, Trial.hanging 20000] 30000 Trial.timedOut :=
    .again Activity.allows_none rfl (by decide) (fun _ => trivial) (Trial.made_hanging _ _) rfl nofun
      (.again Activity.allows_none rfl (by decide) (fun _ => trivial) (Trial.made_hanging _ _) rfl
        nofun (.gaveUp Activity.allows_none (by decide)))
  have hpoll : 0 < Trial.impatient.pollInterval := by decide
  refine ⟨hpolls, (takes_waitForCluster hpoll).2 ?_⟩
  exact hpolls.takes trivial (by decide) (by decide)

end ClusterVault
