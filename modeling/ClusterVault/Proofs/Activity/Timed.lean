import ClusterVault.Node.Acquire
import ClusterVault.Proofs.Activity.Yields

/-!
# Activities in time

An activity begins at an instant and ends at another. Nothing that it does by itself takes time, only
its waits do. An answer may take any time, but a wait is over once its limit has passed, or once the
activity is cancelled if it heeds that.

## Main definitions

- `Way`: which way an activity goes that may go either way
- `Activity.Takes`: an activity takes its time from one instant to another

## Main statements

- `Activity.takes_bind`: the time of two activities, one after the other
- `Activity.Takes.yields`: an activity ends in time with what it yields
- `Procedure.takes_pauseUntil`: a pause is over at its instant, not before and not after

## Design notes

Timers go off on time. Which of two ways an activity may go is a parameter, so that one can speak of
activities that always go one of them.
-/

namespace ClusterVault

/-- Which way an activity goes that may go either way. -/
inductive Way where
  | first
  | second
  deriving DecidableEq, Repr

namespace Activity

variable {ε α β : Type} {ways : Way → Prop} {cancelAt limit : Option Instant} {heeds : Bool}
  {a : Activity ε α} {f : β → Activity ε α} {log l₁ l₂ : List (Answered ε)}
  {now mid later : Instant} {x y : α}

/-- A limit allows a wait to go on until an instant. -/
def Allows (limit : Option Instant) (now later : Instant) : Prop :=
  ∀ instant ∈ limit, later ≤ max now instant

theorem allows_none : Allows none now later := nofun

/-- The activity begins at an instant, gets the answers of a log and ends at another instant with a
    value, going only the ways that it may go. -/
inductive Takes (ways : Way → Prop) (cancelAt : Option Instant) {α : Type} :
    Activity ε α → Instant → List (Answered ε) → Instant → α → Prop
  | done (now : Instant) (x : α) : Takes ways cancelAt (done x) now [] now x
  | clock {next : Instant → Activity ε α} {log : List (Answered ε)} {now later : Instant} {x : α}
    (h : Takes ways cancelAt (next now) now log later x) :
    Takes ways cancelAt (clock next) now log later x
  | first {first second : Activity ε α} {log : List (Answered ε)} {now later : Instant} {x : α}
    (hway : ways .first) (h : Takes ways cancelAt first now log later x) :
    Takes ways cancelAt (either first second) now log later x
  | second {first second : Activity ε α} {log : List (Answered ε)} {now later : Instant} {x : α}
    (hway : ways .second) (h : Takes ways cancelAt second now log later x) :
    Takes ways cancelAt (either first second) now log later x
  | reply {r : Request} {limit : Option Instant} {heeds : Bool}
    {next : Wake (r.Reply ε) → Activity ε α} {log : List (Answered ε)} {now mid later : Instant}
    {x : α} (hle : now ≤ mid) (hlimit : Allows limit now mid)
    (hheeds : heeds → Allows cancelAt now mid) (reply : r.Reply ε)
    (h : Takes ways cancelAt (next (.reply reply)) mid log later x) :
    Takes ways cancelAt (ask r limit heeds next) now (⟨mid, r, reply⟩ :: log) later x
  | late {r : Request} {deadline : Instant} {heeds : Bool} {next : Wake (r.Reply ε) → Activity ε α}
    {log : List (Answered ε)} {now later : Instant} {x : α}
    (hheeds : heeds → Allows cancelAt now (max now deadline))
    (h : Takes ways cancelAt (next .late) (max now deadline) log later x) :
    Takes ways cancelAt (ask r (some deadline) heeds next) now log later x
  | cancelled {r : Request} {limit : Option Instant} {next : Wake (r.Reply ε) → Activity ε α}
    {log : List (Answered ε)} {now instant later : Instant} {x : α} (hcancel : instant ∈ cancelAt)
    (hlimit : Allows limit now (max now instant))
    (h : Takes ways cancelAt (next .cancelled) (max now instant) log later x) :
    Takes ways cancelAt (ask r limit true next) now log later x

namespace Takes

/-- No activity ends before it begins. -/
theorem le (h : a.Takes ways cancelAt now log later x) : now ≤ later := by
  induction h with
  | done => exact Nat.le_refl _
  | clock _ ih | first _ _ ih | second _ _ ih => exact ih
  | reply hle _ _ _ _ ih => exact Nat.le_trans hle ih
  | late _ _ ih | cancelled _ _ _ ih => exact Nat.le_trans (Nat.le_max_left ..) ih

/-- What comes of an activity does not depend on the time that it takes. -/
theorem yields (h : a.Takes ways cancelAt now log later x) : a.Yields log x := by
  induction h with
  | done => exact .done _
  | clock _ ih => exact .clock _ ih
  | first _ _ ih => exact .first ih
  | second _ _ ih => exact .second ih
  | reply _ _ _ _ _ ih => exact .reply _ _ ih
  | late _ _ ih => exact .late ih
  | cancelled _ _ _ ih => exact .cancelled ih

theorem bind {a : Activity ε β} {y : β} (ha : a.Takes ways cancelAt now l₁ mid y)
    (hf : (f y).Takes ways cancelAt mid l₂ later x) :
    (a.bind f).Takes ways cancelAt now (l₁ ++ l₂) later x := by
  induction ha with
  | done => exact hf
  | clock _ ih => exact .clock (ih hf)
  | first hway _ ih => exact .first hway (ih hf)
  | second hway _ ih => exact .second hway (ih hf)
  | reply hle hlimit hheeds reply _ ih => exact .reply hle hlimit hheeds reply (ih hf)
  | late hheeds _ ih => exact .late hheeds (ih hf)
  | cancelled hcancel hlimit _ ih => exact .cancelled hcancel hlimit (ih hf)

/-- A limit does not matter to an activity that ends before it. -/
theorem limited {deadline : Instant} (h : a.Takes ways cancelAt now log later x)
    (hle : later ≤ deadline) : (a.limited deadline).Takes ways cancelAt now log later (some x) := by
  induction h with
  | done => exact .done ..
  | clock _ ih => exact .clock (ih hle)
  | first hway _ ih => exact .first hway (ih hle)
  | second hway _ ih => exact .second hway (ih hle)
  | @reply r limit heeds next log now mid later x hnow hlimit hheeds reply h ih =>
    rw [Activity.limited]
    split
    · exact .reply hnow hlimit hheeds reply (ih hle)
    · refine .reply hnow ?_ hheeds reply (ih hle)
      rintro _ ⟨⟩
      exact Nat.le_trans (Nat.le_trans h.le hle) (Nat.le_max_right ..)
  | @late r instant heeds next log now later x hheeds h ih =>
    have hbefore : (some instant).any (· ≤ deadline) = true := by
      simpa using Nat.le_trans (Nat.le_max_right now instant) (Nat.le_trans h.le hle)
    rw [Activity.limited, if_pos hbefore]
    exact .late hheeds (ih hle)
  | @cancelled r limit next log now instant later x hcancel hlimit h ih =>
    rw [Activity.limited]
    split
    · exact .cancelled hcancel hlimit (ih hle)
    · refine .cancelled hcancel ?_ (ih hle)
      rintro _ ⟨⟩
      exact Nat.le_trans (Nat.le_trans h.le hle) (Nat.le_max_right ..)

theorem timeout {bound : Duration} (h : a.Takes ways cancelAt now log later x)
    (hle : later ≤ now + bound) : (a.timeout bound).Takes ways cancelAt now log later (some x) :=
  .clock (h.limited hle)

/-- An activity that nobody cancels goes on as if it did not heed that. -/
theorem heeding (h : a.Takes ways none now log later x) :
    a.heeding.Takes ways none now log later (some x) := by
  induction h with
  | done => exact .done ..
  | clock _ ih => exact .clock ih
  | first hway _ ih => exact .first hway ih
  | second hway _ ih => exact .second hway ih
  | reply hnow hlimit _ reply _ ih =>
    rw [Activity.heeding]
    split
    · exact .reply hnow hlimit (fun _ => allows_none) reply ih
    · exact .reply hnow hlimit (fun _ => allows_none) reply ih
  | late _ _ ih =>
    rw [Activity.heeding]
    split
    · exact .late (fun _ => allows_none) ih
    · exact .late (fun _ => allows_none) ih
  | cancelled hcancel => cases hcancel

end Takes

/-- A request may be answered at once. -/
theorem takes_request {r : Request} (reply : r.Reply ε) (now : Instant) :
    (request r : Activity ε (r.Reply ε)).Takes ways cancelAt now [⟨now, r, reply⟩] now reply := by
  rw [request]
  refine .reply (Nat.le_refl now) allows_none ?_ reply ?_
  · exact fun hheeds => absurd hheeds Bool.false_ne_true
  · exact .done ..

/-- A request that is not answered is given up when its time is over. -/
theorem takes_timeout_late (r : Request) (bound : Duration) (now : Instant) :
    ((request r : Activity ε (r.Reply ε)).timeout bound).Takes ways cancelAt now [] (now + bound)
      none := by
  have hlate : ((request r : Activity ε (r.Reply ε)).limited (now + bound)).Takes ways cancelAt now []
      (max now (now + bound)) none := by
    rw [request, limited, Option.any_none, if_neg Bool.false_ne_true]
    exact .late (fun hheeds => absurd hheeds Bool.false_ne_true) (.done ..)
  rw [Nat.max_eq_right (Nat.le_add_right ..)] at hlate
  exact .clock hlate

theorem takes_done : (done y : Activity ε α).Takes ways cancelAt now log later x ↔
    log = [] ∧ later = now ∧ x = y := by
  constructor
  · intro h
    cases h
    exact ⟨rfl, rfl, rfl⟩
  · rintro ⟨rfl, rfl, rfl⟩
    exact .done ..

/-- Of two activities, one after the other, the second begins when the first has ended. -/
theorem takes_bind {a : Activity ε β} :
    (a.bind f).Takes ways cancelAt now log later x ↔ ∃ l₁ l₂ mid y, log = l₁ ++ l₂ ∧
      a.Takes ways cancelAt now l₁ mid y ∧ (f y).Takes ways cancelAt mid l₂ later x := by
  refine ⟨fun h => ?_, fun ⟨l₁, l₂, mid, y, hlog, ha, hf⟩ => hlog ▸ ha.bind hf⟩
  induction a generalizing now log with
  | done y => exact ⟨[], log, now, y, rfl, .done .., h⟩
  | abort => cases h
  | clock next ih =>
    cases h with
    | clock h =>
      obtain ⟨l₁, l₂, mid, y, hlog, ha, hf⟩ := ih _ h
      exact ⟨l₁, l₂, mid, y, hlog, .clock ha, hf⟩
  | either first second ih ih' =>
    cases h with
    | first hway h =>
      obtain ⟨l₁, l₂, mid, y, hlog, ha, hf⟩ := ih h
      exact ⟨l₁, l₂, mid, y, hlog, .first hway ha, hf⟩
    | second hway h =>
      obtain ⟨l₁, l₂, mid, y, hlog, ha, hf⟩ := ih' h
      exact ⟨l₁, l₂, mid, y, hlog, .second hway ha, hf⟩
  | ask r limit heeds next ih =>
    cases h with
    | reply hle hlimit hheeds reply h =>
      obtain ⟨l₁, l₂, mid, y, rfl, ha, hf⟩ := ih _ h
      exact ⟨_ :: l₁, l₂, mid, y, rfl, .reply hle hlimit hheeds reply ha, hf⟩
    | late hheeds h =>
      obtain ⟨l₁, l₂, mid, y, hlog, ha, hf⟩ := ih _ h
      exact ⟨l₁, l₂, mid, y, hlog, .late hheeds ha, hf⟩
    | cancelled hcancel hlimit h =>
      obtain ⟨l₁, l₂, mid, y, hlog, ha, hf⟩ := ih _ h
      exact ⟨l₁, l₂, mid, y, hlog, .cancelled hcancel hlimit ha, hf⟩

end Activity

namespace Procedure

open Activity

variable {ε α β : Type} {ways : Way → Prop} {cancelAt : Option Instant} {q : Procedure ε α}
  {log l₁ l₂ : List (Answered ε)} {now mid later instant : Instant} {x : α}
  {result : Except (NodeError ε) α}

theorem takes_throw {e : NodeError ε} :
    Activity.Takes ways cancelAt (throw e : Procedure ε α).run now log later result ↔
      log = [] ∧ later = now ∧ result = .error e :=
  takes_done

/-- Of two procedures, the second begins when the first has succeeded. -/
theorem takes_bind {q : Procedure ε β} {f : β → Procedure ε α} :
    Activity.Takes ways cancelAt (q >>= f).run now log later result ↔
      (∃ e, result = .error e ∧ Activity.Takes ways cancelAt q.run now log later (.error e)) ∨
      ∃ l₁ l₂ mid y, log = l₁ ++ l₂ ∧ Activity.Takes ways cancelAt q.run now l₁ mid (.ok y) ∧
        Activity.Takes ways cancelAt (f y).run mid l₂ later result := by
  constructor
  · intro h
    obtain ⟨l₁, l₂, mid, outcome, rfl, hq, hf⟩ := Activity.takes_bind.1 h
    cases outcome with
    | error e =>
      obtain ⟨rfl, rfl, rfl⟩ := takes_done.1 hf
      rw [List.append_nil]
      exact .inl ⟨e, rfl, hq⟩
    | ok y => exact .inr ⟨l₁, l₂, mid, y, rfl, hq, hf⟩
  · rintro (⟨e, rfl, hq⟩ | ⟨l₁, l₂, mid, y, rfl, hq, hf⟩)
    · exact Activity.takes_bind.2 ⟨log, [], later, .error e, log.append_nil.symm, hq, .done ..⟩
    · exact Activity.takes_bind.2 ⟨l₁, l₂, mid, .ok y, rfl, hq, hf⟩

theorem takes_andThen {q : Procedure ε β} {f : β → Procedure ε α} {y : β}
    (hq : Activity.Takes ways cancelAt q.run now l₁ mid (.ok y))
    (hf : Activity.Takes ways cancelAt (f y).run mid l₂ later result) :
    Activity.Takes ways cancelAt (q >>= f).run now (l₁ ++ l₂) later result :=
  takes_bind.2 (.inr ⟨l₁, l₂, mid, y, rfl, hq, hf⟩)

/-- The handling of a failure begins when the procedure has failed. -/
theorem takes_tryCatch {handle : NodeError ε → Procedure ε α} :
    Activity.Takes ways cancelAt (tryCatch q handle).run now log later result ↔
      (∃ y, result = .ok y ∧ Activity.Takes ways cancelAt q.run now log later (.ok y)) ∨
      ∃ l₁ l₂ mid e, log = l₁ ++ l₂ ∧ Activity.Takes ways cancelAt q.run now l₁ mid (.error e) ∧
        Activity.Takes ways cancelAt (handle e).run mid l₂ later result := by
  constructor
  · intro h
    obtain ⟨l₁, l₂, mid, outcome, rfl, hq, hf⟩ := Activity.takes_bind.1 h
    cases outcome with
    | ok y =>
      obtain ⟨rfl, rfl, rfl⟩ := takes_done.1 hf
      rw [List.append_nil]
      exact .inl ⟨y, rfl, hq⟩
    | error e => exact .inr ⟨l₁, l₂, mid, e, rfl, hq, hf⟩
  · rintro (⟨y, rfl, hq⟩ | ⟨l₁, l₂, mid, e, rfl, hq, hf⟩)
    · exact Activity.takes_bind.2 ⟨log, [], later, .ok y, log.append_nil.symm, hq, .done ..⟩
    · exact Activity.takes_bind.2 ⟨l₁, l₂, mid, .error e, rfl, hq, hf⟩

theorem takes_ofActivity {a : Activity ε α} (h : a.Takes ways cancelAt now log later x) :
    Activity.Takes ways cancelAt (ofActivity a).run now log later (.ok x) := by
  have hdone : Activity.Takes ways cancelAt (.done (.ok x) : Activity ε (Except (NodeError ε) α))
      later [] later (.ok x) := .done ..
  rw [← log.append_nil]
  exact h.bind hdone

/-- A call that is answered fails if the request was refused. -/
theorem takes_call {answer : Activity ε (Except ε α)} {reply : Except ε α} (step : NodeStep)
    (h : answer.Takes ways cancelAt now log later reply) :
    Activity.Takes ways cancelAt (call step answer).run now log later
      (reply.mapError (.engine step)) := by
  rw [← log.append_nil]
  refine takes_andThen (takes_ofActivity h) ?_
  cases reply <;> exact .done ..

/-- A call that is answered in time succeeds if the request was not refused. -/
theorem takes_boundedCall {answer : Activity ε (Except ε α)} {bound : Duration} (step : NodeStep)
    (h : answer.Takes ways cancelAt now log later (.ok x)) (hle : later ≤ now + bound) :
    Activity.Takes ways cancelAt (boundedCall step bound answer).run now log later (.ok x) := by
  rw [← log.append_nil]
  exact takes_andThen (takes_ofActivity (h.timeout hle)) (.done ..)

/-- A call that is not answered in time fails. -/
theorem takes_boundedCall_late {answer : Activity ε (Except ε α)} {step : NodeStep}
    {bound : Duration} (h : (answer.timeout bound).Takes ways cancelAt now log later none) :
    Activity.Takes ways cancelAt (boundedCall step bound answer).run now log later
      (.error (.timeout step bound)) := by
  rw [← log.append_nil]
  exact takes_andThen (takes_ofActivity h) (.done ..)

/-- A procedure that nobody cancels goes on as if it did not heed that. -/
theorem takes_uncancelled {a : Activity ε α} (h : a.Takes ways none now log later x) :
    Activity.Takes ways none (uncancelled a).run now log later (.ok x) := by
  rw [← log.append_nil]
  exact takes_andThen (takes_ofActivity h.heeding) (.done ..)

/-- A pause waits for nothing but its end. -/
theorem run_pauseUntil (instant : Instant) : (pauseUntil instant : Procedure ε Unit).run =
    .ask .idle (some instant) true fun
      | .reply _ => .abort
      | .late => .done (.ok ())
      | .cancelled => .done (.error .cancelled) := by
  rw [pauseUntil, uncancelled, sleepUntil, heeding, if_neg Bool.false_ne_true]
  refine congrArg (Activity.ask Request.idle (some instant) true) (funext fun wake => ?_)
  cases wake <;> rfl

/-- A pause is over at its instant, and not before unless it is cancelled. -/
theorem takes_pauseUntil {f : Unit → Procedure ε α} :
    Activity.Takes ways cancelAt (pauseUntil instant >>= f).run now log later result ↔
      (log = [] ∧ result = .error .cancelled ∧
        ∃ c ∈ cancelAt, later = max now c ∧ max now c ≤ max now instant) ∨
      Allows cancelAt now (max now instant) ∧
        Activity.Takes ways cancelAt (f ()).run (max now instant) log later result := by
  have hrun : (pauseUntil instant >>= f).run = (pauseUntil instant : Procedure ε Unit).run.bind
      (ExceptT.bindCont f) := rfl
  rw [hrun, run_pauseUntil]
  constructor
  · intro h
    cases h with
    | reply _ _ _ _ h => cases h
    | late hheeds h => exact .inr ⟨hheeds rfl, h⟩
    | cancelled hcancel hlimit h =>
      obtain ⟨rfl, rfl, rfl⟩ := takes_done.1 h
      exact .inl ⟨rfl, rfl, _, hcancel, rfl, hlimit _ rfl⟩
  · rintro (⟨rfl, rfl, c, hc, rfl, hle⟩ | ⟨hallows, h⟩)
    · refine .cancelled hc ?_ (.done ..)
      rintro _ ⟨⟩
      exact hle
    · exact .late (fun _ => hallows) h

/-- To look at the clock takes no time. -/
theorem takes_now {f : Instant → Procedure ε α} :
    Activity.Takes ways cancelAt (ofActivity Activity.now >>= f).run now log later result ↔
      Activity.Takes ways cancelAt (f now).run now log later result := by
  constructor
  · intro h
    cases h with
    | clock h => exact h
  · exact fun h => .clock h

end Procedure

end ClusterVault
