import ClusterVault.Proofs.Activity.Follows

/-!
# What activities yield

What an activity ends with depends on the answers alone that it gets on its way, and on nothing else
of the world. So what holds of its end for all answers holds in every world, and also for answers that
no world of this library gives.

## Main definitions

- `Activity.Yields`: an activity ends with a value after some answers
- `Procedure.Succeeds`: a procedure does, and does not fail

## Main statements

- `Activity.yields_bind`: what is yielded by two activities, one after the other
- `Backend.Turn.yields`: in every world, an activity comes to no other end than it yields
- `Procedure.succeeds_bind`, `Procedure.succeeds_boundedCall`: a procedure succeeds if its parts do
-/

namespace ClusterVault

namespace Activity

variable {ε α β : Type} {a : Activity ε α} {f : β → Activity ε α} {log l₁ l₂ : List (Answered ε)}
  {x : α} {y : β}

/-- The activity ends with a value after it got the answers of a log. Anything else that it waited for
    was late or was given up. -/
inductive Yields : Activity ε α → List (Answered ε) → α → Prop
  | done (x : α) : Yields (done x) [] x
  | clock {next : Instant → Activity ε α} {log : List (Answered ε)} {x : α} (now : Instant)
    (h : Yields (next now) log x) : Yields (clock next) log x
  | first {first second : Activity ε α} {log : List (Answered ε)} {x : α} (h : Yields first log x) :
    Yields (either first second) log x
  | second {first second : Activity ε α} {log : List (Answered ε)} {x : α}
    (h : Yields second log x) : Yields (either first second) log x
  | reply {r : Request} {limit : Option Instant} {heeds : Bool}
    {next : Wake (r.Reply ε) → Activity ε α} {log : List (Answered ε)} {x : α} (now : Instant)
    (reply : r.Reply ε) (h : Yields (next (.reply reply)) log x) :
    Yields (ask r limit heeds next) (⟨now, r, reply⟩ :: log) x
  | late {r : Request} {deadline : Instant} {heeds : Bool} {next : Wake (r.Reply ε) → Activity ε α}
    {log : List (Answered ε)} {x : α} (h : Yields (next .late) log x) :
    Yields (ask r (some deadline) heeds next) log x
  | cancelled {r : Request} {limit : Option Instant} {next : Wake (r.Reply ε) → Activity ε α}
    {log : List (Answered ε)} {x : α} (h : Yields (next .cancelled) log x) :
    Yields (ask r limit true next) log x

theorem Yields.bind {a : Activity ε β} (ha : a.Yields l₁ y) (hf : (f y).Yields l₂ x) :
    (a.bind f).Yields (l₁ ++ l₂) x := by
  induction ha with
  | done => exact hf
  | clock now _ ih => exact .clock now (ih hf)
  | first _ ih => exact .first (ih hf)
  | second _ ih => exact .second (ih hf)
  | reply now reply _ ih => exact .reply now reply (ih hf)
  | late _ ih => exact .late (ih hf)
  | cancelled _ ih => exact .cancelled (ih hf)

/-- Of two activities, one after the other, the first gets the answers up to its end, and the second
    those that follow. -/
theorem yields_bind {a : Activity ε β} :
    (a.bind f).Yields log x ↔
      ∃ l₁ l₂ y, log = l₁ ++ l₂ ∧ a.Yields l₁ y ∧ (f y).Yields l₂ x := by
  refine ⟨fun h => ?_, fun ⟨l₁, l₂, y, hlog, ha, hf⟩ => hlog ▸ ha.bind hf⟩
  induction a generalizing log with
  | done y => exact ⟨[], log, y, rfl, .done y, h⟩
  | abort => cases h
  | clock next ih =>
    cases h with
    | clock now h =>
      obtain ⟨l₁, l₂, y, hlog, ha, hf⟩ := ih now h
      exact ⟨l₁, l₂, y, hlog, .clock now ha, hf⟩
  | either first second ih ih' =>
    cases h with
    | first h =>
      obtain ⟨l₁, l₂, y, hlog, ha, hf⟩ := ih h
      exact ⟨l₁, l₂, y, hlog, .first ha, hf⟩
    | second h =>
      obtain ⟨l₁, l₂, y, hlog, ha, hf⟩ := ih' h
      exact ⟨l₁, l₂, y, hlog, .second ha, hf⟩
  | ask r limit heeds next ih =>
    cases h with
    | reply now reply h =>
      obtain ⟨l₁, l₂, y, rfl, ha, hf⟩ := ih _ h
      exact ⟨_ :: l₁, l₂, y, rfl, .reply now reply ha, hf⟩
    | late h =>
      obtain ⟨l₁, l₂, y, hlog, ha, hf⟩ := ih _ h
      exact ⟨l₁, l₂, y, hlog, .late ha, hf⟩
    | cancelled h =>
      obtain ⟨l₁, l₂, y, hlog, ha, hf⟩ := ih _ h
      exact ⟨l₁, l₂, y, hlog, .cancelled ha, hf⟩

theorem yields_limited_request {r : Request} {deadline : Instant} {reply : r.Reply ε} :
    ((request r).limited deadline).Yields log (some reply) ↔ ∃ now, log = [⟨now, r, reply⟩] := by
  rw [request, limited, Option.any_none, if_neg Bool.false_ne_true]
  constructor
  · intro h
    cases h with
    | reply now reply h =>
      cases h
      exact ⟨now, rfl⟩
    | late h => cases h
  · rintro ⟨now, rfl⟩
    exact .reply now reply (.done (some reply))

/-- A request that is answered in time yields its answer. -/
theorem yields_timeout_request {r : Request} {bound : Duration} {reply : r.Reply ε} :
    ((request r).timeout bound).Yields log (some reply) ↔ ∃ now, log = [⟨now, r, reply⟩] := by
  constructor
  · intro h
    cases h with
    | clock start h => exact yields_limited_request.1 h
  · exact fun h => .clock 0 (yields_limited_request.2 h)

end Activity

/-- What is promised of the end of an activity holds of what it yields. -/
theorem Activity.Follows.of_yields {ε σ α : Type} {p : Protocol ε σ} {inv : σ → Prop}
    {post : σ → α → Prop} {a : Activity ε α} {s : σ} {log : List (Answered ε)} {x : α}
    (h : a.Follows p inv post s) (hyields : a.Yields log x) : ∃ s', post s' x := by
  induction hyields generalizing s with
  | done => exact ⟨s, h⟩
  | clock now _ ih => exact ih (h now)
  | first _ ih => exact ih h.1
  | second _ ih => exact ih h.2
  | reply now reply _ ih => exact ih (h.2.2.1 reply)
  | late _ ih => exact ih h.2.2.2.1
  | cancelled _ ih => exact ih h.2.2.2.2

/-- Whatever world an activity is under way in, and whatever happens there between its turns, it ends
    as it does after the answers of these turns. -/
theorem Backend.Turn.yields {W S ε α : Type} {b : Backend W S ε} {site : S} {a a' : Activity ε α}
    {w w' : W} {outcome : Option (Answered ε)} {log : List (Answered ε)} {x : α}
    (hturn : b.Turn site (w, a) outcome (w', a')) (h : a'.Yields log x) :
    a.Yields (outcome.toList ++ log) x := by
  cases hturn with
  | clock now => exact .clock now h
  | first => exact .first h
  | second => exact .second h
  | reply now _ _ => exact .reply now _ h
  | withdraw => exact .cancelled h
  | late _ _ _ => exact .late h
  | cancelled _ _ _ => exact .cancelled h

namespace Procedure

variable {ε α β : Type} {q : Procedure ε α} {log : List (Answered ε)} {x : α}

/-- The procedure succeeds with a value after it got the answers of a log. -/
def Succeeds (q : Procedure ε α) (log : List (Answered ε)) (x : α) : Prop :=
  Activity.Yields q.run log (.ok x)

theorem not_succeeds_throw {e : NodeError ε} : ¬(throw e : Procedure ε α).Succeeds log x := nofun

theorem succeeds_pure {y : α} : (pure y : Procedure ε α).Succeeds log x ↔ log = [] ∧ y = x := by
  constructor
  · intro h
    cases h
    exact ⟨rfl, rfl⟩
  · rintro ⟨rfl, rfl⟩
    exact Activity.Yields.done _

theorem succeeds_ofUrl {result : Except Url.ParseError α} :
    (ofUrl result).Succeeds log x ↔ log = [] ∧ result = .ok x := by
  constructor
  · intro h
    cases result with
    | error e => cases h
    | ok y =>
      cases h
      exact ⟨rfl, rfl⟩
  · rintro ⟨rfl, rfl⟩
    exact Activity.Yields.done _

/-- Of two procedures, one after the other, both succeed. -/
theorem succeeds_bind {q : Procedure ε β} {f : β → Procedure ε α} :
    (q >>= f).Succeeds log x ↔
      ∃ l₁ l₂ y, log = l₁ ++ l₂ ∧ q.Succeeds l₁ y ∧ (f y).Succeeds l₂ x := by
  constructor
  · intro h
    obtain ⟨l₁, l₂, result, hlog, hq, hf⟩ := Activity.yields_bind.1 h
    cases result with
    | error e => cases hf
    | ok y => exact ⟨l₁, l₂, y, hlog, hq, hf⟩
  · rintro ⟨l₁, l₂, y, hlog, hq, hf⟩
    exact Activity.yields_bind.2 ⟨l₁, l₂, .ok y, hlog, hq, hf⟩

theorem succeeds_ofActivity {a : Activity ε α} : (ofActivity a).Succeeds log x ↔ a.Yields log x := by
  constructor
  · intro h
    obtain ⟨l₁, l₂, y, rfl, ha, hend⟩ := Activity.yields_bind.1 h
    cases hend
    rwa [List.append_nil]
  · exact fun h => Activity.yields_bind.2 ⟨log, [], x, log.append_nil.symm, h, .done _⟩

/-- A call succeeds with an answer that comes in time. -/
theorem succeeds_boundedCall {answer : Activity ε (Except ε α)} {step : NodeStep}
    {bound : Duration} :
    (boundedCall step bound answer).Succeeds log x ↔
      (answer.timeout bound).Yields log (some (.ok x)) := by
  rw [boundedCall, succeeds_bind]
  constructor
  · rintro ⟨l₁, l₂, reply, rfl, hanswer, hend⟩
    rcases reply with _ | e | y
    · exact absurd hend not_succeeds_throw
    · exact absurd hend not_succeeds_throw
    · obtain ⟨rfl, rfl⟩ := succeeds_pure.1 hend
      rw [List.append_nil]
      exact succeeds_ofActivity.1 hanswer
  · intro h
    exact ⟨log, [], _, log.append_nil.symm, succeeds_ofActivity.2 h, succeeds_pure.2 ⟨rfl, rfl⟩⟩

end Procedure

end ClusterVault
