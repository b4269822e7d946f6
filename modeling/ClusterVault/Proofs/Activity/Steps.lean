import ClusterVault.Node.Procedure
import ClusterVault.Simulation.Task
import Mathlib.Logic.Relation

/-!
# Steps of activities

An activity goes on by steps, and others may act between any two of them. An activity whose requests
are answered at once needs nobody else and comes to its end within one instant.

## Main definitions

- `Backend.Step`, `Backend.Steps`: what an activity does in a world, once and several times
- `Backend.Completes`: an activity that is answered at once, from its beginning to its end

## Main statements

- `Backend.steps_of_advance`: getting to the end at an instant is one way in which an activity may go
- `Backend.Completes.advance_eq`: an activity that is answered at once gets to its end at the instant

## Design notes

A request may have its effect and still go unanswered, if the activity gives up in the meantime. Steps
say nothing of how much time passes.
-/

namespace ClusterVault

namespace Backend

variable {W S ε α β : Type}

/-- What an activity does next, in a world of its own or of many. -/
inductive Step (b : Backend W S ε) (site : S) :
    W × Activity ε α → W × Activity ε α → Prop
  | clock {w : W} {next : Instant → Activity ε α} (now : Instant) :
    Step b site (w, .clock next) (w, next now)
  | first {w : W} {first second : Activity ε α} :
    Step b site (w, .either first second) (w, first)
  | second {w : W} {first second : Activity ε α} :
    Step b site (w, .either first second) (w, second)
  | reply {w w' : W} {r : Request} {limit : Option Instant} {heeds : Bool}
    {next : Wake (r.Reply ε) → Activity ε α} {flight : Flight W (r.Reply ε)} {reply : r.Reply ε}
    (now : Instant) (hissue : b.issue site now w r = (w', flight))
    (hpoll : flight.poll now w' = some reply) :
    Step b site (w, .ask r limit heeds next) (w', next (.reply reply))
  /-- It gives up before the request is sent. -/
  | withdraw {w : W} {r : Request} {limit : Option Instant}
    {next : Wake (r.Reply ε) → Activity ε α} :
    Step b site (w, .ask r limit true next) (w, next .cancelled)
  | late {w : W} {r : Request} {deadline : Instant} {heeds : Bool}
    {next : Wake (r.Reply ε) → Activity ε α} (now : Instant) :
    Step b site (w, .ask r (some deadline) heeds next) ((b.issue site now w r).1, next .late)
  | cancelled {w : W} {r : Request} {limit : Option Instant}
    {next : Wake (r.Reply ε) → Activity ε α} (now : Instant) :
    Step b site (w, .ask r limit true next) ((b.issue site now w r).1, next .cancelled)

/-- What an activity does while others may watch but do not act. -/
abbrev Steps (b : Backend W S ε) (site : S) : W × Activity ε α → W × Activity ε α → Prop :=
  Relation.ReflTransGen (b.Step site)

/-- An activity that gets to its end at an instant has done so by steps. -/
theorem steps_of_advance {b : Backend W S ε} {site : S} {cancelAt : Option Instant} {now : Instant}
    {w w' : W} {a : Activity ε α} {x : α}
    (h : b.advance site cancelAt now a w = (w', .ended x)) : b.Steps site (w, a) (w', .done x) := by
  induction a generalizing w with
  | done y =>
    cases h
    exact .refl
  | abort => cases h
  | clock next ih => exact .head (.clock now) (ih now h)
  | either first second ih _ => exact .head .first (ih h)
  | ask r limit heeds next ih =>
    rw [advance] at h
    split at h
    · next hcancelled =>
      rw [Bool.and_eq_true] at hcancelled
      obtain ⟨rfl, -⟩ := hcancelled
      exact .head .withdraw (ih _ h)
    · -- the request is sent, and is answered, given up at its limit, or left open
      generalize hissue : b.issue site now w r = issued at h
      obtain ⟨mid, flight⟩ := issued
      dsimp only at h
      split at h
      · next hpoll => exact .head (.reply now hissue hpoll) (ih _ h)
      · split at h
        · next hlimit =>
          obtain ⟨deadline, rfl, -⟩ := (Option.any_eq_true _ _).1 hlimit
          have hlate : b.Step site (w, .ask r (some deadline) heeds next)
            ((b.issue site now w r).1, next .late) := .late now
          rw [hissue] at hlate
          exact .head hlate (ih _ h)
        · cases h

/-- All that an activity asks for at an instant is answered at once, and it ends with a value. -/
inductive Completes (b : Backend W S ε) (site : S) (now : Instant) {α : Type} :
    W → Activity ε α → W → α → Prop
  | done {w : W} {x : α} : Completes b site now w (.done x) w x
  | clock {w w' : W} {next : Instant → Activity ε α} {x : α}
    (h : Completes b site now w (next now) w' x) : Completes b site now w (.clock next) w' x
  | either {w w' : W} {first second : Activity ε α} {x : α}
    (h : Completes b site now w first w' x) : Completes b site now w (.either first second) w' x
  | ask {w w' w'' : W} {r : Request} {limit : Option Instant} {heeds : Bool}
    {next : Wake (r.Reply ε) → Activity ε α} {flight : Flight W (r.Reply ε)} {reply : r.Reply ε}
    {x : α} (hissue : b.issue site now w r = (w', flight))
    (hpoll : flight.poll now w' = some reply)
    (h : Completes b site now w' (next (.reply reply)) w'' x) :
    Completes b site now w (.ask r limit heeds next) w'' x

namespace Completes

variable {b : Backend W S ε} {site : S} {now : Instant} {w w' w'' : W} {a : Activity ε α} {x : α}
  {y : β}

/-- An activity that is answered at once gets to its end at the instant. -/
theorem advance_eq (h : b.Completes site now w a w' x) :
    b.advance site none now a w = (w', .ended x) := by
  induction h with
  | done => rfl
  | clock _ ih | either _ ih => exact ih
  | ask hissue hpoll _ ih =>
    have hstays : isCancelled none now = false := rfl
    rw [advance, hstays, Bool.and_false, if_neg Bool.false_ne_true, hissue]
    dsimp only
    rw [hpoll]
    exact ih

/-! ## Parts of activities -/

theorem bind {f : α → Activity ε β} (h : b.Completes site now w a w' x)
    (hf : b.Completes site now w' (f x) w'' y) : b.Completes site now w (a.bind f) w'' y := by
  induction h with
  | done => exact hf
  | clock _ ih => exact .clock (ih hf)
  | either _ ih => exact .either (ih hf)
  | ask hissue hpoll _ ih => exact .ask hissue hpoll (ih hf)

theorem request {r : Request} {flight : Flight W (r.Reply ε)} {reply : r.Reply ε}
    (hissue : b.issue site now w r = (w', flight)) (hpoll : flight.poll now w' = some reply) :
    b.Completes site now w (Activity.request r) w' reply :=
  .ask hissue hpoll .done

/-- A limit does not matter to who is answered at once. -/
theorem limited (deadline : Instant) (h : b.Completes site now w a w' x) :
    b.Completes site now w (a.limited deadline) w' (some x) := by
  induction h with
  | done => exact .done
  | clock _ ih => exact .clock ih
  | either _ ih => exact .either ih
  | ask hissue hpoll _ ih =>
    rw [Activity.limited]
    split
    · exact .ask hissue hpoll ih
    · exact .ask hissue hpoll ih

theorem timeout (bound : Duration) (h : b.Completes site now w a w' x) :
    b.Completes site now w (a.timeout bound) w' (some x) :=
  .clock (h.limited _)

theorem heeding (h : b.Completes site now w a w' x) :
    b.Completes site now w a.heeding w' (some x) := by
  induction h with
  | done => exact .done
  | clock _ ih => exact .clock ih
  | either _ ih => exact .either ih
  | ask hissue hpoll _ ih =>
    rw [Activity.heeding]
    split
    · exact .ask hissue hpoll ih
    · exact .ask hissue hpoll ih

/-! ## Parts of procedures -/

variable {p : Procedure ε α} {f : α → Procedure ε β} {result : Except (NodeError ε) β}

theorem pure (x : α) : b.Completes site now w (Pure.pure x : Procedure ε α).run w (.ok x) := .done

theorem ofExcept (result : Except (NodeError ε) β) :
    b.Completes site now w (Procedure.ofExcept result).run w result := .done

theorem andThen (h : b.Completes site now w p.run w' (.ok x))
    (hf : b.Completes site now w' (f x).run w'' result) :
    b.Completes site now w (p >>= f).run w'' result :=
  h.bind hf

theorem andThen_error {e : NodeError ε} (h : b.Completes site now w p.run w' (.error e)) :
    b.Completes site now w (p >>= f).run w' (.error e) :=
  h.bind .done

theorem ofActivity (h : b.Completes site now w a w' x) :
    b.Completes site now w (Procedure.ofActivity a).run w' (.ok x) :=
  h.bind .done

theorem tryCatch_ok {handle : NodeError ε → Procedure ε α}
    (h : b.Completes site now w p.run w' (.ok x)) :
    b.Completes site now w (tryCatch p handle).run w' (.ok x) :=
  h.bind .done

theorem orElse_ok {cleanup : Activity ε Unit} (h : b.Completes site now w p.run w' (.ok x)) :
    b.Completes site now w (p.orElse cleanup).run w' (.ok x) :=
  h.tryCatch_ok

theorem uncancelled (h : b.Completes site now w a w' x) :
    b.Completes site now w (Procedure.uncancelled a).run w' (.ok x) :=
  h.heeding.ofActivity.andThen (.pure x)

theorem boundedCall_ok {answer : Activity ε (Except ε α)} (step : NodeStep) (bound : Duration)
    (h : b.Completes site now w answer w' (.ok x)) :
    b.Completes site now w (Procedure.boundedCall step bound answer).run w' (.ok x) :=
  (h.timeout bound).ofActivity.andThen (.pure x)

theorem boundedCall_error {answer : Activity ε (Except ε α)} {e : ε} (step : NodeStep)
    (bound : Duration) (h : b.Completes site now w answer w' (.error e)) :
    b.Completes site now w (Procedure.boundedCall step bound answer).run w'
      (.error (.engine step e)) :=
  (h.timeout bound).ofActivity.andThen .done

end Completes

end Backend

end ClusterVault
