import ClusterVault.Node.Procedure
import ClusterVault.Simulation.Task

/-!
# What activities know when they ask

What an activity may ask for can depend on what it has been told so far: it may close the server that
it has started, but no other one. A protocol says what an activity knows after each answer, and what
it may ask for as long as it knows that. An activity follows a protocol if it asks for nothing else,
whenever it is answered, late or cancelled.

## Main definitions

- `Protocol`: what may be asked, and what the answers tell
- `Activity.Follows`, `Procedure.Follows`: an activity follows a protocol and keeps a promise
- `Backend.Turn`: what an activity does next that takes every answer that is there

## Main statements

- `Activity.Follows.turn`: an activity that goes on still follows its protocol

## Design notes

What is known is made up of what the activity was answered, and not of the world: others may act at
any time, so a protocol also says what is left of the knowledge when the activity has to wait. An
invariant holds at every wait. It is what is known when an activity is given up in the middle.
-/

namespace ClusterVault

/-- What may be asked by who knows something, and what the answers tell. -/
structure Protocol (ε σ : Type) where
  admits : σ → Request → Prop
  after : σ → (r : Request) → r.Reply ε → σ
  /-- What is still known after a wait without an answer. -/
  lapse : σ → σ

/-- Anything may be asked, and nothing is learnt from the answers. -/
def Protocol.free {ε : Type} : Protocol ε Unit := ⟨fun _ _ => True, fun _ _ _ => (), fun _ => ()⟩

/-- A request that was answered at an instant. -/
structure Answered (ε : Type) where
  now : Instant
  request : Request
  reply : request.Reply ε

/-- What is known after a request was answered, or not. -/
def Protocol.note {ε σ : Type} (p : Protocol ε σ) (s : σ) : Option (Answered ε) → σ
  | none => p.lapse s
  | some answered => p.after s answered.request answered.reply

namespace Activity

variable {ε σ α β : Type} {p : Protocol ε σ} {inv inv' : σ → Prop} {post : σ → α → Prop}
  {a : Activity ε α} {s : σ}

/-- The activity asks only for what is admitted by what it knows, the invariant holds at every wait,
    and the end is as promised. -/
def Follows (p : Protocol ε σ) (inv : σ → Prop) (post : σ → α → Prop) : Activity ε α → σ → Prop
  | done x, s => post s x
  | abort, _ => True
  | clock next, s => ∀ now, (next now).Follows p inv post (p.lapse s)
  | either first second, s =>
    first.Follows p inv post (p.lapse s) ∧ second.Follows p inv post (p.lapse s)
  | ask r _ _ next, s => p.admits s r ∧ inv (p.lapse s) ∧
    (∀ reply, (next (.reply reply)).Follows p inv post (p.after s r reply)) ∧
    (next .late).Follows p inv post (p.lapse s) ∧
    (next .cancelled).Follows p inv post (p.lapse s)

theorem Follows.imp {post' : σ → α → Prop} (h : a.Follows p inv post s)
    (hinv : ∀ s, inv s → inv' s) (hpost : ∀ s x, post s x → post' s x) :
    a.Follows p inv' post' s := by
  induction a generalizing s with
  | done x => exact hpost s x h
  | abort => trivial
  | clock next ih => exact fun now => ih now (h now)
  | either first second ih ih' => exact ⟨ih h.1, ih' h.2⟩
  | ask r limit heeds next ih =>
    obtain ⟨hadmits, hwait, hreply, hlate, hcancelled⟩ := h
    exact ⟨hadmits, hinv _ hwait, fun reply => ih _ (hreply reply), ih _ hlate, ih _ hcancelled⟩

theorem follows_bind (mid : σ → β → Prop) {a : Activity ε β} {f : β → Activity ε α}
    (h : a.Follows p inv mid s) (hf : ∀ s x, mid s x → (f x).Follows p inv post s) :
    (a.bind f).Follows p inv post s := by
  induction a generalizing s with
  | done x => exact hf s x h
  | abort => trivial
  | clock next ih => exact fun now => ih now (h now)
  | either first second ih ih' => exact ⟨ih h.1, ih' h.2⟩
  | ask r limit heeds next ih =>
    obtain ⟨hadmits, hwait, hreply, hlate, hcancelled⟩ := h
    exact ⟨hadmits, hwait, fun reply => ih _ (hreply reply), ih _ hlate, ih _ hcancelled⟩

theorem follows_request {r : Request} {post : σ → r.Reply ε → Prop} (hadmits : p.admits s r)
    (hwait : inv (p.lapse s)) (hpost : ∀ reply, post (p.after s r reply) reply) :
    (request r : Activity ε (r.Reply ε)).Follows p inv post s :=
  ⟨hadmits, hwait, hpost, trivial, trivial⟩

/-- What is promised of an activity that may be given up. -/
def OrGivenUp (inv : σ → Prop) (post : σ → α → Prop) (s : σ) : Option α → Prop
  | some x => post s x
  | none => inv s

theorem follows_limited (deadline : Instant) (h : a.Follows p inv post s) :
    (a.limited deadline).Follows p inv (OrGivenUp inv post) s := by
  induction a generalizing s with
  | done x => exact h
  | abort => trivial
  | clock next ih => exact fun now => ih now (h now)
  | either first second ih ih' => exact ⟨ih h.1, ih' h.2⟩
  | ask r limit heeds next ih =>
    obtain ⟨hadmits, hwait, hreply, hlate, hcancelled⟩ := h
    rw [limited]
    split
    · exact ⟨hadmits, hwait, fun reply => ih _ (hreply reply), ih _ hlate, ih _ hcancelled⟩
    · exact ⟨hadmits, hwait, fun reply => ih _ (hreply reply), hwait, ih _ hcancelled⟩

theorem follows_timeout (bound : Duration) (h : a.Follows p inv post (p.lapse s)) :
    (a.timeout bound).Follows p inv (OrGivenUp inv post) s :=
  fun now => follows_limited (now + bound) h

theorem follows_heeding (h : a.Follows p inv post s) :
    a.heeding.Follows p inv (OrGivenUp inv post) s := by
  induction a generalizing s with
  | done x => exact h
  | abort => trivial
  | clock next ih => exact fun now => ih now (h now)
  | either first second ih ih' => exact ⟨ih h.1, ih' h.2⟩
  | ask r limit heeds next ih =>
    obtain ⟨hadmits, hwait, hreply, hlate, hcancelled⟩ := h
    rw [heeding]
    split
    · exact ⟨hadmits, hwait, fun reply => ih _ (hreply reply), ih _ hlate, ih _ hcancelled⟩
    · exact ⟨hadmits, hwait, fun reply => ih _ (hreply reply), ih _ hlate, hwait⟩

/-- Whoever is free to ask follows the protocol. -/
theorem follows_free {post : Unit → α → Prop} (hpost : ∀ x, post () x) (a : Activity ε α) :
    a.Follows .free (fun _ => True) post () := by
  induction a with
  | done x => exact hpost x
  | abort => trivial
  | clock next ih => exact ih
  | either first second ih ih' => exact ⟨ih, ih'⟩
  | ask r limit heeds next ih => exact ⟨trivial, trivial, fun _ => ih _, ih _, ih _⟩

end Activity

namespace Procedure

variable {ε σ α β : Type} {p : Protocol ε σ} {inv inv' : σ → Prop} {ok : σ → α → Prop}
  {fails fails' : σ → NodeError ε → Prop} {q : Procedure ε α} {a : Activity ε α} {s : σ}

/-- What is promised of the end of a procedure. -/
def Ends (ok : σ → α → Prop) (fails : σ → NodeError ε → Prop) (s : σ) :
    Except (NodeError ε) α → Prop
  | .ok x => ok s x
  | .error e => fails s e

/-- A procedure follows a protocol, and its success and its failure are as promised. -/
structure Follows (p : Protocol ε σ) (inv : σ → Prop) (ok : σ → α → Prop)
    (fails : σ → NodeError ε → Prop) (q : Procedure ε α) (s : σ) : Prop where
  run : Activity.Follows p inv (Ends ok fails) q.run s

theorem Follows.imp {ok' : σ → α → Prop} (h : q.Follows p inv ok fails s)
    (hinv : ∀ s, inv s → inv' s) (hok : ∀ s x, ok s x → ok' s x)
    (hfails : ∀ s e, fails s e → fails' s e) : q.Follows p inv' ok' fails' s := by
  refine ⟨h.run.imp hinv fun s result hresult => ?_⟩
  cases result with
  | ok x => exact hok s x hresult
  | error e => exact hfails s e hresult

theorem follows_pure {x : α} (h : ok s x) : (pure x : Procedure ε α).Follows p inv ok fails s := ⟨h⟩

theorem follows_throw {e : NodeError ε} (h : fails s e) :
    (throw e : Procedure ε α).Follows p inv ok fails s := ⟨h⟩

theorem follows_ofExcept {result : Except (NodeError ε) α} (h : Ends ok fails s result) :
    (ofExcept result).Follows p inv ok fails s := ⟨h⟩

theorem follows_ofUrl {result : Except Url.ParseError α} (hok : ∀ x, result = .ok x → ok s x)
    (hfails : ∀ e, fails s (.url e)) : (ofUrl result).Follows p inv ok fails s := by
  refine follows_ofExcept ?_
  cases result with
  | error e => exact hfails e
  | ok x => exact hok x rfl

theorem follows_ofActivity (h : a.Follows p inv ok s) : (ofActivity a).Follows p inv ok fails s :=
  ⟨Activity.follows_bind _ h fun _ _ hx => hx⟩

theorem follows_bind (mid : σ → β → Prop) {q : Procedure ε β} {f : β → Procedure ε α}
    (h : q.Follows p inv mid fails s) (hf : ∀ s x, mid s x → (f x).Follows p inv ok fails s) :
    (q >>= f).Follows p inv ok fails s := by
  refine ⟨Activity.follows_bind _ h.run fun s result hresult => ?_⟩
  cases result with
  | error e => exact hresult
  | ok x => exact (hf s x hresult).run

theorem follows_tryCatch (mid : σ → NodeError ε → Prop) {handle : NodeError ε → Procedure ε α}
    (h : q.Follows p inv ok mid s) (hhandle : ∀ s e, mid s e → (handle e).Follows p inv ok fails s) :
    (tryCatch q handle).Follows p inv ok fails s := by
  refine ⟨Activity.follows_bind _ h.run fun s result hresult => ?_⟩
  cases result with
  | error e => exact (hhandle s e hresult).run
  | ok x => exact hresult

theorem follows_orElse (mid : σ → NodeError ε → Prop) {cleanup : Activity ε Unit}
    (h : q.Follows p inv ok mid s)
    (hcleanup : ∀ s e, mid s e → cleanup.Follows p inv (fun s _ => fails s e) s) :
    (q.orElse cleanup).Follows p inv ok fails s :=
  follows_tryCatch mid h fun s e he =>
    follows_bind (fun s _ => fails s e) (follows_ofActivity (hcleanup s e he)) fun _ _ hfails =>
      follows_throw hfails

theorem follows_uncancelled (h : a.Follows p inv ok s) (hcancelled : ∀ s, inv s → fails s .cancelled) :
    (uncancelled a).Follows p inv ok fails s := by
  refine follows_bind _ (follows_ofActivity (Activity.follows_heeding h)) fun s x hx => ?_
  cases x with
  | none => exact follows_throw (hcancelled s hx)
  | some y => exact follows_pure hx

/-- What is promised of an answer that may be a refusal. -/
def Answers (ok : σ → α → Prop) (fails : σ → NodeError ε → Prop) (step : NodeStep) (s : σ) :
    Except ε α → Prop
  | .ok x => ok s x
  | .error e => fails s (.engine step e)

theorem follows_call {answer : Activity ε (Except ε α)} {step : NodeStep}
    (h : answer.Follows p inv (Answers ok fails step) s) :
    (call step answer).Follows p inv ok fails s := by
  refine follows_bind _ (follows_ofActivity h) fun s reply hreply => ?_
  cases reply with
  | error e => exact follows_throw hreply
  | ok x => exact follows_pure hreply

theorem follows_boundedCall {answer : Activity ε (Except ε α)} {step : NodeStep} {bound : Duration}
    (h : answer.Follows p inv (Answers ok fails step) (p.lapse s))
    (hlate : ∀ s, inv s → fails s (.timeout step bound)) :
    (boundedCall step bound answer).Follows p inv ok fails s := by
  refine follows_bind _ (follows_ofActivity (Activity.follows_timeout bound h)) fun s reply hreply => ?_
  cases reply with
  | none => exact follows_throw (hlate s hreply)
  | some reply =>
    cases reply with
    | error e => exact follows_throw hreply
    | ok x => exact follows_pure hreply

end Procedure

/-! ## Turns -/

namespace Backend

variable {W S ε α β : Type}

/-- What an activity does next that takes every answer that is there: it is late or cancelled only
    before its request is sent or as long as that is not answered. -/
inductive Turn (b : Backend W S ε) (site : S) :
    W × Activity ε α → Option (Answered ε) → W × Activity ε α → Prop
  | clock {w : W} {next : Instant → Activity ε α} (now : Instant) :
    Turn b site (w, .clock next) none (w, next now)
  | first {w : W} {first second : Activity ε α} :
    Turn b site (w, .either first second) none (w, first)
  | second {w : W} {first second : Activity ε α} :
    Turn b site (w, .either first second) none (w, second)
  | reply {w w' : W} {r : Request} {limit : Option Instant} {heeds : Bool}
    {next : Wake (r.Reply ε) → Activity ε α} {flight : Flight W (r.Reply ε)} {reply : r.Reply ε}
    (now : Instant) (hissue : b.issue site now w r = (w', flight))
    (hpoll : flight.poll now w' = some reply) :
    Turn b site (w, .ask r limit heeds next) (some ⟨now, r, reply⟩) (w', next (.reply reply))
  | withdraw {w : W} {r : Request} {limit : Option Instant}
    {next : Wake (r.Reply ε) → Activity ε α} :
    Turn b site (w, .ask r limit true next) none (w, next .cancelled)
  | late {w w' : W} {r : Request} {deadline : Instant} {heeds : Bool}
    {next : Wake (r.Reply ε) → Activity ε α} {flight : Flight W (r.Reply ε)} (now : Instant)
    (hissue : b.issue site now w r = (w', flight)) (hpoll : flight.poll now w' = none) :
    Turn b site (w, .ask r (some deadline) heeds next) none (w', next .late)
  | cancelled {w w' : W} {r : Request} {limit : Option Instant}
    {next : Wake (r.Reply ε) → Activity ε α} {flight : Flight W (r.Reply ε)} (now : Instant)
    (hissue : b.issue site now w r = (w', flight)) (hpoll : flight.poll now w' = none) :
    Turn b site (w, .ask r limit true next) none (w', next .cancelled)

/-- As long as the first of two activities is under way, it is the one that goes on. -/
theorem Turn.of_bind {b : Backend W S ε} {site : S} {a : Activity ε β} {f : β → Activity ε α}
    {a' : Activity ε α} {w w' : W} {outcome : Option (Answered ε)} (ha : ∀ x, a ≠ .done x)
    (hturn : b.Turn site (w, a.bind f) outcome (w', a')) :
    ∃ rest, b.Turn site (w, a) outcome (w', rest) ∧ a' = rest.bind f := by
  cases a with
  | done x => exact absurd rfl (ha x)
  | abort => cases hturn
  | clock next =>
    cases hturn with
    | clock now => exact ⟨_, .clock now, rfl⟩
  | either first second =>
    cases hturn with
    | first => exact ⟨_, .first, rfl⟩
    | second => exact ⟨_, .second, rfl⟩
  | ask r limit heeds next =>
    cases hturn with
    | reply now hissue hpoll => exact ⟨_, .reply now hissue hpoll, rfl⟩
    | withdraw => exact ⟨_, .withdraw, rfl⟩
    | late now hissue hpoll => exact ⟨_, .late now hissue hpoll, rfl⟩
    | cancelled now hissue hpoll => exact ⟨_, .cancelled now hissue hpoll, rfl⟩

end Backend

/-- An activity that goes on still follows its protocol, and has asked for what is admitted. -/
theorem Activity.Follows.turn {W S ε σ α : Type} {b : Backend W S ε} {site : S}
    {p : Protocol ε σ} {inv : σ → Prop} {post : σ → α → Prop} {a a' : Activity ε α} {s : σ}
    {w w' : W} {outcome : Option (Answered ε)} (h : a.Follows p inv post s)
    (hturn : b.Turn site (w, a) outcome (w', a')) :
    a'.Follows p inv post (p.note s outcome) ∧
      ∀ answered ∈ outcome, p.admits s answered.request := by
  have hnothing : ∀ answered ∈ (none : Option (Answered ε)), p.admits s answered.request := by
    rintro _ ⟨⟩
  cases hturn with
  | clock now => exact ⟨h now, hnothing⟩
  | first => exact ⟨h.1, hnothing⟩
  | second => exact ⟨h.2, hnothing⟩
  | reply now hissue hpoll =>
    refine ⟨h.2.2.1 _, ?_⟩
    rintro answered ⟨⟩
    exact h.1
  | late => exact ⟨h.2.2.2.1, hnothing⟩
  | withdraw => exact ⟨h.2.2.2.2, hnothing⟩
  | cancelled => exact ⟨h.2.2.2.2, hnothing⟩

end ClusterVault
