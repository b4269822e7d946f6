import ClusterVault.Node.Procedure

/-!
# What activities ask for

An activity obeys a rule if it asks only for what the rule admits, whatever the answers are, and ends
with what is promised if the answers tell what the rule says. The rule is looked up for one part of an
activity after the other, so that no later proof opens an activity.

## Main definitions

- `Rule`: which requests are admitted, and what their answers tell
- `Activity.Obeys`, `Procedure.Obeys`: an activity follows a rule and keeps a promise

## Design notes

A promise of a procedure is about its success only. Nothing is said of answers that do not come, so
activities keep their promises when they are late or cancelled, too.
-/

namespace ClusterVault

/-- Which requests are admitted, and what their answers tell. -/
structure Rule (ε : Type) where
  admits : Request → Prop
  tells : (r : Request) → r.Reply ε → Prop

namespace Activity

variable {ε α β : Type} {rule rule' : Rule ε} {post : α → Prop} {a : Activity ε α}

/-- All requests of the activity are admitted, and its end is as promised if all answers tell the
    truth. -/
def Obeys (rule : Rule ε) (post : α → Prop) : Activity ε α → Prop
  | done x => post x
  | abort => True
  | clock next => ∀ now, (next now).Obeys rule post
  | either first second => first.Obeys rule post ∧ second.Obeys rule post
  | ask r _ _ next => rule.admits r ∧
    ∀ wake, (∀ reply, wake = .reply reply → rule.tells r reply) → (next wake).Obeys rule post

theorem Obeys.imp {post' : α → Prop} (h : a.Obeys rule post) (hpost : ∀ x, post x → post' x) :
    a.Obeys rule post' := by
  induction a with
  | done x => exact hpost x h
  | abort => trivial
  | clock next ih => exact fun now => ih now (h now)
  | either first second ih ih' => exact ⟨ih h.1, ih' h.2⟩
  | ask r limit heeds next ih => exact ⟨h.1, fun wake htells => ih wake (h.2 wake htells)⟩

/-- A rule may be replaced by one that admits more and says the same of the answers. -/
theorem Obeys.weaken (h : a.Obeys rule post) (hadmits : ∀ r, rule.admits r → rule'.admits r)
    (htells : ∀ r reply, rule'.tells r reply → rule.tells r reply) : a.Obeys rule' post := by
  induction a with
  | done x => exact h
  | abort => trivial
  | clock next ih => exact fun now => ih now (h now)
  | either first second ih ih' => exact ⟨ih h.1, ih' h.2⟩
  | ask r limit heeds next ih =>
    refine ⟨hadmits r h.1, fun wake hwake => ih wake (h.2 wake fun reply hreply => ?_)⟩
    exact htells r reply (hwake reply hreply)

theorem obeys_bind (mid : β → Prop) {a : Activity ε β} {f : β → Activity ε α}
    (h : a.Obeys rule mid) (hf : ∀ x, mid x → (f x).Obeys rule post) : (a.bind f).Obeys rule post := by
  induction a with
  | done x => exact hf x h
  | abort => trivial
  | clock next ih => exact fun now => ih now (h now)
  | either first second ih ih' => exact ⟨ih h.1, ih' h.2⟩
  | ask r limit heeds next ih => exact ⟨h.1, fun wake hwake => ih wake (h.2 wake hwake)⟩

theorem obeys_request {r : Request} (h : rule.admits r) :
    (request r : Activity ε (r.Reply ε)).Obeys rule (rule.tells r) := by
  refine ⟨h, fun wake hwake => ?_⟩
  cases wake with
  | reply reply => exact hwake reply rfl
  | late | cancelled => trivial

theorem asks_request {r : Request} (h : rule.admits r) :
    (request r : Activity ε (r.Reply ε)).Obeys rule fun _ => True :=
  (obeys_request h).imp fun _ _ => trivial

/-- A limit leaves what an activity asks for as it is. -/
theorem obeys_limited (deadline : Instant) (h : a.Obeys rule post) :
    (a.limited deadline).Obeys rule fun x => ∀ y, x = some y → post y := by
  induction a with
  | done x =>
    rintro y ⟨⟩
    exact h
  | abort => trivial
  | clock next ih => exact fun now => ih now (h now)
  | either first second ih ih' => exact ⟨ih h.1, ih' h.2⟩
  | ask r limit heeds next ih =>
    rw [limited]
    split
    · exact ⟨h.1, fun wake hwake => ih wake (h.2 wake hwake)⟩
    · refine ⟨h.1, fun wake hwake => ?_⟩
      cases wake with
      | late => exact nofun
      | reply reply => exact ih _ (h.2 _ hwake)
      | cancelled => exact ih _ (h.2 _ hwake)

theorem obeys_timeout (bound : Duration) (h : a.Obeys rule post) :
    (a.timeout bound).Obeys rule fun x => ∀ y, x = some y → post y :=
  fun now => obeys_limited (now + bound) h

/-- So does being cancelled. -/
theorem obeys_heeding (h : a.Obeys rule post) :
    a.heeding.Obeys rule fun x => ∀ y, x = some y → post y := by
  induction a with
  | done x =>
    rintro y ⟨⟩
    exact h
  | abort => trivial
  | clock next ih => exact fun now => ih now (h now)
  | either first second ih ih' => exact ⟨ih h.1, ih' h.2⟩
  | ask r limit heeds next ih =>
    rw [heeding]
    split
    · exact ⟨h.1, fun wake hwake => ih wake (h.2 wake hwake)⟩
    · refine ⟨h.1, fun wake hwake => ?_⟩
      cases wake with
      | cancelled => exact nofun
      | reply reply => exact ih _ (h.2 _ hwake)
      | late => exact ih _ (h.2 _ hwake)

end Activity

namespace Procedure

variable {ε α β : Type} {rule rule' : Rule ε} {post : α → Prop} {p : Procedure ε α}
  {a : Activity ε α}

/-- A procedure follows a rule, and its success is as promised. -/
structure Obeys (rule : Rule ε) (post : α → Prop) (p : Procedure ε α) : Prop where
  run : Activity.Obeys rule (fun result => ∀ x, result = .ok x → post x) p.run

theorem Obeys.weaken (h : p.Obeys rule post) (hadmits : ∀ r, rule.admits r → rule'.admits r)
    (htells : ∀ r reply, rule'.tells r reply → rule.tells r reply) : p.Obeys rule' post :=
  ⟨h.run.weaken hadmits htells⟩

theorem obeys_pure {x : α} (h : post x) : (pure x : Procedure ε α).Obeys rule post := by
  constructor
  rintro y ⟨⟩
  exact h

theorem obeys_throw (e : NodeError ε) : (throw e : Procedure ε α).Obeys rule post := ⟨nofun⟩

theorem obeys_ofExcept {result : Except (NodeError ε) α} (h : ∀ x, result = .ok x → post x) :
    (ofExcept result).Obeys rule post := ⟨h⟩

theorem obeys_ofUrl {result : Except Url.ParseError α} (h : ∀ x, result = .ok x → post x) :
    (ofUrl result : Procedure ε α).Obeys rule post := by
  refine obeys_ofExcept fun x hx => ?_
  cases result with
  | error e => cases hx
  | ok y =>
    cases hx
    exact h _ rfl

theorem obeys_ofActivity (h : a.Obeys rule post) : (ofActivity a).Obeys rule post := by
  refine ⟨Activity.obeys_bind _ h fun x hx => ?_⟩
  rintro y ⟨⟩
  exact hx

theorem obeys_bind (mid : β → Prop) {p : Procedure ε β} {f : β → Procedure ε α}
    (h : p.Obeys rule mid) (hf : ∀ x, mid x → (f x).Obeys rule post) :
    (p >>= f).Obeys rule post := by
  refine ⟨Activity.obeys_bind _ h.run fun result hresult => ?_⟩
  cases result with
  | error e => exact nofun
  | ok x => exact (hf x (hresult x rfl)).run

theorem obeys_andThen {p : Procedure ε β} {f : β → Procedure ε α}
    (h : p.Obeys rule fun _ => True) (hf : ∀ x, (f x).Obeys rule post) :
    (p >>= f).Obeys rule post :=
  obeys_bind _ h fun x _ => hf x

/-- A failure may be followed by anything that obeys. -/
theorem obeys_tryCatch {handle : NodeError ε → Procedure ε α} (h : p.Obeys rule post)
    (hhandle : ∀ e, (handle e).Obeys rule post) : (tryCatch p handle).Obeys rule post := by
  refine ⟨Activity.obeys_bind _ h.run fun result hresult => ?_⟩
  cases result with
  | error e => exact (hhandle e).run
  | ok x => exact hresult

theorem obeys_orElse {cleanup : Activity ε Unit} (h : p.Obeys rule post)
    (hcleanup : cleanup.Obeys rule fun _ => True) : (p.orElse cleanup).Obeys rule post :=
  obeys_tryCatch h fun e => obeys_andThen (obeys_ofActivity hcleanup) fun _ => obeys_throw e

theorem obeys_uncancelled (h : a.Obeys rule post) : (uncancelled a).Obeys rule post := by
  refine obeys_bind _ (obeys_ofActivity (Activity.obeys_heeding h)) fun x hx => ?_
  cases x with
  | none => exact obeys_throw _
  | some y => exact obeys_pure (hx y rfl)

/-- What is asked for may be refused; nothing is promised of it. -/
theorem obeys_call {answer : Activity ε (Except ε α)} (step : NodeStep)
    (h : answer.Obeys rule fun _ => True) : (call step answer).Obeys rule fun _ => True := by
  refine obeys_andThen (obeys_ofActivity h) fun reply => ?_
  cases reply with
  | error e => exact obeys_throw _
  | ok x => exact obeys_pure trivial

/-- It may also be late. -/
theorem obeys_boundedCall {answer : Activity ε (Except ε α)} (step : NodeStep) (bound : Duration)
    (h : answer.Obeys rule fun _ => True) :
    (boundedCall step bound answer).Obeys rule fun _ => True := by
  have htimed := (Activity.obeys_timeout bound h).imp fun _ _ => trivial
  refine obeys_andThen (obeys_ofActivity htimed) fun reply => ?_
  cases reply with
  | none => exact obeys_throw _
  | some reply =>
    cases reply with
    | error e => exact obeys_throw _
    | ok x => exact obeys_pure trivial

end Procedure

end ClusterVault
