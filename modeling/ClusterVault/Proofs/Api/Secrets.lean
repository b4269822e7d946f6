import ClusterVault.Proofs.Api.Decoding
import ClusterVault.Proofs.Api.Performing

/-!
# The secrets interface, from a request to its response

A request that writes or deletes secrets is an order if its body can be read. The status of the
response tells what has become of the order, and only an order that was carried out has changed any
secrets.

## Main definitions

- `SecretsApi.respond`: the response to an order that a store has answered
- `SecretsApi.Order.Answered`: what a response means, however others have interfered
- `SecretsApi.Rejected`: what a response means that says what is wrong with an order

## Main statements

- `SecretsApi.orders_end_to_end`: what a request comes to, from any state of the store
-/

namespace ClusterVault.SecretsApi

open Undertaking (Run)

/-- The response to an order that a store has answered. -/
def respond : SecretStore.Answer → HttpResponse
  | .ok _ => { status := .noContent }
  | .error e => failure e

/-- How an order goes that is not allowed. -/
def Order.hindrance : Order → HttpStatus
  | .write .. => .conflict
  | .delete _ => .notFound

namespace Order

/-- The engine has run the transaction of an order, and the secrets that there were allow it. -/
def DoneBy (o : Order) (site : Site) (s : SecretStore) (a : Answer) : Prop :=
  o.Ran s a ∧ o.Allows (a.kept site s)

/-- An order has been carried out. Without any ids there is nothing to do. -/
def CarriedOut (o : Order) (site : Site) (s : SecretStore) (log : List Answer) : Prop :=
  (∀ id, ¬o.Names id) ∨ ∃ a ∈ log, o.DoneBy site s a

/-- The engine has run the transaction of an order and found that it is not allowed. -/
def Hindered (o : Order) (site : Site) (s : SecretStore) (log : List Answer) : Prop :=
  ∃ a ∈ log, o.Ran s a ∧ ¬o.Allows (a.kept site s)

/-- A request without which an order cannot be carried out was refused. -/
def Failed (o : Order) (s : SecretStore) (log : List Answer) : Prop :=
  ∃ a ∈ log, ∃ e, o.Refused s a e

end Order

/-- What the response to an order means, however others have interfered. -/
structure Order.Answered (o : Order) (site : Site)
    (foreign : String → Network → Network.Event → Prop) (s : SecretStore) (d : Deployment)
    (v : Undertaking HttpResponse) (response : HttpResponse) : Prop where
  /-- An order is carried out, it is not allowed, or something else has failed. -/
  status : response.status ∈ [.noContent, o.hindrance, .internalServerError]
  noContent : response.status = .noContent ↔ o.CarriedOut site s v.log
  hindered : response.status = o.hindrance ↔ o.Hindered site s v.log
  failed : response.status = .internalServerError ↔ o.Failed s v.log
  obstacle : ∀ a ∈ v.log, o.Ran s a → ¬o.Allows (a.kept site s) →
    response = failure (o.obstacle (a.kept site s))
  refusal : ∀ a ∈ v.log, ∀ e, o.Refused s a e → response = failure e
  fulfilled : ∀ a ∈ v.log, o.DoneBy site s a → ∃ deadline, o.Fulfilled site s v.log a deadline
  /-- If nobody else acts, it stays as it was left by an order that was carried out. -/
  stays : (∀ name net event, ¬foreign name net event) → ∀ a ∈ v.log, o.DoneBy site s a →
    ∀ name, v.deployment.network name = a.after.network name
  /-- Unless others have put secrets on a lease that is revoked, no request of an order changes any
      that is not carried out. -/
  untouched : response.status ≠ .noContent → ∀ a ∈ v.log, (∀ l ended,
    a.Replies s (.revokeLease l) ended →
      ¬(a.before.network site.servers).Secures s.server.id l) →
    Deployment.KeepsSecrets a.now a.before a.after
  /-- If nobody else acts, all secrets are as they were unless the order was carried out. -/
  unchanged : (∀ name net event, ¬foreign name net event) → response.status ≠ .noContent →
    ∀ now, (∀ a ∈ v.log, a.now ≤ now) → d.KeepsSecrets now v.deployment

/-- What a response means that says what is wrong with an order. -/
structure Rejected (texts : Std.ExtTreeMap String String)
    (foreign : String → Network → Network.Event → Prop) (d : Deployment)
    (v : Undertaking HttpResponse) (response : HttpResponse) : Prop where
  lines : ∃ lines, response = invalidSecrets lines ∧ HasFlaws texts lines
  unasked : v.log = []
  unchanged : (∀ name net event, ¬foreign name net event) → ∀ now, d.KeepsSecrets now v.deployment

variable {o : Order} {site : Site} {foreign : String → Network → Network.Event → Prop}
  {s : SecretStore} {d : Deployment} {v : Undertaking HttpResponse} {response : HttpResponse}
  {answer : SecretStore.Answer} {log : List Answer} {secrets : Secrets} {ids : List String}
  {ttl : Int} {id : String} {r : HttpRequest}

/-! ## Responses -/

theorem Order.size_eq_zero_iff : o.call.size = 0 ↔ ∀ id, ¬o.Names id := by
  cases o with
  | write secrets ttl =>
    exact Std.ExtTreeMap.eq_empty_iff_size_eq_zero.symm.trans
      Std.ExtTreeMap.eq_empty_iff_forall_not_mem
  | delete ids => exact List.length_eq_zero_iff.trans List.eq_nil_iff_forall_not_mem

theorem Order.hindrance_ne (o : Order) :
    o.hindrance ≠ .noContent ∧ o.hindrance ≠ .internalServerError := by
  cases o with
  | write secrets ttl => exact ⟨nofun, nofun⟩
  | delete ids => exact ⟨nofun, nofun⟩

theorem Order.status_obstacle (o : Order) (kept : String → Option Secret) :
    (failure (o.obstacle kept)).status = o.hindrance := by
  cases o <;> rfl

theorem Order.Refused.status_failure {a : Answer} {e : NodeError EngineError}
    (h : o.Refused s a e) : (failure e).status = .internalServerError := by
  rcases h with ⟨lease, cause, -, rfl⟩ | ⟨secrets, ttl, cause, -, -, rfl⟩
  · rfl
  · rfl

namespace Order.Outcome

variable {a : Answer}

theorem of_doneBy (h : o.Outcome site s log answer) (ha : a ∈ log) (hdone : o.DoneBy site s a) :
    answer = .ok none ∧ ∃ deadline, o.Fulfilled site s log a deadline := by
  rcases h.ran a ha hdone.1 with ⟨-, hfulfilled⟩ | ⟨hnot, -⟩
  · exact hfulfilled
  · exact absurd hdone.2 hnot

theorem of_not_allows (h : o.Outcome site s log answer) (ha : a ∈ log) (hran : o.Ran s a)
    (hnot : ¬o.Allows (a.kept site s)) : answer = .error (o.obstacle (a.kept site s)) := by
  rcases h.ran a ha hran with ⟨hallows, -⟩ | ⟨-, hfailed, -⟩
  · exact absurd hallows hnot
  · exact hfailed

theorem of_carriedOut (h : o.Outcome site s log answer) (hdone : o.CarriedOut site s log) :
    answer = .ok none := by
  rcases hdone with hempty | ⟨a, ha, hdone⟩
  · exact (h.idle (size_eq_zero_iff.2 hempty)).2
  · exact (h.of_doneBy ha hdone).1

theorem status_of_hindered (h : o.Outcome site s log answer) (hnot : o.Hindered site s log) :
    (respond answer).status = o.hindrance := by
  obtain ⟨a, ha, hran, hnot⟩ := hnot
  rw [h.of_not_allows ha hran hnot]
  exact o.status_obstacle _

theorem status_of_failed (h : o.Outcome site s log answer) (hfailed : o.Failed s log) :
    (respond answer).status = .internalServerError := by
  obtain ⟨a, ha, e, hrefused⟩ := hfailed
  rw [h.refused a ha e hrefused]
  exact hrefused.status_failure

/-- One of these has become of an order. -/
theorem cases (h : o.Outcome site s log answer) :
    o.CarriedOut site s log ∨ o.Hindered site s log ∨ o.Failed s log := by
  by_cases hempty : ∀ id, ¬o.Names id
  · exact .inl (.inl hempty)
  · rcases h.told (mt size_eq_zero_iff.1 hempty) with ⟨a, ha, hran⟩ | hrefused
    · by_cases hallows : o.Allows (a.kept site s)
      · exact .inl (.inr ⟨a, ha, hran, hallows⟩)
      · exact .inr (.inl ⟨a, ha, hran, hallows⟩)
    · exact .inr (.inr hrefused)

/-- The response to an order says what has become of it. -/
theorem answered (h : o.Outcome site s v.log answer)
    (hlinked : (∀ name net event, ¬foreign name net event) → d.Linked v.log v.deployment) :
    o.Answered site foreign s d v (respond answer) := by
  have hne := o.hindrance_ne
  have hnoContent (hdone : o.CarriedOut site s v.log) : (respond answer).status = .noContent := by
    rw [h.of_carriedOut hdone]
    rfl
  have hunsuccessful (hstatus : (respond answer).status ≠ .noContent) : answer ≠ .ok none := by
    rintro rfl
    exact hstatus rfl
  -- what has become of the order decides the status, and the statuses differ
  refine ⟨?status, ⟨?noContent, hnoContent⟩, ⟨?hindered, h.status_of_hindered⟩,
    ⟨?failed, h.status_of_failed⟩, ?obstacle, ?refusal, ?fulfilled, ?stays, ?untouched, ?unchanged⟩
  case status =>
    rcases h.cases with hdone | hnot | hfailed
    · simp [hnoContent hdone]
    · simp [h.status_of_hindered hnot]
    · simp [h.status_of_failed hfailed]
  case noContent =>
    intro hstatus
    rcases h.cases with hdone | hnot | hfailed
    · exact hdone
    · exact absurd ((h.status_of_hindered hnot).symm.trans hstatus) hne.1
    · cases (h.status_of_failed hfailed).symm.trans hstatus
  case hindered =>
    intro hstatus
    rcases h.cases with hdone | hnot | hfailed
    · exact absurd (hstatus.symm.trans (hnoContent hdone)) hne.1
    · exact hnot
    · exact absurd (hstatus.symm.trans (h.status_of_failed hfailed)) hne.2
  case failed =>
    intro hstatus
    rcases h.cases with hdone | hnot | hfailed
    · cases (hnoContent hdone).symm.trans hstatus
    · exact absurd ((h.status_of_hindered hnot).symm.trans hstatus) hne.2
    · exact hfailed
  case obstacle => exact fun a ha hran hnot => congrArg respond (h.of_not_allows ha hran hnot)
  case refusal => exact fun a ha e hrefused => congrArg respond (h.refused a ha e hrefused)
  case fulfilled => exact fun a ha hdone => (h.of_doneBy ha hdone).2
  case stays =>
    intro hnobody a ha hdone
    obtain ⟨earlier, hlog⟩ := h.last a ha hdone.1 hdone.2
    have hall := hlinked hnobody
    rw [hlog] at hall
    exact hall.network_eq_of_snoc
  case untouched => exact fun hstatus a ha => h.untouched (hunsuccessful hstatus) ha
  case unchanged =>
    exact fun hnobody hstatus now =>
      h.keepsSecrets_of_linked (hlinked hnobody) (hunsuccessful hstatus)

end Order.Outcome

/-! ## Responses to requests -/

theorem carryOut_eq (p : Procedure EngineError Unit) : carryOut p =
    Activity.bind (Activity.bind p fun result => .done (result.map fun _ => none)) fun answer =>
      .done (respond answer) := by
  show Activity.bind p _ = _
  rw [Activity.bind_assoc]
  congr 1
  funext result
  cases result with
  | ok u => rfl
  | error e => rfl

/-- A response comes after the store has answered. -/
theorem outcome_of_run {rest : Activity EngineError HttpResponse} (hd : d.HasPast)
    (hrest : rest = Activity.bind (s.perform o.call) fun answer => .done (respond answer))
    (hrun : Run site foreign ⟨d, rest, []⟩ v) (hend : v.rest = .done response) :
    ∃ answer, response = respond answer ∧ o.Outcome site s v.log answer := by
  subst hrest
  obtain ⟨u, hu, rfl | ⟨answer, hanswer, hresponding⟩⟩ := hrun.of_bind
  · cases hanswer : u.rest with
    | done answer =>
      dsimp only at hend
      rw [hanswer] at hend
      cases hend
      exact ⟨answer, rfl, Order.outcome_of_run hd hu hanswer⟩
    | abort | clock | either | ask =>
      dsimp only at hend
      rw [hanswer] at hend
      cases hend
  · obtain ⟨hdone, hlog⟩ := hresponding.of_done rfl
    cases hend.symm.trans hdone
    rw [hlog]
    exact ⟨answer, rfl, Order.outcome_of_run hd hu hanswer⟩

/-- A response always comes. -/
theorem exists_completes {rest : Activity EngineError HttpResponse}
    (hrest : rest = Activity.bind (s.perform o.call) fun answer => .done (respond answer))
    (now : Instant) (d : Deployment) :
    ∃ d' response, Deployment.backend.Completes site now d rest d' response := by
  subst hrest
  obtain ⟨d', answer, hanswer⟩ := o.exists_completes s now d
  exact ⟨d', respond answer, hanswer.bind .done⟩

/-- An order that is performed is answered. -/
theorem answered_of_run {rest : Activity EngineError HttpResponse} (hd : d.HasPast)
    (hrest : rest = Activity.bind (s.perform o.call) fun answer => .done (respond answer))
    (hrun : Run site foreign ⟨d, rest, []⟩ v) (hend : v.rest = .done response) :
    o.Answered site foreign s d v response := by
  obtain ⟨answer, rfl, houtcome⟩ := outcome_of_run hd hrest hrun hend
  exact houtcome.answered fun hnobody => hrun.linked hnobody fun _ => rfl

theorem Order.Answered.status_ne_badRequest (h : o.Answered site foreign s d v response) :
    response.status ≠ .badRequest := by
  intro hstatus
  have hmem := h.status
  rw [hstatus] at hmem
  cases o <;> simp [hindrance] at hmem

/-- Secrets that were written are read until they end. -/
theorem Order.Answered.reads_written {value : Bytes}
    (h : (Order.write secrets ttl).Answered site foreign s d v response)
    (hstatus : response.status = .noContent) (hvalue : secrets[id]? = some value) :
    ∃ a ∈ v.log, (Order.write secrets ttl).DoneBy site s a ∧ ∃ deadline,
      (Order.write secrets ttl).Due s v.log deadline ∧ ∀ d : Deployment,
        d.network site.servers = a.after.network site.servers → ∀ now,
          d.Reads site s now id (if deadline.all (now < ·) then some value else none) := by
  have hid : id ∈ secrets := by
    rw [← Std.ExtTreeMap.isSome_getElem?_iff_mem, hvalue]
    rfl
  rcases h.noContent.1 hstatus with hempty | ⟨a, ha, hdone⟩
  · exact absurd hid (hempty id)
  · obtain ⟨deadline, hfulfilled⟩ := h.fulfilled a ha hdone
    refine ⟨a, ha, hdone, deadline, hfulfilled.due, fun d hd now => ?_⟩
    have hreads := hfulfilled.reads d hd now id hid
    have hread : (((Order.write secrets ttl).carriedOut deadline (a.kept site s) id).filter
        (·.isLive now)).map (·.value) = if deadline.all (now < ·) then some value else none := by
      simp only [Order.carriedOut, hvalue, Option.map_some, Option.some_or, Option.filter_some,
        Secret.isLive, apply_ite (Option.map _), Option.map_none]
    rwa [hread] at hreads

/-- Secrets that were deleted are gone. -/
theorem Order.Answered.reads_deleted
    (h : (Order.delete ids).Answered site foreign s d v response)
    (hstatus : response.status = .noContent) (hid : id ∈ ids) :
    ∃ a ∈ v.log, (Order.delete ids).DoneBy site s a ∧ ∀ d : Deployment,
      d.network site.servers = a.after.network site.servers → ∀ now, d.Reads site s now id none := by
  rcases h.noContent.1 hstatus with hempty | ⟨a, ha, hdone⟩
  · exact absurd hid (hempty id)
  · obtain ⟨deadline, hfulfilled⟩ := h.fulfilled a ha hdone
    refine ⟨a, ha, hdone, fun d hd now => ?_⟩
    have hreads := hfulfilled.reads d hd now id hid
    rwa [Order.carriedOut, if_pos hid] at hreads

/-- A request to write is refused without further ado or is performed. -/
theorem answer_put {order : WriteOrder} (hpath : r.path = path) (hmethod : r.method = "PUT")
    (hbody : readBody readWriteOrder r = .ok order) :
    (∃ secrets, HasValues order.secrets secrets ∧ SecretsApi.answer s r =
      Activity.bind (s.perform (Order.write secrets order.timeToLive).call) fun answer =>
        .done (respond answer)) ∨
    ∃ lines, HasFlaws order.secrets lines ∧
      (SecretsApi.answer s r : Activity EngineError _) = .done (invalidSecrets lines) := by
  have hwrite : (SecretsApi.answer s r : Activity EngineError _) = write s r := by
    rw [SecretsApi.answer, HttpRequest.route, if_neg (not_not.2 hpath), hmethod]
    rfl
  rw [hwrite, write, hbody]
  dsimp only
  rcases decodeSecrets_cases order.secrets with
    ⟨secrets, hdecode, hvalues⟩ | ⟨lines, hdecode, hflaws⟩
  · rw [hdecode]
    exact .inl ⟨secrets, hvalues, carryOut_eq (s.set secrets order.timeToLive)⟩
  · rw [hdecode]
    exact .inr ⟨lines, hflaws, rfl⟩

theorem answer_delete {order : DeleteOrder} (hpath : r.path = path) (hmethod : r.method = "DELETE")
    (hbody : readBody readDeleteOrder r = .ok order) : SecretsApi.answer s r =
      Activity.bind (s.perform (Order.delete order.ids).call) fun answer =>
        .done (respond answer) := by
  have hdelete : (SecretsApi.answer s r : Activity EngineError _) = delete s r := by
    rw [SecretsApi.answer, HttpRequest.route, if_neg (not_not.2 hpath), hmethod]
    rfl
  rw [hdelete, delete, hbody]
  exact carryOut_eq (s.delete order.ids)

/-- What is wrong with an order is said without any request. -/
theorem rejected_of_run {texts : Std.ExtTreeMap String String} {lines : List String}
    (hflaws : HasFlaws texts lines) (hrun : Run site foreign ⟨d, .done (invalidSecrets lines), []⟩ v)
    (hend : v.rest = .done response) :
    response.status = .badRequest ∧ Rejected texts foreign d v response := by
  obtain ⟨hdone, hlog⟩ := hrun.of_done rfl
  cases hend.symm.trans hdone
  refine ⟨rfl, ⟨lines, rfl, hflaws⟩, hlog, fun hnobody now => ?_⟩
  have hlinked := hrun.linked (d := d) hnobody fun _ => rfl
  rw [hlog] at hlinked
  exact .of_network_eq hlinked now

/-- What a request comes to that writes or deletes secrets, from any state of the store and whatever
    others do in between.

    To write is refused without further ado if some text has no value, and the response then names
    exactly these. Otherwise it tells whether the secrets were written, some of them were there, or
    something else has failed, and to delete likewise. Secrets that were written are read until they
    end, those that were deleted are gone, and any other response has changed no secrets. -/
theorem orders_end_to_end (site : Site) (foreign : String → Network → Network.Event → Prop)
    (s : SecretStore) (hd : d.HasPast) (hpath : r.path = path) :
    (∀ order, r.method = "PUT" → readBody readWriteOrder r = .ok order →
      (∀ now, ∃ d' response,
        Deployment.backend.Completes site now d (SecretsApi.answer s r) d' response) ∧
      ∀ v response, Run site foreign ⟨d, SecretsApi.answer s r, []⟩ v → v.rest = .done response →
        (response.status = .badRequest ↔
          ∃ id text : String, order.secrets[id]? = some text ∧ ¬∃ value, Decodes text value) ∧
        (response.status = .badRequest → Rejected order.secrets foreign d v response) ∧
        (response.status ≠ .badRequest → ∃ secrets, HasValues order.secrets secrets ∧
          (Order.write secrets order.timeToLive).Answered site foreign s d v response ∧
          (response.status = .noContent → ∀ (id : String) value, secrets[id]? = some value →
            ∃ a ∈ v.log, (Order.write secrets order.timeToLive).DoneBy site s a ∧ ∃ deadline,
              (Order.write secrets order.timeToLive).Due s v.log deadline ∧ ∀ d : Deployment,
                d.network site.servers = a.after.network site.servers → ∀ now,
                  d.Reads site s now id (if deadline.all (now < ·) then some value else none)))) ∧
    (∀ order, r.method = "DELETE" → readBody readDeleteOrder r = .ok order →
      (∀ now, ∃ d' response,
        Deployment.backend.Completes site now d (SecretsApi.answer s r) d' response) ∧
      ∀ v response, Run site foreign ⟨d, SecretsApi.answer s r, []⟩ v → v.rest = .done response →
        (Order.delete order.ids).Answered site foreign s d v response ∧
        (response.status = .noContent → ∀ id ∈ order.ids, ∃ a ∈ v.log,
          (Order.delete order.ids).DoneBy site s a ∧ ∀ d : Deployment,
            d.network site.servers = a.after.network site.servers → ∀ now,
              d.Reads site s now id none)) := by
  constructor
  · intro order hmethod hbody
    rcases answer_put hpath hmethod hbody with ⟨secrets, hvalues, hanswer⟩ | ⟨lines, hflaws, hanswer⟩
    · refine ⟨fun now => exists_completes hanswer now d, fun v response hrun hend => ?_⟩
      have hanswered := answered_of_run hd hanswer hrun hend
      have hwell : response.status ≠ .badRequest := hanswered.status_ne_badRequest
      refine ⟨⟨fun hstatus => absurd hstatus hwell, ?_⟩, fun hstatus => absurd hstatus hwell,
        fun _ => ⟨secrets, hvalues, hanswered, fun hstatus id value hvalue =>
          hanswered.reads_written hstatus hvalue⟩⟩
      rintro ⟨id, text, htext, hnone⟩
      exact absurd (hvalues.exists_value id text htext) hnone
    · rw [hanswer]
      refine ⟨fun now => ⟨d, _, .done⟩, fun v response hrun hend => ?_⟩
      obtain ⟨hstatus, hrejected⟩ := rejected_of_run hflaws hrun hend
      exact ⟨⟨fun _ => hflaws.exists_flaw, fun _ => hstatus⟩, fun _ => hrejected,
        fun hother => absurd hstatus hother⟩
  · intro order hmethod hbody
    have hanswer := answer_delete (s := s) hpath hmethod hbody
    refine ⟨fun now => exists_completes hanswer now d, fun v response hrun hend => ?_⟩
    have hanswered := answered_of_run hd hanswer hrun hend
    exact ⟨hanswered, fun hstatus id hid => hanswered.reads_deleted hstatus hid⟩

/-! ## A trial -/

namespace Trial

/-- A request to write a secret that ends after a minute. -/
def put : HttpRequest where
  method := "PUT"
  target := "/v1/secrets"
  contentType := some "application/json"
  body := Bytes.ofString
    "\x7b\"secrets\": \x7b\"k\": \"MDEyMzQ1Njc4OWFiY2RlZg==\"\x7d, \"time_to_live\": 60\x7d"

/-- A deployment with a cluster of two servers. -/
def paired : Deployment where
  machine := { files := {}, clock := 0 }
  networks := [("net", ({ ids := { draw := (· + 1) } } : Network).afterAll (Network.pairing "a" "b"))]
  streams := fun _ n => n + 1

/-- The first of its servers. -/
def first : SecretStore := ⟨⟨0, "a"⟩, administrator⟩

theorem hasPast_paired : paired.HasPast := .of_networks_eq rfl

theorem readBody_put : ∃ order, readBody readWriteOrder put = .ok order ∧
    order.secrets["k"]? = some "MDEyMzQ1Njc4OWFiY2RlZg==" ∧ order.timeToLive = 60 := by
  have hread : (readBody readWriteOrder put).toOption.map
      (fun order => (order.secrets["k"]?, order.timeToLive)) =
        some (some "MDEyMzQ1Njc4OWFiY2RlZg==", 60) := by
    decide +kernel
  cases hbody : readBody readWriteOrder put with
  | error refusal =>
    rw [hbody] at hread
    cases hread
  | ok order =>
    rw [hbody] at hread
    obtain ⟨hsecret, htime⟩ := Prod.mk.inj (Option.some.inj hread)
    exact ⟨order, rfl, hsecret, htime⟩

/-- The response to a request, if it comes at once. -/
def response? (d : Deployment) (s : SecretStore) (r : HttpRequest) : Option HttpResponse :=
  match Deployment.backend.advance ⟨"net", "net"⟩ none 0 (SecretsApi.answer s r) d with
  | (_, .ended response) => some response
  | _ => none

theorem run_of_response? (foreign : String → Network → Network.Event → Prop)
    (h : response? d s r = some response) : ∃ v,
      Run ⟨"net", "net"⟩ foreign ⟨d, SecretsApi.answer s r, []⟩ v ∧ v.rest = .done response := by
  unfold response? at h
  split at h
  · next heq =>
    cases h
    obtain ⟨log, hrun⟩ := Run.of_advance foreign [] heq
    exact ⟨_, hrun, rfl⟩
  · cases h

theorem response?_put : response? paired first put = some { status := .noContent } := by
  decide +kernel

end Trial

/-- A secret is written and read as long as it lasts. -/
theorem orders_end_to_end_written : Trial.paired.HasPast ∧ Trial.put.path = path ∧
    ∃ v granted deadline, Run ⟨"net", "net"⟩ (fun _ _ _ => False)
        ⟨Trial.paired, SecretsApi.answer Trial.first Trial.put, []⟩ v ∧
      v.rest = .done { status := .noContent } ∧
      Instant.ofSecondsAfter? granted 60 = some deadline ∧
      ∀ now, v.deployment.Reads ⟨"net", "net"⟩ Trial.first now "k"
        (if now < deadline then some (Bytes.ofString "0123456789abcdef") else none) := by
  have hpath : Trial.put.path = path := by decide +kernel
  obtain ⟨order, hbody, hsecret, htime⟩ := Trial.readBody_put
  obtain ⟨v, hrun, hend⟩ := Trial.run_of_response? (fun _ _ _ => False) Trial.response?_put
  obtain ⟨hput, -⟩ := orders_end_to_end ⟨"net", "net"⟩ (fun _ _ _ => False) Trial.first
    Trial.hasPast_paired hpath
  obtain ⟨-, hevery⟩ := hput order rfl hbody
  obtain ⟨-, -, hwell⟩ := hevery v _ hrun hend
  obtain ⟨secrets, hvalues, hanswered, hreads⟩ := hwell nofun
  have hdecodes : Decodes "MDEyMzQ1Njc4OWFiY2RlZg==" (Bytes.ofString "0123456789abcdef") :=
    ⟨by decide +kernel, by decide +kernel⟩
  obtain ⟨a, ha, hdone, deadline, hdue, hread⟩ :=
    hreads rfl "k" _ ((hvalues.getElem?_eq_some "k" _).2 ⟨_, hsecret, hdecodes⟩)
  rw [htime] at hdue
  obtain ⟨g, -, lease, -, hsome, hdeadline⟩ := hdue
  obtain ⟨instant, rfl⟩ := Option.isSome_iff_exists.1 hsome
  refine ⟨Trial.hasPast_paired, hpath, v, g.now, instant, hrun, hend, hdeadline.symm, fun now => ?_⟩
  have hstays := hanswered.stays (fun _ _ _ => id) a ha hdone "net"
  have hfound := hread v.deployment hstays now
  simpa using hfound

end ClusterVault.SecretsApi
