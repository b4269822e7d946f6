import ClusterVault.Proofs.Api.Orders

/-!
# How an order is performed

A store performs an order by up to three requests, and others may act before each of them. Whatever
they do, a lease that the order was granted keeps its deadline until the transaction is made.

## Main statements

- `SecretsApi.Order.outcome_of_run`: what becomes of an order
- `SecretsApi.Order.exists_completes`: an order always comes to an end
-/

namespace ClusterVault

variable {site : Site} {foreign : String → Network → Network.Event → Prop} {s : SecretStore}
  {d : Deployment} {command : Command}

/-- An activity that waits for the reply to a request, and has come to its end, was given one. -/
theorem Undertaking.Run.of_awaits {α : Type} {v : Undertaking α} {rest : Activity EngineError α}
    {log : List Answer} {resume : Except EngineError command.Reply → Activity EngineError α} {x : α}
    (hrun : Run site foreign ⟨d, rest, log⟩ v) (h : rest.Awaits s command resume)
    (hend : v.rest = .done x) :
    ∃ a reply, Run site foreign ⟨d, rest, log⟩ ⟨a.before, rest, log⟩ ∧ a.Given site ∧
      a.Replies s command reply ∧ Run site foreign ⟨a.after, resume reply, log ++ [a]⟩ v := by
  obtain ⟨next, hnext, hresume⟩ := h
  obtain ⟨before, now, reply, after, hwaited, hgiven, hrest⟩ := hrun.of_ask hnext hend
  rw [hresume] at hrest
  exact ⟨_, reply, hwaited, hgiven, ⟨before, now, after, rfl⟩, hrest⟩

/-- A request through a server is answered at once. -/
theorem Activity.Awaits.exists_completes {α : Type} {now : Instant} {rest : Activity EngineError α}
    {resume : Except EngineError command.Reply → Activity EngineError α}
    (h : rest.Awaits s command resume)
    (hresume : ∀ reply d, ∃ d' x, Deployment.backend.Completes site now d (resume reply) d' x)
    (d : Deployment) : ∃ d' x, Deployment.backend.Completes site now d rest d' x := by
  obtain ⟨next, rfl, hnext⟩ := h
  generalize hserve : (d.network site.servers).serve now s.server.id s.user command = served
  obtain ⟨net, reply⟩ := served
  have hissue : d.issue site now (.serve s.server s.user command) =
      (d.setNetwork site.servers net, .answered reply) := by
    rw [Deployment.issue, hserve]
  obtain ⟨d', x, hrest⟩ := hresume reply (d.setNetwork site.servers net)
  have hsame : next (.reply reply) = resume reply := hnext reply
  exact ⟨d', x, .ask hissue rfl (hsame ▸ hrest)⟩

namespace SecretsApi.Order

variable {o : Order} {v : Undertaking SecretStore.Answer} {answer : SecretStore.Answer}
  {secrets : Secrets} {ttl : Int}

open Undertaking (Run)

theorem Outcome.of_idle (hsize : o.call.size = 0) : o.Outcome site s [] (.ok none) where
  given _ ha := absurd ha List.not_mem_nil
  requests _ ha := absurd ha List.not_mem_nil
  idle _ := ⟨rfl, rfl⟩
  told h := absurd hsize h
  ran _ ha := absurd ha List.not_mem_nil
  refused _ ha := absurd ha List.not_mem_nil
  last _ ha := absurd ha List.not_mem_nil
  revoked _ ha := absurd ha List.not_mem_nil

/-- A lease that was granted keeps its deadline until the next request, if it is still there then. -/
theorem fixes_of_granted {g a : Answer} {l : LeaseId} {rest : Activity EngineError SecretStore.Answer}
    {log : List Answer} (hgiven : g.Given site) (hrooted : (g.before.network site.servers).Rooted)
    (hsettled : (g.before.network site.servers).Settled)
    (h : g.Replies s (.grantLease ttl) (.ok l))
    (hwaited : Run site foreign ⟨g.after, rest, log⟩ ⟨a.before, rest, log⟩) :
    ∃ deadline, g.now.ofSecondsAfter? ttl.toNat = some deadline ∧
      (a.before.network site.servers).Fixes s.server.id l deadline := by
  rcases h.cases hgiven with ⟨b, limit, c, c', -, hb, hc, hserve, hafter⟩ | ⟨⟨e, he⟩, -⟩
  · have hconsistent := hrooted.consistent_home? (Network.home?_of_membership? hb hc)
    obtain ⟨deadline, hdeadline, hlease, hold, -, -⟩ :=
      Cluster.grantLease_of_serve hconsistent hserve
    have hfixes : c'.keyspace.Fixes l deadline := by
      refine ⟨hold, fun d hd => ?_⟩
      rw [hlease] at hd
      exact (Option.some.inj hd).symm
    have hgranted : (g.after.network site.servers).Fixes s.server.id l deadline := by
      rw [hafter]
      exact ⟨c', Network.home?_setCluster hb hc, hfixes⟩
    have hsettled' : (g.after.network site.servers).Settled :=
      (Deployment.sees?_of_given hgiven site.servers).keeps (fun _ _ h => h)
        (fun event _ h => h.after event) hsettled
    -- no event prolongs a lease or moves a server to another cluster
    refine ⟨deadline, hdeadline, ?_⟩
    have hkept := Run.keeps_networks
      (P := fun name net => name = site.servers → net.Settled ∧ net.Fixes s.server.id l deadline)
      (fun _ _ _ h => h)
      (fun _ _ event h heq => ⟨(h heq).1.after event, (h heq).2.after (h heq).1 event⟩) hwaited
      (by rintro name rfl; exact ⟨hsettled', hgranted⟩) site.servers rfl
    exact hkept.2
  · cases he

/-- Secrets are due when the lease that was granted for them ends. -/
theorem due_of_granted {g a : Answer} {l : LeaseId} {log : List Answer} {due : Instant}
    (hpos : 0 < ttl) (hg : g ∈ log) (h : g.Replies s (.grantLease ttl) (.ok l))
    (hdue : g.now.ofSecondsAfter? ttl.toNat = some due)
    (hfixes : (a.before.network site.servers).Fixes s.server.id l due)
    {found : Option Instant} (hlasts : Lasts site s a (some l) found) :
    (write secrets ttl).Due s log found := by
  obtain ⟨hsome, hfound⟩ := hlasts
  obtain ⟨deadline, rfl⟩ := Option.isSome_iff_exists.1 hsome
  obtain ⟨c, hc, -, hunique⟩ := hfixes
  rw [Network.deadlineAt, hc, Option.bind_some] at hfound
  obtain rfl := hunique deadline hfound
  rw [Due, if_pos hpos]
  exact ⟨g, hg, l, h, rfl, hdue.symm⟩

/-! ## Runs of orders -/

/-- After secrets were written with a lease, either that is all or the lease is revoked. -/
theorem course_of_afterWriting (ttl : Int) {g a : Answer} {l : LeaseId}
    {reply : Except EngineError Transaction.Result} (hend : v.rest = .done answer)
    (hgranted : g.Replies s (.grantLease ttl) (.ok l))
    (hrun : Run site foreign ⟨d, s.afterWriting secrets l reply, [g, a]⟩ v) :
    Course (write secrets ttl) s reply a (some l) v.log ∧ g ∈ v.log ∧
      answer = (write secrets ttl).verdict reply := by
  have hverdict : (write secrets ttl).verdict reply =
    (SecretStore.written secrets.toList reply).map fun _ => none := rfl
  unfold SecretStore.afterWriting at hrun
  cases hwritten : SecretStore.written secrets.toList reply with
  | ok u =>
    rw [hwritten] at hrun hverdict
    obtain ⟨hdone, hlog⟩ := hrun.of_done rfl
    cases hend.symm.trans hdone
    rw [hlog]
    exact ⟨.granted hgranted, List.mem_cons_self, hverdict.symm⟩
  | error e =>
    rw [hwritten] at hrun hverdict
    obtain ⟨r, ended, -, -, hrevoked, hrest⟩ := hrun.of_awaits (s.awaits_revoke l (.error e)) hend
    obtain ⟨hdone, hlog⟩ := hrest.of_done rfl
    cases hend.symm.trans hdone
    have hfailed : (write secrets ttl).verdict reply ≠ .ok none := by
      rw [hverdict]
      nofun
    rw [hlog]
    exact ⟨.revoked hgranted hfailed hrevoked, List.mem_cons_self, hverdict.symm⟩

section Runs

variable {ids : List String}
  (hgiven : ∀ a ∈ v.log, a.Given site ∧ (a.before.network site.servers).Settled ∧
    (a.before.network site.servers).Rooted)
  (hend : v.rest = .done answer)

include hgiven hend

theorem outcome_of_delete (hne : ids ≠ [])
    (hrun : Run site foreign ⟨d, s.perform (.delete ids), []⟩ v) :
    (delete ids).Outcome site s v.log answer := by
  obtain ⟨a, reply, -, -, hreplies, hrest⟩ := hrun.of_awaits (s.awaits_delete ids hne) hend
  have hdone : v.rest = .done ((delete ids).verdict reply) ∧ v.log = [a] := by
    cases reply with
    | error e => exact hrest.of_done rfl
    | ok result => exact hrest.of_done rfl
  obtain ⟨hverdict, hlog⟩ := hdone
  cases hend.symm.trans hverdict
  rw [hlog] at hgiven ⊢
  have hcourse : Course (delete ids) s reply a none [a] := .direct
  exact .of_course hcourse (fun b hb => ⟨(hgiven b hb).1, (hgiven b hb).2.2⟩)
    (mt List.length_eq_zero_iff.1 hne) hreplies nofun

/-- Secrets without a time to live are written at once. -/
theorem outcome_of_write (hsize : secrets.size ≠ 0) (hnonpos : ¬0 < ttl)
    (hrun : Run site foreign ⟨d, s.perform (.set secrets ttl), []⟩ v) :
    (write secrets ttl).Outcome site s v.log answer := by
  obtain ⟨a, reply, -, -, hreplies, hrest⟩ :=
    hrun.of_awaits (s.awaits_set secrets hsize hnonpos) hend
  obtain ⟨hverdict, hlog⟩ : v.rest = .done ((write secrets ttl).verdict reply) ∧ v.log = [a] :=
    hrest.of_done rfl
  cases hend.symm.trans hverdict
  rw [hlog] at hgiven ⊢
  have hcourse : Course (write secrets ttl) s reply a none [a] := .direct
  refine .of_course hcourse (fun b hb => ⟨(hgiven b hb).1, (hgiven b hb).2.2⟩) hsize hreplies ?_
  rintro _ _ deadline heq hlasts
  cases heq
  rw [Due, if_neg hnonpos]
  exact hlasts

/-- Secrets with a time to live are written with a lease, which is revoked if that fails. -/
theorem outcome_of_write_granted (hsize : secrets.size ≠ 0) (hpos : 0 < ttl)
    (hrun : Run site foreign ⟨d, s.perform (.set secrets ttl), []⟩ v) :
    (write secrets ttl).Outcome site s v.log answer := by
  obtain ⟨g, lease, -, -, hgranted, hrest⟩ :=
    hrun.of_awaits (s.awaits_set_granting secrets hsize hpos) hend
  cases lease with
  | error cause =>
    obtain ⟨hrefused, hlog⟩ := hrest.of_done rfl
    cases hend.symm.trans hrefused
    rw [hlog] at hgiven ⊢
    obtain ⟨hggiven, -, hgrooted⟩ := hgiven g List.mem_cons_self
    exact .of_not_granted ⟨hggiven, hgrooted⟩ hsize hgranted
  | ok l =>
    obtain ⟨a, reply, hwaited, -, hreplies, hlater⟩ :=
      hrest.of_awaits (s.awaits_write_granted secrets l) hend
    obtain ⟨hcourse, hg, rfl⟩ := course_of_afterWriting ttl hend hgranted hlater
    refine .of_course hcourse (fun b hb => ⟨(hgiven b hb).1, (hgiven b hb).2.2⟩) hsize hreplies ?_
    rintro _ _ deadline heq hlasts
    cases heq
    obtain ⟨hggiven, hgsettled, hgrooted⟩ := hgiven g hg
    obtain ⟨due, hdue, hfixes⟩ := fixes_of_granted hggiven hgrooted hgsettled hgranted hwaited
    exact due_of_granted hpos hg hgranted hdue hfixes hlasts

end Runs

/-- What becomes of an order, whatever it is answered and whatever others do in between. -/
theorem outcome_of_run (hd : d.HasPast) (hrun : Run site foreign ⟨d, s.perform o.call, []⟩ v)
    (hend : v.rest = .done answer) : o.Outcome site s v.log answer := by
  have hlog := (hrun.keeps (P := fun _ net => net.Settled ∧ net.Rooted) (fun _ _ _ h => h)
    (fun _ _ event h => ⟨h.1.after event, h.2.after event⟩)
    (fun name => ⟨hd.settled name, hd.rooted name⟩) (fun _ ha => absurd ha List.not_mem_nil)).2
  have hgiven (a : Answer) (ha : a ∈ v.log) : a.Given site ∧
      (a.before.network site.servers).Settled ∧ (a.before.network site.servers).Rooted :=
    ⟨(hlog a ha).1, (hlog a ha).2 site.servers⟩
  by_cases hsize : o.call.size = 0
  · rw [s.perform_of_size_eq_zero hsize] at hrun
    obtain ⟨hdone, hnone⟩ := hrun.of_done rfl
    rw [hnone]
    cases hend.symm.trans hdone
    exact .of_idle hsize
  · cases o with
    | delete ids => exact outcome_of_delete hgiven hend (mt List.length_eq_zero_iff.2 hsize) hrun
    | write secrets ttl =>
      by_cases hpos : 0 < ttl
      · exact outcome_of_write_granted hgiven hend hsize hpos hrun
      · exact outcome_of_write hgiven hend hsize hpos hrun

/-! ## Totality -/

theorem exists_completes_afterWriting (now : Instant) (secrets : Secrets) (l : LeaseId)
    (reply : Except EngineError Transaction.Result) (d : Deployment) : ∃ d' answer,
      Deployment.backend.Completes site now d (s.afterWriting secrets l reply) d' answer := by
  unfold SecretStore.afterWriting
  split
  · exact ⟨d, _, .done⟩
  · exact (s.awaits_revoke l _).exists_completes (fun _ d => ⟨d, _, .done⟩) d

/-- An order is answered at once, and the answer always comes. -/
theorem exists_completes (o : Order) (s : SecretStore) (now : Instant) (d : Deployment) :
    ∃ d' answer, Deployment.backend.Completes site now d (s.perform o.call) d' answer := by
  by_cases hsize : o.call.size = 0
  · rw [s.perform_of_size_eq_zero hsize]
    exact ⟨d, _, .done⟩
  · cases o with
    | delete ids =>
      refine (s.awaits_delete ids (mt List.length_eq_zero_iff.2 hsize)).exists_completes ?_ d
      intro reply d
      cases reply with
      | error e => exact ⟨d, _, .done⟩
      | ok result => exact ⟨d, _, .done⟩
    | write secrets ttl =>
      by_cases hpos : 0 < ttl
      · refine (s.awaits_set_granting secrets hsize hpos).exists_completes ?_ d
        intro lease d
        cases lease with
        | error e => exact ⟨d, _, .done⟩
        | ok l =>
          exact (s.awaits_write_granted secrets l).exists_completes
            (exists_completes_afterWriting now secrets l) d
      · exact (s.awaits_set secrets hsize hpos).exists_completes (fun _ d => ⟨d, _, .done⟩) d

end SecretsApi.Order

end ClusterVault
