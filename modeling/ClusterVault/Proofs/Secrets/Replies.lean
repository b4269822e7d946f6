import ClusterVault.Proofs.Node.Undertaking
import ClusterVault.Proofs.Secrets.Kept

/-!
# What a store of secrets is answered

A store asks its server, and the server asks its cluster. This module follows a request on its way
there and back, and what becomes of the leases of the cluster until the next request comes.

## Main definitions

- `Network.home?`: the cluster of a server
- `Network.secretAt`, `Network.deadlineAt`, `Network.Secures`: what it keeps
- `Keyspace.Fixes`: a lease ends at a deadline, if it does not end before
- `Answer.Replies`: the reply to a request of a store
- `Deployment.KeepsSecrets`: from an instant on all clusters keep the same secrets

## Main statements

- `Answer.Replies.cases`: a request is refused without further ado, or a cluster serves it
- `Network.Fixes.after`: leases are never prolonged
- `Answer.Replies.reads`: whoever could write or delete a secret can read it
-/

namespace ClusterVault

/-! ## Leases -/

namespace Keyspace

variable {ks ks' : Keyspace} {ops : List Operation} {l : LeaseId} {deadline : Instant}

/-- A lease has been granted, and if it is still there it ends at the deadline. -/
def Fixes (ks : Keyspace) (l : LeaseId) (deadline : Instant) : Prop :=
  l < ks.nextLease ∧ ∀ d, ks.deadline? l = some d → d = deadline

theorem Step.fixes (h : Step ks ops ks') (hfixes : ks.Fixes l deadline) : ks'.Fixes l deadline := by
  refine ⟨lt_of_lt_of_le hfixes.1 h.nextLease_le, fun d hd => hfixes.2 d ?_⟩
  cases h with
  | commit _ => simpa [commit_eq] using hd
  | grantLease => rwa [deadline?_grantLease, if_neg (ne_of_gt hfixes.1)] at hd
  | dropLease id =>
    rw [deadline?_dropLease] at hd
    split at hd
    · cases hd
    · exact hd

theorem Run.fixes (h : Run ks ops ks') (hfixes : ks.Fixes l deadline) : ks'.Fixes l deadline := by
  induction h with
  | nil => exact hfixes
  | snoc _ hstep ih => exact hstep.fixes ih

end Keyspace

/-! ## The cluster of a server -/

namespace Network

variable {net : Network} {i : NodeId} {a : Attachment} {c c' : Cluster} {l : LeaseId}
  {deadline : Instant}

/-- The cluster that a server is a member of. -/
def home? (net : Network) (i : NodeId) : Option Cluster :=
  (net.membership? i).bind fun a => net.clusters[a.cluster]?

/-- The secret that a server has under an id, if it has not ended. -/
def secretAt (net : Network) (i : NodeId) (now : Instant) (id : String) : Option Secret :=
  (net.home? i).bind (·.secretAt now id)

/-- When a lease of a server ends. -/
def deadlineAt (net : Network) (i : NodeId) (l : LeaseId) : Option Instant :=
  (net.home? i).bind (·.keyspace.deadline? l)

/-- A secret that a server has ends with the lease. -/
def Secures (net : Network) (i : NodeId) (l : LeaseId) : Prop :=
  ∃ c ∈ net.home? i, c.keyspace.Secures l

/-- A lease of a server has been granted, and if it is still there it ends at the deadline. -/
def Fixes (net : Network) (i : NodeId) (l : LeaseId) (deadline : Instant) : Prop :=
  ∃ c ∈ net.home? i, c.keyspace.Fixes l deadline

theorem home?_of_membership? (ha : net.membership? i = some a)
    (hc : net.clusters[a.cluster]? = some c) : net.home? i = some c :=
  Option.bind_eq_some_iff.2 ⟨a, ha, hc⟩

theorem home?_setCluster (ha : net.membership? i = some a)
    (hc : net.clusters[a.cluster]? = some c) :
    (net.setCluster a.cluster c').home? i = some c' :=
  have ha' : (net.setCluster a.cluster c').membership? i = some a := ha
  home?_of_membership? ha' (clusters_setCluster hc c')

theorem Rooted.consistent_home? (h : net.Rooted) (hc : net.home? i = some c) :
    c.keyspace.Consistent := by
  obtain ⟨a, -, hmem⟩ := Option.bind_eq_some_iff.1 hc
  exact (h c (List.mem_of_getElem? hmem)).consistent

/-- Leases are never prolonged. -/
theorem Fixes.after (h : net.Fixes i l deadline) (hsettled : net.Settled) (event : Event) :
    (net.after event).Fixes i l deadline := by
  obtain ⟨c, hhome, hfixes⟩ := h
  obtain ⟨a, ha, hc⟩ := Option.bind_eq_some_iff.1 hhome
  obtain ⟨c', ops, hc', hrun⟩ := runs_after net event a.cluster c hc
  exact ⟨c', home?_of_membership? (hsettled.membership?_after ha event) hc',
    hrun.keyspace.fixes hfixes⟩

/-- A request is refused without further ado, or the cluster of the server serves it. -/
theorem serve_cases (net : Network) (now : Instant) (i : NodeId) (user : String) (command : Command) :
    (∃ a limit c, net.limitAt? i a.cluster = some limit ∧ net.membership? i = some a ∧
      net.clusters[a.cluster]? = some c ∧ net.serve now i user command =
        (net.setCluster a.cluster (c.serve user now limit command).2,
          (c.serve user now limit command).1)) ∨
    ∃ e, net.serve now i user command = (net, .error e) := by
  cases hnode : net.nodes[i]? with
  | none => exact .inr ⟨.stopped, by simp only [serve, hnode]⟩
  | some node =>
    cases hcluster : node.cluster with
    | error e => exact .inr ⟨e, by simp only [serve, hnode, hcluster]⟩
    | ok k =>
      cases hc : net.clusters[k]? with
      | none => exact .inr ⟨.stopped, by simp only [serve, hnode, hcluster, hc]⟩
      | some c =>
        obtain ⟨a, ha, rfl⟩ : ∃ a, node.attachment = some a ∧ a.cluster = k := by
          unfold ServerNode.cluster at hcluster
          split at hcluster
          · cases hcluster
          · split at hcluster
            · next a ha =>
              cases hcluster
              exact ⟨a, ha, rfl⟩
            · cases hcluster
        have hlimit : net.limitAt? i a.cluster = some node.config.maxOperations := by
          simp [limitAt?, hnode, hcluster, Except.toOption]
        refine .inl ⟨a, _, c, hlimit, ?_, hc, serve_of_limitAt? hlimit hc now user command⟩
        rw [membership?, hnode]
        exact ha

end Network

/-! ## Replies -/

namespace Deployment

variable {d d' d'' : Deployment} {now later : Instant}

/-- From an instant on all clusters keep the same secrets, with the same values and deadlines. -/
def KeepsSecrets (now : Instant) (d d' : Deployment) : Prop :=
  ∀ (name : String) (k : ClusterId) (c : Cluster), (d.network name).clusters[k]? = some c →
    ∃ c', (d'.network name).clusters[k]? = some c' ∧ Cluster.KeepsSecrets now c c'

theorem KeepsSecrets.of_network_eq (h : ∀ name, d'.network name = d.network name) (now : Instant) :
    KeepsSecrets now d d' := by
  intro name k c hc
  exact ⟨c, by rw [h]; exact hc, .refl now c⟩

theorem KeepsSecrets.trans (h : KeepsSecrets now d d') (h' : KeepsSecrets now d' d'') :
    KeepsSecrets now d d'' := by
  intro name k c hc
  obtain ⟨c', hc', hkeeps⟩ := h name k c hc
  obtain ⟨c'', hc'', hkeeps'⟩ := h' name k c' hc'
  exact ⟨c'', hc'', hkeeps.trans hkeeps'⟩

theorem KeepsSecrets.mono (h : KeepsSecrets now d d') (hle : now ≤ later) :
    KeepsSecrets later d d' := by
  intro name k c hc
  obtain ⟨c', hc', hkeeps⟩ := h name k c hc
  exact ⟨c', hc', hkeeps.mono hle⟩

/-- Answers that change no secrets leave them all as they are if nothing else happens. -/
theorem KeepsSecrets.of_linked {log : List Answer} (h : d.Linked log d')
    (hkeeps : ∀ a ∈ log, KeepsSecrets a.now a.before a.after) (hle : ∀ a ∈ log, a.now ≤ now) :
    KeepsSecrets now d d' := by
  induction log generalizing d with
  | nil => exact .of_network_eq h now
  | cons a log ih =>
    obtain ⟨hbefore, hlinked⟩ := h
    rw [List.forall_mem_cons] at hkeeps hle
    have hfirst : KeepsSecrets now d a.before := .of_network_eq hbefore now
    exact hfirst.trans ((hkeeps.1.mono hle.1).trans (ih hlinked hkeeps.2 hle.2))

/-- A store that is asked for a secret at an instant answers so, and no secret changes by that. -/
def Reads (d : Deployment) (site : Site) (s : SecretStore) (now : Instant) (id : String)
    (value : Option Bytes) : Prop :=
  ∃ d', backend.Completes site now d (s.get id).run d' (.ok value) ∧ KeepsSecrets now d d'

end Deployment

/-- The answer is the reply to a request of a store. -/
def Answer.Replies (a : Answer) (s : SecretStore) (command : Command)
    (reply : Except EngineError command.Reply) : Prop :=
  ∃ before now after, a = ⟨before, now, .serve s.server s.user command, reply, after⟩

namespace Answer.Replies

variable {a : Answer} {site : Site} {s : SecretStore} {command : Command}
  {reply : Except EngineError command.Reply} {t t' : Transaction}
  {result result' : Except EngineError Transaction.Result} {id : String}

/-- An answer is the reply to one request only. -/
theorem unique {command' : Command} {reply' : Except EngineError command'.Reply}
    (h : a.Replies s command reply) (h' : a.Replies s command' reply') :
    (⟨command, reply⟩ : (command : Command) × Except EngineError command.Reply) =
      ⟨command', reply'⟩ := by
  obtain ⟨before, now, after, rfl⟩ := h
  obtain ⟨before', now', after', heq⟩ := h'
  cases heq
  rfl

theorem transact_unique (h : a.Replies s (.transact t) result)
    (h' : a.Replies s (.transact t') result') : result = result' := by
  cases h.unique h'
  rfl

variable (hgiven : a.Given site)

include hgiven

/-- A request is refused without further ado, or the cluster of the server serves it. -/
theorem cases (h : a.Replies s command reply) :
    (∃ b limit c c', (a.before.network site.servers).limitAt? s.server.id b.cluster = some limit ∧
      (a.before.network site.servers).membership? s.server.id = some b ∧
      (a.before.network site.servers).clusters[b.cluster]? = some c ∧
      c.serve s.user a.now limit command = (reply, c') ∧
      a.after.network site.servers = (a.before.network site.servers).setCluster b.cluster c') ∨
    ((∃ e, reply = .error e) ∧
      a.after.network site.servers = a.before.network site.servers) := by
  obtain ⟨before, now, after, rfl⟩ := h
  have hserve := Deployment.serve_of_given hgiven
  rcases (before.network site.servers).serve_cases now s.server.id s.user command with
    ⟨b, limit, c, hlimit, hb, hc, heq⟩ | ⟨e, heq⟩
  · obtain ⟨hafter, hreply⟩ := Prod.mk.inj (hserve.symm.trans heq)
    exact .inl ⟨b, limit, c, _, hlimit, hb, hc, Prod.ext hreply.symm rfl, hafter⟩
  · obtain ⟨hafter, hreply⟩ := Prod.mk.inj (hserve.symm.trans heq)
    exact .inr ⟨⟨e, hreply⟩, hafter⟩

/-- A request changes no secrets if it changes none of the cluster of the server. -/
theorem keepsSecrets (h : a.Replies s command reply)
    (hkeeps : ∀ c c' limit, (a.before.network site.servers).home? s.server.id = some c →
      c.serve s.user a.now limit command = (reply, c') → Cluster.KeepsSecrets a.now c c') :
    Deployment.KeepsSecrets a.now a.before a.after := by
  intro name k c hc
  by_cases hname : name = site.servers
  · subst hname
    rcases h.cases hgiven with ⟨b, limit, c₀, c', -, hb, hc₀, hserve, hafter⟩ | ⟨-, hafter⟩
    · rw [hafter]
      by_cases hk : k = b.cluster
      · subst hk
        rw [hc₀] at hc
        cases hc
        exact ⟨c', Network.clusters_setCluster hc₀ c',
          hkeeps c c' limit (Network.home?_of_membership? hb hc₀) hserve⟩
      · exact ⟨c, by rw [Network.getElem?_setCluster, if_neg hk]; exact hc, .refl _ c⟩
    · exact ⟨c, by rw [hafter]; exact hc, .refl _ c⟩
  · -- nothing happens on other networks
    obtain ⟨before, now, after, rfl⟩ := h
    have hnone : Answer.event? ⟨before, now, .serve s.server s.user command, reply, after⟩ site name =
        none := if_neg hname
    have hsees := Deployment.sees?_of_given hgiven name
    rw [hnone] at hsees
    exact ⟨c, by rw [hsees.clusters_eq]; exact hc, .refl _ c⟩

end Answer.Replies

/-! ## Reading -/

section Reading

variable {d : Deployment} {site : Site} {s : SecretStore} {id : String} {b : Attachment}
  {limit : Nat} {c : Cluster}

/-- Whoever may read is shown the secrets that the server has. -/
theorem Deployment.reads_secretAt
    (hlimit : (d.network site.servers).limitAt? s.server.id b.cluster = some limit)
    (hb : (d.network site.servers).membership? s.server.id = some b)
    (hc : (d.network site.servers).clusters[b.cluster]? = some c)
    (hconsistent : c.keyspace.Consistent) (hle : 1 ≤ limit)
    (hread : c.access.authorizeKey s.user .read (SecretStore.key id) = .ok ()) (now : Instant) :
    d.Reads site s now id
      (((d.network site.servers).secretAt s.server.id now id).map (·.value)) := by
  have hhome := Network.home?_of_membership? hb hc
  obtain ⟨result, hanswer, hvalue⟩ := Cluster.exists_serve_reading hconsistent hle hread now
  have hserved := Network.serve_of_limitAt? hlimit hc now s.user
    (.transact (SecretStore.reading id))
  rw [hanswer] at hserved
  have hissue : ∃ d', d.issue site now (.serve s.server s.user (.transact (SecretStore.reading id))) =
      (d', .answered (.ok result)) := by
    rw [issue, hserved]
    exact ⟨_, rfl⟩
  obtain ⟨d', hissue⟩ := hissue
  refine ⟨d', ?_, ?_⟩
  · rw [Network.secretAt, hhome, Option.bind_some, ← hvalue]
    exact .ask hissue rfl .done
  · have hreplies : Answer.Replies ⟨d, now, .serve s.server s.user
        (.transact (SecretStore.reading id)), .ok result, d'⟩ s (.transact (SecretStore.reading id))
        (.ok result) := ⟨_, _, _, rfl⟩
    refine hreplies.keepsSecrets ⟨_, hissue, rfl⟩ ?_
    intro c₀ c' limit' hc₀ hserve
    rw [hhome] at hc₀
    cases hc₀
    exact Cluster.keepsSecrets_reading hconsistent hserve

/-- Whoever could look for a secret in a transaction can read it as long as nothing else happens. -/
theorem Answer.Replies.reads {a : Answer} {t : Transaction} {result : Transaction.Result}
    (hgiven : a.Given site) (h : a.Replies s (.transact t) (.ok result))
    (hrooted : (a.before.network site.servers).Rooted) (hsize : 1 ≤ t.maxBranchLength)
    (hdemands : (.read, SecretStore.key id) ∈ Cluster.demands t)
    (hd : d.network site.servers = a.after.network site.servers) (now : Instant) :
    d.Reads site s now id
      (((a.after.network site.servers).secretAt s.server.id now id).map (·.value)) := by
  rcases h.cases hgiven with ⟨b, limit, c, c', hlimit, hb, hc, hserve, hafter⟩ | ⟨⟨e, he⟩, -⟩
  · obtain ⟨-, hlength, hauthorized⟩ := Cluster.attempt_of_serve_eq_ok hserve
    have hreachable := (hrooted c (List.mem_of_getElem? hc)).serve s.user a.now limit (.transact t)
    rw [hserve] at hreachable
    -- the rights and the server are those of the transaction
    obtain ⟨-, haccepted⟩ := Cluster.transact_eq_ok (Cluster.handle_of_serve_eq_ok hserve)
    cases haccepted
    have hread := AccessControl.authorizeAll_eq_ok.1 hauthorized _ hdemands
    rw [← hd]
    rw [← hd] at hafter
    have hlimit' : (d.network site.servers).limitAt? s.server.id b.cluster = some limit := by
      rw [hafter]
      exact hlimit
    have hb' : (d.network site.servers).membership? s.server.id = some b := by
      rw [hafter]
      exact hb
    have hc' := Network.clusters_setCluster hc { c.expire a.now with keyspace := ((c.expire a.now).keyspace.commit ((c.expire a.now).branch t)).2 }
    rw [← hafter] at hc'
    exact Deployment.reads_secretAt hlimit' hb' hc' hreachable.consistent
      (Nat.le_trans hsize hlength) hread now
  · cases he

end Reading

end ClusterVault
