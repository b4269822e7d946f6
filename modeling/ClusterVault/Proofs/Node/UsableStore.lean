import ClusterVault.Proofs.Network.Membership
import ClusterVault.Proofs.Node.Denials
import ClusterVault.Proofs.Node.FailedLaunch
import ClusterVault.Proofs.Node.SecondCluster

/-!
# What a launched store may do

A launch switches access control on as the user that its certificate names, and creates the
administrator and the user that reads secrets, but no user of any other name. So the store of a
successful launch can be used if its user is the administrator, or holds that role in the cluster
that was found. Any other user may have locked itself out.

## Main definitions

- `Network.IsGuarded`: a server is a member of a cluster whose access control is on
- `Network.Guards`: a server stays a member of a cluster whose rights only grow
- `Deployment.NeverDenies`: a procedure never fails for want of rights

## Main statements

- `Launcher.launched_store_is_usable`: nothing is refused to a store whose user holds the role
- `Launcher.launched_store_is_locked_out`: a store whose certificate names someone else is of no use
-/

namespace ClusterVault

namespace Network

variable {net : Network} {id : NodeId} {a : Attachment} {rights : AccessControl} {event : Event}

/-- A server is a member of a cluster whose access control is on. -/
def IsGuarded (net : Network) (id : NodeId) : Prop :=
  ∃ a c, net.membership? id = some a ∧ net.clusters[a.cluster]? = some c ∧ c.access.enabled

/-- A server is a member of a cluster in which all rights that there were are there still. -/
structure Guards (net : Network) (id : NodeId) (a : Attachment) (rights : AccessControl) : Prop where
  membership : net.membership? id = some a
  cluster : ∃ c, net.clusters[a.cluster]? = some c ∧ rights.Extends c.access

theorem Guards.after (h : net.Guards id a rights) (hsettled : net.Settled) (event : Event) :
    (net.after event).Guards id a rights := by
  obtain ⟨c, hc, hextends⟩ := h.cluster
  obtain ⟨c', ops, hc', hrun⟩ := runs_after net event a.cluster c hc
  exact ⟨hsettled.membership?_after h.membership event, c', hc', hextends.trans hrun.extends⟩

theorem IsGuarded.after (h : net.IsGuarded id) (hsettled : net.Settled) (event : Event) :
    (net.after event).IsGuarded id := by
  obtain ⟨a, c, ha, hc, hon⟩ := h
  have hguards : net.Guards id a c.access := ⟨ha, c, hc, .refl _⟩
  obtain ⟨ha', c', hc', hextends⟩ := hguards.after hsettled event
  exact ⟨a, c', ha', hc', hextends.enabled hon⟩

/-- Who holds the role of the administrator keeps being trusted. -/
theorem Guards.trusts (h : net.Guards id a rights) {user : String}
    (hholds : rights.Holds user administrator) {c : Cluster}
    (hc : net.clusters[a.cluster]? = some c) : c.access.Trusts user := by
  obtain ⟨c', hc', hextends⟩ := h.cluster
  rw [hc] at hc'
  cases hc'
  exact .inr (hextends.holds _ _ hholds)

/-- The server that tells that access control is on is a member of such a cluster. -/
theorem isGuarded_of_leavesOn {net' : Network} {now : Instant} {user : String} {command : Command}
    {reply : Except EngineError command.Reply}
    (h : net.serve now id user command = (net', reply)) (hon : command.leavesOn reply) :
    net'.IsGuarded id := by
  cases reply with
  | error e => cases command <;> cases hon
  | ok reply =>
    obtain ⟨config, a, c, -, ha, hc, hreply, rfl⟩ := serve_eq_ok h
    obtain ⟨node, hnode, hattached⟩ := attachment?_eq_some.1 ha
    rw [← hreply] at hon
    refine ⟨a, _, ?_, clusters_setCluster hc _, Cluster.enabled_of_leavesOn hon⟩
    rw [membership?]
    exact Option.bind_eq_some_iff.2 ⟨node, (running?_eq_some.1 hnode).1, hattached⟩

end Network

/-! ## From the end of a launch on -/

namespace Deployment

variable {d : Deployment} {site : Site} {id : NodeId} {a : Attachment} {rights : AccessControl}

/-- However a procedure goes from here on, and whatever else happens, it does not fail for want of
    rights if what is supposed of the answers is so. -/
def NeverDenies {α : Type} (d : Deployment) (site : Site) (supposed : Answer → Prop)
    (q : Procedure EngineError α) : Prop :=
  ∀ (v : Undertaking (Except (NodeError EngineError) α)) (e : NodeError EngineError),
    Undertaking.Run site (fun _ _ _ => True) ⟨d, q.run, []⟩ v → v.rest = .done (.error e) →
    (∀ b ∈ v.log, supposed b) → ¬e.IsDenial

/-- What is known of all networks while a server guards the rights that there were. -/
structure Upholds (site : Site) (id : NodeId) (a : Attachment) (rights : AccessControl)
    (name : String) (net : Network) : Prop where
  settled : net.Settled
  rooted : net.Rooted
  guards : name = site.servers → net.Guards id a rights

/-- An agent that holds the role of the administrator in a cluster, and is trusted by all others
    within reach, never fails for want of rights. -/
theorem neverDenies_of_upholds {α : Type} (who : Agent) {supposed : Answer → Prop}
    {q : Procedure EngineError α} {ok : Dealings → α → Prop}
    (hupholds : ∀ name, Upholds site id a rights name (d.network name))
    (hholds : rights.Holds who.user administrator) (hanswers : who.Answers ok q {})
    (hcertifies : ∀ b, supposed b → who.Certifies b.before.machine.files)
    (hothers : ∀ b, supposed b → (∀ name, Upholds site id a rights name (b.before.network name)) →
      ∀ name k c, who.Reaches site b.before name k → (b.before.network name).clusters[k]? = some c →
        (name = site.servers ∧ k = a.cluster) ∨ c.access.Trusts who.user) :
    d.NeverDenies site supposed q := by
  intro v e hrun hend hsupposed he
  obtain ⟨-, hlog⟩ := hrun.keeps (P := Upholds site id a rights)
    (fun _ _ _ h => ⟨h.settled, h.rooted, fun hname =>
      ⟨(h.guards hname).membership, (h.guards hname).cluster⟩⟩)
    (fun _ _ event h => ⟨h.settled.after event, h.rooted.after event,
      fun hname => (h.guards hname).after h.settled event⟩)
    hupholds (List.forall_mem_nil _)
  obtain ⟨b, hb, hdenies, hasks⟩ := Agent.exists_denial hanswers hrun hend he
    fun b hb => hcertifies b (hsupposed b hb)
  obtain ⟨hgiven, hnets⟩ := hlog b hb
  obtain ⟨name, k, c, hreaches, hc, hdistrusts⟩ :=
    Agent.exists_not_trusts hgiven (hcertifies b (hsupposed b hb)) hdenies hasks
  -- it is either the guarded cluster or another one
  rcases hothers b (hsupposed b hb) hnets name k c hreaches hc with ⟨rfl, rfl⟩ | htrusts
  · exact hdistrusts (((hnets site.servers).guards rfl).trusts hholds hc)
  · exact hdistrusts htrusts

end Deployment

section Launch

open Undertaking (Run)
open Deployment (Upholds)

variable {site : Site} {foreign : String → Network → Network.Event → Prop} {d : Deployment}
  {l : Launcher} {method : JoinMethod} {store : SecretStore}
  {v : Undertaking (Except (NodeError EngineError) SecretStore)}

/-- What a launch knows of access control is so: the server that it has is guarded if the last answer
    was that access control is on. -/
def LaunchKnowledge.Guarded (site : Site) (s : LaunchKnowledge) (d : Deployment) : Prop :=
  (∀ name, (d.network name).Settled) ∧
    ∀ id, s.Holds id → s.usable → (d.network site.servers).IsGuarded id

namespace LaunchKnowledge.Guarded

variable {s : LaunchKnowledge} {d' : Deployment}

theorem settled_of_sees (h : s.Guarded site d)
    (hsees : ∀ name, ∃ event?, Network.Sees? event? (d.network name) (d'.network name))
    (name : String) : (d'.network name).Settled := by
  obtain ⟨event?, hname⟩ := hsees name
  exact hname.keeps (fun _ _ h => h.of_nodes_eq rfl) (fun event _ h => h.after event) (h.1 name)

/-- Whatever happens on the networks, the server stays guarded. -/
theorem of_sees (h : s.Guarded site d)
    (hsees : ∀ name, ∃ event?, Network.Sees? event? (d.network name) (d'.network name)) :
    s.Guarded site d' := by
  refine ⟨h.settled_of_sees hsees, fun id hholds husable => ?_⟩
  obtain ⟨event?, hservers⟩ := hsees site.servers
  refine (hservers.keeps (P := fun net => net.Settled ∧ net.IsGuarded id) (fun _ _ h => ?_)
    (fun event _ h => ?_) ⟨h.1 site.servers, h.2 id hholds husable⟩).2
  · exact ⟨h.1.of_nodes_eq rfl, h.2⟩
  · exact ⟨h.1.after event, h.2.after h.1 event⟩

theorem answer {o : LaunchOptions} {a : Answer} (h : s.Guarded site a.before)
    (hgiven : a.Given site) (hadmits : (o.protocol method).admits s a.request) :
    (s.learn a.request a.reply).Guarded site a.after := by
  refine ⟨h.settled_of_sees fun name => ⟨_, Deployment.sees?_of_given hgiven name⟩,
    fun id hholds husable => ?_⟩
  obtain ⟨before, now, r, reply, after⟩ := a
  obtain ⟨server, user, command, rfl⟩ := LaunchKnowledge.serve_of_usable_learn husable
  obtain rfl : server.id = id := LaunchKnowledge.Holds.unique hadmits hholds
  exact Network.isGuarded_of_leavesOn (Deployment.serve_of_given hgiven) husable

end LaunchKnowledge.Guarded

/-- The server of a launch that has succeeded is a member of a cluster whose access control is on. -/
theorem Undertaking.Run.isGuarded (hd : d.HasPast)
    (hrun : Run site foreign ⟨d, (l.launch method).run, []⟩ v) (hend : v.rest = .done (.ok store)) :
    (v.deployment.network site.servers).IsGuarded store.server.id := by
  obtain ⟨s, hfollows, hguarded⟩ := hrun.follows (I := fun s d _ => s.Guarded site d)
    (l.follows_launch method) ⟨hd.settled, nofun⟩ (fun _ _ _ h => ⟨h.1, nofun⟩)
    (fun _ _ _ hgiven hadmits h => h.answer hgiven hadmits)
    (fun _ _ _ _ _ _ h => h.of_sees fun name => ⟨_, Deployment.sees?_after name _ _ _⟩)
    (fun _ _ _ _ h => h)
  rw [hend] at hfollows
  exact hguarded.2 _ hfollows.1 hfollows.2

/-- The store of a launch acts as the user that the launch has acted as. -/
theorem Undertaking.Run.user_eq (hrun : Run site foreign ⟨d, (l.launch method).run, []⟩ v)
    (hend : v.rest = .done (.ok store)) : store.user = l.user := by
  let who : Agent := ⟨l.user, some l.options.tls, fun _ => True⟩
  have hanswers : who.Answers (fun _ store => store.user = l.user) (l.launch method) {} :=
    answers_launch rfl rfl (fun _ => trivial) method
  obtain ⟨s, hfollows, -⟩ := hrun.follows (I := fun _ _ _ => True) hanswers.run trivial
    (fun _ _ _ _ => trivial) (fun _ _ _ _ _ _ => trivial) (fun _ _ _ _ _ _ _ => trivial)
    fun _ _ _ _ _ => trivial
  rw [hend] at hfollows
  exact hfollows

/-- What happens on networks that have come about from nothing upholds the rights in the cluster of a
    server. -/
theorem Undertaking.Run.upholds (hd : d.HasPast)
    (hrun : Run site foreign ⟨d, (l.launch method).run, []⟩ v) {id : NodeId} {a : Attachment}
    {c : Cluster} (ha : (v.deployment.network site.servers).membership? id = some a)
    (hc : (v.deployment.network site.servers).clusters[a.cluster]? = some c) (name : String) :
    Upholds site id a c.access name (v.deployment.network name) := by
  obtain ⟨hnets, -⟩ := hrun.keeps (P := fun _ net => net.Settled ∧ net.Rooted)
    (fun _ _ _ h => ⟨h.1.of_nodes_eq rfl, h.2⟩)
    (fun _ _ event h => ⟨h.1.after event, h.2.after event⟩)
    (fun name => ⟨hd.settled name, hd.rooted name⟩) (List.forall_mem_nil _)
  refine ⟨(hnets name).1, (hnets name).2, ?_⟩
  rintro rfl
  exact ⟨ha, c, hc, .refl _⟩

/-- The store is closed and its node launched once more. -/
def Launcher.relaunch (l : Launcher) (store : SecretStore) (method : JoinMethod) :
    Procedure EngineError SecretStore := do
  Procedure.ofActivity store.close
  l.launch method

/-- What is supposed when a node is launched again: its certificate names the user that it acts as, and
    this user is the administrator, or is trusted by all clusters but one. -/
structure Launcher.Expects (l : Launcher) (site : Site) (k : ClusterId) (b : Answer) : Prop where
  certificate : b.before.machine.files.readIdentity l.options.tls.certificate = .ok l.user
  trusts : l.user = administrator ∨ ∀ (name : String) (k' : ClusterId) (c : Cluster),
    (b.before.network name).clusters[k']? = some c →
      (name = site.servers ∧ k' = k) ∨ c.access.Trusts l.user

end Launch

/-! ## A trial -/

namespace Trial

/-- What a procedure comes to at once, if it does not fail. -/
def value? {α : Type} (d : Deployment) (q : Procedure EngineError α) : Option (Deployment × α) :=
  match Deployment.backend.advance ⟨"net", "net"⟩ none 0 q.run d with
  | (d', .ended (.ok x)) => some (d', x)
  | _ => none

/-- What is left by a procedure that fails at once for want of rights. -/
def denied? {α : Type} (d : Deployment) (q : Procedure EngineError α) : Option Deployment :=
  match Deployment.backend.advance ⟨"net", "net"⟩ none 0 q.run d with
  | (d', .ended (.error (.engine _ e))) => if e.kind = .permissionDenied then some d' else none
  | _ => none

section

variable {α : Type} {d d' : Deployment} {q : Procedure EngineError α}
  (foreign : String → Network → Network.Event → Prop)

theorem run_of_value? {x : α} (h : value? d q = some (d', x)) :
    ∃ v, Undertaking.Run ⟨"net", "net"⟩ foreign ⟨d, q.run, []⟩ v ∧ v.deployment = d' ∧
      v.rest = .done (.ok x) := by
  unfold value? at h
  split at h
  · next heq =>
    cases h
    obtain ⟨log, hrun⟩ := Undertaking.Run.of_advance foreign [] heq
    exact ⟨_, hrun, rfl, rfl⟩
  · cases h

theorem run_of_denied? (h : denied? d q = some d') :
    ∃ v e, Undertaking.Run ⟨"net", "net"⟩ foreign ⟨d, q.run, []⟩ v ∧ v.deployment = d' ∧
      v.rest = .done (.error e) ∧ e.IsDenial := by
  unfold denied? at h
  split at h
  · next heq =>
    obtain ⟨hkind, hsame⟩ := Option.ite_none_right_eq_some.1 h
    cases hsame
    obtain ⟨log, hrun⟩ := Undertaking.Run.of_advance foreign [] heq
    exact ⟨_, _, hrun, rfl, rfl, hkind⟩
  · cases h

end

/-- A node whose certificate names the node. -/
def ordinary : Launcher := { launcher plain 0 "a" with user := "node-0" }

/-- A deployment on which nothing has happened, with the certificate of that node. -/
def startOrdinary : Deployment :=
  start.deployment.setFiles
    { entries := {(["certificate"],
        .file (.certificate { certificate with subject := [.commonName "node-0"] }) 0)} }

theorem make_ordinary : Launcher.make ordinary.options startOrdinary.machine.files =
    (.ok ordinary : Except (NodeError EngineError) Launcher) := by
  have hordinal : ordinary.options.names.ordinal? ordinary.options.nodeName = some 0 := ordinal?_zero
  have hidentity : startOrdinary.machine.files.readIdentity ordinary.options.tls.certificate =
      .ok "node-0" := by decide +kernel
  rw [Launcher.make, hordinal, hidentity]
  rfl

theorem isSome_value?_administrator :
    (value? start.deployment ((launcher plain 0 "a").launch .bootstrap)).isSome := by
  simp only [Launcher.launch, Launcher.prepare, serverConfig_launcher asWritten_plain isNode_zero]
  decide +kernel

theorem any_value?_ordinary : (value? startOrdinary (ordinary.launch .bootstrap)).any fun launched =>
    (denied? launched.1 (launched.2.set {("k", Bytes.ofString "v")} 0)).any fun d =>
      (denied? d (ordinary.relaunch launched.2 .bootstrap)).isSome := by
  simp only [ordinary, Launcher.relaunch, Launcher.launch, Launcher.prepare,
    serverConfig_launcher asWritten_plain isNode_zero]
  decide +kernel

end Trial

section Launch

open Undertaking (Run)

variable {site : Site} {foreign : String → Network → Network.Event → Prop} {d : Deployment}
  {l : Launcher} {method : JoinMethod} {store : SecretStore}
  {v : Undertaking (Except (NodeError EngineError) SecretStore)}

/-- A store is usable if its user holds the role of the administrator. A node is launched, founding a
    cluster or joining one, while others do whatever they like on all networks. If the launch succeeds,
    its store acts as the user of the launch. The server of the store is a member of a cluster whose
    access control is on, and where the administrator holds the role of its name. If the user holds
    this role, then nothing that is set, deleted or read through the store is refused for want of
    rights, whatever else happens from then on. And if the store is closed and the node launched
    again, in either way, that does not fail for want of rights either, as long as the certificate of
    the node stays, and other clusters trust the user as they all trust the administrator. -/
theorem Launcher.launched_store_is_usable (hd : d.HasPast)
    (hrun : Run site foreign ⟨d, (l.launch method).run, []⟩ v) (hend : v.rest = .done (.ok store)) :
    store.user = l.user ∧
    ∃ a c, (v.deployment.network site.servers).membership? store.server.id = some a ∧
      (v.deployment.network site.servers).clusters[a.cluster]? = some c ∧ c.access.enabled ∧
      c.access.Holds administrator administrator ∧
      (c.access.Holds l.user administrator →
        (∀ secrets ttl, v.deployment.NeverDenies site (fun _ => True) (store.set secrets ttl)) ∧
        (∀ ids, v.deployment.NeverDenies site (fun _ => True) (store.delete ids)) ∧
        (∀ id, v.deployment.NeverDenies site (fun _ => True) (store.get id)) ∧
        ∀ method', v.deployment.NeverDenies site (l.Expects site a.cluster)
          (l.relaunch store method')) := by
  have huser := hrun.user_eq hend
  obtain ⟨a, c, ha, hc, hon⟩ := hrun.isGuarded hd hend
  have hupholds := hrun.upholds hd ha hc
  have hsound := ((hupholds site.servers).rooted c (List.mem_of_getElem? hc)).sound
  refine ⟨huser, a, c, ha, hc, hon, hsound.trusts.resolve_left (by simp [hon]), fun hholds => ?_⟩
  -- through the store, no other cluster than the guarded one is within reach
  let holder : Agent := ⟨l.user, none, (· = store.server)⟩
  have husable {α : Type} {q : Procedure EngineError α}
      (h : holder.Answers (fun _ _ => True) q {}) :
      v.deployment.NeverDenies site (fun _ => True) q := by
    refine Deployment.neverDenies_of_upholds holder hupholds hholds h (fun _ _ => nofun) ?_
    rintro b - hnets name k c' (hclients | ⟨rfl, server, a', rfl, ha', rfl⟩) hc'
    · cases hclients
    · have hsame := ((hnets site.servers).guards rfl).membership
      rw [hsame, Option.some.injEq] at ha'
      rw [ha']
      exact .inl ⟨rfl, rfl⟩
  have hstore : store.user = holder.user := huser
  refine ⟨fun secrets ttl => husable (answers_set hstore rfl secrets ttl),
    fun ids => husable (answers_delete hstore rfl ids), fun id => husable (answers_get hstore rfl id),
    fun method' => ?_⟩
  let node : Agent := ⟨l.user, some l.options.tls, fun _ => True⟩
  have hrelaunch : node.Answers (fun _ store => store.user = l.user) (l.relaunch store method') {} := by
    have hclose : store.close.Follows node.protocol (fun _ => True) (fun _ _ => True) {} :=
      Activity.follows_request (r := .close store.server) trivial trivial fun _ => trivial
    exact Procedure.follows_bind _ (Procedure.follows_ofActivity hclose) fun s _ _ =>
      answers_launch rfl rfl (fun _ => trivial) method'
  refine Deployment.neverDenies_of_upholds node hupholds hholds hrelaunch ?_ ?_
  · rintro b hexpects _ ⟨⟩
    exact hexpects.certificate
  · intro b hexpects hnets name k c' _ hc'
    rcases hexpects.trusts with hadministrator | hothers
    · have hsound' := ((hnets name).rooted c' (List.mem_of_getElem? hc')).sound
      have htrusts : c'.access.Trusts l.user := by
        rw [hadministrator]
        exact hsound'.trusts
      exact .inr htrusts
    · exact hothers name k c' hc'

/-- The administrator founds a cluster, and is refused nothing. -/
theorem Launcher.launched_store_is_usable_founder : Trial.start.deployment.HasPast ∧
    ∃ v store k, Run ⟨"net", "net"⟩ (fun _ _ _ => True)
        ⟨Trial.start.deployment, ((Trial.launcher Trial.plain 0 "a").launch .bootstrap).run, []⟩ v ∧
      v.rest = .done (.ok store) ∧
      (∀ secrets ttl, v.deployment.NeverDenies ⟨"net", "net"⟩ (fun _ => True) (store.set secrets ttl)) ∧
      ∀ method, v.deployment.NeverDenies ⟨"net", "net"⟩
        ((Trial.launcher Trial.plain 0 "a").Expects ⟨"net", "net"⟩ k)
        ((Trial.launcher Trial.plain 0 "a").relaunch store method) := by
  have hpast : Trial.start.deployment.HasPast := fun name => ⟨_, [], rfl⟩
  obtain ⟨⟨d, store⟩, hvalue⟩ := Option.isSome_iff_exists.1 Trial.isSome_value?_administrator
  obtain ⟨v, hrun, -, hend⟩ := Trial.run_of_value? (fun _ _ _ => True) hvalue
  obtain ⟨-, a, c, -, -, -, hholds, husable⟩ := launched_store_is_usable hpast hrun hend
  obtain ⟨hset, -, -, hrelaunch⟩ := husable hholds
  exact ⟨hpast, v, store, a.cluster, hrun, hend, hset, hrelaunch⟩

/-- A node whose certificate does not name the administrator founds a cluster, and its launch succeeds.
    It may neither write secrets nor be launched again. -/
theorem Launcher.launched_store_is_locked_out : Trial.startOrdinary.HasPast ∧
    Launcher.make Trial.ordinary.options Trial.startOrdinary.machine.files =
      (.ok Trial.ordinary : Except (NodeError EngineError) Launcher) ∧
    ∃ v store w e w' e', Run ⟨"net", "net"⟩ (fun _ _ _ => False)
        ⟨Trial.startOrdinary, (Trial.ordinary.launch .bootstrap).run, []⟩ v ∧
      v.rest = .done (.ok store) ∧
      Run ⟨"net", "net"⟩ (fun _ _ _ => False)
        ⟨v.deployment, (store.set {("k", Bytes.ofString "v")} 0).run, []⟩ w ∧
      w.rest = .done (.error e) ∧ e.IsDenial ∧
      Run ⟨"net", "net"⟩ (fun _ _ _ => False)
        ⟨w.deployment, (Trial.ordinary.relaunch store .bootstrap).run, []⟩ w' ∧
      w'.rest = .done (.error e') ∧ e'.IsDenial := by
  obtain ⟨⟨d, store⟩, hvalue, hrest⟩ := (Option.any_eq_true _ _).1 Trial.any_value?_ordinary
  obtain ⟨d', hset, hrelaunch⟩ := (Option.any_eq_true _ _).1 hrest
  obtain ⟨d'', hrelaunch⟩ := Option.isSome_iff_exists.1 hrelaunch
  obtain ⟨v, hv, rfl, hvend⟩ := Trial.run_of_value? (fun _ _ _ => False) hvalue
  obtain ⟨w, e, hw, rfl, hwend, he⟩ := Trial.run_of_denied? (fun _ _ _ => False) hset
  obtain ⟨w', e', hw', -, hwend', he'⟩ := Trial.run_of_denied? (fun _ _ _ => False) hrelaunch
  exact ⟨fun name => ⟨_, [], rfl⟩, Trial.make_ordinary, v, store, w, e, w', e', hv, hvend, hw, hwend,
    he, hw', hwend', he'⟩

end Launch

end ClusterVault
