import ClusterVault.Proofs.Network.LateJoin
import ClusterVault.Proofs.Network.MemberIds
import Mathlib.Data.List.Duplicate

/-!
# URLs of members

A server that joins becomes the member that is registered under one of its URLs, so that no two
members should share one. Whoever adds a member is held to that. Whoever founds a cluster is not: the
initial members are told apart by their names only. This module shows that members share a URL only if
their cluster was founded so.

## Main definitions

- `Member.HaveUrls`: members have URLs, and share only some of them
- `Network.FoundedWith`: the start with which a cluster has come about
- `Network.Grows`: what one event makes of the clusters

## Main statements

- `Network.FoundedWith.unique`: there is only one such start
- `Network.exists_foundedWith`: every cluster has come about with a start, and its members share only
  URLs that this start has listed twice
- `Network.registries_tell_members_apart`: what tells the members of a cluster apart, in every network
  that can come about
- `Network.founded_with_shared_url`: two members that share a URL
-/

namespace ClusterVault

/-- The URLs under which initial members are listed, in order. -/
def InitialCluster.urls (c : InitialCluster) : List Url := c.entries.map (·.2)

/-- Every member has a URL, and two members share one only if it is listed twice. -/
structure Member.HaveUrls (listed : List Url) (members : List Member) : Prop where
  ne_nil : ∀ urls ∈ members.map (·.peerUrls), urls ≠ []
  apart : (members.map (·.peerUrls)).Pairwise fun urls urls' =>
    ∀ url ∈ urls, url ∈ urls' → List.Duplicate url listed

namespace Member.HaveUrls

variable {listed : List Url} {members members' : List Member} {m : Member} {url : Url}

theorem of_sublist (h : HaveUrls listed members) (hsub : members'.Sublist members) :
    HaveUrls listed members' :=
  ⟨fun urls hurls => h.ne_nil urls ((hsub.map _).mem hurls), h.apart.sublist (hsub.map _)⟩

theorem of_map_eq (h : HaveUrls listed members)
    (hmap : members'.map (·.peerUrls) = members.map (·.peerUrls)) : HaveUrls listed members' :=
  ⟨hmap ▸ h.ne_nil, hmap ▸ h.apart⟩

/-- A member that shares no URL with others may join them. -/
theorem concat (h : HaveUrls listed members) (hne : m.peerUrls ≠ [])
    (hnew : ∀ url ∈ m.peerUrls, ∀ other ∈ members, url ∉ other.peerUrls) :
    HaveUrls listed (members ++ [m]) := by
  constructor
  · rw [List.map_append, List.forall_mem_append]
    exact ⟨h.ne_nil, List.forall_mem_singleton.2 hne⟩
  · rw [List.map_append, List.pairwise_append]
    refine ⟨h.apart, List.pairwise_singleton _ _, ?_⟩
    intro urls hurls urls' hurls' url hurl hurl'
    obtain ⟨other, hother, rfl⟩ := List.mem_map.1 hurls
    rw [List.map_singleton, List.mem_singleton] at hurls'
    exact absurd hurl (hnew url (hurls' ▸ hurl') other hother)

/-- At most one member is registered under a URL that is not listed twice. -/
theorem length_filter_le (h : HaveUrls listed members) (hurl : ¬List.Duplicate url listed) :
    (members.filter (Cluster.isRegisteredAt [url])).length ≤ 1 := by
  have hapart := (List.pairwise_map.1 h.apart).filter (Cluster.isRegisteredAt [url])
  have hholds : ∀ m ∈ members.filter (Cluster.isRegisteredAt [url]), url ∈ m.peerUrls := by
    intro m hm
    simpa [Cluster.isRegisteredAt] using (List.mem_filter.1 hm).2
  generalize members.filter (Cluster.isRegisteredAt [url]) = holders at hapart hholds
  cases holders with
  | nil => exact Nat.zero_le _
  | cons m others =>
    cases others with
    | nil => exact Nat.le_refl _
    | cons m' rest =>
      -- the first two would share the URL
      simp only [List.forall_mem_cons] at hholds
      exact absurd (List.rel_of_pairwise_cons hapart List.mem_cons_self url hholds.1 hholds.2.1) hurl

end Member.HaveUrls

/-- A request of an administrator to remove a member takes that member off the registry, and no other
    one. -/
theorem Cluster.removeMember_eq_ok_of_mem {c : Cluster} (hids : Member.HaveIds c.members) {user : String}
    (huser : c.access.authorizeAdministrator user = .ok ()) {m : Member} (hm : m ∈ c.members) :
    ∃ before after, c.members = before ++ m :: after ∧ (∀ other ∈ before ++ after, other.id ≠ m.id) ∧
      c.removeMember user m.id = .ok { c with members := before ++ after } := by
  obtain ⟨before, after, hsplit⟩ := List.append_of_mem hm
  have hnodup := hids.nodup
  rw [hsplit] at hnodup
  have hothers : ∀ other ∈ before ++ after, other.id ≠ m.id := by
    intro other hother hid
    simp only [List.map_append, List.map_cons, List.nodup_middle, List.nodup_cons] at hnodup
    refine hnodup.1 ?_
    rw [← List.map_append, ← hid]
    exact List.mem_map_of_mem hother
  refine ⟨before, after, hsplit, hothers, ?_⟩
  have hfound : c.hasMember m.id = true := hasMember_iff.2 ⟨m, hm, rfl⟩
  have herase : c.members.eraseP (·.id = m.id) = before ++ after := by
    rw [hsplit, List.eraseP_append_right _ fun other hother => ?_, List.eraseP_cons_of_pos (by simp)]
    simpa using hothers other (List.mem_append_left _ hother)
  simp only [removeMember, huser, hfound, herase, if_true]
  rfl

namespace Network

variable {event : Event} {events before later : List Event} {net net' net'' : Network}
  {k : ClusterId} {c : Cluster} {ids : IdSource} {config config' : ServerConfig}

/-- A cluster has come about with a start of these settings: it was not there before this event, and it
    was after it. -/
def FoundedWith (ids : IdSource) (events : List Event) (k : ClusterId) (config : ServerConfig) :
    Prop :=
  ∃ before files now later, events = before ++ .start files now config :: later ∧
    (({ ids } : Network).afterAll before).clusters[k]? = none ∧
    (({ ids } : Network).afterAll (before ++ [.start files now config])).clusters[k]?.isSome

/-- What an event makes of the clusters. The members of one that was there keep to the URLs that were
    listed for it, and one that was not there has the members that a start lists. -/
structure Grows (event : Event) (net net' : Network) : Prop where
  stays : ∀ k : ClusterId, net'.clusters[k]? = none → net.clusters[k]? = none
  origin : ∀ (k : ClusterId) (c' : Cluster), net'.clusters[k]? = some c' →
    (∃ c, net.clusters[k]? = some c ∧
      ∀ listed, Member.HaveUrls listed c.members → Member.HaveUrls listed c'.members) ∨
    (net.clusters[k]? = none ∧ ∃ files now config, event = .start files now config ∧
      config.founding = .new ∧ Member.HaveUrls config.initialCluster.urls c'.members)

/-- The members of a new cluster have a URL each, as it is listed. -/
theorem haveUrls_foundingMembers (own : String) (clientUrls : List Url) (initial : InitialCluster)
    (ids : IdSource) :
    Member.HaveUrls initial.urls
      (foundingMembers own clientUrls initial.entries [] ids).1 := by
  obtain ⟨new, hnew, hmap⟩ := foundingMembers_eq own clientUrls initial.entries [] ids
  rw [List.nil_append] at hnew
  have hurls : new.map (·.peerUrls) = initial.urls.map fun url => [url] := by
    have := congrArg (List.map Prod.snd) hmap
    simpa only [InitialCluster.urls, List.map_map, Function.comp_def] using this
  rw [hnew]
  constructor
  · rw [hurls, List.forall_mem_map]
    exact fun _ _ => List.cons_ne_nil _ _
  · rw [hurls, List.pairwise_map, List.pairwise_iff_forall_sublist]
    -- two places of the list at which the URL stands
    intro url url' hsub shared hshared hshared'
    rw [List.mem_singleton] at hshared hshared'
    subst hshared hshared'
    exact List.duplicate_iff_sublist.2 hsub

namespace Grows

theorem of_clusters_eq (h : net'.clusters = net.clusters) : Grows event net net' where
  stays _ hk := h ▸ hk
  origin _ c' hc' := .inl ⟨c', h ▸ hc', fun _ hurls => hurls⟩

theorem trans (h : Grows event net net') (h' : Grows event net' net'') :
    Grows event net net'' where
  stays k hk := h.stays k (h'.stays k hk)
  origin k c'' hc'' := by
    rcases h'.origin k c'' hc'' with ⟨c', hc', hkeeps'⟩ | ⟨hnone, hnew⟩
    · rcases h.origin k c' hc' with ⟨c, hc, hkeeps⟩ | ⟨hnone, files, now, config, hevent, hnew, hurls⟩
      · exact .inl ⟨c, hc, fun listed hurls => hkeeps' listed (hkeeps listed hurls)⟩
      · exact .inr ⟨hnone, files, now, config, hevent, hnew, hkeeps' _ hurls⟩
    · exact .inr ⟨h.stays k hnone, hnew⟩

/-- A cluster may change as long as its members keep to the URLs that were listed for it. -/
theorem set {c' : Cluster} (hc : net.clusters[k]? = some c)
    (hclusters : net'.clusters = net.clusters.set k c')
    (hkeeps : ∀ listed, Member.HaveUrls listed c.members → Member.HaveUrls listed c'.members) :
    Grows event net net' where
  stays i hi := by
    rw [List.getElem?_eq_none_iff] at hi ⊢
    rwa [hclusters, List.length_set] at hi
  origin i other hother := by
    rw [hclusters] at hother
    by_cases heq : k = i
    · subst heq
      rw [List.getElem?_set_self (List.getElem?_eq_some_iff.1 hc).1] at hother
      cases hother
      exact .inl ⟨c, hc, hkeeps⟩
    · rw [List.getElem?_set_ne heq] at hother
      exact .inl ⟨other, hother, fun _ hurls => hurls⟩

/-- A start may add a cluster of the members that it lists. -/
theorem found {files : FileSystem} {now : Instant} (hfounding : config.founding = .new)
    (hurls : Member.HaveUrls config.initialCluster.urls c.members)
    (hclusters : net'.clusters = net.clusters ++ [c]) :
    Grows (.start files now config) net net' where
  stays k hk := by
    rw [hclusters, List.getElem?_eq_none_iff, List.length_append] at hk
    exact List.getElem?_eq_none (Nat.le_of_add_right_le hk)
  origin k c' hc' := by
    rw [hclusters] at hc'
    rcases Nat.lt_or_ge k net.clusters.length with hlt | hge
    · rw [List.getElem?_append_left hlt] at hc'
      exact .inl ⟨c', hc', fun _ hurls => hurls⟩
    · rw [List.getElem?_append_right hge] at hc'
      obtain rfl := List.mem_singleton.1 (List.mem_of_getElem? hc')
      exact .inr ⟨List.getElem?_eq_none hge, files, now, config, rfl, hfounding, hurls⟩

end Grows

theorem Move.grows (hmove : Move event net net') : Grows event net net' := by
  cases hmove with
  | route | wait | restore => exact .of_clusters_eq rfl
  | take _ hlisten =>
    obtain ⟨rfl, -, -⟩ := take_eq_ok hlisten
    exact .of_clusters_eq rfl
  | leave => exact .of_clusters_eq (clusters_close _ _)
  | look hc => exact .set hc rfl fun _ hurls => hurls
  | serve hc =>
    refine .set hc rfl fun _ hurls => ?_
    rw [Cluster.members_serve]
    exact hurls
  | found _ _ hfounding _ hfound =>
    obtain ⟨_, _, -, -, -, -, rfl⟩ := bootstrap_eq_ok hfound
    exact .found hfounding (haveUrls_foundingMembers _ _ _ _) rfl
  | join _ hc hattach =>
    obtain ⟨_, -, -, rfl⟩ := Cluster.attachMember_eq_ok hattach
    refine .set hc rfl fun _ hurls => ?_
    exact hurls.of_map_eq (Cluster.map_nameFirst (fun _ => rfl) _)
  | add hc hadd =>
    obtain ⟨hne, hfree, -, hmember, rfl⟩ := Cluster.members_of_addMember_eq_ok hadd
    have hadded := congrArg Member.peerUrls hmember
    refine .set hc rfl fun _ hurls => ?_
    exact hurls.concat (hadded ▸ hne) (hadded ▸ hfree)
  | remove hc hremove =>
    refine .set hc (clusters_stopMember _ _) fun _ hurls => ?_
    rw [Cluster.members_of_removeMember_eq_ok hremove]
    exact hurls.of_sublist List.eraseP_sublist

theorem grows_after (net : Network) (event : Event) : Grows event net (net.after event) :=
  after_induction (fun _ _ hmove hgrown => hgrown.trans hmove.grows) (.of_clusters_eq rfl)

/-- A cluster that is not there after more events was not there before them. -/
theorem not_there_of_append (h : (net.afterAll (before ++ later)).clusters[k]? = none) :
    (net.afterAll before).clusters[k]? = none := by
  induction later using List.reverseRecOn with
  | nil => rwa [List.append_nil] at h
  | append_singleton later event ih =>
    rw [← List.append_assoc, afterAll_concat] at h
    exact ih ((grows_after _ event).stays k h)

/-- A cluster comes about only once. -/
theorem FoundedWith.unique (h : FoundedWith ids events k config)
    (h' : FoundedWith ids events k config') : config = config' := by
  obtain ⟨before, files, now, later, rfl, hnone, hthere⟩ := h
  obtain ⟨before', files', now', later', heq, hnone', hthere'⟩ := h'
  -- whichever start comes second finds the cluster there
  have hlate {before : List Event} {event : Event} {mid : List Event}
      (hthere : (({ ids } : Network).afterAll (before ++ [event])).clusters[k]?.isSome)
      (hnone : (({ ids } : Network).afterAll (before ++ event :: mid)).clusters[k]? = none) :
      False := by
    rw [List.append_cons] at hnone
    rw [not_there_of_append hnone] at hthere
    cases hthere
  rcases List.append_eq_append_iff.1 heq with ⟨mid, rfl, hrest⟩ | ⟨mid, rfl, hrest⟩
  · cases mid with
    | nil =>
      cases hrest
      rfl
    | cons first mid =>
      cases hrest
      exact (hlate hthere hnone').elim
  · cases mid with
    | nil =>
      cases hrest
      rfl
    | cons first mid =>
      cases hrest
      exact (hlate hthere' hnone).elim

/-- Later events do not change how a cluster has come about. -/
theorem FoundedWith.concat (h : FoundedWith ids events k config) (event : Event) :
    FoundedWith ids (events ++ [event]) k config := by
  obtain ⟨before, files, now, later, rfl, hbefore, hafter⟩ := h
  exact ⟨before, files, now, later ++ [event], by simp, hbefore, hafter⟩

/-- Every cluster has come about with a start, and its members share only URLs that are listed twice
    there. -/
theorem exists_foundedWith (ids : IdSource) (events : List Event)
    (hc : (({ ids } : Network).afterAll events).clusters[k]? = some c) :
    ∃ config, FoundedWith ids events k config ∧ config.founding = .new ∧
      Member.HaveUrls config.initialCluster.urls c.members := by
  induction events using List.reverseRecOn generalizing c with
  | nil => cases hc
  | append_singleton events event ih =>
    have hthere := Option.isSome_of_mem hc
    rw [afterAll_concat] at hc
    rcases (grows_after _ event).origin k c hc with
      ⟨old, hold, hkeeps⟩ | ⟨hnone, files, now, config, rfl, hfounding, hurls⟩
    · obtain ⟨config, hfounded, hfounding, hurls⟩ := ih hold
      exact ⟨config, hfounded.concat event, hfounding, hkeeps _ hurls⟩
    · exact ⟨config, ⟨events, files, now, [], rfl, hnone, hthere⟩, hfounding, hurls⟩

/-- In every network that can come about, the members of a cluster have ids of their own, and URLs. An
    administrator who asks for a member to be removed by its id removes that member and no other one.
    Each URL picks out at most one member, unless the one start with which the cluster has come about
    has listed it under two names. -/
theorem registries_tell_members_apart (ids : IdSource) (events : List Event) :
    let net := ({ ids } : Network).afterAll events
    ∀ k c, net.clusters[k]? = some c →
      (c.members.map (·.id)).Nodup ∧ 0 ∉ c.members.map (·.id) ∧
      (∀ m ∈ c.members, m.peerUrls ≠ []) ∧
      (∀ user, c.access.authorizeAdministrator user = .ok () → ∀ m ∈ c.members, ∃ before after,
        c.members = before ++ m :: after ∧ (∀ other ∈ before ++ after, other.id ≠ m.id) ∧
        c.removeMember user m.id = .ok { c with members := before ++ after }) ∧
      ∃ config, FoundedWith ids events k config ∧
        (∀ other, FoundedWith ids events k other → other = config) ∧ config.founding = .new ∧
        ∀ url, ¬List.Duplicate url config.initialCluster.urls →
          c.members.Pairwise (fun m m' => url ∈ m.peerUrls → url ∉ m'.peerUrls) ∧
          (c.members.filter (Cluster.isRegisteredAt [url])).length ≤ 1 := by
  intro net k c hc
  have hids := hasIds_afterAll ids events c (List.mem_of_getElem? hc)
  obtain ⟨config, hfounded, hfounding, hurls⟩ := exists_foundedWith ids events hc
  refine ⟨hids.nodup, hids.ne_zero, fun m hm => hurls.ne_nil _ (List.mem_map_of_mem hm),
    fun user huser m hm => Cluster.removeMember_eq_ok_of_mem hids huser hm,
    config, hfounded, fun _ hother => hother.unique hfounded, hfounding,
    fun url hurl => ⟨?_, hurls.length_filter_le hurl⟩⟩
  refine (List.pairwise_map.1 hurls.apart).imp fun hshared hm hm' => ?_
  exact hurl (hshared url hm hm')

/-- A server founds a cluster of two members that share a URL, and is known by either. -/
theorem founded_with_shared_url :
    let net := ({ ids := { draw := (· + 1) } } : Network).afterAll
      [.start {} 0
        { name := "a", dataDir := "a", initialCluster := ⟨[("a", urlOf "a"), ("b", urlOf "a")]⟩,
          advertisedPeerUrls := [urlOf "a"] }]
    (net.clusters.map fun c =>
        (c.members.filter (Cluster.isRegisteredAt [urlOf "a"])).map fun m => (m.name, m.peerUrls)) =
      [[("a", [urlOf "a"]), ("b", [urlOf "a"])]] := by
  decide +kernel

end Network

end ClusterVault
