import ClusterVault.Proofs.Network.Servers
import Mathlib.Data.List.Nodup

/-!
# Ids of members

A member gets its id when it is listed and keeps it for as long as it is. This module shows that no
two members of a cluster share an id, whatever happens on a network and whatever numbers are drawn.

## Main definitions

- `Member.HaveIds`: members are told apart by their ids
- `Network.HasIds`: so are those of every cluster

## Main statements

- `Network.hasIds_afterAll`: that is so in every network that can come about
- `Member.eraseP_id_eq_filter`: to remove a member by its id is to remove that member only
-/

namespace ClusterVault

/-- Members are told apart by their ids, none of which is `0`. -/
structure Member.HaveIds (members : List Member) : Prop where
  nodup : (members.map (·.id)).Nodup
  ne_zero : 0 ∉ members.map (·.id)

namespace Member.HaveIds

variable {members members' : List Member} {m : Member} {ids : IdSource}

theorem nil : HaveIds [] := ⟨List.nodup_nil, List.not_mem_nil⟩

theorem of_sublist (h : HaveIds members) (hsub : members'.Sublist members) : HaveIds members' :=
  ⟨h.nodup.sublist (hsub.map _), fun hzero => h.ne_zero ((hsub.map _).mem hzero)⟩

theorem of_map_eq (h : HaveIds members) (hmap : members'.map (·.id) = members.map (·.id)) :
    HaveIds members' :=
  ⟨hmap ▸ h.nodup, hmap ▸ h.ne_zero⟩

/-- A member with a fresh id is told apart from all others. -/
theorem concat (h : HaveIds members) (hid : m.id = (ids.fresh (members.map (·.id))).1) :
    HaveIds (members ++ [m]) := by
  have hfree := IdSource.isFree_fresh ids (members.map (·.id))
  rw [← hid, IdSource.isFree_iff] at hfree
  obtain ⟨hzero, hnew⟩ := hfree
  constructor
  · rw [List.map_append, List.map_singleton]
    refine List.nodup_append.2 ⟨h.nodup, List.nodup_singleton _, ?_⟩
    rintro other hother _ hm rfl
    rw [List.mem_singleton.1 hm] at hother
    exact hnew hother
  · rw [List.map_append, List.map_singleton, List.mem_append, List.mem_singleton]
    rintro (hold | heq)
    · exact h.ne_zero hold
    · exact hzero heq.symm

end Member.HaveIds

/-- To remove a member by its id is to remove that member only. -/
theorem Member.eraseP_id_eq_filter {members : List Member} (h : (members.map (·.id)).Nodup)
    (id : Nat) : members.eraseP (·.id = id) = members.filter (·.id ≠ id) := by
  induction members with
  | nil => rfl
  | cons m rest ih =>
    rw [List.map_cons, List.nodup_cons] at h
    by_cases hid : m.id = id
    · have hkept : (rest.filter fun m => m.id ≠ id) = rest := by
        refine List.filter_eq_self.2 fun other hother => decide_eq_true ?_
        exact fun heq => h.1 (List.mem_map.2 ⟨other, hother, heq.trans hid.symm⟩)
      rw [List.eraseP_cons_of_pos (by simpa using hid), List.filter_cons_of_neg (by simpa using hid),
        hkept]
    · rw [List.eraseP_cons_of_neg (by simpa using hid), List.filter_cons_of_pos (by simpa using hid),
        ih h.2]

namespace Network

variable {event : Event} {net net' : Network} {k : ClusterId} {c : Cluster}

/-- In every cluster members are told apart by their ids. -/
def HasIds (net : Network) : Prop := ∀ c ∈ net.clusters, Member.HaveIds c.members

/-- The members of a new cluster get an id each. -/
theorem haveIds_foundingMembers (own : String) (clientUrls : List Url)
    (entries : List (String × Url)) {members : List Member} (h : Member.HaveIds members)
    (ids : IdSource) :
    Member.HaveIds (foundingMembers own clientUrls entries members ids).1 := by
  induction entries generalizing members ids with
  | nil => exact h
  | cons entry rest ih =>
    obtain ⟨name, url⟩ := entry
    exact ih (h.concat rfl) _

theorem HasIds.setCluster (h : net.HasIds) (hc : Member.HaveIds c.members) (k : ClusterId) :
    (net.setCluster k c).HasIds := by
  intro c' hc'
  rcases List.mem_or_eq_of_mem_set hc' with hold | rfl
  · exact h c' hold
  · exact hc

/-- Every move leaves members told apart by their ids. -/
theorem HasIds.move (hmove : Move event net net') (h : net.HasIds) : net'.HasIds := by
  have hcluster {k : ClusterId} {c : Cluster} (hc : net.clusters[k]? = some c) :
      Member.HaveIds c.members := h c (List.mem_of_getElem? hc)
  cases hmove with
  | route | wait | restore => exact h
  | take _ hlisten =>
    obtain ⟨rfl, -, -⟩ := take_eq_ok hlisten
    exact h
  | leave id =>
    rw [HasIds, clusters_close]
    exact h
  | look hc now =>
    have hmembers := hcluster hc
    refine h.setCluster ?_ _
    exact hmembers
  | serve hc user now limit command =>
    refine h.setCluster ?_ _
    rw [Cluster.members_serve]
    exact hcluster hc
  | found _ _ _ _ hfound =>
    obtain ⟨_, _, -, -, -, -, rfl⟩ := bootstrap_eq_ok hfound
    refine List.forall_mem_append.2 ⟨h, List.forall_mem_singleton.2 ?_⟩
    exact haveIds_foundingMembers _ _ _ .nil _
  | join _ hc hattach =>
    obtain ⟨_, -, -, rfl⟩ := Cluster.attachMember_eq_ok hattach
    exact h.setCluster ((hcluster hc).of_map_eq (Cluster.map_nameFirst (fun _ => rfl) _)) _
  | add hc hadd =>
    obtain ⟨-, -, hfresh, -, rfl⟩ := Cluster.members_of_addMember_eq_ok hadd
    exact h.setCluster ((hcluster hc).concat (congrArg Prod.fst hfresh).symm) _
  | remove hc hremove =>
    rw [HasIds, clusters_stopMember, Cluster.members_of_removeMember_eq_ok hremove]
    exact h.setCluster ((hcluster hc).of_sublist List.eraseP_sublist) _

/-- In every network that can come about, members are told apart by their ids. -/
theorem hasIds_afterAll (ids : IdSource) (events : List Event) :
    (({ ids } : Network).afterAll events).HasIds := by
  have hempty : ({ ids } : Network).HasIds := nofun
  exact afterAll_of_moves (fun _ _ _ => HasIds.move) hempty events

end Network

end ClusterVault
