import ClusterVault.Proofs.Cluster.Query
import ClusterVault.Proofs.Keyspace.Expiry

/-!
# A cluster on the clock

Queries come to a cluster one after the other while time goes on. The cluster looks at the clock
before it answers, and it may look at any other time as well.

## Main definitions

- `Visit`: a query at an instant
- `Clocked`: a cluster at an instant
- `Clocked.visit`, `Clocked.answerAll`: the answers of the cluster
- `Clocked.Looks`: a look at the clock, which ends leases in any order
- `Clocked.Run`: answers of a cluster that looks at the clock whenever it likes

## Design notes

A cluster that has just looked holds no lease that has ended, and its answers leave none. This is
what makes further looks at the same instant idle.
-/

namespace ClusterVault

/-- A query at an instant. -/
structure Visit where
  instant : Instant
  query : Query

/-- A cluster at an instant, with the numbers for new members. -/
structure Clocked where
  now : Instant
  cluster : Cluster
  ids : IdSource

namespace Clocked

/-- The answer to a query without a look at the clock. -/
def reply (s : Clocked) (q : Query) : Query.Answer × Clocked :=
  let answered := s.cluster.respond s.now s.ids q
  (⟨q, answered.1⟩, { s with ids := answered.2.1, cluster := answered.2.2 })

/-- The answer to a visit. -/
def visit (s : Clocked) (v : Visit) : Query.Answer × Clocked :=
  let answered := s.cluster.ask v.instant s.ids v.query
  (⟨v.query, answered.1⟩, { now := v.instant, ids := answered.2.1, cluster := answered.2.2 })

/-- The answers to visits one after the other, where each is answered in the given way. -/
def answerAll (answer : Clocked → Visit → Query.Answer × Clocked) (s : Clocked) :
    List Visit → List Query.Answer × Clocked
  | [] => ([], s)
  | v :: visits =>
    let answered := answer s v
    let others := answerAll answer answered.2 visits
    (answered.1 :: others.1, others.2)

/-- The cluster at a later instant, when it has just looked at the clock. -/
def lookAt (s : Clocked) (instant : Instant) : Clocked :=
  { s with now := instant, cluster := s.cluster.expire instant }

/-- A look at the clock, at which the leases that have ended go one after the other. -/
def Looks (s : Clocked) (instant : Instant) (s' : Clocked) : Prop :=
  s.now ≤ instant ∧ ∃ order : List LeaseId, order.Perm (s.cluster.keyspace.expired instant) ∧
    s' = { s with
      now := instant
      cluster := { s.cluster with
        keyspace := order.foldl Keyspace.dropLease s.cluster.keyspace } }

/-- Visits and their answers, where the cluster looks at the clock before every answer and at any
    other time. -/
inductive Run : Clocked → List Visit → List Query.Answer → Clocked → Prop
  | nil (s : Clocked) : Run s [] [] s
  | look {s s' s'' : Clocked} {instant : Instant} {visits : List Visit}
    {answers : List Query.Answer} (hlook : s.Looks instant s')
    (hrest : Run s' visits answers s'') : Run s visits answers s''
  | visit {s s' s'' : Clocked} {v : Visit} {visits : List Visit} {answers : List Query.Answer}
    (hlook : s.Looks v.instant s') (hrest : Run (s'.reply v.query).2 visits answers s'') :
    Run s (v :: visits) ((s'.reply v.query).1 :: answers) s''

variable {s s' : Clocked} {instant later : Instant} {v : Visit} {visits : List Visit}
  {answers : List Query.Answer} {q : Query}

/-! ## Looks -/

/-- In whatever order the leases go, the same is left. -/
theorem Looks.eq_lookAt (h : s.Looks instant s') : s' = s.lookAt instant := by
  obtain ⟨-, order, hperm, rfl⟩ := h
  have hfold : order.foldl Keyspace.dropLease s.cluster.keyspace =
      s.cluster.keyspace.expire instant := hperm.foldl_eq s.cluster.keyspace
  rw [hfold]
  rfl

theorem looks_lookAt (hle : s.now ≤ instant) : s.Looks instant (s.lookAt instant) :=
  ⟨hle, _, .refl _, rfl⟩

theorem lookAt_lookAt (hle : instant ≤ later) :
    (s.lookAt instant).lookAt later = s.lookAt later := by
  simp only [lookAt, Cluster.expire, Keyspace.expire_expire _ hle]

/-- The cluster has just looked at the clock, or need not look. -/
def IsFresh (s : Clocked) : Prop := s.cluster.keyspace.AllBeyond s.now

theorem isFresh_lookAt (s : Clocked) (instant : Instant) : (s.lookAt instant).IsFresh :=
  Keyspace.allBeyond_expire _ _

theorem IsFresh.lookAt_now (h : s.IsFresh) : s.lookAt s.now = s := by
  have hsame : s.cluster.keyspace.expire s.now = s.cluster.keyspace :=
    Keyspace.expire_of_allBeyond h
  simp only [lookAt, Cluster.expire, hsame]

theorem visit_eq (s : Clocked) (v : Visit) : s.visit v = (s.lookAt v.instant).reply v.query := by
  rw [visit, Cluster.ask_eq_respond]
  rfl

/-! ## Answers -/

/-- All that an answer can do to the keyspace, together with what it tells of that. -/
theorem reply_cases (s : Clocked) (q : Query) :
    (∃ t, s.cluster.keyspace.LeasesExist (s.cluster.branch t) ∧
      (s.reply q).1.operations = s.cluster.branch t ∧
      (s.reply q).2.cluster.keyspace = (s.cluster.keyspace.commit (s.cluster.branch t)).2) ∨
    (∃ deadline, s.now < deadline ∧ (s.reply q).1.operations = [] ∧
      (s.reply q).2.cluster.keyspace = s.cluster.keyspace.grantLease deadline) ∨
    (∃ id, (s.reply q).1.Revokes id ∧ (s.reply q).1.operations = [] ∧
      (s.reply q).2.cluster.keyspace = s.cluster.keyspace.dropLease id) ∨
    ((s.reply q).1.operations = [] ∧
      (s.reply q).2.cluster.keyspace = s.cluster.keyspace) := by
  have hrespond : s.cluster.respond s.now s.ids q =
      ((s.reply q).1.2, (s.reply q).2.ids, (s.reply q).2.cluster) := rfl
  exact Cluster.keyspace_respond_cases hrespond

/-- An answer starts no lease that has ended already. -/
theorem IsFresh.reply (h : s.IsFresh) (q : Query) : (s.reply q).2.IsFresh := by
  intro id d hd
  show s.now < d
  rcases s.reply_cases q with ⟨t, -, -, heq⟩ | ⟨deadline, hlt, -, heq⟩ | ⟨id', -, -, heq⟩ | ⟨-, heq⟩
  · rw [heq, Keyspace.commit_eq, Keyspace.deadline?_applyAll, Keyspace.deadline?_atRevisionOf] at hd
    exact h id d hd
  · rw [heq, Keyspace.deadline?_grantLease] at hd
    split at hd
    · cases hd
      exact hlt
    · exact h id d hd
  · rw [heq, Keyspace.deadline?_dropLease] at hd
    split at hd
    · cases hd
    · exact h id d hd
  · rw [heq] at hd
    exact h id d hd

theorem answerAll_cons (answer : Clocked → Visit → Query.Answer × Clocked) (s : Clocked) (v : Visit)
    (visits : List Visit) :
    answerAll answer s (v :: visits) = ((answer s v).1 :: (answerAll answer (answer s v).2 visits).1,
      (answerAll answer (answer s v).2 visits).2) := rfl

/-- The answers of a cluster to visits in order of time are a run. -/
theorem run_answerAll (horder : (s.now :: visits.map (·.instant)).IsChain (· ≤ ·)) :
    Run s visits (answerAll visit s visits).1 (answerAll visit s visits).2 := by
  induction visits generalizing s with
  | nil => exact .nil s
  | cons v visits ih =>
    rw [List.map_cons, List.isChain_cons_cons] at horder
    obtain ⟨hle, hrest⟩ := horder
    have hrun : Run (s.visit v).2 visits (answerAll visit (s.visit v).2 visits).1
        (answerAll visit (s.visit v).2 visits).2 := ih hrest
    rw [answerAll_cons]
    rw [visit_eq] at hrun ⊢
    exact .visit (looks_lookAt hle) hrun

/-! ## From runs on the clock to runs of a cluster -/

/-- An answer is a run of the keyspace with the operations that the answer tells of. -/
theorem keyspace_reply (s : Clocked) (q : Query) :
    Keyspace.Run s.cluster.keyspace (s.reply q).1.operations (s.reply q).2.cluster.keyspace := by
  rcases s.reply_cases q with ⟨t, hlease, hops, heq⟩ | ⟨deadline, -, hops, heq⟩ |
    ⟨id, -, hops, heq⟩ | ⟨hops, heq⟩
  · rw [hops, heq]
    exact (Keyspace.Step.commit hlease).run
  · rw [hops, heq]
    exact (Keyspace.Step.grantLease deadline).run
  · rw [hops, heq]
    exact (Keyspace.Step.dropLease id).run
  · rw [hops, heq]
    exact .nil _

theorem Looks.keyspace (h : s.Looks instant s') :
    Keyspace.Run s.cluster.keyspace [] s'.cluster.keyspace := by
  rw [h.eq_lookAt]
  exact Keyspace.run_expire _ _

theorem Run.keyspace (h : Run s visits answers s') :
    Keyspace.Run s.cluster.keyspace (answers.flatMap (·.operations)) s'.cluster.keyspace := by
  induction h with
  | nil => exact .nil _
  | look hlook _ ih => exact hlook.keyspace.trans ih
  | visit hlook _ ih => exact hlook.keyspace.trans ((keyspace_reply _ _).trans ih)

end Clocked

end ClusterVault
