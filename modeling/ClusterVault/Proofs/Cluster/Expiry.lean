import ClusterVault.Proofs.Cluster.Clock
import Mathlib.Logic.Function.Iterate

/-!
# Late and prompt expiry

A cluster ends leases only when it looks at the clock. This module sets beside it a cluster that ends
every lease at the very instant of its deadline, and shows that no query can tell the two apart, how
often the first one looks and in whatever order its leases go.

## Main definitions

- `Clocked.tick`, `Clocked.passTo`: time that passes with every lease ending at its own instant
- `Clocked.visitPromptly`: the answer of a cluster in which time passes like that
- `Clocked.Foresees`: a prompt cluster will be what a late one is after its next look

## Design notes

The prompt cluster stays behind while the late one looks at the clock between queries. The two are
compared at instants to come, where the one has let time pass and the other has looked.
-/

namespace ClusterVault.Clocked

/-- The next instant, at which the leases end whose deadline it is. -/
def tick (s : Clocked) : Clocked :=
  { s with
    now := s.now + 1
    cluster := { s.cluster with keyspace := s.cluster.keyspace.endAt (s.now + 1) } }

/-- Lets time pass up to an instant. -/
def passTo (s : Clocked) (instant : Instant) : Clocked := tick^[instant - s.now] s

/-- The answer to a visit if every lease ends at its own instant. -/
def visitPromptly (s : Clocked) (v : Visit) : Query.Answer × Clocked :=
  (s.passTo v.instant).reply v.query

/-- Once time has passed in the first cluster, it is what the second is when it looks at the clock. -/
def Foresees (e s : Clocked) : Prop :=
  ∀ instant, s.now ≤ instant → e.passTo instant = s.lookAt instant

variable {e s s' s₁ s₂ : Clocked} {instant later : Instant} {visits visits₁ visits₂ : List Visit}
  {answers answers₁ answers₂ : List Query.Answer} {id : LeaseId} {deadline : Instant}
  {key value : Bytes}

/-! ## Late and prompt answers -/

theorem tick_lookAt (s : Clocked) (instant : Instant) :
    (s.lookAt instant).tick = s.lookAt (instant + 1) := by
  show Clocked.mk (instant + 1) { s.cluster with
    keyspace := (s.cluster.keyspace.expire instant).endAt (instant + 1) } s.ids = _
  rw [Keyspace.endAt_succ_expire]
  rfl

/-- A cluster that has looked at the clock comes by itself to what it would see at a later look. -/
theorem passTo_lookAt (s : Clocked) (hle : instant ≤ later) :
    (s.lookAt instant).passTo later = s.lookAt later := by
  obtain ⟨n, rfl⟩ := Nat.exists_eq_add_of_le hle
  show tick^[instant + n - instant] (s.lookAt instant) = _
  rw [Nat.add_sub_cancel_left]
  clear hle
  induction n with
  | zero => rfl
  | succ n ih =>
    rw [Function.iterate_succ_apply', ih, tick_lookAt]
    rfl

theorem IsFresh.foresees (h : s.IsFresh) : s.Foresees s := by
  intro instant hle
  have hpass := s.passTo_lookAt hle
  rw [h.lookAt_now] at hpass
  exact hpass

theorem Foresees.looks (h : e.Foresees s) (hlook : s.Looks instant s') : e.Foresees s' := by
  rw [hlook.eq_lookAt]
  intro later (hlater : instant ≤ later)
  rw [lookAt_lookAt hlater]
  exact h later (Nat.le_trans hlook.1 hlater)

/-- However often a cluster looks at the clock, it answers like one that ends leases promptly. -/
theorem Run.answers_eq (h : Run s visits answers s') (he : e.Foresees s) :
    (answerAll visitPromptly e visits).1 = answers ∧
      (answerAll visitPromptly e visits).2.Foresees s' := by
  -- the prompt cluster falls behind with each look, so it varies in the induction
  induction h generalizing e with
  | nil => exact ⟨rfl, he⟩
  | look hlook _ ih => exact ih (he.looks hlook)
  | @visit s mid last v visits answers hlook hrest ih =>
    have hpass : e.passTo v.instant = mid := by
      rw [hlook.eq_lookAt]
      exact he v.instant hlook.1
    have hvisit : e.visitPromptly v = mid.reply v.query := by rw [visitPromptly, hpass]
    have hfresh : (mid.reply v.query).2.IsFresh := by
      rw [hlook.eq_lookAt]
      exact (s.isFresh_lookAt v.instant).reply v.query
    obtain ⟨hanswers, hlast⟩ := ih hfresh.foresees
    rw [answerAll_cons, hvisit]
    exact ⟨congrArg _ hanswers, hlast⟩

/-! ## How long keys are visible -/

/-- A lease that has been granted keeps its deadline until it is revoked. -/
theorem endsAt_reply {q : Query} (hlt : id < s.cluster.keyspace.nextLease)
    (hends : s.cluster.keyspace.EndsAt s.now id deadline) (hkept : ¬(s.reply q).1.Revokes id) :
    (s.reply q).2.cluster.keyspace.EndsAt s.now id deadline := by
  refine hends.of_deadline?_eq ?_
  rcases s.reply_cases q with ⟨t, -, -, heq⟩ | ⟨d, -, -, heq⟩ | ⟨id', hrevokes, -, heq⟩ | ⟨-, heq⟩
  · rw [heq, Keyspace.commit_eq, Keyspace.deadline?_applyAll, Keyspace.deadline?_atRevisionOf]
  · rw [heq, Keyspace.deadline?_grantLease, if_neg (ne_of_gt hlt)]
  · have hne : id' ≠ id := by
      rintro rfl
      exact hkept hrevokes
    rw [heq, Keyspace.deadline?_dropLease, if_neg hne]
  · rw [heq]

theorem Looks.endsAt (h : s.Looks instant s')
    (hends : s.cluster.keyspace.EndsAt s.now id deadline) :
    s'.cluster.keyspace.EndsAt s'.now id deadline := by
  rw [h.eq_lookAt]
  exact hends.expire h.1

theorem Run.endsAt (h : Run s visits answers s') (hlt : id < s.cluster.keyspace.nextLease)
    (hends : s.cluster.keyspace.EndsAt s.now id deadline)
    (hkept : ∀ answer ∈ answers, ¬answer.Revokes id) :
    s'.cluster.keyspace.EndsAt s'.now id deadline := by
  induction h with
  | nil => exact hends
  | look hlook _ ih =>
    have hlt' := lt_of_lt_of_le hlt hlook.keyspace.nextLease_le
    exact ih hlt' (hlook.endsAt hends) hkept
  | @visit s mid last v visits answers hlook hrest ih =>
    have hmid := lt_of_lt_of_le hlt hlook.keyspace.nextLease_le
    have hlt' := lt_of_lt_of_le hmid (keyspace_reply mid v.query).nextLease_le
    have hkeep := hkept _ List.mem_cons_self
    exact ih hlt' (endsAt_reply hmid (hlook.endsAt hends) hkeep)
      fun answer hanswer => hkept answer (List.mem_cons_of_mem _ hanswer)

/-- A key whose latest write named a lease is there before the deadline of the lease, and not from
    the deadline on. -/
theorem Run.content?_lookAt (h : Run s₁ visits answers s₂) (h₁ : s₁.cluster.keyspace.Consistent)
    (hlease : s₁.cluster.keyspace.deadline? id = some deadline)
    (hkept : ∀ answer ∈ answers, ¬answer.Revokes id)
    (hlast : Operation.lastEffectOn? key (answers.flatMap (·.operations)) =
      some (some (value, some id))) (hle : s₂.now ≤ instant) :
    (s₂.lookAt instant).cluster.keyspace.content? key =
      if instant < deadline then some (value, some id) else none := by
  have hrun : Keyspace.Run s₁.cluster.keyspace (answers.flatMap (·.operations))
      (s₂.lookAt instant).cluster.keyspace := by
    have hthen := h.keyspace.trans (looks_lookAt hle).keyspace
    rwa [List.append_nil] at hthen
  have hlt := (h₁.lease_lt_next id deadline hlease).2
  have hends := h.endsAt hlt (Keyspace.endsAt_of_deadline? hlease s₁.now) hkept
  have hdeadline : (s₂.lookAt instant).cluster.keyspace.deadline? id =
      (some deadline).filter (instant < ·) := hends.deadline?_expire hle
  split
  · next hbefore =>
    -- the lease is still there, so what was written is
    rw [Option.filter_some_pos (by simpa using hbefore)] at hdeadline
    rcases hrun.content?_eq_or_isSpent h₁ hlast with hstored | ⟨id', heq, -, hgone⟩
    · exact hstored
    · rw [← Option.some.inj heq, hdeadline] at hgone
      cases hgone
  · next hended =>
    -- a key that is still there would be attached to a lease that is gone
    rw [Option.filter_some_neg (by simpa using hended)] at hdeadline
    rcases hrun.content?_eq h₁ key with hnone | heq
    · exact hnone
    · rw [hlast, Option.getD_some] at heq
      have hattached : (s₂.lookAt instant).cluster.keyspace.leaseOf key = some id := by
        rw [Keyspace.leaseOf_eq_content?, heq]
        rfl
      obtain ⟨d, hd⟩ := (hrun.consistent h₁).deadline?_of_leaseOf hattached
      rw [hd] at hdeadline
      cases hdeadline

/-! ## Late expiry -/

/-- Late expiry cannot be told from prompt expiry. A cluster that is asked in order of time gives the
    answers of one that ends every lease, with its keys, at the instant of its deadline. Any number
    of looks at the clock in between change no answer, and neither does the order in which a look
    ends leases; at every later instant the two are the same. So a key whose latest write named a
    lease is visible up to the deadline of the lease, unless that is revoked, and never after. -/
theorem late_expiry_eq_prompt_expiry (members : List Member) (now : Instant) (ids : IdSource)
    (horder : (now :: visits.map (·.instant)).IsChain (· ≤ ·)) :
    let start : Clocked := { now, cluster := .founded members, ids }
    let prompt := answerAll visitPromptly start visits
    (answerAll visit start visits).1 = prompt.1 ∧
    (∀ answers s, Run start visits answers s →
      answers = prompt.1 ∧ ∀ later, s.now ≤ later → prompt.2.passTo later = s.lookAt later) ∧
    (∀ visits₁ answers₁ s₁ visits₂ answers₂ s₂ id deadline key value,
      Run start visits₁ answers₁ s₁ → s₁.cluster.keyspace.deadline? id = some deadline →
      Run s₁ visits₂ answers₂ s₂ → (∀ answer ∈ answers₂, ¬answer.Revokes id) →
      Operation.lastEffectOn? key (answers₂.flatMap (·.operations)) = some (some (value, some id)) →
      ∀ later, s₂.now ≤ later → (s₂.lookAt later).cluster.keyspace.content? key =
        if later < deadline then some (value, some id) else none) := by
  intro start prompt
  have hfresh : start.IsFresh := by
    intro id d hd
    cases hd
  refine ⟨?_, ?_, ?_⟩
  · have hrun : Run start visits _ _ := run_answerAll horder
    exact (hrun.answers_eq hfresh.foresees).1.symm
  · intro answers s hrun
    obtain ⟨hanswers, hforesees⟩ := hrun.answers_eq hfresh.foresees
    exact ⟨hanswers.symm, hforesees⟩
  · intro visits₁ answers₁ s₁ visits₂ answers₂ s₂ id deadline key value h₁ hlease h₂ hkept hlast
      later hlater
    have hconsistent := h₁.keyspace.consistent Keyspace.consistent_empty
    exact h₂.content?_lookAt hconsistent hlease hkept hlast hlater

/-- A key is found one instant before the deadline of its lease and not at it, where the revision is
    one higher. -/
theorem late_expiry_eq_prompt_expiry_at_deadline :
    let grant : Query := .serve "root" 1 (.grantLease 5)
    let write : Query := .serve "root" 1 (.transact { success := [.put [97] [1] (some 1)] })
    let read : Query := .serve "root" 1 (.transact { success := [.get [97]] })
    let visits : List Visit := [⟨0, grant⟩, ⟨0, write⟩, ⟨4999, read⟩, ⟨5000, read⟩]
    let start : Clocked := { now := 0, cluster := .founded [], ids := { draw := fun n => n } }
    (answerAll visitPromptly start visits).1 = [⟨grant, .ok (1 : LeaseId)⟩,
      ⟨write, .ok (⟨true, 2, [.put]⟩ : Transaction.Result)⟩,
      ⟨read, .ok (⟨true, 2, [.got [⟨[97], [1], 2, 2, 1, some 1⟩]]⟩ : Transaction.Result)⟩,
      ⟨read, .ok (⟨true, 3, [.got []]⟩ : Transaction.Result)⟩] := by
  intro grant write read visits start
  have horder : (0 :: visits.map (·.instant)).IsChain (· ≤ ·) := by decide
  obtain ⟨hprompt, -, -⟩ := late_expiry_eq_prompt_expiry [] 0 { draw := fun n => n } horder
  refine hprompt.symm.trans ?_
  decide +kernel

end ClusterVault.Clocked
