import ClusterVault.Proofs.Secrets.World

/-!
# What a call on a store of secrets does

The activity of every call is one request, or up to three. This module says which request each call
makes next and how it goes on with the reply, so that later proofs do not open activities.

## Main definitions

- `Activity.Awaits`: waits for the reply to a request and goes on with it
- `SecretStore.written`: what the reply to a transaction that writes means
- `SecretStore.afterWriting`: how a call goes on that has written with a lease
-/

namespace ClusterVault

namespace Activity

variable {ε α β γ : Type}

theorem bind_assoc (a : Activity ε α) (f : α → Activity ε β) (g : β → Activity ε γ) :
    (a.bind f).bind g = a.bind fun x => (f x).bind g := by
  induction a with
  | done x => rfl
  | abort => rfl
  | clock next ih => exact congrArg clock (funext ih)
  | either first second ih ih' => exact congr (congrArg either ih) ih'
  | ask request limit heeds next ih => exact congrArg (ask request limit heeds) (funext ih)

/-- The activity waits for the reply to a request through a server, and goes on with it. -/
def Awaits (a : Activity EngineError α) (s : SecretStore) (command : Command)
    (resume : Except EngineError command.Reply → Activity EngineError α) : Prop :=
  ∃ next, a = .ask (.serve s.server s.user command) none false next ∧
    ∀ reply, next (.reply reply) = resume reply

theorem Awaits.bind {a : Activity EngineError α} {s : SecretStore} {command : Command}
    {resume : Except EngineError command.Reply → Activity EngineError α}
    (h : a.Awaits s command resume) (f : α → Activity EngineError β) :
    (a.bind f).Awaits s command fun reply => (resume reply).bind f := by
  obtain ⟨next, rfl, hnext⟩ := h
  refine ⟨_, rfl, ?_⟩
  intro reply
  rw [hnext]

end Activity

/-- A failure is passed on after the cleanup. -/
theorem Procedure.orElse_eq {ε α : Type} (p : Procedure ε α) (cleanup : Activity ε Unit) :
    p.orElse cleanup = Activity.bind p fun
      | .ok a => .done (.ok a)
      | .error e => Activity.bind cleanup fun _ => .done (.error e) := by
  show Activity.bind p _ = _
  congr 1
  funext result
  cases result with
  | ok a => rfl
  | error e => exact Activity.bind_assoc cleanup _ _

namespace SecretStore

/-- Why secrets were not written, given those that were found to be there. -/
def writeFailure : List String → NodeError EngineError
  | [] => .writeFailed
  | ids => .secretsExist ids

theorem writeFailure_of_ne_nil {ids : List String} (h : ids ≠ []) :
    writeFailure ids = .secretsExist ids := by
  cases ids with
  | nil => exact absurd rfl h
  | cons id ids => rfl

/-- What the reply to a transaction that writes means. -/
def written (entries : List (String × Bytes)) :
    Except EngineError Transaction.Result → Except (NodeError EngineError) Unit
  | .error e => .error (.engine .writing e)
  | .ok result =>
    if result.succeeded then .ok ()
    else .error (writeFailure (conflicts (entries.map (·.1)) result.outcomes))

/-- How a call goes on that has written with a lease. -/
def afterWriting (s : SecretStore) (secrets : Secrets) (lease : LeaseId)
    (reply : Except EngineError Transaction.Result) : Activity EngineError Answer :=
  match written secrets.toList reply with
  | .ok _ => .done (.ok none)
  | .error e => Activity.bind (s.revoke lease) fun _ => .done (.error e)

variable (s : SecretStore) (secrets : Secrets) (ids : List String) {ttl : Int}

theorem perform_of_size_eq_zero {call : SecretCall} (h : call.size = 0) :
    s.perform call = .done (.ok none) := by
  cases call with
  | set secrets ttl =>
    have hempty : secrets.toList.isEmpty = true := by
      rw [List.isEmpty_iff, ← List.length_eq_zero_iff, Std.ExtTreeMap.length_toList]
      exact h
    simp only [perform, set, hempty]
    rfl
  | delete ids =>
    have hempty : ids.isEmpty = true := by
      rw [List.isEmpty_iff, ← List.length_eq_zero_iff]
      exact h
    simp only [perform, delete, hempty]
    rfl
  | get id => cases h

theorem awaits_write (entries : List (String × Bytes)) (lease : Option LeaseId) :
    (s.write entries lease : Activity EngineError _).Awaits s (.transact (writing entries lease))
      fun reply => .done (written entries reply) := by
  refine ⟨_, rfl, ?_⟩
  intro reply
  unfold written
  cases reply with
  | error e => rfl
  | ok result =>
    obtain ⟨succeeded, revision, outcomes⟩ := result
    cases succeeded with
    | true => rfl
    | false =>
      -- what was found decides which failure is told
      show ExceptT.bindCont _ _ = Activity.done _
      dsimp only [ExceptT.bindCont]
      cases conflicts (entries.map (·.1)) outcomes <;> rfl

section Set

variable (hsize : secrets.size ≠ 0)

include hsize

theorem isEmpty_toList : secrets.toList.isEmpty = false := by
  rw [List.isEmpty_eq_false_iff, ← List.length_pos_iff, Std.ExtTreeMap.length_toList]
  omega

/-- Secrets with a time to live begin with a lease. -/
theorem awaits_set_granting (hpos : 0 < ttl) :
    (s.perform (.set secrets ttl)).Awaits s (.grantLease ttl) fun
      | .error e => .done (.error (.engine .creatingLease e))
      | .ok lease => Activity.bind ((s.write secrets.toList (some lease)).orElse (s.revoke lease))
          fun result => .done (result.map fun _ => none) := by
  simp only [perform, set, isEmpty_toList secrets hsize, hpos, if_true]
  refine ⟨_, rfl, ?_⟩
  intro reply
  cases reply <;> rfl

/-- Other secrets are written at once. -/
theorem awaits_set (hnonpos : ¬0 < ttl) :
    (s.perform (.set secrets ttl)).Awaits s (.transact (writing secrets.toList none)) fun reply =>
      .done ((written secrets.toList reply).map fun _ => none) := by
  simp only [perform, set, isEmpty_toList secrets hsize, hnonpos, if_false]
  exact (s.awaits_write secrets.toList none).bind _

end Set

/-- With a lease they are written next, and a failure is followed by the end of the lease. -/
theorem awaits_write_granted (lease : LeaseId) :
    (Activity.bind ((s.write secrets.toList (some lease)).orElse (s.revoke lease))
      fun result => .done (result.map fun _ => none)).Awaits s
      (.transact (writing secrets.toList (some lease))) (s.afterWriting secrets lease) := by
  rw [Procedure.orElse_eq, Activity.bind_assoc]
  obtain ⟨next, hnext, hresume⟩ := s.awaits_write secrets.toList (some lease)
  rw [hnext]
  refine ⟨_, rfl, ?_⟩
  intro reply
  rw [hresume]
  unfold afterWriting
  dsimp only
  cases written secrets.toList reply with
  | ok _ => rfl
  | error e => exact Activity.bind_assoc (s.revoke lease) _ _

theorem awaits_revoke (lease : LeaseId) (a : Answer) :
    (Activity.bind (s.revoke lease) fun _ => .done a : Activity EngineError Answer).Awaits s
      (.revokeLease lease) fun _ => .done a := by
  refine ⟨_, rfl, ?_⟩
  intro reply
  rfl

theorem awaits_get (id : String) :
    (s.perform (.get id)).Awaits s (.transact (reading id)) fun
      | .error e => .done (.error (.engine .reading e))
      | .ok result =>
        .done (.ok (((result.outcomes.head?.bind (·.records?)).bind (·.head?)).map (·.value))) := by
  refine ⟨_, rfl, ?_⟩
  intro reply
  cases reply <;> rfl

theorem awaits_delete (h : ids ≠ []) :
    (s.perform (.delete ids)).Awaits s (.transact (deleting ids)) fun
      | .error e => .done (.error (.engine .writing e))
      | .ok result => .done (if result.succeeded then .ok none else .error .secretsMissing) := by
  obtain ⟨id, ids, rfl⟩ := List.exists_cons_of_ne_nil h
  refine ⟨_, rfl, ?_⟩
  intro reply
  cases reply with
  | error e => rfl
  | ok result =>
    obtain ⟨succeeded, revision, outcomes⟩ := result
    cases succeeded <;> rfl

/-- Every call that names an id begins with a request. -/
theorem awaits_perform {call : SecretCall} (hsize : call.size ≠ 0) :
    ∃ (command : Command) (resume : Except EngineError command.Reply → Activity EngineError Answer),
      (s.perform call).Awaits s command resume := by
  cases call with
  | set secrets ttl =>
    by_cases hpos : 0 < ttl
    · exact ⟨_, _, s.awaits_set_granting secrets hsize hpos⟩
    · exact ⟨_, _, s.awaits_set secrets hsize hpos⟩
  | delete ids =>
    have hne : ids ≠ [] := fun heq => hsize (congrArg List.length heq)
    exact ⟨_, _, s.awaits_delete ids hne⟩
  | get id => exact ⟨_, _, s.awaits_get id⟩

end SecretStore

end ClusterVault
