import ClusterVault.Proofs.Activity.Timed
import ClusterVault.Simulation.System

/-!
# Runs take their time

A run has a clock that stands still as long as something is to be done, and then jumps to the next
alarm. So a wait ends when its answer comes, or on time at its limit, and an activity takes just the
time that has passed on the clock when it has ended. What holds of all ways in which an activity
takes its time holds of every run of it.

## Main definitions

- `Activity.LeadsTo`: what an activity goes on with at an instant
- `TaskState.ComesFrom`, `TaskState.IsOpen`: how a task has come to its state, and that nothing has
  ended its wait

## Main statements

- `Backend.takes_of_run`: an activity takes its time in every run, whatever else goes on
-/

namespace ClusterVault

open Activity (Allows)

variable {W S ε α β : Type} {ways : Way → Prop} {cancelAt : Option Instant}
  {start now later : Instant}

namespace Activity

variable {a a' : Activity ε α}

theorem allows_self (limit : Option Instant) (now : Instant) : Allows limit now now :=
  fun _ _ => Nat.le_max_left ..

/-- An activity that begins at `start` has got some answers and goes on with another one at `now`. -/
def LeadsTo (ways : Way → Prop) (cancelAt : Option Instant) (a : Activity ε α) (start : Instant)
    (a' : Activity ε α) (now : Instant) : Prop :=
  ∃ before, ∀ log later x, a'.Takes ways cancelAt now log later x →
    a.Takes ways cancelAt start (before ++ log) later x

theorem leadsTo_refl (a : Activity ε α) (now : Instant) : a.LeadsTo ways cancelAt now a now :=
  ⟨[], fun _ _ _ h => h⟩

/-- What an activity goes on with goes on in turn. -/
theorem LeadsTo.step {a'' : Activity ε α} (h : a.LeadsTo ways cancelAt start a' now)
    (answers : List (Answered ε))
    (hstep : ∀ log finish x, a''.Takes ways cancelAt later log finish x →
      a'.Takes ways cancelAt now (answers ++ log) finish x) :
    a.LeadsTo ways cancelAt start a'' later := by
  obtain ⟨before, hleads⟩ := h
  refine ⟨before ++ answers, fun log finish x htakes => ?_⟩
  rw [List.append_assoc]
  exact hleads _ _ _ (hstep _ _ _ htakes)

end Activity

/-- A task has come to its state at an instant from an activity that began at another one. -/
def TaskState.ComesFrom (ways : Way → Prop) (cancelAt : Option Instant) (a : Activity ε α)
    (start now : Instant) : TaskState W ε α → Prop
  | .ended x => ∃ log, a.Takes ways cancelAt start log now x
  | .aborted => True
  | .waiting r _ limit heeds next => ∃ since ≤ now, Allows limit since now ∧
    (heeds → Allows cancelAt since now) ∧
    a.LeadsTo ways cancelAt start (.ask r limit heeds next) since

/-- A wait has not come to its limit and has not been cancelled. -/
def TaskState.IsOpen (cancelAt : Option Instant) (now : Instant) : TaskState W ε α → Prop
  | .waiting _ _ limit heeds _ =>
    limit.any (· ≤ now) = false ∧ (heeds && isCancelled cancelAt now) = false
  | _ => True

namespace Backend

variable {b : Backend W S ε} {site : S} {a a' : Activity ε α} {w : W} {x : α} {r : Request}
  {limit : Option Instant} {heeds : Bool} {next : Wake (r.Reply ε) → Activity ε α} {since : Instant}

/-! ## How waits end -/

section Wakes

variable (hle : since ≤ now) (hlimit : Allows limit since now)
  (hheeds : heeds → Allows cancelAt since now)
  (h : a.LeadsTo ways cancelAt start (.ask r limit heeds next) since)

include hle hlimit hheeds h

theorem leadsTo_reply (reply : r.Reply ε) :
    a.LeadsTo ways cancelAt start (next (.reply reply)) now :=
  h.step [⟨now, r, reply⟩] fun _ _ _ htakes => .reply hle hlimit hheeds reply htakes

theorem leadsTo_late (hlate : limit.any (· ≤ now)) :
    a.LeadsTo ways cancelAt start (next .late) now := by
  obtain ⟨deadline, rfl, hpassed⟩ := (Option.any_eq_true _ _).1 hlate
  have hnow : max since deadline = now :=
    Nat.le_antisymm (Nat.max_le.2 ⟨hle, by simpa using hpassed⟩) (hlimit deadline rfl)
  refine h.step [] fun log finish x htakes => .late ?_ ?_
  · exact hnow.symm ▸ hheeds
  · exact hnow.symm ▸ htakes

theorem leadsTo_cancelled (hcancelled : heeds && isCancelled cancelAt now) :
    a.LeadsTo ways cancelAt start (next .cancelled) now := by
  rw [Bool.and_eq_true] at hcancelled
  obtain ⟨rfl, hcancelled⟩ := hcancelled
  obtain ⟨instant, hinstant, hpassed⟩ := (Option.any_eq_true _ _).1 hcancelled
  have hnow : max since instant = now :=
    Nat.le_antisymm (Nat.max_le.2 ⟨hle, by simpa using hpassed⟩) (hheeds rfl instant hinstant)
  refine h.step [] fun log finish x htakes => .cancelled hinstant ?_ ?_
  · exact hnow.symm ▸ hlimit
  · exact hnow.symm ▸ htakes

end Wakes

/-! ## Runs -/

/-- An activity that goes as far as it gets at an instant takes no time. -/
theorem comesFrom_advance (b : Backend W S ε) (site : S) (w : W) (hway : ways .first)
    (h : a.LeadsTo ways cancelAt start a' now) :
    (b.advance site cancelAt now a' w).2.ComesFrom ways cancelAt a start now ∧
      (b.advance site cancelAt now a' w).2.IsOpen cancelAt now := by
  induction a' generalizing w with
  | done x =>
    obtain ⟨before, hleads⟩ := h
    exact ⟨⟨_, hleads _ _ _ (.done ..)⟩, trivial⟩
  | abort => exact ⟨trivial, trivial⟩
  | clock next ih => exact ih now w (h.step [] fun _ _ _ htakes => .clock htakes)
  | either first second ih _ => exact ih w (h.step [] fun _ _ _ htakes => .first hway htakes)
  | ask r limit heeds next ih =>
    have hself (limit : Option Instant) : Allows limit now now := Activity.allows_self limit now
    rw [advance]
    split
    · next hcancelled =>
      exact ih _ _ (leadsTo_cancelled (Nat.le_refl _) (hself _) (fun _ => hself _) h hcancelled)
    · next hstays =>
      dsimp only
      split
      · exact ih _ _ (leadsTo_reply (Nat.le_refl _) (hself _) (fun _ => hself _) h _)
      · split
        · next hlate =>
          exact ih _ _ (leadsTo_late (Nat.le_refl _) (hself _) (fun _ => hself _) h hlate)
        · next hlimit =>
          refine ⟨⟨now, Nat.le_refl _, hself _, fun _ => hself _, h⟩, ?_⟩
          exact ⟨by simpa using hlimit, by simpa using hstays⟩

theorem comesFrom_resume (b : Backend W S ε) (w : W) (hway : ways .first) {t : Task W S ε α}
    (h : t.state.ComesFrom ways t.cancelAt a start now) :
    (b.resume now w t).2.cancelAt = t.cancelAt ∧
      (b.resume now w t).2.state.ComesFrom ways t.cancelAt a start now ∧
      (b.resume now w t).2.state.IsOpen t.cancelAt now := by
  obtain ⟨site, cancelAt, state⟩ := t
  cases state with
  | ended x => exact ⟨rfl, h, trivial⟩
  | aborted => exact ⟨rfl, h, trivial⟩
  | waiting r flight limit heeds next =>
    obtain ⟨since, hle, hlimit, hheeds, hleads⟩ := id h
    rw [resume]
    dsimp only
    split
    · exact ⟨rfl, comesFrom_advance _ _ _ hway (leadsTo_reply hle hlimit hheeds hleads _)⟩
    · split
      · next hcancelled =>
        have hnext := leadsTo_cancelled hle hlimit hheeds hleads hcancelled
        exact ⟨rfl, comesFrom_advance _ _ _ hway hnext⟩
      · next hstays =>
        split
        · next hlate =>
          exact ⟨rfl, comesFrom_advance _ _ _ hway (leadsTo_late hle hlimit hheeds hleads hlate)⟩
        · next hopen => exact ⟨rfl, h, by simpa using hopen, by simpa using hstays⟩

/-- The task in front goes on while the clock stands still, and afterwards its wait is open. -/
theorem comesFrom_happen (b : Backend W S ε) (hway : ways .first) (passes : Nat)
    {s : System W S ε β} {front : Task W S ε α}
    (h : front.state.ComesFrom ways front.cancelAt a start s.now)
    (hopen : passes = 0 → front.state.IsOpen front.cancelAt s.now) :
    (b.happen passes s front).1.now = s.now ∧
      (b.happen passes s front).2.cancelAt = front.cancelAt ∧
      (b.happen passes s front).2.state.ComesFrom ways front.cancelAt a start s.now ∧
      (b.happen passes s front).2.state.IsOpen front.cancelAt s.now := by
  induction passes generalizing s front with
  | zero => exact ⟨rfl, rfl, h, hopen rfl⟩
  | succ passes ih =>
    obtain ⟨hcancel, hcomes, hstays⟩ := comesFrom_resume b s.world hway h
    rw [happen]
    generalize b.resume s.now s.world front = resumed at hcancel hcomes hstays
    obtain ⟨world, front'⟩ := resumed
    dsimp only at hcancel hcomes hstays ⊢
    rw [← hcancel] at hcomes hstays ⊢
    split
    · exact ih hcomes fun _ => hstays
    · exact ⟨rfl, rfl, hcomes, hstays⟩

/-- The clock does not pass an alarm of a task, so its wait goes on until the next instant. -/
theorem comesFrom_later {t : Task W S ε α} (hover : t.isOver = false)
    (h : t.state.ComesFrom ways t.cancelAt a start now) (hopen : t.state.IsOpen t.cancelAt now)
    (hle : now ≤ later) (halarms : ∀ alarm ∈ t.alarms, now < alarm → later ≤ alarm) :
    t.state.ComesFrom ways t.cancelAt a start later := by
  obtain ⟨site, cancelAt, state⟩ := t
  cases state with
  | ended => cases hover
  | aborted => cases hover
  | waiting r flight limit heeds next =>
    obtain ⟨since, hsince, -, -, hleads⟩ := h
    obtain ⟨hlimit, hstays⟩ := hopen
    refine ⟨since, Nat.le_trans hsince hle, fun instant hinstant => ?_,
      fun hheeds instant hinstant => ?_, hleads⟩
    · obtain rfl : limit = some instant := hinstant
      have hlater : now < instant := by simpa using hlimit
      refine Nat.le_trans (halarms instant ?_ hlater) (Nat.le_max_right ..)
      simp [Task.alarms]
    · obtain rfl : cancelAt = some instant := hinstant
      obtain rfl : heeds = true := hheeds
      have hlater : now < instant := by simpa [isCancelled] using hstays
      refine Nat.le_trans (halarms instant ?_ hlater) (Nat.le_max_right ..)
      simp [Task.alarms]

/-- The next instant is the first alarm after the present one. -/
theorem of_nextInstant? {s : System W S ε β} {front : Task W S ε α} {next : Instant}
    (h : b.nextInstant? s front = some next) :
    s.now < next ∧ ∀ alarm ∈ front.alarms, s.now < alarm → next ≤ alarm := by
  rw [nextInstant?, List.min?_eq_some_iff] at h
  obtain ⟨hmem, hleast⟩ := h
  refine ⟨by simpa using (List.mem_filter.1 hmem).2, fun alarm halarm hlater => hleast alarm ?_⟩
  refine List.mem_filter.2 ⟨?_, by simpa using hlater⟩
  exact List.mem_append_left _ (List.mem_append_left _ halarm)

theorem takes_of_runWithin (hway : ways .first) {jumps : Nat} {s s' : System W S ε β}
    (front : Task W S ε α) (h : front.state.ComesFrom ways front.cancelAt a start s.now)
    (hrun : b.runWithin jumps s front = (s', .ended x)) :
    ∃ log, a.Takes ways front.cancelAt start log s'.now x := by
  induction jumps generalizing s front with
  | zero => cases hrun
  | succ jumps ih =>
    obtain ⟨hnow, hcancel, hcomes, hopen⟩ :=
      comesFrom_happen b hway (s.background.length + 3) h nofun
    rw [runWithin] at hrun
    generalize b.happen _ s front = happened at hnow hcancel hcomes hopen hrun
    obtain ⟨s₁, front₁⟩ := happened
    dsimp only at hnow hcancel hcomes hopen hrun
    rw [← hnow, ← hcancel] at hcomes hopen
    rw [← hcancel]
    split at hrun
    · next y hended =>
      cases hrun
      rwa [hended] at hcomes
    · cases hrun
    · next hwaits =>
      split at hrun
      · cases hrun
      · next next hnext =>
        obtain ⟨hlater, halarms⟩ := of_nextInstant? hnext
        have hover : front₁.isOver = false := by rw [Task.isOver, hwaits]
        exact ih front₁ (comesFrom_later hover hcomes hopen (Nat.le_of_lt hlater) halarms) hrun

/-- An activity takes its time in every run. Take any world, any tasks in the background, and any
    instant at which the activity may be cancelled. If the run ends, then the activity has taken the
    time that has passed on the clock, and has got some answers on its way. -/
theorem takes_of_run (hway : ways .first) {s s' : System W S ε β}
    (hrun : b.run s site cancelAt a = (s', .ended x)) :
    ∃ log, a.Takes ways cancelAt s.now log s'.now x := by
  have hself : a.LeadsTo ways cancelAt s.now a s.now := a.leadsTo_refl s.now
  obtain ⟨hcomes, -⟩ := comesFrom_advance b site s.world hway hself
  rw [run] at hrun
  generalize b.advance site cancelAt s.now a s.world = advanced at hcomes hrun
  obtain ⟨world, state⟩ := advanced
  dsimp only at hcomes hrun
  cases state with
  | ended y =>
    cases hrun
    exact hcomes
  | aborted => cases hrun
  | waiting r flight limit heeds next =>
    exact takes_of_runWithin (s := { s with world }) hway ⟨site, cancelAt, _⟩ hcomes hrun

end Backend

end ClusterVault
