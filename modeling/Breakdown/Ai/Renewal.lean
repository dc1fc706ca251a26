/-
**HOW LONG A JOB MAY RUN ON A PERMIT** (`infra/src/ai/runtime.rs`,
`renew_while` and `run_job_as`).

While a job runs, the loop renews the lease of its permit and keeps, as `confirmed_deadline`, the
instant up to which it takes the lease to be valid. The job is driven as long as that instant has not
come. The model runs the loop turn by turn beside the expiry that is stored in the database, with
arbitrary instants at which a renewal is sent, applied and answered.

The first deadline is anchored before the acquisition, the later ones at the instant the answer of a
renewal has RETURNED, which is the LATEST instant the database can have applied it.

- `turn_held`: a turn keeps the deadline within the stored lease if a confirmed renewal
  returns at the instant it was applied;
- `job_within_lease`: over whole runs, and that any later return puts the deadline behind the lease;
- `job_outlives_lease`: a run in which the job is driven nine seconds past its lease.
-/
import Breakdown.Ai.PermitCeilings

namespace Breakdown.Ai

open Transition

/-! ## §1. The loop -/

section Loop

variable {τ : Type}

/-- One second of a `Duration`, in nanoseconds. -/
def oneSecond : Nat := 10 ^ 9

/-- `permit_renewal_interval`, with `RENEWALS_PER_LEASE = 3`. -/
def permitRenewalInterval (lease : Nat) : Nat := let interval := lease / 3
  if interval < oneSecond then oneSecond else interval

/-- A renewal the loop has waited for: when it was sent, when the database applied it (if it did), when
`renew()` returned, and with what. -/
structure Attempt where
  sent : Nat
  applied : Option Nat
  returned : Nat
  result : Except DomainError Unit

/-- The instants of a renewal are in order; a success has been applied, a conflict has not, and of any
other error one cannot tell. -/
def Attempt.consistent (attempt : Attempt) : Bool := attempt.sent ≤ attempt.returned &&
    (attempt.applied.all fun applied => attempt.sent ≤ applied && applied ≤ attempt.returned) &&
    match attempt.result with
    | .ok () => attempt.applied.isSome
    | .error (.conflict _ _) => attempt.applied.isNone
    | .error _ => true

/-- What ends a turn of the loop. -/
inductive Turn (τ : Type)
  /-- The operation is done. -/
  | finished (at_ : Nat) (result : Except DomainError τ)
  /-- The idle wait is over. -/
  | ticked
  /-- The renewal in flight has returned. -/
  | answered (attempt : Attempt)
  /-- It has not, up to the deadline; the database may have applied it all the same. -/
  | timedOut (applied : Option Nat)

/-- The loop at the top of a turn, and beside it the expiry stored in the database and the instant up
to which the operation has been driven. -/
structure RenewLoop (τ : Type) where
  now : Nat
  confirmedDeadline : Nat
  inFlight : Bool := false
  returned : Option (Except DomainError τ) := none
  dbExpiry : Nat
  drivenUntil : Option Nat := none

/-- `renew_while` on entry: `acquired_at` was read before the acquisition, which the database applied
some time before the loop is entered. -/
def RenewLoop.enter (lease acquiredAt appliedAt enteredAt : Nat) : RenewLoop τ where
  now := enteredAt
  confirmedDeadline := acquiredAt + lease
  dbExpiry := appliedAt + lease

/-- The `UPDATE` of `renew` at an instant: the new expiry, or none if the row has expired. -/
def applyRenewal (lease dbExpiry : Nat) : Option Nat → Option Nat
  | none => some dbExpiry
  | some applied => if applied < dbExpiry then some (applied + lease) else none

/-- The loop aborts: the confirmed lease has run out. -/
def leaseExpired (permitId : Uuid) : DomainError :=
  .conflict .domainConflict ("AI concurrency permit " ++ permitId.toDisplay ++
    " lease expired without a confirmed renewal")

/-- A turn without a renewal in flight: wait for the next tick, but never past the deadline. -/
def idleTurn (lease : Nat) (s : RenewLoop τ) : Turn τ → Option (RenewLoop τ)
  | .finished at_ result =>
    if s.now ≤ at_ ∧ at_ ≤ s.now + min (permitRenewalInterval lease) (s.confirmedDeadline - s.now)
    then some { s with drivenUntil := some at_, returned := some result }
    else none
  | .ticked =>
    let wake := s.now + min (permitRenewalInterval lease) (s.confirmedDeadline - s.now)
    some { s with now := wake, inFlight := true, drivenUntil := some wake }
  | _ => none

/-- What the loop makes of an answer. -/
def RenewLoop.settle (lease : Nat) (s : RenewLoop τ) (attempt : Attempt) (dbExpiry : Nat) :
    RenewLoop τ :=
  let s := { s with
    now := attempt.returned, inFlight := false, dbExpiry, drivenUntil := some attempt.returned }
  match attempt.result with
  -- `confirmed_deadline = Instant::now() + lease`, read after the call has returned
  | .ok () => { s with confirmedDeadline := attempt.returned + lease }
  | .error (.conflict _ reason) =>
    { s with returned := some (.error (.conflict .domainConflict reason)) }
  | .error _ => s

/-- A turn with a renewal in flight, bounded by the deadline; the operation is driven beside it. -/
def inFlightTurn (lease : Nat) (s : RenewLoop τ) : Turn τ → Option (RenewLoop τ)
  | .finished at_ result =>
    if s.now ≤ at_ ∧ at_ ≤ s.confirmedDeadline then
      some { s with drivenUntil := some at_, returned := some result }
    else none
  | .answered attempt =>
    if s.now ≤ attempt.sent ∧ attempt.returned ≤ s.confirmedDeadline ∧ attempt.consistent = true then
      (applyRenewal lease s.dbExpiry attempt.applied).map (s.settle lease attempt)
    else none
  | .timedOut applied =>
    if applied.all (fun applied => s.now ≤ applied && applied ≤ s.confirmedDeadline) then
      (applyRenewal lease s.dbExpiry applied).map fun dbExpiry =>
        { s with
          now := s.confirmedDeadline, inFlight := false, dbExpiry
          drivenUntil := some s.confirmedDeadline }
    else none
  | .ticked => none

/-- One turn of `renew_while`. -/
def renewTurn (lease : Nat) (permitId : Uuid) (s : RenewLoop τ) (turn : Turn τ) :
    Option (RenewLoop τ) :=
  if s.returned.isSome then none
  else if s.confirmedDeadline ≤ s.now then
    some { s with returned := some (.error (leaseExpired permitId)) }
  else if s.inFlight then inFlightTurn lease s turn
  else idleTurn lease s turn

end Loop

/-! ## §2. The deadline and the stored lease -/

section Deadline

variable {τ : Type} {lease : Nat} {permitId : Uuid} {s t : RenewLoop τ} {turn : Turn τ}

/-- **THE CONDITION ON A TURN.** A confirmed renewal returns at the instant it was applied. -/
def promptly : Turn τ → Bool
  | .answered ⟨_, applied, returned, .ok ()⟩ => applied == some returned
  | _ => true

/-- The deadline and the operation are within the stored lease, which was last set no later than now. -/
structure Held (lease : Nat) (s : RenewLoop τ) : Prop where
  deadline : s.confirmedDeadline ≤ s.dbExpiry
  driven : ∀ instant ∈ s.drivenUntil, instant ≤ s.dbExpiry
  set : s.dbExpiry ≤ s.now + lease

theorem Held.enter (hacquired : acquiredAt ≤ appliedAt) (hentered : appliedAt ≤ enteredAt) :
    Held lease (RenewLoop.enter lease acquiredAt appliedAt enteredAt : RenewLoop τ) where
  deadline := Nat.add_le_add_right hacquired lease
  driven := nofun
  set := Nat.add_le_add_right hentered lease

/-- A renewal applied between two instants never shortens the lease, and sets it from in between. -/
theorem applyRenewal_bounds (h : applyRenewal lease expiry applied = some expiry')
    (hin : (applied.all fun applied => from_ ≤ applied && applied ≤ until_))
    (hset : expiry ≤ from_ + lease) (hle : from_ ≤ until_) :
    expiry ≤ expiry' ∧ expiry' ≤ until_ + lease := by
  cases applied with
  | none =>
    simp only [applyRenewal, Option.some.injEq] at h
    omega
  | some =>
    simp only [Option.all_some, Bool.and_eq_true, decide_eq_true_eq] at hin
    simp only [applyRenewal] at h
    split at h
    · simp only [Option.some.injEq] at h
      omega
    · cases h

/-- An idle turn only spends time, and none past the deadline. -/
theorem idleTurn_held (h : Held lease s) (hnow : s.now < s.confirmedDeadline)
    (hturn : idleTurn lease s turn = some t) : Held lease t := by
  have hdeadline := h.deadline
  have hset := h.set
  cases turn with
  | finished at_ =>
    simp only [idleTurn] at hturn
    split at hturn
    · next hat =>
      cases hturn
      refine ⟨hdeadline, ?_, hset⟩
      intro instant hinstant
      cases hinstant
      show at_ ≤ s.dbExpiry
      omega
    · cases hturn
  | ticked =>
    simp only [idleTurn, Option.some.injEq] at hturn
    subst hturn
    refine ⟨hdeadline, ?_, ?_⟩
    · intro instant hinstant
      cases hinstant
      show s.now + min (permitRenewalInterval lease) (s.confirmedDeadline - s.now) ≤ s.dbExpiry
      omega
    · show s.dbExpiry ≤
        s.now + min (permitRenewalInterval lease) (s.confirmedDeadline - s.now) + lease
      omega
  | answered | timedOut => cases hturn

/-- **WHERE THE ANCHOR MATTERS.** An answer keeps the invariant if a confirmed renewal returns when it
is applied; the other answers leave the deadline where it was. -/
theorem settle_held {attempt} (h : Held lease s) (hsent : s.now ≤ attempt.sent)
    (hreturned : attempt.returned ≤ s.confirmedDeadline) (hconsistent : attempt.consistent)
    (hexpiry : applyRenewal lease s.dbExpiry attempt.applied = some dbExpiry)
    (hprompt : promptly (.answered attempt : Turn τ)) :
    Held lease (s.settle lease attempt dbExpiry) := by
  obtain ⟨sent, applied, returned, result⟩ := attempt
  have hdeadline := h.deadline
  simp only [Attempt.consistent, Bool.and_eq_true, decide_eq_true_eq] at hconsistent
  obtain ⟨⟨horder, hin⟩, hresult⟩ := hconsistent
  simp only at hsent hreturned hexpiry
  have hset : s.dbExpiry ≤ sent + lease := Nat.le_trans h.set (by omega)
  obtain ⟨hgrows, hbound⟩ := applyRenewal_bounds hexpiry hin hset horder
  have hdriven : ∀ instant ∈ (some returned : Option Nat), instant ≤ dbExpiry := by
    intro instant hinstant
    cases hinstant
    omega
  unfold RenewLoop.settle
  cases result with
  | ok =>
    -- applied at the instant of the return, so the stored lease starts there as well
    simp only [promptly, beq_iff_eq] at hprompt
    subst hprompt
    have hvalue : returned + lease = dbExpiry := by
      simp only [applyRenewal] at hexpiry
      split at hexpiry
      · exact Option.some.inj hexpiry
      · cases hexpiry
    exact ⟨Nat.le_of_eq hvalue, hdriven, hbound⟩
  | error error =>
    have hkept : s.confirmedDeadline ≤ dbExpiry := Nat.le_trans hdeadline hgrows
    cases error <;> exact ⟨hkept, hdriven, hbound⟩

theorem inFlightTurn_held (h : Held lease s) (hnow : s.now < s.confirmedDeadline)
    (hprompt : promptly turn) (hturn : inFlightTurn lease s turn = some t) : Held lease t := by
  have hdeadline := h.deadline
  cases turn with
  | finished at_ =>
    simp only [inFlightTurn] at hturn
    split at hturn
    · next hat =>
      cases hturn
      refine ⟨hdeadline, ?_, h.set⟩
      intro instant hinstant
      cases hinstant
      show at_ ≤ s.dbExpiry
      omega
    · cases hturn
  | ticked => cases hturn
  | answered =>
    simp only [inFlightTurn] at hturn
    split at hturn
    · next hattempt =>
      obtain ⟨dbExpiry, hexpiry, hsettled⟩ := Option.map_eq_some_iff.1 hturn
      subst hsettled
      exact settle_held h hattempt.1 hattempt.2.1 hattempt.2.2 hexpiry hprompt
    · cases hturn
  | timedOut =>
    simp only [inFlightTurn] at hturn
    split at hturn
    · next hin =>
      obtain ⟨dbExpiry, hexpiry, hafter⟩ := Option.map_eq_some_iff.1 hturn
      subst hafter
      obtain ⟨hgrows, hbound⟩ := applyRenewal_bounds hexpiry hin h.set (Nat.le_of_lt hnow)
      have hkept : s.confirmedDeadline ≤ dbExpiry := Nat.le_trans hdeadline hgrows
      refine ⟨hkept, ?_, hbound⟩
      intro instant hinstant
      cases hinstant
      exact hkept
    · cases hturn

/-- **STEP.** A turn whose renewal returns promptly keeps deadline and operation within the lease. -/
theorem turn_held (h : Held lease s) (hprompt : promptly turn)
    (hturn : renewTurn lease permitId s turn = some t) : Held lease t := by
  unfold renewTurn at hturn
  split at hturn
  · cases hturn
  split at hturn
  · cases hturn
    exact ⟨h.deadline, h.driven, h.set⟩
  · next hnow =>
    split at hturn
    · exact inFlightTurn_held h (Nat.lt_of_not_le hnow) hprompt hturn
    · exact idleTurn_held h (Nat.lt_of_not_le hnow) hturn

/-- A confirmed renewal that returns later than it was applied puts the deadline behind the lease. -/
theorem late_turn (hlate : promptly turn = false) (hopen : s.now < s.confirmedDeadline)
    (hturn : renewTurn lease permitId s turn = some t) : t.dbExpiry < t.confirmedDeadline := by
  unfold promptly at hlate
  split at hlate
  · next sent applied returned =>
    unfold renewTurn at hturn
    rw [if_neg (Nat.not_le_of_lt hopen)] at hturn
    split at hturn
    · cases hturn
    split at hturn
    · simp only [inFlightTurn] at hturn
      split at hturn
      · next hattempt =>
        obtain ⟨dbExpiry, hexpiry, hsettled⟩ := Option.map_eq_some_iff.1 hturn
        subst hsettled
        obtain ⟨_, _, hconsistent⟩ := hattempt
        cases applied with
        | none => simp [Attempt.consistent] at hconsistent
        | some applied =>
          simp only [Attempt.consistent, Option.all_some, Bool.and_eq_true,
            decide_eq_true_eq] at hconsistent
          have hne : applied ≠ returned := by simpa using hlate
          simp only [applyRenewal] at hexpiry
          split at hexpiry
          · simp only [Option.some.injEq] at hexpiry
            show dbExpiry < returned + lease
            omega
          · cases hexpiry
      · cases hturn
    · cases hturn
  · cases hlate

/-- **A JOB STAYS WITHIN ITS LEASE EXACTLY WHILE ITS RENEWALS RETURN PROMPTLY.** In every run whose
confirmed renewals return at the instant they were applied, the deadline is never later than the
stored expiry and the operation is never driven past it. And every renewal confirmed later than it
was applied leaves a deadline that is later than the stored expiry. -/
theorem job_within_lease {acquiredAt appliedAt enteredAt : Nat} (hacquired : acquiredAt ≤ appliedAt)
    (hentered : appliedAt ≤ enteredAt) :
    (∀ s : RenewLoop τ, Runs (renewTurn lease permitId) (fun _ turn => promptly turn = true)
        (.enter lease acquiredAt appliedAt enteredAt) s →
      s.confirmedDeadline ≤ s.dbExpiry ∧ ∀ instant ∈ s.drivenUntil, instant ≤ s.dbExpiry) ∧
    ∀ (s t : RenewLoop τ) (turn : Turn τ),
      Runs (renewTurn lease permitId) anyStep (.enter lease acquiredAt appliedAt enteredAt) s →
      s.now < s.confirmedDeadline → renewTurn lease permitId s turn = some t →
      promptly turn = false → t.dbExpiry < t.confirmedDeadline := by
  constructor
  · intro s hrun
    have hheld : Held lease s := hrun.invariant (Held lease) (.enter hacquired hentered)
      fun _ _ _ hs hprompt hturn => turn_held hs hprompt hturn
    exact ⟨hheld.deadline, hheld.driven⟩
  · intro s t turn _ hopen hturn hlate
    exact late_turn hlate hopen hturn

end Deadline

/-! ## §3. Runs -/

/-- A renewal is sent ten seconds into the lease and answered at once. -/
def promptRenewal : List (Turn Unit) :=
  [.ticked, .answered ⟨10 * oneSecond, some (10 * oneSecond), 10 * oneSecond, .ok ()⟩, .ticked]

theorem job_within_lease_promptRenewal : ∃ s : RenewLoop Unit,
      Runs (renewTurn (30 * oneSecond) 7) (fun _ turn => promptly turn = true)
        (.enter (30 * oneSecond) 0 0 0) s ∧
      s.drivenUntil = some (20 * oneSecond) ∧ s.confirmedDeadline ≤ s.dbExpiry := by
  refine exists_runs_imp promptRenewal (P := fun s => s.drivenUntil = some (20 * oneSecond))
    (by decide +kernel) fun s hs hdriven => ⟨hdriven, ?_⟩
  exact ((job_within_lease (Nat.le_refl 0) (Nat.le_refl 0)).1 s hs).1

/-- The answer to a renewal takes nine seconds; the next renewal gets none. -/
def slowAnswer : List (Turn Unit) :=
  [.ticked, .answered ⟨10 * oneSecond, some (10 * oneSecond), 19 * oneSecond, .ok ()⟩, .ticked,
    .timedOut none]

/-- **THE JOB OUTLIVES ITS LEASE.** The stored lease ends 40 seconds in, the deadline is at 49, and the
operation is driven up to it. -/
theorem job_outlives_lease : ∃ s : RenewLoop Unit,
      Runs (renewTurn (30 * oneSecond) 7) anyStep (.enter (30 * oneSecond) 0 0 0) s ∧
      s.dbExpiry = 40 * oneSecond ∧ s.confirmedDeadline = 49 * oneSecond ∧
      s.drivenUntil = some (49 * oneSecond) := exists_runs slowAnswer (by decide +kernel)

end Breakdown.Ai
