/-
**ONE APPLY RUN AT A TIME** (`claim_apply_run`, `mark_apply_progress`,
`infra/src/ai/queue.rs`; migrations `ai_import_apply_progress`, `ai_apply_run_identity`,
`ai_apply_claim_stamp`).

An apply runs against a job that has succeeded, so there is no worker's lease to fence its writes; the job
row has a slot instead. A run claims the slot under an id of its own, publishes its progress there and
clears it at the end. A claim also takes the slot from a run that was silent for too long, and that run may
still be alive: its heartbeats, its last write and the clear of its guard arrive later, in any order.

Every call is one UPDATE and atomic. `now()` is the database's clock and the staleness cutoff and the
stamps in the payloads are the callers'; nothing is assumed about any of them.

- `Shows.perform`: one call does to the row what it does to the tenure of the slot;
- `apply_slot_single_flight`: after any calls of any runs.
-/
import Breakdown.Ai.Queue
import Breakdown.Lib.Slots

namespace Breakdown.Ai

open Slots List

/-! ## §1. The slot -/

inductive ApplyStage
  | applying
  | finalizing

structure ApplyProgress where
  stage : ApplyStage
  applied : Nat
  total : Nat
  startedAt : Timestamp
  updatedAt : Timestamp
  runId : Uuid

/-- The columns of `ai_import_job` that belong to the slot. -/
structure ApplySlot where
  status : JobStatus
  applyRunId : Option Uuid := none
  applyProgress : Option ApplyProgress := none
  applyRunSeq : Nat := 0
  applyClaimAt : Option Timestamp := none
  updatedAt : Timestamp

/-- One call. -/
inductive ApplyCall
  /-- `claim_apply_run`: `stale_before` is the caller's. -/
  | claim (runId : Uuid) (staleBefore now : Timestamp)
  /-- `mark_apply_progress`. -/
  | progress (runId : Uuid) (progress : Option ApplyProgress) (now : Timestamp)
  /-- Any other write to the row of a job that has succeeded, such as `record_telemetry`. -/
  | touch (now : Timestamp)

/-- A timestamp as it is bound: its whole microseconds. -/
def boundTimestamp (t : Nat) : Nat := t / 1000 * 1000

/-- `(text)::timestamptz` of a timestamp's text: rounded to microseconds. -/
def parsedTimestamp (t : Nat) : Nat := (t + 500) / 1000 * 1000

/-- The WHERE clause of `claim_apply_run`; a comparison with NULL is not true. -/
def ApplySlot.claimable (slot : ApplySlot) (staleBefore : Timestamp) : Bool :=
  slot.status = .succeeded &&
    (slot.applyRunId.isNone ||
      (slot.applyProgress.isNone &&
        slot.applyClaimAt.getD slot.updatedAt < boundTimestamp staleBefore) ||
      slot.applyProgress.any fun progress =>
        parsedTimestamp progress.updatedAt < boundTimestamp staleBefore)

/-- `claim_apply_run`, and whether it won the slot. -/
def ApplySlot.claimApplyRun (slot : ApplySlot) (runId : Uuid) (staleBefore now : Timestamp) :
    ApplySlot × Bool :=
  -- BIGINT: at the end of its range the addition fails, and nothing is written
  if slot.claimable staleBefore ∧ slot.applyRunSeq + 1 < 9223372036854775808 then
    ({ slot with
       applyRunId := some runId
       applyProgress := none
       applyRunSeq := slot.applyRunSeq + 1
       applyClaimAt := some now
       updatedAt := now }, true)
  else (slot, false)

/-- `mark_apply_progress`, and whether it changed the row. -/
def ApplySlot.markApplyProgress (slot : ApplySlot) (runId : Uuid) (progress : Option ApplyProgress)
    (now : Timestamp) : ApplySlot × Bool :=
  if slot.status = .succeeded ∧ slot.applyRunId = some runId then
    ({ slot with
       applyProgress := progress
       applyRunId := if progress.isNone then none else slot.applyRunId
       updatedAt := now }, true)
  else (slot, false)

/-- One call, and whether it changed the row. -/
def ApplySlot.perform (slot : ApplySlot) : ApplyCall → ApplySlot × Bool
  | .claim runId staleBefore now => slot.claimApplyRun runId staleBefore now
  | .progress runId progress now => slot.markApplyProgress runId progress now
  | .touch now => ({ slot with updatedAt := now }, true)

/-- Calls, one after the other, with what they did. -/
def ApplySlot.performAll : ApplySlot → List ApplyCall → ApplySlot × List (ApplyCall × Bool)
  | slot, [] => (slot, [])
  | slot, call :: calls =>
    let (next, hit) := slot.perform call
    let (last, trace) := next.performAll calls
    (last, (call, hit) :: trace)

/-! ## §2. Tenures -/

abbrev ApplyAct := Act Uuid Timestamp ApplyProgress

/-- A claim that wins the slot. -/
def isWonClaim : ApplyCall × Bool → Bool
  | (.claim .., hit) => hit
  | _ => false

/-- What a call is to the slot: a claim that wins it, a write or a release. A run that does not hold the slot
writes and releases all the same. -/
def actOf : ApplyCall × Bool → Option ApplyAct
  | (.claim runId _ now, hit) => if hit then some (.claim runId now) else none
  | (.progress runId (some progress) _, _) => some (.write runId progress)
  | (.progress runId none _, _) => some (.release runId)
  | (.touch _, _) => none

/-- The holder of the slot after the calls. -/
def tenureOf (trace : List (ApplyCall × Bool)) : Option (Tenure Uuid Timestamp ApplyProgress) :=
  after (trace.filterMap actOf)

/-- When a run was last heard of: the stamp of its last payload, or its claim if it wrote nothing. -/
def lastSign (t : Tenure Uuid Timestamp ApplyProgress) : Timestamp := match t.written.getLast? with
  | some progress => progress.updatedAt
  | none => t.since

/-- The row shows the tenure. -/
structure Shows (slot : ApplySlot) (held : Option (Tenure Uuid Timestamp ApplyProgress)) : Prop where
  owner : slot.applyRunId = held.map (·.holder)
  payload : slot.applyProgress = held.bind (·.written.getLast?)
  claimedAt : ∀ t ∈ held, slot.applyClaimAt = some t.since

theorem tenureOf_concat (trace done) : tenureOf (trace ++ [done]) = match actOf done with
      | some act => step (tenureOf trace) act
      | none => tenureOf trace := by
  unfold tenureOf
  rw [filterMap_append]
  cases h : actOf done with
  | none => simp [h]
  | some act =>
    have hone : filterMap actOf [done] = [act] := by simp [h]
    rw [hone, after_concat]

/-- A stamp that is older as the database sees it is older. -/
theorem lt_of_parsedTimestamp (h : parsedTimestamp t < boundTimestamp cutoff) : t < cutoff := by
  unfold parsedTimestamp boundTimestamp at h
  omega

theorem lt_of_boundTimestamp (h : t < boundTimestamp cutoff) : t < cutoff := by
  unfold boundTimestamp at h
  omega

/-- **A CLAIM WINS A FREE SLOT, OR ONE WHOSE HOLDER WAS SILENT SINCE BEFORE THE CUTOFF.** -/
theorem Shows.lastSign_lt (h : Shows slot held)
    (hclaim : slot.claimable staleBefore) (ht : held = some t) : lastSign t < staleBefore := by
  subst ht
  have howner : slot.applyRunId = some t.holder := h.owner
  have hpayload : slot.applyProgress = t.written.getLast? := h.payload
  have hclaimed := h.claimedAt t rfl
  unfold ApplySlot.claimable at hclaim
  rw [howner, hpayload, hclaimed] at hclaim
  unfold lastSign
  cases hlast : t.written.getLast? with
  | none =>
    rw [hlast] at hclaim
    simp only [Option.isNone_some, Option.isNone_none, Bool.false_or, Bool.true_and, Option.getD_some,
      Option.any_none, Bool.or_false, Bool.and_eq_true, decide_eq_true_eq] at hclaim
    exact lt_of_boundTimestamp hclaim.2
  | some =>
    rw [hlast] at hclaim
    simp only [Option.isNone_some, Bool.false_or, Bool.false_and, Option.any_some, Bool.and_eq_true,
      decide_eq_true_eq] at hclaim
    exact lt_of_parsedTimestamp hclaim.2

/-! ## §3. One call -/

/-- A write or clear by a run that does not hold the slot changes nothing. -/
theorem markApplyProgress_fenced {slot : ApplySlot} (h : slot.applyRunId ≠ some runId)
    (progress now) : slot.markApplyProgress runId progress now = (slot, false) := by
  unfold ApplySlot.markApplyProgress
  rw [if_neg fun hown => h hown.2]

/-- The holder of the slot writes, or clears it. -/
theorem Shows.markApplyProgress (hstatus : slot.status = .succeeded) (h : Shows slot (some t))
    (progress now) : Shows (slot.markApplyProgress t.holder progress now).1
      (progress.map fun progress => { t with written := t.written ++ [progress] }) := by
  have howner : slot.applyRunId = some t.holder := h.owner
  have hclaimed := h.claimedAt t rfl
  unfold ApplySlot.markApplyProgress
  rw [if_pos ⟨hstatus, howner⟩]
  cases progress with
  | none =>
    refine ⟨rfl, rfl, fun t' ht => ?_⟩
    cases ht
  | some =>
    refine ⟨howner, by simp, fun t' ht => ?_⟩
    cases ht
    exact hclaimed

/-- **ONE CALL DOES TO THE ROW WHAT IT DOES TO THE TENURE.** -/
theorem Shows.perform {slot : ApplySlot} {held} (hstatus : slot.status = .succeeded)
    (h : Shows slot held) (call) : Shows (slot.perform call).1
      (match actOf (call, (slot.perform call).2) with
        | some act => step held act
        | none => held) := by
  cases call with
  | claim runId staleBefore now =>
    show Shows (slot.claimApplyRun runId staleBefore now).1
      (match actOf (_, (slot.claimApplyRun runId staleBefore now).2) with
        | some act => step held act
        | none => held)
    unfold ApplySlot.claimApplyRun
    split
    · refine ⟨rfl, rfl, fun t ht => ?_⟩
      cases ht
      rfl
    · exact h
  | touch => exact ⟨h.owner, h.payload, h.claimedAt⟩
  | progress runId progress now =>
    have hact : (match actOf (.progress runId progress now,
        (slot.perform (.progress runId progress now)).2) with
        | some act => step held act
        | none => held) = match progress with
        | some progress => step held (.write runId progress)
        | none => step held (.release runId) := by
      cases progress <;> rfl
    rw [hact]
    by_cases hown : slot.applyRunId = some runId
    · -- the holder itself
      obtain ⟨t, rfl, rfl⟩ := Option.map_eq_some_iff.mp (h.owner.symm.trans hown)
      have hwrite := h.markApplyProgress hstatus progress now
      cases progress with
      | none =>
        dsimp only
        rw [(step_of_holder t).2]
        exact hwrite
      | some =>
        dsimp only
        rw [(step_of_holder t).1]
        exact hwrite
    · -- somebody else
      have hother := step_of_other (h.owner ▸ hown)
      show Shows (slot.markApplyProgress runId progress now).1 _
      rw [markApplyProgress_fenced hown]
      cases progress with
      | none =>
        dsimp only
        rw [hother.2]
        exact h
      | some =>
        dsimp only
        rw [hother.1]
        exact h

theorem perform_status (slot : ApplySlot) (call) : (slot.perform call).1.status = slot.status := by
  cases call with
  | claim runId staleBefore now =>
    show (slot.claimApplyRun runId staleBefore now).1.status = _
    unfold ApplySlot.claimApplyRun
    split <;> rfl
  | progress runId progress now =>
    show (slot.markApplyProgress runId progress now).1.status = _
    unfold ApplySlot.markApplyProgress
    split <;> rfl
  | touch => rfl

/-- The counter grows by one with a claim that wins, and with nothing else. -/
theorem perform_seq (slot : ApplySlot) (call) : (slot.perform call).1.applyRunSeq =
      slot.applyRunSeq + if isWonClaim (call, (slot.perform call).2) then 1 else 0 := by
  cases call with
  | claim runId staleBefore now =>
    show (slot.claimApplyRun runId staleBefore now).1.applyRunSeq =
      _ + if isWonClaim (_, (slot.claimApplyRun runId staleBefore now).2) then 1 else 0
    unfold ApplySlot.claimApplyRun
    split <;> rfl
  | progress runId progress now =>
    show (slot.markApplyProgress runId progress now).1.applyRunSeq = _
    unfold ApplySlot.markApplyProgress
    split <;> rfl
  | touch => rfl

/-! ## §4. Any calls of any runs -/

theorem performAll_concat (slot : ApplySlot) (calls call) :
    slot.performAll (calls ++ [call]) = (((slot.performAll calls).1.perform call).1,
        (slot.performAll calls).2 ++ [(call, ((slot.performAll calls).1.perform call).2)]) := by
  induction calls generalizing slot with
  | nil => rfl
  | cons first calls ih =>
    simp only [cons_append, ApplySlot.performAll]
    rw [ih]

/-- **WHAT IS TRUE OF THE SLOT AFTER THE CALLS.** -/
structure SingleFlight (start : ApplySlot) (calls : List ApplyCall) : Prop where
  /-- The owner is the run whose claim won last, unless it released the slot since. -/
  owner : (start.performAll calls).1.applyRunId =
    (tenureOf (start.performAll calls).2).map (·.holder)
  /-- The payload is the last one that the owner wrote since its claim, if it wrote one. -/
  payload : (start.performAll calls).1.applyProgress =
    (tenureOf (start.performAll calls).2).bind (·.written.getLast?)
  /-- What holding the slot means: nobody's claim won since the owner's latest one, the owner has not cleared
      the slot since, and what it wrote since is what counts. -/
  tenure : ∀ t, tenureOf (start.performAll calls).2 = some t →
    ∃ pre post, (start.performAll calls).2.filterMap actOf = pre ++ .claim t.holder t.since :: post ∧
      (∀ act ∈ post, act.isClaim = false ∧ act.isReleaseBy t.holder = false) ∧
      t.written = post.filterMap (Act.writtenBy t.holder)
  /-- The counter counts the claims that won. -/
  counter : (start.performAll calls).1.applyRunSeq =
    start.applyRunSeq + (start.performAll calls).2.countP isWonClaim
  /-- A write or clear of anybody but the owner changes nothing. -/
  fenced : ∀ runId progress now, (start.performAll calls).1.applyRunId ≠ some runId →
    (start.performAll calls).1.perform (.progress runId progress now) =
      ((start.performAll calls).1, false)
  /-- A claim wins only a free slot, or one whose owner was last heard of before the cutoff. -/
  claimed : ∀ runId staleBefore now,
    ((start.performAll calls).1.perform (.claim runId staleBefore now)).2 = true →
    (start.performAll calls).1.applyRunId = none ∨
      ∃ t, tenureOf (start.performAll calls).2 = some t ∧
        (start.performAll calls).1.applyRunId = some t.holder ∧ lastSign t < staleBefore

/-- The row shows the tenure after any calls. -/
theorem performAll_shows {start : ApplySlot} (hstatus : start.status = .succeeded)
    (howner : start.applyRunId = none) (hprogress : start.applyProgress = none)
    (calls : List ApplyCall) : (start.performAll calls).1.status = .succeeded ∧
      Shows (start.performAll calls).1 (tenureOf (start.performAll calls).2) := by
  induction calls using reverseRecOn with
  | nil =>
    refine ⟨hstatus, howner, hprogress, fun t ht => ?_⟩
    cases ht
  | append_singleton calls call ih =>
    rw [performAll_concat]
    refine ⟨(perform_status ..).trans ih.1, ?_⟩
    rw [tenureOf_concat]
    exact ih.2.perform ih.1 call

theorem performAll_seq (start : ApplySlot) (calls) : (start.performAll calls).1.applyRunSeq =
      start.applyRunSeq + (start.performAll calls).2.countP isWonClaim := by
  induction calls using reverseRecOn with
  | nil => rfl
  | append_singleton calls call ih =>
    rw [performAll_concat, perform_seq, ih, countP_append, countP_singleton, Nat.add_assoc]

/-- **THE SLOT IS SINGLE-FLIGHT**, after any calls of any runs on a job that has succeeded and whose slot was
free. -/
theorem apply_slot_single_flight {start : ApplySlot} (hstatus : start.status = .succeeded)
    (howner : start.applyRunId = none) (hprogress : start.applyProgress = none)
    (calls : List ApplyCall) : SingleFlight start calls := by
  have hshows := (performAll_shows hstatus howner hprogress calls).2
  refine ⟨hshows.owner, hshows.payload, fun t ht => after_eq_some ht, performAll_seq start calls,
    fun runId progress now hother => markApplyProgress_fenced hother progress now, ?_⟩
  intro runId staleBefore now hwon
  have hclaimable : (start.performAll calls).1.claimable staleBefore = true := by
    change (ApplySlot.claimApplyRun _ runId staleBefore now).2 = true at hwon
    unfold ApplySlot.claimApplyRun at hwon
    split at hwon
    · next h => exact h.1
    · cases hwon
  cases ht : tenureOf (start.performAll calls).2 with
  | none =>
    left
    rw [hshows.owner, ht]
    rfl
  | some t =>
    refine .inr ⟨t, rfl, ?_, hshows.lastSign_lt hclaimable ht⟩
    rw [hshows.owner, ht]
    rfl

/-- Run 1 publishes and falls silent; run 2 takes the slot over and publishes; then run 1's last write and its
clear arrive. -/
theorem apply_slot_single_flight_late_clear : SingleFlight ⟨.succeeded, none, none, 0, none, 0⟩
      [.claim 1 0 1000000, .progress 1 (some ⟨.applying, 1, 9, 1000000, 2000000, 1⟩) 2000000,
        .claim 2 3000000 9000000, .progress 2 (some ⟨.applying, 0, 9, 9000000, 9000000, 2⟩) 9001000,
        .progress 1 (some ⟨.finalizing, 9, 9, 1000000, 9002000, 1⟩) 9002000,
        .progress 1 none 9003000] :=
  apply_slot_single_flight rfl rfl rfl _

end Breakdown.Ai
