/-
**THE REPORT BACKUP WORKER AND ITS RETRY COUNTER.**

One row of `report_job`, the worker's `process_job` as a function of what the loader, the renderer
and the two storages answer, and the reconciliation that releases a claim left behind. An attempt
is one step: a release that falls inside it is overwritten by the attempt's next mark, or leaves
the row as a release right after the attempt does.
-/
import Breakdown.Lib.Transition

namespace Breakdown.Reporting

open Transition

/-! ## §1. The job row and the queue's updates -/

/-- Where a report job stands. -/
inductive ReportJobStatus
  | pending | claimed | staged | uploading | succeeded | failed | deadLetter
deriving DecidableEq

/-- The columns of `report_job` that decide whether and how a job is processed. -/
structure ReportJob where
  status : ReportJobStatus := .pending
  retries : Nat := 0
  maxRetries : Nat
  stagedHandle : Option String := none
  contentDigest : Option String := none

namespace ReportJob

/-- `mark_staged`. -/
def markStaged (job : ReportJob) (key digest : String) : ReportJob :=
  { job with status := .staged, stagedHandle := some key, contentDigest := some digest }

/-- `mark_failure`: count the attempt; the last one dead-letters the job. -/
def markFailure (job : ReportJob) : ReportJob := { job with
    retries := job.retries + 1
    status := if job.retries + 1 ≥ job.maxRetries then .deadLetter else .failed }

/-- `mark_terminal_failure`. -/
def markTerminalFailure (job : ReportJob) : ReportJob := { job with status := .deadLetter }

/-- `clear_staged_handle`. -/
def clearStagedHandle (job : ReportJob) : ReportJob := { job with stagedHandle := none }

/-- `claim_next` on this row. -/
def claimNext (job : ReportJob) : Option ReportJob :=
  if job.status ∈ [.pending, .failed, .staged, .uploading] then
    some { job with status := .claimed }
  else none

/-- `release_stale_claim`: the retry counter is not touched. -/
def releaseStaleClaim (job : ReportJob) : ReportJob := if job.status = .claimed then
    { job with status := if job.stagedHandle.isSome then .staged else .pending }
  else job

end ReportJob

/-! ## §2. One attempt -/

/-- What the calls of one attempt answer; a fetched or rendered object by its digest. -/
structure Answers where
  /-- The stored handle and digest, converted, and the fetch of that object. -/
  reusedFetch : Except String String
  load : Except String Unit := .ok ()
  render : Except String String
  /-- `staging_key` and the put under it. -/
  stagingPut : Except String String := .ok "staged"
  uploadFetch : Except String String
  externalKey : Except String Unit := .ok ()
  externalPut : Except String Unit := .ok ()
  stagingDelete : Except String Unit := .ok ()

/-- Part 1 of `process_job`: reuse the staged object or render and stage a new one. -/
def ensureStaged (a : Answers) (job : ReportJob) : ReportJob × Except String String :=
  match job.stagedHandle, job.contentDigest with
  | some _, some digest =>
    -- The conversions and this fetch end in `?`: no failure is recorded.
    match a.reusedFetch with
    | .error e => (job, .error e)
    | .ok actual =>
      if actual ≠ digest then (job.markTerminalFailure, .error "staged digest mismatch")
      else (job, .ok digest)
  | _, _ =>
    match a.load with
    | .error e => (job.markTerminalFailure, .error ("data load failed: " ++ e))
    | .ok _ =>
      match a.render with
      | .error e => (job.markTerminalFailure, .error e)
      | .ok digest =>
        -- So do `staging_key` and `staging.put`.
        match a.stagingPut with
        | .error e => (job, .error e)
        | .ok key => (job.markStaged key digest, .ok digest)

/-- `process_job` on the claimed row. -/
def processJob (retain : Bool) (a : Answers) (claimed : ReportJob) :
    ReportJob × Except String Unit :=
  match ensureStaged a claimed with
  | (job, .error e) => (job, .error e)
  | (job, .ok digest) =>
    let job := { job with status := .uploading }
    match a.uploadFetch with
    | .error e => (job.markFailure, .error e)
    | .ok actual =>
      if actual ≠ digest then
        (job.markTerminalFailure, .error "digest mismatch before external upload")
      else
        match a.externalKey with
        | .error e => (job, .error e)
        | .ok _ =>
          match a.externalPut with
          | .error e => (job.markFailure, .error e)
          | .ok _ =>
            let job := { job with status := .succeeded }
            (if !retain && a.stagingDelete.isOk then job.clearStagedHandle else job, .ok ())

/-- None of the calls whose error leaves `process_job` through `?` fails. -/
def Answers.Recorded (a : Answers) : Prop :=
  a.reusedFetch.isOk ∧ a.stagingPut.isOk ∧ a.externalKey.isOk
deriving Decidable

/-- How an attempt leaves the row: done, given up, or failed with one more retry counted. -/
def Settled (job : ReportJob) (r : ReportJob × Except String Unit) : Prop :=
  r.1.maxRetries = job.maxRetries ∧
    (r.1.status = .succeeded ∧ r.2 = .ok () ∨ r.1.status = .deadLetter ∨
      r.1.status = .failed ∧ r.1.retries = job.retries + 1 ∧ r.1.retries < job.maxRetries)

theorem markFailure_settled (job' : ReportJob) (hmax : job'.maxRetries = job.maxRetries)
    (hretries : job'.retries = job.retries) (e) : Settled job (job'.markFailure, .error e) := by
  unfold Settled ReportJob.markFailure
  rw [hmax, hretries]
  refine ⟨rfl, .inr ?_⟩
  by_cases hlast : job.retries + 1 ≥ job.maxRetries
  · exact .inl (if_pos hlast)
  · exact .inr ⟨if_neg hlast, rfl, Nat.lt_of_not_le hlast⟩

theorem eq_ok_of_isOk {x : Except ε β} (h : x.isOk) : ∃ v, x = .ok v := by
  cases x with
  | ok v => exact ⟨v, rfl⟩
  | error e => cases h

/-- With the unrecorded calls succeeding, part 1 stages the report or dead-letters the job. -/
theorem ensureStaged_spec (ha : a.Recorded) (h : ensureStaged a job = (job', r)) :
    job'.maxRetries = job.maxRetries ∧ job'.retries = job.retries ∧
      (r.isOk ∨ job'.status = .deadLetter) := by
  obtain ⟨_, hfetch⟩ := eq_ok_of_isOk ha.1
  obtain ⟨_, hput⟩ := eq_ok_of_isOk ha.2.1
  unfold ensureStaged at h
  simp only [hfetch, hput] at h
  repeat' split at h
  all_goals cases h
  all_goals first
    | exact ⟨rfl, rfl, .inr rfl⟩
    | exact ⟨rfl, rfl, .inl rfl⟩

theorem processJob_settled (retain : Bool) (job) (ha : a.Recorded) :
    Settled job (processJob retain a job) := by
  obtain ⟨_, hdest⟩ := eq_ok_of_isOk ha.2.2
  unfold processJob
  split
  · next job' e hs =>
    obtain ⟨hmax, -, hok | hdead⟩ := ensureStaged_spec ha hs
    · cases hok
    · exact ⟨hmax, .inr (.inl hdead)⟩
  · next job' digest hs =>
    obtain ⟨hmax, hretries, -⟩ := ensureStaged_spec ha hs
    -- `mark_uploading` keeps the counters, so a counted failure counts from the claimed row's.
    have hfail := markFailure_settled { job' with status := .uploading } hmax hretries
    simp only [hdest]
    repeat' split
    · exact hfail _
    · exact ⟨hmax, .inr (.inl rfl)⟩
    · exact hfail _
    · exact ⟨hmax, .inl ⟨rfl, rfl⟩⟩
    · exact ⟨hmax, .inl ⟨rfl, rfl⟩⟩

/-! ## §3. The worker and the reconciliation over time -/

/-- The row, and how often the worker has processed it. -/
structure Worker where
  job : ReportJob
  processed : Nat := 0

/-- A tick of the worker, or a round of `reconcile`. -/
inductive Action
  | tick (a : Answers)
  /-- One round of `reconcile`; whether a staging delete succeeds is the storage's answer. -/
  | reconcile (deleted : Bool)

/-- One action, if it is enabled. -/
def step (retain : Bool) (w : Worker) : Action → Option Worker
  | .tick a => w.job.claimNext.map fun job => ⟨(processJob retain a job).1, w.processed + 1⟩
  | .reconcile deleted =>
    let job := w.job.releaseStaleClaim
    some { w with
      job := if !retain && job.status = .succeeded && deleted then job.clearStagedHandle else job }

/-- Every attempt of the run meets `Answers.Recorded`. -/
def RecordedStep (_ : Worker) : Action → Prop
  | .tick a => a.Recorded
  | .reconcile _ => True

instance (w : Worker) (act : Action) : Decidable (RecordedStep w act) := by
  cases act <;> unfold RecordedStep <;> infer_instance

/-- Every attempt so far stands in the retry counter, or the job is closed. -/
def Counted (n : Nat) (w : Worker) : Prop := w.job.maxRetries = n ∧ w.processed ≤ n ∧
    (w.job.status = .succeeded ∨ w.job.status = .deadLetter ∨
      w.processed = w.job.retries ∧ w.job.retries < n)

theorem tick_counted (h : Counted n w) (ha : a.Recorded)
    (hs : step retain w (.tick a) = some w') : Counted n w' := by
  obtain ⟨job, hclaim, rfl⟩ := Option.map_eq_some_iff.mp hs
  obtain ⟨hstatus, ⟨⟩⟩ := Option.ite_none_right_eq_some.mp hclaim
  obtain ⟨rfl, hle, hopen⟩ := h
  obtain ⟨heq, hlt⟩ : w.processed = w.job.retries ∧ w.job.retries < w.job.maxRetries := by
    grind
  obtain ⟨hmax, hr⟩ := processJob_settled retain { w.job with status := .claimed } ha
  refine ⟨hmax, by dsimp only; omega, ?_⟩
  rcases hr with ⟨hdone, -⟩ | hdead | ⟨-, hretries, hnext⟩
  · exact .inl hdone
  · exact .inr (.inl hdead)
  · exact .inr (.inr ⟨by rw [hretries, heq], hnext⟩)

theorem step_counted (h : Counted n w) (ha : RecordedStep w act)
    (hs : step retain w act = some w') : Counted n w' := by
  cases act with
  | tick a => exact tick_counted h ha hs
  | reconcile deleted =>
    -- A release turns a claim into an open status; the counters and a closed status stay.
    cases hs
    obtain ⟨hmax, hle, hopen⟩ := h
    unfold Counted ReportJob.releaseStaleClaim
    grind [ReportJob.clearStagedHandle]

/-- **EVERY FAILED ATTEMPT IS COUNTED.** When none of the calls left through `?` fails, a failed
attempt raises the retry counter or dead-letters the job, and a job is processed at most
`max_retries` times. -/
theorem failed_attempts_counted {retain : Bool} {n : Nat} {w : Worker} (hn : 1 ≤ n)
    (h : Runs (step retain) RecordedStep ⟨{ maxRetries := n }, 0⟩ w) :
    w.processed ≤ n ∧ ∀ a : Answers, a.Recorded → ∀ job ∈ w.job.claimNext, ∀ e,
      (processJob retain a job).2 = .error e →
        (processJob retain a job).1.retries = job.retries + 1 ∨
          (processJob retain a job).1.status = .deadLetter := by
  have hinv := h.invariant (Counted n) ⟨rfl, Nat.zero_le n, .inr (.inr ⟨rfl, hn⟩)⟩
    fun _ _ _ => step_counted
  refine ⟨hinv.2.1, fun a ha job _ e he => ?_⟩
  obtain ⟨-, ⟨-, hok⟩ | hdead | ⟨-, hretries, -⟩⟩ := processJob_settled retain job ha
  · cases hok.symm.trans he
  · exact .inr hdead
  · exact .inl hretries

/-- A provider that keeps refusing the upload: the second of two attempts dead-letters the job. -/
theorem failed_attempts_counted_outage :
    ∃ w, Runs (step true) RecordedStep ⟨{ maxRetries := 2 }, 0⟩ w ∧ w.processed = 2 ∧
      w.job.status = .deadLetter ∧ w.processed ≤ 2 :=
  let a : Answers := { reusedFetch := .ok "d", render := .ok "d", uploadFetch := .ok "d",
                       externalPut := .error "503" }
  exists_runs_imp [.tick a, .tick a]
    (P := fun w => w.processed = 2 ∧ w.job.status = .deadLetter) (by decide +kernel)
    fun _ h hw => ⟨hw.1, hw.2, (failed_attempts_counted (by decide) h).1⟩

/-- While staging refuses the put, the row stays claimed, is released and processed again: three
attempts at a limit of one, none of them counted. -/
theorem staging_outage_uncounted :
    ∃ w, Runs (step true) anyStep ⟨{ maxRetries := 1 }, 0⟩ w ∧ w.processed = 3 ∧
      w.job.retries = 0 ∧ w.job.status = .pending :=
  let a : Answers := { reusedFetch := .ok "d", render := .ok "d", stagingPut := .error "timeout",
                       uploadFetch := .ok "d" }
  exists_runs [.tick a, .reconcile false, .tick a, .reconcile false, .tick a, .reconcile false]
    (by decide +kernel)

end Breakdown.Reporting
