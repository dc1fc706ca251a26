/-
**THE JOB QUEUE OF THE AI IMPORT** (`infra/src/ai/queue.rs`, migrations
`ai_import`, `ai_import_worker_lease`, `ai_import_claim_with_permit`, `ai_import_job_attempt`).

A job is a row of `ai_import.ai_import_job`. Workers claim runnable rows — pending, failed with a due
backoff, or running under an expired lease — and every later write of a worker is one `UPDATE` that is
fenced by `status = 'running' AND worker_id = $2`; when it matches no row the caller gets a conflict.
Both failure paths also record an attempt, and they number it differently.

The columns that only travel with a job (source, target, telemetry counters) are left out.

- `perform`: one call of the queue, which is one SQL statement;
- `queueStep`: the calls of any number of workers, one after the other.
-/
import Breakdown.Aggregates.AiConfig
import Breakdown.Ai.Permits

namespace Breakdown.Ai

/-! ## §1. Rows -/

/-- `ai_import_job.status`. -/
inductive JobStatus
  | pending
  | running
  | succeeded
  | failed
  | deadLetter
  | payloadUnavailable
  deriving DecidableEq

/-- No call leaves these. -/
def JobStatus.isTerminal : JobStatus → Bool
  | .succeeded | .deadLetter | .payloadUnavailable => true
  | .pending | .running | .failed => false

/-- A row of `ai_import.ai_import_job`, with the defaults of the table. -/
structure Job where
  id : Uuid
  userId : UserId
  documentKind : DocumentKind
  dedupKey : String
  previewHandle : Option String := none
  status : JobStatus := .pending
  retries : Nat := 0
  maxRetries : Nat
  lastError : Option String := none
  nextAttemptAt : Option Timestamp := none
  workerId : Option String := none
  leaseExpiresAt : Option Timestamp := none
  permitId : Option Uuid := none
  progress : Option String := none
  decisionTelemetry : Option String := none
  createdAt : Timestamp
  updatedAt : Timestamp
  deriving DecidableEq

/-- A row of `ai_import.ai_import_job_attempt`. -/
structure JobAttempt where
  jobId : Uuid
  attemptNo : Nat
  status : JobStatus
  errorSummary : Option String
  errorCode : Option String
  retryable : Bool

/-- The tables the queue writes. -/
structure QueueDb where
  jobs : List Job
  attempts : List JobAttempt
  permits : List PermitRow

/-- The numbers of a job's attempts, in the order they were recorded. -/
def QueueDb.attemptNumbers (db : QueueDb) (id : Uuid) : List Nat :=
  (db.attempts.filter (·.jobId = id)).map JobAttempt.attemptNo

/-- `map_sqlx_error`. -/
def queueDbError : DomainError := .serviceUnavailable "AI import database error"

/-! ## §2. Enqueueing -/

/-- `AiImportEnqueueRequest`, as far as the queue reads it. -/
structure EnqueueRequest where
  id : Uuid
  userId : UserId
  documentKind : DocumentKind
  dedupKey : String

/-- `AiImportEnqueueResult`. -/
inductive EnqueueResult
  | enqueued (id : Uuid)
  | existing (id : Uuid)

/-- The row an upload starts as; `max_retries` is the default of the column. -/
def newJob (maxRetries : Nat) (now : Timestamp) (request : EnqueueRequest) : Job :=
  { id := request.id, userId := request.userId, documentKind := request.documentKind,
    dedupKey := request.dedupKey, maxRetries, createdAt := now, updatedAt := now }

/-- `enqueue`: `INSERT … ON CONFLICT (user_id, dedup_key)`, which leaves an existing row as it is.
Another row under the same primary key is an error of the statement. -/
def enqueue (maxRetries : Nat) (db : QueueDb) (now : Timestamp) (request : EnqueueRequest) :
    Except DomainError EnqueueResult × QueueDb :=
  match db.jobs.find? fun job => job.userId = request.userId && job.dedupKey = request.dedupKey with
  | some job => (.ok (.existing job.id), db)
  | none =>
    if db.jobs.any (·.id = request.id) then (.error queueDbError, db)
    else
      (.ok (.enqueued request.id), { db with jobs := db.jobs ++ [newJob maxRetries now request] })

/-! ## §3. Claiming -/

/-- Pending, failed with a due backoff, or running under an expired lease. -/
def Job.isRunnable (now : Timestamp) (job : Job) : Bool := match job.status with
  | .pending => true
  | .failed => job.nextAttemptAt.all (· ≤ now)
  | .running => job.leaseExpiresAt.any (· ≤ now)
  | .succeeded | .deadLetter | .payloadUnavailable => false

/-- `ORDER BY created_at, id`. -/
def Job.isBefore (job other : Job) : Bool := job.createdAt < other.createdAt ||
    (job.createdAt = other.createdAt && job.id.asU128.toNat ≤ other.id.asU128.toNat)

/-- `ORDER BY … LIMIT 1`. -/
def firstJob : List Job → Option Job
  | [] => none
  | job :: rest =>
    match firstJob rest with
    | none => some job
    | some other => if job.isBefore other then some job else some other

/-- `next_job`: the first runnable row, of one kind or of any, that no other transaction has locked
(`FOR UPDATE SKIP LOCKED`). -/
def nextJob (kind : Option DocumentKind) (locked : List Uuid) (now : Timestamp) (db : QueueDb) :
    Option Job :=
  firstJob (db.jobs.filter fun job =>
    kind.all (job.documentKind = ·) && job.isRunnable now && !locked.contains job.id)

/-- What a claim writes. -/
def Job.claim (workerId : String) (lease : Nat) (now : Timestamp) (job : Job) : Job := { job with
    status := .running
    workerId := some workerId
    permitId := none
    progress := none
    decisionTelemetry := none
    leaseExpiresAt := some (now + lease)
    updatedAt := now }

/-- Put a row in the place of the one with its id. -/
def QueueDb.putJob (db : QueueDb) (job : Job) : QueueDb :=
  { db with jobs := db.jobs.map fun other => if other.id = job.id then job else other }

/-- The two plain claims. -/
def claimJob (kind : Option DocumentKind) (db : QueueDb) (now : Timestamp) (workerId : String)
    (lease : Nat) (locked : List Uuid) : Option Job × QueueDb :=
  match nextJob kind locked now db with
  | none => (none, db)
  | some job =>
    let claimed := job.claim workerId lease now
    (some claimed, db.putJob claimed)

/-- `DELETE FROM ai_import.concurrency_permit WHERE id = (SELECT orphan_permit_id FROM claim)`; the id
of the deleted row, if there was one. -/
def releaseOrphan (permits : List PermitRow) : Option Uuid → Option Uuid × List PermitRow
  | none => (none, permits)
  | some orphan =>
    (if permits.any (·.id = orphan) then some orphan else none,
      permits.filter fun row => row.id ≠ orphan)

/-- The two reconciling claims: one statement takes the job and deletes the permit its last worker
still held. -/
def claimReconciling (kind : Option DocumentKind) (db : QueueDb) (now : Timestamp)
    (workerId : String) (lease : Nat) (locked : List Uuid) : Option (Job × Option Uuid) × QueueDb :=
  match nextJob kind locked now db with
  | none => (none, db)
  | some job =>
    let claimed := job.claim workerId lease now
    let released := releaseOrphan db.permits job.permitId
    (some (claimed, released.1), { db.putJob claimed with permits := released.2 })

/-- `claim_next`. -/
def claimNext := claimJob none

/-- `claim_next_kind`. -/
def claimNextKind (kind : DocumentKind) := claimJob (some kind)

/-- `claim_next_reconciling`. -/
def claimNextReconciling := claimReconciling none

/-- `claim_next_kind_reconciling`. -/
def claimNextKindReconciling (kind : DocumentKind) := claimReconciling (some kind)

/-! ## §4. The fenced writes -/

/-- `WHERE id = $1 AND status = 'running' AND worker_id = $2`. -/
def Job.isHeldBy (id : Uuid) (workerId : String) (job : Job) : Bool :=
  job.id = id && job.status = .running && job.workerId = some workerId

/-- The rows the fence lets through. -/
def QueueDb.heldRows (db : QueueDb) (id : Uuid) (workerId : String) : List Job :=
  db.jobs.filter (Job.isHeldBy id workerId)

/-- The `UPDATE` of those rows. -/
def QueueDb.updateHeld (db : QueueDb) (id : Uuid) (workerId : String) (set : Job → Job) : QueueDb :=
  { db with jobs := db.jobs.map fun job => if job.isHeldBy id workerId then set job else job }

/-- The conflict of `ensure_claim_owned`. -/
def claimLost (id : Uuid) (workerId action : String) : DomainError :=
  .conflict .domainConflict ("worker " ++ workerId ++ " no longer holds the claim on AI import job " ++
    id.toDisplay ++ " and cannot " ++ action ++ " it")

/-- `ensure_claim_owned`. -/
def ensureClaimOwned (rowsAffected : Nat) (id : Uuid) (workerId action : String) :
    Except DomainError Unit :=
  if rowsAffected = 0 then .error (claimLost id workerId action) else .ok ()

/-- A fenced `UPDATE` and its check. -/
def writeHeld (action : String) (set : Job → Job) (db : QueueDb) (id : Uuid) (workerId : String) :
    Except DomainError Unit × QueueDb :=
  (ensureClaimOwned (db.heldRows id workerId).length id workerId action,
    db.updateHeld id workerId set)

/-- A fenced `UPDATE` whose rows are recorded as attempts in the same statement. -/
def recordHeld (action : String) (set : Job → Job) (attempt : Job → JobAttempt) (db : QueueDb)
    (id : Uuid) (workerId : String) : Except DomainError Unit × QueueDb :=
  let updated := (db.heldRows id workerId).map set
  (ensureClaimOwned updated.length id workerId action,
    { db.updateHeld id workerId set with attempts := db.attempts ++ updated.map attempt })

/-- `attach_permit`. -/
def attachPermit (db : QueueDb) (now : Timestamp) (id : Uuid) (workerId : String)
    (permitId : Uuid) : Except DomainError Unit × QueueDb :=
  writeHeld "attach a permit to"
    (fun job => { job with permitId := some permitId, updatedAt := now }) db id workerId

/-- `release_claim`. -/
def releaseClaim (db : QueueDb) (now : Timestamp) (id : Uuid) (workerId : String) :
    Except DomainError Unit × QueueDb :=
  writeHeld "release the claim of"
    (fun job =>
      { job with
        status := .pending, workerId := none, permitId := none, leaseExpiresAt := none,
        updatedAt := now }) db id workerId

/-- `mark_running`: renew the lease. -/
def markRunning (db : QueueDb) (now : Timestamp) (id : Uuid) (workerId : String) (lease : Nat) :
    Except DomainError Unit × QueueDb :=
  writeHeld "renew the lease of"
    (fun job =>
      { job with status := .running, leaseExpiresAt := some (now + lease), updatedAt := now })
    db id workerId

/-- `mark_progress`. -/
def markProgress (db : QueueDb) (now : Timestamp) (id : Uuid) (workerId progress : String) :
    Except DomainError Unit × QueueDb :=
  writeHeld "publish progress for"
    (fun job => { job with progress := some progress, updatedAt := now }) db id workerId

/-- `mark_succeeded`. -/
def markSucceeded (db : QueueDb) (now : Timestamp) (id : Uuid) (workerId previewHandle : String) :
    Except DomainError Unit × QueueDb :=
  writeHeld "complete"
    (fun job =>
      { job with
        status := .succeeded, previewHandle := some previewHandle, progress := none,
        lastError := none, nextAttemptAt := none, workerId := none, leaseExpiresAt := none,
        permitId := none, updatedAt := now }) db id workerId

/-- `LEFT($3, 1000)`. -/
def left1000 (text : String) : String := String.ofList (text.toList.take 1000)

/-- `$4 AND retries + 1 < max_retries`. -/
def Job.retriesAgain (retryable : Bool) (job : Job) : Bool :=
  retryable && job.retries + 1 < job.maxRetries

/-- `LEAST(interval '1 minute' * power(2, retries)::int, interval '6 hours')`, in seconds. -/
def backoff (retries : Nat) : Nat := min (60 * 2 ^ retries) (6 * 60 * 60)

/-- What a failure writes; `retries` stands for the value before the update in every column. -/
def Job.fail (errorSummary : String) (retryable : Bool) (now : Timestamp) (job : Job) : Job :=
  { job with
    retries := job.retries + 1
    status := if job.retriesAgain retryable then .failed else .deadLetter
    lastError := some (left1000 errorSummary)
    nextAttemptAt := if job.retriesAgain retryable then some (now + backoff job.retries) else none
    progress := if job.retriesAgain retryable then job.progress else none
    decisionTelemetry := none
    workerId := none
    leaseExpiresAt := none
    permitId := none
    updatedAt := now }

/-- `power(2, retries)::int` does not fit into an `int4` from 31 on, and then the statement fails. -/
def Job.backoffOverflows (retryable : Bool) (job : Job) : Bool :=
  job.retriesAgain retryable && 31 ≤ job.retries

/-- `mark_failed`. -/
def markFailed (db : QueueDb) (now : Timestamp) (id : Uuid) (workerId errorSummary : String)
    (errorCode : Option String) (retryable : Bool) : Except DomainError Unit × QueueDb :=
  if (db.heldRows id workerId).any (Job.backoffOverflows retryable) then (.error queueDbError, db)
  else
    recordHeld "fail" (Job.fail errorSummary retryable now)
      (fun job =>
        { jobId := job.id, attemptNo := job.retries, status := job.status,
          errorSummary := job.lastError, errorCode, retryable }) db id workerId

/-- What the loss of the payload writes; `retries` stays. -/
def Job.losePayload (errorSummary : String) (now : Timestamp) (job : Job) : Job := { job with
    status := .payloadUnavailable
    lastError := some (left1000 errorSummary)
    nextAttemptAt := none
    progress := none
    decisionTelemetry := none
    workerId := none
    leaseExpiresAt := none
    permitId := none
    updatedAt := now }

/-- `mark_payload_unavailable`. -/
def markPayloadUnavailable (db : QueueDb) (now : Timestamp) (id : Uuid)
    (workerId errorSummary : String) (errorCode : Option String) :
    Except DomainError Unit × QueueDb :=
  recordHeld "mark the payload of" (Job.losePayload errorSummary now)
    (fun job =>
      { jobId := job.id, attemptNo := job.retries + 1, status := job.status,
        errorSummary := job.lastError, errorCode, retryable := false }) db id workerId

/-! ## §5. The calls of all workers -/

/-- A call of the queue. A claim carries the lease of its process and the rows that others have locked
at that instant. -/
inductive QueueCall
  | enqueue (request : EnqueueRequest)
  | claimNext (workerId : String) (lease : Nat) (locked : List Uuid)
  | claimNextKind (kind : DocumentKind) (workerId : String) (lease : Nat) (locked : List Uuid)
  | claimNextReconciling (workerId : String) (lease : Nat) (locked : List Uuid)
  | claimNextKindReconciling (kind : DocumentKind) (workerId : String) (lease : Nat)
      (locked : List Uuid)
  | attachPermit (id : Uuid) (workerId : String) (permitId : Uuid)
  | releaseClaim (id : Uuid) (workerId : String)
  | markRunning (id : Uuid) (workerId : String) (lease : Nat)
  | markProgress (id : Uuid) (workerId progress : String)
  | markSucceeded (id : Uuid) (workerId previewHandle : String)
  | markFailed (id : Uuid) (workerId errorSummary : String) (errorCode : Option String)
      (retryable : Bool)
  | markPayloadUnavailable (id : Uuid) (workerId errorSummary : String) (errorCode : Option String)

/-- The worker behind a fenced write, the job it writes and the words of its conflict. -/
def QueueCall.writer : QueueCall → Option (Uuid × String × String)
  | .attachPermit id workerId _ => some (id, workerId, "attach a permit to")
  | .releaseClaim id workerId => some (id, workerId, "release the claim of")
  | .markRunning id workerId _ => some (id, workerId, "renew the lease of")
  | .markProgress id workerId _ => some (id, workerId, "publish progress for")
  | .markSucceeded id workerId _ => some (id, workerId, "complete")
  | .markFailed id workerId _ _ _ => some (id, workerId, "fail")
  | .markPayloadUnavailable id workerId _ _ => some (id, workerId, "mark the payload of")
  | .enqueue _ | .claimNext _ _ _ | .claimNextKind _ _ _ _ | .claimNextReconciling _ _ _
  | .claimNextKindReconciling _ _ _ _ => none

/-- What a call returns. -/
inductive QueueReply
  | enqueued (result : Except DomainError EnqueueResult)
  | claimed (job : Option Job)
  | reconciled (job : Option (Job × Option Uuid))
  | written (result : Except DomainError Unit)

/-- The job a call hands to its worker. -/
def QueueReply.handedOut : QueueReply → Option Job
  | .claimed job => job
  | .reconciled job => job.map Prod.fst
  | .enqueued _ | .written _ => none

/-- One call of the queue. -/
def perform (maxRetries : Nat) (db : QueueDb) (now : Timestamp) : QueueCall → QueueReply × QueueDb
  | .enqueue request => (enqueue maxRetries db now request).map QueueReply.enqueued id
  | .claimNext workerId lease locked =>
    (claimNext db now workerId lease locked).map QueueReply.claimed id
  | .claimNextKind kind workerId lease locked =>
    (claimNextKind kind db now workerId lease locked).map QueueReply.claimed id
  | .claimNextReconciling workerId lease locked =>
    (claimNextReconciling db now workerId lease locked).map QueueReply.reconciled id
  | .claimNextKindReconciling kind workerId lease locked =>
    (claimNextKindReconciling kind db now workerId lease locked).map QueueReply.reconciled id
  | .attachPermit jobId workerId permitId =>
    (attachPermit db now jobId workerId permitId).map QueueReply.written id
  | .releaseClaim jobId workerId => (releaseClaim db now jobId workerId).map QueueReply.written id
  | .markRunning jobId workerId lease =>
    (markRunning db now jobId workerId lease).map QueueReply.written id
  | .markProgress jobId workerId progress =>
    (markProgress db now jobId workerId progress).map QueueReply.written id
  | .markSucceeded jobId workerId previewHandle =>
    (markSucceeded db now jobId workerId previewHandle).map QueueReply.written id
  | .markFailed jobId workerId errorSummary errorCode retryable =>
    (markFailed db now jobId workerId errorSummary errorCode retryable).map QueueReply.written id
  | .markPayloadUnavailable jobId workerId errorSummary errorCode =>
    (markPayloadUnavailable db now jobId workerId errorSummary errorCode).map QueueReply.written id

/-- The tables, and for each job the worker it was handed to last. -/
structure QueueState where
  db : QueueDb
  lastClaim : Uuid → Option String

/-- No job yet; permits as they are. -/
def QueueState.initial (permits : List PermitRow) : QueueState where
  db := { jobs := [], attempts := [], permits }
  lastClaim := fun _ => none

/-- A call at an instant of the database clock, or the limiter changes the permits. -/
inductive QueueAction
  | call (now : Timestamp) (call : QueueCall)
  | permits (permits : List PermitRow)

/-- Remember who got the job. -/
def QueueState.handOut (lastClaim : Uuid → Option String) : Option Job → Uuid → Option String
  | none => lastClaim
  | some job => fun id => if id = job.id then job.workerId else lastClaim id

/-- One action. -/
def queueStep (maxRetries : Nat) (s : QueueState) : QueueAction → Option QueueState
  | .call now call =>
    let answer := perform maxRetries s.db now call
    some { db := answer.2, lastClaim := QueueState.handOut s.lastClaim answer.1.handedOut }
  | .permits permits => some { s with db := { s.db with permits } }

end Breakdown.Ai
