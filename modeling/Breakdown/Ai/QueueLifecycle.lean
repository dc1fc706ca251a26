/-
**THE LIFE OF A JOB, WHATEVER THE WORKERS DO.**

Every call of the queue moves at most one row, in one of five ways (`Moves`), and says with it which
attempts it records. The invariant of a row is proved once against these moves; a call is then only
asked which move it makes.

- `Moves.ok`: no move breaks the invariant of a row (`JobOk`), attempts included;
- `perform_changes`: what a call does to the tables;
- `perform_lost`: a fenced write that finds its claim gone changes nothing and says so;
- `queue_lifecycle`: the state machine of the queue, over every interleaving.
-/
import Breakdown.Ai.Queue
import Breakdown.Lib.Transition
import Mathlib.Data.List.Nodup

namespace Breakdown.Ai

open Transition List

/-! ## §1. The moves of a row -/

section Row

variable {job after : Job} {numbers recorded : List Nat}

/-- How a call can move a row, and the attempts it records. -/
inductive Moves (job : Job) : Job → List Nat → Prop
  | claims (workerId : String) (lease : Nat) (now : Timestamp)
      (runnable : job.status.isTerminal = false) : Moves job (job.claim workerId lease now) []
  | holds (after : Job) (running : job.status = .running) (sameId : after.id = job.id)
      (status : after.status = .running) (worker : after.workerId = job.workerId)
      (lease : job.leaseExpiresAt.isSome = true → after.leaseExpiresAt.isSome = true)
      (retries : after.retries = job.retries) (maxRetries : after.maxRetries = job.maxRetries) :
      Moves job after []
  | letsGo (after : Job) (running : job.status = .running) (sameId : after.id = job.id)
      (status : after.status = .pending ∨ after.status = .succeeded) (worker : after.workerId = none)
      (lease : after.leaseExpiresAt = none) (permit : after.permitId = none)
      (retries : after.retries = job.retries) (maxRetries : after.maxRetries = job.maxRetries) :
      Moves job after []
  | fails (errorSummary : String) (retryable : Bool) (now : Timestamp)
      (running : job.status = .running) :
      Moves job (job.fail errorSummary retryable now) [job.retries + 1]
  | losesPayload (errorSummary : String) (now : Timestamp) (running : job.status = .running) :
      Moves job (job.losePayload errorSummary now) [job.retries + 1]

/-- **THE INVARIANT OF A ROW** with the numbers of its attempts. -/
structure JobOk (numbers : List Nat) (job : Job) : Prop where
  worker : job.workerId.isSome = true ↔ job.status = .running
  lease : job.leaseExpiresAt.isSome = true ↔ job.status = .running
  permit : job.permitId.isSome = true → job.status = .running
  room : job.status.isTerminal = false → job.retries < job.maxRetries
  bounded : job.retries ≤ job.maxRetries
  numbers : numbers = List.range' 1 job.retries ++
    if job.status = .payloadUnavailable then [job.retries + 1] else []

theorem JobOk.new (hmax : 1 ≤ maxRetries) (now request) :
    JobOk [] (newJob maxRetries now request) where
  worker := by simp [newJob]
  lease := by simp [newJob]
  permit := by simp [newJob]
  room _ := hmax
  bounded := Nat.zero_le _
  numbers := by simp [newJob]

/-- Of a row that can still move, the attempts are the counted ones. -/
theorem JobOk.numbers_open (h : JobOk numbers job) (hopen : job.status.isTerminal = false) :
    numbers = range' 1 job.retries := by
  have hnot : job.status ≠ .payloadUnavailable := by
    intro hstatus
    rw [hstatus] at hopen
    cases hopen
  rw [h.numbers, if_neg hnot, append_nil]

theorem Moves.id_eq (h : Moves job after recorded) : after.id = job.id := by
  cases h with
  | claims | fails | losesPayload => rfl
  | holds _ _ hid | letsGo _ _ hid => exact hid

/-- Only a row in an open status moves. -/
theorem Moves.open_ (h : Moves job after recorded) : job.status.isTerminal = false := by
  cases h with
  | claims workerId lease now hopen => exact hopen
  | holds _ hrunning | letsGo _ hrunning | fails errorSummary retryable now hrunning
  | losesPayload errorSummary now hrunning => rw [hrunning]; rfl

attribute [local simp] Job.fail Job.losePayload Job.claim

/-- A failure keeps the invariant: it counts the attempt it records. -/
theorem JobOk.fail (h : JobOk numbers job) (hrunning : job.status = .running)
    (errorSummary retryable now) :
    JobOk (numbers ++ [job.retries + 1]) (job.fail errorSummary retryable now) := by
  have hopen : job.status.isTerminal = false := by rw [hrunning]; rfl
  have hroom := h.room hopen
  have hnumbers : numbers ++ [job.retries + 1] = range' 1 (job.retries + 1) := by
    rw [h.numbers_open hopen, range'_1_concat, Nat.add_comm 1]
  by_cases hagain : job.retriesAgain retryable = true
  · -- backing off: `retries + 1 < max_retries`
    have hless : job.retries + 1 < job.maxRetries := by
      simp only [Job.retriesAgain, Bool.and_eq_true, decide_eq_true_eq] at hagain
      exact hagain.2
    exact
      { worker := by simp [hagain]
        lease := by simp [hagain]
        permit := by simp
        room _ := hless
        bounded := Nat.le_of_lt hless
        numbers := by simp [hagain, hnumbers] }
  · exact
      { worker := by simp [hagain]
        lease := by simp [hagain]
        permit := by simp
        room := by simp [hagain, JobStatus.isTerminal]
        bounded := hroom
        numbers := by simp [hagain, hnumbers] }

/-- So does the loss of the payload, which records an attempt without counting it. -/
theorem JobOk.losePayload (h : JobOk numbers job) (hrunning : job.status = .running) (errorSummary now) :
    JobOk (numbers ++ [job.retries + 1]) (job.losePayload errorSummary now) where
  worker := by simp
  lease := by simp
  permit := by simp
  room := by simp [JobStatus.isTerminal]
  bounded := h.bounded
  numbers := by
    have hopen : job.status.isTerminal = false := by rw [hrunning]; rfl
    rw [h.numbers_open hopen]
    rfl

/-- **ONE MOVE.** -/
theorem Moves.ok (hmove : Moves job after recorded) (h : JobOk numbers job) :
    JobOk (numbers ++ recorded) after := by
  have hnumbers := h.numbers_open hmove.open_
  have hroom := h.room hmove.open_
  cases hmove with
  | claims workerId lease =>
    exact
      { worker := by simp
        lease := by simp
        permit := by simp
        room _ := hroom
        bounded := h.bounded
        numbers := by simp [hnumbers] }
  | holds _ hrunning _ hstatus hworker hlease hretries hmax =>
    exact
      { worker := by simp [hworker, hstatus, h.worker, hrunning]
        lease := by simp [hstatus, hlease (h.lease.2 hrunning)]
        permit _ := hstatus
        room _ := by rw [hretries, hmax]; exact hroom
        bounded := by rw [hretries, hmax]; exact h.bounded
        numbers := by simp [hstatus, hretries, hnumbers] }
  | letsGo _ hrunning _ hstatus hworker hlease hpermit hretries hmax =>
    have hnot : after.status ≠ .running ∧ after.status ≠ .payloadUnavailable := by
      cases hstatus with
      | inl hpending => simp [hpending]
      | inr hsucceeded => simp [hsucceeded]
    exact
      { worker := by simp [hworker, hnot.1]
        lease := by simp [hlease, hnot.1]
        permit := by simp [hpermit]
        room _ := by rw [hretries, hmax]; exact hroom
        bounded := by rw [hretries, hmax]; exact h.bounded
        numbers := by simp [hnot.2, hretries, hnumbers] }
  | fails errorSummary retryable now hrunning => exact h.fail hrunning errorSummary retryable now
  | losesPayload errorSummary now hrunning => exact h.losePayload hrunning errorSummary now

end Row

/-! ## §2. What a call does to the tables -/

section Call

variable {db db' : QueueDb} {maxRetries : Nat} {now : Timestamp} {id : Uuid} {workerId : String}

/-- The jobs of the table have different ids. -/
def QueueDb.Keyed (db : QueueDb) : Prop := (db.jobs.map Job.id).Nodup

theorem QueueDb.Keyed.eq (h : db.Keyed) (hjob : job ∈ db.jobs) (hother : other ∈ db.jobs)
    (hid : job.id = other.id) : job = other :=
  inj_on_of_nodup_map h hjob hother hid

/-- **WHAT A CALL DOES**: nothing, one new row, or one move with its attempts. A row that is running
afterwards was handed out by the call or was running before under the same worker. -/
inductive QueueChange (maxRetries : Nat) (db db' : QueueDb) (handed : Option Job) : Prop
  | same (jobs : db'.jobs = db.jobs) (attempts : db'.attempts = db.attempts)
      (nobody : handed = none)
  | inserts (now : Timestamp) (request : EnqueueRequest)
      (fresh : ∀ job ∈ db.jobs, job.id ≠ request.id)
      (jobs : db'.jobs = db.jobs ++ [newJob maxRetries now request])
      (attempts : db'.attempts = db.attempts) (nobody : handed = none)
  | moves (job after : Job) (new : List JobAttempt) (mem : job ∈ db.jobs)
      (move : Moves job after (new.map JobAttempt.attemptNo))
      (own : ∀ attempt ∈ new, attempt.jobId = job.id)
      (jobs : db'.jobs = (db.putJob after).jobs) (attempts : db'.attempts = db.attempts ++ new)
      (hands : handed = some after ∨
        handed = none ∧ (after.status = .running → job.status = .running ∧
          after.workerId = job.workerId))

theorem enqueue_changes (request) :
    QueueChange maxRetries db (enqueue maxRetries db now request).2 none := by
  unfold enqueue
  split
  · exact .same rfl rfl rfl
  · split
    · exact .same rfl rfl rfl
    · next hfresh =>
      refine .inserts now request ?_ rfl rfl rfl
      intro job hjob hid
      exact hfresh (any_eq_true.2 ⟨job, hjob, decide_eq_true hid⟩)

theorem firstJob_mem (h : firstJob jobs = some job) : job ∈ jobs := by
  induction jobs with
  | nil => cases h
  | cons head rest ih =>
    simp only [firstJob] at h
    cases hrest : firstJob rest with
    | none =>
      rw [hrest] at h
      exact Option.some.inj h ▸ mem_cons_self
    | some =>
      rw [hrest] at h ih
      simp only at h
      split at h
      · exact Option.some.inj h ▸ mem_cons_self
      · exact mem_cons_of_mem _ (ih h)

/-- A claim takes a row of the table that is in an open status. -/
theorem nextJob_open (h : nextJob kind locked now db = some job) :
    job ∈ db.jobs ∧ job.status.isTerminal = false := by
  obtain ⟨hmem, hpasses⟩ := mem_filter.1 (firstJob_mem h)
  simp only [Bool.and_eq_true] at hpasses
  refine ⟨hmem, ?_⟩
  have hrunnable := hpasses.1.2
  unfold Job.isRunnable at hrunnable
  cases hstatus : job.status <;> simp_all [JobStatus.isTerminal]

theorem claimJob_changes (kind lease locked) :
    QueueChange maxRetries db (claimJob kind db now workerId lease locked).2
      (claimJob kind db now workerId lease locked).1 := by
  unfold claimJob
  cases hnext : nextJob kind locked now db with
  | none => exact .same rfl rfl rfl
  | some job =>
    obtain ⟨hmem, hopen⟩ := nextJob_open hnext
    exact .moves job _ [] hmem (.claims workerId lease now hopen) nofun rfl
      (append_nil _).symm (.inl rfl)

theorem claimReconciling_changes (kind lease locked) :
    QueueChange maxRetries db (claimReconciling kind db now workerId lease locked).2
      ((claimReconciling kind db now workerId lease locked).1.map Prod.fst) := by
  unfold claimReconciling
  cases hnext : nextJob kind locked now db with
  | none => exact .same rfl rfl rfl
  | some job =>
    obtain ⟨hmem, hopen⟩ := nextJob_open hnext
    exact .moves job _ [] hmem (.claims workerId lease now hopen) nofun rfl
      (append_nil _).symm (.inl rfl)

/-- A fence that lets no row through leaves the table as it is. -/
theorem updateHeld_none (h : db.heldRows id workerId = []) (set : Job → Job) :
    db.updateHeld id workerId set = db := by
  unfold QueueDb.heldRows at h
  rw [filter_eq_nil_iff] at h
  have hjobs : (db.jobs.map fun job => if job.isHeldBy id workerId then set job else job) =
      db.jobs := by
    conv_rhs => rw [← map_id db.jobs]
    apply map_congr_left
    intro job hjob
    rw [if_neg (h job hjob)]
    rfl
  unfold QueueDb.updateHeld
  rw [hjobs]

section

variable (hkeyed : db.Keyed)
include hkeyed

/-- A fence lets at most one row through, and the update then replaces that row. -/
theorem heldRows_cases (id workerId) :
    db.heldRows id workerId = [] ∨ ∃ job ∈ db.jobs, job.status = .running ∧
      job.workerId = some workerId ∧ db.heldRows id workerId = [job] ∧
      ∀ set : Job → Job, (set job).id = job.id →
        (db.updateHeld id workerId set).jobs = (db.putJob (set job)).jobs := by
  by_cases hany : ∃ job ∈ db.jobs, job.isHeldBy id workerId = true
  · right
    obtain ⟨job, hmem, hheld⟩ := hany
    have hfacts := hheld
    simp only [Job.isHeldBy, Bool.and_eq_true, decide_eq_true_eq] at hfacts
    obtain ⟨⟨hid, hrunning⟩, hworker⟩ := hfacts
    -- the id is the key, so the fence passes this row and no other
    have honly : ∀ other ∈ db.jobs, other.isHeldBy id workerId = true ↔ other = job := by
      intro other hother
      constructor
      · intro h
        simp only [Job.isHeldBy, Bool.and_eq_true, decide_eq_true_eq] at h
        exact hkeyed.eq hother hmem (h.1.1.trans hid.symm)
      · intro h
        rw [h]
        exact hheld
    refine ⟨job, hmem, hrunning, hworker, ?_, ?_⟩
    · have hfilter : db.heldRows id workerId = db.jobs.filter fun other => decide (other = job) := by
        apply filter_congr
        intro other hother
        rw [Bool.eq_iff_iff, decide_eq_true_eq]
        exact honly other hother
      rw [hfilter, filter_eq, count_eq_one_of_mem hkeyed.of_map hmem]
      rfl
    · intro set hset
      apply map_congr_left
      intro other hother
      by_cases hsame : other = job
      · subst hsame
        rw [if_pos hheld, if_pos hset.symm]
      · have hid' : other.id ≠ (set job).id := by
          intro h
          exact hsame (hkeyed.eq hother hmem (h.trans hset))
        rw [if_neg (fun h => hsame ((honly other hother).1 h)), if_neg hid']
  · left
    unfold QueueDb.heldRows
    rw [filter_eq_nil_iff]
    exact fun job hjob hheld => hany ⟨job, hjob, hheld⟩

/-- A fenced write moves the row of its worker, if there is one. -/
theorem writeHeld_changes (action) (set : Job → Job)
    (hmove : ∀ job, job.status = .running → Moves job (set job) [])
    (hworker : ∀ job, (set job).status = .running → (set job).workerId = job.workerId) :
    QueueChange maxRetries db (writeHeld action set db id workerId).2 none := by
  unfold writeHeld
  cases heldRows_cases hkeyed id workerId with
  | inl hnone =>
    rw [updateHeld_none hnone set]
    exact .same rfl rfl rfl
  | inr hheld =>
    obtain ⟨job, hmem, hrunning, _, _, hupdate⟩ := hheld
    exact .moves job (set job) [] hmem (hmove job hrunning) nofun
      (hupdate set (hmove job hrunning).id_eq) (append_nil _).symm
      (.inr ⟨rfl, fun h => ⟨hrunning, hworker job h⟩⟩)

/-- The same for a write that records its row. -/
theorem recordHeld_changes (action) (set : Job → Job) (attempt : Job → JobAttempt)
    (hmove : ∀ job, job.status = .running → Moves job (set job) [(attempt (set job)).attemptNo])
    (hown : ∀ job, (attempt (set job)).jobId = job.id) (hends : ∀ job, (set job).status ≠ .running) :
    QueueChange maxRetries db (recordHeld action set attempt db id workerId).2 none := by
  unfold recordHeld
  cases heldRows_cases hkeyed id workerId with
  | inl hnone =>
    rw [updateHeld_none hnone set, hnone]
    exact .same rfl (append_nil _) rfl
  | inr hheld =>
    obtain ⟨job, hmem, hrunning, _, hrows, hupdate⟩ := hheld
    rw [hrows]
    refine .moves job (set job) [attempt (set job)] hmem (hmove job hrunning) ?_
      (hupdate set (hmove job hrunning).id_eq) rfl (.inr ⟨rfl, fun h => absurd h (hends job)⟩)
    intro other hother
    rw [mem_singleton] at hother
    rw [hother]
    exact hown job

theorem markFailed_changes (errorSummary errorCode retryable) : QueueChange maxRetries db
      (markFailed db now id workerId errorSummary errorCode retryable).2 none := by
  unfold markFailed
  split
  · exact .same rfl rfl rfl
  · refine recordHeld_changes hkeyed _ _ _ (fun job h => .fails errorSummary retryable now h)
      (fun _ => rfl) ?_
    intro job
    simp only [Job.fail]
    split <;> simp

/-- **EVERY CALL.** -/
theorem perform_changes (call) : QueueChange maxRetries db (perform maxRetries db now call).2
      (perform maxRetries db now call).1.handedOut := by
  cases call with
  | enqueue request => exact enqueue_changes request
  | claimNext workerId lease locked => exact claimJob_changes none lease locked
  | claimNextKind kind workerId lease locked => exact claimJob_changes (some kind) lease locked
  | claimNextReconciling workerId lease locked => exact claimReconciling_changes none lease locked
  | claimNextKindReconciling kind workerId lease locked =>
    exact claimReconciling_changes (some kind) lease locked
  | attachPermit jobId workerId permitId =>
    show QueueChange maxRetries db (attachPermit db now jobId workerId permitId).2 none
    unfold attachPermit
    exact writeHeld_changes hkeyed _ _ (fun job h => .holds _ h rfl h rfl (fun hl => hl) rfl rfl)
      fun _ _ => rfl
  | releaseClaim jobId workerId =>
    show QueueChange maxRetries db (releaseClaim db now jobId workerId).2 none
    unfold releaseClaim
    exact writeHeld_changes hkeyed _ _
      (fun job h => .letsGo _ h rfl (.inl rfl) rfl rfl rfl rfl rfl) fun _ h => nomatch h
  | markRunning jobId workerId lease =>
    show QueueChange maxRetries db (markRunning db now jobId workerId lease).2 none
    unfold markRunning
    exact writeHeld_changes hkeyed _ _ (fun job h => .holds _ h rfl rfl rfl (fun _ => rfl) rfl rfl)
      fun _ _ => rfl
  | markProgress jobId workerId progress =>
    show QueueChange maxRetries db (markProgress db now jobId workerId progress).2 none
    unfold markProgress
    exact writeHeld_changes hkeyed _ _ (fun job h => .holds _ h rfl h rfl (fun hl => hl) rfl rfl)
      fun _ _ => rfl
  | markSucceeded jobId workerId previewHandle =>
    show QueueChange maxRetries db (markSucceeded db now jobId workerId previewHandle).2 none
    unfold markSucceeded
    exact writeHeld_changes hkeyed _ _
      (fun job h => .letsGo _ h rfl (.inr rfl) rfl rfl rfl rfl rfl) fun _ h => nomatch h
  | markFailed jobId workerId errorSummary errorCode retryable =>
    exact markFailed_changes hkeyed errorSummary errorCode retryable
  | markPayloadUnavailable jobId workerId errorSummary errorCode =>
    show QueueChange maxRetries db
      (markPayloadUnavailable db now jobId workerId errorSummary errorCode).2 none
    unfold markPayloadUnavailable
    exact recordHeld_changes hkeyed _ _ _ (fun job h => .losesPayload errorSummary now h)
      (fun _ => rfl) fun _ h => nomatch h

end

/-- **A WRITE WITHOUT ITS CLAIM** changes nothing and returns the conflict of its function. -/
theorem perform_lost (hwriter : call.writer = some (id, workerId, action))
    (hnone : db.heldRows id workerId = []) :
    perform maxRetries db now call = (.written (.error (claimLost id workerId action)), db) := by
  have hwrite : ∀ set, writeHeld action set db id workerId =
      (.error (claimLost id workerId action), db) := by
    intro set
    simp [writeHeld, updateHeld_none hnone, hnone, ensureClaimOwned]
  have hrecord : ∀ set attempt, recordHeld action set attempt db id workerId =
      (.error (claimLost id workerId action), db) := by
    intro set attempt
    simp [recordHeld, updateHeld_none hnone, hnone, ensureClaimOwned]
  cases call with
  | enqueue | claimNext | claimNextKind | claimNextReconciling | claimNextKindReconciling =>
    cases hwriter
  | attachPermit | releaseClaim | markRunning | markProgress | markSucceeded =>
    cases hwriter
    simp only [perform, attachPermit, releaseClaim, markRunning, markProgress, markSucceeded, hwrite,
      Prod.map_apply, id_eq]
  | markFailed =>
    cases hwriter
    simp only [perform, markFailed, hnone, any_nil, Bool.false_eq_true, if_false, hrecord,
      Prod.map_apply, id_eq]
  | markPayloadUnavailable =>
    cases hwriter
    simp only [perform, markPayloadUnavailable, hrecord, Prod.map_apply, id_eq]

end Call

/-! ## §3. The invariant of the queue -/

section Invariant

variable {s t : QueueState} {db db' : QueueDb} {maxRetries : Nat} {handed : Option Job}

/-- **THE INVARIANT**: the rows are keyed and in order, every attempt belongs to a row, and a running
job is held by the worker it was handed to last. -/
structure QueueOk (db : QueueDb) (lastClaim : Uuid → Option String) : Prop where
  keyed : db.Keyed
  jobs : ∀ job ∈ db.jobs, JobOk (db.attemptNumbers job.id) job
  attempts : ∀ attempt ∈ db.attempts, attempt.jobId ∈ db.jobs.map Job.id
  claimed : ∀ job ∈ db.jobs, job.status = .running → lastClaim job.id = job.workerId

theorem QueueOk.initial (permits) :
    QueueOk (QueueState.initial permits).db (QueueState.initial permits).lastClaim where
  keyed := nodup_nil
  jobs _ h := nomatch h
  attempts _ h := nomatch h
  claimed _ h := nomatch h

theorem map_id_putJob (db : QueueDb) (job : Job) :
    (db.putJob job).jobs.map Job.id = db.jobs.map Job.id := by
  unfold QueueDb.putJob
  rw [map_map]
  apply map_congr_left
  intro other _
  simp only [Function.comp_apply]
  split
  · next h => exact h.symm
  · rfl

/-- The rows after a replacement: the new one, and the others. -/
theorem mem_putJob (h : other ∈ (db.putJob job).jobs) :
    other = job ∨ other ∈ db.jobs ∧ other.id ≠ job.id := by
  obtain ⟨old, hold, hother⟩ := mem_map.1 h
  split at hother
  · exact .inl hother.symm
  · next hne => exact .inr (hother ▸ ⟨hold, hne⟩)

/-- Attempts of one job are not counted for another. -/
theorem attemptNumbers_append {id} (hattempts : db'.attempts = db.attempts ++ new)
    (hown : ∀ attempt ∈ new, attempt.jobId = id) : db'.attemptNumbers other =
      db.attemptNumbers other ++ if other = id then new.map JobAttempt.attemptNo else [] := by
  unfold QueueDb.attemptNumbers
  rw [hattempts, filter_append, map_append]
  congr 1
  split
  · next h =>
    rw [filter_eq_self.2]
    intro attempt hmem
    exact decide_eq_true ((hown attempt hmem).trans h.symm)
  · next h =>
    rw [filter_eq_nil_iff.2, map_nil]
    intro attempt hmem hsame
    exact h ((of_decide_eq_true hsame).symm.trans (hown attempt hmem))

variable {lastClaim : Uuid → Option String}

section

variable (h : QueueOk db lastClaim)
include h

/-- A job that was not there has no attempts. -/
theorem QueueOk.attemptNumbers_fresh {id}
    (hfresh : ∀ job ∈ db.jobs, job.id ≠ id) : db.attemptNumbers id = [] := by
  unfold QueueDb.attemptNumbers
  rw [filter_eq_nil_iff.2, map_nil]
  intro attempt hmem hsame
  obtain ⟨job, hjob, hid⟩ := mem_map.1 (h.attempts attempt hmem)
  exact hfresh job hjob (hid.trans (of_decide_eq_true hsame))

/-- **A NEW ROW.** -/
theorem QueueOk.insert (hmax : 1 ≤ maxRetries) (hfresh : ∀ job ∈ db.jobs, job.id ≠ request.id)
    (hjobs : db'.jobs = db.jobs ++ [newJob maxRetries now request])
    (hattempts : db'.attempts = db.attempts) : QueueOk db' lastClaim := by
  have hnumbers : ∀ id, db'.attemptNumbers id = db.attemptNumbers id := by
    intro id
    unfold QueueDb.attemptNumbers
    rw [hattempts]
  have hrows : ∀ job ∈ db'.jobs, job ∈ db.jobs ∨ job = newJob maxRetries now request := by
    intro job hjob
    rwa [hjobs, mem_append, mem_singleton] at hjob
  refine ⟨?_, ?_, ?_, ?_⟩
  · unfold QueueDb.Keyed
    rw [hjobs, map_append, map_cons, map_nil]
    refine List.Nodup.append h.keyed (nodup_singleton _) ?_
    intro id hid hnew
    rw [mem_singleton] at hnew
    obtain ⟨job, hjob, hsame⟩ := mem_map.1 hid
    exact hfresh job hjob (hsame.trans hnew)
  · intro job hjob
    rw [hnumbers]
    cases hrows job hjob with
    | inl hold => exact h.jobs job hold
    | inr hnew =>
      subst hnew
      rw [show (newJob maxRetries now request).id = request.id from rfl,
        h.attemptNumbers_fresh hfresh]
      exact .new hmax now request
  · intro attempt hmem
    rw [hattempts] at hmem
    rw [hjobs, map_append]
    exact mem_append_left _ (h.attempts attempt hmem)
  · intro job hjob hrunning
    cases hrows job hjob with
    | inl hold => exact h.claimed job hold hrunning
    | inr hnew =>
      subst hnew
      cases hrunning

/-- **A MOVE.** -/
theorem QueueOk.move {after} (hmem : job ∈ db.jobs)
    (hmove : Moves job after (new.map JobAttempt.attemptNo))
    (hown : ∀ attempt ∈ new, attempt.jobId = job.id) (hjobs : db'.jobs = (db.putJob after).jobs)
    (hattempts : db'.attempts = db.attempts ++ new)
    (hhands : handed = some after ∨ handed = none ∧ (after.status = .running →
      job.status = .running ∧ after.workerId = job.workerId)) :
    QueueOk db' (QueueState.handOut lastClaim handed) := by
  have hid : after.id = job.id := hmove.id_eq
  have hids : db'.jobs.map Job.id = db.jobs.map Job.id := by rw [hjobs, map_id_putJob]
  refine ⟨?_, ?_, ?_, ?_⟩
  · unfold QueueDb.Keyed
    rw [hids]
    exact h.keyed
  · intro other hother
    rw [hjobs] at hother
    rw [attemptNumbers_append hattempts hown]
    cases mem_putJob hother with
    | inl hsame =>
      rw [hsame, hid, if_pos rfl]
      exact hmove.ok (h.jobs job hmem)
    | inr hrest =>
      rw [if_neg (hid ▸ hrest.2), append_nil]
      exact h.jobs other hrest.1
  · intro attempt hattempt
    rw [hids]
    rw [hattempts, mem_append] at hattempt
    cases hattempt with
    | inl hold => exact h.attempts attempt hold
    | inr hnew =>
      rw [hown attempt hnew]
      exact mem_map_of_mem hmem
  · intro other hother hrunning
    rw [hjobs] at hother
    cases hhands with
    | inl hgiven =>
      rw [hgiven]
      simp only [QueueState.handOut]
      cases mem_putJob hother with
      | inl hsame => rw [hsame, if_pos rfl]
      | inr hrest =>
        rw [if_neg hrest.2]
        exact h.claimed other hrest.1 hrunning
    | inr hkept =>
      rw [hkept.1]
      simp only [QueueState.handOut]
      cases mem_putJob hother with
      | inl hsame =>
        subst hsame
        obtain ⟨hwas, hworker⟩ := hkept.2 hrunning
        rw [hid, hworker]
        exact h.claimed job hmem hwas
      | inr hrest => exact h.claimed other hrest.1 hrunning

/-- What a call does keeps the invariant. -/
theorem QueueOk.change (hmax : 1 ≤ maxRetries) (hchange : QueueChange maxRetries db db' handed) :
    QueueOk db' (QueueState.handOut lastClaim handed) := by
  cases hchange with
  | same hjobs hattempts hnobody =>
    rw [hnobody]
    have hnumbers : db'.attemptNumbers = db.attemptNumbers := by
      unfold QueueDb.attemptNumbers
      rw [hattempts]
    exact
      { keyed := by unfold QueueDb.Keyed; rw [hjobs]; exact h.keyed
        jobs := by rw [hjobs, hnumbers]; exact h.jobs
        attempts := by rw [hjobs, hattempts]; exact h.attempts
        claimed := by rw [hjobs]; exact h.claimed }
  | inserts now request hfresh hjobs hattempts hnobody =>
    rw [hnobody]
    exact h.insert hmax hfresh hjobs hattempts
  | moves job after new hmem hmove hown hjobs hattempts hhands =>
    exact h.move hmem hmove hown hjobs hattempts hhands

end

/-- **STEP.** -/
theorem queueStep_ok (hmax : 1 ≤ maxRetries) (h : QueueOk s.db s.lastClaim)
    (hstep : queueStep maxRetries s action = some t) : QueueOk t.db t.lastClaim := by
  cases action with
  | call now call =>
    simp only [queueStep, Option.some.injEq] at hstep
    subst hstep
    exact h.change hmax (perform_changes h.keyed call)
  | permits =>
    simp only [queueStep, Option.some.injEq] at hstep
    subst hstep
    exact ⟨h.keyed, h.jobs, h.attempts, h.claimed⟩

/-- A row in a terminal status is never written again. -/
theorem queueStep_terminal (h : QueueOk s.db s.lastClaim)
    (hstep : queueStep maxRetries s action = some t) (hmem : job ∈ s.db.jobs)
    (hterminal : job.status.isTerminal) : job ∈ t.db.jobs := by
  cases action with
  | call now call =>
    simp only [queueStep, Option.some.injEq] at hstep
    subst hstep
    cases @perform_changes s.db maxRetries now h.keyed call with
    | same hjobs =>
      show job ∈ (perform maxRetries s.db now call).2.jobs
      rw [hjobs]
      exact hmem
    | inserts _ request _ hjobs =>
      show job ∈ (perform maxRetries s.db now call).2.jobs
      rw [hjobs]
      exact mem_append_left _ hmem
    | moves moved after new hmoved hmove _ hjobs =>
      show job ∈ (perform maxRetries s.db now call).2.jobs
      rw [hjobs]
      -- the row that moves is open, so it is another one
      refine mem_map.2 ⟨job, hmem, if_neg ?_⟩
      intro hid
      have hsame : job = moved := h.keyed.eq hmem hmoved (hid.trans hmove.id_eq)
      rw [hsame, hmove.open_] at hterminal
      cases hterminal
  | permits =>
    simp only [queueStep, Option.some.injEq] at hstep
    subst hstep
    exact hmem

end Invariant

/-! ## §4. Every interleaving -/

section Run

variable {maxRetries : Nat} {permits : List PermitRow} {s t : QueueState}

theorem queueOk_of_runs (hmax : 1 ≤ maxRetries)
    (h : Runs (queueStep maxRetries) anyStep (.initial permits) s) : QueueOk s.db s.lastClaim :=
  h.invariant (fun s => QueueOk s.db s.lastClaim) (.initial permits)
    fun _ _ _ hs _ hstep => queueStep_ok hmax hs hstep

theorem terminal_of_runs (hmax : 1 ≤ maxRetries) (hs : QueueOk s.db s.lastClaim)
    (h : Runs (queueStep maxRetries) anyStep s t) (hmem : job ∈ s.db.jobs)
    (hterminal : job.status.isTerminal) : job ∈ t.db.jobs := by
  have hboth := h.invariant (fun u => QueueOk u.db u.lastClaim ∧ job ∈ u.db.jobs) ⟨hs, hmem⟩
    fun _ _ _ hu _ hstep =>
      ⟨queueStep_ok hmax hu.1 hstep, queueStep_terminal hu.1 hstep hu.2 hterminal⟩
  exact hboth.2

/-- What the state machine promises about one job. -/
structure JobLifecycle (db : QueueDb) (job : Job) : Prop where
  running_iff : job.status = .running ↔
    job.workerId.isSome = true ∧ job.leaseExpiresAt.isSome = true
  permit : job.permitId.isSome = true → job.status = .running
  failed : job.status = .failed → job.retries < job.maxRetries
  bounded : job.retries ≤ job.maxRetries
  attempts : db.attemptNumbers job.id = List.range' 1 job.retries ++
    if job.status = .payloadUnavailable then [job.retries + 1] else []

theorem JobOk.lifecycle (h : JobOk (db.attemptNumbers job.id) job) : JobLifecycle db job := { h with
  running_iff := ⟨fun hr => ⟨h.worker.2 hr, h.lease.2 hr⟩, fun hboth => h.worker.1 hboth.1⟩
  failed hfailed := h.room (by rw [hfailed]; rfl)
  attempts := h.numbers }

/-- A job that was handed to another worker is not held by this one. -/
theorem QueueOk.heldRows_stale (h : QueueOk s.db s.lastClaim) {id}
    (hlast : s.lastClaim id = some other) (hother : other ≠ workerId) :
    s.db.heldRows id workerId = [] := by
  unfold QueueDb.heldRows
  rw [filter_eq_nil_iff]
  intro job hjob hheld
  simp only [Job.isHeldBy, Bool.and_eq_true, decide_eq_true_eq] at hheld
  obtain ⟨⟨hid, hrunning⟩, hworker⟩ := hheld
  have hclaimed := h.claimed job hjob hrunning
  rw [hid, hlast, hworker] at hclaimed
  exact hother (Option.some.inj hclaimed)

/-- **THE STATE MACHINE OF THE QUEUE.** After every interleaving of calls: each job keeps to its
lifecycle; a write by a worker whose job was handed to another one since changes nothing and returns
the conflict; and a row in a terminal status stays as it is, whatever follows. -/
theorem queue_lifecycle (hmax : 1 ≤ maxRetries)
    (h : Runs (queueStep maxRetries) anyStep (.initial permits) s) :
    (∀ job ∈ s.db.jobs, JobLifecycle s.db job) ∧
      (∀ call id workerId action other now, QueueCall.writer call = some (id, workerId, action) →
        s.lastClaim id = some other → other ≠ workerId → perform maxRetries s.db now call =
          (.written (.error (claimLost id workerId action)), s.db)) ∧
      ∀ t, Runs (queueStep maxRetries) anyStep s t →
        ∀ job ∈ s.db.jobs, job.status.isTerminal = true → job ∈ t.db.jobs := by
  have hs := queueOk_of_runs hmax h
  refine ⟨?_, ?_, ?_⟩
  · intro job hjob
    exact (hs.jobs job hjob).lifecycle
  · intro call id workerId action other now hwriter hlast hother
    exact perform_lost hwriter (hs.heldRows_stale hlast hother)
  · intro t hrun job hjob hterminal
    exact terminal_of_runs hmax hs hrun hjob hterminal

/-- Two workers on one job: the first one's lease runs out, the second takes the job over and fails it
twice; in between the first one comes back. -/
def takeover : List QueueAction := [.call 0 (.enqueue ⟨7, ⟨"ada"⟩, .script, "digest"⟩),
    .call 1 (.claimNext "first" 10 []), .call 2 (.attachPermit 7 "first" 30),
    .call 20 (.claimNextReconciling "second" 10 []),
    .call 21 (.markSucceeded 7 "first" "preview"),
    .call 22 (.markFailed 7 "second" "timeout" none true),
    .call 90 (.claimNextKind .script "second" 10 []),
    .call 91 (.markPayloadUnavailable 7 "second" "gone" none)]

theorem queue_lifecycle_takeover : ∃ s, Runs (queueStep 5) anyStep (.initial []) s ∧
      (s.db.jobs.map fun job => (job.status, job.retries)) = [(.payloadUnavailable, 1)] ∧
      s.db.attemptNumbers 7 = [1, 2] ∧ ∀ job ∈ s.db.jobs, JobLifecycle s.db job := by
  refine exists_runs_imp takeover (P := fun s =>
    (s.db.jobs.map fun job => (job.status, job.retries)) = [(.payloadUnavailable, 1)] ∧
      s.db.attemptNumbers 7 = [1, 2]) (by decide +kernel) ?_
  intro s hs ⟨hjobs, hattempts⟩
  exact ⟨hjobs, hattempts, (queue_lifecycle (by decide) hs).1⟩

end Run

end Breakdown.Ai
