/-
**THE CONCURRENCY PERMITS OF THE AI WORKERS, TRANSACTION BY TRANSACTION**
(`infra/src/ai/pg_concurrency.rs`; the permit half of `claim_next_reconciling` in
`infra/src/ai/queue.rs`).

A permit is one row of `ai_import.concurrency_permit`. Admission counts the rows and inserts one
more under a transaction advisory lock; renewals and deletions never take that lock. The model has
the committed rows, the two kinds of locks and the transactions in progress, each with the statements
it still has to make, and interleaves the statements of any number of processes.

Two points of `READ COMMITTED` decide what can happen and are modelled as Postgres documents them:

- a transaction's deletions become visible when it commits; until then the deleted rows are locked
  and everybody else still counts them;
- an `UPDATE` evaluates its `WHERE` and its new values, and then waits for the row. If the row was
  changed meanwhile, both are evaluated again; if the holder of the lock rolled back, the statement
  goes on with what it evaluated before the wait.

- `permitStatement`: one statement of one of the processes, with what its caller gets;
- `changes_of_step`: what a statement can do to the database (`Changes`), once for all proofs.
-/
import Breakdown.Shared

namespace Breakdown.Ai

/-! ## §1. Limits and rows -/

/-- The limits of a `PgAiConcurrencyLimiter`, as its constructor lets them through. -/
structure Limits where
  maxGlobal : Nat
  maxPerUser : Nat
  maxPerUser_pos : 0 < maxPerUser
  maxPerUser_le : maxPerUser ≤ maxGlobal

/-- `PgAiConcurrencyLimiter::new`. -/
def Limits.new (maxGlobal maxPerUser : Nat) : Except DomainError Limits :=
  if h : 0 < maxGlobal ∧ 0 < maxPerUser ∧ maxPerUser ≤ maxGlobal then
    .ok ⟨maxGlobal, maxPerUser, h.2.1, h.2.2⟩
  else .error (.validation .domainValidation "invalid AI concurrency limits")

/-- `MIN_PERMIT_LEASE`, in seconds. -/
def minPermitLease : Nat := 900 / 30

/-- `PgAiConcurrencyLimiter::with_lease`. -/
def withLease (lease : Nat) : Nat := max lease minPermitLease

/-- A committed row of `ai_import.concurrency_permit`. The revision tells the versions of a row apart,
as `xmin` does. -/
structure PermitRow where
  id : Uuid
  userId : String
  workerId : String
  expiresAt : Timestamp
  revision : Nat := 0

/-- What the ceilings count a row by. -/
def PermitRow.key (row : PermitRow) : Uuid × String := (row.id, row.userId)

/-- `expires_at > clock_timestamp()`. -/
def PermitRow.isLive (clock : Timestamp) (row : PermitRow) : Bool := clock < row.expiresAt

/-- The arguments of `try_acquire_as`, and the lease of the limiter it is called on. -/
structure Acquire where
  userId : String
  workerId : String
  lease : Nat

/-! ## §2. Transactions -/

/-- How far a transaction has got. -/
inductive Tx
  /-- `try_acquire_as` before its advisory lock. -/
  | waiting (acquire : Acquire)
  /-- The lock is held; the expired rows deleted so far. -/
  | sweeping (acquire : Acquire) (deleted : List Uuid)
  /-- The global count was below the limit. -/
  | counted (acquire : Acquire) (deleted : List Uuid)
  /-- So was the user's. -/
  | admitted (acquire : Acquire) (deleted : List Uuid)
  /-- The new row is written, the commit outstanding. -/
  | inserted (acquire : Acquire) (deleted : List Uuid) (row : PermitRow)
  /-- A limit was reached: only the sweep is committed. -/
  | refused (deleted : List Uuid)
  /-- `renew` has found the row live and computed its new expiry; the row is still to be written. -/
  | renewing (id : Uuid) (lease : Nat) (newExpiry : Timestamp) (seen : Nat)
  /-- The row is deleted, the commit outstanding (release, drop-reclaim, reconciling claim). -/
  | deleting (id : Uuid)

/-- The rows a transaction has deleted. -/
def Tx.deleted : Tx → List Uuid
  | .sweeping _ deleted | .counted _ deleted | .admitted _ deleted | .inserted _ deleted _
  | .refused deleted => deleted
  | .deleting id => [id]
  | .waiting _ | .renewing _ _ _ _ => []

/-- The rows a transaction adds. -/
def Tx.added : Tx → List PermitRow
  | .inserted _ _ row => [row]
  | _ => []

/-- The database as the processes share it. -/
structure PermitDb where
  clock : Timestamp
  rows : List PermitRow
  /-- The ids handed out by `Uuid::now_v7()` so far. -/
  issued : List Uuid
  /-- Who holds the advisory lock `ADMISSION_LOCK_ID`. -/
  advisoryLock : Option Nat
  /-- Who has deleted the row without having committed yet. -/
  rowLock : Uuid → Option Nat
  txs : Nat → Option Tx

/-- No permits and nobody at work. -/
def PermitDb.initial (clock : Timestamp) : PermitDb where
  clock := clock
  rows := []
  issued := []
  advisoryLock := none
  rowLock := fun _ => none
  txs := fun _ => none

/-- What a transaction sees of the table: the committed rows it has not deleted itself. -/
def PermitDb.visible (db : PermitDb) (deleted : List Uuid) : List PermitRow :=
  db.rows.filter fun row => !deleted.contains row.id

/-- The transaction goes on. -/
def PermitDb.setTx (db : PermitDb) (tx : Nat) (phase : Tx) : PermitDb :=
  { db with txs := fun other => if other = tx then some phase else db.txs other }

/-- The transaction is over, and with it its locks. -/
def PermitDb.endTx (db : PermitDb) (tx : Nat) : PermitDb := { db with
    txs := fun other => if other = tx then none else db.txs other
    advisoryLock := if db.advisoryLock = some tx then none else db.advisoryLock
    rowLock := fun id => if db.rowLock id = some tx then none else db.rowLock id }

/-- `DELETE` of one row inside a transaction. -/
def PermitDb.lockRow (db : PermitDb) (tx : Nat) (id : Uuid) : PermitDb :=
  { db with rowLock := fun other => if other = id then some tx else db.rowLock other }

/-! ## §3. Statements -/

/-- What a call returns to its caller. -/
inductive PermitReply
  | acquired (permit : Option Uuid)
  | invalid (error : DomainError)
  | renewed (result : Except DomainError Unit)
  | deleted (freed : Bool)

/-- The statements of all processes; `tx` names the transaction a statement belongs to. -/
inductive PermitAction
  | tick (seconds : Nat)
  | begin (tx : Nat) (userId workerId : String) (lease : Nat)
  | lock (tx : Nat)
  | sweep (tx : Nat) (id : Uuid)
  | countGlobal (tx : Nat)
  | countUser (tx : Nat)
  | insert (tx : Nat) (id : Uuid)
  | renew (tx : Nat) (id : Uuid) (lease : Nat)
  | renewWrite (tx : Nat)
  /-- `release`: `delete_permit`. -/
  | release (tx : Nat) (id : Uuid)
  /-- The reclaimer behind `Drop`: `delete_permit_bounded`. -/
  | reclaim (tx : Nat) (id : Uuid)
  /-- The reconciling claims of the job queue: `DELETE … WHERE id = orphan_permit_id`. -/
  | reconcile (tx : Nat) (id : Uuid)
  | commit (tx : Nat)
  /-- An error, a lost connection or a dropped future ends the transaction. -/
  | rollback (tx : Nat)

/-- `renew` without a row to write. -/
def permitNotLive (id : Uuid) : DomainError := .conflict .domainConflict
    ("AI concurrency permit " ++ id.toDisplay ++ " is no longer live (expired or reclaimed)")

/-- `try_acquire_as` up to its first statement. -/
def beginAcquire (db : PermitDb) (tx : Nat) (userId workerId : String) (lease : Nat) :
    Option (PermitDb × Option PermitReply) :=
  if db.txs tx ≠ none then none
  else if isBlank userId then
    some (db, some (.invalid (.validation .domainValidation
      "AI concurrency user id must not be empty")))
  else some (db.setTx tx (.waiting ⟨userId, workerId, withLease lease⟩), none)

/-- `SELECT pg_advisory_xact_lock($1)`: granted to one transaction at a time. -/
def takeLock (db : PermitDb) (tx : Nat) : Option (PermitDb × Option PermitReply) :=
  match db.txs tx, db.advisoryLock with
  | some (.waiting acquire), none =>
    some ({ db.setTx tx (.sweeping acquire []) with advisoryLock := some tx }, none)
  | _, _ => none

/-- One row of `DELETE … WHERE expires_at <= clock_timestamp()`. The rows of the statement are
deleted one by one, each judged at its own instant and waited for if it is locked; a row that
expires behind the scan stays. -/
def sweepRow (db : PermitDb) (tx : Nat) (id : Uuid) : Option (PermitDb × Option PermitReply) :=
  match db.txs tx with
  | some (.sweeping acquire deleted) =>
    if (db.rows.any fun row => row.id = id && !row.isLive db.clock) && db.rowLock id = none then
      some ((db.lockRow tx id).setTx tx (.sweeping acquire (id :: deleted)), none)
    else none
  | _ => none

/-- `SELECT COUNT(*) FROM ai_import.concurrency_permit`. -/
def countGlobal (limits : Limits) (db : PermitDb) (tx : Nat) :
    Option (PermitDb × Option PermitReply) :=
  match db.txs tx with
  | some (.sweeping acquire deleted) =>
    if limits.maxGlobal ≤ (db.visible deleted).length then
      some (db.setTx tx (.refused deleted), none)
    else some (db.setTx tx (.counted acquire deleted), none)
  | _ => none

/-- `SELECT COUNT(*) … WHERE user_id = $1`. -/
def countUser (limits : Limits) (db : PermitDb) (tx : Nat) :
    Option (PermitDb × Option PermitReply) :=
  match db.txs tx with
  | some (.counted acquire deleted) =>
    if limits.maxPerUser ≤ (db.visible deleted).countP (·.userId = acquire.userId) then
      some (db.setTx tx (.refused deleted), none)
    else some (db.setTx tx (.admitted acquire deleted), none)
  | _ => none

/-- `INSERT … VALUES (…, clock_timestamp() + make_interval(secs => $4))` under a fresh id. -/
def insertPermit (db : PermitDb) (tx : Nat) (id : Uuid) : Option (PermitDb × Option PermitReply) :=
  match db.txs tx with
  | some (.admitted acquire deleted) =>
    if id ∈ db.issued then none
    else
      let row : PermitRow :=
        { id, userId := acquire.userId, workerId := acquire.workerId,
          expiresAt := db.clock + acquire.lease }
      some ({ db.setTx tx (.inserted acquire deleted row) with issued := id :: db.issued }, none)
  | _ => none

/-- `renew`: the row is looked up, its guard and its new expiry are evaluated. -/
def beginRenew (db : PermitDb) (tx : Nat) (id : Uuid) (lease : Nat) :
    Option (PermitDb × Option PermitReply) :=
  if db.txs tx ≠ none then none
  else
    match db.rows.find? fun row => row.id = id && row.isLive db.clock with
    | some row => some (db.setTx tx (.renewing id lease (db.clock + lease) row.revision), none)
    | none => some (db, some (.renewed (.error (permitNotLive id))))

/-- The next version of a row. -/
def PermitRow.extend (expiresAt : Timestamp) (row : PermitRow) : PermitRow :=
  { row with expiresAt, revision := row.revision + 1 }

/-- Write the next version of the row with the id. -/
def PermitDb.extendRow (db : PermitDb) (id : Uuid) (expiresAt : Timestamp) : PermitDb :=
  { db with rows := db.rows.map fun row => if row.id = id then row.extend expiresAt else row }

/-- The renewal gets its row, nobody having it locked (any more), writes it and commits. -/
def writeRenewal (db : PermitDb) (tx : Nat) : Option (PermitDb × Option PermitReply) :=
  match db.txs tx with
  | some (.renewing id lease newExpiry seen) =>
    if db.rowLock id ≠ none then none
    else
      match db.rows.find? (·.id = id) with
      | none => some (db.endTx tx, some (.renewed (.error (permitNotLive id))))
      | some row =>
        -- the version that was evaluated is still there: its values are used as they are
        if row.revision = seen then
          some ((db.extendRow id newExpiry).endTx tx, some (.renewed (.ok ())))
        -- another version was committed meanwhile: guard and value are evaluated on it again
        else if row.isLive db.clock then
          some ((db.extendRow id (db.clock + lease)).endTx tx, some (.renewed (.ok ())))
        else some (db.endTx tx, some (.renewed (.error (permitNotLive id))))
  | _ => none

/-- `DELETE … WHERE id = $1`, which waits while another transaction has the row. -/
def beginDelete (db : PermitDb) (tx : Nat) (id : Uuid) : Option (PermitDb × Option PermitReply) :=
  if db.txs tx ≠ none ∨ db.rowLock id ≠ none then none
  else if db.rows.any (·.id = id) then some ((db.lockRow tx id).setTx tx (.deleting id), none)
  else some (db, some (.deleted false))

/-- What the call behind a committed transaction returns. -/
def Tx.reply : Tx → Option PermitReply
  | .inserted _ _ row => some (.acquired (some row.id))
  | .refused _ => some (.acquired none)
  | .deleting _ => some (.deleted true)
  | _ => none

/-- `COMMIT`: the deletions and the insertion of the transaction become visible at once. -/
def commitTx (db : PermitDb) (tx : Nat) : Option (PermitDb × Option PermitReply) :=
  (db.txs tx).bind fun phase =>
    phase.reply.map fun reply =>
      ({ db with rows := db.visible phase.deleted ++ phase.added }.endTx tx, some reply)

/-- The transaction leaves no trace. -/
def rollbackTx (db : PermitDb) (tx : Nat) : Option (PermitDb × Option PermitReply) :=
  if db.txs tx = none then none else some (db.endTx tx, none)

/-- One statement. -/
def permitStatement (limits : Limits) (db : PermitDb) :
    PermitAction → Option (PermitDb × Option PermitReply)
  | .tick seconds => some ({ db with clock := db.clock + seconds }, none)
  | .begin tx userId workerId lease => beginAcquire db tx userId workerId lease
  | .lock tx => takeLock db tx
  | .sweep tx id => sweepRow db tx id
  | .countGlobal tx => countGlobal limits db tx
  | .countUser tx => countUser limits db tx
  | .insert tx id => insertPermit db tx id
  | .renew tx id lease => beginRenew db tx id lease
  | .renewWrite tx => writeRenewal db tx
  | .release tx id | .reclaim tx id | .reconcile tx id => beginDelete db tx id
  | .commit tx => commitTx db tx
  | .rollback tx => rollbackTx db tx

/-- The database after the statement. -/
def permitStep (limits : Limits) (db : PermitDb) (action : PermitAction) : Option PermitDb :=
  (permitStatement limits db action).map Prod.fst

/-! ## §4. What a statement can change -/

section Changes

variable {limits : Limits} {db db' : PermitDb} {action : PermitAction} {tx : Nat}
  {reply : Option PermitReply}

/-- **WHAT A STATEMENT DOES.** The clock goes on, a transaction moves to its next phase or ends, or
rows are committed. -/
inductive Changes (limits : Limits) (db : PermitDb) (action : PermitAction) : PermitDb → Prop
  | clock (seconds : Nat) : Changes limits db action { db with clock := db.clock + seconds }
  | nothing : Changes limits db action db
  | waits (tx : Nat) (acquire : Acquire) : Changes limits db action (db.setTx tx (.waiting acquire))
  | locks (tx : Nat) (acquire : Acquire) (free : db.advisoryLock = none) : Changes limits db action
        { db.setTx tx (.sweeping acquire []) with advisoryLock := some tx }
  | sweeps (tx : Nat) (acquire : Acquire) (deleted : List Uuid) (id : Uuid)
      (before : db.txs tx = some (.sweeping acquire deleted)) :
      Changes limits db action
        ((db.lockRow tx id).setTx tx (.sweeping acquire (id :: deleted)))
  | refuses (tx : Nat) (deleted : List Uuid) :
      Changes limits db action (db.setTx tx (.refused deleted))
  | counts (tx : Nat) (acquire : Acquire) (deleted : List Uuid)
      (before : db.txs tx = some (.sweeping acquire deleted))
      (room : (db.visible deleted).length < limits.maxGlobal) :
      Changes limits db action (db.setTx tx (.counted acquire deleted))
  | admits (tx : Nat) (acquire : Acquire) (deleted : List Uuid)
      (before : db.txs tx = some (.counted acquire deleted))
      (room : (db.visible deleted).countP (·.userId = acquire.userId) < limits.maxPerUser) :
      Changes limits db action (db.setTx tx (.admitted acquire deleted))
  | inserts (tx : Nat) (acquire : Acquire) (deleted : List Uuid) (row : PermitRow)
      (before : db.txs tx = some (.admitted acquire deleted)) (fresh : row.id ∉ db.issued)
      (user : row.userId = acquire.userId) :
      Changes limits db action
        { db.setTx tx (.inserted acquire deleted row) with issued := row.id :: db.issued }
  | evaluates (tx : Nat) (id : Uuid) (lease : Nat) (newExpiry : Timestamp) (seen : Nat) :
      Changes limits db action (db.setTx tx (.renewing id lease newExpiry seen))
  | deletes (tx : Nat) (id : Uuid) :
      Changes limits db action ((db.lockRow tx id).setTx tx (.deleting id))
  | extend (tx : Nat) (id : Uuid) (lease : Nat) (newExpiry : Timestamp) (seen : Nat)
      (taken : action = .renewWrite tx)
      (before : db.txs tx = some (.renewing id lease newExpiry seen)) (row : PermitRow)
      (found : db.rows.find? (·.id = id) = some row) (expiresAt : Timestamp)
      (checked : (row.revision = seen ∧ expiresAt = newExpiry) ∨
        (row.revision ≠ seen ∧ row.isLive db.clock = true)) :
      Changes limits db action ((db.extendRow id expiresAt).endTx tx)
  | commits (tx : Nat) (phase : Tx) (before : db.txs tx = some phase) : Changes limits db action
        ({ db with rows := db.visible phase.deleted ++ phase.added }.endTx tx)
  | ends (tx : Nat) : Changes limits db action (db.endTx tx)

theorem beginAcquire_changes {userId}
    (h : beginAcquire db tx userId workerId lease = some (db', reply)) :
    Changes limits db action db' := by
  unfold beginAcquire at h
  split at h
  · cases h
  split at h
  · cases h
    exact .nothing
  · cases h
    exact .waits tx _

theorem takeLock_changes (h : takeLock db tx = some (db', reply)) :
    Changes limits db action db' := by
  unfold takeLock at h
  split at h
  · next acquire _ hfree =>
    cases h
    exact .locks tx acquire hfree
  · cases h

theorem sweepRow_changes {id} (h : sweepRow db tx id = some (db', reply)) :
    Changes limits db action db' := by
  unfold sweepRow at h
  split at h
  · next acquire deleted hbefore =>
    split at h
    · cases h
      exact .sweeps tx acquire deleted id hbefore
    · cases h
  · cases h

theorem countGlobal_changes (h : countGlobal limits db tx = some (db', reply)) :
    Changes limits db action db' := by
  unfold countGlobal at h
  split at h
  · next acquire deleted hbefore =>
    split at h
    · cases h
      exact .refuses tx deleted
    · next hroom =>
      cases h
      exact .counts tx acquire deleted hbefore (by omega)
  · cases h

theorem countUser_changes (h : countUser limits db tx = some (db', reply)) :
    Changes limits db action db' := by
  unfold countUser at h
  split at h
  · next acquire deleted hbefore =>
    split at h
    · cases h
      exact .refuses tx deleted
    · next hroom =>
      cases h
      exact .admits tx acquire deleted hbefore (by omega)
  · cases h

theorem insertPermit_changes {id} (h : insertPermit db tx id = some (db', reply)) :
    Changes limits db action db' := by
  unfold insertPermit at h
  split at h
  · next acquire deleted hbefore =>
    split at h
    · cases h
    · next hfresh =>
      cases h
      exact .inserts tx acquire deleted _ hbefore hfresh rfl
  · cases h

theorem beginRenew_changes {id} (h : beginRenew db tx id lease = some (db', reply)) :
    Changes limits db action db' := by
  unfold beginRenew at h
  split at h
  · cases h
  split at h
  · cases h
    exact .evaluates tx id lease _ _
  · cases h
    exact .nothing

theorem writeRenewal_changes (h : writeRenewal db tx = some (db', reply)) :
    Changes limits db (.renewWrite tx) db' := by
  unfold writeRenewal at h
  split at h
  · next id lease newExpiry seen hbefore =>
    split at h
    · cases h
    split at h
    · cases h
      exact .ends tx
    · next row hfound =>
      split at h
      · next hseen =>
        cases h
        exact .extend tx id lease newExpiry seen rfl hbefore row hfound newExpiry
          (.inl ⟨hseen, rfl⟩)
      · next hseen =>
        split at h
        · next hlive =>
          cases h
          exact .extend tx id lease newExpiry seen rfl hbefore row hfound _
            (.inr ⟨hseen, hlive⟩)
        · cases h
          exact .ends tx
  · cases h

theorem beginDelete_changes {id} (h : beginDelete db tx id = some (db', reply)) :
    Changes limits db action db' := by
  unfold beginDelete at h
  split at h
  · cases h
  split at h
  · cases h
    exact .deletes tx id
  · cases h
    exact .nothing

theorem commitTx_changes (h : commitTx db tx = some (db', reply)) :
    Changes limits db action db' := by
  obtain ⟨phase, hphase, h⟩ := Option.bind_eq_some_iff.1 h
  obtain ⟨answer, _, h⟩ := Option.map_eq_some_iff.1 h
  cases h
  exact .commits tx phase hphase

theorem rollbackTx_changes (h : rollbackTx db tx = some (db', reply)) :
    Changes limits db action db' := by
  unfold rollbackTx at h
  split at h
  · cases h
  · cases h
    exact .ends tx

/-- Every step is one of these changes. -/
theorem changes_of_step (hstep : permitStep limits db action = some db') :
    Changes limits db action db' := by
  obtain ⟨⟨after, reply⟩, h, hafter⟩ := Option.map_eq_some_iff.1 hstep
  subst hafter
  cases action with
  | tick seconds =>
    cases h
    exact .clock seconds
  | begin => exact beginAcquire_changes h
  | lock => exact takeLock_changes h
  | sweep => exact sweepRow_changes h
  | countGlobal => exact countGlobal_changes h
  | countUser => exact countUser_changes h
  | insert => exact insertPermit_changes h
  | renew => exact beginRenew_changes h
  | renewWrite => exact writeRenewal_changes h
  | release | reclaim | reconcile => exact beginDelete_changes h
  | commit => exact commitTx_changes h
  | rollback => exact rollbackTx_changes h

end Changes

end Breakdown.Ai
