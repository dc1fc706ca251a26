/-
**WRAPPING A DAY AGAINST THE SCENE SHOOTS OF THAT DAY**
(`infra/src/event_store/wrap_finality.rs`, the locked adapters of `command_adapters.rs`).

Two aggregates, one lock. `wrap` and the seven execution commands of a scene shoot take the day's
advisory lock first and hold it until they return. An execution command then PROBES the shooting
day (`ensure_day_open`) and only afterwards appends to the scene shoot. The probe is answered by
the instance's own cached day actor.

Taking the lock, the probe, every append and every re-read is one action, so every interleaving of
calls on any number of instances is a run. Commands that take no lock (planning, replanning,
photos, the other commands of a day) run in between.
-/
import Breakdown.EventStore.ActorSystem
import Breakdown.EventStore.CommandAdapters
import Breakdown.Aggregates.Versions

namespace Breakdown.WrapFinality

open EventLog Fallible

/-! ## §1. The lock -/

/-- `lock_key`: the day's 128 bits folded onto the 64 of an advisory lock. Two days may share a
key; one day always has one key. -/
def lockKey (day : ShootingDayId) : BitVec 64 :=
  ((day.uuid.asU128 >>> 64) ^^^ day.uuid.asU128).setWidth 64

/-! ## §2. Requests -/

/-- A call that runs under the day lock. -/
inductive Request
  /-- `ShootingDayCommandsImpl::wrap`. -/
  | wrap (cmd : WrapShootingDay)
  /-- One of the execution commands; `day` is the `shooting_day_id` it carries. -/
  | execution (cmd : SceneShootCommand) (day : ShootingDayId) (carries : cmd.executionDay = some day)

/-- The day whose lock the call takes. -/
def Request.day : Request → ShootingDayId
  | .wrap cmd => cmd.id
  | .execution _ day _ => day

/-- The stream a scene-shoot command is executed on. -/
def commandId : SceneShootCommand → SceneShootId
  | .plan cmd => cmd.id
  | .replan cmd => cmd.id
  | .start cmd => cmd.id
  | .setActualOrder cmd => cmd.id
  | .finish cmd => cmd.id
  | .skip cmd => cmd.id
  | .addNote cmd => cmd.id
  | .updateNote cmd => cmd.id
  | .removeNote cmd => cmd.id
  | .linkContinuityPhoto cmd => cmd.id
  | .unlinkContinuityPhoto cmd => cmd.id
  | .delete cmd => cmd.id

/-- `ensure_day_open`: how the probe's reply is read. -/
def ensureDayOpen : Reply ShootingDayEvent ShootingDayError → Except DomainError Unit
  | .ok _ => .ok ()
  | .error (.handle (.wrapped id)) => .error (.shootingDayWrapped id.uuid)
  | .error (.handle e) => .error (IntoDomainError.intoDomainError e)
  | .error _ => .error storeFailure

/-! ## §3. The state -/

/-- How a locked call ended. -/
inductive CallOutcome
  | replied (result : Except DomainError AggregateVersion)
  /-- The request was dropped or its instance crashed. -/
  | gaveUp

/-- Where a locked call stands. -/
inductive Phase
  /-- In `lock_day`. -/
  | locking
  /-- An execution command that holds the lock, about to probe its day. -/
  | probing
  /-- About to decide and append. -/
  | executing (expected : ExpectedVersion) (retries : Nat)
  /-- The append conflicted; about to re-read the stream. -/
  | resyncing (expected : ExpectedVersion) (retries : Nat)
  | finished (outcome : CallOutcome)

/-- The call holds the day lock. -/
def Phase.locked : Phase → Bool
  | .probing | .executing .. | .resyncing .. => true
  | .locking | .finished _ => false

/-- The call is past its probe. -/
def Phase.admitted : Phase → Bool
  | .executing .. | .resyncing .. => true
  | .locking | .probing | .finished _ => false

/-- A locked call at an instance. -/
structure Call where
  instanceId : InstanceId
  request : Request
  phase : Phase

/-- The locks, the two kinds of streams and the calls. -/
structure World where
  /-- Who holds each advisory lock. -/
  locks : BitVec 64 → Option CallId
  days : ActorSystem ShootingDayId ShootingDayAggregate
  shoots : ActorSystem SceneShootId SceneShootAggregate
  calls : CallId → Option Call

namespace World

def init : World where
  locks := fun _ => none
  days := .init
  shoots := .init
  calls := fun _ => none

def setCall (w : World) (c : CallId) (call : Call) : World :=
  { w with calls := Function.update w.calls c (some call) }

/-- The call returns: its guard is dropped, which releases the lock if it held it. -/
def finish (w : World) (c : CallId) (call : Call) (outcome : CallOutcome) : World :=
  { w.setCall c { call with phase := .finished outcome } with
    locks := if call.phase.locked then Function.update w.locks (lockKey call.request.day) none
      else w.locks }

end World

/-! ## §4. The steps of a locked call -/

/-- `lock_day` succeeds: the lock is free and now held. `wrap` goes on to its version check and its
append, an execution command to its probe. -/
def acquire (w : World) (c : CallId) (call : Call) : World :=
  let locked := { w with locks := Function.update w.locks (lockKey call.request.day) (some c) }
  match call.request with
  | .wrap cmd =>
    match exactly cmd.version with
    | .ok expected => locked.setCall c { call with phase := .executing expected 0 }
    -- taken and given back within one step
    | .error e => w.finish c call (.replied (.error e))
  | .execution .. => locked.setCall c { call with phase := .probing }

/-- `ensure_day_open` through the instance's own day actor, then the version check. -/
def probe (w : World) (c : CallId) (call : Call) (cmd : SceneShootCommand) (day : ShootingDayId)
    (outcome : AppendOutcome) : World :=
  let (days, reply) := w.days.executeAt call.instanceId day .any (.ensureOpen ⟨day⟩) outcome
  let w := { w with days }
  match ensureDayOpen reply, expectation SceneShootAggregate cmd with
  | .ok _, .ok expected => w.setCall c { call with phase := .executing expected 0 }
  | .ok _, .error e => w.finish c call (.replied (.error e))
  | .error e, _ => w.finish c call (.replied (.error e))

/-- What follows an attempt: the mapped reply, or a re-read if the retry budget allows one. -/
def afterAttempt {ε χ : Type} [IntoDomainError χ] (w : World) (c : CallId) (call : Call)
    (expected : ExpectedVersion) (retries : Nat) (reply : Option (Reply ε χ)) : World :=
  match reply with
  | some reply => w.finish c call (.replied (mapExecutedResult reply))
  | none =>
    if retries = conflictRetries then
      w.finish c call
        (.replied (mapExecutedResult (.error .tooManyConflicts : Reply ε χ)))
    else w.setCall c { call with phase := .resyncing expected retries }

/-- One decision and append of the call's command. -/
def executeAttempt (w : World) (c : CallId) (call : Call) (expected : ExpectedVersion)
    (retries : Nat) (outcome : AppendOutcome) : World :=
  match call.request with
  | .wrap cmd =>
    let (days, reply) := w.days.attemptAt call.instanceId cmd.id expected (.wrap cmd) outcome
    afterAttempt { w with days } c call expected retries reply
  | .execution cmd _ _ =>
    let (shoots, reply) := w.shoots.attemptAt call.instanceId (commandId cmd) expected cmd outcome
    afterAttempt { w with shoots } c call expected retries reply

/-- Re-read the stream before the next attempt. -/
def resyncActor (w : World) (c : CallId) (call : Call) (expected : ExpectedVersion)
    (retries : Nat) : World :=
  let w := match call.request with
    | .wrap cmd => { w with days := w.days.resyncAt call.instanceId cmd.id }
    | .execution cmd _ _ => { w with shoots := w.shoots.resyncAt call.instanceId (commandId cmd) }
  w.setCall c { call with phase := .executing expected (retries + 1) }

/-! ## §5. The transition system -/

/-- What can happen, in any order. -/
inductive Action
  /-- A locked call arrives at an instance. -/
  | spawn (c : CallId) (i : InstanceId) (req : Request)
  | acquire (c : CallId)
  /-- `lock_day` fails, for instance after the five seconds of its lock timeout. -/
  | lockFails (c : CallId)
  | probe (c : CallId) (outcome : AppendOutcome)
  | executeAttempt (c : CallId) (outcome : AppendOutcome)
  | resyncActor (c : CallId)
  /-- The instance crashes between two actions of the call, and Postgres rolls the guard back. A
      request whose client only goes away is no such thing: its command may still be appended. -/
  | giveUp (c : CallId)
  /-- A scene-shoot command that takes no lock: `plan`, `replan`, photos, deletion. -/
  | shootCommand (i : InstanceId) (cmd : SceneShootCommand) (outcome : AppendOutcome)
  /-- A shooting-day command other than `wrap`. -/
  | dayCommand (i : InstanceId) (day : ShootingDayId) (expected : ExpectedVersion)
      (cmd : ShootingDayCommand) (outcome : AppendOutcome)
  | stopDayActor (i : InstanceId) (day : ShootingDayId)
  | stopShootActor (i : InstanceId) (id : SceneShootId)

/-- Does the command wrap a day? -/
def isWrapCommand : ShootingDayCommand → Bool
  | .wrap _ => true
  | _ => false

/-- One action. `none`: the action is not enabled. -/
def step (w : World) : Action → Option World
  | .spawn c i req =>
    match w.calls c with
    | some _ => none
    | none => some (w.setCall c ⟨i, req, .locking⟩)
  | .acquire c =>
    match w.calls c with
    | some ⟨i, req, .locking⟩ =>
      -- the advisory lock excludes every other holder of the key
      if (w.locks (lockKey req.day)).isNone then some (acquire w c ⟨i, req, .locking⟩) else none
    | _ => none
  | .lockFails c =>
    match w.calls c with
    | some ⟨i, req, .locking⟩ =>
      some (w.finish c ⟨i, req, .locking⟩
        (.replied (.error (.serviceUnavailable "wrap-finality lock"))))
    | _ => none
  | .probe c outcome =>
    match w.calls c with
    | some ⟨i, .execution cmd day h, .probing⟩ =>
      some (probe w c ⟨i, .execution cmd day h, .probing⟩ cmd day outcome)
    | _ => none
  | .executeAttempt c outcome =>
    match w.calls c with
    | some ⟨i, req, .executing expected n⟩ =>
      some (executeAttempt w c ⟨i, req, .executing expected n⟩ expected n outcome)
    | _ => none
  | .resyncActor c =>
    match w.calls c with
    | some ⟨i, req, .resyncing expected n⟩ =>
      some (resyncActor w c ⟨i, req, .resyncing expected n⟩ expected n)
    | _ => none
  | .giveUp c =>
    match w.calls c with
    | some call => some (w.finish c call .gaveUp)
    | none => none
  | .shootCommand i cmd outcome =>
    match cmd.executionDay, expectation SceneShootAggregate cmd with
    | none, .ok expected =>
      some { w with shoots := (w.shoots.executeAt i (commandId cmd) expected cmd outcome).1 }
    | _, _ => none
  | .dayCommand i day expected cmd outcome =>
    if isWrapCommand cmd then none
    else some { w with days := (w.days.executeAt i day expected cmd outcome).1 }
  | .stopDayActor i day => some { w with days := w.days.stop i day }
  | .stopShootActor i id => some { w with shoots := w.shoots.stop i id }

end Breakdown.WrapFinality
