/-
**CREATE CALLS, REAPERS AND THE STREAMS THEY SHARE**
(`infra/src/reservations/{store,reaper}.rs`, the create adapters of `command_adapters.rs`).

Any number of API instances run create calls. A call reserves its key (a bounded loop of
compare-and-append and reading the obstacle), executes the create on the aggregate's actor, and
gives the claim back if the handler rejected the command. Reaper passes sweep old claims: read the
reservation stream, check the claim's age, probe the aggregate stream, then consume or release.

Every access to the store is one action, so every interleaving of accesses is a run. An append may
be acknowledged, appended without an acknowledgement, or refused.
-/
import Mathlib.Logic.Function.Basic
import Breakdown.Reservations.Store

namespace Breakdown.Reservations

open EventLog

/-! ## §1. Lifecycle appends -/

/-- `append_lifecycle`: the new stream, and the appended version, `none` for a version conflict, or
an error for any other failure of the store. -/
def appendLifecycle (log : List StoredEvent) (expected : ExpectedVersion) (e : StoredEvent)
    (outcome : AppendOutcome) : List StoredEvent × Except DomainError (Option Nat) :=
  match outcome, tryAppend log expected [e] with
  | .acknowledged, some log' => (log', .ok (some log.length))
  | .acknowledged, none => (log, .ok none)
  | .lostAck, some log' => (log', .error storeFailure)
  | .lostAck, none => (log, .error storeFailure)
  | .failed, _ => (log, .error storeFailure)

/-! ## §2. The state -/

abbrev ReaperId := Nat

/-- How a create call ended. -/
inductive CallOutcome
  /-- `reserve` returned an error. -/
  | reserveFailed (error : DomainError)
  /-- The create was executed and answered. -/
  | replied (result : Except DomainError AggregateVersion)
  /-- The request was dropped or its instance crashed. -/
  | gaveUp

/-- Where a create call stands. -/
inductive Phase
  /-- In `reserve`, about to append `Reserved`. -/
  | appending (attempt : Nat) (casAt : Option Nat)
  /-- In `reserve`, the append conflicted; about to read what stands in the way. -/
  | classifying (attempt : Nat)
  /-- `reserve` returned a claim at time `reservedAt`; about to decide and append the create. -/
  | executing (claim : ReservationClaim) (reservedAt : Nat) (retries : Nat)
  /-- The create's append conflicted; about to re-read the aggregate stream. -/
  | resyncing (claim : ReservationClaim) (reservedAt : Nat) (retries : Nat)
  /-- The handler rejected the create; about to release the claim. -/
  | compensating (claim : ReservationClaim) (result : Except DomainError AggregateVersion)
  | finished (outcome : CallOutcome)

/-- A create request at work. -/
structure Call where
  instanceId : InstanceId
  request : CreateRequest
  phase : Phase

/-- What the reaper concluded about an old claim. -/
inductive Verdict
  /-- No aggregate stream: a crash orphan. -/
  | orphan
  /-- The aggregate exists but its create event realizes another key. -/
  | mismatch
  /-- The aggregate exists and realizes the key. -/
  | matching
  deriving DecidableEq

/-- Where `reap_claim` stands. -/
inductive ReaperPhase
  | idle
  /-- `last_state` was read. -/
  | loaded (kind : ReservationKind) (key : String) (claimed : Uuid) (version : Nat)
      (state : StoredEvent)
  /-- The claim is still reserved and old enough; about to probe the aggregate stream. -/
  | probing (kind : ReservationKind) (key : String) (claimed : Uuid) (version : Nat)
  /-- The aggregate stream exists; about to read its first event. -/
  | verifying (kind : ReservationKind) (key : String) (claimed : Uuid) (version : Nat)
  /-- About to consume or release. -/
  | writing (kind : ReservationKind) (key : String) (claimed : Uuid) (version : Nat)
      (verdict : Verdict)

/-- Reservations, aggregates, calls and reapers. -/
structure World where
  /-- All clocks agree. -/
  now : Nat
  /-- The reservation stream of each key. -/
  reservations : String → List StoredEvent
  /-- The aggregate streams. -/
  streams : (a : AggregateRef) → List a.kind.Event
  /-- The cached actor of each instance for each aggregate stream, if one is running. -/
  actors : InstanceId → (a : AggregateRef) → Option (EntityActorState a.kind.State)
  calls : CallId → Option Call
  reapers : ReaperId → ReaperPhase

namespace World

def init : World where
  now := 0
  reservations := fun _ => []
  streams := fun _ => []
  actors := fun _ _ => none
  calls := fun _ => none
  reapers := fun _ => .idle

def setCall (w : World) (c : CallId) (call : Call) : World :=
  { w with calls := Function.update w.calls c (some call) }

def setReservation (w : World) (key : String) (log : List StoredEvent) : World :=
  { w with reservations := Function.update w.reservations key log }

def setStream (w : World) (a : AggregateRef) (log : List a.kind.Event) : World :=
  { w with streams := Function.update w.streams a log }

def setActor (w : World) (i : InstanceId) (a : AggregateRef)
    (st : Option (EntityActorState a.kind.State)) : World :=
  { w with actors := Function.update w.actors i (Function.update (w.actors i) a st) }

def setReaper (w : World) (r : ReaperId) (phase : ReaperPhase) : World :=
  { w with reapers := Function.update w.reapers r phase }

/-- The cached actor of an instance; a command for a stream without one starts it (`on_start` reads
the whole stream). -/
def actorOrStart (w : World) (i : InstanceId) (a : AggregateRef) : EntityActorState a.kind.State :=
  (w.actors i a).getD (EntityActorState.load a.kind.State (w.streams a))

end World

/-! ## §3. Create calls -/

section Calls

variable (pairHash : PairHash)

/-- One append of the loop in `reserve`. -/
def reserveAppend (w : World) (c : CallId) (call : Call) (attempt : Nat) (casAt : Option Nat)
    (outcome : AppendOutcome) : World :=
  let key := call.request.key pairHash
  let expected := casAt.elim ExpectedVersion.empty ExpectedVersion.exact
  let (log, result) :=
    appendLifecycle (w.reservations key) expected ⟨.reserved call.request.id, w.now⟩ outcome
  let phase : Phase := match result with
    | .ok (some version) => .executing ⟨key, call.request.id, version⟩ w.now 0
    | .ok none => .classifying attempt
    | .error e => .finished (.reserveFailed e)
  (w.setReservation key log).setCall c { call with phase }

/-- The obstacle read of the loop in `reserve`, and what the loop does with it. -/
def reserveClassify (w : World) (c : CallId) (call : Call) (attempt : Nat) (readOk : Bool) : World :=
  let key := call.request.key pairHash
  -- attempts run from 0 to the budget inclusive
  let retry (casAt : Option Nat) : Phase :=
    if attempt < reserveRetryBudget then .appending (attempt + 1) casAt
    else .finished (.reserveFailed call.request.conflict)
  let phase : Phase := if readOk then
      match claimObstacle key call.request.id (w.reservations key) with
      | .ownedBySelf claim => .executing claim w.now 0
      | .claimable at_ => retry (some at_)
      | .claimableAtFreshStream => retry none
      | .permanent => .finished (.reserveFailed call.request.conflict)
    else .finished (.reserveFailed storeFailure)
  w.setCall c { call with phase }

end Calls

/-- The errors of the four aggregates reach the domain through their own conversions. -/
instance instIntoDomainError : (kind : ReservationKind) → IntoDomainError kind.Error
  | .episodeNumber => inferInstanceAs (IntoDomainError EpisodeError)
  | .seasonNumber => inferInstanceAs (IntoDomainError SeasonError)
  | .blockNumber => inferInstanceAs (IntoDomainError BlockError)
  | .sceneShootPair => inferInstanceAs (IntoDomainError SceneShootError)

/-- What follows an answered create: `compensate_create_claim` releases the claim exactly when the
HANDLER rejected the command. -/
def afterExecute {kind : ReservationKind} (claim : ReservationClaim)
    (reply : Reply kind.Event kind.Error) : Phase :=
  match reply with
  | .error (.handle e) => .compensating claim (mapExecutedResult (.error (.handle e) : Reply kind.Event _))
  | reply => .finished (.replied (mapExecutedResult reply))

/-- One decision and append of the create, expected on an empty stream. -/
def executeAttempt (w : World) (c : CallId) (call : Call) (claim : ReservationClaim)
    (reservedAt retries : Nat) (outcome : AppendOutcome) : World :=
  let a := call.request.aggregate
  match attempt (w.actorOrStart call.instanceId a) (w.streams a) .empty call.request.command
      outcome with
  | .done st log reply =>
    ((w.setStream a log).setActor call.instanceId a (some st)).setCall c
      { call with phase := afterExecute claim reply }
  | .conflict =>
    w.setCall c { call with
      phase := if retries = conflictRetries then
          .finished (.replied (mapExecutedResult
            (.error .tooManyConflicts : Reply a.kind.Event a.kind.Error)))
        else .resyncing claim reservedAt retries }

/-- Re-read the aggregate stream before the next attempt. -/
def resyncActor (w : World) (c : CallId) (call : Call) (claim : ReservationClaim)
    (reservedAt retries : Nat) : World :=
  let a := call.request.aggregate
  let st := (w.actorOrStart call.instanceId a).resync (w.streams a)
  (w.setActor call.instanceId a (some st)).setCall c
    { call with phase := .executing claim reservedAt (retries + 1) }

/-- `compensate_create_claim`: release at the claim's version; a failure is only logged. -/
def compensate (w : World) (c : CallId) (call : Call) (claim : ReservationClaim)
    (result : Except DomainError AggregateVersion) (outcome : AppendOutcome) : World :=
  let (log, _) := appendLifecycle (w.reservations claim.key) (.exact claim.claimVersion)
    ⟨.released claim.aggregateId, w.now⟩ outcome
  (w.setReservation claim.key log).setCall c { call with phase := .finished (.replied result) }

/-- Any other command on one of the four aggregates, through an instance's actor. -/
def executeOther (w : World) (i : InstanceId) (a : AggregateRef) (expected : ExpectedVersion)
    (cmd : a.kind.Command) (outcome : AppendOutcome) : World :=
  let (st, log, _) :=
    handleExecute (w.actorOrStart i a) (w.streams a) expected cmd outcome conflictRetries
  (w.setStream a log).setActor i a (some st)

/-! ## §4. Reaper passes -/

/-- The read that starts `reap_claim` for one candidate of the claim projection. -/
def reapRead (w : World) (r : ReaperId) (key : String) (claimed : Uuid) : World :=
  match ReservationKind.fromKey key, lastEvent (w.reservations key) with
  | some kind, some (version, state) => w.setReaper r (.loaded kind key claimed version state)
  | _, _ => w

/-- The identity and age check against the stream's own event. -/
def reapCheck (claimTtl : Nat) (w : World) (r : ReaperId) (kind : ReservationKind) (key : String)
    (claimed : Uuid) (version : Nat) (state : StoredEvent) : World :=
  w.setReaper r
    (if state.event ≠ .reserved claimed || claimIsTooYoung state.timestamp w.now claimTtl then .idle
     else .probing kind key claimed version)

/-- `aggregate_stream_exists`. -/
def reapProbe (w : World) (r : ReaperId) (kind : ReservationKind) (key : String) (claimed : Uuid)
    (version : Nat) : World :=
  w.setReaper r
    (if (w.streams ⟨kind, claimed⟩).isEmpty then .writing kind key claimed version .orphan
     else .verifying kind key claimed version)

/-- `verify_realized_key`: decided on the aggregate's first event. -/
def reapVerify (pairHash : PairHash) (w : World) (r : ReaperId) (kind : ReservationKind)
    (key : String) (claimed : Uuid) (version : Nat) : World :=
  w.setReaper r
    (match (w.streams ⟨kind, claimed⟩).head?.bind (kind.createdKey pairHash) with
     | none => .idle
     | some realized =>
       .writing kind key claimed version (if realized = key then .matching else .mismatch))

/-- The lifecycle event a verdict leads to. -/
def Verdict.event (claimed : Uuid) : Verdict → ReservationEvent
  | .matching => .consumed claimed
  | .orphan | .mismatch => .released claimed

/-- `consume` or `release` at the version that was read. -/
def reapWrite (w : World) (r : ReaperId) (key : String) (claimed : Uuid) (version : Nat)
    (verdict : Verdict) (outcome : AppendOutcome) : World :=
  let (log, _) := appendLifecycle (w.reservations key) (.exact version)
    ⟨verdict.event claimed, w.now⟩ outcome
  (w.setReservation key log).setReaper r .idle

/-! ## §5. The transition system -/

/-- What can happen, in any order. -/
inductive Action
  /-- Time passes. -/
  | tick (seconds : Nat)
  /-- A create request arrives at an instance. -/
  | spawn (c : CallId) (i : InstanceId) (req : CreateRequest)
  | reserveAppend (c : CallId) (outcome : AppendOutcome)
  | reserveClassify (c : CallId) (readOk : Bool)
  | executeAttempt (c : CallId) (outcome : AppendOutcome)
  | resyncActor (c : CallId)
  | compensate (c : CallId) (outcome : AppendOutcome)
  /-- The request is dropped or its instance crashes. -/
  | giveUp (c : CallId)
  /-- An actor is stopped (evicted, crashed). -/
  | stopActor (i : InstanceId) (a : AggregateRef)
  /-- Some other command on one of the aggregates. -/
  | executeOther (i : InstanceId) (a : AggregateRef) (expected : ExpectedVersion)
      (cmd : a.kind.Command) (outcome : AppendOutcome)
  | reapRead (r : ReaperId) (key : String) (claimed : Uuid)
  | reapCheck (r : ReaperId)
  | reapProbe (r : ReaperId)
  | reapVerify (r : ReaperId)
  | reapWrite (r : ReaperId) (outcome : AppendOutcome)
  /-- A store access of the reaper failed; the candidate waits for the next pass. -/
  | reapFail (r : ReaperId)

/-- One action. `none`: the action is not enabled. -/
def step (claimTtl : Nat) (pairHash : PairHash) (w : World) : Action → Option World
  | .tick seconds => some { w with now := w.now + seconds }
  | .spawn c i req =>
    match w.calls c with
    | some _ => none
    | none => some (w.setCall c ⟨i, req, .appending 0 none⟩)
  | .reserveAppend c outcome =>
    match w.calls c with
    | some ⟨i, req, .appending n casAt⟩ =>
      some (reserveAppend pairHash w c ⟨i, req, .appending n casAt⟩ n casAt outcome)
    | _ => none
  | .reserveClassify c readOk =>
    match w.calls c with
    | some ⟨i, req, .classifying n⟩ =>
      some (reserveClassify pairHash w c ⟨i, req, .classifying n⟩ n readOk)
    | _ => none
  | .executeAttempt c outcome =>
    match w.calls c with
    | some ⟨i, req, .executing claim at_ n⟩ =>
      some (executeAttempt w c ⟨i, req, .executing claim at_ n⟩ claim at_ n outcome)
    | _ => none
  | .resyncActor c =>
    match w.calls c with
    | some ⟨i, req, .resyncing claim at_ n⟩ =>
      some (resyncActor w c ⟨i, req, .resyncing claim at_ n⟩ claim at_ n)
    | _ => none
  | .compensate c outcome =>
    match w.calls c with
    | some ⟨i, req, .compensating claim result⟩ =>
      some (compensate w c ⟨i, req, .compensating claim result⟩ claim result outcome)
    | _ => none
  | .giveUp c =>
    match w.calls c with
    | some call => some (w.setCall c { call with phase := .finished .gaveUp })
    | none => none
  | .stopActor i a => some (w.setActor i a none)
  | .executeOther i a expected cmd outcome =>
    if a.kind.isCreate cmd then none else some (executeOther w i a expected cmd outcome)
  | .reapRead r key claimed =>
    match w.reapers r with
    | .idle => some (reapRead w r key claimed)
    | _ => none
  | .reapCheck r =>
    match w.reapers r with
    | .loaded kind key claimed version state =>
      some (reapCheck claimTtl w r kind key claimed version state)
    | _ => none
  | .reapProbe r =>
    match w.reapers r with
    | .probing kind key claimed version => some (reapProbe w r kind key claimed version)
    | _ => none
  | .reapVerify r =>
    match w.reapers r with
    | .verifying kind key claimed version => some (reapVerify pairHash w r kind key claimed version)
    | _ => none
  | .reapWrite r outcome =>
    match w.reapers r with
    | .writing _ key claimed version verdict =>
      some (reapWrite w r key claimed version verdict outcome)
    | _ => none
  | .reapFail r => some (w.setReaper r .idle)

end Breakdown.Reservations
