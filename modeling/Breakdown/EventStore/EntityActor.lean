/-
**THE ACTOR THAT EXECUTES COMMANDS ON ONE STREAM**
(`.patches/kameo_es/src/entity_actor.rs`, `command_service.rs`).

Each API instance keeps an actor per stream. The actor answers from a CACHED fold of the stream,
appends at the cached version, and reloads only when it starts or when one of its own appends hits
a version conflict. The cache is a `Snapshot` that follows the stream but may lag behind it.

- `EntityActorState.execute`: one decision on the cached state (version check, idempotency hook,
  handler);
- `attempt`: one decision plus its append;
- `handleExecute`: the conflict-retry loop;
- `handleExecute_cases`: whatever the loop appended was decided on the WHOLE stream.
-/
import Breakdown.Lib.EventLog
import Breakdown.Shared

namespace Breakdown

open EventLog

/-! ## §1. Entities -/

/-- An event-sourced entity: its state folds events, its handler turns a command into events. -/
class Entity (σ : Type) (ε κ χ : outParam Type) where
  /-- `Default::default()`: the state of a stream without events. -/
  init : σ
  /-- `Apply::apply`. -/
  apply : σ → ε → σ
  /-- `Command::handle`. -/
  handle : σ → κ → Except χ (List ε)
  /-- `Command::is_state_idempotent`: the command's effect is already in the state. -/
  isStateIdempotent : σ → κ → Bool := fun _ _ => false

/-- One API process. -/
abbrev InstanceId := Nat

/-- One call to an adapter. -/
abbrev CallId := Nat

/-- `EntityActorState`: the cached entity and the version it is cached at. -/
abbrev EntityActorState (σ : Type) := Snapshot σ

/-- `ExecuteError`. -/
inductive ExecuteError (χ : Type)
  /-- The handler rejected the command. -/
  | handle (error : χ)
  /-- The cached version does not meet the caller's expectation. -/
  | incorrectExpectedVersion (current : CurrentVersion) (expected : ExpectedVersion)
  /-- The append conflicted once more than the retry budget allows. -/
  | tooManyConflicts
  /-- Any other failure reported by the store or the actor system. It does NOT say whether the
      events were appended. -/
  | database
  deriving DecidableEq

/-- `ExecuteResult` (`AppendedEvent` reduced to the stream version and the event). -/
inductive ExecuteResult (ε : Type)
  | executed (events : List (Nat × ε))
  | idempotent (currentVersion : CurrentVersion)

/-- What a command execution answers. -/
abbrev Reply (ε χ : Type) := Except (ExecuteError χ) (ExecuteResult ε)

section

variable {σ ε κ χ : Type} [Entity σ ε κ χ]

/-- The cached state after loading a whole stream (`on_start`). -/
def EntityActorState.load (σ : Type) {ε κ χ : Type} [Entity σ ε κ χ] (log : List ε) :
    EntityActorState σ :=
  Snapshot.load Entity.apply Entity.init log

/-- The entity a stream stands for. -/
def Entity.replay (σ : Type) {ε κ χ : Type} [Entity σ ε κ χ] (log : List ε) : σ :=
  Snapshot.replay Entity.apply Entity.init log

/-- The cached state is the fold of a prefix of the stream. -/
def EntityActorState.Follows (st : EntityActorState σ) (log : List ε) : Prop :=
  Snapshot.Follows Entity.apply Entity.init st log

/-- `resync_with_db`: read the stream from the cached version on. -/
def EntityActorState.resync (st : EntityActorState σ) (log : List ε) : EntityActorState σ :=
  Snapshot.catchUp Entity.apply st log

@[simp] theorem load_entity (log) :
    (EntityActorState.load σ log).entity = Entity.replay σ log := rfl

@[simp] theorem load_version (log) : (EntityActorState.load σ log).version = versionOf log := rfl

@[simp] theorem replay_nil : Entity.replay σ ([] : List ε) = Entity.init := rfl

@[simp] theorem replay_append (log events) :
    Entity.replay σ (log ++ events) = events.foldl Entity.apply (Entity.replay σ log) :=
  Snapshot.replay_append ..

theorem EntityActorState.follows_load (log) : (EntityActorState.load σ log).Follows log :=
  Snapshot.follows_load log

variable {st st' : EntityActorState σ} {log log' : List ε} {expected : ExpectedVersion} {cmd : κ}

theorem EntityActorState.Follows.resync_eq (h : st.Follows log) :
    st.resync log = EntityActorState.load σ log :=
  Snapshot.Follows.catchUp_eq h

theorem EntityActorState.Follows.append (h : st.Follows log) (events) : st.Follows (log ++ events) :=
  Snapshot.Follows.append h events

/-! ## §2. One decision -/

/-- `EntityActorState::execute`: the expected version is checked against the CACHED version first,
then the idempotency hook, then the handler. `none` is the idempotent answer. -/
def EntityActorState.execute (st : EntityActorState σ) (expected : ExpectedVersion) (cmd : κ) :
    Except (ExecuteError χ) (Option (List ε)) :=
  if !expected.isSatisfiedBy st.version then
    .error (.incorrectExpectedVersion st.version expected)
  else if Entity.isStateIdempotent st.entity cmd then
    .ok none
  else
    match Entity.handle st.entity cmd with
    | .error e => .error (.handle e)
    | .ok events => .ok (some events)

/-- Everything a decision for events says about the cached state. -/
theorem EntityActorState.execute_eq_events (h : st.execute expected cmd = .ok (some events)) :
    expected.isSatisfiedBy st.version ∧ Entity.isStateIdempotent st.entity cmd = false ∧
      Entity.handle st.entity cmd = .ok events := by
  unfold EntityActorState.execute at h
  split at h
  · cases h
  · next hv =>
    split at h
    · cases h
    · next hi =>
      split at h
      · cases h
      · next evs hh =>
        cases h
        exact ⟨by simpa using hv, by simpa using hi, hh⟩

/-- What the store does with an append that meets its expected version. -/
inductive AppendOutcome
  /-- Appended and acknowledged. -/
  | acknowledged
  /-- Appended, but the writer is told of a failure. -/
  | lostAck
  /-- Not appended, and the writer is told of a failure. -/
  | failed
  deriving DecidableEq

/-- The result of one decision together with its append. -/
inductive Attempt (σ ε χ : Type)
  /-- Answered; the cached state and the stream are as given. -/
  | done (st : EntityActorState σ) (log : List ε) (reply : Reply ε χ)
  /-- The append met a version conflict. -/
  | conflict

/-- The events with the stream versions they got. -/
def numbered (start : Nat) (events : List ε) : List (Nat × ε) :=
  events.zipIdx start |>.map fun (e, i) => (i, e)

/-- One pass of the loop in `Message<Execute>::handle`: decide on the cached state, then append at
the cached version. -/
def attempt (st : EntityActorState σ) (log : List ε) (expected : ExpectedVersion) (cmd : κ)
    (outcome : AppendOutcome) : Attempt σ ε χ :=
  match st.execute expected cmd with
  | .error e => .done st log (.error e)
  | .ok none => .done st log (.ok (.idempotent st.version))
  | .ok (some events) =>
    if events.isEmpty then .done st log (.ok (.executed []))
    else match tryAppend log st.version.asExpectedVersion events with
      | none => .conflict
      | some log' =>
        match outcome with
        | .acknowledged =>
          .done (Snapshot.advance Entity.apply st events) log'
            (.ok (.executed (numbered st.version.next events)))
        -- an unacknowledged append leaves the cache as it was
        | .lostAck => .done st log' (.error .database)
        | .failed => .done st log (.error .database)

/-- `conflict_reties`. -/
def conflictRetries : Nat := 5

/-- `Message<Execute>::handle`: retry on a version conflict after re-reading the stream, at most
`retries` times. The version expectation is checked again on every pass. -/
def handleExecute (st : EntityActorState σ) (log : List ε) (expected : ExpectedVersion) (cmd : κ)
    (outcome : AppendOutcome) : (retries : Nat) → EntityActorState σ × List ε × Reply ε χ
  | 0 =>
    match attempt st log expected cmd outcome with
    | .done st' log' reply => (st', log', reply)
    | .conflict => (st, log, .error .tooManyConflicts)
  | n + 1 =>
    match attempt st log expected cmd outcome with
    | .done st' log' reply => (st', log', reply)
    | .conflict => handleExecute (st.resync log) log expected cmd outcome n

/-! ## §3. What an attempt can do -/

/-- On the stream as it stands, `cmd` under the expectation `expected` is decided with `events`. -/
structure Decided (σ : Type) {ε κ χ : Type} [Entity σ ε κ χ] (log : List ε)
    (expected : ExpectedVersion) (cmd : κ) (events : List ε) : Prop where
  satisfied : expected.isSatisfiedBy (versionOf log) = true
  notIdempotent : Entity.isStateIdempotent (Entity.replay σ log) cmd = false
  handled : Entity.handle (Entity.replay σ log) cmd = .ok events
  nonempty : events ≠ []

variable {outcome : AppendOutcome}

/-- What an attempt that ends the loop did: nothing to the stream, or it appended the events that
the WHOLE stream decides. -/
theorem attempt_done (hf : st.Follows log)
    (h : attempt st log expected cmd outcome = .done st' log' reply) :
    (st' = st ∧ log' = log ∧ ∀ evs, reply = .ok (.executed evs) → evs = []) ∨
      ∃ events, Decided σ log expected cmd events ∧ log' = log ++ events ∧
        ((st' = EntityActorState.load σ log' ∧
            reply = .ok (.executed (numbered log.length events))) ∨
          (st' = st ∧ reply = .error .database)) := by
  unfold attempt at h
  split at h
  · cases h
    exact .inl ⟨rfl, rfl, by simp⟩
  · cases h
    exact .inl ⟨rfl, rfl, by simp⟩
  · next events hex =>
    obtain ⟨hsat, hidem, hh⟩ := EntityActorState.execute_eq_events hex
    split at h
    · cases h
      exact .inl ⟨rfl, rfl, by simp⟩
    · next hne =>
      split at h
      · cases h
      · next log₁ happ =>
        -- the append went through, so the cache was the whole stream
        obtain ⟨hst, hlog⟩ := Snapshot.Follows.eq_of_tryAppend hf happ
        have hdec : Decided σ log expected cmd events := by
          rw [hst] at hsat hidem hh
          exact ⟨hsat, hidem, hh, by simpa using hne⟩
        have hadv := Snapshot.Follows.advance_of_tryAppend hf happ
        have hnext : st.version.next = log.length := by rw [hst]; exact versionOf_next log
        subst hlog
        split at h
        · cases h
          exact .inr ⟨events, hdec, rfl, .inl ⟨hadv, by rw [hnext]⟩⟩
        · cases h
          exact .inr ⟨events, hdec, rfl, .inr ⟨rfl, rfl⟩⟩
        · cases h
          exact .inl ⟨rfl, rfl, by simp⟩

/-- A handler rejection is the decision of the cached state; nothing was appended. -/
theorem attempt_handle_error
    (h : attempt st log expected cmd outcome = .done st' log' (.error (.handle e))) :
    st.execute expected cmd = .error (.handle e) := by
  unfold attempt at h
  split at h
  · next hex =>
    cases h
    exact hex
  · cases h
  · split at h
    · cases h
    · split at h
      · cases h
      · split at h <;> cases h

/-- The idempotent answer comes from the hook, on the cached state. -/
theorem attempt_idempotent (h : attempt st log expected cmd outcome =
      (.done st' log' (.ok (.idempotent version)) : Attempt σ ε χ)) :
    Entity.isStateIdempotent st.entity cmd := by
  unfold attempt at h
  split at h
  · cases h
  · next hex =>
    unfold EntityActorState.execute at hex
    split at hex
    · cases hex
    · split at hex
      · next hi => exact hi
      · split at hex <;> cases hex
  · split at h
    · cases h
    · split at h
      · cases h
      · split at h <;> cases h

/-- Events that were appended although the writer is told of a failure: the acknowledgement was
lost. -/
theorem attempt_lostAck (h : attempt st log expected cmd outcome = .done st' log' (.error e))
    (hne : log' ≠ log) : outcome = .lostAck := by
  unfold attempt at h
  split at h
  · cases h
    exact absurd rfl hne
  · cases h
  · split at h
    · cases h
    · split at h
      · cases h
      · split at h
        · cases h
        · rfl
        · cases h
          exact absurd rfl hne

/-! ## §4. What the retry loop can do -/

/-- **WHAT A COMMAND EXECUTION CAN DO.** It leaves the stream alone, or it appends the events that
the command is decided with on the whole stream; the cache follows the stream afterwards. -/
theorem handleExecute_cases :
    ∀ (retries : Nat) {st st' : EntityActorState σ} {log log' : List ε} {reply : Reply ε χ},
      st.Follows log → handleExecute st log expected cmd outcome retries = (st', log', reply) →
      (st'.Follows log ∧ log' = log ∧ ∀ evs, reply = .ok (.executed evs) → evs = []) ∨
        ∃ events, Decided σ log expected cmd events ∧ log' = log ++ events ∧ st'.Follows log' ∧
          (reply = .ok (.executed (numbered log.length events)) ∨ reply = .error .database) := by
  -- both passes that end the loop are settled by `attempt_done`
  have hdone : ∀ {st st' : EntityActorState σ} {log log' : List ε} {reply : Reply ε χ},
      st.Follows log → attempt st log expected cmd outcome = .done st' log' reply →
      (st'.Follows log ∧ log' = log ∧ ∀ evs, reply = .ok (.executed evs) → evs = []) ∨
        ∃ events, Decided σ log expected cmd events ∧ log' = log ++ events ∧ st'.Follows log' ∧
          (reply = .ok (.executed (numbered log.length events)) ∨ reply = .error .database) := by
    intro st st' log log' reply hf ha
    obtain ⟨rfl, rfl, hr⟩ | ⟨events, hdec, rfl, ⟨rfl, hr⟩ | ⟨rfl, hr⟩⟩ := attempt_done hf ha
    · exact .inl ⟨hf, rfl, hr⟩
    · exact .inr ⟨events, hdec, rfl, EntityActorState.follows_load _, .inl hr⟩
    · exact .inr ⟨events, hdec, rfl, hf.append events, .inr hr⟩
  intro retries
  induction retries with
  | zero =>
    intro st st' log log' reply hf h
    unfold handleExecute at h
    split at h
    · next ha =>
      cases h
      exact hdone hf ha
    · cases h
      exact .inl ⟨hf, rfl, by simp⟩
  | succ n ih =>
    intro st st' log log' reply hf h
    unfold handleExecute at h
    split at h
    · next ha =>
      cases h
      exact hdone hf ha
    · rw [hf.resync_eq] at h
      exact ih (EntityActorState.follows_load log) h

/-- What holds of every pass that ends the loop holds of the loop's result. -/
theorem handleExecute_done (P : List ε → Reply ε χ → Prop)
    (hdone : ∀ {st st' : EntityActorState σ} {log' : List ε} {reply : Reply ε χ},
      attempt st log expected cmd outcome = .done st' log' reply → P log' reply)
    (hconflicts : P log (.error .tooManyConflicts)) : ∀ (retries : Nat) (st : EntityActorState σ),
      P (handleExecute st log expected cmd outcome retries).2.1
        (handleExecute st log expected cmd outcome retries).2.2 := by
  intro retries
  induction retries with
  | zero =>
    intro st
    unfold handleExecute
    split
    · next ha => exact hdone ha
    · exact hconflicts
  | succ n ih =>
    intro st
    unfold handleExecute
    split
    · next ha => exact hdone ha
    · exact ih (st.resync log)

end

end Breakdown
