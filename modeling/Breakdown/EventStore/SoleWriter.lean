/-
**COMMANDS OF A PROCESS THAT IS THE ONLY WRITER OF A STREAM.**

While nobody else appends to a stream, the actor of the process is always at its end: what the
actor decides on is the whole stream, and its append never conflicts. The two dispatches of the
command adapters then are functions of the stream: a create expects it to be empty, an update
expects exactly the version it was made for.

- `executeOn_eq`: version check, idempotency hook, handler, in this order (`decideOn`);
- `executeAt_eq`: the same for one of many actors, as long as it has seen the whole stream;
- `executeAt_any`: a lagging actor gets a command through that has no expectation;
- `create_empty`, `create_taken`: a create on a fresh stream, and on one that exists;
- `update_stale`, `update_current`: an update for another version, and for the current one.
-/
import Breakdown.EventStore.ActorSystem
import Breakdown.EventStore.CommandAdapters

namespace Breakdown.SoleWriter

open EventLog Fallible List Entity EntityActorState ExpectedVersion

variable {σ ε κ χ : Type} [Entity σ ε κ χ]

/-- `Message<Execute>::handle` of an actor at the end of its stream. -/
def executeOn (σ : Type) {ε κ χ : Type} [Entity σ ε κ χ] (log : List ε) (expected : ExpectedVersion)
    (cmd : κ) : List ε × Reply ε χ :=
  (handleExecute (load σ log) log expected cmd .acknowledged conflictRetries).2

/-- The adapter of a create command: the stream has to be empty. -/
def create (σ : Type) {ε κ χ : Type} [Entity σ ε κ χ] [IntoDomainError χ] (cmd : κ)
    (log : List ε) : List ε × Except DomainError AggregateVersion :=
  let executed := executeOn σ log .empty cmd
  (executed.1, mapExecutedResult executed.2)

/-- The adapter of an update command: the stream has to be at `version`. -/
def update (σ : Type) {ε κ χ : Type} [Entity σ ε κ χ] [IntoDomainError χ]
    (version : AggregateVersion) (cmd : κ) (log : List ε) :
    List ε × Except DomainError AggregateVersion :=
  match exactly version with
  | .error e => (log, .error e)
  | .ok expected =>
    let executed := executeOn σ log expected cmd
    (executed.1, mapExecutedResult executed.2)

/-- The adapter of an update command that may have nothing to do. -/
def updateOrNoop (σ : Type) {ε κ χ : Type} [Entity σ ε κ χ] [IntoDomainError χ]
    (version : AggregateVersion) (cmd : κ) (log : List ε) :
    List ε × Except DomainError AggregateVersion :=
  match exactly version with
  | .error e => (log, .error e)
  | .ok expected =>
    let executed := executeOn σ log expected cmd
    (executed.1, mapStateBasedNoop executed.2 version)

/-- What a command does to a stream it is decided on as a whole. -/
def decideOn (σ : Type) {ε κ χ : Type} [Entity σ ε κ χ] (log : List ε) (expected : ExpectedVersion)
    (cmd : κ) : List ε × Reply ε χ :=
  if expected.isSatisfiedBy (versionOf log) then
    if Entity.isStateIdempotent (Entity.replay σ log) cmd then
      (log, .ok (.idempotent (versionOf log)))
    else
      match Entity.handle (Entity.replay σ log) cmd with
      | .error e => (log, .error (.handle e))
      | .ok events => (log ++ events, .ok (.executed (numbered log.length events)))
  else (log, .error (.incorrectExpectedVersion (versionOf log) expected))

theorem attempt_load (log expected cmd) :
    ∃ st, attempt (load σ log) log expected cmd .acknowledged =
      .done st (decideOn σ log expected cmd).1 (decideOn σ log expected cmd).2 := by
  have hself := (isSatisfiedBy_asExpectedVersion (versionOf log) (versionOf log)).2 rfl
  simp only [attempt, execute, decideOn, load_entity, load_version]
  by_cases hsat : expected.isSatisfiedBy (versionOf log) = true
  · by_cases hidem : isStateIdempotent (replay σ log) cmd = true
    · exact ⟨_, by simp [hsat, hidem]; rfl⟩
    · cases hhandle : handle (replay σ log) cmd with
      | error => exact ⟨_, by simp [hsat, hidem]; rfl⟩
      | ok events =>
        cases events with
        | nil => exact ⟨_, by simp [hsat, hidem, numbered]; rfl⟩
        | cons => exact ⟨_, by simp [hsat, hidem, tryAppend, hself]; rfl⟩
  · exact ⟨_, by simp [hsat]; rfl⟩

/-- The first attempt settles it. -/
theorem executeOn_eq (log expected cmd) :
    executeOn σ log expected cmd = decideOn σ log expected cmd := by
  obtain ⟨st, hattempt⟩ := attempt_load (σ := σ) log expected cmd
  simp only [executeOn, conflictRetries, handleExecute, hattempt]

/-- An actor that has seen the whole stream decides on it as the only writer would. -/
theorem executeAt_eq {ι : Type} [DecidableEq ι] {s : ActorSystem ι σ} {id}
    (hcurrent : (s.actorOrStart i id).version = versionOf (s.streams id)) (expected cmd) :
    (s.executeAt i id expected cmd .acknowledged).1.streams =
        Function.update s.streams id (decideOn σ (s.streams id) expected cmd).1 ∧
      (s.executeAt i id expected cmd .acknowledged).2 = (decideOn σ (s.streams id) expected cmd).2 := by
  have hload : s.actorOrStart i id = load σ (s.streams id) :=
    Snapshot.Follows.eq_load (s.actorOrStart_follows i id) hcurrent
  rw [← executeOn_eq, executeOn, ← hload]
  exact ⟨rfl, rfl⟩

variable {cmd : κ} {log : List ε}

/-- A command that is accepted is answered with success, unless its append conflicts. -/
theorem attempt_any (st : EntityActorState σ) (log : List ε)
    (hhandle : handle st.entity cmd = .ok events) :
    attempt st log .any cmd .acknowledged = .conflict ∨
      ∃ st' log' result, attempt st log .any cmd .acknowledged = .done st' log' (.ok result) ∧
        (result = .executed [] → events = []) := by
  unfold attempt execute
  simp only [isSatisfiedBy_any, Bool.not_true, Bool.false_eq_true, if_false, hhandle]
  by_cases hidem : isStateIdempotent st.entity cmd = true
  · simp only [hidem, if_true]
    exact .inr ⟨_, _, _, rfl, nofun⟩
  · simp only [hidem, Bool.false_eq_true, if_false]
    by_cases hempty : events.isEmpty = true
    · simp only [hempty, if_true]
      exact .inr ⟨_, _, _, rfl, fun _ => isEmpty_iff.1 hempty⟩
    · simp only [hempty, Bool.false_eq_true, if_false]
      cases tryAppend log st.version.asExpectedVersion events with
      | none => exact .inl rfl
      | some => exact .inr ⟨_, _, _, rfl, by simp [numbered]⟩

/-- **A COMMAND WITHOUT AN EXPECTATION THAT THE STREAM NEVER REFUSED SUCCEEDS**, however far the actor
lags: the append of a decision on an old state conflicts, and the actor reads up and decides
again. It succeeds without events only if some state of the stream has none for it. -/
theorem executeAt_any {ι : Type} [DecidableEq ι] {s : ActorSystem ι σ} {id}
    (hhandle : ∀ seen, seen <+: s.streams id →
      ∃ events, handle (replay σ seen) cmd = .ok events) (i : InstanceId) :
    ∃ result, (s.executeAt i id .any cmd .acknowledged).2 = .ok result ∧ (result = .executed [] →
        ∃ seen, seen <+: s.streams id ∧ handle (replay σ seen) cmd = .ok []) := by
  have hfollows := s.actorOrStart_follows i id
  obtain ⟨seen, hseen, hactor⟩ := s.actorOrStart_follows i id
  have hentity : (s.actorOrStart i id).entity = replay σ seen := by
    rw [hactor]
    rfl
  obtain ⟨events, hevents⟩ := hhandle seen hseen
  rw [← hentity] at hevents
  show ∃ result, (handleExecute (s.actorOrStart i id) (s.streams id) .any cmd .acknowledged
    (4 + 1)).2.2 = .ok result ∧ _
  unfold handleExecute
  obtain hconflict | ⟨st', log', result, hdone, hempty⟩ :=
    attempt_any (s.actorOrStart i id) (s.streams id) hevents
  · -- the second pass decides on the whole stream
    rw [hconflict]
    dsimp only
    rw [hfollows.resync_eq]
    obtain ⟨events', hevents'⟩ := hhandle _ prefix_rfl
    obtain ⟨st, hload⟩ := attempt_load (σ := σ) (s.streams id) .any cmd
    obtain hconflict' | ⟨st', log', result, hdone, hempty⟩ :=
      attempt_any (.load σ (s.streams id)) (s.streams id) hevents'
    · rw [hload] at hconflict'
      cases hconflict'
    · rw [show (4 : Nat) = 3 + 1 from rfl, handleExecute, hdone]
      refine ⟨result, rfl, fun hresult => ⟨s.streams id, prefix_rfl, ?_⟩⟩
      rw [hevents', hempty hresult]
  · rw [hdone]
    refine ⟨result, rfl, fun hresult => ⟨seen, hseen, ?_⟩⟩
    rw [← hentity, hevents, hempty hresult]

variable [IntoDomainError χ]

/-- A create on a fresh stream that the handler accepts with one event. -/
theorem create_empty (hidem : isStateIdempotent (init : σ) cmd = false)
    (hhandle : handle (init : σ) cmd = .ok [e]) : create σ cmd ([] : List ε) = ([e], .ok 1) := by
  simp [create, executeOn_eq, decideOn, hidem, hhandle, numbered, mapExecutedResult, streamToDomain]

/-- A create on a stream that exists reports its version and leaves it alone. -/
theorem create_taken (hne : log ≠ []) :
    create σ cmd log = (log, .error (.versionConflict 0 log.length)) := by
  have hunsat : isSatisfiedBy .empty (versionOf log) = false := by
    rw [Bool.eq_false_iff]
    simpa using hne
  obtain ⟨e, rest, rfl⟩ := exists_cons_of_ne_nil hne
  simp only [create, executeOn_eq, decideOn, hunsat, Bool.false_eq_true, if_false, mapExecutedResult]
  rfl

/-- An update made for another version than the stream's is refused. -/
theorem update_stale (cmd) (hstale : version ≠ log.length ∨ version = 0) :
    ∃ current, update σ version cmd log = (log, .error (.versionConflict 0 current)) := by
  by_cases hzero : version = 0
  · subst hzero
    exact ⟨0, rfl⟩
  · have hexact : exactly version = .ok (.exact (version - 1)) := by
      simp [exactly, domainToStreamChecked, checkNonzeroVersion, hzero]
    have hunsat : isSatisfiedBy (.exact (version - 1)) (versionOf log) = false := by
      rw [Bool.eq_false_iff]
      simp only [ne_eq, isSatisfiedBy_exact, versionOf_eq_current]
      omega
    refine ⟨versionFromCurrent (versionOf log), ?_⟩
    simp only [update, hexact, executeOn_eq, decideOn, hunsat, Bool.false_eq_true, if_false,
      mapExecutedResult]

/-- An update made for the stream's version is decided by the hook and the handler. -/
theorem update_current (hversion : version = log.length) (hne : version ≠ 0) :
    update σ version cmd log = if isStateIdempotent (replay σ log) cmd then (log, .ok version) else
        match handle (replay σ log) cmd with
        | .error e => (log, .error (IntoDomainError.intoDomainError e))
        | .ok events => (log ++ events, mapExecutedResult (χ := χ)
            (.ok (.executed (numbered log.length events)))) := by
  have hexact : exactly version = .ok (.exact (version - 1)) := by
    simp [exactly, domainToStreamChecked, checkNonzeroVersion, hne]
  have hsat : isSatisfiedBy (.exact (version - 1)) (versionOf log) = true := by
    simp only [isSatisfiedBy_exact, versionOf_eq_current]
    omega
  have hcurrent : versionFromCurrent (versionOf log) = version := by
    cases log with
    | nil => exact absurd hversion hne
    | cons => exact hversion.symm
  simp only [update, hexact, executeOn_eq, decideOn, hsat, if_true]
  by_cases hidem : isStateIdempotent (replay σ log) cmd = true
  · simp [hidem, mapExecutedResult, hcurrent]
  · cases hhandle : handle (replay σ log) cmd with
    | error => simp [hidem, mapExecutedResult]
    | ok => simp [hidem]

/-- An accepted update with one event. -/
theorem update_appends (hversion : version = log.length) (hne : version ≠ 0)
    (hidem : isStateIdempotent (replay σ log) cmd = false)
    (hhandle : handle (replay σ log) cmd = .ok [e]) :
    update σ version cmd log = (log ++ [e], .ok (log.length + 1)) := by
  rw [update_current hversion hne, hidem, hhandle]
  rfl

end Breakdown.SoleWriter
