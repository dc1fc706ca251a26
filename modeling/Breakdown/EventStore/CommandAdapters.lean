/-
**FROM ACTOR REPLIES TO DOMAIN RESULTS**
(`infra/src/event_store/command_adapters.rs`).

Creates expect an empty stream. Updates translate the 1-based domain version into the 0-based
stream version and expect exactly that; the reply is mapped back.
-/
import Breakdown.EventStore.EntityActor
import Breakdown.Lib.Fallible

namespace Breakdown

open EventLog Fallible

/-- `stream_to_domain`. -/
def streamToDomain (streamVersion : Nat) : AggregateVersion := streamVersion + 1

/-- `domain_to_stream`. -/
def domainToStream (version : AggregateVersion) : Option Nat :=
  if version = 0 then none else some (version - 1)

/-- `check_nonzero_version`. -/
def checkNonzeroVersion (version : AggregateVersion) : Except DomainError Unit :=
  ensure (version ≠ 0) (.versionConflict 0 0)

/-- `domain_to_stream_checked`. -/
def domainToStreamChecked (version : AggregateVersion) : Except DomainError Nat := do
  checkNonzeroVersion version
  .ok (version - 1)

/-- How an update adapter turns the version it was made for into an expectation. -/
def exactly (version : AggregateVersion) : Except DomainError ExpectedVersion := do
  checkNonzeroVersion version
  let streamVersion ← domainToStreamChecked version
  .ok (.exact streamVersion)

/-- An update never goes to an empty stream. -/
theorem exactly_ne_nil (h : exactly version = .ok expected)
    (hsat : expected.isSatisfiedBy (versionOf log)) : log ≠ [] := by
  simp only [exactly, seq_eq_ok] at h
  obtain ⟨-, -, streamVersion, -, hexp⟩ := h
  cases hexp
  rintro rfl
  simp at hsat

/-- `version_from_current`: an empty stream has no domain version yet. -/
def versionFromCurrent : CurrentVersion → AggregateVersion
  | .current v => streamToDomain v
  | .empty => 0

/-- What a store failure other than a version conflict is answered with. The text is the store
client's; which one it is never matters. -/
def storeFailure : DomainError := .conflict .domainConflict "store failure"

/-- `map_executed_result`, without the id it passes through. -/
def mapExecutedResult {ε χ : Type} [IntoDomainError χ] :
    Reply ε χ → Except DomainError AggregateVersion
  | .ok (.executed events) =>
    match events.getLast? with
    | some (streamVersion, _) => .ok (streamToDomain streamVersion)
    | none => .error (.conflict .domainConflict "command produced no events")
  | .ok (.idempotent currentVersion) => .ok (versionFromCurrent currentVersion)
  | .error (.handle e) => .error (IntoDomainError.intoDomainError e)
  | .error (.incorrectExpectedVersion current _) =>
    .error (.versionConflict 0 (versionFromCurrent current))
  | .error .tooManyConflicts => .error (.conflict .domainConflict "too many write conflicts")
  | .error .database => .error storeFailure

/-- A failed command is answered with an error. -/
theorem mapExecutedResult_error [IntoDomainError χ] (e) :
    ∃ e', mapExecutedResult (.error e : Reply ε χ) = .error e' := by
  cases e <;> exact ⟨_, rfl⟩

/-- `map_state_based_noop`: a command without events answers the version it was made for. -/
def mapStateBasedNoop {ε χ : Type} [IntoDomainError χ] (reply : Reply ε χ)
    (version : AggregateVersion) : Except DomainError AggregateVersion :=
  match reply with
  | .ok (.executed []) => .ok version
  | other => mapExecutedResult other

end Breakdown
