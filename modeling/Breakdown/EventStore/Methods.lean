/-
**THE METHODS OF THE COMMAND ADAPTERS, AND COMMANDS WITHOUT EFFECT**
(`infra/src/event_store/command_adapters.rs`).

A command that would change nothing is answered in one of two ways: its idempotency hook says so
before the handler runs, or the handler returns no events. The actor reports the first as
`Idempotent`, the second as `Executed` with an empty list. `map_version_only` turns an empty list
into a conflict; `map_state_based_noop` answers it with the version the caller named.

- `callMethod`: a method of an adapter, with the check it may begin with;
- `NoopCall.call`: what a call of a command without effect does with the current version;
- `noopsAnswered`: a command without effect is answered with the current version exactly if
  the actor has seen the stream and the command is not one of the `refused` ones.
-/
import Breakdown.EventStore.Histories

namespace Breakdown

open EventLog Fallible Versioned Entity EntityActorState

/-! ## §1. Methods -/

/-- What a method does with the reply of the actor. -/
inductive ReplyMapping
  /-- `map_version_only`, `map_executed`. -/
  | executedResult
  /-- `map_state_based_noop`, or the same match written out in the method. -/
  | stateBasedNoop

/-- A method of a command adapter. -/
structure Method where
  mapping : ReplyMapping := .executedResult
  /-- It locks a shooting day first and may look whether it is wrapped. -/
  checksDay : Bool := false

section

variable {σ ε κ χ : Type} [Entity σ ε κ χ]

def ReplyMapping.answer [IntoDomainError χ] (mapping : ReplyMapping) (version : AggregateVersion)
    (reply : Reply ε χ) : Except DomainError AggregateVersion :=
  match mapping with
  | .executedResult => mapExecutedResult reply
  | .stateBasedNoop => mapStateBasedNoop reply version

/-- The version a call names. -/
def namedVersion (σ : Type) {ε κ χ : Type} [Entity σ ε κ χ] [Versioned σ ε κ χ] (cmd : κ) :
    AggregateVersion :=
  match dispatching σ cmd with
  | .update version => version
  | _ => 0

/-- A method, called with a command. `check` is what its check of the day says. -/
def callMethod [Versioned σ ε κ χ] [IntoDomainError χ] (method : Method)
    (check : Except DomainError Unit) (st : EntityActorState σ) (log : List ε) (cmd : κ)
    (outcome : AppendOutcome) (retries : Nat) : List ε × Except DomainError AggregateVersion :=
  -- `lock_day` and `ensure_day_open` come before the command is sent
  match if method.checksDay then check else .ok () with
  | .error e => (log, .error e)
  | .ok () =>
    match expectation σ cmd with
    | .error e => (log, .error e)
    | .ok expected =>
      let executed := handleExecute st log expected cmd outcome retries
      (executed.2.1, method.mapping.answer (namedVersion σ cmd) executed.2.2)

/-- The command would change nothing: its hook says so, or its handler returns no events. -/
def Noop (s : σ) (cmd : κ) : Prop := isStateIdempotent s cmd = true ∨ handle s cmd = .ok []

/-- A command whose hook is silent and whose handler always has events is never without effect. -/
theorem not_noop {s : σ} (hhook : isStateIdempotent s cmd = false)
    (hhandle : Ends (fun events => events ≠ []) (fun _ => True) (handle s cmd)) : ¬ Noop s cmd := by
  rintro (h | h)
  · rw [hhook] at h
    cases h
  · exact hhandle.ok h rfl

end

/-- The methods of an aggregate's commands. -/
class Adapters (σ : Type) (ε κ χ : outParam Type) [Entity σ ε κ χ] where
  /-- Commands without a method are sent by a tool or by other methods. -/
  method : κ → Option Method
  /-- The commands whose handler may return no events although their method maps that to a
      conflict. -/
  refused : κ → Bool

/-- A command without effect is an update; it is refused, or its method can answer it. -/
class LawfulAdapters (σ : Type) (ε κ χ : outParam Type) [Entity σ ε κ χ] [Versioned σ ε κ χ]
    [Adapters σ ε κ χ] : Prop where
  noop : ∀ {s : σ} {cmd : κ} {method : Method}, Noop s cmd → Adapters.method σ cmd = some method →
    (∃ version, dispatching σ cmd = .update version) ∧
      ((Adapters.refused σ cmd = true ∧ isStateIdempotent s cmd = false ∧
          method.mapping = .executedResult) ∨
        (Adapters.refused σ cmd = false ∧ method.checksDay = false ∧
          (isStateIdempotent s cmd = true ∨ method.mapping = .stateBasedNoop))) := by
            intro s cmd method hnoop hmethod
            cases cmd <;> first | (cases hmethod; done) | exact absurd hnoop (not_noop rfl (by simp))

/-! ## §2. Commands without effect -/

variable {σ ε κ χ : Type} [Entity σ ε κ χ]

/-- The loop ends with the first attempt that does not conflict. -/
theorem handleExecute_of_done {st st' : EntityActorState σ}
    (h : attempt st log expected cmd outcome = .done st' log' reply) (retries) :
    handleExecute st log expected cmd outcome retries = (st', log', reply) := by
  cases retries with
  | zero | succ => rw [handleExecute, h]

/-- What an update with the current version expects. -/
theorem exists_exactly {log : List ε} (hne : log ≠ []) :
    ∃ expected, exactly log.length = .ok expected ∧ expected.isSatisfiedBy (versionOf log) :=
  (exactly_satisfied log.length).mpr ⟨hne, rfl⟩

/-- It passes the check of an actor that has seen the stream, and of no other. -/
theorem isSatisfiedBy_current {st : EntityActorState σ} (hne : log ≠ [])
    (hfollows : st.Follows log) (hexact : exactly log.length = .ok expected) :
    expected.isSatisfiedBy st.version ↔ st.version = versionOf log := by
  constructor
  · intro hsat
    obtain ⟨seen, -, rfl⟩ := hfollows
    -- the actor has seen as many events as the stream has, so it has seen the stream
    have hseen : seen ≠ [] ∧ log.length = seen.length :=
      (exactly_satisfied log.length).mp ⟨expected, hexact, hsat⟩
    exact versionOf_eq_iff.mpr hseen.2.symm
  · intro hversion
    obtain ⟨expected', hexact', hsat⟩ := exists_exactly hne
    rw [hexact] at hexact'
    cases hexact'
    rw [hversion]
    exact hsat

section Noops

variable {st : EntityActorState σ} {log : List ε} {expected : ExpectedVersion} {cmd : κ}
  {outcome : AppendOutcome} {retries : Nat}

theorem handleExecute_lagging (hunsatisfied : expected.isSatisfiedBy st.version = false) :
    handleExecute st log expected cmd outcome retries =
      (st, log, .error (.incorrectExpectedVersion st.version expected)) := by
  refine handleExecute_of_done ?_ retries
  unfold attempt execute
  rw [hunsatisfied]
  rfl

/-- What an actor at the end of the stream answers to a command without effect. -/
theorem handleExecute_noop (hsat : expected.isSatisfiedBy st.version)
    (hnoop : Noop st.entity cmd) : handleExecute st log expected cmd outcome retries =
      (st, log, .ok (if isStateIdempotent st.entity cmd then .idempotent st.version
        else .executed [])) := by
  refine handleExecute_of_done ?_ retries
  unfold attempt execute
  rw [hsat]
  cases hhook : isStateIdempotent st.entity cmd with
  | true => rfl
  | false =>
    have hhandle : handle st.entity cmd = .ok [] := by
      refine hnoop.resolve_left ?_
      rw [hhook]
      decide
    simp [hhandle]

end Noops

/-! ## §3. Which of them are answered -/

section Answered

variable [Versioned σ ε κ χ] [IntoDomainError χ] [Adapters σ ε κ χ]

/-- A call with the current version of an aggregate, of a command that would change nothing. The
actor may lag behind the stream. -/
structure NoopCall (σ : Type) {ε κ χ : Type} [Entity σ ε κ χ] [Versioned σ ε κ χ] [Adapters σ ε κ χ]
    (log : List ε) (st : EntityActorState σ) (cmd : κ) (method : Method) : Prop where
  history : History σ log
  founded : Founded σ log
  follows : st.Follows log
  noop : Noop (replay σ log) cmd
  method : Adapters.method σ cmd = some method
  current : dispatching σ cmd = .update (version (replay σ log))

/-- **WHAT BECOMES OF COMMANDS WITHOUT EFFECT.** -/
structure NoopsAnswered (σ : Type) {ε κ χ : Type} [Entity σ ε κ χ] [Versioned σ ε κ χ]
    [IntoDomainError χ] [Adapters σ ε κ χ] (outcome : AppendOutcome) (retries : Nat) : Prop where
  /-- Those that have a method are called with a version. -/
  updates : ∀ {s : σ} {cmd : κ} {method : Method}, Noop s cmd → Adapters.method σ cmd = some method →
    ∃ version, dispatching σ cmd = .update version
  /-- Called with the current version they append nothing. -/
  unchanged : ∀ {log : List ε} {st : EntityActorState σ} {cmd : κ} {method : Method}
    (check : Except DomainError Unit), NoopCall σ log st cmd method →
    (callMethod method check st log cmd outcome retries).1 = log
  /-- They are answered with that version exactly if the actor has seen the stream and the command is
      not one of the refused ones. -/
  answered_iff : ∀ {log : List ε} {st : EntityActorState σ} {cmd : κ} {method : Method}
    (check : Except DomainError Unit), NoopCall σ log st cmd method →
    ((callMethod method check st log cmd outcome retries).2 = .ok (version (replay σ log)) ↔
      st.version = versionOf log ∧ Adapters.refused σ cmd = false)
  /-- An aggregate that does not exist has no version to answer with. -/
  absent : ∀ {st : EntityActorState σ} {cmd : κ} {version : AggregateVersion} (method : Method)
    (check : Except DomainError Unit), st.Follows [] →
    dispatching σ cmd = .update version →
    ∃ e, callMethod method check st ([] : List ε) cmd outcome retries = ([], .error e)

/-- The reply of an actor at the end of the stream, mapped. -/
theorem answer_noop (log : List ε) (mapping : ReplyMapping) (hook : Bool) :
    mapping.answer log.length (.ok (if hook then .idempotent (versionOf log) else .executed []) :
        Reply ε χ) = .ok log.length ↔ hook ∨ mapping = .stateBasedNoop := by
  have hversion : versionFromCurrent (versionOf log) = log.length := by
    cases log with
    | nil | cons => rfl
  cases hook with
  | true =>
    cases mapping with
    | executedResult => simp [ReplyMapping.answer, mapExecutedResult, hversion]
    | stateBasedNoop => simp [ReplyMapping.answer, mapStateBasedNoop, mapExecutedResult, hversion]
  | false =>
    cases mapping with
    | executedResult => simp [ReplyMapping.answer, mapExecutedResult]
    | stateBasedNoop => simp [ReplyMapping.answer, mapStateBasedNoop]

/-- A lagging actor answers a conflict. -/
theorem answer_lagging (mapping : ReplyMapping) (version current expected) :
    mapping.answer version (.error (.incorrectExpectedVersion current expected) : Reply ε χ) =
      .error (.versionConflict 0 (versionFromCurrent current)) := by
  cases mapping <;> rfl

variable [LawfulVersioned σ ε κ χ] {log : List ε} {st : EntityActorState σ} {cmd : κ}
  {method : Method} {outcome : AppendOutcome} {retries : Nat}

omit [IntoDomainError χ] in
/-- The expectation of such a call, and what it names. -/
theorem NoopCall.expectation (h : NoopCall σ log st cmd method) :
    ∃ expected, expectation σ cmd = .ok expected ∧ namedVersion σ cmd = log.length ∧
      (expected.isSatisfiedBy st.version ↔ st.version = versionOf log) := by
  have hne := h.founded.ne_nil
  have hcurrent := h.current
  rw [(h.history.counted h.founded).version hne] at hcurrent
  obtain ⟨expected, hexact, -⟩ := exists_exactly hne
  refine ⟨expected, ?_, ?_, isSatisfiedBy_current hne h.follows hexact⟩
  · unfold Breakdown.expectation
    rw [hcurrent]
    exact hexact
  · unfold namedVersion
    rw [hcurrent]

omit [Adapters σ ε κ χ] [LawfulVersioned σ ε κ χ] in
/-- A check that fails is the answer. -/
theorem callMethod_refused (hcheck : (if method.checksDay then check else .ok ()) = .error e) :
    callMethod method check st log cmd outcome retries = (log, .error e) := by
  unfold callMethod
  rw [hcheck]

/-- **WHAT SUCH A CALL DOES**, if the check of the day lets it through: an actor that lags behind
answers a conflict, one that has seen the stream what the method makes of the empty reply. -/
theorem NoopCall.call (h : NoopCall σ log st cmd method)
    (hcheck : (if method.checksDay then check else .ok ()) = .ok ()) :
    ∃ answer, callMethod method check st log cmd outcome retries = (log, answer) ∧
      (answer = .ok log.length ↔ st.version = versionOf log ∧
        (isStateIdempotent (replay σ log) cmd ∨ method.mapping = .stateBasedNoop)) := by
  obtain ⟨expected, hexpected, hnamed, hsat⟩ := h.expectation
  have hcall : callMethod method check st log cmd outcome retries =
      ((handleExecute st log expected cmd outcome retries).2.1, method.mapping.answer log.length
          (handleExecute st log expected cmd outcome retries).2.2) := by
    unfold callMethod
    rw [hcheck, hexpected, hnamed]
  -- an actor that has seen the stream decides on its replay, whatever it had cached
  by_cases hseen : st.version = versionOf log
  · obtain rfl : st = load σ log := Snapshot.Follows.eq_load h.follows hseen
    rw [handleExecute_noop (hsat.mpr hseen) h.noop] at hcall
    refine ⟨_, hcall, (answer_noop log method.mapping _).trans ?_⟩
    rw [and_iff_right hseen]
    rfl
  · rw [handleExecute_lagging (Bool.eq_false_iff.mpr (mt hsat.mp hseen)), answer_lagging] at hcall
    refine ⟨_, hcall, ?_⟩
    simp [hseen]

omit [Adapters σ ε κ χ] [LawfulVersioned σ ε κ χ] in
/-- Where there is no stream no version is the current one. -/
theorem callMethod_absent {version} (check : Except DomainError Unit) (hfollows : st.Follows [])
    (hcmd : dispatching σ cmd = .update version) :
    ∃ e, callMethod method check st ([] : List ε) cmd outcome retries = ([], .error e) := by
  cases hcheck : (if method.checksDay then check else .ok ()) with
  | error e => exact ⟨e, callMethod_refused hcheck⟩
  | ok =>
    have hexpectation : expectation σ cmd = exactly version := by
      unfold expectation
      rw [hcmd]
    unfold callMethod
    rw [hcheck, hexpectation]
    cases hexpected : exactly version with
    | error e => exact ⟨e, rfl⟩
    | ok expected =>
      have hunsatisfied : expected.isSatisfiedBy st.version = false := by
        obtain ⟨seen, hseen, rfl⟩ := hfollows
        obtain rfl := List.prefix_nil.mp hseen
        refine Bool.eq_false_iff.mpr ?_
        intro hsat
        have hne : ([] : List ε) ≠ [] := exactly_ne_nil hexpected hsat
        exact hne rfl
      dsimp only
      rw [handleExecute_lagging hunsatisfied, answer_lagging]
      exact ⟨_, rfl⟩

variable [LawfulAdapters σ ε κ χ]

/-- **A COMMAND WITHOUT EFFECT IS ANSWERED WITH THE CURRENT VERSION** exactly if the actor has seen
the stream and the command is not refused. -/
theorem noopsAnswered : NoopsAnswered σ outcome retries where
  updates hnoop hmethod := (LawfulAdapters.noop hnoop hmethod).1
  unchanged {log st cmd method check} h := by
    cases hcheck : (if method.checksDay then check else .ok ()) with
    | error => rw [callMethod_refused hcheck]
    | ok =>
      obtain ⟨answer, hcall, -⟩ := h.call hcheck
      rw [hcall]
  answered_iff {log st cmd method check} h := by
    have hversion := (h.history.counted h.founded).version h.founded.ne_nil
    rw [hversion]
    obtain ⟨-, hcase⟩ := LawfulAdapters.noop h.noop h.method
    cases hcheck : (if method.checksDay then check else .ok ()) with
    | error =>
      -- only refused commands look at the day
      rw [callMethod_refused hcheck]
      obtain ⟨hrefused, -⟩ | ⟨-, hchecks, -⟩ := hcase
      · simp [hrefused]
      · simp [hchecks] at hcheck
    | ok =>
      obtain ⟨answer, hcall, hanswer⟩ := h.call hcheck
      rw [hcall, hanswer]
      obtain ⟨hrefused, hhook, hmapping⟩ | ⟨hrefused, -, hanswers⟩ := hcase
      · simp [hrefused, hhook, hmapping]
      · simp [hrefused, hanswers]
  absent _ check hfollows hcmd := callMethod_absent check hfollows hcmd

end Answered

end Breakdown
