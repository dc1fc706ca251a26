/-
**WHAT STREAMS COMMANDS BUILD.**

An aggregate's events carry a version of their own, counted from 1 by the handlers; the store counts
the same events from 0. The adapters translate between the two and pick the expectation a command
is sent with: a create expects an empty stream, an update exactly the version it names, and a few
commands expect nothing.

`LawfulVersioned` says what each aggregate has to provide for this to work. From it, once for all
aggregates:

- `History.rule`: induction along a stream that starts with its creation;
- `History.counted`: in a stream that starts with its creation, event `k` carries version `k + 1`;
- `versionsCount`: so the aggregate's version is the length of the stream, the adapters answer
  with it, and a handler never sees a version that the stream check let through and it would refuse;
- `Calls.founded`: a stream starts with its creation, unless a command without expectation
  writes to an empty stream.
-/
import Breakdown.EventStore.CommandAdapters

namespace Breakdown

open EventLog Fallible List Entity EntityActorState

/-! ## §1. Aggregates with versions -/

/-- The expectation the adapter of a command sends it with. -/
inductive Dispatching
  /-- `ExpectedVersion::Empty`. -/
  | create
  /-- `ExpectedVersion::Exact(domain_to_stream_checked(version))`. -/
  | update (version : AggregateVersion)
  /-- `ExpectedVersion::Any`. -/
  | free
  deriving DecidableEq

/-- An aggregate whose events carry its version, and how its commands are sent. -/
class Versioned (σ : Type) (ε κ χ : outParam Type) [Entity σ ε κ χ] where
  version : σ → Nat
  eventVersion : ε → Nat
  /-- The event a stream has to start with. -/
  isCreation : ε → Bool
  dispatching : κ → Dispatching
  /-- The handler's own refusal of a version. -/
  isVersionMismatch : χ → Bool

/-- The events continue a stream that is at `version`. -/
def Continues (σ : Type) {ε κ χ : Type} [Entity σ ε κ χ] [Versioned σ ε κ χ] (version : Nat)
    (events : List ε) : Prop :=
  ∀ k e, events[k]? = some e →
    Versioned.eventVersion σ e = version + k + 1 ∧ Versioned.isCreation σ e = false

/-- The handlers count: a create is the first event, and every other command continues. At the
current version no handler complains about the version. -/
class LawfulVersioned (σ : Type) (ε κ χ : outParam Type) [Entity σ ε κ χ] [Versioned σ ε κ χ] :
    Prop where
  version_apply : ∀ (s : σ) (e : ε),
    Versioned.version (apply s e) = Versioned.eventVersion σ e := by
      intro s e
      cases e <;> rfl
  create_ends : ∀ {cmd : κ}, Versioned.dispatching σ cmd = .create →
    Ends (fun events => ∃ e, events = [e] ∧ Versioned.eventVersion σ e = AggregateVersion.initial ∧
        Versioned.isCreation σ e = true)
      (fun _ => True) (handle (init : σ) cmd) := by
        intro cmd hcmd
        cases cmd <;> first | (cases hcmd; done) | simp
  handle_ends : ∀ {s : σ} {cmd : κ}, Versioned.dispatching σ cmd ≠ .create →
    Ends (Continues σ (Versioned.version s))
      (fun err => Versioned.dispatching σ cmd = .update (Versioned.version s) →
        Versioned.isVersionMismatch σ err = false) (handle s cmd) := by
        intro s cmd hcmd
        cases cmd <;> first | exact absurd rfl hcmd | simp

variable {σ ε κ χ : Type} [Entity σ ε κ χ]

/-- Only a create emits an event that founds a stream. -/
theorem isCreation_of_handle [Versioned σ ε κ χ] [LawfulVersioned σ ε κ χ] {s : σ}
    (hcmd : Versioned.dispatching σ cmd ≠ .create) (h : handle s cmd = .ok events) (he : e ∈ events) :
    Versioned.isCreation σ e = false := by
  obtain ⟨k, hk⟩ := List.getElem?_of_mem he
  exact ((LawfulVersioned.handle_ends hcmd).ok h k e hk).2

/-- The adapter's expectation; version 0 is refused right away. -/
def expectation (σ : Type) {ε κ χ : Type} [Entity σ ε κ χ] [Versioned σ ε κ χ] (cmd : κ) :
    Except DomainError ExpectedVersion :=
  match Versioned.dispatching σ cmd with
  | .create => .ok .empty
  | .update version => exactly version
  | .free => .ok .any

/-- The stream starts with its creation. -/
def Founded (σ : Type) {ε κ χ : Type} [Entity σ ε κ χ] [Versioned σ ε κ χ] (log : List ε) : Prop :=
  ∃ e, log.head? = some e ∧ Versioned.isCreation σ e = true

/-- A history of accepted commands. A create is only ever sent to an empty stream; the other
commands may be sent with any expectation. -/
inductive History (σ : Type) {ε κ χ : Type} [Entity σ ε κ χ] [Versioned σ ε κ χ] : List ε → Prop
  | nil : History σ []
  | step {log : List ε} {expected : ExpectedVersion} {cmd : κ} {events : List ε}
      (before : History σ log)
      (hcreate : Versioned.dispatching σ cmd = .create → expected = .empty)
      (hdecided : Decided σ log expected cmd events) : History σ (log ++ events)

/-- A history of accepted commands, each of them sent with any expectation. -/
inductive Decisions (σ : Type) {ε κ χ : Type} [Entity σ ε κ χ] : List ε → Prop
  | nil : Decisions σ []
  | step {log : List ε} {expected : ExpectedVersion} {cmd : κ} {events : List ε}
      (before : Decisions σ log) (hdecided : Decided σ log expected cmd events) :
      Decisions σ (log ++ events)

/-- Whatever an actor does with a command, however far its cache lags, the stream stays a history of
accepted commands. -/
theorem Decisions.handleExecute (h : Decisions σ log) {st : EntityActorState σ}
    (hfollows : st.Follows log) (expected cmd outcome retries) :
    Decisions σ (handleExecute st log expected cmd outcome retries).2.1 := by
  obtain ⟨-, hlog, -⟩ | ⟨events, hdecided, hlog, -, -⟩ := handleExecute_cases retries hfollows
      (Eq.refl (Breakdown.handleExecute st log expected cmd outcome retries))
  · rw [hlog]
    exact h
  · rw [hlog]
    exact .step h hdecided

section

variable [Versioned σ ε κ χ]

@[simp] theorem continues_nil (version) : Continues σ version ([] : List ε) := by
  intro k e hk
  cases hk

@[simp] theorem continues_cons : Continues σ version (e :: events) ↔
      (Versioned.eventVersion σ e = version + 1 ∧ Versioned.isCreation σ e = false) ∧
        Continues σ (version + 1) events := by
  constructor
  · intro h
    refine ⟨h 0 e rfl, fun k e' hk => ?_⟩
    have hnext := h (k + 1) e' hk
    exact ⟨by omega, hnext.2⟩
  · rintro ⟨hhead, htail⟩ k e' hk
    cases k with
    | zero =>
      cases hk
      exact hhead
    | succ k =>
      have hnext := htail k e' hk
      exact ⟨by omega, hnext.2⟩

end

/-! ## §2. Versions count events -/

/-- The handler only answers after the stream check. -/
theorem execute_eq_handle_error {st : EntityActorState σ}
    (h : st.execute expected cmd = .error (.handle err)) :
    expected.isSatisfiedBy st.version ∧ handle st.entity cmd = .error err := by
  unfold execute at h
  split at h
  · cases h
  · next hsat =>
    split at h
    · cases h
    · split at h
      · next hhandle =>
        cases h
        exact ⟨by simpa using hsat, hhandle⟩
      · cases h

section Counting

variable [Versioned σ ε κ χ]

/-- Event `k` carries version `k + 1`. -/
def Counted (σ : Type) {ε κ χ : Type} [Entity σ ε κ χ] [Versioned σ ε κ χ] (log : List ε) : Prop :=
  ∀ k e, log[k]? = some e → Versioned.eventVersion σ e = k + 1

/-- The aggregate is at the version of its last event. -/
theorem version_replay [LawfulVersioned σ ε κ χ] (log e) :
    Versioned.version (replay σ (log ++ [e])) = Versioned.eventVersion σ e := by
  rw [replay_append]
  exact LawfulVersioned.version_apply _ e

variable {log : List ε}

theorem Counted.version [LawfulVersioned σ ε κ χ] (h : Counted σ log) (hne : log ≠ []) :
    Versioned.version (replay σ log) = log.length := by
  obtain ⟨init, e, rfl⟩ := eq_nil_or_concat log |>.resolve_left hne
  rw [concat_eq_append, version_replay, h init.length e (by simp)]
  simp

/-- No event carries a version above the aggregate's. -/
theorem Counted.version_le [LawfulVersioned σ ε κ χ] (h : Counted σ log) (he : e ∈ log) :
    Versioned.eventVersion σ e ≤ Versioned.version (replay σ log) := by
  obtain ⟨k, hk⟩ := getElem?_of_mem he
  have hlt := (List.getElem?_eq_some_iff.mp hk).1
  rw [h k e hk, h.version (ne_nil_of_mem he)]
  exact hlt

/-- The versions rise along a counted stream. -/
theorem Counted.rising (h : Counted σ log) :
    log.Pairwise fun a b => Versioned.eventVersion σ a < Versioned.eventVersion σ b := by
  rw [pairwise_iff_getElem]
  intro i j hi hj hij
  rw [h i _ (getElem?_eq_getElem hi), h j _ (getElem?_eq_getElem hj)]
  omega

/-- A stale view of a counted stream is counted. -/
theorem Counted.of_seen (h : Counted σ log) (hseen : seen <+: log) : Counted σ seen := by
  obtain ⟨rest, rfl⟩ := hseen
  intro k e hk
  have hlt : k < seen.length := (List.getElem?_eq_some_iff.mp hk).1
  exact h k e (by rw [getElem?_append_left hlt]; exact hk)

theorem Founded.ne_nil (h : Founded σ log) : log ≠ [] := by
  obtain ⟨e, he, -⟩ := h
  rintro rfl
  cases he

/-- The events of a command that is not a create continue the count. -/
theorem Counted.append [LawfulVersioned σ ε κ χ] (h : Counted σ log) (hne : log ≠ [])
    (hcmd : Versioned.dispatching σ cmd ≠ .create)
    (hhandle : handle (replay σ log) cmd = .ok events) : Counted σ (log ++ events) := by
  intro k e hk
  by_cases hlt : k < log.length
  · rw [getElem?_append_left hlt] at hk
    exact h k e hk
  · rw [getElem?_append_right (by omega)] at hk
    have hversion := ((LawfulVersioned.handle_ends hcmd).ok hhandle _ e hk).1
    have hcurrent := h.version hne
    omega

/-- **INDUCTION ALONG A STREAM THAT STARTS WITH ITS CREATION**: the create is decided on the initial
state, every other command on the replayed one. -/
theorem History.rule [LawfulVersioned σ ε κ χ] {P : List ε → Prop} (h : History σ log)
    (hfounded : Founded σ log)
    (hcreate : ∀ {cmd : κ} {events : List ε}, Versioned.dispatching σ cmd = .create →
      handle (init : σ) cmd = .ok events → P events)
    (hstep : ∀ {log : List ε} {cmd : κ} {events : List ε}, Founded σ log → P log →
      Versioned.dispatching σ cmd ≠ .create →
      handle (replay σ log) cmd = .ok events → P (log ++ events)) : P log := by
  induction h with
  | nil => exact absurd rfl hfounded.ne_nil
  | @step log expected cmd events before hsent hdecided ih =>
    by_cases hcmd : Versioned.dispatching σ cmd = .create
    · -- a create went to an empty stream
      have hnil : log = [] := by
        have hsat := hdecided.satisfied
        rw [hsent hcmd] at hsat
        simpa using hsat
      subst hnil
      exact hcreate hcmd hdecided.handled
    · by_cases hnil : log = []
      · -- whatever else wrote first, it was not a creation
        subst hnil
        obtain ⟨e, he, hcreation⟩ := hfounded
        rw [nil_append, head?_eq_getElem?] at he
        rw [((LawfulVersioned.handle_ends hcmd).ok hdecided.handled 0 e he).2] at hcreation
        cases hcreation
      · have hbefore : Founded σ log := by
          obtain ⟨e, he, hcreation⟩ := hfounded
          rw [head?_append_of_ne_nil _ hnil] at he
          exact ⟨e, he, hcreation⟩
        exact hstep hbefore (ih hbefore) hcmd hdecided.handled

/-- **IN A STREAM THAT STARTS WITH ITS CREATION, EVENT `k` CARRIES VERSION `k + 1`.** -/
theorem History.counted [LawfulVersioned σ ε κ χ] (h : History σ log) (hfounded : Founded σ log) :
    Counted σ log := by
  refine h.rule hfounded ?_ ?_
  · -- the create is alone in the stream
    intro cmd events hcmd hhandle
    obtain ⟨e, rfl, hversion, -⟩ := (LawfulVersioned.create_ends hcmd).ok hhandle
    intro k e' hk
    obtain ⟨hlt, rfl⟩ := List.getElem?_eq_some_iff.mp hk
    obtain rfl : k = 0 := by simpa using hlt
    exact hversion
  · intro log cmd events hbefore hcounted hcmd hhandle
    exact hcounted.append hbefore.ne_nil hcmd hhandle

/-- An update passes the stream check exactly when it names the number of events. -/
theorem exactly_satisfied (version : Nat) :
    (∃ expected, exactly version = .ok expected ∧ expected.isSatisfiedBy (versionOf log)) ↔
      log ≠ [] ∧ version = log.length := by
  by_cases hzero : version = 0
  · subst hzero
    constructor
    · rintro ⟨expected, hexpected, -⟩
      cases hexpected
    · rintro ⟨hne, hlength⟩
      exact absurd (length_eq_zero_iff.mp hlength.symm) hne
  · have hexact : exactly version = .ok (.exact (version - 1)) := by
      simp [exactly, domainToStreamChecked, checkNonzeroVersion, hzero]
    constructor
    · rintro ⟨expected, hexpected, hsat⟩
      rw [hexact] at hexpected
      cases hexpected
      simp only [isSatisfiedBy_exact, versionOf_eq_current] at hsat
      exact ⟨ne_nil_of_length_pos (by omega), by omega⟩
    · rintro ⟨-, hlength⟩
      refine ⟨_, hexact, ?_⟩
      simp only [isSatisfiedBy_exact, versionOf_eq_current]
      omega

/-- Appended events answer with the length of the stream they end. -/
theorem mapExecutedResult_numbered [IntoDomainError χ] (hne : events ≠ []) :
    mapExecutedResult (.ok (.executed (numbered start events)) : Reply ε χ) =
      .ok (start + events.length) := by
  obtain ⟨init, e, rfl⟩ := eq_nil_or_concat events |>.resolve_left hne
  simp [mapExecutedResult, numbered, zipIdx_append, streamToDomain, Nat.add_assoc]

omit [Versioned σ ε κ χ] in
/-- **ANSWERED WITH A VERSION MEANS APPENDED**, for a command that always has something to do: the
version is the length of the stream it leaves. -/
theorem handleExecute_ok [IntoDomainError χ] {st : EntityActorState σ}
    (hidem : ∀ s : σ, isStateIdempotent s cmd = false) (hfollows : st.Follows log)
    (hok : mapExecutedResult (handleExecute st log expected cmd outcome retries).2.2 = .ok version) :
    ∃ events, Decided σ log expected cmd events ∧
      (handleExecute st log expected cmd outcome retries).2.1 = log ++ events ∧
        version = log.length + events.length := by
  rcases hex : handleExecute st log expected cmd outcome retries with ⟨st', log', reply⟩
  rw [hex] at hok
  obtain ⟨-, -, hempty⟩ | ⟨events, hdecided, rfl, -, rfl | rfl⟩ :=
    handleExecute_cases retries hfollows hex
  · -- nothing was appended: neither the hook nor an empty decision answers with a version
    have hhook : ∀ current, reply ≠ .ok (.idempotent current) := by
      have hnever : ∀ current, (handleExecute st log expected cmd outcome retries).2.2 ≠
          .ok (.idempotent current) := by
        refine handleExecute_done (fun _ r => ∀ current, r ≠ .ok (.idempotent current)) ?_ nofun
          retries st
        rintro st st' log' reply ha current rfl
        have hi := attempt_idempotent ha
        rw [hidem] at hi
        cases hi
      rw [hex] at hnever
      exact hnever
    match reply with
    | .error e =>
      obtain ⟨e', he'⟩ := mapExecutedResult_error (ε := ε) e
      rw [he'] at hok
      cases hok
    | .ok (.executed evs) =>
      rw [hempty evs rfl] at hok
      cases hok
    | .ok (.idempotent current) => exact absurd rfl (hhook current)
  · rw [mapExecutedResult_numbered hdecided.nonempty] at hok
    cases hok
    exact ⟨events, hdecided, rfl, rfl⟩
  · cases hok

/-! ## §3. The versions of an aggregate -/

/-- **WHAT THE VERSIONS OF AN AGGREGATE ARE WORTH**, in every history of accepted commands that
starts with the creation. Commands are executed by actors whose caches may lag behind the
stream. -/
structure VersionsCount (σ : Type) {ε κ χ : Type} [Entity σ ε κ χ] [Versioned σ ε κ χ]
    [IntoDomainError χ] : Prop where
  /-- Replaying `N` events gives version `N`. -/
  replayed : ∀ {log : List ε}, History σ log → Founded σ log →
    Versioned.version (replay σ log) = log.length
  /-- Event `k` carries version `k + 1`. -/
  carried : ∀ {log : List ε}, History σ log → Founded σ log →
    ∀ k e, log[k]? = some e → Versioned.eventVersion σ e = k + 1
  /-- Both ways of mapping a reply answer an append with the version of the new state. -/
  answered : ∀ {st st' : EntityActorState σ} {log log' : List ε} {expected : ExpectedVersion}
    {cmd : κ} {outcome : AppendOutcome} {retries : Nat} {appended : List (Nat × ε)},
    History σ log → st.Follows log →
    (Versioned.dispatching σ cmd = .create → expected = .empty) →
    handleExecute st log expected cmd outcome retries = (st', log', .ok (.executed appended)) →
    appended ≠ [] → Founded σ log' → mapExecutedResult (.ok (.executed appended) : Reply ε χ) =
          .ok (Versioned.version (replay σ log')) ∧
        ∀ version, mapStateBasedNoop (.ok (.executed appended) : Reply ε χ) version =
          .ok (Versioned.version (replay σ log'))
  /-- An update passes the stream check exactly when it names the aggregate's version. -/
  checked : ∀ {log : List ε}, History σ log → Founded σ log → ∀ version,
    (∃ expected, exactly version = .ok expected ∧ expected.isSatisfiedBy (versionOf log) = true) ↔
      version = Versioned.version (replay σ log)
  /-- A handler that runs after the stream check never answers a version mismatch. -/
  unreached : ∀ {st : EntityActorState σ} {log : List ε} {cmd : κ} {version : Nat}
    {expected : ExpectedVersion} {err : χ}, History σ log → Founded σ log → st.Follows log →
    Versioned.dispatching σ cmd = .update version → exactly version = .ok expected →
    st.execute expected cmd = .error (.handle err) → Versioned.isVersionMismatch σ err = false

/-- **THE VERSIONS OF EVERY AGGREGATE COUNT ITS EVENTS.** -/
theorem versionsCount [LawfulVersioned σ ε κ χ] [IntoDomainError χ] : VersionsCount σ where
  replayed h hfounded := (h.counted hfounded).version hfounded.ne_nil
  carried h hfounded := h.counted hfounded
  answered := by
    intro st st' log log' expected cmd outcome retries appended hhistory hfollows hcreate hexec hne
      hfounded
    obtain ⟨-, -, hnil⟩ | ⟨events, hdecided, rfl, -, hreply | hreply⟩ :=
      handleExecute_cases retries hfollows hexec
    · exact absurd (hnil appended rfl) hne
    · cases hreply
      have hafter := (History.step hhistory hcreate hdecided).counted hfounded
      have hresult : mapExecutedResult (.ok (.executed (numbered log.length events)) : Reply ε χ) =
          .ok (log.length + events.length) := mapExecutedResult_numbered hdecided.nonempty
      rw [← length_append, ← hafter.version hfounded.ne_nil] at hresult
      refine ⟨hresult, fun version => ?_⟩
      unfold mapStateBasedNoop
      split
      · next hexecuted =>
        injection hexecuted with hexecuted
        injection hexecuted with hempty
        exact absurd hempty hne
      · exact hresult
    · cases hreply
  checked {log} hhistory hfounded version := by
    rw [exactly_satisfied, (hhistory.counted hfounded).version hfounded.ne_nil]
    exact and_iff_right hfounded.ne_nil
  unreached {st log cmd version expected err} hhistory hfounded hfollows hcmd hexact hexec := by
    obtain ⟨hsat, hhandle⟩ := execute_eq_handle_error hexec
    -- the cache is a prefix of the stream, and counted like it
    obtain ⟨seen, hseen, rfl⟩ := hfollows
    have hcounted := (hhistory.counted hfounded).of_seen hseen
    obtain ⟨hne, hversion⟩ := (exactly_satisfied version).mp ⟨expected, hexact, hsat⟩
    rw [hversion, ← hcounted.version hne] at hcmd
    exact (LawfulVersioned.handle_ends (by rw [hcmd]; simp)).error hhandle hcmd

end Counting

/-! ## §4. Calls of the adapters -/

section Calls

variable [Versioned σ ε κ χ]

/-- The streams that calls of the adapters can lead to. Any number of processes make the calls, each
with an actor whose cache may lag; every call meets the condition `ok` on the stream it finds. -/
inductive Calls (σ : Type) {ε κ χ : Type} [Entity σ ε κ χ] [Versioned σ ε κ χ]
    (ok : List ε → κ → Prop) : List ε → Prop
  | nil : Calls σ ok []
  | call {log : List ε} {st : EntityActorState σ} {cmd : κ} {expected : ExpectedVersion}
      (outcome : AppendOutcome) (retries : Nat) (before : Calls σ ok log) (hok : ok log cmd)
      (hfollows : st.Follows log) (hexpected : expectation σ cmd = .ok expected) :
      Calls σ ok (handleExecute st log expected cmd outcome retries).2.1

/-- **INDUCTION ALONG CALLS**: a call leaves the stream as it is or appends what was decided on the
whole of it. -/
theorem Calls.rule {P : List ε → Prop} (h : Calls σ ok log) (hnil : P [])
    (hstep : ∀ {log : List ε} {cmd : κ} {expected : ExpectedVersion} {events : List ε}, P log →
      ok log cmd → expectation σ cmd = .ok expected → Decided σ log expected cmd events →
      P (log ++ events)) : P log := by
  induction h with
  | nil => exact hnil
  | @call log st cmd expected outcome retries before hok hfollows hexpected ih =>
    obtain ⟨-, hlog, -⟩ | ⟨events, hdecided, hlog, -, -⟩ :=
      handleExecute_cases retries hfollows (Eq.refl (handleExecute st log expected cmd outcome retries))
    · rw [hlog]
      exact ih
    · rw [hlog]
      exact hstep ih hok hexpected hdecided

/-- The adapter of a create expects an empty stream. -/
theorem empty_of_create (hexpected : expectation σ cmd = .ok expected)
    (hcmd : Versioned.dispatching σ cmd = .create) : expected = .empty := by
  unfold expectation at hexpected
  rw [hcmd] at hexpected
  cases hexpected
  rfl

/-- What calls build is a history of accepted commands. -/
theorem Calls.history (h : Calls σ ok log) : History σ log := by
  refine h.rule .nil ?_
  intro log cmd expected events before _ hexpected hdecided
  exact .step before (empty_of_create hexpected) hdecided

/-- One process makes the calls, one after the other. -/
def callAll (σ : Type) {ε κ χ : Type} [Entity σ ε κ χ] [Versioned σ ε κ χ] (cmds : List κ) : List ε :=
  cmds.foldl (fun log cmd =>
    match expectation σ cmd with
    | .error _ => log
    | .ok expected =>
      (handleExecute (load σ log) log expected cmd .acknowledged
        conflictRetries).2.1) []

theorem calls_callAll (cmds) : Calls σ (fun _ _ => True) (callAll σ cmds) := by
  unfold callAll
  -- the calls made so far are the invariant of the fold
  suffices h : ∀ log : List ε, Calls σ (fun _ _ => True) log →
      Calls σ (fun _ _ => True) (cmds.foldl _ log) from h [] .nil
  induction cmds with
  | nil => exact fun log h => h
  | cons cmd rest ih =>
    intro log h
    rw [foldl_cons]
    apply ih
    cases hexpected : expectation σ cmd with
    | error => exact h
    | ok => exact .call _ _ h trivial (follows_load log) hexpected

/-- What the first write to an empty stream may be. -/
def Founds (σ : Type) {ε κ χ : Type} [Entity σ ε κ χ] [Versioned σ ε κ χ] (cmd : κ) : Prop :=
  Versioned.dispatching σ cmd = .free → ∀ events, handle (init : σ) cmd = .ok events → events = []

/-- A decision of an adapter call on an empty stream is the creation. -/
theorem founded_of_decided [LawfulVersioned σ ε κ χ]
    (hexpected : expectation σ cmd = .ok expected) (hfounds : Founds σ cmd)
    (hdecided : Decided σ [] expected cmd events) : Founded σ events := by
  unfold expectation at hexpected
  split at hexpected
  · next hcmd =>
    obtain ⟨e, rfl, -, hcreation⟩ := (LawfulVersioned.create_ends hcmd).ok hdecided.handled
    exact ⟨e, rfl, hcreation⟩
  · exact absurd rfl (exactly_ne_nil hexpected hdecided.satisfied)
  · next hcmd => exact absurd (hfounds hcmd events hdecided.handled) hdecided.nonempty

/-- What a stream starts with stays. -/
theorem Founded.append (h : Founded σ log) (events) : Founded σ (log ++ events) := by
  obtain ⟨e, he, hcreation⟩ := h
  obtain ⟨rest, rfl⟩ := head?_eq_some_iff.1 he
  exact ⟨e, rfl, hcreation⟩

/-- **STREAMS START WITH THEIR CREATION**, as long as no command without expectation writes to an
empty one. -/
theorem Calls.founded [LawfulVersioned σ ε κ χ] (hok : ∀ cmd, ok [] cmd → Founds σ cmd)
    (h : Calls σ ok log) : log = [] ∨ Founded σ log := by
  refine h.rule (P := fun log => log = [] ∨ Founded σ log) (.inl rfl) ?_
  intro log cmd expected events before hcond hexpected hdecided
  by_cases hnil : log = []
  · subst hnil
    exact .inr (founded_of_decided hexpected (hok cmd hcond) hdecided)
  · exact .inr ((before.resolve_left hnil).append events)

end Calls

end Breakdown
