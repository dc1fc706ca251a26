/-
**APPEND-ONLY LOGS WITH AN EXPECTED VERSION, AND SNAPSHOTS OF THEM.**

A stream is the list of its events, the version of an event is its position. A writer names the
version it expects the stream to be at; the append goes through exactly when that expectation is
met (`tryAppend`), which is what makes per-stream appends linearizable.

A reader keeps a `Snapshot`: the fold of the events seen so far together with the version of the
last one. A snapshot may lag behind its stream, but it is always the fold of a PREFIX
(`Snapshot.Follows`). The one fact every optimistic writer rests on:

- `Snapshot.Follows.eq_of_tryAppend`: if an append expected at the snapshot's own version goes
  through, the snapshot did not lag: its state is the fold of the WHOLE stream.
-/
import Mathlib.Data.List.Infix

namespace Breakdown.EventLog

open List

/-! ## §1. Versions -/

/-- Where a stream stands: the version of its last event, or no event at all. -/
inductive CurrentVersion
  | current (version : Nat)
  | empty
  deriving DecidableEq

/-- What a writer expects of the stream it appends to. -/
inductive ExpectedVersion
  /-- No expectation. -/
  | any
  /-- At least one event. -/
  | exists_
  /-- No event. -/
  | empty
  /-- The last event has this version. -/
  | exact (version : Nat)
  deriving DecidableEq

namespace CurrentVersion

/-- The version the next event gets. -/
def next : CurrentVersion → Nat
  | .current v => v + 1
  | .empty => 0

/-- The expectation that the stream still stands here. -/
def asExpectedVersion : CurrentVersion → ExpectedVersion
  | .current v => .exact v
  | .empty => .empty

theorem next_injective {v w : CurrentVersion} (h : v.next = w.next) : v = w := by
  cases v <;> cases w <;> simp_all [next]

end CurrentVersion

/-- Does a stream that stands at the given version meet the expectation? -/
def ExpectedVersion.isSatisfiedBy : ExpectedVersion → CurrentVersion → Bool
  | .any, _ => true
  | .exists_, .current _ => true
  | .exists_, .empty => false
  | .empty, .current _ => false
  | .empty, .empty => true
  | .exact v, .current w => v == w
  | .exact _, .empty => false

@[simp] theorem isSatisfiedBy_asExpectedVersion (v w : CurrentVersion) :
    v.asExpectedVersion.isSatisfiedBy w ↔ v = w := by
  cases v <;> cases w <;> simp [CurrentVersion.asExpectedVersion, ExpectedVersion.isSatisfiedBy]

@[simp] theorem isSatisfiedBy_empty (w) : ExpectedVersion.empty.isSatisfiedBy w ↔ w = .empty := by
  cases w <;> simp [ExpectedVersion.isSatisfiedBy]

@[simp] theorem isSatisfiedBy_exact (v w) :
    (ExpectedVersion.exact v).isSatisfiedBy w ↔ w = .current v := by
  cases w with
  | current => simpa [ExpectedVersion.isSatisfiedBy] using eq_comm
  | empty => simp [ExpectedVersion.isSatisfiedBy]

@[simp] theorem isSatisfiedBy_any (w) : ExpectedVersion.any.isSatisfiedBy w := rfl

/-! ## §2. Logs -/

section Log

variable {ε : Type*}

/-- Where a log stands. -/
def versionOf : List ε → CurrentVersion
  | [] => .empty
  | _ :: tl => .current tl.length

@[simp] theorem versionOf_nil : versionOf ([] : List ε) = .empty := rfl

@[simp] theorem versionOf_next (log : List ε) : (versionOf log).next = log.length := by
  cases log <;> rfl

variable {log : List ε}

@[simp] theorem versionOf_eq_empty : versionOf log = .empty ↔ log = [] := by
  cases log <;> simp [versionOf]

@[simp] theorem versionOf_eq_current : versionOf log = .current v ↔ log.length = v + 1 := by
  cases log <;> simp [versionOf]

theorem versionOf_eq_iff {l₁ : List ε} {ε' : Type*} {l₂ : List ε'} :
    versionOf l₁ = versionOf l₂ ↔ l₁.length = l₂.length := by
  constructor
  · intro h
    rw [← versionOf_next l₁, ← versionOf_next l₂, h]
  · intro h
    apply CurrentVersion.next_injective
    rw [versionOf_next, versionOf_next, h]

/-- The event at the end of a log together with its version. -/
def lastEvent (log : List ε) : Option (Nat × ε) := log.getLast?.map fun e => (log.length - 1, e)

@[simp] theorem lastEvent_nil : lastEvent ([] : List ε) = none := rfl

@[simp] theorem lastEvent_concat (log : List ε) (e : ε) :
    lastEvent (log ++ [e]) = some (log.length, e) := by
  simp [lastEvent]

theorem lastEvent_eq_some (h : lastEvent log = some (v, e)) :
    ∃ pre, log = pre ++ [e] ∧ pre.length = v := by
  rcases eq_nil_or_concat log with rfl | ⟨pre, x, rfl⟩
  · simp at h
  · simp only [concat_eq_append] at h ⊢
    rw [lastEvent_concat] at h
    simp only [Option.some.injEq, Prod.mk.injEq] at h
    obtain ⟨rfl, rfl⟩ := h
    exact ⟨pre, rfl, rfl⟩

/-- Append `events` if the log stands where the writer expects it, else refuse. -/
def tryAppend (log : List ε) (expected : ExpectedVersion) (events : List ε) : Option (List ε) :=
  if expected.isSatisfiedBy (versionOf log) then some (log ++ events) else none

theorem tryAppend_eq_some : tryAppend log expected events = some log' ↔
      expected.isSatisfiedBy (versionOf log) ∧ log' = log ++ events := by
  unfold tryAppend
  split
  · next hv => simpa [hv] using eq_comm
  · next hv => simp [hv]

theorem tryAppend_eq_none :
    tryAppend log expected events = none ↔ expected.isSatisfiedBy (versionOf log) = false := by
  unfold tryAppend
  split <;> simp_all

end Log

/-! ## §3. Snapshots -/

/-- A folded state and the version of the last event folded into it. -/
@[ext] structure Snapshot (σ : Type*) where
  entity : σ
  version : CurrentVersion

namespace Snapshot

variable {σ ε : Type*} (apply : σ → ε → σ) (init : σ)

/-- The state after all events of a log. -/
def replay (log : List ε) : σ := log.foldl apply init

@[simp] theorem replay_nil : replay apply init [] = init := rfl

@[simp] theorem replay_append (log events) :
    replay apply init (log ++ events) = events.foldl apply (replay apply init log) :=
  foldl_append

/-- The snapshot of a whole log. -/
def load (log : List ε) : Snapshot σ := ⟨replay apply init log, versionOf log⟩

/-- Fold further events into a snapshot. -/
def advance (snap : Snapshot σ) (events : List ε) : Snapshot σ :=
  events.foldl (fun s e => ⟨apply s.entity e, .current s.version.next⟩) snap

/-- Fold in whatever the log has beyond the snapshot's version. -/
def catchUp (snap : Snapshot σ) (log : List ε) : Snapshot σ :=
  advance apply snap (log.drop snap.version.next)

/-- The snapshot is the fold of a prefix of the log: it may lag, it never disagrees. -/
def Follows (snap : Snapshot σ) (log : List ε) : Prop :=
  ∃ seen, seen <+: log ∧ snap = load apply init seen

theorem advance_load (log events : List ε) :
    advance apply (load apply init log) events = load apply init (log ++ events) := by
  induction events generalizing log with
  | nil => simp [advance]
  | cons e tl ih =>
    have hone : (⟨apply (load apply init log).entity e, .current (load apply init log).version.next⟩
        : Snapshot σ) = load apply init (log ++ [e]) := by
      ext
      · simp [load]
      · refine (versionOf_eq_current.2 ?_).symm
        simp [load]
    calc advance apply (load apply init log) (e :: tl)
        = advance apply (load apply init (log ++ [e])) tl := by rw [← hone]; rfl
      _ = load apply init (log ++ e :: tl) := by rw [ih]; simp

variable {apply init}

theorem follows_load (log) : Follows apply init (load apply init log) log := ⟨log, prefix_rfl, rfl⟩

variable {snap : Snapshot σ} {log : List ε}

section

variable (h : Follows apply init snap log)
include h

/-- Streams only grow, so a snapshot of an earlier state of the stream still follows it. -/
theorem Follows.mono (hle : log <+: log') : Follows apply init snap log' := by
  obtain ⟨seen, hseen, rfl⟩ := h
  exact ⟨seen, hseen.trans hle, rfl⟩

theorem Follows.append (events) : Follows apply init snap (log ++ events) :=
  h.mono (prefix_append log events)

/-- Catching up gives the snapshot of the whole log. -/
theorem Follows.catchUp_eq : catchUp apply snap log = load apply init log := by
  obtain ⟨seen, ⟨rest, rfl⟩, rfl⟩ := h
  unfold catchUp
  rw [show (load apply init seen).version.next = seen.length from versionOf_next seen,
    drop_left, advance_load]

/-- A snapshot at the log's own version is the snapshot of the whole log. -/
theorem Follows.eq_load (hv : snap.version = versionOf log) : snap = load apply init log := by
  obtain ⟨seen, hseen, rfl⟩ := h
  have hlen : seen.length = log.length := versionOf_eq_iff.1 hv
  rw [hseen.eq_of_length hlen]

/-- A snapshot at version `empty` is the initial one. -/
theorem Follows.eq_init (hv : snap.version = .empty) : snap.entity = init := by
  obtain ⟨seen, -, rfl⟩ := h
  have hnil : seen = [] := versionOf_eq_empty.1 hv
  subst hnil
  rfl

/-- **OPTIMISTIC WRITES ARE DECIDED ON THE CURRENT STATE.** An append expected at the snapshot's
own version goes through only if the snapshot is the fold of the whole log. -/
theorem Follows.eq_of_tryAppend (happ :
    tryAppend log snap.version.asExpectedVersion events = some log') :
    snap = load apply init log ∧ log' = log ++ events := by
  obtain ⟨hv, rfl⟩ := tryAppend_eq_some.1 happ
  rw [isSatisfiedBy_asExpectedVersion] at hv
  exact ⟨h.eq_load hv, rfl⟩

/-- After a successful append the advanced snapshot is that of the new log. -/
theorem Follows.advance_of_tryAppend (happ :
    tryAppend log snap.version.asExpectedVersion events = some log') :
    advance apply snap events = load apply init log' := by
  obtain ⟨rfl, rfl⟩ := h.eq_of_tryAppend happ
  exact advance_load apply init log events

end

end Snapshot

end Breakdown.EventLog
