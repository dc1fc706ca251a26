/-
**WHAT ALL PROJECTORS SHARE** (`infra/src/projectors/`).

A projector is handed the events of a stream one by one, each with the time it was recorded at, and
turns them into statements on the projection tables. A statement can be refused: by a foreign key,
a NOT NULL column, or because a text holds the character U+0000, which no text or JSONB value may.
An instant is stored with whole microseconds, and a `u32` as the `i32` of the same 32 bits.

- `project`: the events of a stream, in order;
- `project_steps`: streams of which every event takes effect;
- `project_kept`: such are the streams of an aggregate whose row stays;
- `stored_rule`: induction along a stored stream;
- `asU32_asI32`: a `u32` comes back from its column.
-/
import Breakdown.EventStore.EventRuns
import Mathlib.Data.List.Induction

namespace Breakdown.Projections

open List Entity

/-- `kameo_es::Event`: the data of an event and the time it was recorded at. -/
structure StoredEvent (ε : Type) where
  data : ε
  timestamp : Timestamp
  deriving DecidableEq

/-- Why the database refuses a statement. -/
inductive SqlError
  /-- 23503. -/
  | foreignKeyViolation
  /-- 23502. -/
  | notNullViolation
  /-- 22021, 22P05: U+0000 in a text or JSONB value. -/
  | invalidText
  /-- 23505. -/
  | uniqueViolation
  /-- 54000: a value too large for an index. -/
  | programLimitExceeded
  /-- 22008: an instant outside the range of the column type. -/
  | datetimeOverflow

/-! ## §1. Columns -/

/-- A text that TEXT and JSONB columns take. -/
def storable (text : String) : Bool := text.toList.all (·.toNat ≠ 0)

/-- TIMESTAMPTZ: the whole microseconds of an instant given in nanoseconds. -/
def timestamptz (t : Timestamp) : Timestamp := t / 1000 * 1000

/-- `n as i32`. -/
def asI32 (n : Nat) : Int := (BitVec.ofNat 32 n).toInt

/-- `n as u32`. -/
def asU32 (n : Int) : Nat := (BitVec.ofInt 32 n).toNat

/-- `i32::try_from(n).unwrap_or(i32::MAX)`. -/
def tryI32 (n : Nat) : Int := if n ≤ 2147483647 then n else 2147483647

/-- **A `u32` COMES BACK FROM ITS COLUMN.** -/
theorem asU32_asI32 (h : n < 2 ^ 32) : asU32 (asI32 n) = n := by
  unfold asU32 asI32
  rw [BitVec.ofInt_toInt, BitVec.toNat_ofNat, Nat.mod_eq_of_lt h]

theorem asI32_inj (hm : m < 2 ^ 32) (hn : n < 2 ^ 32) : asI32 m = asI32 n ↔ m = n := by
  constructor
  · intro h
    rw [← asU32_asI32 hm, h, asU32_asI32 hn]
  · exact congrArg asI32

/-! ## §2. Streams -/

section Streams

variable {τ ε : Type} (handle : τ → StoredEvent ε → Except SqlError τ)

/-- Project events in order; the first refused statement ends it. -/
def project (db : τ) (events : List (StoredEvent ε)) : Except SqlError τ := events.foldlM handle db

@[simp] theorem project_nil (db) : project handle db [] = .ok db := rfl

variable {handle}

variable {after : τ} {events : List (StoredEvent ε)}

theorem project_append : project handle db (events ++ more) = .ok after ↔
      ∃ mid, project handle db events = .ok mid ∧ project handle mid more = .ok after := by
  unfold project
  rw [foldlM_append]
  cases events.foldlM handle db with
  | error | ok => simp [bind, Except.bind]

theorem project_singleton (db e) : project handle db [e] = handle db e := by
  unfold project
  rw [foldlM_cons]
  cases handle db e with
  | error | ok => rfl

theorem project_cons : project handle db (e :: events) = .ok after ↔
      ∃ mid, handle db e = .ok mid ∧ project handle mid events = .ok after := by
  rw [← singleton_append]
  simp only [project_append, project_singleton]

theorem project_concat : project handle db (events ++ [e]) = .ok after ↔
      ∃ mid, project handle db events = .ok mid ∧ handle mid e = .ok after := by
  simp only [project_append, project_singleton]

/-- **STREAMS THAT TAKE EFFECT EVENT BY EVENT.** As long as `Q` holds of the tables and the events to
come, an event is accepted exactly if it meets `A`, and then takes its effect. -/
theorem project_steps {step} {A : StoredEvent ε → Prop} {Q : τ → List (StoredEvent ε) → Prop}
    (hhandle : ∀ {db e rest after}, Q db (e :: rest) →
      (handle db e = .ok after ↔ A e ∧ after = step db e))
    (hstep : ∀ {db e rest}, Q db (e :: rest) → Q (step db e) rest) (h : Q db events) :
    project handle db events = .ok after ↔ (∀ e ∈ events, A e) ∧ after = events.foldl step db := by
  -- along the events to come, with `Q` as the invariant of the tables reached so far
  induction events generalizing db with
  | nil =>
    rw [project_nil, Except.ok.injEq]
    simp [eq_comm]
  | cons e rest ih =>
    simp only [project_cons, hhandle h, forall_mem_cons, foldl_cons]
    constructor
    · rintro ⟨mid, ⟨hmeets, rfl⟩, hafter⟩
      obtain ⟨hrest, hafter⟩ := (ih (hstep h)).mp hafter
      exact ⟨⟨hmeets, hrest⟩, hafter⟩
    · rintro ⟨⟨hmeets, hrest⟩, hafter⟩
      exact ⟨_, ⟨hmeets, rfl⟩, (ih (hstep h)).mpr ⟨hrest, hafter⟩⟩

/-- **EVENTS OF AN AGGREGATE THAT STAYS.** `R` says that its row is there: an event that fits leaves
it there, and is accepted where it is. It may also be missing if the first event creates it. -/
theorem project_kept {step} {A F C : StoredEvent ε → Prop} {R : τ → Prop}
    (hhandle : ∀ {db e after}, F e → R db ∨ C e →
      (handle db e = .ok after ↔ A e ∧ after = step db e))
    (hstep : ∀ {db e}, F e → R db ∨ C e → R (step db e)) (hfits : ∀ e ∈ events, F e)
    (hrow : R db ∨ ∀ e ∈ events.head?, C e) :
    project handle db events = .ok after ↔ (∀ e ∈ events, A e) ∧ after = events.foldl step db := by
  refine project_steps (Q := fun db rest => (∀ e ∈ rest, F e) ∧ (R db ∨ ∀ e ∈ rest.head?, C e)) ?_ ?_
    ⟨hfits, hrow⟩
  · rintro db e rest after ⟨hfits, hrow⟩
    exact hhandle (hfits e mem_cons_self) (hrow.imp_right fun hfirst => hfirst e rfl)
  · rintro db e rest ⟨hfits, hrow⟩
    refine ⟨fun e' he' => hfits e' (mem_cons_of_mem e he'), .inl ?_⟩
    exact hstep (hfits e mem_cons_self) (hrow.imp_right fun hfirst => hfirst e rfl)

end Streams

section Stored

variable {σ ε κ χ : Type} [Entity σ ε κ χ] {First : ε → Prop} {Emits : σ → ε → Prop}

theorem replay_stored_concat (events : List (StoredEvent ε)) (e : StoredEvent ε) :
    replay σ ((events ++ [e]).map (·.data)) = apply (replay σ (events.map (·.data))) e.data := by
  rw [map_append, map_singleton, replay_concat]

/-- **INDUCTION ALONG A STORED STREAM**: the first event founds it, and each of the others is one that
the aggregate so far lets follow. -/
@[elab_as_elim]
theorem stored_rule {P : List (StoredEvent ε) → Prop}
    (hrun : EventRun First Emits (events.map (·.data)))
    (hfirst : ∀ {e : StoredEvent ε}, First e.data → P [e])
    (hstep : ∀ {events : List (StoredEvent ε)} {e : StoredEvent ε},
      EventRun First Emits (events.map (·.data)) →
      Emits (replay σ (events.map (·.data))) e.data → P events → P (events ++ [e])) : P events := by
  induction events using reverseRecOn with
  | nil => exact absurd rfl hrun.ne_nil
  | append_singleton events e ih =>
    by_cases hnil : events = []
    · subst hnil
      exact hfirst (hrun.starts rfl)
    · have hne : events.map (·.data) ≠ [] := by simpa using hnil
      rw [map_append, map_singleton] at hrun
      have hbefore := hrun.shorter (prefix_append _ _) hne
      exact hstep hbefore (hrun.emits_last hne) (ih hbefore)

end Stored

/-- Events that are all recorded at one time. -/
def recordedAt {ε : Type} (timestamp : Timestamp) (log : List ε) : List (StoredEvent ε) :=
  log.map (⟨·, timestamp⟩)

@[simp] theorem map_data_recordedAt (timestamp) (log : List ε) :
    (recordedAt timestamp log).map (·.data) = log :=
  map_map.trans (map_id log)

end Breakdown.Projections
