/-
**THE GARBAGE COLLECTOR OF THE PHOTO STORAGE** (`infra/src/photo/gc.rs`).

A sweep lists the photos of the bucket, drops those the projection knows, and of the first
`batch_size` of the rest deletes those whose original says that it is old enough. What a sweep
skips is first in line again in the next one, and an orphan without an original ends the sweep:
`fetch_stored_at` looks for the words of another error than the one the storage has for a missing
object. Sweeps exclude each other by an advisory lock, which belongs to a connection; the statements
that take and release it are sent to a pool, which closes connections as it likes.

- `sweeps_exclude_each_other`: one sweep at a time as long as the connection with the lock stays
  open, and a free lock between sweeps as long as it is released on that connection;
- `foldl_leaveBefore`: a worklist that is done in batches never gets past the first entry at which
  the work is given up;
- `collects_iff`: the old orphans are collected exactly if they have a dated original, no orphan
  without an original is listed before them, and fewer than `batch_size` that stay are.
-/
import Breakdown.Aggregates.Photo
import Breakdown.Lib.Rows
import Breakdown.Lib.Transition
import Mathlib.Data.List.Dedup
import Mathlib.Data.List.DropRight
import Mathlib.Data.List.TakeWhile

namespace Breakdown.Collector

open Transition List Function

/-! ## §1. The lock -/

/-- A connection of the pool of a process. -/
structure Connection where
  process : Nat
  slot : Nat
  deriving DecidableEq

/-- The advisory lock: the connection that has it, and how many times. -/
abbrev Lock := Option (Connection × Nat)

/-- `pg_try_advisory_lock`: free, or held by the same session. -/
def tryAdvisoryLock (lock : Lock) (conn : Connection) : Lock × Bool := match lock with
  | none => (some (conn, 1), true)
  | some (holder, depth) =>
    if holder = conn then (some (holder, depth + 1), true) else (lock, false)

/-- `pg_advisory_unlock`: of a lock another session has, it is a warning. -/
def advisoryUnlock (lock : Lock) (conn : Connection) : Lock := match lock with
  | none => none
  | some (holder, depth) =>
    if holder = conn then (if depth ≤ 1 then none else some (holder, depth - 1)) else lock

/-- The lock, and who sweeps. -/
structure World where
  lock : Lock := none
  /-- The processes whose scheduler is between the two statements. -/
  sweeping : Nat → Bool := fun _ => false

/-- What the end of its connection does to the lock. -/
def released (lock : Lock) (conn : Connection) : Lock := match lock with
  | none => none
  | some (holder, _) => if holder = conn then none else lock

/-- The two statements of `run_gc_sweep`, on the connection the pool chooses for each, and what
happens to the connections. -/
inductive Action
  | tryLock (conn : Connection)
  | unlock (conn : Connection)
  /-- The second statement fails, on no connection or on its way; `unwrap_or_default` goes on. -/
  | unlockFails (process : Nat)
  /-- The pool or the server closes an idle connection; the next one in its slot is a new session. -/
  | close (conn : Connection)

/-- The scheduler of a process runs one sweep after the other; `pools` are the sizes of the pools. -/
def step (pools : Nat → Nat) (w : World) : Action → Option World
  | .tryLock conn =>
    if conn.slot < pools conn.process ∧ w.sweeping conn.process = false then
      let (lock, acquired) := tryAdvisoryLock w.lock conn
      some ⟨lock, if acquired then update w.sweeping conn.process true else w.sweeping⟩
    else none
  | .unlock conn =>
    if conn.slot < pools conn.process ∧ w.sweeping conn.process = true then
      some ⟨advisoryUnlock w.lock conn, update w.sweeping conn.process false⟩
    else none
  | .unlockFails process =>
    if w.sweeping process = true then some ⟨w.lock, update w.sweeping process false⟩ else none
  | .close conn =>
    if conn.slot < pools conn.process then some ⟨released w.lock conn, w.sweeping⟩ else none

/-- No connection is closed that has the lock of a sweep. -/
def keepsHolder (w : World) : Action → Prop
  | .close conn => ∀ depth, w.lock = some (conn, depth) → w.sweeping conn.process = false
  | _ => True

/-- A process that has the lock ends its sweep by releasing it on the connection that has it. -/
def onHolder (w : World) : Action → Prop
  | .unlock conn => ∀ holder depth, w.lock = some (holder, depth) →
      holder.process = conn.process → holder = conn
  | .unlockFails process => ∀ holder depth, w.lock = some (holder, depth) → holder.process ≠ process
  | _ => True

variable {pools : Nat → Nat} {w w' : World} {a : Action}

/-- **WHAT A STEP DOES**: a statement takes the lock that is free or its connection's, is refused, or
ends the sweep of its process, and a closed connection gives up its lock. -/
theorem step_cases (hs : step pools w a = some w') :
    (∃ conn depth, a = .tryLock conn ∧ w.sweeping conn.process = false ∧
      (w.lock = none ∧ depth = 1 ∨ ∃ d, w.lock = some (conn, d)) ∧
      w' = ⟨some (conn, depth), update w.sweeping conn.process true⟩) ∨ w' = w ∨
    (∃ conn, a = .unlock conn ∧ w.sweeping conn.process ∧
      w' = ⟨advisoryUnlock w.lock conn, update w.sweeping conn.process false⟩) ∨
    (∃ p, a = .unlockFails p ∧ w.sweeping p ∧ w' = ⟨w.lock, update w.sweeping p false⟩) ∨
    ∃ conn, a = .close conn ∧ w' = ⟨released w.lock conn, w.sweeping⟩ := by
  obtain ⟨lock, sweeping⟩ := w
  cases a with
  | tryLock conn =>
    simp only [step, Option.ite_none_right_eq_some] at hs
    obtain ⟨⟨-, hidle⟩, hs⟩ := hs
    cases hs
    rcases lock with _ | ⟨holder, depth⟩
    · exact .inl ⟨conn, 1, rfl, hidle, .inl ⟨rfl, rfl⟩, rfl⟩
    · by_cases hsame : holder = conn
      · subst hsame
        refine .inl ⟨holder, depth + 1, rfl, hidle, .inr ⟨depth, rfl⟩, ?_⟩
        simp [tryAdvisoryLock]
      · exact .inr (.inl (by simp [tryAdvisoryLock, hsame]))
  | unlock conn =>
    simp only [step, Option.ite_none_right_eq_some] at hs
    obtain ⟨⟨-, hsweeps⟩, hs⟩ := hs
    cases hs
    exact .inr (.inr (.inl ⟨conn, rfl, hsweeps, rfl⟩))
  | unlockFails p =>
    simp only [step, Option.ite_none_right_eq_some] at hs
    obtain ⟨hsweeps, hs⟩ := hs
    cases hs
    exact .inr (.inr (.inr (.inl ⟨p, rfl, hsweeps, rfl⟩)))
  | close conn =>
    simp only [step, Option.ite_none_right_eq_some] at hs
    obtain ⟨-, hs⟩ := hs
    cases hs
    exact .inr (.inr (.inr (.inr ⟨conn, rfl, rfl⟩)))

/-- What is left of a lock when a connection is closed is the lock of another one. -/
theorem released_eq_some (h : released lock conn = some held) : lock = some held ∧ held.1 ≠ conn := by
  unfold released at h
  split at h
  · cases h
  · split at h
    · cases h
    · next hne =>
      cases h
      exact ⟨rfl, hne⟩

/-- A process that sweeps has the lock on one of its connections. -/
def Owned (w : World) : Prop :=
  ∀ p, w.sweeping p = true → ∃ holder depth, w.lock = some (holder, depth) ∧ holder.process = p

theorem Owned.unique (h : Owned w) (hp : w.sweeping p) (hq : w.sweeping q) : p = q := by
  obtain ⟨_, _, hheld, hprocess⟩ := h p hp
  obtain ⟨_, _, hheld', hprocess'⟩ := h q hq
  rw [hheld] at hheld'
  cases hheld'
  exact hprocess.symm.trans hprocess'

/-- The end of another process' sweep changes nothing for those that go on. -/
theorem Owned.ended (h : Owned w) (hsweeps : w.sweeping q) :
    Owned ⟨lock, update w.sweeping q false⟩ := by
  intro p hp
  change update w.sweeping _ _ p = true at hp
  by_cases hproc : p = q
  · rw [hproc, update_self] at hp
    cases hp
  · rw [update_of_ne hproc] at hp
    exact absurd (h.unique hp hsweeps) hproc

theorem step_owned (h : Owned w) (hc : keepsHolder w a) (hs : step pools w a = some w') :
    Owned w' := by
  obtain ⟨conn, depth, -, hidle, hlock, rfl⟩ | rfl | ⟨conn, -, hsweeps, rfl⟩ | ⟨q, -, hsweeps, rfl⟩ |
    ⟨conn, rfl, rfl⟩ := step_cases hs
  · intro p hp
    change update w.sweeping _ _ p = true at hp
    refine ⟨conn, depth, rfl, ?_⟩
    by_contra hproc
    rw [update_of_ne (Ne.symm hproc)] at hp
    -- another process that sweeps would have the lock
    obtain ⟨_, _, hheld, hprocess⟩ := h p hp
    obtain ⟨hfree, -⟩ | ⟨d, hown⟩ := hlock
    · rw [hheld] at hfree
      cases hfree
    · rw [hheld] at hown
      cases hown
      exact hproc hprocess
  · exact h
  · exact h.ended hsweeps
  · exact h.ended hsweeps
  · intro p hp
    obtain ⟨holder, depth, hheld, hprocess⟩ := h p hp
    refine ⟨holder, depth, ?_, hprocess⟩
    -- the closed connection is not the one with the lock of the sweep
    have hne : holder ≠ conn := by
      rintro rfl
      have hidle := hc depth hheld
      rw [hprocess, hp] at hidle
      cases hidle
    show released w.lock conn = _
    rw [hheld, released, if_neg hne]

/-- The lock is free, or taken once by a process that sweeps. -/
def Tidy (w : World) : Prop :=
  ∀ holder depth, w.lock = some (holder, depth) → depth = 1 ∧ w.sweeping holder.process = true

theorem step_tidy (h : Tidy w) (hc : onHolder w a) (hs : step pools w a = some w') : Tidy w' := by
  obtain ⟨conn, depth, -, hidle, hlock, rfl⟩ | rfl | ⟨conn, rfl, -, rfl⟩ | ⟨p, rfl, -, rfl⟩ |
    ⟨conn, rfl, rfl⟩ := step_cases hs
  · rintro holder d ⟨⟩
    obtain ⟨-, hdepth⟩ | ⟨d, hown⟩ := hlock
    · exact ⟨hdepth, update_self ..⟩
    · -- a lock its connection has already would be that of a sweep
      have hsweeps := (h conn d hown).2
      rw [hidle] at hsweeps
      cases hsweeps
  · exact h
  · intro holder d (hlock : advisoryUnlock w.lock conn = _)
    cases hheld : w.lock with
    | none =>
      rw [hheld] at hlock
      cases hlock
    | some held =>
      obtain ⟨other, depth⟩ := held
      obtain ⟨rfl, hsweeps⟩ := h other depth hheld
      rw [hheld] at hlock
      by_cases hsame : other = conn
      · simp [advisoryUnlock, hsame] at hlock
      · rw [advisoryUnlock, if_neg hsame] at hlock
        cases hlock
        -- it is the lock of another process, whose sweep goes on
        have hproc : holder.process ≠ conn.process := fun hp => hsame (hc holder 1 hheld hp)
        exact ⟨rfl, (update_of_ne hproc ..).trans hsweeps⟩
  · intro holder d (hlock : w.lock = _)
    obtain ⟨hdepth, hsweeps⟩ := h holder d hlock
    exact ⟨hdepth, (update_of_ne (hc holder d hlock) ..).trans hsweeps⟩
  · intro holder d hlock
    exact h holder d (released_eq_some hlock).1

/-- **SWEEPS EXCLUDE EACH OTHER.** Whatever connections the statements run on, as long as none is
closed that has the lock of a sweep, two processes never sweep at the same time. And if every
process that has the lock releases it on the connection that has it, then it is free whenever no
process sweeps. -/
theorem sweeps_exclude_each_other (pools : Nat → Nat) : (∀ w, Runs (step pools) keepsHolder {} w →
      ∀ p q, w.sweeping p = true → w.sweeping q = true → p = q) ∧
    ∀ w, Runs (step pools) onHolder {} w → (∀ p, w.sweeping p = false) → w.lock = none := by
  refine ⟨fun w hw p q hp hq => ?_, fun w hw hidle => ?_⟩
  · have howned : Owned w := hw.invariant Owned nofun
      fun _ _ _ h hc hs => step_owned h hc hs
    exact howned.unique hp hq
  · have htidy : Tidy w := hw.invariant Tidy nofun
      fun _ _ _ h hc hs => step_tidy h hc hs
    cases hlock : w.lock with
    | none => rfl
    | some held =>
      obtain ⟨holder, depth⟩ := held
      have hsweeps := (htidy holder depth hlock).2
      rw [hidle] at hsweeps
      cases hsweeps

/-- **A LOCK THAT IS LEFT BEHIND**: taken on one connection of a pool of two and released on the
other, it stays, and no other process ever sweeps again. -/
theorem lock_left_behind : ∃ w, Runs (step fun _ => 2) anyStep {} w ∧ (∀ p, w.sweeping p = false) ∧
      w.lock = some (⟨0, 0⟩, 1) ∧ ∀ conn, conn.process ≠ 0 → (tryAdvisoryLock w.lock conn).2 = false := by
  refine ⟨⟨some (⟨0, 0⟩, 1), update (update (fun _ => false) 0 true) 0 false⟩,
    .snoc (.snoc .refl (a := .tryLock ⟨0, 0⟩) trivial rfl) (a := .unlock ⟨0, 1⟩) trivial rfl,
    fun p => ?_, rfl, fun conn hconn => ?_⟩
  · by_cases hp : p = 0 <;> simp [hp]
  · have hne : (⟨0, 0⟩ : Connection) ≠ conn := by
      rintro rfl
      exact hconn rfl
    simp [tryAdvisoryLock, hne]

/-! ## §2. The sweep -/

/-- An object of the bucket. -/
structure StoredObject where
  photo : PhotoId
  variant : PhotoVariant
  stored : Timestamp
  /-- `stored_at` of the metadata, if it is there and can be read. -/
  storedAt : Option Timestamp

abbrev Bucket := List StoredObject

/-- `PhotoGcConfig`. -/
structure PhotoGcConfig where
  maxAge : Nat
  batchSize : Nat
  dryRun : Bool := false

/-- `projection_photo_gc_run`. -/
structure GcRun where
  scanned : Nat
  orphansFound : Nat
  orphansDeleted : Nat
  dryRun : Bool

/-- What `map_storage_error` makes of a missing original: a validation error that names its key, as the
error is not a temporary one. -/
structure AccessError where
  photo : PhotoId
  deriving DecidableEq

/-- `PhotoStorage::list`. -/
def listed (bucket : Bucket) : List PhotoId :=
  (Tables.orderBy (·.uuid.asU128.toNat) (bucket.map (·.photo))).dedup

/-- `fetch_stored_at` of the original. The error of a missing object says "NotFound" where the code
looks for "Not Found" and "ObjectNotExist", so it is passed on. -/
def fetchStoredAt (bucket : Bucket) (id : PhotoId) : Except AccessError (Option Timestamp) :=
  match bucket.find? fun o => o.photo = id && o.variant = .original with
  | none => .error ⟨id⟩
  | some o => .ok o.storedAt

/-- `PhotoStorage::delete_all`: there are no other variants than the three. -/
def deleteAll (bucket : Bucket) (id : PhotoId) : Bucket := bucket.filter (·.photo ≠ id)

/-- The listed photos that the database does not know. -/
def orphans (known : List PhotoId) (bucket : Bucket) : List PhotoId :=
  (listed bucket).filter (· ∉ known)

/-- The photo has an original. -/
def hasOriginal (bucket : Bucket) (id : PhotoId) : Bool := (fetchStoredAt bucket id).toBool

/-- The original says that the photo is old enough. -/
def deletable (config : PhotoGcConfig) (now : Timestamp) (bucket : Bucket) (id : PhotoId) : Bool :=
  match fetchStoredAt bucket id with
  | .ok storedAt => storedAt.any (· + config.maxAge ≤ now)
  | .error _ => false

/-- The loop over the batch, with the number of deleted orphans. An error ends it; what was deleted
before stays deleted. -/
def collect (config : PhotoGcConfig) (now : Timestamp) :
    List PhotoId → Bucket × Nat → Bucket × Except AccessError Nat
  | [], (bucket, deleted) => (bucket, .ok deleted)
  | id :: rest, (bucket, deleted) =>
    match fetchStoredAt bucket id with
    | .error e => (bucket, .error e)
    | .ok storedAt =>
      if storedAt.any (· + config.maxAge ≤ now) && !config.dryRun then
        collect config now rest (deleteAll bucket id, deleted + 1)
      else collect config now rest (bucket, deleted)

/-- `try_run_sweep`. A sweep that fails writes no history. -/
def tryRunSweep (config : PhotoGcConfig) (known : List PhotoId) (bucket : Bucket) (now : Timestamp) :
    Bucket × Except AccessError GcRun :=
  let found := orphans known bucket
  let (bucket', collected) := collect config now (found.take config.batchSize) (bucket, 0)
  (bucket', collected.map fun deleted =>
    ⟨(listed bucket).length, found.length, deleted, config.dryRun⟩)

/-- The bucket after sweeps at these times; the scheduler goes on after one that fails. -/
def sweeps (config : PhotoGcConfig) (known : List PhotoId) (bucket : Bucket)
    (times : List Timestamp) : Bucket :=
  times.foldl (fun bucket now => (tryRunSweep config known bucket now).1) bucket

/-! ## §3. Batches of a worklist -/

section Worklist

variable {α : Type} {batch : Nat} {x : α} {before after : List α} {done : α → Bool}

/-- What is left of a worklist when those of the first `batch` entries are dropped that are done. -/
def leave (batch : Nat) (work : List α) (done : α → Bool) : List α :=
  (work.take batch).filter (!done ·) ++ work.drop batch

theorem leave_sublist (batch work) (done : α → Bool) : (leave batch work done).Sublist work := by
  conv_rhs => rw [← take_append_drop batch work]
  exact filter_sublist.append_right _

theorem mem_leave (hnodup : work.Nodup) :
    x ∈ leave batch work done ↔ x ∈ work ∧ ¬ (x ∈ work.take batch ∧ done x) := by
  rw [← take_append_drop batch work] at hnodup
  have hnot : x ∈ work.take batch → x ∉ work.drop batch :=
    fun ht hd => (nodup_append.mp hnodup).2.2 x ht x hd rfl
  have hmem : x ∈ work ↔ x ∈ work.take batch ∨ x ∈ work.drop batch := by
    rw [← mem_append, take_append_drop]
  rw [leave, mem_append, mem_filter, hmem]
  grind

theorem foldl_leave_sublist (work) (dones : List (α → Bool)) :
    (dones.foldl (leave batch) work).Sublist work := by
  induction dones generalizing work with
  | nil => exact .refl work
  | cons done dones ih => exact (ih _).trans (leave_sublist batch work done)

/-- Behind a full batch an entry stays, and so does what is behind it. -/
theorem leave_behind (h : batch ≤ before.length) :
    leave batch (before ++ x :: after) done = leave batch before done ++ x :: after := by
  unfold leave
  rw [take_append_of_le_length h, drop_append_of_le_length h, append_assoc]

/-- **AN ENTRY IS REACHED** if it can be done and fewer than `batch` entries before it can not: every
batch does it or one before it. -/
theorem foldl_leave_done {done₀ : α → Bool} {dones : List (α → Bool)}
    (hdones : ∀ done ∈ dones, ∀ a, done₀ a → done a) (hx : done₀ x)
    (hstuck : before.countP (!done₀ ·) < batch) (hlen : before.length < dones.length)
    (hbefore : x ∉ before) (hafter : x ∉ after) :
    x ∉ dones.foldl (leave batch) (before ++ x :: after) := by
  -- along the batches; the entries before `x` get fewer with each
  induction dones generalizing before with
  | nil => simp at hlen
  | cons done dones ih =>
    have hdone := hdones done mem_cons_self
    rw [foldl_cons]
    by_cases hfull : batch ≤ before.length
    · rw [leave_behind hfull]
      have hsub := leave_sublist batch before done
      refine ih (fun d hd => hdones d (mem_cons_of_mem _ hd))
        (Nat.lt_of_le_of_lt hsub.countP_le hstuck) ?_ (fun h => hbefore (hsub.subset h))
      -- not all of the batch are stuck
      have hcount : (before.take batch).countP (!done ·) < batch := by
        refine Nat.lt_of_le_of_lt (Nat.le_trans ?_ (take_sublist batch before).countP_le) hstuck
        refine countP_mono_left fun a _ ha => ?_
        by_contra hno
        simp_all
      have hlength : (leave batch before done).length < before.length := by
        unfold leave
        rw [length_append, length_drop, ← countP_eq_length_filter]
        omega
      rw [length_cons] at hlen
      omega
    · -- this batch reaches it
      intro hmem
      have hmem := (foldl_leave_sublist _ dones).subset hmem
      rw [leave, take_append, drop_append, take_of_length_le (by omega),
        drop_of_length_le (by omega : before.length ≤ batch)] at hmem
      obtain ⟨k, hk⟩ : ∃ k, batch - before.length = k + 1 := ⟨batch - before.length - 1, by omega⟩
      rw [hk, take_succ_cons, drop_succ_cons, nil_append, mem_append, mem_filter, mem_append,
        mem_cons] at hmem
      obtain ⟨-, hstill⟩ | hrest := hmem
      · rw [hdone x hx] at hstill
        cases hstill
      · exact hafter (mem_of_mem_drop hrest)

/-- An entry that can not be done stays. -/
theorem mem_foldl_leave (hx : done x = false) (hmem : x ∈ work) (n) :
    x ∈ (replicate n done).foldl (leave batch) work := by
  induction n generalizing work with
  | zero => exact hmem
  | succ n ih =>
    refine ih ?_
    rw [← take_append_drop batch work, mem_append] at hmem
    rw [leave, mem_append, mem_filter]
    exact hmem.imp_left fun h => ⟨h, by rw [hx]; rfl⟩

/-- So does one with a whole batch of such entries before it. -/
theorem mem_foldl_leave_stuck (hstuck : batch ≤ before.countP (!done ·)) (n) :
    x ∈ (replicate n done).foldl (leave batch) (before ++ x :: after) := by
  induction n generalizing before with
  | zero => simp
  | succ n ih =>
    rw [replicate_succ, foldl_cons, leave_behind (Nat.le_trans hstuck countP_le_length)]
    refine ih (Nat.le_trans hstuck ?_)
    conv_lhs => rw [← take_append_drop batch before]
    rw [leave, countP_append, countP_append, countP_filter]
    simp

/-- …until the first entry at which the work is given up. -/
def leaveBefore (batch : Nat) (goes : α → Bool) (work : List α) (done : α → Bool) : List α :=
  leave batch (work.takeWhile goes) done ++ work.dropWhile goes

theorem leaveBefore_sublist (batch goes work) (done : α → Bool) :
    (leaveBefore batch goes work done).Sublist work := by
  conv_rhs => rw [← takeWhile_append_dropWhile (p := goes) (l := work)]
  exact (leave_sublist ..).append_right _

/-- **BATCH AFTER BATCH** the entries in front of that one are worked off, and the others never. -/
theorem foldl_leaveBefore (goes work) (dones : List (α → Bool)) :
    dones.foldl (leaveBefore batch goes) work =
      dones.foldl (leave batch) (work.takeWhile goes) ++ work.dropWhile goes := by
  induction dones generalizing work with
  | nil => exact takeWhile_append_dropWhile.symm
  | cons done dones ih =>
    rw [foldl_cons, foldl_cons, ih, leaveBefore]
    -- what is left in front goes, and behind it stands the same entry
    have hfront : ∀ a ∈ leave batch (work.takeWhile goes) done, goes a :=
      fun a ha => mem_takeWhile_imp ((leave_sublist ..).subset ha)
    have hend : (work.dropWhile goes).takeWhile goes = [] := by
      have hsplit := takeWhile_append_dropWhile (p := goes) (l := work.dropWhile goes)
      rw [dropWhile_idempotent] at hsplit
      exact append_left_eq_self.mp hsplit
    rw [takeWhile_append_of_pos hfront, dropWhile_append_of_pos hfront, hend, append_nil,
      dropWhile_idempotent]

/-- What is worked off at all. -/
theorem takeWhile_reaches {goes : α → Bool} (hbefore : x ∉ before) :
    x ∈ (before ++ x :: after).takeWhile goes ↔ goes x ∧ ∀ a ∈ before, goes a := by
  induction before with
  | nil => by_cases hx : goes x <;> simp [hx]
  | cons b before ih =>
    rw [mem_cons, not_or] at hbefore
    by_cases hgoes : goes b = true
    · simp [hgoes, ih hbefore.2, hbefore.1]
    · simp [hgoes]

end Worklist

/-! ## §4. Sweep by sweep -/

section Sweeps

variable {config : PhotoGcConfig} {known : List PhotoId} {bucket : Bucket} {now : Timestamp}
  {id : PhotoId}

theorem mem_listed : id ∈ listed bucket ↔ ∃ o ∈ bucket, o.photo = id := by
  unfold listed
  rw [mem_dedup, (Tables.orderBy_perm ..).mem_iff, mem_map]

theorem mem_orphans_filter {p : PhotoId → Bool} : id ∈ orphans known (bucket.filter (p ·.photo)) ↔
    p id ∧ id ∈ orphans known bucket := by
  unfold orphans
  rw [mem_filter, mem_filter, mem_listed, mem_listed]
  simp only [mem_filter]
  refine ⟨?_, ?_⟩
  · rintro ⟨⟨o, ⟨ho, hp⟩, rfl⟩, hknown⟩
    exact ⟨hp, ⟨o, ho, rfl⟩, hknown⟩
  · rintro ⟨hp, ⟨o, ho, rfl⟩, hknown⟩
    exact ⟨⟨o, ⟨ho, hp⟩, rfl⟩, hknown⟩

theorem nodup_orphans (known bucket) : (orphans known bucket).Nodup := (nodup_dedup _).filter _

theorem orphans_sorted (known bucket) :
    (orphans known bucket).Pairwise fun a b => a.uuid.asU128.toNat ≤ b.uuid.asU128.toNat :=
  ((Tables.orderBy_pairwise _ _).sublist (dedup_sublist _)).filter _

section

variable {p : PhotoId → Bool}

/-- Objects of other photos do not count. -/
theorem fetchStoredAt_filter (hp : p id) :
    fetchStoredAt (bucket.filter (p ·.photo)) id = fetchStoredAt bucket id := by
  unfold fetchStoredAt
  rw [find?_filter]
  congr 2
  funext o
  by_cases hid : o.photo = id
  · simp [hid, hp]
  · simp [hid]

theorem hasOriginal_filter (hp : p id) :
    hasOriginal (bucket.filter (p ·.photo)) id = hasOriginal bucket id := by
  unfold hasOriginal
  rw [fetchStoredAt_filter hp]

theorem deletable_filter (hp : p id) :
    deletable config now (bucket.filter (p ·.photo)) id = deletable config now bucket id := by
  unfold deletable
  rw [fetchStoredAt_filter hp]

theorem takeWhile_hasOriginal_filter {ids : List PhotoId} (hp : ∀ id ∈ ids, p id) :
    ids.takeWhile (hasOriginal (bucket.filter (p ·.photo))) = ids.takeWhile (hasOriginal bucket) := by
  induction ids with
  | nil => rfl
  | cons id ids ih =>
    rw [takeWhile_cons, takeWhile_cons, hasOriginal_filter (hp id mem_cons_self),
      ih fun id' hid => hp id' (mem_cons_of_mem _ hid)]

end

/-- What a batch deletes: what is deletable in front of the first orphan without an original. -/
theorem collect_bucket (hdry : config.dryRun = false) {ids : List PhotoId} (hnodup : ids.Nodup)
    (n : Nat) : (collect config now ids (bucket, n)).1 = bucket.filter fun o =>
      !(o.photo ∈ ids.takeWhile (hasOriginal bucket) && deletable config now bucket o.photo) := by
  induction ids generalizing bucket n with
  | nil => simp [collect]
  | cons id ids ih =>
    obtain ⟨hnew, hnodup⟩ := nodup_cons.mp hnodup
    cases hfetch : fetchStoredAt bucket id with
    | error =>
      have hno : hasOriginal bucket id = false := by rw [hasOriginal, hfetch]; rfl
      simp [collect, hfetch, hno]
    | ok storedAt =>
      have hhas : hasOriginal bucket id = true := by rw [hasOriginal, hfetch]; rfl
      have hdel : deletable config now bucket id = storedAt.any (· + config.maxAge ≤ now) := by
        rw [deletable, hfetch]
      rw [collect, hfetch, takeWhile_cons, if_pos hhas]
      dsimp only
      rw [hdry, Bool.not_false, Bool.and_true, ← hdel]
      split
      · next hdeletes =>
        have hother : ∀ id' ∈ ids, decide (id' ≠ id) = true := by
          rintro id' hid
          exact decide_eq_true (ne_of_mem_of_not_mem hid hnew)
        rw [ih hnodup, deleteAll, takeWhile_hasOriginal_filter hother, filter_filter]
        refine filter_congr fun o _ => ?_
        by_cases hid : o.photo = id
        · simp [hid, hdeletes]
        · rw [deletable_filter (p := (· ≠ id)) (by simpa using hid)]
          simp [hid]
      · next hkeeps =>
        rw [ih hnodup]
        refine filter_congr fun o _ => ?_
        by_cases hid : o.photo = id
        · simp [hid, hkeeps]
        · simp [hid]

/-- **ONE SWEEP** of what earlier ones have left: the orphans are a worklist, it takes a batch, and
gives up at an orphan without an original. -/
theorem orphans_sweep (hdry : config.dryRun = false) (known bucket now) (p : PhotoId → Bool) :
    ∃ p' : PhotoId → Bool,
      (tryRunSweep config known (bucket.filter (p ·.photo)) now).1 = bucket.filter (p' ·.photo) ∧
      orphans known (bucket.filter (p' ·.photo)) =
        leaveBefore config.batchSize (hasOriginal bucket) (orphans known (bucket.filter (p ·.photo)))
          (deletable config now bucket) := by
  generalize hleft : orphans known (bucket.filter (p ·.photo)) = left
  have hnodup : left.Nodup := hleft ▸ nodup_orphans known _
  have hp : ∀ id ∈ left, p id := fun id hid => (mem_orphans_filter.mp (hleft ▸ hid)).1
  -- the orphans the sweep looks at before it gives up
  generalize hcut : left.takeWhile (hasOriginal bucket) = cut
  have hseen : (left.take config.batchSize).takeWhile (hasOriginal (bucket.filter (p ·.photo))) =
      cut.take config.batchSize := by
    rw [takeWhile_hasOriginal_filter fun id hid => hp id (mem_of_mem_take hid), ← take_takeWhile, hcut]
  obtain ⟨p', hp'⟩ : ∃ p' : PhotoId → Bool, p' = fun id => !(id ∈ cut.take config.batchSize &&
    deletable config now (bucket.filter (p ·.photo)) id) && p id := ⟨_, rfl⟩
  refine ⟨p', ?_, ?_⟩
  · show (collect config now ((orphans known _).take config.batchSize) _).1 = _
    rw [hleft, collect_bucket hdry (hnodup.sublist (take_sublist ..)), filter_filter, hseen, hp']
  · -- both sides are sorted and without repetitions, and have the same members
    have hsub := leaveBefore_sublist config.batchSize (hasOriginal bucket) left
      (deletable config now bucket)
    refine Perm.eq_of_pairwise ?_ (orphans_sorted known _) (.sublist hsub
      (hleft ▸ orphans_sorted known _)) ((perm_ext_iff_of_nodup (nodup_orphans known _)
        (hnodup.sublist hsub)).mpr fun id => ?_)
    · rintro ⟨⟨a⟩⟩ ⟨⟨b⟩⟩ - - hab hba
      exact congrArg (PhotoId.mk ∘ Uuid.mk) (BitVec.eq_of_toNat_eq (Nat.le_antisymm hab hba))
    · have hsplit := takeWhile_append_dropWhile (p := hasOriginal bucket) (l := left)
      rw [hcut] at hsplit
      rw [← hsplit, nodup_append] at hnodup
      have hmem : id ∈ left ↔ id ∈ cut ∨ id ∈ left.dropWhile (hasOriginal bucket) := by
        rw [← mem_append, hsplit]
      have hnot : id ∈ cut.take config.batchSize → id ∉ left.dropWhile (hasOriginal bucket) :=
        fun hin hout => hnodup.2.2 id (mem_of_mem_take hin) id hout rfl
      rw [leaveBefore, hcut, mem_append, mem_leave hnodup.1, mem_orphans_filter, hp']
      have horphan : p id = true ∧ id ∈ orphans known bucket ↔ id ∈ left := by
        rw [← hleft, mem_orphans_filter]
      by_cases hin : p id = true
      · dsimp only
        rw [deletable_filter hin]
        simp only [hin, true_and] at horphan
        rw [horphan, hmem]
        grind
      · have hout : id ∉ left := fun h => hin (hp id h)
        grind

/-- **EVERY SWEEP** takes its batch of what the ones before have left. -/
theorem orphans_sweeps (hdry : config.dryRun = false) (times) :
    orphans known (sweeps config known bucket times) =
      (times.map fun now => deletable config now bucket).foldl
        (leaveBefore config.batchSize (hasOriginal bucket)) (orphans known bucket) := by
  suffices hleft : ∀ p : PhotoId → Bool,
      orphans known (sweeps config known (bucket.filter (p ·.photo)) times) =
        (times.map fun now => deletable config now bucket).foldl
          (leaveBefore config.batchSize (hasOriginal bucket))
          (orphans known (bucket.filter (p ·.photo))) by
    simpa using hleft fun _ => true
  induction times with
  | nil => exact fun _ => rfl
  | cons now times ih =>
    intro p
    obtain ⟨p', hbucket, horphans⟩ := orphans_sweep hdry known bucket now p
    rw [map_cons, foldl_cons, ← horphans, ← ih p', ← hbucket]
    rfl

theorem deletable_mono (h : now ≤ later)
    (hdel : deletable config now bucket id) : deletable config later bucket id := by
  unfold deletable at hdel ⊢
  split at hdel
  · rw [Option.any_eq_true] at hdel ⊢
    obtain ⟨at', hat, hage⟩ := hdel
    exact ⟨at', hat, decide_eq_true (Nat.le_trans (of_decide_eq_true hage) h)⟩
  · cases hdel

theorem hasOriginal_of_deletable (h : deletable config now bucket id) : hasOriginal bucket id := by
  unfold deletable at h
  unfold hasOriginal
  split at h
  · next hfetch =>
    rw [hfetch]
    rfl
  · cases h

/-- The objects of the photo are all older than the age gate. -/
def Aged (config : PhotoGcConfig) (start : Timestamp) (bucket : Bucket) (id : PhotoId) : Prop :=
  ∀ o ∈ bucket, o.photo = id → o.stored + config.maxAge ≤ start

/-- As many sweeps as there are orphans, none before `start`, leave nothing of those that are aged. -/
def Collects (config : PhotoGcConfig) (known : List PhotoId) (bucket : Bucket) (start : Timestamp) :
    Prop :=
  ∀ times : List Timestamp, times.length = (orphans known bucket).length →
    (∀ now ∈ times, start ≤ now) → ∀ id ∈ orphans known bucket, Aged config start bucket id →
      ∀ o ∈ sweeps config known bucket times, o.photo ≠ id

/-- An orphan is gone when it is not listed any more. -/
theorem gone_iff (hid : id ∈ orphans known bucket) :
    (∀ o ∈ left, o.photo ≠ id) ↔ id ∉ orphans known left := by
  unfold orphans at hid ⊢
  rw [mem_filter, mem_listed, not_and_or, not_exists]
  have hknown := (mem_filter.mp hid).2
  simp [hknown]

/-- **WHAT IS COLLECTED.** The aged orphans are gone after as many sweeps as there are orphans
exactly if each of them has an original that says it is old enough, every orphan listed before it
has an original, and for fewer than `batch_size` of those it does not say so. -/
theorem collects_iff {start : Timestamp} (hdry : config.dryRun = false) :
    Collects config known bucket start ↔
      ∀ before id after, orphans known bucket = before ++ id :: after → Aged config start bucket id →
        deletable config start bucket id = true ∧ (∀ other ∈ before, hasOriginal bucket other = true) ∧
          before.countP (!deletable config start bucket ·) < config.batchSize := by
  have hnodup := nodup_orphans known bucket
  constructor
  · -- sweeps that all start at `start` delete nothing else
    intro h before id after hlist haged
    have hid : id ∈ orphans known bucket := by simp [hlist]
    have hgone := h (replicate (orphans known bucket).length start) length_replicate
      (fun now hnow => (eq_of_mem_replicate hnow).ge) id hid haged
    rw [hlist, nodup_append] at hnodup
    have hbefore : id ∉ before := fun hmem => hnodup.2.2 id hmem id mem_cons_self rfl
    rw [gone_iff hid, orphans_sweeps hdry, map_replicate, foldl_leaveBefore, mem_append, not_or] at hgone
    obtain ⟨hgone, hreached⟩ := hgone
    rw [← takeWhile_append_dropWhile (p := hasOriginal bucket) (l := orphans known bucket),
      mem_append] at hid
    have hcut := hid.resolve_right hreached
    have hgoes := hcut
    rw [hlist, takeWhile_reaches hbefore] at hgoes
    refine ⟨?_, hgoes.2, ?_⟩
    · by_contra hundated
      exact hgone (mem_foldl_leave (Bool.not_eq_true _ ▸ hundated) hcut _)
    · by_contra hstuck
      conv at hgone => rw [hlist]
      rw [takeWhile_append_of_pos hgoes.2, takeWhile_cons, if_pos hgoes.1] at hgone
      exact hgone (mem_foldl_leave_stuck (Nat.not_lt.mp hstuck) _)
  · intro h times hlen hstart id hid haged
    rw [gone_iff hid, orphans_sweeps hdry, foldl_leaveBefore, mem_append, not_or]
    obtain ⟨before, after, hlist⟩ := append_of_mem hid
    obtain ⟨hdel, hgoes, hstuck⟩ := h before id after hlist haged
    rw [hlist, nodup_append, nodup_cons] at hnodup
    rw [hlist, length_append, length_cons] at hlen
    have hsame : hasOriginal bucket id = true := hasOriginal_of_deletable hdel
    rw [hlist, takeWhile_append_of_pos hgoes, dropWhile_append_of_pos hgoes, takeWhile_cons,
      dropWhile_cons, if_pos hsame, if_pos hsame]
    refine ⟨foldl_leave_done ?_ hdel hstuck (by rw [length_map]; omega)
      (fun hmem => hnodup.2.2 id hmem id mem_cons_self rfl)
      (fun hmem => hnodup.2.1.1 ((takeWhile_sublist _).subset hmem)),
      fun hmem => hnodup.2.1.1 ((dropWhile_sublist _).subset hmem)⟩
    rintro done hdone a ha
    obtain ⟨now, hnow, rfl⟩ := mem_map.mp hdone
    exact deletable_mono (hstart now hnow) ha

end Sweeps

/-- Two originals, the first of them younger. -/
def youngAndOld : Bucket :=
  [⟨⟨⟨1⟩⟩, .original, 5, some 5⟩, ⟨⟨⟨2⟩⟩, .original, 0, some 0⟩]

/-- A batch of two gets past a photo that is too young. -/
theorem collects_iff_two : Collects ⟨10, 2, false⟩ [] youngAndOld 10 := by
  refine (collects_iff rfl).mpr fun before id after hlist haged => ?_
  have hlist : [⟨⟨1⟩⟩, ⟨⟨2⟩⟩] = before ++ id :: after := hlist
  obtain _ | ⟨a, _ | ⟨b, before⟩⟩ := before
  · obtain ⟨rfl, rfl⟩ := cons.inj hlist
    have hyoung := haged _ mem_cons_self rfl
    exact absurd hyoung (by decide)
  · obtain ⟨rfl, h⟩ := cons.inj hlist
    obtain ⟨rfl, rfl⟩ := cons.inj h
    decide
  · simp at hlist

/-- Of the first photo only the thumbnail is left; both are old. -/
def halfGone : Bucket := [⟨⟨⟨1⟩⟩, .thumb, 0, some 0⟩, ⟨⟨⟨2⟩⟩, .original, 0, some 0⟩]

/-- **THE OLD ORPHANS STAY**: the first has no original, every sweep ends with its error, and none
gets to the second. -/
theorem old_orphans_stay :
    orphans [] halfGone = [⟨⟨1⟩⟩, ⟨⟨2⟩⟩] ∧ (∀ id, Aged ⟨10, 1000, false⟩ 10 halfGone id) ∧
      ∀ times, sweeps ⟨10, 1000, false⟩ [] halfGone times = halfGone := by
  refine ⟨by decide, fun id o ho _ => ?_, fun times => ?_⟩
  · simp only [halfGone, mem_cons, not_mem_nil, or_false] at ho
    obtain rfl | rfl := ho <;> decide
  · induction times with
    | nil => rfl
    | cons now times ih => exact ih

end Breakdown.Collector
