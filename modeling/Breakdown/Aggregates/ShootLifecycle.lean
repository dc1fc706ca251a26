/-
**THE LIFE OF A SCENE SHOOT**
(`core/src/scene_shoot/aggregate.rs`).

A scene shoot is planned, executed and then shot or skipped. Two different events can start the
execution, the start itself and the actual order, and several rules depend on whether one of them
has happened.

- `Emits`, `handle_cases`: what each accepted command records, and what it found;
- `ShootRun`: the streams that start with the planning, event by event;
- `Lifecycle`: how status, orders, times and photos of a shoot hang together;
- `scene_shoot_lifecycle`: all of it holds in every history; the start, the planned order and the
  end of the life are final.
-/
import Mathlib.Data.List.Nodup
import Breakdown.Aggregates.Versions
import Breakdown.EventStore.EventRuns

namespace Breakdown

open Fallible List Entity

namespace SceneShootAggregate

/-! ## §1. What commands record -/

/-- The events that a shoot lets commands record after it was planned. -/
inductive Emits (self : SceneShootAggregate) : SceneShootEvent → Prop
  | replanned (plannedOrder : LexicalSortKey) (hopen : self.isTerminal = false)
      (hfree : self.hasExecutionData = false) :
      Emits self (.sceneShootReplanned self.id plannedOrder self.version.next)
  | started (startDt : Timestamp) (hopen : self.isTerminal = false) (hnew : self.startDt = none) :
      Emits self (.sceneShootStarted self.id startDt self.version.next)
  | actualOrderSet (actualOrder : LexicalSortKey) (hopen : self.isTerminal = false) :
      Emits self (.sceneShootActualOrderSet self.id actualOrder self.version.next)
  | finished (endDt : Timestamp) (hprogress : self.status = .inProgress) :
      Emits self (.sceneShootFinished self.id endDt self.version.next)
  | skipped (hopen : self.isTerminal = false) :
      Emits self (.sceneShootSkipped self.id self.version.next)
  | noteAdded (noteId : Uuid) (body : String) (author : Option UserId)
      (hopen : self.isTerminal = false) :
      Emits self (.shootDayNoteAdded self.id noteId body author self.version.next)
  | noteUpdated (noteId : Uuid) (body : String) (hopen : self.isTerminal = false)
      (hmem : self.notes.any (·.id = noteId) = true) :
      Emits self (.shootDayNoteUpdated self.id noteId body self.version.next)
  | noteRemoved (noteId : Uuid) (hopen : self.isTerminal = false)
      (hmem : self.notes.any (·.id = noteId) = true) :
      Emits self (.shootDayNoteRemoved self.id noteId self.version.next)
  | photoLinked (photoId : PhotoId) (hopen : self.isTerminal = false)
      (hnew : photoId ∉ self.continuityPhotos) :
      Emits self (.continuityPhotoLinked self.id photoId self.version.next)
  | photoUnlinked (photoId : PhotoId) (hopen : self.isTerminal = false) :
      Emits self (.continuityPhotoUnlinked self.id photoId self.version.next)
  | deleted : Emits self (.sceneShootDeleted self.id self.version.next)

/-- The events that a shoot lets follow: none after its deletion. -/
structure Records (shoot : SceneShootAggregate) (e : SceneShootEvent) : Prop where
  live : shoot.deleted = false
  emits : shoot.Emits e

variable {self : SceneShootAggregate}

theorem checkNotDeleted_eq_ok : self.checkNotDeleted = .ok u ↔ self.deleted = false := by
  simp [checkNotDeleted]

theorem checkNotTerminal_eq_ok : self.checkNotTerminal = .ok u ↔ self.isTerminal = false := by
  simp [checkNotTerminal]

/-- **WHAT AN ACCEPTED COMMAND RECORDS**: nothing, or one event the shoot allows. -/
theorem handle_cases (h : self.handle cmd = .ok events) (hcmd : ∀ c, cmd ≠ .plan c) :
    events = [] ∨ ∃ e, events = [e] ∧ self.Records e := by
  cases cmd with
  | plan c => exact absurd rfl (hcmd c)
  | replan =>
    simp only [handle, replan, check_eq_ok, checkNotDeleted_eq_ok, checkNotTerminal_eq_ok,
      ensure_eq_ok, Bool.not_eq_true'] at h
    obtain ⟨hlive, hopen, -, hfree, hevents⟩ := h
    cases hevents
    exact .inr ⟨_, rfl, hlive, .replanned _ hopen hfree⟩
  | start =>
    simp only [handle, start, check_eq_ok, checkNotDeleted_eq_ok, checkNotTerminal_eq_ok] at h
    obtain ⟨hlive, -, hopen, -, hevents⟩ := h
    -- started at the same time, at another time, or not at all
    split at hevents
    · cases hevents
      exact .inl rfl
    · split at hevents
      · cases hevents
      · next hnew =>
        cases hevents
        exact .inr ⟨_, rfl, hlive, .started _ hopen (by simpa using hnew)⟩
  | setActualOrder =>
    simp only [handle, setActualOrder, check_eq_ok, checkNotDeleted_eq_ok,
      checkNotTerminal_eq_ok] at h
    obtain ⟨hlive, -, hopen, -, hevents⟩ := h
    cases hevents
    exact .inr ⟨_, rfl, hlive, .actualOrderSet _ hopen⟩
  | finish =>
    simp only [handle, finish, check_eq_ok, checkNotDeleted_eq_ok, ensure_eq_ok,
      decide_eq_true_eq] at h
    obtain ⟨hlive, -, -, -, hprogress, hevents⟩ := h
    cases hevents
    exact .inr ⟨_, rfl, hlive, .finished _ hprogress⟩
  | skip =>
    simp only [handle, skip, check_eq_ok, checkNotDeleted_eq_ok, checkNotTerminal_eq_ok] at h
    obtain ⟨hlive, -, hopen, -, hevents⟩ := h
    cases hevents
    exact .inr ⟨_, rfl, hlive, .skipped hopen⟩
  | addNote =>
    simp only [handle, addNote, check_eq_ok, checkNotDeleted_eq_ok, checkNotTerminal_eq_ok] at h
    obtain ⟨hlive, -, hopen, hevents⟩ := h
    cases hevents
    exact .inr ⟨_, rfl, hlive, .noteAdded _ _ _ hopen⟩
  | updateNote =>
    simp only [handle, updateNote, check_eq_ok, checkNotDeleted_eq_ok, checkNotTerminal_eq_ok,
      ensure_eq_ok] at h
    obtain ⟨hlive, -, hopen, -, hmem, hevents⟩ := h
    cases hevents
    exact .inr ⟨_, rfl, hlive, .noteUpdated _ _ hopen hmem⟩
  | removeNote =>
    simp only [handle, removeNote, check_eq_ok, checkNotDeleted_eq_ok, checkNotTerminal_eq_ok,
      ensure_eq_ok] at h
    obtain ⟨hlive, -, hopen, -, hmem, hevents⟩ := h
    cases hevents
    exact .inr ⟨_, rfl, hlive, .noteRemoved _ hopen hmem⟩
  | linkContinuityPhoto =>
    simp only [handle, linkContinuityPhoto, check_eq_ok, checkNotDeleted_eq_ok,
      checkNotTerminal_eq_ok, ensure_eq_ok] at h
    obtain ⟨hlive, hopen, -, hnew, hevents⟩ := h
    cases hevents
    exact .inr ⟨_, rfl, hlive, .photoLinked _ hopen (by simpa using hnew)⟩
  | unlinkContinuityPhoto =>
    simp only [handle, unlinkContinuityPhoto, check_eq_ok, checkNotDeleted_eq_ok,
      checkNotTerminal_eq_ok] at h
    obtain ⟨hlive, hopen, -, hevents⟩ := h
    cases hevents
    exact .inr ⟨_, rfl, hlive, .photoUnlinked _ hopen⟩
  | delete =>
    simp only [handle, delete] at h
    split at h
    · cases h
      exact .inl rfl
    · next hlive =>
      split at h
      · cases h
      · cases h
        exact .inr ⟨_, rfl, by simpa using hlive, .deleted⟩

/-- The event an accepted planning of a fresh stream records. -/
def plannedEvent (cmd : PlanSceneShoot) : SceneShootEvent :=
  .sceneShootPlanned cmd.id cmd.sceneId cmd.shootingDayId cmd.plannedOrder .planned .initial

/-! ## §2. One event -/

/-- How status, orders, times and photos of a shoot hang together. -/
structure Lifecycle (shoot : SceneShootAggregate) : Prop where
  /-- In progress: execution data, and neither shot nor skipped. -/
  inProgress : shoot.status = .inProgress ↔
    (shoot.actualOrder.isSome ∨ shoot.startDt.isSome) ∧ shoot.status ≠ .shot ∧ shoot.status ≠ .skipped
  /-- Planned: no execution data, and not skipped. -/
  planned : shoot.status = .planned ↔
    (shoot.actualOrder = none ∧ shoot.startDt = none) ∧ shoot.status ≠ .skipped
  /-- The end is recorded exactly for what was shot. -/
  ended : shoot.endDt.isSome ↔ shoot.status = .shot
  /-- What was shot has execution data. -/
  executed : shoot.status = .shot → shoot.actualOrder.isSome ∨ shoot.startDt.isSome
  /-- No photo is linked twice. -/
  photos : shoot.continuityPhotos.Nodup

theorem isTerminal_eq_false :
    self.isTerminal = false ↔ self.status ≠ .shot ∧ self.status ≠ .skipped := by
  simp [isTerminal]

theorem transitionOnExecution_open (hopen : self.isTerminal = false) :
    self.transitionOnExecution = .inProgress := by
  obtain ⟨hshot, hskipped⟩ := isTerminal_eq_false.mp hopen
  unfold transitionOnExecution
  cases hstatus : self.status with
  | planned | scheduled | inProgress => rfl
  | shot => exact absurd hstatus hshot
  | skipped => exact absurd hstatus hskipped

attribute [local simp] SceneShootAggregate.plannedEvent

theorem Lifecycle.plannedEvent (self : SceneShootAggregate) (cmd) :
    (self.apply (plannedEvent cmd)).Lifecycle where
  inProgress := by simp [apply]
  planned := by simp [apply]
  ended := by simp [apply]
  executed := by simp [apply]
  photos := .nil

/-- Nothing the life cycle is about changes, except that photos may go. -/
theorem Lifecycle.congr {next : SceneShootAggregate} (h : self.Lifecycle)
    (hstatus : next.status = self.status) (horder : next.actualOrder = self.actualOrder)
    (hstart : next.startDt = self.startDt) (hend : next.endDt = self.endDt)
    (hphotos : next.continuityPhotos.Sublist self.continuityPhotos) : next.Lifecycle where
  inProgress := by rw [hstatus, horder, hstart]; exact h.inProgress
  planned := by rw [hstatus, horder, hstart]; exact h.planned
  ended := by rw [hend, hstatus]; exact h.ended
  executed := by rw [hstatus, horder, hstart]; exact h.executed
  photos := h.photos.sublist hphotos

/-- Execution data was recorded for an open shoot. -/
theorem Lifecycle.execution {next : SceneShootAggregate} (h : self.Lifecycle)
    (hopen : self.isTerminal = false) (hstatus : next.status = .inProgress)
    (hdata : next.actualOrder.isSome ∨ next.startDt.isSome) (hend : next.endDt = self.endDt)
    (hphotos : next.continuityPhotos = self.continuityPhotos) : next.Lifecycle where
  inProgress := by simp [hstatus, hdata]
  planned := by
    rw [hstatus]
    obtain hdata | hdata := hdata
    · simp [Option.isSome_iff_ne_none.mp hdata]
    · simp [Option.isSome_iff_ne_none.mp hdata]
  ended := by
    rw [hend, h.ended, hstatus]
    simp [(isTerminal_eq_false.mp hopen).1]
  executed _ := hdata
  photos := hphotos ▸ h.photos

/-- **EVERY EVENT KEEPS THE LIFE CYCLE.** -/
theorem Emits.lifecycle (he : self.Emits e) (h : self.Lifecycle) : (self.apply e).Lifecycle := by
  cases he with
  | replanned | noteAdded | noteUpdated | noteRemoved | deleted =>
    exact h.congr rfl rfl rfl rfl (.refl _)
  | photoUnlinked => exact h.congr rfl rfl rfl rfl filter_sublist
  | started startDt hopen =>
    exact h.execution hopen (transitionOnExecution_open hopen) (.inr rfl) rfl rfl
  | actualOrderSet actualOrder hopen =>
    exact h.execution hopen (transitionOnExecution_open hopen) (.inl rfl) rfl rfl
  -- only a shoot in progress is finished, so there is execution data
  | finished endDt hprogress =>
    have hdata := (h.inProgress.mp hprogress).1
    refine ⟨by simp [apply], ?_, by simp [apply], fun _ => hdata, h.photos⟩
    obtain hdata | hdata := hdata
    · simp [apply, Option.isSome_iff_ne_none.mp hdata]
    · simp [apply, Option.isSome_iff_ne_none.mp hdata]
  | skipped hopen =>
    -- an open shoot was not shot, so no end is recorded
    have hend : self.endDt.isSome = false := by
      rw [Bool.eq_false_iff]
      exact fun hsome => (isTerminal_eq_false.mp hopen).1 (h.ended.mp hsome)
    exact ⟨by simp [apply], by simp [apply], by simp [apply, hend], by simp [apply], h.photos⟩
  | photoLinked photoId hopen hnew =>
    refine ⟨h.inProgress, h.planned, h.ended, h.executed, ?_⟩
    exact h.photos.append (nodup_singleton _) (by simpa using hnew)

/-- What is final: the start, that there is execution data, and the planned order from then on. -/
structure Keeps (shoot next : SceneShootAggregate) : Prop where
  start : ∀ {startDt}, shoot.startDt = some startDt → next.startDt = some startDt
  executed : shoot.hasExecutionData = true → next.hasExecutionData = true
  frozen : shoot.hasExecutionData = true → next.plannedOrder = shoot.plannedOrder

theorem Keeps.refl (self : SceneShootAggregate) : self.Keeps self :=
  ⟨fun h => h, fun h => h, fun _ => rfl⟩

theorem Keeps.trans {first second third : SceneShootAggregate} (h : first.Keeps second)
    (h' : second.Keeps third) : first.Keeps third where
  start hstart := h'.start (h.start hstart)
  executed hdata := h'.executed (h.executed hdata)
  frozen hdata := (h'.frozen (h.executed hdata)).trans (h.frozen hdata)

/-- **NO EVENT TOUCHES WHAT IS FINAL.** -/
theorem Emits.keeps (he : self.Emits e) : self.Keeps (self.apply e) := by
  cases he with
  -- replanning asks that there be no execution data yet
  | replanned plannedOrder hopen hfree =>
    refine ⟨fun h => h, fun h => h, fun h => ?_⟩
    rw [hfree] at h
    cases h
  | started startDt hopen hnew =>
    refine ⟨fun h => ?_, fun _ => ?_, fun _ => rfl⟩
    -- a second start with another time is refused, so there was none before
    · rw [hnew] at h
      cases h
    · simp [hasExecutionData, apply]
  | actualOrderSet actualOrder hopen =>
    exact ⟨fun h => h, fun _ => by simp [hasExecutionData, apply], fun _ => rfl⟩
  | _ => exact ⟨fun h => h, fun h => h, fun _ => rfl⟩

/-- A terminal shoot can only be deleted. -/
theorem Emits.of_terminal (he : self.Emits e) (hterminal : self.isTerminal) :
    ∃ id version, e = .sceneShootDeleted id version := by
  cases he with
  | deleted => exact ⟨_, _, rfl⟩
  | finished endDt hprogress => simp [isTerminal, hprogress] at hterminal
  | replanned _ hopen | started _ hopen | actualOrderSet _ hopen | skipped hopen
  | noteAdded _ _ _ hopen | noteUpdated _ _ hopen | noteRemoved _ hopen | photoLinked _ hopen
  | photoUnlinked _ hopen =>
    rw [hopen] at hterminal
    cases hterminal

end SceneShootAggregate

/-! ## §3. Streams -/

open SceneShootAggregate

/-- The event a stream starts with. -/
inductive SceneShootEvent.Founds : SceneShootEvent → Prop
  | planned (cmd : PlanSceneShoot) : Founds (plannedEvent cmd)

/-- The streams that start with the planning, event by event. -/
abbrev ShootRun : List SceneShootEvent → Prop := EventRun SceneShootEvent.Founds Records

/-- Every history of accepted commands that starts with the planning is such a stream. -/
theorem shootRun_of_history (h : History SceneShootAggregate log)
    (hfounded : Founded SceneShootAggregate log) : ShootRun log := by
  refine h.eventRun hfounded ?_ ?_
  · intro cmd events hcmd hhandle
    cases cmd with
    | plan c =>
      cases hhandle
      exact ⟨_, rfl, .planned c⟩
    | _ => cases hcmd
  · intro shoot cmd events hcmd hhandle
    have hplan : ∀ c, cmd ≠ .plan c := by
      rintro c rfl
      exact hcmd rfl
    exact allowed_of_cases (handle_cases hhandle hplan)

namespace ShootRun

theorem lifecycle (h : ShootRun log) : (replay SceneShootAggregate log).Lifecycle := by
  refine h.invariant ?_ ?_
  · rintro e ⟨cmd⟩
    exact Lifecycle.plannedEvent _ cmd
  · intro shoot e hcycle hemits
    exact hemits.emits.lifecycle hcycle

theorem keeps (h : ShootRun log) (hpre : pre <+: log) (hne : pre ≠ []) :
    (replay SceneShootAggregate pre).Keeps (replay SceneShootAggregate log) :=
  h.relates hpre hne Keeps.refl Keeps.trans (·.emits.keeps)

/-- No event after the planning moves a shoot to another day. -/
theorem plannedDay_eq (h : ShootRun log) :
    plannedDay log = some (replay SceneShootAggregate log).shootingDayId := by
  induction h with
  | first hfirst =>
    obtain ⟨cmd⟩ := hfirst
    rfl
  | @step log e before hemits ih =>
    have hstays : (Entity.apply (replay SceneShootAggregate log) e).shootingDayId =
        (replay SceneShootAggregate log).shootingDayId := by
      cases hemits.emits <;> rfl
    rw [replay_concat, hstays, ← ih]
    cases log with
    | nil => cases ih
    | cons => rfl

end ShootRun

/-- A shoot is on the day that the first event of its stream names. -/
theorem SceneShootAggregate.shootingDayId_of_plannedDay (h : History SceneShootAggregate log)
    (hday : plannedDay log = some day) : (replay SceneShootAggregate log).shootingDayId = day := by
  have hfounded : Founded SceneShootAggregate log := by
    unfold plannedDay at hday
    split at hday
    · exact ⟨_, ‹_›, rfl⟩
    · cases hday
  rw [(shootRun_of_history h hfounded).plannedDay_eq] at hday
  exact Option.some.inj hday

/-- The events that start the execution. -/
def SceneShootEvent.startsExecution : SceneShootEvent → Bool
  | .sceneShootStarted .. | .sceneShootActualOrderSet .. => true
  | _ => false

theorem SceneShootAggregate.hasExecutionData_apply (self : SceneShootAggregate)
    (h : e.startsExecution) : (self.apply e).hasExecutionData := by
  cases e with
  | sceneShootStarted | sceneShootActualOrderSet => simp [apply, hasExecutionData]
  | _ => cases h

/-- Execution data stays. -/
theorem ShootRun.hasExecutionData (h : ShootRun log) (hstarts : ∃ e ∈ log, e.startsExecution) :
    (replay SceneShootAggregate log).hasExecutionData := by
  induction h with
  | first hfirst =>
    obtain ⟨cmd⟩ := hfirst
    obtain ⟨e, he, hstart⟩ := hstarts
    rw [mem_singleton.mp he] at hstart
    cases hstart
  | @step log e before hemits ih =>
    rw [replay_concat]
    obtain ⟨e', he', hstart⟩ := hstarts
    obtain hmem | hmem := mem_append.mp he'
    · exact hemits.emits.keeps.executed (ih ⟨e', hmem, hstart⟩)
    · rw [mem_singleton.mp hmem] at hstart
      exact hasExecutionData_apply _ hstart

/-! ## §4. The life cycle -/

/-- **THE LIFE OF A SCENE SHOOT**, told by its stream. -/
structure ShootLifecycle (log : List SceneShootEvent) : Prop where
  /-- Status, orders, times and photos hang together. -/
  state : (replay SceneShootAggregate log).Lifecycle
  /-- The start never changes. -/
  start : ∀ pre, pre <+: log → ∀ startDt, (replay SceneShootAggregate pre).startDt = some startDt →
      (replay SceneShootAggregate log).startDt = some startDt
  /-- From the first start or actual order on, the planned order never changes. -/
  frozen : ∀ pre, pre <+: log → (∃ e ∈ pre, e.startsExecution = true) →
    (replay SceneShootAggregate log).plannedOrder = (replay SceneShootAggregate pre).plannedOrder
  /-- Once shot or skipped, a shoot can only be deleted. -/
  terminal : ∀ pre e post, log = pre ++ e :: post →
    ((replay SceneShootAggregate pre).status = .shot ∨
      (replay SceneShootAggregate pre).status = .skipped) →
        ∃ id version, e = .sceneShootDeleted id version

/-- **SCENE SHOOTS KEEP TO THEIR LIFE CYCLE**, in every history of accepted commands from the planning
on. -/
theorem scene_shoot_lifecycle {log : List SceneShootEvent} (h : History SceneShootAggregate log)
    (hfounded : Founded SceneShootAggregate log) : ShootLifecycle log := by
  have hrun := shootRun_of_history h hfounded
  refine ⟨hrun.lifecycle, ?_, ?_, ?_⟩
  · intro pre hpre startDt hstart
    by_cases hne : pre = []
    · subst hne
      cases hstart
    · exact (hrun.keeps hpre hne).start hstart
  · intro pre hpre hstarts
    have hne : pre ≠ [] := by
      rintro rfl
      obtain ⟨e, he, -⟩ := hstarts
      cases he
    have hdata := ShootRun.hasExecutionData (hrun.shorter hpre hne) hstarts
    exact (hrun.keeps hpre hne).frozen hdata
  · intro pre e post hlog hstatus
    have hne : pre ≠ [] := by
      rintro rfl
      obtain hstatus | hstatus := hstatus <;> cases hstatus
    exact (hrun.emits hlog hne).emits.of_terminal (by simpa [isTerminal] using hstatus)

/-- A shoot that is planned, moved, started, annotated, finished and deleted. -/
def fullShoot : List SceneShootEvent := callAll SceneShootAggregate
    [.plan ⟨⟨⟨1⟩⟩, ⟨2⟩, ⟨⟨3⟩⟩, ⟨"a"⟩⟩, .replan ⟨⟨⟨1⟩⟩, ⟨"b"⟩, 1⟩, .start ⟨⟨⟨1⟩⟩, ⟨⟨3⟩⟩, 10, 2⟩,
      .addNote ⟨⟨⟨1⟩⟩, ⟨⟨3⟩⟩, ⟨4⟩, "Kragen offen", none⟩, .linkContinuityPhoto ⟨⟨⟨1⟩⟩, ⟨⟨5⟩⟩, 4⟩,
      .finish ⟨⟨⟨1⟩⟩, ⟨⟨3⟩⟩, 20, 5⟩, .delete ⟨⟨⟨1⟩⟩⟩]

theorem founded_fullShoot : Founded SceneShootAggregate fullShoot :=
  ⟨.sceneShootPlanned ⟨⟨1⟩⟩ ⟨2⟩ ⟨⟨3⟩⟩ ⟨"a"⟩ .planned 1, by decide +kernel, rfl⟩

theorem scene_shoot_lifecycle_full : fullShoot.length = 7 ∧ ShootLifecycle fullShoot :=
  ⟨by decide +kernel, scene_shoot_lifecycle (calls_callAll _).history founded_fullShoot⟩

end Breakdown
