/-
**SHOOTING DAYS AND SCENE SHOOTS**
(`core/src/shooting_day/`, `core/src/scene_shoot/`).

A scene shoot is one scene planned on one shooting day; start, actual order, finish, skip and the
notes record its execution. A wrapped day freezes that execution — but the wrap is an event of
the DAY's stream, so the scene shoot's own handlers cannot see it: they only check that the command
names the day the shoot was planned on.

- `SceneShootEvent.isExecution`: the events a wrap freezes;
- `handle_emits`: they come from a command that names the shoot's own day;
- `plannedDay`: the day a stream was planned on;
- `handle_wrapped`: a day is wrapped by wrapping it.
-/
import Breakdown.EventStore.EntityActor
import Breakdown.Lib.Fallible

namespace Breakdown

open Fallible List

/-! ## §1. Shooting days -/

/-- Where a shooting day comes from: a user, or an imported schedule. -/
inductive ShootingDaySource
  | manual
  | aiExtracted (documentId : Uuid) (externalRef : Option String)
  deriving DecidableEq

/-- A shooting day of an episode. -/
structure ShootingDayAggregate where
  /-- `ShootingDayId::default()` draws a fresh v7 id. -/
  id : ShootingDayId := ⟨.placeholderV7⟩
  episodeId : EpisodeId := ⟨.placeholderV7⟩
  label : Option String := none
  orderKey : LexicalSortKey := ⟨"0"⟩
  date : Option NaiveDate := none
  source : ShootingDaySource := .manual
  archived : Bool := false
  wrappedAt : Option Timestamp := none
  deleted : Bool := false
  version : AggregateVersion := .initial

/-- What happens to a shooting day. -/
inductive ShootingDayEvent
  | shootingDayCreated (id : ShootingDayId) (episodeId : EpisodeId) (label : Option String)
      (orderKey : LexicalSortKey) (date : Option NaiveDate) (source : ShootingDaySource)
      (version : AggregateVersion)
  | shootingDayRenamed (id : ShootingDayId) (label : Option String) (version : AggregateVersion)
  | shootingDayRescheduled (id : ShootingDayId) (date : Option NaiveDate)
      (version : AggregateVersion)
  | shootingDayReordered (id : ShootingDayId) (orderKey : LexicalSortKey)
      (version : AggregateVersion)
  | shootingDayArchived (id : ShootingDayId) (version : AggregateVersion)
  | shootingDayWrapped (id : ShootingDayId) (wrappedAt : Timestamp) (version : AggregateVersion)
  | shootingDayDeleted (id : ShootingDayId) (version : AggregateVersion)
  deriving DecidableEq

/-- Why a shooting-day command is refused. -/
inductive ShootingDayError
  | validationError (message : String)
  | notFound (id : ShootingDayId)
  | deleted (id : ShootingDayId)
  | archivedCannotBeMutated (id : ShootingDayId)
  | duplicateOrderKey (key : LexicalSortKey)
  | wrapped (id : ShootingDayId)
  | versionMismatch (expected actual : AggregateVersion)

/-- Found a shooting day. -/
structure CreateShootingDay where
  id : ShootingDayId
  episodeId : EpisodeId
  label : Option String
  orderKey : LexicalSortKey
  date : Option NaiveDate
  source : ShootingDaySource

/-- Give the day another label. -/
structure RenameShootingDay where
  id : ShootingDayId
  label : Option String
  version : AggregateVersion

/-- Move the day to another date. -/
structure RescheduleShootingDay where
  id : ShootingDayId
  date : Option NaiveDate
  version : AggregateVersion

/-- Move the day in the list. -/
structure ReorderShootingDay where
  id : ShootingDayId
  orderKey : LexicalSortKey
  version : AggregateVersion

/-- Put the day away. -/
structure ArchiveShootingDay where
  id : ShootingDayId
  version : AggregateVersion

/-- `WrapShootingDay`; `now` is what the handler's `Utc::now()` reads. -/
structure WrapShootingDay where
  id : ShootingDayId
  version : AggregateVersion
  now : Timestamp

/-- The probe of an execution command: is the day still open? -/
structure EnsureShootingDayOpen where
  id : ShootingDayId

/-- Delete the day. -/
structure DeleteShootingDay where
  id : ShootingDayId

/-- The commands of a shooting day. -/
inductive ShootingDayCommand
  | create (cmd : CreateShootingDay)
  | rename (cmd : RenameShootingDay)
  | reschedule (cmd : RescheduleShootingDay)
  | reorder (cmd : ReorderShootingDay)
  | archive (cmd : ArchiveShootingDay)
  | wrap (cmd : WrapShootingDay)
  | ensureOpen (cmd : EnsureShootingDayOpen)
  | delete (cmd : DeleteShootingDay)

namespace ShootingDayAggregate

variable (self : ShootingDayAggregate)

/-- What a handler returns. -/
abbrev Handled := Except ShootingDayError (List ShootingDayEvent)

/-- `Apply for ShootingDayAggregate`. -/
def apply : ShootingDayEvent → ShootingDayAggregate
  | .shootingDayDeleted _ version => { self with deleted := true, version }
  | .shootingDayCreated id episodeId label orderKey date source version =>
    { self with id, episodeId, label, orderKey, date, source, archived := false, version }
  | .shootingDayRenamed _ label version => { self with label, version }
  | .shootingDayRescheduled _ date version => { self with date, version }
  | .shootingDayReordered _ orderKey version => { self with orderKey, version }
  | .shootingDayArchived _ version => { self with archived := true, version }
  | .shootingDayWrapped _ wrappedAt version => { self with wrappedAt := some wrappedAt, version }

/-- `Command<CreateShootingDay>`. -/
def create (cmd : CreateShootingDay) : Handled :=
  if self.deleted then .error (.deleted self.id)
  else .ok [.shootingDayCreated cmd.id cmd.episodeId cmd.label cmd.orderKey cmd.date cmd.source
    .initial]

/-- The shape shared by rename, reschedule and reorder: not deleted, not archived, at the expected
version. -/
def mutate (expected : AggregateVersion) (event : AggregateVersion → ShootingDayEvent) : Handled :=
  if self.deleted then .error (.deleted self.id)
  else if self.archived then .error (.archivedCannotBeMutated self.id)
  else if expected ≠ self.version then .error (.versionMismatch expected self.version)
  else .ok [event self.version.next]

/-- `Command<RenameShootingDay>`. -/
def rename (cmd : RenameShootingDay) : Handled :=
  self.mutate cmd.version (.shootingDayRenamed self.id cmd.label)

/-- `Command<RescheduleShootingDay>`. -/
def reschedule (cmd : RescheduleShootingDay) : Handled :=
  self.mutate cmd.version (.shootingDayRescheduled self.id cmd.date)

/-- `Command<ReorderShootingDay>`. -/
def reorder (cmd : ReorderShootingDay) : Handled :=
  self.mutate cmd.version (.shootingDayReordered self.id cmd.orderKey)

/-- `Command<ArchiveShootingDay>`: the version is checked before the archived flag. -/
def archive (cmd : ArchiveShootingDay) : Handled :=
  if self.deleted then .error (.deleted self.id)
  else if cmd.version ≠ self.version then .error (.versionMismatch cmd.version self.version)
  else if self.archived then .error (.archivedCannotBeMutated self.id)
  else .ok [.shootingDayArchived self.id self.version.next]

/-- `Command<WrapShootingDay>`: wrapping a wrapped day is a no-op, whatever version is named. -/
def wrap (cmd : WrapShootingDay) : Handled :=
  if self.deleted then .error (.deleted self.id)
  else if self.wrappedAt.isSome then .ok []
  else if cmd.version ≠ self.version then .error (.versionMismatch cmd.version self.version)
  else .ok [.shootingDayWrapped self.id cmd.now self.version.next]

/-- `Command<EnsureShootingDayOpen>`: a probe, it never emits an event. -/
def ensureOpen (cmd : EnsureShootingDayOpen) : Handled :=
  if self.deleted then .error (.deleted self.id)
  else if self.wrappedAt.isSome then .error (.wrapped cmd.id)
  else .ok []

/-- `Command<DeleteShootingDay>`. -/
def delete (cmd : DeleteShootingDay) : Handled :=
  if self.deleted then .ok []
  else if self.id.uuid.isNil then .error (.notFound cmd.id)
  else .ok [.shootingDayDeleted self.id self.version.next]

/-- The handler of each command. -/
def handle : ShootingDayCommand → Handled
  | .create cmd => self.create cmd
  | .rename cmd => self.rename cmd
  | .reschedule cmd => self.reschedule cmd
  | .reorder cmd => self.reorder cmd
  | .archive cmd => self.archive cmd
  | .wrap cmd => self.wrap cmd
  | .ensureOpen cmd => self.ensureOpen cmd
  | .delete cmd => self.delete cmd

instance : Entity ShootingDayAggregate ShootingDayEvent ShootingDayCommand ShootingDayError :=
  { init := {}, apply, handle }

end ShootingDayAggregate

instance : IntoDomainError ShootingDayError where
  intoDomainError
    | .validationError message => .validation .shootingDayValidation message
    | .notFound id => .notFound .shootingDayNotFound "shooting-day" id.uuid
    | .deleted id => .notFound .shootingDayNotFound "shooting-day" id.uuid
    | .archivedCannotBeMutated _ =>
      .conflict .shootingDayArchived "shooting day is archived and cannot be mutated"
    | .duplicateOrderKey key =>
      .conflict .shootingDayDuplicateOrderKey
        ("order key " ++ key.key ++ " already exists for this episode")
    | .wrapped id => .shootingDayWrapped id.uuid
    | .versionMismatch expected actual => .versionConflict expected actual

/-! ## §2. Scene shoots -/

/-- Where a scene shoot stands. -/
inductive SceneShootStatus
  | planned
  | scheduled
  | inProgress
  | shot
  | skipped
  deriving DecidableEq

/-- `Debug for SceneShootStatus`. -/
def SceneShootStatus.asStr : SceneShootStatus → String
  | .planned => "Planned"
  | .scheduled => "Scheduled"
  | .inProgress => "InProgress"
  | .shot => "Shot"
  | .skipped => "Skipped"

/-- A note on the shoot. -/
structure SceneShootNote where
  id : Uuid
  body : String
  author : Option UserId

/-- A scene planned on a shooting day, and its execution. -/
structure SceneShootAggregate where
  /-- `SceneShootId::default()` draws a fresh v7 id. -/
  id : SceneShootId := ⟨.placeholderV7⟩
  sceneId : Uuid := .nil
  shootingDayId : ShootingDayId := ⟨.placeholderV7⟩
  plannedOrder : LexicalSortKey := ⟨"0"⟩
  actualOrder : Option LexicalSortKey := none
  status : SceneShootStatus := .planned
  startDt : Option Timestamp := none
  endDt : Option Timestamp := none
  notes : List SceneShootNote := []
  continuityPhotos : List PhotoId := []
  deleted : Bool := false
  version : AggregateVersion := .initial

/-- What happens to a scene shoot. -/
inductive SceneShootEvent
  | sceneShootPlanned (id : SceneShootId) (sceneId : Uuid) (shootingDayId : ShootingDayId)
      (plannedOrder : LexicalSortKey) (status : SceneShootStatus) (version : AggregateVersion)
  | sceneShootReplanned (id : SceneShootId) (plannedOrder : LexicalSortKey)
      (version : AggregateVersion)
  | sceneShootStarted (id : SceneShootId) (startDt : Timestamp) (version : AggregateVersion)
  | sceneShootActualOrderSet (id : SceneShootId) (actualOrder : LexicalSortKey)
      (version : AggregateVersion)
  | sceneShootFinished (id : SceneShootId) (endDt : Timestamp) (version : AggregateVersion)
  | sceneShootSkipped (id : SceneShootId) (version : AggregateVersion)
  | shootDayNoteAdded (id : SceneShootId) (noteId : Uuid) (body : String)
      (author : Option UserId) (version : AggregateVersion)
  | shootDayNoteUpdated (id : SceneShootId) (noteId : Uuid) (body : String)
      (version : AggregateVersion)
  | shootDayNoteRemoved (id : SceneShootId) (noteId : Uuid) (version : AggregateVersion)
  | continuityPhotoLinked (id : SceneShootId) (photoId : PhotoId) (version : AggregateVersion)
  | continuityPhotoUnlinked (id : SceneShootId) (photoId : PhotoId) (version : AggregateVersion)
  | sceneShootDeleted (id : SceneShootId) (version : AggregateVersion)
  deriving DecidableEq

/-- Why a scene-shoot command is refused. -/
inductive SceneShootError
  | validationError (message : String)
  | notFound (id : SceneShootId)
  | deleted (id : SceneShootId)
  | pairAlreadyExists
  | versionMismatch (entity : String) (expected actual : AggregateVersion)
  | plannedOrderFrozen
  | noteNotFound (noteId : Uuid)
  | alreadyLinked (photoId : PhotoId)
  | alreadyStarted
  | terminalState (status : SceneShootStatus)

/-- Plan a scene on a day. -/
structure PlanSceneShoot where
  id : SceneShootId
  sceneId : Uuid
  shootingDayId : ShootingDayId
  plannedOrder : LexicalSortKey

/-- Move the shoot in the plan of its day. -/
structure ReplanSceneShoot where
  id : SceneShootId
  plannedOrder : LexicalSortKey
  version : AggregateVersion

/-- Record the start. -/
structure StartSceneShoot where
  id : SceneShootId
  shootingDayId : ShootingDayId
  startDt : Timestamp
  version : AggregateVersion

/-- Record its place in the day as shot. -/
structure SetActualOrder where
  id : SceneShootId
  shootingDayId : ShootingDayId
  actualOrder : LexicalSortKey
  version : AggregateVersion

/-- Record the end. -/
structure FinishSceneShoot where
  id : SceneShootId
  shootingDayId : ShootingDayId
  endDt : Timestamp
  version : AggregateVersion

/-- The scene is not shot that day. -/
structure SkipSceneShoot where
  id : SceneShootId
  shootingDayId : ShootingDayId
  version : AggregateVersion

/-- Add a note; sent without a version. -/
structure AddSceneShootNote where
  id : SceneShootId
  shootingDayId : ShootingDayId
  noteId : Uuid
  body : String
  author : Option UserId

/-- Replace the text of a note. -/
structure UpdateSceneShootNote where
  id : SceneShootId
  shootingDayId : ShootingDayId
  noteId : Uuid
  body : String
  version : AggregateVersion

/-- Remove a note. -/
structure RemoveSceneShootNote where
  id : SceneShootId
  shootingDayId : ShootingDayId
  noteId : Uuid
  version : AggregateVersion

/-- Attach a continuity photo. -/
structure LinkContinuityPhoto where
  id : SceneShootId
  photoId : PhotoId
  version : AggregateVersion

/-- Detach a continuity photo. -/
structure UnlinkContinuityPhoto where
  id : SceneShootId
  photoId : PhotoId
  version : AggregateVersion

/-- Delete the shoot. -/
structure DeleteSceneShoot where
  id : SceneShootId

/-- The commands of a scene shoot. -/
inductive SceneShootCommand
  | plan (cmd : PlanSceneShoot)
  | replan (cmd : ReplanSceneShoot)
  | start (cmd : StartSceneShoot)
  | setActualOrder (cmd : SetActualOrder)
  | finish (cmd : FinishSceneShoot)
  | skip (cmd : SkipSceneShoot)
  | addNote (cmd : AddSceneShootNote)
  | updateNote (cmd : UpdateSceneShootNote)
  | removeNote (cmd : RemoveSceneShootNote)
  | linkContinuityPhoto (cmd : LinkContinuityPhoto)
  | unlinkContinuityPhoto (cmd : UnlinkContinuityPhoto)
  | delete (cmd : DeleteSceneShoot)

namespace SceneShootAggregate

variable (self : SceneShootAggregate)

/-- What a handler returns. -/
abbrev Handled := Except SceneShootError (List SceneShootEvent)

/-- `transition_on_execution`. -/
def transitionOnExecution : SceneShootStatus := match self.status with
  | .planned | .scheduled => .inProgress
  | status => status

/-- Replace the body of the first note with the given id. -/
def updateFirstNote (noteId : Uuid) (body : String) : List SceneShootNote → List SceneShootNote
  | [] => []
  | note :: rest =>
    if note.id = noteId then { note with body } :: rest
    else note :: updateFirstNote noteId body rest

/-- `Apply for SceneShootAggregate`. -/
def apply : SceneShootEvent → SceneShootAggregate
  | .sceneShootDeleted _ version => { self with deleted := true, version }
  | .sceneShootPlanned id sceneId shootingDayId plannedOrder status version =>
    { self with
      id, sceneId, shootingDayId, plannedOrder, status, version
      actualOrder := none
      startDt := none
      endDt := none
      notes := []
      continuityPhotos := [] }
  | .sceneShootReplanned _ plannedOrder version => { self with plannedOrder, version }
  | .sceneShootStarted _ startDt version =>
    { self with startDt := some startDt, status := self.transitionOnExecution, version }
  | .sceneShootActualOrderSet _ actualOrder version =>
    { self with actualOrder := some actualOrder, status := self.transitionOnExecution, version }
  | .sceneShootFinished _ endDt version =>
    { self with endDt := some endDt, status := .shot, version }
  | .sceneShootSkipped _ version => { self with status := .skipped, version }
  | .shootDayNoteAdded _ noteId body author version =>
    { self with notes := self.notes ++ [{ id := noteId, body, author }], version }
  | .shootDayNoteUpdated _ noteId body version =>
    { self with notes := updateFirstNote noteId body self.notes, version }
  | .shootDayNoteRemoved _ noteId version =>
    { self with notes := self.notes.filter (·.id ≠ noteId), version }
  | .continuityPhotoLinked _ photoId version =>
    { self with continuityPhotos := self.continuityPhotos ++ [photoId], version }
  | .continuityPhotoUnlinked _ photoId version =>
    { self with continuityPhotos := self.continuityPhotos.filter (· ≠ photoId), version }

/-- `has_execution_data`. -/
def hasExecutionData : Bool :=
  self.actualOrder.isSome || self.startDt.isSome

/-- The guard most commands start with. -/
def checkNotDeleted : Except SceneShootError Unit :=
  ensure (!self.deleted) (.deleted self.id)

/-- `check_day_association`. -/
def checkDayAssociation (cmdDay : ShootingDayId) : Except SceneShootError Unit :=
  ensure (self.shootingDayId = cmdDay) (.validationError
    ("shooting_day_id " ++ cmdDay.uuid.toDisplay ++
      " does not match the scene shoot's associated shooting day"))

/-- `is_terminal`. -/
def isTerminal : Bool := self.status = .shot || self.status = .skipped

/-- `check_not_terminal`. -/
def checkNotTerminal : Except SceneShootError Unit :=
  ensure (!self.isTerminal) (.terminalState self.status)

/-- `check_version`. -/
def checkVersion (expected : AggregateVersion) : Except SceneShootError Unit :=
  ensure (expected = self.version) (.versionMismatch "SceneShoot" expected self.version)

/-- `Command<PlanSceneShoot>`. -/
def plan (cmd : PlanSceneShoot) : Handled := do
  self.checkNotDeleted
  ensure self.sceneId.isNil .pairAlreadyExists
  .ok [.sceneShootPlanned cmd.id cmd.sceneId cmd.shootingDayId cmd.plannedOrder .planned .initial]

/-- `Command<ReplanSceneShoot>`. -/
def replan (cmd : ReplanSceneShoot) : Handled := do
  self.checkNotDeleted
  self.checkNotTerminal
  self.checkVersion cmd.version
  ensure (!self.hasExecutionData) .plannedOrderFrozen
  .ok [.sceneShootReplanned self.id cmd.plannedOrder self.version.next]

/-- `Command<StartSceneShoot>`: repeating the recorded start is a no-op. -/
def start (cmd : StartSceneShoot) : Handled := do
  self.checkNotDeleted
  self.checkDayAssociation cmd.shootingDayId
  self.checkNotTerminal
  self.checkVersion cmd.version
  if self.startDt = some cmd.startDt then .ok []
  else if self.startDt.isSome then .error .alreadyStarted
  else .ok [.sceneShootStarted self.id cmd.startDt self.version.next]

/-- `Command<SetActualOrder>`. -/
def setActualOrder (cmd : SetActualOrder) : Handled := do
  self.checkNotDeleted
  self.checkDayAssociation cmd.shootingDayId
  self.checkNotTerminal
  self.checkVersion cmd.version
  .ok [.sceneShootActualOrderSet self.id cmd.actualOrder self.version.next]

/-- `Command<FinishSceneShoot>`. -/
def finish (cmd : FinishSceneShoot) : Handled := do
  self.checkNotDeleted
  self.checkDayAssociation cmd.shootingDayId
  self.checkNotTerminal
  self.checkVersion cmd.version
  ensure (self.status = .inProgress)
    (.validationError "Can only finish a SceneShoot that is InProgress")
  .ok [.sceneShootFinished self.id cmd.endDt self.version.next]

/-- `Command<SkipSceneShoot>`. -/
def skip (cmd : SkipSceneShoot) : Handled := do
  self.checkNotDeleted
  self.checkDayAssociation cmd.shootingDayId
  self.checkNotTerminal
  self.checkVersion cmd.version
  .ok [.sceneShootSkipped self.id self.version.next]

/-- `Command<AddSceneShootNote>`: the one note command without a version check. -/
def addNote (cmd : AddSceneShootNote) : Handled := do
  self.checkNotDeleted
  self.checkDayAssociation cmd.shootingDayId
  self.checkNotTerminal
  .ok [.shootDayNoteAdded self.id cmd.noteId cmd.body cmd.author self.version.next]

/-- `Command<UpdateSceneShootNote>`. -/
def updateNote (cmd : UpdateSceneShootNote) : Handled := do
  self.checkNotDeleted
  self.checkDayAssociation cmd.shootingDayId
  self.checkNotTerminal
  self.checkVersion cmd.version
  ensure (self.notes.any (·.id = cmd.noteId)) (.noteNotFound cmd.noteId)
  .ok [.shootDayNoteUpdated self.id cmd.noteId cmd.body self.version.next]

/-- `Command<RemoveSceneShootNote>`. -/
def removeNote (cmd : RemoveSceneShootNote) : Handled := do
  self.checkNotDeleted
  self.checkDayAssociation cmd.shootingDayId
  self.checkNotTerminal
  self.checkVersion cmd.version
  ensure (self.notes.any (·.id = cmd.noteId)) (.noteNotFound cmd.noteId)
  .ok [.shootDayNoteRemoved self.id cmd.noteId self.version.next]

/-- `Command<LinkContinuityPhoto>`. -/
def linkContinuityPhoto (cmd : LinkContinuityPhoto) : Handled := do
  self.checkNotDeleted
  self.checkNotTerminal
  self.checkVersion cmd.version
  ensure (!self.continuityPhotos.contains cmd.photoId) (.alreadyLinked cmd.photoId)
  .ok [.continuityPhotoLinked self.id cmd.photoId self.version.next]

/-- `Command<UnlinkContinuityPhoto>`: the photo need not be linked. -/
def unlinkContinuityPhoto (cmd : UnlinkContinuityPhoto) : Handled := do
  self.checkNotDeleted
  self.checkNotTerminal
  self.checkVersion cmd.version
  .ok [.continuityPhotoUnlinked self.id cmd.photoId self.version.next]

/-- `Command<DeleteSceneShoot>`. -/
def delete (cmd : DeleteSceneShoot) : Handled :=
  if self.deleted then .ok []
  else if self.id.uuid.isNil then .error (.notFound cmd.id)
  else .ok [.sceneShootDeleted self.id self.version.next]

/-- The handler of each command. -/
def handle : SceneShootCommand → Handled
  | .plan cmd => self.plan cmd
  | .replan cmd => self.replan cmd
  | .start cmd => self.start cmd
  | .setActualOrder cmd => self.setActualOrder cmd
  | .finish cmd => self.finish cmd
  | .skip cmd => self.skip cmd
  | .addNote cmd => self.addNote cmd
  | .updateNote cmd => self.updateNote cmd
  | .removeNote cmd => self.removeNote cmd
  | .linkContinuityPhoto cmd => self.linkContinuityPhoto cmd
  | .unlinkContinuityPhoto cmd => self.unlinkContinuityPhoto cmd
  | .delete cmd => self.delete cmd

instance : Entity SceneShootAggregate SceneShootEvent SceneShootCommand SceneShootError :=
  { init := {}, apply, handle }

end SceneShootAggregate

instance : IntoDomainError SceneShootError where
  intoDomainError
    | .validationError message => .validation .sceneShootValidation message
    | .notFound id => .notFound .sceneShootNotFound "scene-shoot" id.uuid
    | .deleted id => .notFound .sceneShootNotFound "scene-shoot" id.uuid
    | .pairAlreadyExists =>
      .conflict .sceneShootPairAlreadyExists
        "a scene shoot already exists for this (scene, shooting_day) pair"
    | .versionMismatch _ expected actual => .versionConflict expected actual
    | .plannedOrderFrozen => .conflict .sceneShootPlannedOrderFrozen "planned order is frozen"
    | .noteNotFound noteId => .notFound .sceneShootNoteNotFound "scene-shoot-note" noteId
    | .alreadyLinked photoId => .alreadyLinked photoId.uuid
    | .alreadyStarted => .conflict .sceneShootAlreadyStarted "scene shoot is already started"
    | .terminalState status =>
      .conflict .sceneShootTerminalState ("scene shoot is in terminal state " ++ status.asStr)

/-! ## §3. What the handlers emit -/

/-- The events of a scene shoot's execution: start, actual order, finish, skip and the notes. -/
def SceneShootEvent.isExecution : SceneShootEvent → Bool
  | .sceneShootStarted .. | .sceneShootActualOrderSet .. | .sceneShootFinished ..
  | .sceneShootSkipped .. | .shootDayNoteAdded .. | .shootDayNoteUpdated ..
  | .shootDayNoteRemoved .. => true
  | _ => false

/-- The shooting day an execution command names; `none` for the commands that record no
execution. -/
def SceneShootCommand.executionDay : SceneShootCommand → Option ShootingDayId
  | .start cmd => some cmd.shootingDayId
  | .setActualOrder cmd => some cmd.shootingDayId
  | .finish cmd => some cmd.shootingDayId
  | .skip cmd => some cmd.shootingDayId
  | .addNote cmd => some cmd.shootingDayId
  | .updateNote cmd => some cmd.shootingDayId
  | .removeNote cmd => some cmd.shootingDayId
  | .plan _ | .replan _ | .linkContinuityPhoto _ | .unlinkContinuityPhoto _ | .delete _ => none

/-- The event that wraps a day. -/
def ShootingDayEvent.isWrap : ShootingDayEvent → Bool
  | .shootingDayWrapped .. => true
  | _ => false

namespace ShootingDayAggregate

/-- Only the wrap command emits the wrap event. -/
theorem handle_wrapped {self : ShootingDayAggregate} (h : self.handle cmd = .ok events)
    (hcmd : ∀ c, cmd ≠ .wrap c) (he : e ∈ events) : e.isWrap = false := by
  cases cmd with
  | wrap c => exact absurd rfl (hcmd c)
  | _ =>
    simp only [handle, create, rename, reschedule, reorder, archive, ensureOpen, delete, mutate] at h
    grind [ShootingDayEvent.isWrap]

end ShootingDayAggregate

namespace SceneShootAggregate

variable {self : SceneShootAggregate} {cmd : SceneShootCommand} {events : List SceneShootEvent}

/-- What an accepted command emits, command by command: nothing, or its one event. -/
theorem handle_emits (h : self.handle cmd = .ok events) : events = [] ∨ ∃ e, events = [e] ∧
      (∀ day, cmd.executionDay = some day → e.isExecution ∧ self.shootingDayId = day) ∧
      (cmd.executionDay = none → e.isExecution = false) := by
  cases cmd <;>
    simp only [handle, plan, replan, start, setActualOrder, finish, skip, addNote, updateNote,
      removeNote, linkContinuityPhoto, unlinkContinuityPhoto, delete, checkDayAssociation,
      check_eq_ok, ensure_eq_ok, decide_eq_true_eq] at h <;>
    grind [SceneShootCommand.executionDay, SceneShootEvent.isExecution]

/-- The shooting day a stream was planned on, read off its first event. -/
def plannedDay (log : List SceneShootEvent) : Option ShootingDayId := match log.head? with
  | some (.sceneShootPlanned _ _ day _ _ _) => some day
  | _ => none

end SceneShootAggregate

end Breakdown
