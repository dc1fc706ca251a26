/-
**SEASON, BLOCK AND EPISODE** (`core/src/{season,block,episode}/`).

The three numbered levels of the production hierarchy. Their `Default` states carry freshly drawn
container ids that no handler reads before the create event has replaced them; the model leaves
the nil id there. The audit-only `project_id: Option<ProjectId>` of the update commands is left
out.
-/
import Breakdown.EventStore.EntityActor

namespace Breakdown

/-! ## §1. Episodes -/

/-- An episode of a block. -/
structure EpisodeAggregate where
  id : Uuid := .nil
  blockId : BlockId := ⟨.nil⟩
  projectId : ProjectId := ⟨.nil⟩
  number : Int := 0
  name : Option String := none
  deleted : Bool := false
  version : AggregateVersion := .initial

/-- What happens to an episode. -/
inductive EpisodeEvent
  | episodeCreated (id : Uuid) (blockId : BlockId) (projectId : ProjectId) (number : Int)
      (name : Option String) (version : AggregateVersion)
  | episodeRenamed (id : Uuid) (name : Option String) (version : AggregateVersion)
  | episodeDeleted (id : Uuid) (version : AggregateVersion)
  deriving DecidableEq

/-- Why an episode command is refused. -/
inductive EpisodeError
  | validationError (message : String)
  | notFound (id : Uuid)
  | deleted (id : Uuid)
  | versionMismatch (expected actual : AggregateVersion)

/-- Found an episode under its number. -/
structure CreateEpisode where
  id : Uuid
  blockId : BlockId
  projectId : ProjectId
  number : Int
  name : Option String

/-- Give the episode another name, or none. -/
structure RenameEpisode where
  id : Uuid
  name : Option String
  version : AggregateVersion

/-- Delete the episode. -/
structure DeleteEpisode where
  id : Uuid

/-- The commands of an episode. -/
inductive EpisodeCommand
  | create (cmd : CreateEpisode)
  | rename (cmd : RenameEpisode)
  | delete (cmd : DeleteEpisode)

namespace EpisodeAggregate

variable (self : EpisodeAggregate)

/-- What a handler returns. -/
abbrev Handled := Except EpisodeError (List EpisodeEvent)

/-- `Apply for EpisodeAggregate`. -/
def apply : EpisodeEvent → EpisodeAggregate
  | .episodeDeleted _ version => { self with deleted := true, version }
  | .episodeCreated id blockId projectId number name version =>
    { self with id, blockId, projectId, number, name, version }
  | .episodeRenamed _ name version => { self with name, version }

/-- `Command<CreateEpisode>`. -/
def create (cmd : CreateEpisode) : Handled :=
  if self.deleted then .error (.deleted self.id)
  else .ok [.episodeCreated cmd.id cmd.blockId cmd.projectId cmd.number cmd.name .initial]

/-- `Command<RenameEpisode>`. -/
def rename (cmd : RenameEpisode) : Handled :=
  if self.deleted then .error (.deleted self.id)
  else if cmd.version ≠ self.version then .error (.versionMismatch cmd.version self.version)
  else if cmd.name = self.name then .error (.validationError "Episode name unchanged")
  else .ok [.episodeRenamed self.id cmd.name self.version.next]

/-- `Command<DeleteEpisode>`. -/
def delete (cmd : DeleteEpisode) : Handled :=
  if self.deleted then .ok []
  else if self.id.isNil then .error (.notFound cmd.id)
  else .ok [.episodeDeleted self.id self.version.next]

/-- The handler of each command. -/
def handle : EpisodeCommand → Handled
  | .create cmd => self.create cmd
  | .rename cmd => self.rename cmd
  | .delete cmd => self.delete cmd

instance : Entity EpisodeAggregate EpisodeEvent EpisodeCommand EpisodeError :=
  { init := {}, apply, handle }

end EpisodeAggregate

instance : IntoDomainError EpisodeError where
  intoDomainError
    | .validationError message => .validation .episodeValidation message
    | .notFound id => .notFound .episodeNotFound "episode" id
    | .deleted id => .notFound .episodeNotFound "episode" id
    | .versionMismatch expected actual => .versionConflict expected actual

/-! ## §2. Seasons -/

/-- A season of a project. -/
structure SeasonAggregate where
  id : Uuid := .nil
  projectId : ProjectId := ⟨.nil⟩
  number : Int := 0
  title : Option String := none
  version : AggregateVersion := .initial
  archived : Bool := false

/-- What happens to a season. -/
inductive SeasonEvent
  | seasonCreated (id : Uuid) (projectId : ProjectId) (number : Int) (title : Option String)
      (version : AggregateVersion)
  | seasonRenamed (id : Uuid) (title : Option String) (version : AggregateVersion)
  | seasonArchived (id : Uuid) (version : AggregateVersion)
  deriving DecidableEq

/-- Why a season command is refused. -/
inductive SeasonError
  | validationError (message : String)
  | notFound (id : Uuid)
  | archivedCannotBeMutated (id : Uuid)
  | versionMismatch (expected actual : AggregateVersion)

/-- Found a season. -/
structure CreateSeason where
  id : Uuid
  projectId : ProjectId
  number : Int
  title : Option String

/-- Give the season another title, or none. -/
structure RenameSeason where
  id : Uuid
  title : Option String
  version : AggregateVersion

/-- Put the season away. -/
structure ArchiveSeason where
  id : Uuid
  version : AggregateVersion

/-- The commands of a season. -/
inductive SeasonCommand
  | create (cmd : CreateSeason)
  | rename (cmd : RenameSeason)
  | archive (cmd : ArchiveSeason)

namespace SeasonAggregate

variable (self : SeasonAggregate)

/-- What a handler returns. -/
abbrev Handled := Except SeasonError (List SeasonEvent)

/-- `Apply for SeasonAggregate`. -/
def apply : SeasonEvent → SeasonAggregate
  | .seasonCreated id projectId number title version =>
    { self with id, projectId, number, title, version }
  | .seasonRenamed _ title version => { self with title, version }
  | .seasonArchived _ version => { self with archived := true, version }

/-- `Command<CreateSeason>`: never rejects. -/
def create (_self : SeasonAggregate) (cmd : CreateSeason) : Handled :=
  .ok [.seasonCreated cmd.id cmd.projectId cmd.number cmd.title .initial]

/-- `Command<RenameSeason>`. -/
def rename (cmd : RenameSeason) : Handled :=
  if self.archived then .error (.archivedCannotBeMutated self.id)
  else if cmd.version ≠ self.version then .error (.versionMismatch cmd.version self.version)
  else if cmd.title = self.title then .error (.validationError "Season title unchanged")
  else .ok [.seasonRenamed self.id cmd.title self.version.next]

/-- `Command<ArchiveSeason>`: the version is checked before the archived flag. -/
def archive (cmd : ArchiveSeason) : Handled :=
  if cmd.version ≠ self.version then .error (.versionMismatch cmd.version self.version)
  else if self.archived then .error (.archivedCannotBeMutated self.id)
  else .ok [.seasonArchived self.id self.version.next]

/-- The handler of each command. -/
def handle : SeasonCommand → Handled
  | .create cmd => self.create cmd
  | .rename cmd => self.rename cmd
  | .archive cmd => self.archive cmd

instance : Entity SeasonAggregate SeasonEvent SeasonCommand SeasonError :=
  { init := {}, apply, handle }

end SeasonAggregate

instance : IntoDomainError SeasonError where
  intoDomainError
    | .validationError message => .validation .seasonValidation message
    | .notFound id => .notFound .seasonNotFound "season" id
    | .archivedCannotBeMutated id =>
      .conflict .seasonArchived s!"season {id} is archived and cannot be mutated"
    | .versionMismatch expected actual => .versionConflict expected actual

/-! ## §3. Blocks -/

/-- A block of a season, with the days it starts and ends. -/
structure BlockAggregate where
  id : Uuid := .nil
  seasonId : SeasonId := ⟨.nil⟩
  projectId : ProjectId := ⟨.nil⟩
  number : Int := 0
  startDate : Option NaiveDate := none
  endDate : Option NaiveDate := none
  version : AggregateVersion := .initial

/-- What happens to a block. -/
inductive BlockEvent
  | blockCreated (id : Uuid) (seasonId : SeasonId) (projectId : ProjectId) (number : Int)
      (startDate endDate : Option NaiveDate) (version : AggregateVersion)
  | blockTimeSpanUpdated (id : Uuid) (startDate endDate : Option NaiveDate)
      (version : AggregateVersion)
  deriving DecidableEq

/-- Why a block command is refused. -/
inductive BlockError
  | validationError (message : String)
  | notFound (id : Uuid)
  | versionMismatch (expected actual : AggregateVersion)

/-- Found a block. -/
structure CreateBlock where
  id : Uuid
  seasonId : SeasonId
  projectId : ProjectId
  number : Int
  startDate : Option NaiveDate
  endDate : Option NaiveDate

/-- Set the days the block starts and ends. -/
structure UpdateBlockTimeSpan where
  id : Uuid
  startDate : Option NaiveDate
  endDate : Option NaiveDate
  version : AggregateVersion

/-- The commands of a block. -/
inductive BlockCommand
  | create (cmd : CreateBlock)
  | updateTimeSpan (cmd : UpdateBlockTimeSpan)

namespace BlockAggregate

variable (self : BlockAggregate)

/-- What a handler returns. -/
abbrev Handled := Except BlockError (List BlockEvent)

/-- `Apply for BlockAggregate`. -/
def apply : BlockEvent → BlockAggregate
  | .blockCreated id seasonId projectId number startDate endDate version =>
    { self with id, seasonId, projectId, number, startDate, endDate, version }
  | .blockTimeSpanUpdated _ startDate endDate version => { self with startDate, endDate, version }

/-- `Command<CreateBlock>`: never rejects. -/
def create (_self : BlockAggregate) (cmd : CreateBlock) : Handled :=
  .ok [.blockCreated cmd.id cmd.seasonId cmd.projectId cmd.number cmd.startDate cmd.endDate .initial]

/-- `Command<UpdateBlockTimeSpan>`. -/
def updateTimeSpan (cmd : UpdateBlockTimeSpan) : Handled :=
  if cmd.version ≠ self.version then .error (.versionMismatch cmd.version self.version)
  else .ok [.blockTimeSpanUpdated self.id cmd.startDate cmd.endDate self.version.next]

/-- The handler of each command. -/
def handle : BlockCommand → Handled
  | .create cmd => self.create cmd
  | .updateTimeSpan cmd => self.updateTimeSpan cmd

instance : Entity BlockAggregate BlockEvent BlockCommand BlockError := { init := {}, apply, handle }

end BlockAggregate

instance : IntoDomainError BlockError where
  intoDomainError
    | .validationError message => .validation .blockValidation message
    | .notFound id => .notFound .blockNotFound "block" id
    | .versionMismatch expected actual => .versionConflict expected actual

end Breakdown
