/-
**THE COSTUME VOCABULARY OF A SEASON**
(`core/src/costume_category/`).

A category is created, renamed, reordered and at last archived. Archiving is final, but the create
handler does not look at the flag: only the empty-stream expectation of its adapter keeps it from
running twice. The audit-only `project_id: Option<ProjectId>` of the commands is left out.
-/
import Breakdown.EventStore.EntityActor

namespace Breakdown

/-! ## §1. State, events and commands -/

/-- A costume category of a season, at its place in the list. -/
structure CostumeCategoryAggregate where
  id : Uuid := .nil
  seasonId : SeasonId := ⟨.nil⟩
  name : String := ""
  orderKey : LexicalSortKey := ⟨"0"⟩
  archived : Bool := false
  version : AggregateVersion := .initial

/-- What happens to a category. -/
inductive CostumeCategoryEvent
  | costumeCategoryCreated (id : Uuid) (seasonId : SeasonId) (name : String)
      (orderKey : LexicalSortKey) (version : AggregateVersion)
  | costumeCategoryRenamed (id : Uuid) (name : String) (version : AggregateVersion)
  | costumeCategoryReordered (id : Uuid) (orderKey : LexicalSortKey) (version : AggregateVersion)
  | costumeCategoryArchived (id : Uuid) (version : AggregateVersion)
  deriving DecidableEq

/-- Why a category command is refused. -/
inductive CostumeCategoryError
  | validationError (message : String)
  | archivedCannotBeMutated (id : CostumeCategoryId)
  | versionMismatch (expected actual : AggregateVersion)

/-- Found a category. -/
structure CreateCostumeCategory where
  id : Uuid
  seasonId : SeasonId
  name : String
  orderKey : LexicalSortKey

/-- Give the category another name. -/
structure RenameCostumeCategory where
  id : Uuid
  name : String
  version : AggregateVersion

/-- Move the category in the list. -/
structure ReorderCostumeCategory where
  id : Uuid
  orderKey : LexicalSortKey
  version : AggregateVersion

/-- Put the category away. -/
structure ArchiveCostumeCategory where
  id : Uuid
  version : AggregateVersion

/-- The commands of a category. -/
inductive CostumeCategoryCommand
  | create (cmd : CreateCostumeCategory)
  | rename (cmd : RenameCostumeCategory)
  | reorder (cmd : ReorderCostumeCategory)
  | archive (cmd : ArchiveCostumeCategory)

/-! ## §2. Handlers -/

namespace CostumeCategoryAggregate

variable (self : CostumeCategoryAggregate)

/-- What a handler returns. -/
abbrev Handled := Except CostumeCategoryError (List CostumeCategoryEvent)

/-- `Apply for CostumeCategoryAggregate`. -/
def apply : CostumeCategoryEvent → CostumeCategoryAggregate
  | .costumeCategoryCreated id seasonId name orderKey version =>
    { self with id, seasonId, name, orderKey, archived := false, version }
  | .costumeCategoryRenamed _ name version => { self with name, version }
  | .costumeCategoryReordered _ orderKey version => { self with orderKey, version }
  | .costumeCategoryArchived _ version => { self with archived := true, version }

/-- `Command<CreateCostumeCategory>`. -/
def create (_self : CostumeCategoryAggregate) (cmd : CreateCostumeCategory) :
    Handled :=
  if isBlank cmd.name then .error (.validationError "CostumeCategory name must not be empty")
  else .ok [.costumeCategoryCreated cmd.id cmd.seasonId cmd.name cmd.orderKey .initial]

/-- `Command<RenameCostumeCategory>`. -/
def rename (cmd : RenameCostumeCategory) : Handled :=
  if self.archived then .error (.archivedCannotBeMutated ⟨self.id⟩)
  else if cmd.version ≠ self.version then .error (.versionMismatch cmd.version self.version)
  else if isBlank cmd.name then .error (.validationError "CostumeCategory name must not be empty")
  else .ok [.costumeCategoryRenamed self.id cmd.name self.version.next]

/-- `Command<ReorderCostumeCategory>`. -/
def reorder (cmd : ReorderCostumeCategory) : Handled :=
  if self.archived then .error (.archivedCannotBeMutated ⟨self.id⟩)
  else if cmd.version ≠ self.version then .error (.versionMismatch cmd.version self.version)
  else .ok [.costumeCategoryReordered self.id cmd.orderKey self.version.next]

/-- `Command<ArchiveCostumeCategory>`: the version is checked before the archived flag. -/
def archive (cmd : ArchiveCostumeCategory) : Handled :=
  if cmd.version ≠ self.version then .error (.versionMismatch cmd.version self.version)
  else if self.archived then .error (.archivedCannotBeMutated ⟨self.id⟩)
  else .ok [.costumeCategoryArchived self.id self.version.next]

/-- The handler of each command. -/
def handle : CostumeCategoryCommand → Handled
  | .create cmd => self.create cmd
  | .rename cmd => self.rename cmd
  | .reorder cmd => self.reorder cmd
  | .archive cmd => self.archive cmd

instance : Entity CostumeCategoryAggregate CostumeCategoryEvent CostumeCategoryCommand
    CostumeCategoryError where
  init := {}
  apply := apply
  handle := handle

end CostumeCategoryAggregate

instance : IntoDomainError CostumeCategoryError where
  intoDomainError
    | .validationError message => .validation .costumeCategoryValidation message
    | .archivedCannotBeMutated _ =>
      .conflict .costumeCategoryArchived "costume category is archived and cannot be mutated"
    | .versionMismatch expected actual => .versionConflict expected actual

end Breakdown
