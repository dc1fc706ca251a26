/-
**CHARACTERS** (`core/src/character/`).

A character is a figure of a season, with a role type, measurements and contact details. Changing
the category to the one it already has is a silent no-op; repeating measurements or contact details
is an ERROR.

The audit-only `project_id` of the commands is left out. A `Decimal` is the rational it stands for,
which is how its equality compares.
-/
import Breakdown.EventStore.EntityActor
import Breakdown.Lib.Fallible

namespace Breakdown

open Fallible

/-- How large a part is. -/
inductive CharacterCategory
  | mainCast
  | guest
  | extra
  deriving DecidableEq

/-- `CharacterCategory::as_str`. -/
def CharacterCategory.asStr : CharacterCategory → String
  | .mainCast => "main_cast"
  | .guest => "guest"
  | .extra => "extra"

/-- What a costume is fitted to. -/
structure CharacterMeasurements where
  shoeSize : Option Rat := none
  hatSize : Option Rat := none
  height : Option Rat := none
  weight : Option Rat := none
  chest : Option Rat := none
  waist : Option Rat := none
  hips : Option Rat := none
  deriving DecidableEq

/-- How to reach the performer. -/
structure ContactInfo where
  phone : Option String := none
  email : Option String := none
  deriving DecidableEq

/-- A character of a season. -/
structure CharacterAggregate where
  id : Uuid := .nil
  /-- `SeasonId::default()` draws a fresh v7 id. -/
  seasonId : SeasonId := ⟨.placeholderV7⟩
  name : String := ""
  category : CharacterCategory := .mainCast
  measurements : CharacterMeasurements := {}
  contactInfo : ContactInfo := {}
  deleted : Bool := false
  version : AggregateVersion := .initial

/-- What happens to a character. -/
inductive CharacterEvent
  | characterCreated (id : Uuid) (seasonId : SeasonId) (name : String)
      (category : CharacterCategory) (measurements : CharacterMeasurements)
      (contactInfo : ContactInfo) (version : AggregateVersion)
  | measurementsUpdated (id : Uuid) (measurements : CharacterMeasurements)
      (version : AggregateVersion)
  | contactInfoUpdated (id : Uuid) (contactInfo : ContactInfo) (version : AggregateVersion)
  | categoryChanged (id : Uuid) (category : CharacterCategory) (version : AggregateVersion)
  | characterDeleted (id : Uuid) (version : AggregateVersion)
  deriving DecidableEq

/-- Why a character command is refused. -/
inductive CharacterError
  | validationError (message : String)
  | notFound (id : Uuid)
  | deleted (id : Uuid)
  | versionMismatch (expected actual : AggregateVersion)

/-- Found a character. -/
structure CreateCharacter where
  id : Uuid
  seasonId : SeasonId
  name : String
  category : CharacterCategory

/-- Replace the measurements. -/
structure UpdateMeasurements where
  id : Uuid
  measurements : CharacterMeasurements
  version : AggregateVersion

/-- Replace the contact information. -/
structure UpdateContactInfo where
  id : Uuid
  contactInfo : ContactInfo
  version : AggregateVersion

/-- Move the character to another category. -/
structure UpdateCharacterCategory where
  id : Uuid
  category : CharacterCategory
  version : AggregateVersion

/-- Delete the character. -/
structure DeleteCharacter where
  id : Uuid

/-- The commands of a character. -/
inductive CharacterCommand
  | create (cmd : CreateCharacter)
  | updateMeasurements (cmd : UpdateMeasurements)
  | updateContactInfo (cmd : UpdateContactInfo)
  | updateCategory (cmd : UpdateCharacterCategory)
  | delete (cmd : DeleteCharacter)

namespace CharacterAggregate

variable (self : CharacterAggregate)

/-- What a handler returns. -/
abbrev Handled := Except CharacterError (List CharacterEvent)

/-- `Apply for CharacterAggregate`. -/
def apply : CharacterEvent → CharacterAggregate
  | .characterDeleted _ version => { self with deleted := true, version }
  | .characterCreated id seasonId name category measurements contactInfo version =>
    { self with id, seasonId, name, category, measurements, contactInfo, version }
  | .measurementsUpdated _ measurements version => { self with measurements, version }
  | .contactInfoUpdated _ contactInfo version => { self with contactInfo, version }
  | .categoryChanged _ category version => { self with category, version }

/-- The two checks every update starts with. -/
def mutate (version : AggregateVersion) (body : Handled) : Handled := do
  ensure (!self.deleted) (.deleted self.id)
  ensure (version = self.version) (.versionMismatch version self.version)
  body

/-- `Command<CreateCharacter>`. -/
def create (cmd : CreateCharacter) : Handled := do
  ensure (!self.deleted) (.deleted self.id)
  ensure (cmd.name ≠ "") (.validationError "Name must not be empty")
  .ok [.characterCreated cmd.id cmd.seasonId cmd.name cmd.category {} {} .initial]

/-- `Command<UpdateMeasurements>`. -/
def updateMeasurements (cmd : UpdateMeasurements) : Handled :=
  self.mutate cmd.version do
    ensure (cmd.measurements ≠ self.measurements) (.validationError "Measurements unchanged")
    .ok [.measurementsUpdated self.id cmd.measurements self.version.next]

/-- `Command<UpdateContactInfo>`. -/
def updateContactInfo (cmd : UpdateContactInfo) : Handled :=
  self.mutate cmd.version do
    ensure (cmd.contactInfo ≠ self.contactInfo) (.validationError "Contact info unchanged")
    .ok [.contactInfoUpdated self.id cmd.contactInfo self.version.next]

/-- `Command<UpdateCharacterCategory>`: the category it already has is a no-op. -/
def updateCategory (cmd : UpdateCharacterCategory) : Handled :=
  self.mutate cmd.version <|
    if cmd.category = self.category then .ok []
    else .ok [.categoryChanged self.id cmd.category self.version.next]

/-- `Command<DeleteCharacter>`. -/
def delete (cmd : DeleteCharacter) : Handled :=
  if self.deleted then .ok []
  else if self.id.isNil then .error (.notFound cmd.id)
  else .ok [.characterDeleted self.id self.version.next]

/-- The handler of each command. -/
def handle : CharacterCommand → Handled
  | .create cmd => self.create cmd
  | .updateMeasurements cmd => self.updateMeasurements cmd
  | .updateContactInfo cmd => self.updateContactInfo cmd
  | .updateCategory cmd => self.updateCategory cmd
  | .delete cmd => self.delete cmd

instance : Entity CharacterAggregate CharacterEvent CharacterCommand CharacterError :=
  { init := {}, apply, handle }

end CharacterAggregate

instance : IntoDomainError CharacterError where
  intoDomainError
    | .validationError message => .validation .characterValidation message
    | .notFound id => .notFound .characterNotFound "character" id
    | .deleted id => .notFound .characterNotFound "character" id
    | .versionMismatch expected actual => .versionConflict expected actual

end Breakdown
