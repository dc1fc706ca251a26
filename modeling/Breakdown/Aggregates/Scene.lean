/-
**SCENES** (`core/src/scene/`).

A scene owns three collections: the characters in it, the shooting days it is linked to, and the
outfit beats. Every command but the creation and the deletion names the version it was made for.

`project_id` of the commands is audit metadata and left out, as is the confidence of a source.

- `handle_advances`: apart from creating, removing, unscheduling and deleting, a command emits one
  event, which takes nothing out of the scene and carries the scene's next version.
-/
import Breakdown.EventStore.EntityActor
import Breakdown.Lib.Fallible

namespace Breakdown

open Fallible

/-! ## §1. The aggregate -/

/-- Where a scene comes from: a user, or an imported script. -/
inductive SceneSource
  | manual
  | aiExtracted (documentId : Uuid) (externalRef : Option String)
  deriving DecidableEq

/-- The number and the texts of a scene. -/
structure SceneDetails where
  sceneNumber : Option Nat := none
  location : Option String := none
  mood : Option String := none
  isScheduleSet : Bool := false
  summary : Option String := none
  scriptDay : Option String := none
  deriving DecidableEq

/-- A look of a character in a scene, at its place in their order. -/
structure SceneOutfitBeat where
  characterId : Uuid
  outfitId : Uuid
  order : Nat
  note : Option String
  deriving DecidableEq

/-- A scene with its characters, their beats and its shooting days. -/
structure SceneAggregate where
  id : Uuid := .nil
  /-- `EpisodeId::default()` draws a fresh v7 id. -/
  episodeId : EpisodeId := ⟨.placeholderV7⟩
  details : SceneDetails := {}
  assignedCharacters : List Uuid := []
  shootingDayIds : List ShootingDayId := []
  outfitBeats : List SceneOutfitBeat := []
  source : SceneSource := .manual
  deleted : Bool := false
  version : AggregateVersion := .initial
  deriving DecidableEq

/-- What happens to a scene. -/
inductive SceneEvent
  | sceneCreated (id : Uuid) (episodeId : EpisodeId) (details : SceneDetails)
      (assignedCharacters : List Uuid) (source : SceneSource) (version : AggregateVersion)
  | sceneDetailsUpdated (id : Uuid) (details : SceneDetails) (version : AggregateVersion)
  | characterAssigned (id characterId : Uuid) (version : AggregateVersion)
  | characterRemoved (id characterId : Uuid) (version : AggregateVersion)
  | shootingDayScheduled (id : Uuid) (shootingDayId : ShootingDayId) (version : AggregateVersion)
  | shootingDayUnscheduled (id : Uuid) (shootingDayId : ShootingDayId)
      (version : AggregateVersion)
  | outfitBeatAdded (id characterId outfitId : Uuid) (order : Nat) (note : Option String)
      (version : AggregateVersion)
  | outfitBeatUpdated (id characterId : Uuid) (order : Nat) (outfitId : Uuid)
      (note : Option String) (version : AggregateVersion)
  | outfitBeatRemoved (id characterId : Uuid) (order : Nat) (version : AggregateVersion)
  | outfitBeatsCleared (id characterId : Uuid) (version : AggregateVersion)
  | sceneDeleted (id : Uuid) (version : AggregateVersion)
  deriving DecidableEq

/-- Why a scene command is refused. -/
inductive SceneError
  | validationError (message : String)
  | characterNotFound (id : Uuid)
  | notFound (id : Uuid)
  | deleted (id : Uuid)
  | characterAlreadyAssigned
  | characterNotInScene (characterId : Uuid)
  | beatNotFound (characterId : Uuid) (order : Nat)
  | noOutfitBeats (characterId : Uuid)
  | alreadyScheduled (shootingDayId : ShootingDayId)
  | notScheduled (shootingDayId : ShootingDayId)
  | versionMismatch (expected actual : AggregateVersion)
  deriving DecidableEq

/-- Found a scene in an episode. -/
structure CreateScene where
  id : Uuid
  episodeId : EpisodeId
  details : SceneDetails
  source : SceneSource := .manual

/-- Replace the details. -/
structure UpdateSceneDetails where
  id : Uuid
  details : SceneDetails
  version : AggregateVersion

/-- Put a character into the scene. -/
structure AssignCharacter where
  id : Uuid
  characterId : Uuid
  version : AggregateVersion

/-- Take a character out of the scene, with their beats. -/
structure RemoveCharacter where
  id : Uuid
  characterId : Uuid
  version : AggregateVersion

/-- Add a look behind the character's last one. -/
structure AddOutfitBeat where
  id : Uuid
  characterId : Uuid
  outfitId : Uuid
  note : Option String
  version : AggregateVersion

/-- Replace the outfit and the note of a beat. -/
structure UpdateOutfitBeat where
  id : Uuid
  characterId : Uuid
  order : Nat
  outfitId : Uuid
  note : Option String
  version : AggregateVersion

/-- Remove one beat of a character, or all of them. -/
structure RemoveOutfitBeat where
  id : Uuid
  characterId : Uuid
  order : Option Nat
  version : AggregateVersion

/-- Shoot the scene on a day. -/
structure ScheduleSceneOnShootingDay where
  id : Uuid
  shootingDayId : ShootingDayId
  version : AggregateVersion

/-- Take the scene off a day. -/
structure UnscheduleSceneFromShootingDay where
  id : Uuid
  shootingDayId : ShootingDayId
  version : AggregateVersion

/-- Delete the scene. -/
structure DeleteScene where
  id : Uuid

/-- The commands of a scene. -/
inductive SceneCommand
  | create (cmd : CreateScene)
  | updateDetails (cmd : UpdateSceneDetails)
  | assignCharacter (cmd : AssignCharacter)
  | removeCharacter (cmd : RemoveCharacter)
  | addOutfitBeat (cmd : AddOutfitBeat)
  | updateOutfitBeat (cmd : UpdateOutfitBeat)
  | removeOutfitBeat (cmd : RemoveOutfitBeat)
  | scheduleOnShootingDay (cmd : ScheduleSceneOnShootingDay)
  | unscheduleFromShootingDay (cmd : UnscheduleSceneFromShootingDay)
  | delete (cmd : DeleteScene)

namespace SceneAggregate

variable (self : SceneAggregate)

/-- What a handler returns. -/
abbrev Handled := Except SceneError (List SceneEvent)

/-- Change the first beat of the character at the given order. -/
def updateBeat (characterId : Uuid) (order : Nat) (f : SceneOutfitBeat → SceneOutfitBeat) :
    List SceneOutfitBeat → List SceneOutfitBeat
  | [] => []
  | beat :: rest =>
    if beat.characterId = characterId ∧ beat.order = order then f beat :: rest
    else beat :: updateBeat characterId order f rest

/-- `Apply for SceneAggregate`. -/
def apply : SceneEvent → SceneAggregate
  | .sceneDeleted _ version => { self with deleted := true, version }
  | .sceneCreated id episodeId details assignedCharacters source version =>
    { self with id, episodeId, details, assignedCharacters, source, shootingDayIds := [], version }
  | .sceneDetailsUpdated _ details version => { self with details, version }
  | .characterAssigned _ characterId version =>
    { self with
      assignedCharacters := if self.assignedCharacters.contains characterId then
        self.assignedCharacters else self.assignedCharacters ++ [characterId]
      version }
  | .characterRemoved _ characterId version =>
    { self with
      assignedCharacters := self.assignedCharacters.filter (· ≠ characterId), version }
  | .shootingDayScheduled _ shootingDayId version =>
    { self with
      shootingDayIds := if self.shootingDayIds.contains shootingDayId then
        self.shootingDayIds else self.shootingDayIds ++ [shootingDayId]
      version }
  | .shootingDayUnscheduled _ shootingDayId version =>
    { self with shootingDayIds := self.shootingDayIds.filter (· ≠ shootingDayId), version }
  | .outfitBeatAdded _ characterId outfitId order note version =>
    { self with
      outfitBeats := self.outfitBeats ++ [{ characterId, outfitId, order, note }], version }
  | .outfitBeatUpdated _ characterId order outfitId note version =>
    { self with
      outfitBeats := updateBeat characterId order (fun beat => { beat with outfitId, note })
        self.outfitBeats
      version }
  | .outfitBeatRemoved _ characterId order version =>
    { self with
      outfitBeats := self.outfitBeats.filter fun b =>
        !(b.characterId = characterId && b.order = order)
      version }
  | .outfitBeatsCleared _ characterId version =>
    { self with
      outfitBeats := self.outfitBeats.filter fun b => b.characterId ≠ characterId, version }

/-- The guard every command starts with. -/
def checkNotDeleted : Except SceneError Unit :=
  ensure (!self.deleted) (.deleted self.id)

/-- The version guard of every update. -/
def checkVersion (expected : AggregateVersion) : Except SceneError Unit :=
  ensure (expected = self.version) (.versionMismatch expected self.version)

/-- The character is in the scene, as every outfit beat needs. -/
def checkInScene (characterId : Uuid) : Except SceneError Unit :=
  ensure (self.assignedCharacters.contains characterId) (.characterNotInScene characterId)

/-- The beats of one character. -/
def beatsOf (characterId : Uuid) : List SceneOutfitBeat :=
  self.outfitBeats.filter (·.characterId = characterId)

/-- `max_by_key(order)`: of several, the last one. -/
def lastBeat : List SceneOutfitBeat → Option SceneOutfitBeat
  | [] => none
  | beat :: rest =>
    match lastBeat rest with
    | none => some beat
    | some last => if beat.order ≤ last.order then some last else some beat

/-- `Command<CreateScene>`. -/
def create (cmd : CreateScene) : Handled := do
  self.checkNotDeleted
  .ok [.sceneCreated cmd.id cmd.episodeId cmd.details [] cmd.source .initial]

/-- `Command<UpdateSceneDetails>`. -/
def updateDetails (cmd : UpdateSceneDetails) : Handled := do
  self.checkNotDeleted
  self.checkVersion cmd.version
  ensure (cmd.details ≠ self.details) (.validationError "Scene details unchanged")
  .ok [.sceneDetailsUpdated self.id cmd.details self.version.next]

/-- `Command<AssignCharacter>`. -/
def assignCharacter (cmd : AssignCharacter) : Handled := do
  self.checkNotDeleted
  self.checkVersion cmd.version
  ensure (!self.assignedCharacters.contains cmd.characterId) .characterAlreadyAssigned
  .ok [.characterAssigned self.id cmd.characterId self.version.next]

/-- `Command<RemoveCharacter>`: the character's beats go first. -/
def removeCharacter (cmd : RemoveCharacter) : Handled := do
  self.checkNotDeleted
  self.checkVersion cmd.version
  ensure (self.assignedCharacters.contains cmd.characterId)
    (.validationError "Character is not assigned to this scene")
  if (self.beatsOf cmd.characterId).isEmpty then
    .ok [.characterRemoved self.id cmd.characterId self.version.next]
  else
    .ok [.outfitBeatsCleared self.id cmd.characterId self.version.next,
      .characterRemoved self.id cmd.characterId self.version.next.next]

/-- `Command<ScheduleSceneOnShootingDay>`. -/
def scheduleOnShootingDay (cmd : ScheduleSceneOnShootingDay) : Handled := do
  self.checkNotDeleted
  self.checkVersion cmd.version
  ensure (!self.shootingDayIds.contains cmd.shootingDayId) (.alreadyScheduled cmd.shootingDayId)
  .ok [.shootingDayScheduled self.id cmd.shootingDayId self.version.next]

/-- `Command<UnscheduleSceneFromShootingDay>`. -/
def unscheduleFromShootingDay (cmd : UnscheduleSceneFromShootingDay) : Handled := do
  self.checkNotDeleted
  self.checkVersion cmd.version
  ensure (self.shootingDayIds.contains cmd.shootingDayId) (.notScheduled cmd.shootingDayId)
  .ok [.shootingDayUnscheduled self.id cmd.shootingDayId self.version.next]

/-- `Command<AddOutfitBeat>`: the order is the character's highest plus one, a `u32` that wraps in a
release build. -/
def addOutfitBeat (cmd : AddOutfitBeat) : Handled := do
  self.checkNotDeleted
  self.checkVersion cmd.version
  self.checkInScene cmd.characterId
  let last := lastBeat (self.beatsOf cmd.characterId)
  let order := match last with
    | some beat => (beat.order + 1) % 2 ^ 32
    | none => 0
  ensure (!last.any fun beat => beat.outfitId = cmd.outfitId && beat.note = cmd.note)
    (.validationError "outfit beat identical to the character's last beat")
  .ok [.outfitBeatAdded self.id cmd.characterId cmd.outfitId order cmd.note self.version.next]

/-- `Command<UpdateOutfitBeat>`. -/
def updateOutfitBeat (cmd : UpdateOutfitBeat) : Handled := do
  self.checkNotDeleted
  self.checkVersion cmd.version
  self.checkInScene cmd.characterId
  ensure ((self.beatsOf cmd.characterId).any (·.order = cmd.order))
    (.beatNotFound cmd.characterId cmd.order)
  .ok [.outfitBeatUpdated self.id cmd.characterId cmd.order cmd.outfitId cmd.note
    self.version.next]

/-- `Command<RemoveOutfitBeat>`: one beat, or all of the character. -/
def removeOutfitBeat (cmd : RemoveOutfitBeat) : Handled := do
  self.checkNotDeleted
  self.checkVersion cmd.version
  self.checkInScene cmd.characterId
  match cmd.order with
  | some order =>
    ensure ((self.beatsOf cmd.characterId).any (·.order = order))
      (.beatNotFound cmd.characterId order)
    .ok [.outfitBeatRemoved self.id cmd.characterId order self.version.next]
  | none =>
    ensure (!(self.beatsOf cmd.characterId).isEmpty) (.noOutfitBeats cmd.characterId)
    .ok [.outfitBeatsCleared self.id cmd.characterId self.version.next]

/-- `Command<DeleteScene>`. -/
def delete (cmd : DeleteScene) : Handled :=
  if self.deleted then .ok []
  else if self.id.isNil then .error (.notFound cmd.id)
  else .ok [.sceneDeleted self.id self.version.next]

/-- The handler of each command. -/
def handle : SceneCommand → Handled
  | .create cmd => self.create cmd
  | .updateDetails cmd => self.updateDetails cmd
  | .assignCharacter cmd => self.assignCharacter cmd
  | .removeCharacter cmd => self.removeCharacter cmd
  | .addOutfitBeat cmd => self.addOutfitBeat cmd
  | .updateOutfitBeat cmd => self.updateOutfitBeat cmd
  | .removeOutfitBeat cmd => self.removeOutfitBeat cmd
  | .scheduleOnShootingDay cmd => self.scheduleOnShootingDay cmd
  | .unscheduleFromShootingDay cmd => self.unscheduleFromShootingDay cmd
  | .delete cmd => self.delete cmd

/-- `is_state_idempotent`: only scheduling has one, and a deleted scene never takes it. -/
def isStateIdempotent : SceneCommand → Bool
  | .scheduleOnShootingDay cmd => !self.deleted && self.shootingDayIds.contains cmd.shootingDayId
  | _ => false

instance : Entity SceneAggregate SceneEvent SceneCommand SceneError :=
  { init := {}, apply, handle, isStateIdempotent }

end SceneAggregate

instance : IntoDomainError SceneError where
  intoDomainError
    | .validationError message => .validation .sceneValidation message
    | .characterNotFound id => .notFound .sceneCharacterNotFound "scene-character" id
    | .notFound id => .notFound .sceneNotFound "scene" id
    | .deleted id => .notFound .sceneNotFound "scene" id
    | .characterAlreadyAssigned =>
      .conflict .sceneCharacterAlreadyAssigned "character already assigned to this scene"
    | .characterNotInScene characterId => .validation .sceneCharacterNotInScene
        ("character " ++ characterId.toDisplay ++ " is not assigned to this scene")
    | .beatNotFound characterId order => .validation .sceneBeatNotFound
        ("no outfit beat for character " ++ characterId.toDisplay ++ " at order " ++ toString order)
    | .noOutfitBeats characterId => .validation .sceneBeatNotFound
        ("no outfit beats for character " ++ characterId.toDisplay)
    | .alreadyScheduled shootingDayId => .alreadyScheduled shootingDayId.uuid
    | .notScheduled shootingDayId => .notScheduled shootingDayId.uuid
    | .versionMismatch expected actual => .versionConflict expected actual

/-! ## §2. Commands that keep the scene together -/

namespace SceneCommand

/-- The scene a command is for. -/
def id : SceneCommand → Uuid
  | .create cmd => cmd.id
  | .updateDetails cmd => cmd.id
  | .assignCharacter cmd => cmd.id
  | .removeCharacter cmd => cmd.id
  | .addOutfitBeat cmd => cmd.id
  | .updateOutfitBeat cmd => cmd.id
  | .removeOutfitBeat cmd => cmd.id
  | .scheduleOnShootingDay cmd => cmd.id
  | .unscheduleFromShootingDay cmd => cmd.id
  | .delete cmd => cmd.id

/-- Does the command take a character or a day out of the scene, or the scene away? -/
def unlinks : SceneCommand → Bool
  | .removeCharacter _ => true
  | .unscheduleFromShootingDay _ => true
  | .delete _ => true
  | _ => false

end SceneCommand

namespace SceneAggregate

/-- One version on, and nothing taken out. -/
structure Advances (agg next : SceneAggregate) : Prop where
  characters : ∀ characterId ∈ agg.assignedCharacters, characterId ∈ next.assignedCharacters
  days : ∀ shootingDayId ∈ agg.shootingDayIds, shootingDayId ∈ next.shootingDayIds
  version : next.version = agg.version.next

theorem advances_characterAssigned (self : SceneAggregate) (id characterId : Uuid) :
    self.Advances (self.apply (.characterAssigned id characterId self.version.next)) where
  characters _ h := by
    simp only [apply]
    split
    · exact h
    · exact List.mem_append_left _ h
  days _ h := h
  version := rfl

theorem advances_shootingDayScheduled (self : SceneAggregate) (id : Uuid)
    (shootingDayId : ShootingDayId) :
    self.Advances (self.apply (.shootingDayScheduled id shootingDayId self.version.next)) where
  characters _ h := h
  days _ h := by
    simp only [apply]
    split
    · exact h
    · exact List.mem_append_left _ h
  version := rfl

/-- **NO OTHER COMMAND TAKES ANYTHING OUT**: it emits one event, at the next version. -/
theorem handle_advances {self : SceneAggregate} (h : self.handle cmd = .ok events)
    (hkeeps : cmd.unlinks = false) (hcreate : ∀ c, cmd ≠ .create c) :
    ∃ e, events = [e] ∧ self.Advances (self.apply e) := by
  cases cmd with
  | create c => exact absurd rfl (hcreate c)
  | removeCharacter | unscheduleFromShootingDay | delete => cases hkeeps
  | updateDetails =>
    simp only [handle, updateDetails, check_eq_ok] at h
    obtain ⟨-, -, -, h⟩ := h
    cases h
    exact ⟨_, rfl, fun _ h => h, fun _ h => h, rfl⟩
  | assignCharacter =>
    simp only [handle, assignCharacter, check_eq_ok] at h
    obtain ⟨-, -, -, h⟩ := h
    cases h
    exact ⟨_, rfl, advances_characterAssigned self ..⟩
  | scheduleOnShootingDay =>
    simp only [handle, scheduleOnShootingDay, check_eq_ok] at h
    obtain ⟨-, -, -, h⟩ := h
    cases h
    exact ⟨_, rfl, advances_shootingDayScheduled self ..⟩
  | addOutfitBeat | updateOutfitBeat =>
    simp only [handle, addOutfitBeat, updateOutfitBeat, check_eq_ok] at h
    obtain ⟨-, -, -, -, h⟩ := h
    cases h
    exact ⟨_, rfl, fun _ h => h, fun _ h => h, rfl⟩
  | removeOutfitBeat =>
    simp only [handle, removeOutfitBeat, check_eq_ok] at h
    obtain ⟨-, -, -, h⟩ := h
    split at h
    all_goals
      simp only [check_eq_ok] at h
      obtain ⟨-, h⟩ := h
      cases h
      exact ⟨_, rfl, fun _ h => h, fun _ h => h, rfl⟩

end SceneAggregate

end Breakdown
