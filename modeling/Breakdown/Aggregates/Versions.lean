/-
**THE VERSIONS OF ALL AGGREGATES.**

Thirteen kinds of aggregates carry a version: they number their own events from 1 and check the
version a command was made for. The stream check of the store is the one that counts; the
handlers' own checks repeat it.

Per kind: the version an event carries, the event that founds a stream, the expectation the adapter
of each command (`infra/src/event_store/command_adapters.rs`) and the dev-reset deletes
(`infra/src/dev_reset/imports.rs`) send it with, and the error for a wrong version. The handlers
are gone through once (`LawfulVersioned`); everything else is the theory of histories.
-/
import Breakdown.Aggregates.AiConfig
import Breakdown.Aggregates.Character
import Breakdown.Aggregates.CostumeCategory
import Breakdown.Aggregates.Hierarchy
import Breakdown.Aggregates.Photo
import Breakdown.Aggregates.Scene
import Breakdown.Aggregates.Settings
import Breakdown.Aggregates.Shooting
import Breakdown.Aggregates.Wardrobe
import Breakdown.EventStore.Histories

namespace Breakdown

open Fallible AiConfigEvent Versioned

attribute [simp] version eventVersion isCreation
  dispatching isVersionMismatch AggregateVersion.next AggregateVersion.initial
-- The handlers of a kind unfold where its namespace is open, here and in the modules that go through
-- them for other laws; a law that `simp` then reads off all of them is left to the class's default.
attribute [local simp] Entity.handle Entity.init

/-! ## §1. The thirteen kinds -/

/-! ### Scenes -/

/-- The version the event carries. -/
@[simp] def SceneEvent.version : SceneEvent → AggregateVersion
  | .sceneCreated _ _ _ _ _ version | .sceneDetailsUpdated _ _ version
  | .characterAssigned _ _ version | .characterRemoved _ _ version
  | .shootingDayScheduled _ _ version | .shootingDayUnscheduled _ _ version
  | .outfitBeatAdded _ _ _ _ _ version | .outfitBeatUpdated _ _ _ _ _ version
  | .outfitBeatRemoved _ _ _ version | .outfitBeatsCleared _ _ version
  | .sceneDeleted _ version => version

/-- The event that founds a scene. -/
@[simp] def SceneEvent.isCreation : SceneEvent → Bool
  | .sceneCreated .. => true
  | _ => false

instance : Versioned SceneAggregate _ _ _ where
  version := SceneAggregate.version
  eventVersion := SceneEvent.version
  isCreation := SceneEvent.isCreation
  dispatching
    | .create _ => .create
    | .updateDetails cmd => .update cmd.version
    | .assignCharacter cmd => .update cmd.version
    | .removeCharacter cmd => .update cmd.version
    | .addOutfitBeat cmd => .update cmd.version
    | .updateOutfitBeat cmd => .update cmd.version
    | .removeOutfitBeat cmd => .update cmd.version
    | .scheduleOnShootingDay cmd => .update cmd.version
    | .unscheduleFromShootingDay cmd => .update cmd.version
    | .delete _ => .free
  isVersionMismatch
    | .versionMismatch .. => true
    | _ => false

namespace SceneAggregate
attribute [scoped simp] handle create checkNotDeleted removeOutfitBeat checkVersion checkInScene
  updateDetails assignCharacter removeCharacter addOutfitBeat updateOutfitBeat scheduleOnShootingDay
  unscheduleFromShootingDay delete
end SceneAggregate

open SceneAggregate in
instance : LawfulVersioned SceneAggregate _ _ _ where
  handle_ends {s cmd} hcmd := by
    cases cmd with
    | create => exact absurd rfl hcmd
    | removeOutfitBeat c =>
      -- one beat, or all of the character
      obtain ⟨id, characterId, _ | order, version⟩ := c <;> simp
    | _ => simp

/-! ### Scene shoots -/

/-- The version the event carries. -/
@[simp] def SceneShootEvent.version : SceneShootEvent → AggregateVersion
  | .sceneShootPlanned _ _ _ _ _ version | .sceneShootReplanned _ _ version
  | .sceneShootStarted _ _ version | .sceneShootActualOrderSet _ _ version
  | .sceneShootFinished _ _ version | .sceneShootSkipped _ version
  | .shootDayNoteAdded _ _ _ _ version | .shootDayNoteUpdated _ _ _ version
  | .shootDayNoteRemoved _ _ version | .continuityPhotoLinked _ _ version
  | .continuityPhotoUnlinked _ _ version | .sceneShootDeleted _ version => version

/-- The event that founds a scene shoot. -/
@[simp] def SceneShootEvent.isCreation : SceneShootEvent → Bool
  | .sceneShootPlanned .. => true
  | _ => false

instance : Versioned SceneShootAggregate _ _ _ where
  version := SceneShootAggregate.version
  eventVersion := SceneShootEvent.version
  isCreation := SceneShootEvent.isCreation
  dispatching
    | .plan _ => .create
    | .replan cmd => .update cmd.version
    | .start cmd => .update cmd.version
    | .setActualOrder cmd => .update cmd.version
    | .finish cmd => .update cmd.version
    | .skip cmd => .update cmd.version
    | .updateNote cmd => .update cmd.version
    | .removeNote cmd => .update cmd.version
    | .linkContinuityPhoto cmd => .update cmd.version
    | .unlinkContinuityPhoto cmd => .update cmd.version
    | .addNote _ | .delete _ => .free
  isVersionMismatch
    | .versionMismatch .. => true
    | _ => false

namespace SceneShootAggregate
attribute [scoped simp] handle plan checkNotDeleted replan start setActualOrder finish skip
  updateNote removeNote linkContinuityPhoto unlinkContinuityPhoto addNote delete checkDayAssociation
  checkNotTerminal checkVersion
end SceneShootAggregate

open SceneShootAggregate in
instance : LawfulVersioned SceneShootAggregate _ _ _ := {}

/-! ### Shooting days -/

/-- The version the event carries. -/
@[simp] def ShootingDayEvent.version : ShootingDayEvent → AggregateVersion
  | .shootingDayCreated _ _ _ _ _ _ version | .shootingDayRenamed _ _ version
  | .shootingDayRescheduled _ _ version | .shootingDayReordered _ _ version
  | .shootingDayArchived _ version | .shootingDayWrapped _ _ version
  | .shootingDayDeleted _ version => version

/-- The event that founds a shooting day. -/
@[simp] def ShootingDayEvent.isCreation : ShootingDayEvent → Bool
  | .shootingDayCreated .. => true
  | _ => false

instance : Versioned ShootingDayAggregate _ _ _ where
  version := ShootingDayAggregate.version
  eventVersion := ShootingDayEvent.version
  isCreation := ShootingDayEvent.isCreation
  dispatching
    | .create _ => .create
    | .rename cmd => .update cmd.version
    | .reschedule cmd => .update cmd.version
    | .reorder cmd => .update cmd.version
    | .archive cmd => .update cmd.version
    | .wrap cmd => .update cmd.version
    | .ensureOpen _ | .delete _ => .free
  isVersionMismatch
    | .versionMismatch .. => true
    | _ => false

namespace ShootingDayAggregate
attribute [scoped simp] handle create rename reschedule reorder archive wrap ensureOpen delete
  mutate
end ShootingDayAggregate

open ShootingDayAggregate in
instance : LawfulVersioned ShootingDayAggregate _ _ _ := {}

/-! ### Pieces -/

/-- The version the event carries. -/
@[simp] def PieceEvent.version : PieceEvent → AggregateVersion
  | .pieceCreated _ _ _ _ _ _ _ version | .pieceRenamed _ _ version
  | .pieceNotesUpdated _ _ version | .pieceAddedToSeason _ _ version
  | .pieceRemovedFromSeason _ _ version | .pieceDetailAdded _ _ version
  | .pieceDetailUpdated _ _ version | .pieceDetailRemoved _ _ version
  | .pieceCategorySet _ _ version | .piecePhotoLinked _ _ version
  | .piecePhotoUnlinked _ _ version | .pieceDeleted _ version => version

/-- The event that founds a piece. -/
@[simp] def PieceEvent.isCreation : PieceEvent → Bool
  | .pieceCreated .. => true
  | _ => false

instance : Versioned PieceAggregate _ _ _ where
  version := PieceAggregate.version
  eventVersion := PieceEvent.version
  isCreation := PieceEvent.isCreation
  dispatching
    | .create _ => .create
    | .rename cmd => .update cmd.version
    | .updateNotes cmd => .update cmd.version
    | .addToSeason cmd => .update cmd.version
    | .removeFromSeason cmd => .update cmd.version
    | .addDetail cmd => .update cmd.version
    | .updateDetail cmd => .update cmd.version
    | .removeDetail cmd => .update cmd.version
    | .setCategory cmd => .update cmd.version
    | .linkPhoto cmd => .update cmd.version
    | .unlinkPhoto cmd => .update cmd.version
    | .delete _ => .free
  isVersionMismatch
    | .versionMismatch .. => true
    | _ => false

namespace PieceAggregate
attribute [scoped simp] handle create normalizeName rename updateNotes addToSeason removeFromSeason
  addDetail updateDetail removeDetail setCategory linkPhoto unlinkPhoto delete mutate
end PieceAggregate

open PieceAggregate in
instance : LawfulVersioned PieceAggregate _ _ _ := {}

/-! ### Outfits -/

/-- The version the event carries. -/
@[simp] def OutfitEvent.version : OutfitEvent → AggregateVersion
  | .outfitCreated _ _ _ _ _ _ version | .outfitVariantCreated _ _ _ _ _ _ _ version
  | .outfitRenamed _ _ version | .outfitNotesUpdated _ _ version
  | .outfitPieceAdded _ _ _ version | .outfitPieceRemoved _ _ version
  | .outfitPhotoLinked _ _ version | .outfitPhotoUnlinked _ _ version
  | .outfitDeleted _ version => version

/-- The event that founds an outfit. -/
@[simp] def OutfitEvent.isCreation : OutfitEvent → Bool
  | .outfitCreated .. => true
  | .outfitVariantCreated .. => true
  | _ => false

instance : Versioned OutfitAggregate _ _ _ where
  version := OutfitAggregate.version
  eventVersion := OutfitEvent.version
  isCreation := OutfitEvent.isCreation
  dispatching
    | .create _ | .createVariant _ => .create
    | .rename cmd => .update cmd.version
    | .updateNotes cmd => .update cmd.version
    | .addPiece cmd => .update cmd.version
    | .removePiece cmd => .update cmd.version
    | .linkPhoto cmd => .update cmd.version
    | .unlinkPhoto cmd => .update cmd.version
    | .delete _ => .free
  isVersionMismatch
    | .versionMismatch .. => true
    | _ => false

namespace OutfitAggregate
attribute [scoped simp] handle create normalizeName createVariant rename updateNotes addPiece
  removePiece linkPhoto unlinkPhoto delete mutate
end OutfitAggregate

open OutfitAggregate in
instance : LawfulVersioned OutfitAggregate _ _ _ := {}

/-! ### Photos -/

/-- The version the event carries. -/
@[simp] def PhotoEvent.version : PhotoEvent → AggregateVersion
  | .photoUploaded _ _ _ _ _ version | .originalNormalized _ _ _ version
  | .variantGenerated _ _ _ version | .variantFailed _ _ _ version | .photoDeleted _ version
    => version

/-- The event that founds a photo. -/
@[simp] def PhotoEvent.isCreation : PhotoEvent → Bool
  | .photoUploaded .. => true
  | _ => false

instance : Versioned PhotoAggregate _ _ _ where
  version := PhotoAggregate.version
  eventVersion := PhotoEvent.version
  isCreation := PhotoEvent.isCreation
  dispatching
    | .upload _ => .create
    | .normalizeOriginal cmd => .update cmd.version
    | .generateVariant cmd => .update cmd.version
    | .markVariantFailed cmd => .update cmd.version
    | .delete cmd => .update cmd.version
  isVersionMismatch
    | .versionMismatch .. => true
    | _ => false

namespace PhotoAggregate
attribute [scoped simp] handle upload normalizeOriginal generateVariant markVariantFailed delete
  checkNotDeleted checkVersion
end PhotoAggregate

open PhotoAggregate in
instance : LawfulVersioned PhotoAggregate _ _ _ := {}

/-! ### Seasons -/

/-- The version the event carries. -/
@[simp] def SeasonEvent.version : SeasonEvent → AggregateVersion
  | .seasonCreated _ _ _ _ version | .seasonRenamed _ _ version | .seasonArchived _ version
    => version

/-- The event that founds a season. -/
@[simp] def SeasonEvent.isCreation : SeasonEvent → Bool
  | .seasonCreated .. => true
  | _ => false

instance : Versioned SeasonAggregate _ _ _ where
  version := SeasonAggregate.version
  eventVersion := SeasonEvent.version
  isCreation := SeasonEvent.isCreation
  dispatching
    | .create _ => .create
    | .rename cmd => .update cmd.version
    | .archive cmd => .update cmd.version
  isVersionMismatch
    | .versionMismatch .. => true
    | _ => false

namespace SeasonAggregate
attribute [scoped simp] handle create rename archive
end SeasonAggregate

open SeasonAggregate in
instance : LawfulVersioned SeasonAggregate _ _ _ := {}

/-! ### Blocks -/

/-- The version the event carries. -/
@[simp] def BlockEvent.version : BlockEvent → AggregateVersion
  | .blockCreated _ _ _ _ _ _ version | .blockTimeSpanUpdated _ _ _ version => version

/-- The event that founds a block. -/
@[simp] def BlockEvent.isCreation : BlockEvent → Bool
  | .blockCreated .. => true
  | _ => false

instance : Versioned BlockAggregate _ _ _ where
  version := BlockAggregate.version
  eventVersion := BlockEvent.version
  isCreation := BlockEvent.isCreation
  dispatching
    | .create _ => .create
    | .updateTimeSpan cmd => .update cmd.version
  isVersionMismatch
    | .versionMismatch .. => true
    | _ => false

namespace BlockAggregate
attribute [scoped simp] handle create updateTimeSpan
end BlockAggregate

open BlockAggregate in
instance : LawfulVersioned BlockAggregate _ _ _ := {}

/-! ### Episodes -/

/-- The version the event carries. -/
@[simp] def EpisodeEvent.version : EpisodeEvent → AggregateVersion
  | .episodeCreated _ _ _ _ _ version | .episodeRenamed _ _ version
  | .episodeDeleted _ version => version

/-- The event that founds an episode. -/
@[simp] def EpisodeEvent.isCreation : EpisodeEvent → Bool
  | .episodeCreated .. => true
  | _ => false

instance : Versioned EpisodeAggregate _ _ _ where
  version := EpisodeAggregate.version
  eventVersion := EpisodeEvent.version
  isCreation := EpisodeEvent.isCreation
  dispatching
    | .create _ => .create
    | .rename cmd => .update cmd.version
    | .delete _ => .free
  isVersionMismatch
    | .versionMismatch .. => true
    | _ => false

namespace EpisodeAggregate
attribute [scoped simp] handle create rename delete
end EpisodeAggregate

open EpisodeAggregate in
instance : LawfulVersioned EpisodeAggregate _ _ _ := {}

/-! ### Characters -/

/-- The version the event carries. -/
@[simp] def CharacterEvent.version : CharacterEvent → AggregateVersion
  | .characterCreated _ _ _ _ _ _ version | .measurementsUpdated _ _ version
  | .contactInfoUpdated _ _ version | .categoryChanged _ _ version
  | .characterDeleted _ version => version

/-- The event that founds a character. -/
@[simp] def CharacterEvent.isCreation : CharacterEvent → Bool
  | .characterCreated .. => true
  | _ => false

instance : Versioned CharacterAggregate _ _ _ where
  version := CharacterAggregate.version
  eventVersion := CharacterEvent.version
  isCreation := CharacterEvent.isCreation
  dispatching
    | .create _ => .create
    | .updateMeasurements cmd => .update cmd.version
    | .updateContactInfo cmd => .update cmd.version
    | .updateCategory cmd => .update cmd.version
    | .delete _ => .free
  isVersionMismatch
    | .versionMismatch .. => true
    | _ => false

namespace CharacterAggregate
attribute [scoped simp] handle create updateMeasurements updateContactInfo updateCategory delete
  mutate
end CharacterAggregate

open CharacterAggregate in
instance : LawfulVersioned CharacterAggregate _ _ _ := {}

/-! ### Costume categories -/

/-- The version the event carries. -/
@[simp] def CostumeCategoryEvent.version : CostumeCategoryEvent → AggregateVersion
  | .costumeCategoryCreated _ _ _ _ version | .costumeCategoryRenamed _ _ version
  | .costumeCategoryReordered _ _ version | .costumeCategoryArchived _ version => version

/-- The event that founds a costume category. -/
@[simp] def CostumeCategoryEvent.isCreation : CostumeCategoryEvent → Bool
  | .costumeCategoryCreated .. => true
  | _ => false

instance : Versioned CostumeCategoryAggregate _ _ _ where
  version := CostumeCategoryAggregate.version
  eventVersion := CostumeCategoryEvent.version
  isCreation := CostumeCategoryEvent.isCreation
  dispatching
    | .create _ => .create
    | .rename cmd => .update cmd.version
    | .reorder cmd => .update cmd.version
    | .archive cmd => .update cmd.version
  isVersionMismatch
    | .versionMismatch .. => true
    | _ => false

namespace CostumeCategoryAggregate
attribute [scoped simp] handle create rename reorder archive
end CostumeCategoryAggregate

open CostumeCategoryAggregate in
instance : LawfulVersioned CostumeCategoryAggregate _ _ _ := {}

/-! ### Settings -/

/-- The version the event carries. -/
@[simp] def SettingsEvent.version : SettingsEvent → AggregateVersion
  | .credentialBound _ _ _ _ version | .credentialRotated _ _ _ _ version
  | .credentialRevoked _ version => version

/-- The event that founds a credential binding. -/
@[simp] def SettingsEvent.isCreation : SettingsEvent → Bool
  | .credentialBound .. => true
  | _ => false

instance : Versioned SettingsAggregate _ _ _ where
  version := SettingsAggregate.version
  eventVersion := fun e => e.data.version
  isCreation := fun e => e.data.isCreation
  dispatching dispatch := match dispatch.command with
    | .create _ => .create
    | .rotate cmd => .update cmd.version
    | .revoke cmd => .update cmd.version
  isVersionMismatch
    | .versionMismatch .. => true
    | _ => false

theorem SettingsAggregate.entity_handle (s : SettingsAggregate) (dispatch : Dispatch SettingsCommand) :
    Entity.handle s dispatch = (s.handle dispatch.command).map
      (List.map fun data => (⟨data, some dispatch.actor⟩ : Recorded SettingsEvent)) := by
  simp only [Entity.handle]
  cases s.handle dispatch.command <;> rfl

namespace SettingsAggregate
attribute [scoped simp] handle create rotate revoke
end SettingsAggregate

open SettingsAggregate in
instance : LawfulVersioned SettingsAggregate _ _ _ where
  version_apply s e := by
    obtain ⟨data, actor⟩ := e
    cases data <;> rfl
  create_ends {dispatch} hcmd := by
    obtain ⟨actor, cmd⟩ := dispatch
    cases cmd with
    | create => simp [entity_handle, -Entity.handle]
    | _ => cases hcmd
  handle_ends {s dispatch} hcmd := by
    obtain ⟨actor, cmd⟩ := dispatch
    cases cmd with
    | create => exact absurd rfl hcmd
    | _ => simp [entity_handle, -Entity.handle]

/-! ### AI configurations -/

/-- The version the event carries. -/
@[simp] def AiConfigEvent.version : AiConfigEvent → AggregateVersion
  | .created e => e.version
  | .updated e => e.version
  | .revoked _ version => version

instance : Versioned AiConfig _ _ _ where
  version := AiConfig.version
  eventVersion := version
  isCreation := isCreated
  dispatching
    | .create _ => .create
    | .update cmd => .update cmd.version
    | .revoke cmd => .update cmd.version
  isVersionMismatch
    | .versionMismatch .. => true
    | _ => false

/-- The checks of an AI configuration's fields never answer a version mismatch. -/
theorem validateFields_ends (assistantModel vaultKeyId prompts) :
    Ends (fun _ => True) (fun err => isVersionMismatch AiConfig err = false)
      (validateFields assistantModel vaultKeyId prompts) := by
  simp [validateFields]

theorem validateDecisionConfig_ends (provider model vaultKeyId modelUnchanged) :
    Ends (fun _ => True) (fun err => isVersionMismatch AiConfig err = false)
      (validateDecisionConfig provider model vaultKeyId modelUnchanged) := by
  unfold validateDecisionConfig
  split <;> simp

namespace AiConfig
attribute [scoped simp] handle revoke create
end AiConfig

open AiConfig in
instance : LawfulVersioned AiConfig _ _ _ where
  create_ends {cmd} hcmd := by
    cases cmd with
    | create =>
      simp only [Entity.handle, handle, create, ends_bind, ends_ok]
      refine (validateFields_ends ..).mono (fun _ _ => ?_) (fun _ _ => trivial)
      refine (validateDecisionConfig_ends ..).mono (fun _ _ => ?_) (fun _ _ => trivial)
      exact ⟨_, rfl, rfl, rfl⟩
    | _ => cases hcmd
  handle_ends {s cmd} hcmd := by
    cases cmd with
    | create => exact absurd rfl hcmd
    | revoke => simp [Entity.handle, isCreated]
    | update =>
      simp only [Entity.handle, handle, update]
      split
      · simp
      · simp only [ends_bind, ends_ensure]
        refine ⟨fun _ => ⟨fun _ => ⟨fun _ => ?_, by simp⟩, by simp⟩, by simp⟩
        -- after the version check only the fields are left to complain about
        refine (validateFields_ends ..).mono (fun _ _ => ?_) (fun _ h _ => h)
        refine (validateDecisionConfig_ends ..).mono (fun _ _ => ?_) (fun _ h _ => h)
        simp [resolveUpdate, isCreated]

/-! ## §2. All of them count -/

/-- **THE DOMAIN VERSION IS THE LENGTH OF THE STREAM**, for every aggregate that has one. -/
theorem versions_count_events : VersionsCount SceneAggregate ∧ VersionsCount SceneShootAggregate ∧
    VersionsCount ShootingDayAggregate ∧ VersionsCount PieceAggregate ∧
    VersionsCount OutfitAggregate ∧ VersionsCount PhotoAggregate ∧
    VersionsCount SeasonAggregate ∧ VersionsCount BlockAggregate ∧
    VersionsCount EpisodeAggregate ∧ VersionsCount CharacterAggregate ∧
    VersionsCount CostumeCategoryAggregate ∧ VersionsCount SettingsAggregate ∧
    VersionsCount AiConfig :=
  ⟨versionsCount, versionsCount, versionsCount, versionsCount, versionsCount, versionsCount,
    versionsCount, versionsCount, versionsCount, versionsCount, versionsCount, versionsCount,
    versionsCount⟩

/-- A scene whose only character comes, gets an outfit and goes: the last command emits two events. -/
def shortScene : List SceneEvent := callAll SceneAggregate
    [.create ⟨⟨1⟩, ⟨⟨2⟩⟩, {}, .manual⟩, .assignCharacter ⟨⟨1⟩, ⟨3⟩, 1⟩,
      .addOutfitBeat ⟨⟨1⟩, ⟨3⟩, ⟨4⟩, none, 2⟩, .removeCharacter ⟨⟨1⟩, ⟨3⟩, 3⟩]

theorem founded_shortScene : Founded SceneAggregate shortScene :=
  ⟨.sceneCreated ⟨1⟩ ⟨⟨2⟩⟩ {} [] .manual 1, by decide +kernel, rfl⟩

theorem versions_count_events_shortScene :
    shortScene.length = 5 ∧ (Entity.replay SceneAggregate shortScene).version = 5 := by
  have hlength : shortScene.length = 5 := by decide +kernel
  refine ⟨hlength, ?_⟩
  rw [← hlength]
  exact versions_count_events.1.replayed (calls_callAll _).history founded_shortScene

end Breakdown
