/-
**PIECES AND OUTFITS** (`core/src/piece/`, `core/src/outfit/`).

A piece is one garment of the fundus, an outfit a composed look of one character. Both carry a
list of photos. Linking a photo a second time, or unlinking one that is not linked, is an ERROR for
a piece and a silent no-op for an outfit.

The audit-only `project_id: Option<ProjectId>` of the commands is left out.
-/
import Breakdown.EventStore.EntityActor
import Breakdown.Lib.Fallible

namespace Breakdown

open Fallible

/-! ## §1. Pieces -/

/-- A remark on a piece, about a subject if one is named. -/
structure PieceDetail where
  id : Uuid
  subject : Option String
  text : String
  deriving DecidableEq

/-- One garment, with the seasons it is worn in, its details and its photos. -/
structure PieceAggregate where
  id : Uuid := .nil
  name : String := ""
  categoryId : Option CostumeCategoryId := none
  seasons : List SeasonId := []
  notes : String := ""
  details : List PieceDetail := []
  photos : List Uuid := []
  deleted : Bool := false
  version : AggregateVersion := .initial

/-- What happens to a piece. -/
inductive PieceEvent
  | pieceCreated (id : Uuid) (name : String) (categoryId : Option CostumeCategoryId)
      (seasonId : Option Uuid) (notes : String) (details : List PieceDetail) (photos : List Uuid)
      (version : AggregateVersion)
  | pieceRenamed (id : Uuid) (name : String) (version : AggregateVersion)
  | pieceNotesUpdated (id : Uuid) (notes : String) (version : AggregateVersion)
  | pieceAddedToSeason (id : Uuid) (seasonId : Uuid) (version : AggregateVersion)
  | pieceRemovedFromSeason (id : Uuid) (seasonId : Uuid) (version : AggregateVersion)
  | pieceDetailAdded (id : Uuid) (detail : PieceDetail) (version : AggregateVersion)
  | pieceDetailUpdated (id : Uuid) (detail : PieceDetail) (version : AggregateVersion)
  | pieceDetailRemoved (id : Uuid) (detailId : Uuid) (version : AggregateVersion)
  | pieceCategorySet (id : Uuid) (categoryId : Option CostumeCategoryId)
      (version : AggregateVersion)
  | piecePhotoLinked (id : Uuid) (photoId : Uuid) (version : AggregateVersion)
  | piecePhotoUnlinked (id : Uuid) (photoId : Uuid) (version : AggregateVersion)
  | pieceDeleted (id : Uuid) (version : AggregateVersion)
  deriving DecidableEq

/-- The piece an event names. -/
def PieceEvent.id : PieceEvent → Uuid
  | .pieceCreated id .. | .pieceRenamed id .. | .pieceNotesUpdated id ..
  | .pieceAddedToSeason id .. | .pieceRemovedFromSeason id .. | .pieceDetailAdded id ..
  | .pieceDetailUpdated id .. | .pieceDetailRemoved id .. | .pieceCategorySet id ..
  | .piecePhotoLinked id .. | .piecePhotoUnlinked id .. | .pieceDeleted id _ => id

/-- Why a piece command is refused. -/
inductive PieceError
  | emptyName
  | validationError (message : String)
  | notFound (id : Uuid)
  | deleted (id : Uuid)
  | detailNotFound (id : Uuid)
  | versionMismatch (expected actual : AggregateVersion)

/-- Found a piece, in a season if one is named. -/
structure CreatePiece where
  id : Uuid
  name : String
  categoryId : Option CostumeCategoryId
  seasonId : Option SeasonId

/-- Give the piece another name. -/
structure RenamePiece where
  id : Uuid
  name : String
  version : AggregateVersion

/-- Replace the notes. -/
structure UpdatePieceNotes where
  id : Uuid
  notes : String
  version : AggregateVersion

/-- Use the piece in a season too. -/
structure AddPieceToSeason where
  id : Uuid
  seasonId : SeasonId
  version : AggregateVersion

/-- Take the piece out of a season. -/
structure RemovePieceFromSeason where
  id : Uuid
  seasonId : SeasonId
  version : AggregateVersion

/-- Add a detail, under an id of its own. -/
structure AddPieceDetail where
  id : Uuid
  detail : PieceDetail
  version : AggregateVersion

/-- Replace the texts of a detail. -/
structure UpdatePieceDetail where
  id : Uuid
  detail : PieceDetail
  version : AggregateVersion

/-- Remove a detail. -/
structure RemovePieceDetail where
  id : Uuid
  detailId : Uuid
  version : AggregateVersion

/-- Move the piece to a costume category, or to none. -/
structure SetPieceCategory where
  id : Uuid
  categoryId : Option CostumeCategoryId
  version : AggregateVersion

/-- Attach an uploaded photo. -/
structure LinkPiecePhoto where
  id : Uuid
  photoId : Uuid
  version : AggregateVersion

/-- Detach a photo. -/
structure UnlinkPiecePhoto where
  id : Uuid
  photoId : Uuid
  version : AggregateVersion

/-- Delete the piece, whatever its version. -/
structure DeletePiece where
  id : Uuid

/-- The commands of a piece. -/
inductive PieceCommand
  | create (cmd : CreatePiece)
  | rename (cmd : RenamePiece)
  | updateNotes (cmd : UpdatePieceNotes)
  | addToSeason (cmd : AddPieceToSeason)
  | removeFromSeason (cmd : RemovePieceFromSeason)
  | addDetail (cmd : AddPieceDetail)
  | updateDetail (cmd : UpdatePieceDetail)
  | removeDetail (cmd : RemovePieceDetail)
  | setCategory (cmd : SetPieceCategory)
  | linkPhoto (cmd : LinkPiecePhoto)
  | unlinkPhoto (cmd : UnlinkPiecePhoto)
  | delete (cmd : DeletePiece)

namespace PieceAggregate

variable (self : PieceAggregate)

/-- What a handler returns. -/
abbrev Handled := Except PieceError (List PieceEvent)

/-- Overwrite the first detail with the same id, or append the detail. -/
def upsertDetail (detail : PieceDetail) : List PieceDetail → List PieceDetail
  | [] => [detail]
  | existing :: rest =>
    if existing.id = detail.id then detail :: rest else existing :: upsertDetail detail rest

/-- `Apply for PieceAggregate`. -/
def apply : PieceEvent → PieceAggregate
  | .pieceDeleted _ version => { self with deleted := true, version }
  | .pieceCreated id name categoryId seasonId notes details photos version =>
    { self with
      id, name, categoryId, notes, details, photos, version
      seasons := (seasonId.map SeasonId.mk).toList }
  | .pieceRenamed _ name version => { self with name, version }
  | .pieceNotesUpdated _ notes version => { self with notes, version }
  | .pieceAddedToSeason _ seasonId version =>
    { self with
      seasons := if self.seasons.contains ⟨seasonId⟩ then self.seasons
        else self.seasons ++ [⟨seasonId⟩]
      version }
  | .pieceRemovedFromSeason _ seasonId version =>
    { self with seasons := self.seasons.filter (· ≠ ⟨seasonId⟩), version }
  | .pieceDetailAdded _ detail version => { self with details := self.details ++ [detail], version }
  | .pieceDetailUpdated _ detail version =>
    { self with details := upsertDetail detail self.details, version }
  | .pieceDetailRemoved _ detailId version =>
    { self with details := self.details.filter (·.id ≠ detailId), version }
  | .pieceCategorySet _ categoryId version => { self with categoryId, version }
  | .piecePhotoLinked _ photoId version =>
    { self with
      photos := if self.photos.contains photoId then self.photos else self.photos ++ [photoId]
      version }
  | .piecePhotoUnlinked _ photoId version =>
    { self with photos := self.photos.filter (· ≠ photoId), version }

/-- `normalize_name`. -/
def normalizeName (raw : String) : Except PieceError String :=
  if isBlank raw then .error .emptyName else .ok (trimText raw)

/-- The two checks every command but create and delete starts with. -/
def mutate (version : AggregateVersion) (body : Handled) : Handled := do
  ensure (!self.deleted) (.deleted self.id)
  ensure (version = self.version) (.versionMismatch version self.version)
  body

/-- `Command<CreatePiece>`. -/
def create (cmd : CreatePiece) : Handled := do
  ensure (!self.deleted) (.deleted self.id)
  let name ← normalizeName cmd.name
  .ok [.pieceCreated cmd.id name cmd.categoryId (cmd.seasonId.map (·.uuid)) "" [] [] .initial]

/-- `Command<RenamePiece>`: the identical name is a no-op. -/
def rename (cmd : RenamePiece) : Handled :=
  self.mutate cmd.version do
    let name ← normalizeName cmd.name
    if name = self.name then .ok [] else .ok [.pieceRenamed self.id name self.version.next]

/-- `Command<UpdatePieceNotes>`. -/
def updateNotes (cmd : UpdatePieceNotes) : Handled :=
  self.mutate cmd.version do
    ensure (cmd.notes ≠ self.notes) (.validationError "Notes unchanged")
    .ok [.pieceNotesUpdated self.id cmd.notes self.version.next]

/-- `Command<AddPieceToSeason>`. -/
def addToSeason (cmd : AddPieceToSeason) : Handled :=
  self.mutate cmd.version <|
    if self.seasons.contains cmd.seasonId then .ok []
    else .ok [.pieceAddedToSeason self.id cmd.seasonId.uuid self.version.next]

/-- `Command<RemovePieceFromSeason>`. -/
def removeFromSeason (cmd : RemovePieceFromSeason) : Handled :=
  self.mutate cmd.version <|
    if self.seasons.contains cmd.seasonId then
      .ok [.pieceRemovedFromSeason self.id cmd.seasonId.uuid self.version.next]
    else .ok []

/-- `Command<AddPieceDetail>`. -/
def addDetail (cmd : AddPieceDetail) : Handled :=
  self.mutate cmd.version (.ok [.pieceDetailAdded self.id cmd.detail self.version.next])

/-- `Command<UpdatePieceDetail>`: an unknown detail is an error, never a second detail. -/
def updateDetail (cmd : UpdatePieceDetail) : Handled :=
  self.mutate cmd.version do
    ensure (self.details.any (·.id = cmd.detail.id)) (.detailNotFound cmd.detail.id)
    .ok [.pieceDetailUpdated self.id cmd.detail self.version.next]

/-- `Command<RemovePieceDetail>`. -/
def removeDetail (cmd : RemovePieceDetail) : Handled :=
  self.mutate cmd.version do
    ensure (self.details.any (·.id = cmd.detailId)) (.detailNotFound cmd.detailId)
    .ok [.pieceDetailRemoved self.id cmd.detailId self.version.next]

/-- `Command<SetPieceCategory>`. -/
def setCategory (cmd : SetPieceCategory) : Handled :=
  self.mutate cmd.version <|
    if self.categoryId = cmd.categoryId then .ok []
    else .ok [.pieceCategorySet self.id cmd.categoryId self.version.next]

/-- `Command<LinkPiecePhoto>`. -/
def linkPhoto (cmd : LinkPiecePhoto) : Handled :=
  self.mutate cmd.version do
    ensure (!self.photos.contains cmd.photoId) (.validationError "Photo already linked")
    .ok [.piecePhotoLinked self.id cmd.photoId self.version.next]

/-- `Command<UnlinkPiecePhoto>`. -/
def unlinkPhoto (cmd : UnlinkPiecePhoto) : Handled :=
  self.mutate cmd.version do
    ensure (self.photos.contains cmd.photoId) (.validationError "Photo is not linked")
    .ok [.piecePhotoUnlinked self.id cmd.photoId self.version.next]

/-- `Command<DeletePiece>`. -/
def delete (cmd : DeletePiece) : Handled :=
  if self.deleted then .ok []
  else if self.id.isNil then .error (.notFound cmd.id)
  else .ok [.pieceDeleted self.id self.version.next]

/-- The handler of each command. -/
def handle : PieceCommand → Handled
  | .create cmd => self.create cmd
  | .rename cmd => self.rename cmd
  | .updateNotes cmd => self.updateNotes cmd
  | .addToSeason cmd => self.addToSeason cmd
  | .removeFromSeason cmd => self.removeFromSeason cmd
  | .addDetail cmd => self.addDetail cmd
  | .updateDetail cmd => self.updateDetail cmd
  | .removeDetail cmd => self.removeDetail cmd
  | .setCategory cmd => self.setCategory cmd
  | .linkPhoto cmd => self.linkPhoto cmd
  | .unlinkPhoto cmd => self.unlinkPhoto cmd
  | .delete cmd => self.delete cmd

instance : Entity PieceAggregate PieceEvent PieceCommand PieceError := { init := {}, apply, handle }

end PieceAggregate

instance : IntoDomainError PieceError where
  intoDomainError
    | .emptyName => .validation .pieceValidation "piece name must not be empty"
    | .validationError message => .validation .pieceValidation message
    | .notFound id => .notFound .pieceNotFound "piece" id
    | .deleted id => .notFound .pieceNotFound "piece" id
    | .detailNotFound id => .notFound .pieceDetailNotFound "piece-detail" id
    | .versionMismatch expected actual => .versionConflict expected actual

/-! ## §2. Outfits -/

/-- An outfit of a character: its pieces in order, and its photos. -/
structure OutfitAggregate where
  id : Uuid := .nil
  characterId : Uuid := .nil
  name : String := ""
  pieceIds : List Uuid := []
  variantOf : Option Uuid := none
  photos : List Uuid := []
  notes : String := ""
  deleted : Bool := false
  version : AggregateVersion := .initial

/-- What happens to an outfit. -/
inductive OutfitEvent
  | outfitCreated (id : Uuid) (characterId : Uuid) (name : String) (pieceIds : List Uuid)
      (photos : List Uuid) (notes : String) (version : AggregateVersion)
  | outfitVariantCreated (id : Uuid) (sourceOutfitId : Uuid) (characterId : Uuid) (name : String)
      (pieceIds : List Uuid) (photos : List Uuid) (notes : String) (version : AggregateVersion)
  | outfitRenamed (id : Uuid) (name : String) (version : AggregateVersion)
  | outfitNotesUpdated (id : Uuid) (notes : String) (version : AggregateVersion)
  | outfitPieceAdded (id : Uuid) (pieceId : Uuid) (position : Nat) (version : AggregateVersion)
  | outfitPieceRemoved (id : Uuid) (pieceId : Uuid) (version : AggregateVersion)
  | outfitPhotoLinked (id : Uuid) (photoId : Uuid) (version : AggregateVersion)
  | outfitPhotoUnlinked (id : Uuid) (photoId : Uuid) (version : AggregateVersion)
  | outfitDeleted (id : Uuid) (version : AggregateVersion)
  deriving DecidableEq

/-- The outfit an event names. -/
def OutfitEvent.id : OutfitEvent → Uuid
  | .outfitCreated id .. | .outfitVariantCreated id .. | .outfitRenamed id ..
  | .outfitNotesUpdated id .. | .outfitPieceAdded id .. | .outfitPieceRemoved id ..
  | .outfitPhotoLinked id .. | .outfitPhotoUnlinked id .. | .outfitDeleted id _ => id

/-- Why an outfit command is refused. -/
inductive OutfitError
  | emptyName
  | validationError (message : String)
  | notFound (id : Uuid)
  | deleted (id : Uuid)
  | versionMismatch (expected actual : AggregateVersion)

/-- Found an outfit with its first pieces. -/
structure CreateOutfit where
  id : Uuid
  characterId : Uuid
  name : String
  pieceIds : List Uuid

/-- Found a variant of another outfit, with its own pieces. -/
structure CreateOutfitVariant where
  id : Uuid
  sourceOutfitId : Uuid
  characterId : Uuid
  name : String
  pieceIds : List Uuid
  notes : String

/-- Give the outfit another name. -/
structure RenameOutfit where
  id : Uuid
  name : String
  version : AggregateVersion

/-- Replace the notes. -/
structure UpdateOutfitNotes where
  id : Uuid
  notes : String
  version : AggregateVersion

/-- Put a piece at the end of the outfit. -/
structure AddPieceToOutfit where
  id : Uuid
  pieceId : Uuid
  version : AggregateVersion

/-- Take a piece out of the outfit. -/
structure RemovePieceFromOutfit where
  id : Uuid
  pieceId : Uuid
  version : AggregateVersion

/-- Attach an uploaded photo. -/
structure LinkOutfitPhoto where
  id : Uuid
  photoId : Uuid
  version : AggregateVersion

/-- Detach a photo. -/
structure UnlinkOutfitPhoto where
  id : Uuid
  photoId : Uuid
  version : AggregateVersion

/-- Delete the outfit, whatever its version. -/
structure DeleteOutfit where
  id : Uuid

/-- The commands of an outfit. -/
inductive OutfitCommand
  | create (cmd : CreateOutfit)
  | createVariant (cmd : CreateOutfitVariant)
  | rename (cmd : RenameOutfit)
  | updateNotes (cmd : UpdateOutfitNotes)
  | addPiece (cmd : AddPieceToOutfit)
  | removePiece (cmd : RemovePieceFromOutfit)
  | linkPhoto (cmd : LinkOutfitPhoto)
  | unlinkPhoto (cmd : UnlinkOutfitPhoto)
  | delete (cmd : DeleteOutfit)

namespace OutfitAggregate

variable (self : OutfitAggregate)

/-- What a handler returns. -/
abbrev Handled := Except OutfitError (List OutfitEvent)

/-- `dedup_pieces`: the first occurrence of each piece, in order. -/
def dedupPieces (pieceIds : List Uuid) : List Uuid :=
  pieceIds.foldl (fun out pieceId => if out.contains pieceId then out else out ++ [pieceId]) []

/-- `Apply for OutfitAggregate`. -/
def apply : OutfitEvent → OutfitAggregate
  | .outfitDeleted _ version => { self with deleted := true, version }
  | .outfitCreated id characterId name pieceIds photos notes version =>
    { self with id, characterId, name, pieceIds, variantOf := none, photos, notes, version }
  | .outfitVariantCreated id sourceOutfitId characterId name pieceIds photos notes version =>
    { self with
      id, characterId, name, pieceIds, photos, notes, version
      variantOf := some sourceOutfitId }
  | .outfitRenamed _ name version => { self with name, version }
  | .outfitNotesUpdated _ notes version => { self with notes, version }
  | .outfitPieceAdded _ pieceId _ version =>
    { self with
      pieceIds := if self.pieceIds.contains pieceId then self.pieceIds
        else self.pieceIds ++ [pieceId]
      version }
  | .outfitPieceRemoved _ pieceId version =>
    { self with pieceIds := self.pieceIds.filter (· ≠ pieceId), version }
  | .outfitPhotoLinked _ photoId version =>
    { self with
      photos := if self.photos.contains photoId then self.photos else self.photos ++ [photoId]
      version }
  | .outfitPhotoUnlinked _ photoId version =>
    { self with photos := self.photos.filter (· ≠ photoId), version }

/-- `normalize_name`. -/
def normalizeName (raw : String) : Except OutfitError String :=
  if isBlank raw then .error .emptyName else .ok (trimText raw)

/-- The two checks every command but the creates and delete starts with. -/
def mutate (version : AggregateVersion) (body : Handled) : Handled := do
  ensure (!self.deleted) (.deleted self.id)
  ensure (version = self.version) (.versionMismatch version self.version)
  body

/-- `Command<CreateOutfit>`. -/
def create (cmd : CreateOutfit) : Handled := do
  ensure (!self.deleted) (.deleted self.id)
  let name ← normalizeName cmd.name
  .ok [.outfitCreated cmd.id cmd.characterId name (dedupPieces cmd.pieceIds) [] "" .initial]

/-- `Command<CreateOutfitVariant>`: a variant starts without the photos of its source. -/
def createVariant (cmd : CreateOutfitVariant) : Handled := do
  ensure (!self.deleted) (.deleted self.id)
  let name ← normalizeName cmd.name
  .ok [.outfitVariantCreated cmd.id cmd.sourceOutfitId cmd.characterId name
    (dedupPieces cmd.pieceIds) [] cmd.notes .initial]

/-- `Command<RenameOutfit>`. -/
def rename (cmd : RenameOutfit) : Handled :=
  self.mutate cmd.version do
    let name ← normalizeName cmd.name
    if name = self.name then .ok [] else .ok [.outfitRenamed self.id name self.version.next]

/-- `Command<UpdateOutfitNotes>`. -/
def updateNotes (cmd : UpdateOutfitNotes) : Handled :=
  self.mutate cmd.version do
    ensure (cmd.notes ≠ self.notes) (.validationError "Notes unchanged")
    .ok [.outfitNotesUpdated self.id cmd.notes self.version.next]

/-- `Command<AddPieceToOutfit>`: the position is a `u32`. -/
def addPiece (cmd : AddPieceToOutfit) : Handled :=
  self.mutate cmd.version <|
    if self.pieceIds.contains cmd.pieceId then .ok []
    else do
      ensure (self.pieceIds.length < 2 ^ 32) (.validationError "Outfit holds too many pieces")
      .ok [.outfitPieceAdded self.id cmd.pieceId self.pieceIds.length self.version.next]

/-- `Command<RemovePieceFromOutfit>`. -/
def removePiece (cmd : RemovePieceFromOutfit) : Handled :=
  self.mutate cmd.version <|
    if self.pieceIds.contains cmd.pieceId then
      .ok [.outfitPieceRemoved self.id cmd.pieceId self.version.next]
    else .ok []

/-- `Command<LinkOutfitPhoto>`: a photo that is already linked is a no-op. -/
def linkPhoto (cmd : LinkOutfitPhoto) : Handled :=
  self.mutate cmd.version <|
    if self.photos.contains cmd.photoId then .ok []
    else .ok [.outfitPhotoLinked self.id cmd.photoId self.version.next]

/-- `Command<UnlinkOutfitPhoto>`: a photo that is not linked is a no-op. -/
def unlinkPhoto (cmd : UnlinkOutfitPhoto) : Handled :=
  self.mutate cmd.version <|
    if self.photos.contains cmd.photoId then
      .ok [.outfitPhotoUnlinked self.id cmd.photoId self.version.next]
    else .ok []

/-- `Command<DeleteOutfit>`. -/
def delete (cmd : DeleteOutfit) : Handled :=
  if self.deleted then .ok []
  else if self.id.isNil then .error (.notFound cmd.id)
  else .ok [.outfitDeleted self.id self.version.next]

/-- The handler of each command. -/
def handle : OutfitCommand → Handled
  | .create cmd => self.create cmd
  | .createVariant cmd => self.createVariant cmd
  | .rename cmd => self.rename cmd
  | .updateNotes cmd => self.updateNotes cmd
  | .addPiece cmd => self.addPiece cmd
  | .removePiece cmd => self.removePiece cmd
  | .linkPhoto cmd => self.linkPhoto cmd
  | .unlinkPhoto cmd => self.unlinkPhoto cmd
  | .delete cmd => self.delete cmd

instance : Entity OutfitAggregate OutfitEvent OutfitCommand OutfitError :=
  { init := {}, apply, handle }

end OutfitAggregate

instance : IntoDomainError OutfitError where
  intoDomainError
    | .emptyName => .validation .outfitValidation "outfit name must not be empty"
    | .validationError message => .validation .outfitValidation message
    | .notFound id => .notFound .outfitNotFound "outfit" id
    | .deleted id => .notFound .outfitNotFound "outfit" id
    | .versionMismatch expected actual => .versionConflict expected actual

end Breakdown
